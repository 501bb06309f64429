import ExtTypes.Proofs.Import.Names
import ExtTypes.Proofs.Import.Statements
import Mathlib

/-! Which of the names that a scan finds a constant can have. A declaration always gives an
identifier, but it can be a reserved word; an item of a list can be any text; and the name of a default
export is made of the file's name, which can start with a digit. Main statement:
`Scanner.declarable_iff`. -/
namespace ExtTypes

/-- The words that no constant can be named. -/
def reservedWords : List String := [
  "await", "break", "case", "catch", "class", "const", "continue", "debugger", "default", "delete",
  "do", "else", "enum", "export", "extends", "false", "finally", "for", "function", "if", "import",
  "in", "instanceof", "new", "null", "return", "super", "switch", "this", "throw", "true", "try",
  "typeof", "var", "void", "while", "with", "yield"]

def isIdentifier : List Char → Bool
  | [] => false
  | c :: s => Export.isNameStart c && s.all Export.isNamePart

/-- Whether a constant can have the name. -/
def IsDeclarable (name : String) : Prop := isIdentifier name.toList = true ∧ name ∉ reservedWords

instance (name : String) : Decidable (IsDeclarable name) := inferInstanceAs (Decidable (_ ∧ _))

theorem isLower_of_mem_reservedWords {w : String} (h : w ∈ reservedWords) :
    ∀ c ∈ w.toList, c.isLower = true := by
  have hall : (reservedWords.all fun w => w.toList.all Char.isLower) = true := by decide
  exact List.all_eq_true.mp (List.all_eq_true.mp hall w h)

namespace Export

theorem Ident.isIdentifier_text (n : Ident) : isIdentifier n.text = true :=
  Bool.and_eq_true_iff.mpr ⟨n.isNameStart_first, n.isNamePart_others⟩

theorem isIdentifier_of_name? {s n rest : List Char} (h : name? s = some (n, rest)) :
    isIdentifier n = true := by
  cases s with
  | nil => cases h
  | cons c s =>
    rw [name?] at h
    split at h
    · next hc =>
      cases h
      exact Bool.and_eq_true_iff.mpr ⟨hc, List.all_takeWhile⟩
    · cases h

theorem isIdentifier_of_declaration? {s n rest : List Char}
    (h : declaration? s = some (n, rest)) : isIdentifier n = true := by
  unfold declaration? at h
  obtain ⟨t, -, h⟩ := Option.bind_eq_some_iff.mp h
  obtain ⟨t, -, h⟩ := Option.bind_eq_some_iff.mp h
  obtain ⟨t, -, h⟩ := Option.bind_eq_some_iff.mp h
  exact isIdentifier_of_name? h

/-- The names that a text declares. -/
def declaredNames (text : List Char) : List String :=
  (findAll declaration? true 0 text).map String.ofList

/-- The names of the values in the lists of a text, those of other modules left out. -/
def listedNames (text : List Char) : List String :=
  (findAll list? true 0 text).flatMap fun l =>
    if l.isForwarded then [] else (Text.fields ',' l.body).filterMap itemName?

theorem isIdentifier_of_mem_declaredNames {text : List Char} {n : String}
    (h : n ∈ declaredNames text) : isIdentifier n.toList = true := by
  obtain ⟨m, hm, rfl⟩ := List.mem_map.mp h
  obtain ⟨t, rest, hfound⟩ := exists_of_mem_findAll hm
  rw [String.toList_ofList]
  exact isIdentifier_of_declaration? hfound

/-- The symbols under these names, where a listed `default` is the default export. -/
def symbolsOf (declared listed : List String) (hasDefault : Bool) : List Symbol :=
  declared.map .named ++ listed.map itemSymbol ++ if hasDefault then [.standard] else []

/-- Whether a statement of the text is a default export. -/
def hasDefault (text : List Char) : Bool := ! (findAll default? true 0 text).isEmpty

theorem exportedSymbols_eq (text : List Char) :
    exportedSymbols text = symbolsOf (declaredNames text) (listedNames text) (hasDefault text) := by
  have hlists : (findAll list? true 0 text).flatMap listSymbols =
      (listedNames text).map itemSymbol := by
    rw [listedNames, List.map_flatMap]
    apply List.flatMap_congr
    intro l _
    unfold listSymbols
    split <;> rfl
  unfold exportedSymbols symbolsOf declaredNames hasDefault
  rw [hlists, List.map_map]
  cases (findAll default? true 0 text).isEmpty <;> rfl

theorem exportedSymbols_lines_eq (ls : List Line) :
    exportedSymbols (Text.joinWith ['\n'] (ls.map Line.text)) =
      symbolsOf (((statements ls).filterMap Statement.declared?).map Ident.name)
        (((statements ls).flatMap Statement.listed).map Ident.name)
        ((statements ls).any Statement.isStandard) := by
  rw [exportedSymbols_lines, symbolsOf, List.map_map, List.map_map]
  rfl

end Export

/-! ### The name of a default export -/

theorem isNamePart_of_isAsciiWord {c : Char} (h : isAsciiWord c = true) :
    Export.isNamePart c = true := by
  have hascii : c.toNat < 0x80 := by
    rcases Bool.or_eq_true_iff.mp h with h | h
    · exact Export.toNat_lt_of_isAlpha h
    · have hle : c.toNat ≤ '9'.toNat :=
        UInt32.le_iff_toNat_le.mp (by simpa using (Bool.and_eq_true_iff.mp h).2)
      have h9 : '9'.toNat = 57 := rfl
      omega
  have halnum : c.isAlphanum = true := h
  rw [Export.isNamePart, Text.isWord, if_pos hascii, halnum]
  rfl

theorem spec_of_mem_asciiWords {s w : List Char} (h : w ∈ asciiWords s) :
    w ≠ [] ∧ ∀ c ∈ w, isAsciiWord c = true := by
  obtain ⟨hw, hne⟩ := List.mem_filter.mp h
  refine ⟨of_decide_eq_true hne, fun c hc => ?_⟩
  obtain ⟨d, -, rfl⟩ := List.mem_map.mp (Text.mem_of_mem_fields hw hc)
  split at hc
  · next hd => rwa [if_pos hd]
  · exact absurd hc (Text.not_mem_of_mem_fields hw)

/-- A text without words has no letter and no digit of ASCII. -/
theorem asciiWords_eq_nil {s : List Char} (h : asciiWords s = []) :
    ∀ c ∈ s, isAsciiWord c = false := by
  intro c hc
  apply Bool.eq_false_iff.mpr
  intro hword
  have hmem : c ∈ s.map fun c => if isAsciiWord c then c else ' ' :=
    List.mem_map.mpr ⟨c, hc, if_pos hword⟩
  rw [← Text.joinWith_fields ' ' (s.map _)] at hmem
  rcases Text.mem_joinWith hmem with hsep | ⟨p, hp, hcp⟩
  · rw [List.mem_singleton.mp hsep] at hword
    exact absurd hword (by decide)
  · have hnone : p ∉ asciiWords s := by simp [h]
    exact hnone (List.mem_filter.mpr ⟨hp, decide_eq_true (List.ne_nil_of_mem hcp)⟩)

/-- The part of a file's name that its default export is named for: of an `index` the name of its
directory. -/
def nameStem (path : Path) : List Char :=
  let first := path.lastName.toList.takeWhile (· ≠ '.')
  if first = "index".toList then path.parent.lastName.toList else first

/-- Whether the name that is made of a file's name is one for a constant. -/
def NamesConstant (path : Path) : Prop :=
  match asciiWords (nameStem path) with
  | [] => isIdentifier (nameStem path) = true
  | w :: ws =>
    w.head?.all Char.isAlpha = true ∧ (ws = [] → String.ofList (lowerFirst w) ∉ reservedWords)

/-- A change of case turns a letter into a letter and leaves a digit. -/
theorem isAsciiWord_toUpper {c : Char} (h : isAsciiWord c = true) :
    isAsciiWord c.toUpper = true := by
  by_cases halpha : c.isAlpha = true
  · rw [isAsciiWord, Char.isAlpha_toUpper_eq_isAlpha, halpha, Bool.true_or]
  · have hlower : ¬ c.isLower = true := fun hl => halpha (Bool.or_eq_true_iff.mpr (.inr hl))
    rwa [Char.toUpper_eq_of_not_isLower hlower]

theorem isAsciiWord_toLower {c : Char} (h : isAsciiWord c = true) :
    isAsciiWord c.toLower = true := by
  by_cases halpha : c.isAlpha = true
  · rw [isAsciiWord, Char.isAlpha_toLower_eq_isAlpha, halpha, Bool.true_or]
  · have hupper : ¬ c.isUpper = true := fun hu => halpha (Bool.or_eq_true_iff.mpr (.inl hu))
    rwa [Char.toLower_eq_of_not_isUpper hupper]

/-- Of the letters and digits of ASCII, the letters start a name. -/
theorem isNameStart_toLower {c : Char} (h : isAsciiWord c = true) :
    Export.isNameStart c.toLower = c.isAlpha := by
  have hword : isAsciiWord c.toLower = true := isAsciiWord_toLower h
  have hunderscore : c.toLower ≠ '_' := by
    intro he
    rw [he] at hword
    exact absurd hword (by decide)
  have hdollar : c.toLower ≠ '$' := by
    intro he
    rw [he] at hword
    exact absurd hword (by decide)
  simp [Export.isNameStart, hunderscore, hdollar]

theorem isAsciiWord_of_mem_upperFirst {w : List Char} (hw : ∀ c ∈ w, isAsciiWord c = true) :
    ∀ c ∈ upperFirst w, isAsciiWord c = true := by
  cases w with
  | nil => exact hw
  | cons d w =>
    intro c hc
    rcases List.mem_cons.mp hc with rfl | hc
    · exact isAsciiWord_toUpper (hw d List.mem_cons_self)
    · exact hw c (List.mem_cons_of_mem d hc)

/-- Whether words run together are an identifier, is decided by their first character. -/
theorem isIdentifier_words {w : List Char} {ws : List (List Char)} (hne : w ≠ [])
    (hall : ∀ v ∈ w :: ws, ∀ c ∈ v, isAsciiWord c = true) :
    isIdentifier (lowerFirst w ++ ws.flatMap upperFirst) = w.head?.all Char.isAlpha := by
  cases w with
  | nil => exact absurd rfl hne
  | cons c w =>
    have hrest : (w ++ ws.flatMap upperFirst).all Export.isNamePart = true := by
      apply List.all_eq_true.mpr
      intro d hd
      apply isNamePart_of_isAsciiWord
      rcases List.mem_append.mp hd with hd | hd
      · exact hall _ List.mem_cons_self d (List.mem_cons_of_mem c hd)
      · obtain ⟨v, hv, hd⟩ := List.mem_flatMap.mp hd
        exact isAsciiWord_of_mem_upperFirst (hall v (List.mem_cons_of_mem _ hv)) d hd
    show (Export.isNameStart c.toLower && (w ++ ws.flatMap upperFirst).all Export.isNamePart) = _
    rw [hrest, Bool.and_true, isNameStart_toLower (hall _ List.mem_cons_self c List.mem_cons_self)]
    rfl

/-- A second word brings a character that no reserved word has. -/
theorem words_notMem_reservedWords (w : List Char) {v : List Char} {vs : List (List Char)}
    (hne : v ≠ []) :
    String.ofList (lowerFirst w ++ (v :: vs).flatMap upperFirst) ∉ reservedWords := by
  intro hmem
  cases v with
  | nil => exact hne rfl
  | cons d v =>
    have hd : d.toUpper ∈ lowerFirst w ++ ((d :: v) :: vs).flatMap upperFirst := by
      simp [upperFirst]
    have hlower := isLower_of_mem_reservedWords hmem d.toUpper (by rwa [String.toList_ofList])
    rw [Char.isLower_toUpper_eq_false] at hlower
    cases hlower

theorem exposed_standard (path : Path) : (importOf path .standard).exposed =
    if defaultName path = "" then "default" else defaultName path := rfl

theorem declarable_default_iff (path : Path) :
    IsDeclarable (importOf path .standard).exposed ↔ NamesConstant path := by
  have hname : defaultName path = match asciiWords (nameStem path) with
    | [] => String.ofList (nameStem path)
    | w :: ws => String.ofList (lowerFirst w ++ ws.flatMap upperFirst) := rfl
  rw [exposed_standard, hname, NamesConstant]
  cases hwords : asciiWords (nameStem path) with
  | nil =>
    have hnone := asciiWords_eq_nil hwords
    dsimp only
    cases hstem : nameStem path with
    | nil => decide
    | cons c s =>
      rw [if_neg (by simp), IsDeclarable, String.toList_ofList]
      apply and_iff_left
      intro hmem
      -- a reserved word is made of letters
      have hlower := isLower_of_mem_reservedWords hmem c (by simp)
      have hc := hnone c (by simp [hstem])
      rw [isAsciiWord, Char.isAlpha, hlower, Bool.or_true, Bool.true_or] at hc
      cases hc
  | cons w ws =>
    have hspec (v : List Char) (hv : v ∈ w :: ws) := spec_of_mem_asciiWords (hwords ▸ hv)
    have hne : w ≠ [] := (hspec w List.mem_cons_self).1
    dsimp only
    rw [if_neg (by cases w <;> simp_all [lowerFirst]), IsDeclarable, String.toList_ofList,
      isIdentifier_words hne fun v hv => (hspec v hv).2]
    apply and_congr_right
    intro _
    cases ws with
    | nil => simp
    | cons v vs =>
      have hv : v ≠ [] := (hspec v (by simp)).1
      simpa using words_notMem_reservedWords w hv

/-! ### All names of a file -/

/-- What the names of a file have to avoid, so that each import can be a constant: the names that are
declared, those in its lists, and the name of its default export. -/
structure Nameable (path : Path) (declared listed : List String) (hasDefault : Bool) : Prop where
  free_declared : ∀ n ∈ declared, n ∉ reservedWords
  free_listed : ∀ n ∈ listed, n = "default" ∨ n ∉ reservedWords
  named_default : hasDefault = true ∨ "default" ∈ listed → NamesConstant path

theorem declarable_item_iff (path : Path) (n : String) :
    IsDeclarable (importOf path (Export.itemSymbol n)).exposed ↔
      isIdentifier n.toList = true ∧ (n = "default" ∨ n ∉ reservedWords) ∧
        (n = "default" → NamesConstant path) := by
  by_cases hn : n = "default"
  · subst hn
    have hdefault : isIdentifier "default".toList = true := by decide
    rw [Export.itemSymbol, if_pos rfl, declarable_default_iff, hdefault]
    simp
  · rw [Export.itemSymbol, if_neg hn]
    show IsDeclarable n ↔ _
    simp [hn, IsDeclarable]

theorem declarable_symbolsOf_iff (path : Path) {declared : List String} (listed : List String)
    (hasDefault : Bool) (hdeclared : ∀ n ∈ declared, isIdentifier n.toList = true) :
    (∀ s ∈ Export.symbolsOf declared listed hasDefault, IsDeclarable (importOf path s).exposed) ↔
      Nameable path declared listed hasDefault ∧ ∀ n ∈ listed, isIdentifier n.toList = true := by
  unfold Export.symbolsOf
  rw [List.forall_mem_append, List.forall_mem_append, List.forall_mem_map, List.forall_mem_map]
  simp only [declarable_item_iff]
  constructor
  · rintro ⟨⟨hnamed, hitems⟩, hlast⟩
    refine ⟨⟨fun n hn => (hnamed n hn).2, fun n hn => (hitems n hn).2.1, ?_⟩,
      fun n hn => (hitems n hn).1⟩
    rintro (rfl | hn)
    · exact (declarable_default_iff path).mp (hlast _ (List.mem_singleton_self _))
    · exact (hitems _ hn).2.2 rfl
  · rintro ⟨h, hidentifiers⟩
    refine ⟨⟨fun n hn => ⟨hdeclared n hn, h.free_declared n hn⟩, fun n hn => ?_⟩, fun s hs => ?_⟩
    · exact ⟨hidentifiers n hn, h.free_listed n hn, fun he => h.named_default (.inr (he ▸ hn))⟩
    · cases hasDefault with
      | false => cases hs
      | true =>
        obtain rfl := List.mem_singleton.mp hs
        exact (declarable_default_iff path).mpr (h.named_default (.inl rfl))

namespace Scanner

open Export

/-- All that is found in a file can be declared if and only if no name that is declared or listed is a
reserved word, each item of a list is an identifier, and the file's name makes a name for its default
export. Where each export statement has a line of its own, items are identifiers anyway. -/
theorem declarable_iff {files : FileSystem} {path : Path} {is : List Import}
    (h : scanFile files path = .ok is) :
    ∃ text, files.readText [] path = .ok text ∧
      ((∀ i ∈ is, IsDeclarable i.exposed) ↔
        Nameable path (declaredNames text.toList) (listedNames text.toList)
            (hasDefault text.toList) ∧
          ∀ n ∈ listedNames text.toList, isIdentifier n.toList = true) ∧
      ∀ ls : List Line, Text.fields '\n' text.toList = ls.map Line.text →
        ((∀ i ∈ is, IsDeclarable i.exposed) ↔
          Nameable path (((statements ls).filterMap Statement.declared?).map Ident.name)
            (((statements ls).flatMap Statement.listed).map Ident.name)
            ((statements ls).any Statement.isStandard)) := by
  unfold scanFile at h
  cases hread : files.readText [] path with
  | error e =>
    rw [hread] at h
    cases h
  | ok text =>
    rw [hread] at h
    cases h
    refine ⟨text, rfl, ?_, fun ls hlines => ?_⟩
    · rw [importsOf, exportedSymbols_eq, List.forall_mem_map]
      exact declarable_symbolsOf_iff path _ _ fun n => isIdentifier_of_mem_declaredNames
    · have htext : text.toList = Text.joinWith ['\n'] (ls.map Line.text) := by
        rw [← hlines, Text.joinWith_fields]
      have hident (ns : List Ident) : ∀ n ∈ ns.map Ident.name, isIdentifier n.toList = true := by
        rw [List.forall_mem_map]
        intro n _
        rw [Ident.name, String.toList_ofList]
        exact n.isIdentifier_text
      rw [importsOf, htext, exportedSymbols_lines_eq, List.forall_mem_map,
        declarable_symbolsOf_iff path _ _ (hident _)]
      exact and_iff_left (hident _)

/-- A disk with one file. -/
def oneFile (name : Name) (text : String) : FileSystem :=
  FileSystem.empty.writeFile [name] text.toUTF8

def counterLines : List Line := [
  .statement noGap (.declaration blank none none ⟨"const", by decide⟩ blank
    ⟨'n', ['o'], by decide, by decide⟩) " = 1".toList (by decide) (by decide),
  .statement noGap (.standard blank) " no".toList (by decide) (by decide)]

/-- The names in a file with a declaration and a default export can be declared. -/
theorem declarable_iff_counter : ∃ is,
    scanFile (oneFile ⟨"use-counter.ts", by decide⟩ "export const no = 1\nexport default no")
        (Path.ofString "/use-counter.ts") = .ok is ∧
      is.map Import.exposed = ["no", "useCounter"] ∧ ∀ i ∈ is, IsDeclarable i.exposed := by
  have hscan : scanFile (oneFile ⟨"use-counter.ts", by decide⟩
      "export const no = 1\nexport default no") (Path.ofString "/use-counter.ts") = .ok [
        ⟨"no", "/use-counter.ts", none⟩, ⟨"default", "/use-counter.ts", some "useCounter"⟩] := by
    decide +kernel
  have htext : (oneFile ⟨"use-counter.ts", by decide⟩
      "export const no = 1\nexport default no").readText [] (Path.ofString "/use-counter.ts") =
        .ok "export const no = 1\nexport default no" := by
    decide +kernel
  have hfields : Text.fields '\n' "export const no = 1\nexport default no".toList =
      counterLines.map Line.text := by
    decide
  obtain ⟨text, hread, -, hlines⟩ := declarable_iff hscan
  obtain rfl := Except.ok.inj (htext.symm.trans hread)
  refine ⟨_, hscan, by decide, (hlines counterLines hfields).mpr ⟨?_, ?_, fun _ => ?_⟩⟩
  · decide
  · decide
  · show ['u', 's', 'e'].head?.all Char.isAlpha = true ∧ _
    decide

/-- The name of a constant enumeration is not the one that is read, a comment in a list counts as part
of a name, and a file's name can start with a digit. -/
theorem scanFile_undeclarable :
    (scanFile (oneFile ⟨"kind.ts", by decide⟩ "export const enum Kind \x7b Plain \x7d\n")
        (Path.ofString "/kind.ts") = .ok [⟨"enum", "/kind.ts", none⟩] ∧
      ¬ IsDeclarable (⟨"enum", "/kind.ts", none⟩ : Import).exposed) ∧
    (scanFile (oneFile ⟨"sum.ts", by decide⟩ "export \x7b add, // of two numbers\n  sum \x7d\n")
        (Path.ofString "/sum.ts") =
          .ok [⟨"add", "/sum.ts", none⟩, ⟨"// of two numbers\n  sum", "/sum.ts", none⟩] ∧
      ¬ IsDeclarable (⟨"// of two numbers\n  sum", "/sum.ts", none⟩ : Import).exposed) ∧
    (scanFile (oneFile ⟨"404.ts", by decide⟩ "export default 1\n") (Path.ofString "/404.ts") =
        .ok [⟨"default", "/404.ts", some "404"⟩] ∧
      ¬ IsDeclarable (⟨"default", "/404.ts", some "404"⟩ : Import).exposed) := by
  refine ⟨⟨?_, ?_⟩, ⟨?_, ?_⟩, ?_, ?_⟩ <;> decide +kernel

end Scanner

end ExtTypes

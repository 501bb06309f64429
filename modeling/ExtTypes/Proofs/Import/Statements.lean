import ExtTypes.Import.Scanner
import ExtTypes.Proofs.Import.Reading

/-! Texts whose export statements have a line each. A reader goes through such a text line by line
and takes the statements of its kind, each once and in order: `Export.findAll_lines`. Main statement:
`Scanner.scanFile_of_lines`. -/
namespace ExtTypes

namespace Export

/-- A line without a statement, or with one that may be indented and what follows it there. -/
inductive Line
  | other (chars : List Char) (inLine : '\n' ∉ chars)
      (noExport : ¬ "export".toList <+: dropBlanks chars)
  | statement (indent : Gap) (st : Statement) (rest : List Char) (inLine : '\n' ∉ rest)
      (isEnded : st.isEndedBy rest = true)

namespace Line

def text : Line → List Char
  | other chars _ _ => chars
  | statement indent st rest _ _ => indent.chars ++ (st.text ++ rest)

def statement? : Line → Option Statement
  | other .. => none
  | statement _ st _ _ _ => some st

theorem newline_notMem_text (l : Line) : '\n' ∉ l.text := by
  cases l with
  | other chars inLine noExport => exact inLine
  | statement indent st rest inLine isEnded =>
    simp only [text, List.mem_append, indent.newline_notMem, st.newline_notMem_text, inLine,
      or_self, not_false_eq_true]

end Line

/-- Nothing, or what starts with the end of a line. -/
def IsLineEnd (t : List Char) : Prop := ∀ c ∈ t.head?, c = '\n'

theorem Statement.isEndedBy_append {st : Statement} {s t : List Char} (h : st.isEndedBy s = true)
    (ht : IsLineEnd t) : st.isEndedBy (s ++ t) = true := by
  have hname : (! isNamePart '\n') = true := by decide
  have hword : (! Text.isWord '\n') = true := by decide
  cases s with
  -- what follows on the line decides
  | cons c s =>
    cases st with
    | declaration space declare async keyword gap n => exact h
    | list before items after isForwarded => cases isForwarded <;> exact h
    | standard space => exact h
  | nil =>
    cases t with
    | nil => exact h
    | cons c t =>
      obtain rfl : c = '\n' := ht c rfl
      -- a list of the file's own must have its semicolon, the others can end with the line
      cases st with
      | declaration space declare async keyword gap n => exact hname
      | list before items after isForwarded =>
        cases isForwarded with
        | false => cases h
        | true => exact hword
      | standard space => exact hword

/-- No word goes beyond its line. -/
theorem prefix_of_append {w u t : List Char} (hw : '\n' ∉ w) (ht : IsLineEnd t) (h : w <+: u ++ t) :
    w <+: u := by
  rcases List.prefix_or_prefix_of_prefix h (List.prefix_append u t) with hwu | ⟨v, rfl⟩
  · exact hwu
  · cases v with
    | nil => simp
    | cons c v =>
      have hv : c :: v <+: t := (List.prefix_append_right_inj u).mp h
      obtain ⟨s, rfl⟩ := hv
      have hc : c = '\n' := ht c rfl
      exact absurd (hc ▸ List.mem_append_right u List.mem_cons_self) hw

theorem start?_eq_none {s t : List Char} (hvisible : ¬ ∀ c ∈ s, Text.isBlank c = true)
    (hno : ¬ "export".toList <+: dropBlanks s) (ht : IsLineEnd t) : start? (s ++ t) = none := by
  have hne : (s.dropWhile Text.isBlank).isEmpty = false := by
    simpa [List.isEmpty_iff, List.dropWhile_eq_nil_iff] using hvisible
  have hdrop : dropBlanks (s ++ t) = dropBlanks s ++ t := by
    unfold dropBlanks
    rw [List.dropWhile_append, hne]
    rfl
  rw [start?, hdrop, word?, Text.dropInitial?, if_neg]
  intro hpre
  exact hno (prefix_of_append (by decide) ht hpre)

section

variable {α : Type} {m : List Char → Option (α × List Char)} {f : Statement → Option α}

/-- Whether the next character starts a line, after a text that started one or not. -/
def startsLine (b : Bool) (p : List Char) : Bool := p.foldl (fun _ c => decide (c = '\n')) b

theorem startsLine_append (b : Bool) (p q : List Char) :
    startsLine b (p ++ q) = startsLine (startsLine b p) q :=
  List.foldl_append

theorem startsLine_of_notMem {p : List Char} (h : '\n' ∉ p) : startsLine false p = false := by
  induction p with
  | nil => rfl
  | cons c p ih =>
    obtain ⟨hc, hp⟩ := not_or.mp (mt List.mem_cons.mpr h)
    have hfirst : decide (c = '\n') = false := decide_eq_false (Ne.symm hc)
    show startsLine (decide (c = '\n')) p = false
    rw [hfirst]
    exact ih hp

/-- What was found is passed over. -/
theorem findAll_skip (b : Bool) (p s : List Char) :
    findAll m b p.length (p ++ s) = findAll m (startsLine b p) 0 s := by
  induction p generalizing b with
  | nil => rfl
  | cons c p ih => exact ih (decide (c = '\n'))

theorem findAll_take {p s : List Char} {a : α} (hp : p ≠ []) (h : m (p ++ s) = some (a, s)) :
    findAll m true 0 (p ++ s) = a :: findAll m (startsLine true p) 0 s := by
  cases p with
  | nil => exact absurd rfl hp
  | cons c p =>
    -- the reader tells what it took by what it leaves
    have hlength : (p ++ s).length - s.length = p.length := by simp
    rw [List.cons_append] at h
    rw [List.cons_append, findAll, if_pos rfl, h]
    dsimp only
    rw [hlength, findAll_skip]
    rfl

/-- Where nothing is found, the search goes on. -/
theorem findAll_miss (b : Bool) {p s : List Char} (h : ∀ q, q ≠ [] → q <:+ p → m (q ++ s) = none) :
    findAll m b 0 (p ++ s) = findAll m (startsLine b p) 0 s := by
  induction p generalizing b with
  | nil => rfl
  | cons c p ih =>
    have hfirst : m (c :: (p ++ s)) = none := h (c :: p) (List.cons_ne_nil c p) List.suffix_rfl
    have hrest := ih (decide (c = '\n')) fun q hq hqp => h q hq (hqp.trans (List.suffix_cons c p))
    rw [List.cons_append, findAll, hfirst, ite_self]
    exact hrest

theorem findAll_inLine {p : List Char} (h : '\n' ∉ p) (s : List Char) :
    findAll m false 0 (p ++ s) = findAll m false 0 s := by
  induction p with
  | nil => rfl
  | cons c p ih =>
    obtain ⟨hc, hp⟩ := not_or.mp (mt List.mem_cons.mpr h)
    have hfirst : decide (c = '\n') = false := decide_eq_false (Ne.symm hc)
    rw [List.cons_append, findAll, hfirst]
    exact ih hp

/-- The reader takes the statements for which `f` has a value, and no others. -/
structure Reads (m : List Char → Option (α × List Char)) (f : Statement → Option α) : Prop where
  of_start : ∀ {s}, start? s = none → m s = none
  of_blanks : ∀ {b}, (∀ c ∈ b, Text.isBlank c = true) → ∀ s, m (b ++ s) = m s
  of_text : ∀ {st s}, Statement.isEndedBy st s = true → m (st.text ++ s) = (f st).map (·, s)

theorem Reads.nil (hm : Reads m f) {b : List Char} (h : ∀ c ∈ b, Text.isBlank c = true) :
    m b = none := by
  have hstart : start? [] = none := rfl
  rw [← List.append_nil b, hm.of_blanks h, hm.of_start hstart]

/-- Lines of blanks before a text. -/
structure BlankLines where
  chars : List Char
  isBlank : ∀ c ∈ chars, Text.isBlank c = true
  startsLine : startsLine true chars = true

theorem findAll_line_none (hm : Reads m f) (b : BlankLines) {p t : List Char} (hp : p ≠ [])
    (hline : '\n' ∉ p) (h : m (p ++ t) = none) :
    findAll m true 0 (b.chars ++ (p ++ t)) = findAll m false 0 t := by
  -- from a blank line the reader would come to the same statement, if there were one
  have hblank : ∀ q, q ≠ [] → q <:+ b.chars → m (q ++ (p ++ t)) = none := by
    intro q _ hq
    rw [hm.of_blanks (fun c hc => b.isBlank c (hq.subset hc))]
    exact h
  rw [findAll_miss true hblank, b.startsLine]
  cases p with
  | nil => exact absurd rfl hp
  | cons c p =>
    obtain ⟨hc, hp⟩ := not_or.mp (mt List.mem_cons.mpr hline)
    have hfirst : decide (c = '\n') = false := decide_eq_false (Ne.symm hc)
    rw [List.cons_append] at h
    rw [List.cons_append, findAll, if_pos rfl, h, hfirst]
    exact findAll_inLine hp t

theorem findAll_line_some (hm : Reads m f) (b : BlankLines) (indent : Gap) {st : Statement}
    {rest t : List Char} {a : α} (hline : '\n' ∉ rest) (hended : st.isEndedBy rest = true)
    (ht : IsLineEnd t) (h : f st = some a) :
    findAll m true 0 (b.chars ++ (indent.chars ++ (st.text ++ (rest ++ t)))) =
      a :: findAll m false 0 t := by
  -- what is found begins with the first of the blank lines
  let p := b.chars ++ indent.chars ++ st.text
  have hblanks : ∀ c ∈ b.chars ++ indent.chars, Text.isBlank c = true := by
    intro c hc
    rcases List.mem_append.mp hc with hc | hc
    · exact b.isBlank c hc
    · exact indent.isBlank c hc
  have hm' : m (p ++ (rest ++ t)) = some (a, rest ++ t) := by
    show m (b.chars ++ indent.chars ++ st.text ++ (rest ++ t)) = _
    have hended' : st.isEndedBy (rest ++ t) = true := Statement.isEndedBy_append hended ht
    rw [List.append_assoc, hm.of_blanks hblanks, hm.of_text hended', h]
    rfl
  have hp : p ≠ [] := List.append_ne_nil_of_right_ne_nil _ st.text_ne_nil
  -- the statement ends within its line
  have hends : startsLine true p = false := by
    have htail : '\n' ∉ st.text.tail := fun hc => st.newline_notMem_text (List.mem_of_mem_tail hc)
    show startsLine true (b.chars ++ indent.chars ++ st.text) = false
    rw [startsLine_append, st.text_eq_cons]
    exact startsLine_of_notMem htail
  have hsplit : b.chars ++ (indent.chars ++ (st.text ++ (rest ++ t))) = p ++ (rest ++ t) := by
    simp [p]
  rw [hsplit, findAll_take hp hm', hends, findAll_inLine hline]

theorem findAll_line (hm : Reads m f) (b : BlankLines) {l : Line}
    (hl : ¬ ∀ c ∈ l.text, Text.isBlank c = true) {t : List Char} (ht : IsLineEnd t) :
    findAll m true 0 (b.chars ++ (l.text ++ t)) =
      (l.statement?.bind f).toList ++ findAll m false 0 t := by
  have hne : l.text ≠ [] := by
    intro hnil
    apply hl
    simp [hnil]
  have hline := l.newline_notMem_text
  cases l with
  | other chars inLine noExport =>
    exact findAll_line_none hm b hne hline (hm.of_start (start?_eq_none hl noExport ht))
  | statement indent st rest inLine isEnded =>
    show findAll m true 0 (b.chars ++ ((indent.chars ++ (st.text ++ rest)) ++ t)) =
      (f st).toList ++ findAll m false 0 t
    cases hf : f st with
    | none =>
      apply findAll_line_none hm b hne hline
      show m ((indent.chars ++ (st.text ++ rest)) ++ t) = none
      rw [List.append_assoc, List.append_assoc, hm.of_blanks indent.isBlank,
        hm.of_text (Statement.isEndedBy_append isEnded ht), hf]
      rfl
    | some a =>
      rw [List.append_assoc, List.append_assoc]
      exact findAll_line_some hm b indent inLine isEnded ht hf

theorem findAll_blank (hm : Reads m f) {p : List Char} (h : ∀ c ∈ p, Text.isBlank c = true) :
    findAll m true 0 p = [] := by
  have hnone : ∀ q, q ≠ [] → q <:+ p → m (q ++ []) = none := by
    intro q _ hq
    rw [List.append_nil]
    exact hm.nil fun c hc => h c (hq.subset hc)
  have hmiss := findAll_miss true hnone
  rw [List.append_nil] at hmiss
  rw [hmiss, findAll]

namespace BlankLines

def empty : BlankLines := ⟨[], by simp, rfl⟩

/-- The blanks before a line that is blank, with this line. -/
def snoc (b : BlankLines) (p : List Char) (h : ∀ c ∈ p, Text.isBlank c = true) : BlankLines where
  chars := b.chars ++ (p ++ ['\n'])
  isBlank := by
    have hnewline : Text.isBlank '\n' = true := by decide
    intro c hc
    rcases List.mem_append.mp hc with hc | hc
    · exact b.isBlank c hc
    · rcases List.mem_append.mp hc with hc | hc
      · exact h c hc
      · exact List.mem_singleton.mp hc ▸ hnewline
  startsLine := by
    rw [startsLine_append, startsLine_append]
    rfl

end BlankLines

theorem Line.statement?_of_blank {l : Line} (h : ∀ c ∈ l.text, Text.isBlank c = true) :
    l.statement? = none := by
  cases l with
  | other chars inLine noExport => rfl
  | statement indent st rest inLine isEnded =>
    have he : 'e' ∈ st.text := st.text_eq_cons ▸ List.mem_cons_self
    have hline : 'e' ∈ indent.chars ++ (st.text ++ rest) :=
      List.mem_append_right _ (List.mem_append_left _ he)
    exact absurd (h 'e' hline) (by decide)

/-- The first of some lines, and what follows it. -/
theorem joinWith_lines (l : Line) (ls : List Line) : ∃ t,
    Text.joinWith ['\n'] ((l :: ls).map Line.text) = l.text ++ t ∧
      (ls = [] ∧ t = [] ∨ t = '\n' :: Text.joinWith ['\n'] (ls.map Line.text)) := by
  cases ls with
  | nil => exact ⟨[], by simp [Text.joinWith], .inl ⟨rfl, rfl⟩⟩
  | cons k ks => exact ⟨_, by simp [Text.joinWith], .inr rfl⟩

theorem filterMap_cons (f : Statement → Option α) (l : Line) (ls : List Line) :
    ((l :: ls).filterMap Line.statement?).filterMap f =
      (l.statement?.bind f).toList ++ (ls.filterMap Line.statement?).filterMap f := by
  cases hst : l.statement? with
  | none =>
    rw [List.filterMap_cons_none hst]
    rfl
  | some st =>
    rw [List.filterMap_cons_some hst, Option.bind_some]
    cases hf : f st with
    | none =>
      rw [List.filterMap_cons_none hf]
      rfl
    | some a =>
      rw [List.filterMap_cons_some hf]
      rfl

/-- A reader finds on each line the statement that stands there. -/
theorem findAll_lines (hm : Reads m f) (b : BlankLines) (ls : List Line) :
    findAll m true 0 (b.chars ++ Text.joinWith ['\n'] (ls.map Line.text)) =
      (ls.filterMap Line.statement?).filterMap f := by
  -- the blank lines since the last one that is not blank belong to the next statement
  induction ls generalizing b with
  | nil =>
    show findAll m true 0 (b.chars ++ []) = []
    rw [List.append_nil]
    exact findAll_blank hm b.isBlank
  | cons l ls ih =>
    obtain ⟨t, ht, htail⟩ := joinWith_lines l ls
    rw [ht]
    by_cases hl : ∀ c ∈ l.text, Text.isBlank c = true
    · rw [List.filterMap_cons_none (Line.statement?_of_blank hl)]
      rcases htail with ⟨rfl, rfl⟩ | rfl
      · apply findAll_blank hm
        intro c hc
        rw [List.append_nil] at hc
        rcases List.mem_append.mp hc with hc | hc
        · exact b.isBlank c hc
        · exact hl c hc
      · have hrest := ih (b.snoc l.text hl)
        simpa [BlankLines.snoc] using hrest
    · have hend : IsLineEnd t := by
        rcases htail with ⟨-, rfl⟩ | rfl <;> simp [IsLineEnd]
      have hrest : findAll m false 0 t = (ls.filterMap Line.statement?).filterMap f := by
        rcases htail with ⟨rfl, rfl⟩ | rfl
        · rfl
        · exact ih .empty
      rw [findAll_line hm b hl hend, hrest, filterMap_cons]

end

theorem reads_declaration : Reads declaration? fun st => st.declared?.map Ident.text where
  of_start h := by
    rw [declaration?, h]
    rfl
  of_blanks h s := by rw [declaration?, declaration?, start?_append h]
  of_text h := by
    rw [declaration?_text _ h, Option.map_map]
    rfl

theorem reads_list : Reads list? Statement.nameList? where
  of_start h := by
    rw [list?, h]
    rfl
  of_blanks h s := by rw [list?, list?, start?_append h]
  of_text h := list?_text _ h

theorem reads_default : Reads default? fun st => if st.isStandard then some () else none where
  of_start h := by
    rw [default?, h]
    rfl
  of_blanks h s := by rw [default?, default?, start?_append h]
  of_text {st s} h := by
    rw [default?_text _ h]
    cases st.isStandard <;> rfl

theorem listSymbols_items (items : List Item) (isForwarded : Bool) :
    listSymbols ⟨Text.joinWith [','] (items.map Item.text), isForwarded⟩ =
      if isForwarded then []
      else (items.filterMap Item.exported?).map fun n => itemSymbol n.name := by
  have hnames : (Text.fields ',' (Text.joinWith [','] (items.map Item.text))).filterMap itemName? =
      (items.filterMap Item.exported?).map Ident.name := by
    cases items with
    | nil => rfl
    | cons i is =>
      have hne : (i :: is).map Item.text ≠ [] := List.cons_ne_nil _ _
      have hcomma : ∀ p ∈ (i :: is).map Item.text, ',' ∉ p := by
        intro p hp
        obtain ⟨j, -, rfl⟩ := List.mem_map.mp hp
        exact j.notMem_text (by decide) (.inl (by decide))
      have hitem : itemName? ∘ Item.text = fun j => j.exported?.map Ident.name :=
        funext itemName?_text
      rw [Text.fields_joinWith hne hcomma, List.filterMap_map, List.map_filterMap, hitem]
  unfold listSymbols
  cases isForwarded with
  | true => rfl
  | false =>
    show ((Text.fields ',' _).filterMap itemName?).map itemSymbol = _
    rw [hnames, List.map_map]
    rfl

theorem flatMap_listSymbols (sts : List Statement) :
    (sts.filterMap Statement.nameList?).flatMap listSymbols =
      (sts.flatMap Statement.listed).map fun n => itemSymbol n.name := by
  induction sts with
  | nil => rfl
  | cons st sts ih =>
    rw [List.flatMap_cons, List.map_append, ← ih]
    cases st with
    | declaration space declare async keyword gap n => rfl
    | standard space => rfl
    | list before items after isForwarded =>
      show listSymbols _ ++ _ = _
      rw [listSymbols_items]
      cases isForwarded <;> rfl

theorem isEmpty_filterMap_isStandard (sts : List Statement) :
    (sts.filterMap fun st => if st.isStandard then some () else none).isEmpty =
      ! sts.any Statement.isStandard := by
  induction sts with
  | nil => rfl
  | cons st sts ih =>
    cases h : st.isStandard with
    | true => simp [h]
    | false => simpa [h] using ih

def statements (ls : List Line) : List Statement := ls.filterMap Line.statement?

/-- What is exported by a text whose export statements have a line each. -/
theorem exportedSymbols_lines (ls : List Line) :
    exportedSymbols (Text.joinWith ['\n'] (ls.map Line.text)) =
      ((statements ls).filterMap Statement.declared?).map (fun n => .named n.name) ++
        ((statements ls).flatMap Statement.listed).map (fun n => itemSymbol n.name) ++
        if (statements ls).any Statement.isStandard then [.standard] else [] := by
  have hdeclared := findAll_lines reads_declaration .empty ls
  have hlisted := findAll_lines reads_list .empty ls
  have hdefault := findAll_lines reads_default .empty ls
  rw [BlankLines.empty, List.nil_append] at hdeclared hlisted hdefault
  have hnames : ((statements ls).filterMap fun st => st.declared?.map Ident.text).map
      (fun n => Symbol.named (String.ofList n)) =
        ((statements ls).filterMap Statement.declared?).map fun n => .named n.name := by
    rw [List.map_filterMap, List.map_filterMap]
    simp only [Option.map_map]
    rfl
  unfold exportedSymbols
  rw [hdeclared, hlisted, hdefault, ← statements, hnames, flatMap_listSymbols,
    isEmpty_filterMap_isStandard]
  cases (statements ls).any Statement.isStandard <;> rfl

end Export

namespace Scanner

open Export

/-- The imports of a file with at most one export statement on each line, in a form of the grammar:
the names that are declared, then the names in its own lists, each in the order of the lines, and the
default export at last, if some line has one. -/
theorem scanFile_of_lines {files : FileSystem} {path : Path} {text : String} {ls : List Line}
    (hread : files.readText [] path = .ok text)
    (hlines : Text.fields '\n' text.toList = ls.map Line.text) :
    scanFile files path = .ok (
      ((statements ls).filterMap Statement.declared?).map
          (fun n => ⟨n.name, slashed path.text, none⟩) ++
        ((statements ls).flatMap Statement.listed).map (fun n =>
          if n.name = "default" then ⟨"default", slashed path.text, some (defaultName path)⟩
          else ⟨n.name, slashed path.text, none⟩) ++
        if (statements ls).any Statement.isStandard then
          [⟨"default", slashed path.text, some (defaultName path)⟩]
        else []) := by
  have htext : text.toList = Text.joinWith ['\n'] (ls.map Line.text) := by
    rw [← hlines, Text.joinWith_fields]
  have hitem : (importOf path ∘ fun n : Ident => itemSymbol n.name) = fun n =>
      if n.name = "default" then ⟨"default", slashed path.text, some (defaultName path)⟩
      else ⟨n.name, slashed path.text, none⟩ := by
    funext n
    show importOf path (itemSymbol n.name) = _
    unfold itemSymbol
    split <;> rfl
  rw [scanFile, hread]
  show Except.ok (importsOf path text) = _
  rw [importsOf, htext, exportedSymbols_lines, List.map_append, List.map_append, List.map_map,
    List.map_map, hitem]
  congr 2
  split <;> rfl

/-- A blank between two words. -/
def blank : Space := ⟨⟨[' '], by decide⟩, by decide⟩

def noGap : Gap := ⟨[], by decide⟩

/-- A source text with each kind of line, one of them without a statement. -/
def sampleLines : List Line := [
  .statement noGap (.declaration blank none (some blank) ⟨"function", by decide⟩ blank
    ⟨'l', "oad".toList, by decide, by decide⟩) "() \x7b\x7d".toList (by decide) (by decide),
  .other [] (by decide) (by decide),
  .statement blank.toGap (.list blank.toGap
    [.renamed blank.toGap ⟨'a', [], by decide, by decide⟩ ⟨'b', [], by decide, by decide⟩ noGap
        (by decide),
      .type blank.toGap noGap ⟨'T', [], by decide, by decide⟩ noGap,
      .renamed blank.toGap ⟨'c', [], by decide, by decide⟩
        ⟨'d', "efault".toList, by decide, by decide⟩ blank.toGap (by decide)]
    noGap false) [';'] (by decide) (by decide),
  .statement noGap (.list blank.toGap [.plain noGap ⟨'x', [], by decide, by decide⟩ noGap]
    blank.toGap true) " 'x';".toList (by decide) (by decide),
  .statement noGap (.standard blank) " load".toList (by decide) (by decide)]

def sampleText : String :=
  "export async function load() \x7b\x7d\n\n export \x7b a as b, type T, c as default \x7d;\n" ++
    "export \x7bx\x7d from 'x';\nexport default load"

/-- A disk with one file, which has this text. -/
def sampleDisk : FileSystem :=
  FileSystem.empty.writeFile [⟨"use-load.ts", by decide⟩] sampleText.toUTF8

theorem scanFile_of_lines_sample :
    sampleDisk.readText [] (Path.ofString "/use-load.ts") = .ok sampleText ∧
      Text.fields '\n' sampleText.toList = sampleLines.map Line.text ∧
      scanFile sampleDisk (Path.ofString "/use-load.ts") = .ok [⟨"load", "/use-load.ts", none⟩,
        ⟨"b", "/use-load.ts", none⟩, ⟨"default", "/use-load.ts", some "useLoad"⟩,
        ⟨"default", "/use-load.ts", some "useLoad"⟩] := by
  have hread : sampleDisk.readText [] (Path.ofString "/use-load.ts") = .ok sampleText := by
    decide +kernel
  have hlines : Text.fields '\n' sampleText.toList = sampleLines.map Line.text := by decide +kernel
  refine ⟨hread, hlines, ?_⟩
  rw [scanFile_of_lines hread hlines]
  decide +kernel

end Scanner

end ExtTypes

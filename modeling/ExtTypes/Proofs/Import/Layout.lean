import ExtTypes.Proofs.Import.Declarable
import ExtTypes.Proofs.Import.Laid

/-! Texts of the same statements in two layouts. A reader goes through a text statement by statement
and takes those of its kind, whatever blanks there are between the tokens, if the layout is plain.
Main statements: `findAll_source` and `Scanner.scanFile_layout`. -/
namespace ExtTypes

namespace Export

variable {b r s t u x y : List Char}

/-! ### What a reader leaves -/

theorem word?_suffix {w : String} (h : word? w s = some t) : t <:+ s :=
  ⟨w.toList, (eq_append_of_word? h).symm⟩

theorem dropBlanks_suffix (s : List Char) : dropBlanks s <:+ s := List.dropWhile_suffix _

theorem blanks?_suffix (h : blanks? s = some t) : t <:+ s :=
  blanks?_eq_some h ▸ dropBlanks_suffix s

theorem dropModifier_suffix (w : String) (s : List Char) : dropModifier w s <:+ s := by
  unfold dropModifier
  cases hw : (word? w s).bind blanks? with
  | none => exact List.suffix_rfl
  | some t =>
    obtain ⟨u, hu, ht⟩ := Option.bind_eq_some_iff.mp hw
    exact (blanks?_suffix ht).trans (word?_suffix hu)

theorem declarator?_suffix (h : declarator? s = some t) : t <:+ s := by
  unfold declarator? at h
  split at h
  · next u hu =>
    split at h
    · next v hv =>
      have hstar : '*' :: v <:+ u := hv ▸ dropBlanks_suffix u
      calc t <:+ v := blanks?_suffix h
        _ <:+ '*' :: v := List.suffix_cons '*' v
        _ <:+ u := hstar
        _ <:+ s := word?_suffix hu
    · exact (blanks?_suffix h).trans (word?_suffix hu)
  · obtain ⟨u, hu, ht⟩ := Option.bind_eq_some_iff.mp h
    obtain ⟨w, -, hw⟩ := List.exists_of_findSome?_eq_some hu
    exact (blanks?_suffix ht).trans (word?_suffix hw)

theorem name?_suffix {n : List Char} (h : name? s = some (n, t)) : t <:+ s := by
  cases s with
  | nil => cases h
  | cons c s =>
    rw [name?] at h
    split at h
    · cases h
      exact (List.dropWhile_suffix _).trans (List.suffix_cons c s)
    · cases h

/-- Some of the text is gone with the word that starts an export. -/
theorem exists_of_start? (h : start? s = some t) (hu : u <:+ t) : ∃ p, p ≠ [] ∧ s = p ++ u := by
  obtain ⟨q, rfl⟩ := hu
  obtain ⟨b, hb⟩ := dropBlanks_suffix s
  rw [eq_append_of_word? h] at hb
  exact ⟨b ++ ("export".toList ++ q), by simp, by simp [← hb]⟩

theorem declaration?_leaves {n : List Char} (h : declaration? s = some (n, u)) :
    ∃ p, p ≠ [] ∧ s = p ++ u := by
  unfold declaration? at h
  obtain ⟨t, hstart, h⟩ := Option.bind_eq_some_iff.mp h
  obtain ⟨v, hv, h⟩ := Option.bind_eq_some_iff.mp h
  obtain ⟨w, hw, h⟩ := Option.bind_eq_some_iff.mp h
  apply exists_of_start? hstart
  calc u <:+ w := name?_suffix h
    _ <:+ dropModifier "async" (dropModifier "declare" v) := declarator?_suffix hw
    _ <:+ dropModifier "declare" v := dropModifier_suffix _ _
    _ <:+ v := dropModifier_suffix _ _
    _ <:+ t := blanks?_suffix hv

theorem list?_leaves {l : NameList} (h : list? s = some (l, u)) : ∃ p, p ≠ [] ∧ s = p ++ u := by
  unfold list? at h
  obtain ⟨t, hstart, h⟩ := Option.bind_eq_some_iff.mp h
  apply exists_of_start? hstart
  split at h
  · next v hv =>
    split at h
    · next w hw =>
      have hclose : '\x7d' :: w <:+ v := hw ▸ List.dropWhile_suffix _
      have hopen : '\x7b' :: v <:+ t := hv ▸ dropBlanks_suffix t
      have hwt : w <:+ t :=
        (List.suffix_cons _ w).trans (hclose.trans ((List.suffix_cons _ v).trans hopen))
      split at h
      · next z hz =>
        cases h
        have hword := (Option.filter_eq_some_iff.mp hz).1
        exact (word?_suffix hword).trans ((dropBlanks_suffix w).trans hwt)
      · cases h
        exact (dropBlanks_suffix w).trans hwt
    · cases h
  · cases h

theorem default?_leaves (h : default? s = some ((), u)) : ∃ p, p ≠ [] ∧ s = p ++ u := by
  unfold default? at h
  obtain ⟨t, hstart, h⟩ := Option.bind_eq_some_iff.mp h
  obtain ⟨v, hv, h⟩ := Option.bind_eq_some_iff.mp h
  obtain ⟨w, hw, h⟩ := Option.bind_eq_some_iff.mp h
  apply exists_of_start? hstart
  split at h
  · cases h
    exact (word?_suffix hw).trans (blanks?_suffix hv)
  · cases h

/-! ### From line to line -/

section

variable {α β : Type} {m : List Char → Option (α × List Char)} {g : α → List β}
  {f : Phrase → List β}

/-- The reader finds what a statement stands for, `f` says what that is and `g` says it of a value
that is found. -/
structure IsReader (m : List Char → Option (α × List Char)) (g : α → List β)
    (f : Phrase → List β) : Prop where
  of_quiet : ∀ {s}, Quiet s → m s = none
  of_blanks : ∀ {b}, Blanks b → ∀ s, m (b ++ s) = m s
  leaves : ∀ {s a u}, m s = some (a, u) → ∃ p, p ≠ [] ∧ s = p ++ u
  of_laid : ∀ {p x r}, p.IsLaid True x → (p.endsInWord = true → EndsName r) →
    (p.isOwnList = true → ¬ StartsFrom r) → Reading m g f p x r

/-- Where no line starts with something to be found, the search goes on. -/
theorem findAll_pass (b : Bool) {p : List Char} (h : ∀ q, '\n' :: q <:+ p → m (q ++ s) = none)
    (hb : b = true → m (p ++ s) = none) :
    findAll m b 0 (p ++ s) = findAll m (startsLine b p) 0 s := by
  induction p generalizing b with
  | nil => rfl
  | cons c p ih =>
    have hfirst : (if b then m (c :: (p ++ s)) else none) = none := by
      cases b with
      | true => exact hb rfl
      | false => rfl
    have hnext : decide (c = '\n') = true → m (p ++ s) = none := by
      intro hc
      obtain rfl := of_decide_eq_true hc
      exact h p List.suffix_rfl
    rw [List.cons_append, findAll, hfirst]
    exact ih _ (fun q hq => h q (hq.trans (List.suffix_cons c p))) hnext

theorem findAll_of_none (b c : Bool) (h : m s = none) : findAll m b 0 s = findAll m c 0 s := by
  cases s with
  | nil => rfl
  | cons d s => rw [findAll, findAll, h, ite_self, ite_self]

theorem blanks_takeWhile (s : List Char) : Blanks (s.takeWhile Text.isBlank) :=
  fun _ hc => List.mem_takeWhile_imp hc

theorem startsLine_append_of_ne_nil (b c : Bool) (p : List Char) {q : List Char} (hq : q ≠ []) :
    startsLine b (p ++ q) = startsLine c q := by
  obtain ⟨d, q, rfl⟩ := List.exists_cons_of_ne_nil hq
  rw [startsLine_append]
  rfl

theorem EndsName.append (hs : EndsName s) (ht : EndsName t) : EndsName (s ++ t) := by
  cases s with
  | nil => exact ht
  | cons c s => exact hs

theorem OnNewLine.endsName (h : OnNewLine s) : EndsName s := by
  have hnil : EndsName [] := rfl
  have hsplit : s.takeWhile Text.isBlank ++ dropBlanks s = s := List.takeWhile_append_dropWhile
  rw [← hsplit]
  rcases h with hline | hnone
  · exact Separates.endsName ⟨blanks_takeWhile s, List.ne_nil_of_mem hline⟩ _
  · rw [hnone]
    exact hnil.append_blanks (blanks_takeWhile s)

theorem IsFree.dropBlanks_append (h : IsFree t) (hne : t ≠ []) (s : List Char) :
    dropBlanks (t ++ s) = dropBlanks t ++ s := by
  have hlast := h.last _ (List.getLast?_eq_some_getLast hne)
  have hvisible : (dropBlanks t).isEmpty = false := by
    apply Bool.eq_false_iff.mpr
    intro hnil
    have hblanks := List.dropWhile_eq_nil_iff.mp (List.isEmpty_iff.mp hnil)
    rw [hblanks _ (List.getLast_mem hne)] at hlast
    cases hlast
  unfold dropBlanks at hvisible ⊢
  rw [List.dropWhile_append, hvisible]
  rfl

/-- A line starts after a line feed. -/
theorem startsLine_concat (b : Bool) (p : List Char) (c : Char) :
    startsLine b (p ++ [c]) = decide (c = '\n') := by
  rw [startsLine_append]
  rfl

theorem exists_of_startsLine {b : Bool} {p : List Char} (hp : p ≠ [])
    (h : startsLine b p = true) : ∃ q, p = q ++ ['\n'] := by
  rcases List.eq_nil_or_concat p with rfl | ⟨q, c, rfl⟩
  · exact absurd rfl hp
  · rw [List.concat_eq_append, startsLine_concat] at h
    exact ⟨q, by simp [of_decide_eq_true h]⟩

namespace IsReader

variable (hm : IsReader m g f)

include hm

/-- Blanks before a line change nothing. -/
theorem findAll_blanks (hb : Blanks b) (s : List Char) :
    findAll m true 0 (b ++ s) = findAll m true 0 s := by
  cases hs : m s with
  | none =>
    have hskip : ∀ q, q ≠ [] → q <:+ b → m (q ++ s) = none := by
      intro q _ hq
      rw [hm.of_blanks fun c hc => hb c (hq.subset hc)]
      exact hs
    rw [findAll_miss true hskip]
    exact findAll_of_none _ _ hs
  | some v =>
    -- the same is found from the first of the blanks on
    obtain ⟨a, u⟩ := v
    obtain ⟨p, hp, rfl⟩ := hm.leaves hs
    have hbs : m ((b ++ p) ++ u) = some (a, u) := by
      rw [List.append_assoc, hm.of_blanks hb, hs]
    rw [← List.append_assoc, findAll_take (List.append_ne_nil_of_right_ne_nil b hp) hbs,
      findAll_take hp hs, startsLine_append_of_ne_nil true true b hp]

theorem findAll_dropBlanks (s : List Char) :
    findAll m true 0 (dropBlanks s) = findAll m true 0 s := by
  have hsplit : s.takeWhile Text.isBlank ++ dropBlanks s = s := List.takeWhile_append_dropWhile
  have hblanks := hm.findAll_blanks (blanks_takeWhile s) (dropBlanks s)
  rw [hsplit] at hblanks
  exact hblanks.symm

theorem findAll_of_blanks (hb : Blanks b) (isStart : Bool) : findAll m isStart 0 b = [] := by
  have hnil : m [] = none := hm.of_quiet (.of_start rfl)
  have hnone : ∀ q, q ≠ [] → q <:+ b → m (q ++ []) = none := by
    intro q _ hq
    rw [hm.of_blanks (fun c hc => hb c (hq.subset hc)), hnil]
  have hmiss := findAll_miss isStart hnone
  rw [List.append_nil] at hmiss
  rw [hmiss, findAll]

/-- It does not matter what came before on the line, if what comes next is on another one. -/
theorem findAll_of_onNewLine (hs : OnNewLine s) (isStart : Bool) :
    findAll m isStart 0 s = findAll m true 0 s := by
  rcases hs with hline | hnil
  · have hsplit : s.takeWhile Text.isBlank ++ dropBlanks s = s := List.takeWhile_append_dropWhile
    have hall := blanks_takeWhile s
    obtain ⟨p, q, hpq, hp⟩ := List.eq_append_cons_of_mem hline
    rw [hpq] at hsplit hall
    rw [List.append_assoc] at hsplit
    have hpre : p ++ ['\n'] <+: p ++ '\n' :: q := ⟨q, by simp⟩
    have hline : Blanks (p ++ ['\n']) := fun c hc => hall c (hpre.subset hc)
    cases isStart with
    | true => rfl
    | false =>
      calc findAll m false 0 s = findAll m false 0 (p ++ '\n' :: (q ++ dropBlanks s)) := by
            rw [← List.cons_append, hsplit]
        _ = findAll m true 0 (q ++ dropBlanks s) := findAll_inLine hp _
        _ = findAll m true 0 ((p ++ ['\n']) ++ (q ++ dropBlanks s)) :=
            (hm.findAll_blanks hline _).symm
        _ = findAll m true 0 s := by
            rw [List.append_assoc, List.singleton_append, ← List.cons_append, hsplit]
  · have hb : Blanks s := List.dropWhile_eq_nil_iff.mp hnil
    rw [hm.findAll_of_blanks hb, hm.findAll_of_blanks hb]

/-- What is left of the statement and its line after something is found in it. -/
theorem findAll_taken {a : α} {w : List Char} (hy : Inert y s) (hs : OnNewLine s)
    (h : m (y ++ s) = some (a, w ++ s)) :
    findAll m true 0 (y ++ s) = a :: findAll m true 0 s := by
  obtain ⟨p, hp, hsplit⟩ := hm.leaves h
  obtain rfl : y = p ++ w := by
    rw [← List.append_assoc] at hsplit
    exact List.append_cancel_right hsplit
  have hw : ∀ q, '\n' :: q <:+ w → m (q ++ s) = none := fun q hq =>
    hm.of_quiet (hy q (hq.trans (List.suffix_append p w)))
  -- what is left stands at the start of a line only if a line ends before it
  have hstart : startsLine true p = true → m (w ++ s) = none := by
    intro hline
    obtain ⟨p, rfl⟩ := exists_of_startsLine hp hline
    exact hm.of_quiet (hy w ⟨p, by simp⟩)
  rw [List.append_assoc] at h ⊢
  rw [findAll_take hp h, findAll_pass _ hw hstart, hm.findAll_of_onNewLine hs]

/-- A list without a semicolon, of which the blanks after it are taken for a part. -/
theorem findAll_takenOn {a : α} (hs : m s = none ∨ NotIndented s)
    (h : m (x ++ s) = some (a, dropBlanks s)) :
    findAll m true 0 (x ++ s) = a :: findAll m true 0 s := by
  have hsplit : s.takeWhile Text.isBlank ++ dropBlanks s = s := List.takeWhile_append_dropWhile
  have hread : m ((x ++ s.takeWhile Text.isBlank) ++ dropBlanks s) = some (a, dropBlanks s) := by
    rw [List.append_assoc, hsplit, h]
  have hne : x ++ s.takeWhile Text.isBlank ≠ [] := by
    obtain ⟨p, hp, hcut⟩ := hm.leaves hread
    rwa [List.append_cancel_right hcut]
  have htake := findAll_take hne hread
  rw [List.append_assoc, hsplit] at htake
  rw [htake]
  congr 1
  rcases hs with hnone | hlast
  · rw [← hm.findAll_dropBlanks s]
    apply findAll_of_none
    rw [← hnone, ← hm.of_blanks (blanks_takeWhile s), hsplit]
  · obtain ⟨q, hq⟩ := List.getLast?_eq_some_iff.mp hlast
    have hstart : startsLine true (x ++ s.takeWhile Text.isBlank) = true := by
      rw [hq, ← List.append_assoc, startsLine_concat]
      rfl
    rw [hstart, hm.findAll_dropBlanks]

/-- What a reader finds in the text of a statement, and what it finds after it. -/
theorem findAll_phrase {p : Phrase} (hx : p.IsLaid True x) (ht : IsFree t)
    (hends : p.endsInWord = true → EndsName t)
    (hlist : p.isOwnList = true → ¬ StartsFrom (t ++ s)) (hline : OnNewLine s)
    (hplain : p.isOwnList = true → t = [] → StartsList s → NotIndented s) :
    (findAll m true 0 (x ++ (t ++ s))).flatMap g = f p ++ (findAll m true 0 s).flatMap g := by
  have hends' : p.endsInWord = true → EndsName (t ++ s) := fun hword =>
    (hends hword).append hline.endsName
  have hinert : Inert (x ++ t) s := (hx.inert hends').append (ht.inert hline.endsName)
  have hsplit : (x ++ t) ++ s = x ++ (t ++ s) := List.append_assoc x t s
  -- nothing is found, or what is found ends in the statement, or with the blanks after it
  rcases hm.of_laid hx hends' hlist with ⟨hnone, hvalue⟩ | @⟨a, w, hsome, hvalue⟩ |
    ⟨hown, hsome, hvalue, hnext⟩
  · rw [← hsplit] at hnone ⊢
    have hlines : ∀ q, '\n' :: q <:+ x ++ t → m (q ++ s) = none := fun q hq =>
      hm.of_quiet (hinert q hq)
    rw [findAll_pass true hlines fun _ => hnone, hm.findAll_of_onNewLine hline, hvalue,
      List.nil_append]
  · rw [← hsplit, ← List.append_assoc] at hsome
    rw [← hsplit, hm.findAll_taken hinert hline hsome, List.flatMap_cons, hvalue]
  · by_cases hnil : t = []
    · subst hnil
      rw [List.nil_append] at hsome hnext ⊢
      have hs : m s = none ∨ NotIndented s := by
        by_cases hstarts : StartsList s
        · exact .inr (hplain hown rfl hstarts)
        · exact .inl (hnext hstarts)
      rw [hm.findAll_takenOn hs hsome, List.flatMap_cons, hvalue]
    · rw [← hsplit, ht.dropBlanks_append hnil] at hsome
      rw [← hsplit, hm.findAll_taken hinert hline hsome, List.flatMap_cons, hvalue]

/-- A reader goes through a text in any plain layout and finds what the statements stand for. -/
theorem findAll_source {ps : List Phrase} (h : IsSource True ps x) :
    (findAll m true 0 x).flatMap g = ps.flatMap f := by
  -- after each statement the search stands where it would on a new line, so nothing is carried on
  induction h with
  | nil hb =>
    rw [hm.findAll_of_blanks hb]
    rfl
  | phrase hb hx ht hends hlist hline hplain _ ih =>
    rw [hm.findAll_blanks hb, hm.findAll_phrase hx ht hends hlist hline (hplain trivial), ih,
      List.flatMap_cons]
  | @other b t s ps hb hne ht hstart hhead hline _ ih =>
    have hvisible : ¬ Blanks t := by
      obtain ⟨c, t, rfl⟩ := List.exists_cons_of_ne_nil hne
      intro hblanks
      have hc := hblanks c List.mem_cons_self
      rw [hhead c rfl] at hc
      cases hc
    have hquiet : Quiet (t ++ s) := .of_line hvisible hstart hline.endsName
    have hlines : ∀ q, '\n' :: q <:+ t → m (q ++ s) = none := fun q hq =>
      hm.of_quiet (ht.inert hline.endsName q hq)
    rw [hm.findAll_blanks hb, findAll_pass true hlines fun _ => hm.of_quiet hquiet,
      hm.findAll_of_onNewLine hline, ih]

end IsReader

end

theorem isReader_declaration :
    IsReader declaration? (fun n => [n]) fun p => p.declared?.toList where
  of_quiet h := h.declaration
  of_blanks h s := reads_declaration.of_blanks h s
  leaves := declaration?_leaves
  of_laid h hr _ := declaration?_of_laid h hr

theorem isReader_list : IsReader list? listSymbols Phrase.listedSymbols where
  of_quiet h := h.list
  of_blanks h s := reads_list.of_blanks h s
  leaves := list?_leaves
  of_laid := list?_of_laid

theorem isReader_default :
    IsReader default? (fun _ => [()]) fun p => if p.isStandard then [()] else [] where
  of_quiet h := h.default
  of_blanks h s := reads_default.of_blanks h s
  leaves := default?_leaves
  of_laid h hr _ := default?_of_laid h hr

/-- What a text in a plain layout exports can be told from its tokens. -/
theorem exportedSymbols_of_isSource {ps : List Phrase} (h : IsSource True ps x) :
    exportedSymbols x = phraseSymbols ps := by
  have hdeclared : findAll declaration? true 0 x = ps.filterMap Phrase.declared? := by
    have hfound := isReader_declaration.findAll_source h
    rwa [List.flatMap_singleton', ← List.filterMap_eq_flatMap_toList] at hfound
  have hlisted := isReader_list.findAll_source h
  have hdefault : (findAll default? true 0 x).isEmpty = ! ps.any Phrase.isStandard := by
    have hfound := isReader_default.findAll_source h
    rw [List.flatMap_singleton'] at hfound
    rw [hfound]
    apply Bool.eq_iff_iff.mpr
    simp [List.flatMap_eq_nil_iff]
  have hsymbols : ps.flatMap Phrase.listedSymbols =
      (ps.flatMap Phrase.listed).map fun n => itemSymbol (String.ofList n.chars) :=
    (List.map_flatMap ..).symm
  unfold exportedSymbols phraseSymbols
  rw [hdeclared, hlisted, hsymbols, hdefault]
  cases ps.any Phrase.isStandard <;> rfl

/-! ### Laying statements out -/

theorem IsFree.of_notMem (hline : '\n' ∉ t) (hlast : t.getLast?.all (! Text.isBlank ·) = true) :
    IsFree t := by
  refine ⟨fun c hc => ?_, fun _ hq => absurd (hq.subset List.mem_cons_self) hline⟩
  rw [show t.getLast? = some c from hc] at hlast
  simpa using hlast

theorem not_startsFrom (h : (dropBlanks s).head? ≠ some 'f') : ¬ StartsFrom s := by
  rintro ⟨r, hr, -⟩
  rw [hr] at h
  exact h rfl

namespace IsSource

variable {plain : Prop} {p : Phrase} {ps : List Phrase}

/-- A statement other than a list of the file's own. -/
theorem statement (hp : p.isOwnList = false) (hb : Blanks b) (hx : p.IsLaid plain x)
    (ht : IsFree t) (hends : p.endsInWord = true → EndsName t) (hline : OnNewLine s)
    (hs : IsSource plain ps s) : IsSource plain (p :: ps) (b ++ (x ++ (t ++ s))) := by
  have hno : ¬ p.isOwnList = true := Bool.eq_false_iff.mp hp
  exact .phrase hb hx ht hends (fun h => absurd h hno) hline (fun _ h => absurd h hno) hs

/-- A list of the file's own that ends in a semicolon. -/
theorem closedList {cs : List Clause} (hb : Blanks b) (hx : (Phrase.list cs false).IsLaid plain x)
    (hline : OnNewLine s) (hs : IsSource plain ps s) :
    IsSource plain (.list cs false :: ps) (b ++ (x ++ ([';'] ++ s))) := by
  have hsemicolon : dropBlanks ([';'] ++ s) = ';' :: s := dropBlanks_cons (by decide) s
  have hfrom : ¬ StartsFrom ([';'] ++ s) := not_startsFrom (by rw [hsemicolon]; simp)
  exact .phrase hb hx (.of_notMem (by decide) (by decide)) (fun h => by cases h) (fun _ => hfrom)
    hline (fun _ _ h => by cases h) hs

/-- A list of the file's own that ends in its brace. -/
theorem openList {cs : List Clause} (hb : Blanks b) (hx : (Phrase.list cs false).IsLaid plain x)
    (hfrom : (dropBlanks s).head? ≠ some 'f') (hline : OnNewLine s)
    (hplain : plain → StartsList s → NotIndented s) (hs : IsSource plain ps s) :
    IsSource plain (.list cs false :: ps) (b ++ (x ++ s)) := by
  have hfree : IsFree [] := .of_notMem List.not_mem_nil rfl
  exact .phrase hb hx hfree (fun h => by cases h) (fun _ => not_startsFrom hfrom) hline
    (fun h _ _ => hplain h) hs

end IsSource

end Export

namespace Scanner

open Export

/-- Two texts of the same statements, in layouts that are plain, have the same imports. -/
theorem scanFile_layout {files files' : FileSystem} {path : Path} {text text' : String}
    {ps : List Phrase} (hread : files.readText [] path = .ok text)
    (hread' : files'.readText [] path = .ok text') (hlaid : IsSource True ps text.toList)
    (hlaid' : IsSource True ps text'.toList) :
    scanFile files path = .ok ((phraseSymbols ps).map (importOf path)) ∧
      scanFile files' path = scanFile files path := by
  have hscan {disk : FileSystem} {source : String} (hsource : disk.readText [] path = .ok source)
      (h : IsSource True ps source.toList) :
      scanFile disk path = .ok ((phraseSymbols ps).map (importOf path)) := by
    rw [scanFile, hsource]
    show Except.ok (importsOf path source) = _
    rw [importsOf, exportedSymbols_of_isSource h]
  have hfound := hscan hread hlaid
  exact ⟨hfound, (hscan hread' hlaid').trans hfound.symm⟩

def letter (c : Char) (h : Text.isBlank c = false ∧ c ∉ ['\x7b', '\x7d', ',', '*']) : Word :=
  ⟨[c], List.cons_ne_nil c [], by simpa using h⟩

def wordA : Word := letter 'a' (by decide)

def wordB : Word := letter 'b' (by decide)

def wordG : Word := letter 'g' (by decide)

def wordT : Word := letter 'T' (by decide)

/-- A generator, a list and a default export. -/
def samplePhrases : List Phrase := [
  .declaration false true .generator wordG,
  .list [.renamed wordA wordB, .type wordT] false,
  .standard]

def compactText : String :=
  "export async function* g() \x7b\x7d\nexport \x7ba as b, type T\x7d;\nexport default g"

def looseText : String :=
  "// all\nexport\n  async function\n  * g() \x7b\x7d\n\n  export\x7b a\n  as \n  b,\n" ++
    "  type \tT\x7d;\nexport \tdefault g\n"

theorem isSource_compactText : IsSource True samplePhrases compactText.toList := by
  have hspace : Separates [' '] := ⟨by decide, by decide⟩
  have hgenerator : (Phrase.declaration false true .generator wordG).IsLaid True
      "export async function* g".toList :=
    .declaration hspace .absent (.present hspace) (.generator (b := []) (by decide)) hspace.blanks
      (fun h => by cases h) (by decide)
  have hlist : (Phrase.list [.renamed wordA wordB, .type wordT] false).IsLaid True
      "export \x7ba as b, type T\x7d".toList :=
    .list hspace.blanks (by simp)
      (.cons (.renamed (a := []) (b := []) (by decide) hspace hspace (by decide) (by decide))
        (.cons (.type (b := []) hspace.blanks hspace (by decide) (by simp)) .nil))
  have htext : compactText.toList = [] ++ ("export async function* g".toList ++
      ("() \x7b\x7d".toList ++ (['\n'] ++ ("export \x7ba as b, type T\x7d".toList ++ ([';'] ++
        (['\n'] ++ (("export".toList ++ ([' '] ++ "default".toList)) ++
          (" g".toList ++ [])))))))) := by
    decide +kernel
  rw [htext]
  refine .statement rfl (by decide) hgenerator (.of_notMem (by decide) (by decide)) (fun _ => rfl)
    (by decide) ?_
  refine .closedList (by decide) hlist (by decide) ?_
  exact .statement rfl (by decide) (.standard hspace) (.of_notMem (by decide) (by decide))
    (fun _ => rfl) (.inr rfl) (.nil (by decide))

theorem isSource_looseText : IsSource True samplePhrases looseText.toList := by
  have hspace : Separates [' '] := ⟨by decide, by decide⟩
  have hline : Separates "\n  ".toList := ⟨by decide, by decide⟩
  have hafter : Separates " \n  ".toList := ⟨by decide, by decide⟩
  have htab : Separates " \t".toList := ⟨by decide, by decide⟩
  have hgenerator : (Phrase.declaration false true .generator wordG).IsLaid True
      "export\n  async function\n  * g".toList :=
    .declaration hline .absent (.present hspace) (.generator hline.blanks) hspace.blanks
      (fun h => by cases h) (by decide)
  have hlist : (Phrase.list [.renamed wordA wordB, .type wordT] false).IsLaid True
      "export\x7b a\n  as \n  b,\n  type \tT\x7d".toList :=
    .list (b := []) (by decide) (by simp)
      (.cons (.renamed (b := []) hspace.blanks hline hafter (by decide) (by decide))
        (.cons (.type (b := []) hline.blanks htab (by decide) (by simp)) .nil))
  have hcomment : ¬ StartsExport "// all".toList := by
    rintro ⟨r, hr, -⟩
    exact absurd (List.cons.inj hr).1 (by decide)
  have hhead : ∀ c ∈ "// all".toList.head?, Text.isBlank c = false := by
    intro c hc
    obtain rfl : '/' = c := Option.some.inj hc
    decide
  have htext : looseText.toList = [] ++ ("// all".toList ++ (['\n'] ++
      ("export\n  async function\n  * g".toList ++ ("() \x7b\x7d".toList ++ ("\n\n  ".toList ++
        ("export\x7b a\n  as \n  b,\n  type \tT\x7d".toList ++ ([';'] ++ (['\n'] ++
          (("export".toList ++ (" \t".toList ++ "default".toList)) ++
            (" g".toList ++ ['\n'])))))))))) := by
    decide +kernel
  rw [htext]
  refine .other (by decide) (by decide) (.of_notMem (by decide) (by decide)) hcomment hhead
    (by decide) ?_
  refine .statement rfl (by decide) hgenerator (.of_notMem (by decide) (by decide)) (fun _ => rfl)
    (by decide) ?_
  refine .closedList (by decide) hlist (by decide) ?_
  exact .statement rfl (by decide) (.standard htab) (.of_notMem (by decide) (by decide))
    (fun _ => rfl) (.inr rfl) (.nil (by decide))

theorem unifyNewlines_of_notMem {s : List Char} (h : '\r' ∉ s) : Text.unifyNewlines s = s := by
  fun_induction Text.unifyNewlines s with
  | case1 s _ => exact absurd List.mem_cons_self h
  | case2 s _ _ => exact absurd List.mem_cons_self h
  | case3 c s _ _ ih => rw [ih fun hmem => h (List.mem_cons_of_mem c hmem)]
  | case4 => rfl

/-- The one file of a disk. -/
theorem readText_useG {text : String} (h : '\r' ∉ text.toList) :
    (oneFile ⟨"use-g.ts", by decide⟩ text).readText [] (Path.ofString "/use-g.ts") = .ok text := by
  have hread : (oneFile ⟨"use-g.ts", by decide⟩ text).read [] (Path.ofString "/use-g.ts") =
      .ok text.toUTF8 := rfl
  have hdecode : Text.decodeUtf8 text.toUTF8 = .ok text := Text.decodeUtf8_eq_ok_iff.mpr rfl
  have hlines : Text.withNewlines text = text := by
    rw [Text.withNewlines, unifyNewlines_of_notMem h, String.ofList_toList]
  rw [FileSystem.readText, hread]
  simp only [bind, Except.bind, FileSystem.decode, hdecode, hlines]
  rfl

/-- The imports of a generator, a list and a default export, with a space between two words and with
blanks of other kinds. -/
theorem scanFile_layout_sample :
    scanFile (oneFile ⟨"use-g.ts", by decide⟩ compactText) (Path.ofString "/use-g.ts") =
        .ok [⟨"g", "/use-g.ts", none⟩, ⟨"b", "/use-g.ts", none⟩,
          ⟨"default", "/use-g.ts", some "useG"⟩] ∧
      scanFile (oneFile ⟨"use-g.ts", by decide⟩ looseText) (Path.ofString "/use-g.ts") =
        scanFile (oneFile ⟨"use-g.ts", by decide⟩ compactText) (Path.ofString "/use-g.ts") := by
  obtain ⟨hfound, hsame⟩ := scanFile_layout (readText_useG (by decide)) (readText_useG (by decide))
    isSource_compactText isSource_looseText
  exact ⟨hfound.trans (by decide +kernel), hsame⟩

/-- A text with these statements, in a layout of any kind, and the names that are found in it. -/
def Finds (ps : List Phrase) (text : String) (names : List String) : Prop :=
  IsSource False ps text.toList ∧
    scanFile (oneFile ⟨"use-g.ts", by decide⟩ text) (Path.ofString "/use-g.ts") =
      .ok (names.map fun n => ⟨n, "/use-g.ts", none⟩)

theorem finds_of_isSource {ps : List Phrase} {text : String} {names : List String}
    (hs : IsSource False ps text.toList) (h : '\r' ∉ text.toList)
    (hnames : importsOf (Path.ofString "/use-g.ts") text =
      names.map fun n => ⟨n, "/use-g.ts", none⟩) : Finds ps text names := by
  refine ⟨hs, ?_⟩
  rw [scanFile, readText_useG h]
  exact congrArg Except.ok hnames

/-- Names are lost or run together with what is before them where there is no space around an `as` or
after a `type`, where the star of a generator stands at its name, and where a list is indented that
comes after a list without a semicolon. -/
theorem scanFile_layout_matters :
    (Finds [.list [.renamed wordA wordB] false] "export \x7b a as b \x7d;" ["b"] ∧
      Finds [.list [.renamed wordA wordB] false] "export \x7b a as\n  b \x7d;" ["a as\n  b"]) ∧
    (Finds [.list [.type wordT] false] "export \x7b type T \x7d;" [] ∧
      Finds [.list [.type wordT] false] "export \x7b type\tT \x7d;" ["type\tT"]) ∧
    (Finds [.declaration false false .generator wordG] "export function* g() \x7b\x7d" ["g"] ∧
      Finds [.declaration false false .generator wordG] "export function *g() \x7b\x7d" []) ∧
    (Finds [.list [.value wordA] false, .list [.value wordB] false]
        "export \x7b a \x7d\nexport \x7b b \x7d" ["a", "b"] ∧
      Finds [.list [.value wordA] false, .list [.value wordB] false]
        "export \x7b a \x7d\n  export \x7b b \x7d" ["a"]) := by
  have hspace : Separates [' '] := ⟨by decide, by decide⟩
  have hline : Separates "\n  ".toList := ⟨by decide, by decide⟩
  have htab : Separates ['\t'] := ⟨by decide, by decide⟩
  have hnone : IsSource False [] [] := .nil (by decide)
  have hlist {c : Clause} {x : List Char} (hc : c.IsLaid False x) :
      (Phrase.list [c] false).IsLaid False ("export \x7b".toList ++ (x ++ ['\x7d'])) :=
    .list hspace.blanks (List.cons_ne_nil c []) (.cons hc .nil)
  have hclosed {c : Clause} {x : List Char} (hc : c.IsLaid False x) :
      IsSource False [.list [c] false] ("export \x7b".toList ++ (x ++ ['\x7d']) ++ [';']) :=
    .closedList (b := []) (by decide) (hlist hc) (.inr rfl) hnone
  have hlast {b : List Char} (hb : Blanks b) :
      IsSource False [.list [.value wordB] false] (b ++ ("export \x7b b \x7d".toList ++ [])) :=
    .openList hb (hlist (.value hspace.blanks hspace.blanks)) (by decide) (.inr rfl) False.elim
      hnone
  have hlists {b : List Char} (hb : Blanks b)
      (hline : OnNewLine (b ++ ("export \x7b b \x7d".toList ++ [])))
      (hhead : (dropBlanks (b ++ ("export \x7b b \x7d".toList ++ []))).head? ≠ some 'f') :
      IsSource False [.list [.value wordA] false, .list [.value wordB] false]
        ("export \x7b a \x7d".toList ++ (b ++ ("export \x7b b \x7d".toList ++ []))) :=
    .openList (b := []) (by decide) (hlist (.value hspace.blanks hspace.blanks)) hhead hline
      False.elim (hlast hb)
  have hgenerator {k b : List Char} (hk : Opener.generator.IsLaid k) (hb : Blanks b) :
      IsSource False [.declaration false false .generator wordG]
        ("export ".toList ++ (k ++ (b ++ "g() \x7b\x7d".toList))) := by
    have hdeclaration : (Phrase.declaration false false .generator wordG).IsLaid False
        ("export".toList ++ ([' '] ++ ([] ++ ([] ++ (k ++ (b ++ wordG.chars)))))) :=
      .declaration hspace .absent .absent hk hb (fun _ => ⟨rfl, id⟩) (by decide)
    have hsource := IsSource.statement (b := []) (t := "() \x7b\x7d".toList) rfl (by decide)
      hdeclaration (.of_notMem (by decide) (by decide)) (fun _ => rfl) (.inr rfl) hnone
    simpa [wordG, letter] using hsource
  refine ⟨⟨?_, ?_⟩, ⟨?_, ?_⟩, ⟨?_, ?_⟩, ?_, ?_⟩
  · exact finds_of_isSource (hclosed (.renamed hspace.blanks hspace hspace hspace.blanks False.elim))
      (by decide) (by decide +kernel)
  · exact finds_of_isSource (hclosed (.renamed hspace.blanks hspace hline hspace.blanks False.elim))
      (by decide) (by decide +kernel)
  · exact finds_of_isSource (hclosed (.type hspace.blanks hspace hspace.blanks False.elim))
      (by decide) (by decide +kernel)
  · exact finds_of_isSource (hclosed (.type hspace.blanks htab hspace.blanks False.elim))
      (by decide) (by decide +kernel)
  · exact finds_of_isSource (hgenerator (.generator (b := []) (by decide)) hspace.blanks)
      (by decide) (by decide +kernel)
  · exact finds_of_isSource (hgenerator (.generator hspace.blanks) (b := []) (by decide))
      (by decide) (by decide +kernel)
  · exact finds_of_isSource (hlists (b := ['\n']) (by decide) (by decide) (by decide)) (by decide)
      (by decide +kernel)
  · exact finds_of_isSource (hlists hline.blanks (by decide) (by decide)) (by decide)
      (by decide +kernel)

end Scanner

end ExtTypes

import ExtTypes.Proofs.Import.Quiet

/-! What the readers make of a text that starts with the tokens of a statement, whatever blanks there
are between them. Main statements: `itemName?_of_laid` for a clause, and `declaration?_of_laid`,
`list?_of_laid` and `default?_of_laid`. -/
namespace ExtTypes

/-- A text is cut at a separator that does not start before. -/
theorem Text.cutAt?_append_of_forall {pat a b : List Char} (hpat : pat ≠ [])
    (h : ∀ q, q ≠ [] → q <:+ a → ¬ pat <+: q ++ (pat ++ b)) :
    cutAt? pat (a ++ (pat ++ b)) = some (a, b) := by
  induction a with
  | nil =>
    obtain ⟨c, p, rfl⟩ := List.exists_cons_of_ne_nil hpat
    have hpre : c :: p <+: c :: (p ++ b) := List.prefix_append (c :: p) b
    simp [cutAt?, hpre]
  | cons d a ih =>
    have hno : ¬ pat <+: d :: (a ++ (pat ++ b)) := h (d :: a) (List.cons_ne_nil d a) List.suffix_rfl
    have hrest := ih fun q hq hqa => h q hq (hqa.trans (List.suffix_cons d a))
    rw [List.cons_append, cutAt?, if_neg hno, hrest]
    rfl

namespace Export

variable {a b r s t u x y : List Char} {plain : Prop}

/-! ### Clauses -/

theorem Word.notBlank_getLast (w : Word) (u : List Char) :
    ∀ c ∈ (u ++ w.chars).getLast?, Text.isBlank c = false := by
  intro c hc
  rw [List.getLast?_append_of_ne_nil _ w.ne_nil] at hc
  exact w.notBlank_of_mem (List.mem_of_mem_getLast? hc)

theorem Word.notBlank_head_append (w : Word) (u : List Char) :
    ∀ c ∈ (w.chars ++ u).head?, Text.isBlank c = false := by
  rw [List.head?_append_of_ne_nil _ w.ne_nil]
  exact w.notBlank_head

theorem Word.strip_pad (w : Word) (ha : Blanks a) (hb : Blanks b) :
    Text.strip (a ++ (w.chars ++ b)) = w.chars :=
  Text.strip_pad ha hb w.notBlank_head (w.notBlank_getLast [])

/-- A part that starts with `type` and a space is a type. -/
theorem itemName?_of_type {w : Word} (ha : Blanks a) (hb : Blanks b) (hs : s.head? = some ' ')
    (u : List Char) : itemName? (a ++ (("type".toList ++ (s ++ (u ++ w.chars))) ++ b)) = none := by
  obtain ⟨s, rfl⟩ := List.head?_eq_some_iff.mp hs
  let core := "type".toList ++ (' ' :: s ++ (u ++ w.chars))
  have hhead : ∀ c ∈ core.head?, Text.isBlank c = false := by
    intro c hc
    obtain rfl : 't' = c := Option.some.inj hc
    decide
  have hlast : ∀ c ∈ core.getLast?, Text.isBlank c = false := by
    have hcore : core = ("type".toList ++ (' ' :: s ++ u)) ++ w.chars := by simp [core]
    rw [hcore]
    exact w.notBlank_getLast _
  have htype : "type ".toList <+: core := List.prefix_append "type ".toList (s ++ (u ++ w.chars))
  show itemName? (a ++ (core ++ b)) = none
  rw [itemName?, Text.strip_pad ha hb hhead hlast]
  exact if_pos (.inr htype)

/-- What stands before the first blank. -/
theorem takeWhile_word (h : x.all (! Text.isBlank ·) = true) (hs : Separates s) (u : List Char) :
    (x ++ (s ++ u)).takeWhile (! Text.isBlank ·) = x := by
  have hx : ∀ c ∈ x, (! Text.isBlank c) = true := List.all_eq_true.mp h
  obtain ⟨c, v, rfl⟩ := List.exists_cons_of_ne_nil hs.ne_nil
  have hc : Text.isBlank c = true := hs.blanks c List.mem_cons_self
  rw [List.takeWhile_append_of_pos hx, List.cons_append, List.takeWhile_cons, hc]
  simp

/-- A word and blanks start like a type only if the word is `type`. -/
theorem Word.eq_type_of_prefix {n : Word} (hs : Separates s)
    (h : "type ".toList <+: n.chars ++ (s ++ u)) : n.chars = "type".toList := by
  obtain ⟨v, hv⟩ := h
  have hword : n.chars.all (! Text.isBlank ·) = true := by
    apply List.all_eq_true.mpr
    intro c hc
    rw [n.notBlank_of_mem hc]
    rfl
  have htype : "type".toList.all (! Text.isBlank ·) = true := by decide
  have hspace : Separates [' '] := ⟨by decide, List.cons_ne_nil _ _⟩
  calc n.chars = (n.chars ++ (s ++ u)).takeWhile (! Text.isBlank ·) :=
        (takeWhile_word hword hs u).symm
    _ = ("type".toList ++ ([' '] ++ v)).takeWhile (! Text.isBlank ·) := congrArg _ hv.symm
    _ = "type".toList := takeWhile_word htype hspace v

/-- A blank after a word is one of the blanks there. -/
theorem Word.blanks_of_suffix {n : Word} {c : Char} {q : List Char} (hc : Text.isBlank c = true)
    (hs : Blanks s) (h : c :: q <:+ n.chars ++ s) : Blanks q := by
  have hword : c ∉ n.chars := n.notMem (.inl hc)
  obtain ⟨p, hp⟩ := h
  rcases List.append_eq_append_iff.mp hp with ⟨n', hn, hq⟩ | ⟨s', -, hs'⟩
  · cases n' with
    | nil =>
      rw [List.nil_append] at hq
      exact fun d hd => hs d (hq ▸ List.mem_cons_of_mem c hd)
    | cons d n' =>
      obtain ⟨rfl, -⟩ := List.cons.inj hq
      exact absurd (hn ▸ List.mem_append_right p List.mem_cons_self) hword
  · intro d hd
    exact hs d (hs' ▸ List.mem_append_right s' (List.mem_cons_of_mem c hd))

/-- A word and blanks hold no start of an `as` with its spaces, not even of one that goes on. -/
theorem Word.cutAt?_as (n : Word) (hs : Blanks s) (u : List Char) :
    Text.cutAt? " as ".toList ((n.chars ++ s) ++ (" as ".toList ++ u)) =
      some (n.chars ++ s, u) := by
  apply Text.cutAt?_append_of_forall (by decide)
  intro q hne hq hpre
  obtain ⟨c, q, rfl⟩ := List.exists_cons_of_ne_nil hne
  obtain ⟨rfl, hnext⟩ := List.cons_prefix_cons.mp hpre
  -- the space is one of the blanks, so a blank comes next and not the `a`
  have hblanks : Blanks q := n.blanks_of_suffix (by decide) hs hq
  cases q with
  | nil => exact absurd (List.cons_prefix_cons.mp hnext).1 (by decide)
  | cons d q =>
    obtain ⟨rfl, -⟩ := List.cons_prefix_cons.mp hnext
    exact absurd (hblanks 'a' List.mem_cons_self) (by decide)

/-- A name and another one after an `as` with spaces, and blanks around the spaces. -/
theorem itemName?_of_renamed {n m : Word} (ha : Blanks a) (hb : Blanks b) (hs : Blanks s)
    (ht : Blanks t) (hn : n.chars ≠ "type".toList) :
    itemName? (a ++ ((n.chars ++ s ++ (" as ".toList ++ (t ++ m.chars))) ++ b)) =
      some (String.ofList m.chars) := by
  have hlast : ∀ c ∈ (n.chars ++ s ++ (" as ".toList ++ (t ++ m.chars))).getLast?,
      Text.isBlank c = false := by
    simpa only [List.append_assoc] using m.notBlank_getLast (n.chars ++ s ++ (" as ".toList ++ t))
  have hhead : ∀ c ∈ (n.chars ++ s ++ (" as ".toList ++ (t ++ m.chars))).head?,
      Text.isBlank c = false := by
    rw [List.append_assoc]
    exact n.notBlank_head_append _
  have hne : n.chars ++ s ++ (" as ".toList ++ (t ++ m.chars)) ≠ [] :=
    List.append_ne_nil_of_left_ne_nil (List.append_ne_nil_of_left_ne_nil n.ne_nil s) _
  have htype : ¬ "type ".toList <+: n.chars ++ s ++ (" as ".toList ++ (t ++ m.chars)) := by
    have hspace : Blanks [' '] := by decide
    have hgap : Separates (s ++ [' ']) := by
      refine ⟨fun c hc => ?_, by simp⟩
      rcases List.mem_append.mp hc with hc | hc
      · exact hs c hc
      · exact hspace c hc
    intro hpre
    apply hn
    apply Word.eq_type_of_prefix hgap (u := "as ".toList ++ (t ++ m.chars))
    simpa using hpre
  have hname : Text.strip (t ++ m.chars) = m.chars := by
    have hstrip := m.strip_pad ht (b := []) (by simp [Blanks])
    rwa [List.append_nil] at hstrip
  rw [itemName?, Text.strip_pad ha hb hhead hlast, if_neg (not_or.mpr ⟨hne, htype⟩),
    n.cutAt?_as hs]
  dsimp only
  rw [hname]

/-- In a plain layout a clause is read as what it stands for. -/
theorem itemName?_of_laid {c : Clause} (h : c.IsLaid True x) :
    itemName? x = c.exported?.map fun n => String.ofList n.chars := by
  cases h with
  | nothing hb =>
    have hstrip : Text.strip (x ++ ([] ++ [])) = [] :=
      Text.strip_pad hb (by simp) (by simp) (by simp)
    rw [List.append_nil, List.append_nil] at hstrip
    rw [itemName?, hstrip]
    exact if_pos (.inl rfl)
  | @value a b n ha hb =>
    have hspace : ' ' ∉ n.chars := n.notMem (.inl (by decide))
    have htype : ¬ "type ".toList <+: n.chars := fun hpre => hspace (hpre.subset (by decide))
    have hcut : Text.cutAt? " as ".toList n.chars = none := Text.cutAt?_of_notMem hspace
    rw [itemName?, n.strip_pad ha hb]
    simp only [n.ne_nil, htype, or_self, if_false, hcut]
    rfl
  | @renamed a b s t n m ha hs ht hb hplain =>
    obtain ⟨hbefore, hafter, htype⟩ := hplain trivial
    by_cases hn : n.chars = "type".toList
    · have hno := itemName?_of_type ha hb (htype hn) ("as".toList ++ t) (w := m)
      rw [Clause.exported?, if_pos hn, hn, Option.map_none]
      simpa only [List.append_assoc] using hno
    · obtain ⟨s', rfl⟩ := List.getLast?_eq_some_iff.mp hbefore
      obtain ⟨t', rfl⟩ := List.head?_eq_some_iff.mp hafter
      have hs' : Blanks s' := fun c hc => hs.blanks c (List.mem_append_left _ hc)
      have ht' : Blanks t' := fun c hc => ht.blanks c (List.mem_cons_of_mem _ hc)
      have hname := itemName?_of_renamed ha hb hs' ht' hn (m := m)
      rw [Clause.exported?, if_neg hn, Option.map_some, ← hname]
      simp
  | @type a b s n ha hs hb hplain =>
    exact itemName?_of_type ha hb (hplain trivial) [] (w := n)
  | @renamedType a b r s t n m ha hr hs ht hb hplain =>
    have hno := itemName?_of_type ha hb (hplain trivial)
      (n.chars ++ (s ++ ("as".toList ++ t))) (w := m)
    simpa only [List.append_assoc, Clause.exported?, Option.map_none] using hno

/-! ### Lists -/

/-- No clause has a comma or a brace in it. -/
theorem Clause.IsLaid.notMem {c : Clause} {d : Char} (hd : d = ',' ∨ d = '\x7d')
    (h : c.IsLaid plain x) : d ∉ x := by
  obtain ⟨hsign, hvisible, has, htype⟩ : d ∈ ['\x7b', '\x7d', ',', '*'] ∧
      Text.isBlank d = false ∧ d ∉ "as".toList ∧ d ∉ "type".toList := by
    rcases hd with rfl | rfl <;> decide
  have hblank {b : List Char} (hb : Blanks b) : d ∉ b := by
    intro hmem
    rw [hb d hmem] at hvisible
    cases hvisible
  have hword (w : Word) : d ∉ w.chars := w.notMem (.inr hsign)
  cases h with
  | nothing hb => exact hblank hb
  | value ha hb =>
    simp only [List.mem_append, hblank ha, hblank hb, hword, or_self, not_false_eq_true]
  | renamed ha hs ht hb _ =>
    simp only [List.mem_append, hblank ha, hblank hb, hblank hs.blanks, hblank ht.blanks, hword,
      has, or_self, not_false_eq_true]
  | type ha hs hb _ =>
    simp only [List.mem_append, hblank ha, hblank hb, hblank hs.blanks, hword, htype, or_self,
      not_false_eq_true]
  | renamedType ha hr hs ht hb _ =>
    simp only [List.mem_append, hblank ha, hblank hb, hblank hr.blanks, hblank hs.blanks,
      hblank ht.blanks, hword, has, htype, or_self, not_false_eq_true]

theorem notMem_of_laid {cs : List Clause} {ts : List (List Char)} {d : Char}
    (hd : d = ',' ∨ d = '\x7d') (h : List.Forall₂ (Clause.IsLaid plain) cs ts) :
    ∀ t ∈ ts, d ∉ t := by
  induction h with
  | nil => simp
  | cons hc _ ih => exact List.forall_mem_cons.mpr ⟨hc.notMem hd, ih⟩

theorem brace_notMem {cs : List Clause} {ts : List (List Char)}
    (h : List.Forall₂ (Clause.IsLaid plain) cs ts) : '\x7d' ∉ Text.joinWith [','] ts := by
  intro hmem
  rcases Text.mem_joinWith hmem with hcomma | ⟨t, ht, hmem⟩
  · exact absurd hcomma (by decide)
  · exact notMem_of_laid (.inr rfl) h t ht hmem

theorem filterMap_of_laid {cs : List Clause} {ts : List (List Char)}
    (h : List.Forall₂ (Clause.IsLaid True) cs ts) :
    ts.filterMap itemName? = (cs.filterMap Clause.exported?).map fun n => String.ofList n.chars := by
  induction h with
  | nil => rfl
  | @cons c t cs ts hc _ ih =>
    rw [List.filterMap_cons, List.filterMap_cons, itemName?_of_laid hc, ih]
    cases c.exported? <;> rfl

theorem listSymbols_of_laid {cs : List Clause} {ts : List (List Char)} (hne : cs ≠ [])
    (h : List.Forall₂ (Clause.IsLaid True) cs ts) (isForwarded : Bool) :
    listSymbols ⟨Text.joinWith [','] ts, isForwarded⟩ =
      (Phrase.list cs isForwarded).listed.map fun n => itemSymbol (String.ofList n.chars) := by
  cases isForwarded with
  | true => rfl
  | false =>
    have hts : ts ≠ [] := by
      rintro rfl
      exact hne (List.forall₂_nil_right_iff.mp h)
    have hfields := Text.fields_joinWith hts (notMem_of_laid (.inl rfl) h)
    show ((Text.fields ',' (Text.joinWith [','] ts)).filterMap itemName?).map itemSymbol = _
    rw [hfields, filterMap_of_laid h, List.map_map]
    rfl

theorem eq_append_of_word? {w : String} (h : word? w s = some t) : s = w.toList ++ t := by
  rw [word?, Text.dropInitial?] at h
  split at h
  · next hpre =>
    obtain ⟨u, rfl⟩ := hpre
    rw [List.drop_left] at h
    rw [Option.some.inj h]
  · cases h

/-! ### Declarations -/

/-- A name does not go on after the end of a word. -/
theorem span_append (s : List Char) (hr : EndsName r) :
    (s ++ r).takeWhile isNamePart = s.takeWhile isNamePart ∧
      (s ++ r).dropWhile isNamePart = s.dropWhile isNamePart ++ r := by
  induction s with
  | nil =>
    cases r with
    | nil => exact ⟨rfl, rfl⟩
    | cons c r =>
      have hc : isNamePart c = false := by simpa [EndsName] using hr
      simp [hc]
  | cons c s ih =>
    obtain ⟨htake, hdrop⟩ := ih
    cases hc : isNamePart c with
    | true => simp [hc, htake, hdrop]
    | false => simp [hc]

theorem name?_append (hs : s ≠ []) (hr : EndsName r) :
    name? (s ++ r) = (name? s).map fun (n, u) => (n, u ++ r) := by
  obtain ⟨c, s, rfl⟩ := List.exists_cons_of_ne_nil hs
  obtain ⟨htake, hdrop⟩ := span_append s hr
  rw [List.cons_append, name?, name?, htake, hdrop]
  split <;> rfl

theorem EndsName.endsWord (h : EndsName s) : endsWord s = true := by
  cases s with
  | nil => rfl
  | cons c s =>
    have hc : isNamePart c = false := by simpa [EndsName] using h
    have hword : Text.isWord c = false := (Bool.or_eq_false_iff.mp hc).1
    simp [Export.endsWord, hword]

theorem IsModifier.dropModifier_append {w : String} {isThere : Bool} (h : IsModifier w isThere x)
    (hs : dropBlanks s = s) (hw : word? w s = none) : dropModifier w (x ++ s) = s := by
  cases h with
  | absent => exact dropModifier_of_word? hw
  | present hb =>
    rw [List.append_assoc, dropModifier, word?_append, Option.bind_some, hb.blanks?_append hs]
    rfl

theorem IsModifier.startsIn {w : String} {isThere : Bool} {cs : List Char} {c : Char}
    (h : IsModifier w isThere x) (hw : w.toList.head? = some c) (hs : StartsIn cs s) :
    StartsIn (c :: cs) (x ++ s) := by
  cases h with
  | absent =>
    obtain ⟨d, hd, hhead⟩ := hs
    exact ⟨d, List.mem_cons_of_mem c hd, hhead⟩
  | present hb =>
    refine ⟨c, List.mem_cons_self, ?_⟩
    rw [List.append_assoc, List.head?_append, hw, Option.some_or]

theorem Opener.IsLaid.startsIn {o : Opener} (h : o.IsLaid x) (u : List Char) :
    StartsIn initials (x ++ u) := by
  have hword {w : String} (hw : w ∈ "function" :: "function*" :: declarators) (v : List Char) :
      StartsIn initials (w.toList ++ v) := by
    obtain ⟨c, hc, hhead⟩ := exists_initial hw
    exact ⟨c, hc, by rw [List.head?_append, hhead, Option.some_or]⟩
  cases h with
  | word hw =>
    apply hword
    rcases List.mem_cons.mp hw with rfl | hw
    · exact List.mem_cons_self
    · exact List.mem_cons_of_mem _ (List.mem_cons_of_mem _ hw)
  | generator hb =>
    rw [List.append_assoc]
    exact hword List.mem_cons_self _

/-- What stands after an opener and blanks; it is a word, so no star. -/
theorem Opener.IsLaid.declarator?_append {o : Opener} (h : o.IsLaid x) (hs : Separates s)
    (n : Word) (r : List Char) :
    declarator? (x ++ (s ++ (n.chars ++ r))) = some (n.chars ++ r) := by
  have hblanks : blanks? (s ++ (n.chars ++ r)) = some (n.chars ++ r) :=
    hs.blanks?_append (n.dropBlanks_append r)
  cases h with
  | word hw =>
    rcases List.mem_cons.mp hw with rfl | hw
    · have hstar : ∀ u, dropBlanks (s ++ (n.chars ++ r)) ≠ '*' :: u := by
        intro u hu
        obtain ⟨c, v, hn⟩ := List.exists_cons_of_ne_nil n.ne_nil
        rw [dropBlanks_append hs.blanks, n.dropBlanks_append, hn, List.cons_append] at hu
        obtain ⟨rfl, -⟩ := List.cons.inj hu
        exact n.notMem (.inr (by decide)) (hn ▸ List.mem_cons_self)
      rw [declarator?, word?_append]
      dsimp only
      split
      · next u hu => exact absurd hu (hstar u)
      · exact hblanks
    · rw [declarator?_append hw, hblanks]
  | @generator b hb =>
    have hstar : dropBlanks (b ++ '*' :: (s ++ (n.chars ++ r))) = '*' :: (s ++ (n.chars ++ r)) := by
      rw [dropBlanks_append hb]
      exact dropBlanks_cons (by decide) _
    rw [List.append_assoc, List.append_assoc, declarator?, word?_append]
    dsimp only
    rw [List.singleton_append, hstar]
    exact hblanks

/-- The modifiers and the opener of a declaration are passed over. -/
theorem declaration?_append {d e k : List Char} {declare async : Bool} {o : Opener}
    (hs : Separates s) (hd : IsModifier "declare" declare d) (ha : IsModifier "async" async e)
    (hk : o.IsLaid k) (hg : Separates t) (n : Word) (r : List Char) :
    declaration? ("export".toList ++ (s ++ (d ++ (e ++ (k ++ (t ++ (n.chars ++ r))))))) =
      name? (n.chars ++ r) := by
  have hopener := hk.startsIn (t ++ (n.chars ++ r))
  have hasync := ha.startsIn rfl hopener
  have hdeclare := hd.startsIn rfl hasync
  have hblanks := hs.blanks?_append (hdeclare.dropBlanks (by decide))
  rw [declaration?_of_start (start?_export _), hblanks, Option.bind_some,
    hd.dropModifier_append (hasync.dropBlanks (by decide)) (hasync.word? rfl (by decide)),
    ha.dropModifier_append (hopener.dropBlanks (by decide)) (hopener.word? rfl (by decide)),
    hk.declarator?_append hg, Option.bind_some]

theorem list?_declaration {d e k : List Char} {declare async : Bool} {o : Opener} (hs : Blanks s)
    (hd : IsModifier "declare" declare d) (ha : IsModifier "async" async e) (hk : o.IsLaid k)
    (u : List Char) : list? ("export".toList ++ (s ++ (d ++ (e ++ (k ++ u))))) = none := by
  have hstarts : StartsIn ('d' :: 'a' :: initials) (d ++ (e ++ (k ++ u))) :=
    hd.startsIn rfl (ha.startsIn rfl (hk.startsIn u))
  have hdrop := hstarts.dropBlanks (by decide)
  obtain ⟨c, hc, hhead⟩ := hstarts
  apply list?_eq_none (start?_export _)
  rw [dropBlanks_append hs, hdrop, hhead]
  intro hbrace
  obtain rfl := Option.some.inj hbrace
  exact absurd hc (by decide)

/-- Only `declare` starts like `default`, and goes on in another way. -/
theorem default?_declaration {d e k : List Char} {declare async : Bool} {o : Opener} (hs : Blanks s)
    (hd : IsModifier "declare" declare d) (ha : IsModifier "async" async e) (hk : o.IsLaid k)
    (u : List Char) : default? ("export".toList ++ (s ++ (d ++ (e ++ (k ++ u))))) = none := by
  have hasync := ha.startsIn rfl (hk.startsIn u)
  have hdeclare := hd.startsIn rfl hasync
  apply default?_eq_none (start?_export _)
  rw [dropBlanks_append hs, hdeclare.dropBlanks (by decide)]
  cases hd with
  | absent => exact hasync.word? rfl (by decide)
  | present _ => simp [word?, Text.dropInitial?]

/-! ### Lists in braces -/

theorem dropBlanks_brace (hb : Blanks b) (u : List Char) :
    dropBlanks (b ++ '\x7b' :: u) = '\x7b' :: u := by
  rw [dropBlanks_append hb]
  exact dropBlanks_cons (by decide) u

theorem declaration?_brace (hb : Blanks b) (u : List Char) :
    declaration? ("export".toList ++ (b ++ '\x7b' :: u)) = none := by
  apply declaration?_eq_none (start?_export _)
  all_goals rw [dropBlanks_brace hb]
  · exact word?_eq_none rfl (by decide) u
  · exact word?_eq_none rfl (by decide) u
  · exact declarator?_eq_none (by decide) u

theorem default?_brace (hb : Blanks b) (u : List Char) :
    default? ("export".toList ++ (b ++ '\x7b' :: u)) = none := by
  apply default?_eq_none (start?_export _)
  rw [dropBlanks_brace hb]
  exact word?_eq_none rfl (by decide) u

theorem list?_own (hb : Blanks b) (hx : '\x7d' ∉ x)
    (hu : (word? "from" (dropBlanks u)).filter endsWord = none) :
    list? ("export".toList ++ (b ++ '\x7b' :: (x ++ '\x7d' :: u))) =
      some (⟨x, false⟩, dropBlanks u) := by
  obtain ⟨htake, hdrop⟩ := span_brace hx u
  rw [list?, start?_export]
  simp only [Option.bind_eq_bind, Option.bind_some, dropBlanks_brace hb, htake, hdrop, hu]

theorem list?_forwarded {v : List Char} (hb : Blanks b) (hx : '\x7d' ∉ x)
    (hu : (word? "from" (dropBlanks u)).filter endsWord = some v) :
    list? ("export".toList ++ (b ++ '\x7b' :: (x ++ '\x7d' :: u))) = some (⟨x, true⟩, v) := by
  obtain ⟨htake, hdrop⟩ := span_brace hx u
  rw [list?, start?_export]
  simp only [Option.bind_eq_bind, Option.bind_some, dropBlanks_brace hb, htake, hdrop, hu]

theorem filter_from_eq_none (h : ¬ StartsFrom s) :
    (word? "from" (dropBlanks s)).filter endsWord = none := by
  apply Option.filter_eq_none_iff.mpr
  intro r hr hends
  exact h ⟨r, eq_append_of_word? hr, hends⟩

theorem list?_of_not_startsList (h : ¬ StartsList s) : list? s = none := by
  cases hstart : start? s with
  | none =>
    rw [list?, hstart]
    rfl
  | some t =>
    apply list?_eq_none hstart
    intro hhead
    obtain ⟨r, hr⟩ := List.head?_eq_some_iff.mp hhead
    have hsplit : t.takeWhile Text.isBlank ++ dropBlanks t = t := List.takeWhile_append_dropWhile
    refine h ⟨t.takeWhile Text.isBlank, r, fun c hc => List.mem_takeWhile_imp hc, ?_⟩
    rw [← hr, hsplit]
    exact eq_append_of_word? hstart

/-! ### Other exports -/

theorem dropBlanks_default_append (hs : Blanks s) (u : List Char) :
    dropBlanks (s ++ ("default".toList ++ u)) = "default".toList ++ u := by
  rw [dropBlanks_append hs, dropBlanks_default]

theorem declaration?_default (hs : Blanks s) (u : List Char) :
    declaration? ("export".toList ++ (s ++ ("default".toList ++ u))) = none := by
  apply declaration?_eq_none (start?_export _)
  all_goals rw [dropBlanks_default_append hs]
  · simp [word?, Text.dropInitial?]
  · exact word?_eq_none rfl (by decide) _
  · exact declarator?_eq_none (by decide) _

theorem list?_default (hs : Blanks s) (u : List Char) :
    list? ("export".toList ++ (s ++ ("default".toList ++ u))) = none := by
  apply list?_eq_none (start?_export _)
  rw [dropBlanks_default_append hs]
  simp

theorem default?_default (hs : Separates s) (hu : EndsName u) :
    default? ("export".toList ++ (s ++ ("default".toList ++ u))) = some ((), u) := by
  rw [default?_of_start (start?_export _), hs.blanks?_append (dropBlanks_default u),
    Option.bind_some, word?_append, Option.bind_some, if_pos hu.endsWord]

/-- A pattern is no name. -/
theorem quiet_export_pattern {w : String} {c : Char} (hw : w ∈ declarators) (hc : c ∈ brackets)
    (hs : Separates s) (hb : Blanks b) (r : List Char) :
    Quiet ("export".toList ++ (s ++ (w.toList ++ (b ++ c :: r)))) := by
  have hopener : Opener.IsLaid (.word w (List.mem_cons_of_mem _ hw)) w.toList := .word _
  have hstarts := hopener.startsIn (b ++ c :: r)
  have hbracket : Text.isBlank c = false ∧ isNameStart c = false := by
    simp only [brackets, List.mem_cons, List.not_mem_nil, or_false] at hc
    rcases hc with rfl | rfl <;> decide
  obtain ⟨hblank, hname⟩ := hbracket
  constructor
  · rw [declaration?_of_start (start?_export _), hs.blanks?_append (hstarts.dropBlanks (by decide)),
      Option.bind_some, dropModifier_of_word? (hstarts.word? rfl (by decide)),
      dropModifier_of_word? (hstarts.word? rfl (by decide)), declarator?_append hw]
    apply Option.bind_eq_none_iff.mpr
    intro u hu
    rw [blanks?_eq_some hu, dropBlanks_append hb, dropBlanks_cons hblank, name?, hname]
    rfl
  · exact list?_declaration hs.blanks .absent .absent hopener _
  · exact default?_declaration hs.blanks .absent .absent hopener _

/-- What is exported in another way starts with a word that no reader looks for. -/
theorem exists_head_of_foreign {w : String} (hw : w ∈ foreignWords)
    (hr : w ∉ foreignSigns → EndsName r) :
    (∃ c, c ∉ 'd' :: '\x7b' :: initials ∧ Text.isBlank c = false ∧
      (w.toList ++ r).head? = some c) ∧ word? "async" (w.toList ++ r) = none := by
  have hall : ∀ w ∈ foreignWords, ¬ "async".toList <+: w.toList ∧ w.toList.head?.any (fun c =>
      c ∉ 'd' :: '\x7b' :: initials && ! Text.isBlank c) = true := by
    decide
  have hsigns : ∀ w ∈ foreignSigns, w.toList.head? ≠ some 'a' := by decide
  obtain ⟨hasync, hhead⟩ := hall w hw
  obtain ⟨c, hc⟩ := Option.isSome_iff_exists.mp (Option.isSome_of_any hhead)
  obtain ⟨u, hcons⟩ := List.head?_eq_some_iff.mp hc
  rw [hc, Option.any_some, Bool.and_eq_true, decide_eq_true_eq, Bool.not_eq_true'] at hhead
  refine ⟨⟨c, hhead.1, hhead.2, by rw [List.head?_append, hc, Option.some_or]⟩, ?_⟩
  by_cases hsign : w ∈ foreignSigns
  · have ha : 'a' ≠ c := by
      rintro rfl
      exact hsigns w hsign hc
    rw [hcons]
    exact word?_eq_none rfl ha _
  -- a word ends where it does, so `as` is not the start of `async`
  · exact if_neg fun hpre => hasync (prefix_of_endsName (by decide) (hr hsign) hpre)

/-- What is exported in another way is nothing to any reader. -/
theorem quiet_export_foreign {d : List Char} {declare : Bool} {w : String} (hw : w ∈ foreignWords)
    (hs : Blanks s) (hd : IsModifier "declare" declare d) (hr : w ∉ foreignSigns → EndsName r) :
    Quiet ("export".toList ++ (s ++ (d ++ (w.toList ++ r)))) := by
  obtain ⟨⟨c, hc, hblank, hhead⟩, hasync⟩ := exists_head_of_foreign hw hr
  obtain ⟨hne, hbrace, hinitials⟩ : 'd' ∉ [c] ∧ '\x7b' ∉ ['d', c] ∧ c ∉ initials := by
    simp only [List.mem_cons, not_or] at hc
    simp [hc, Ne.symm hc.1, Ne.symm hc.2.1]
  have hword : StartsIn [c] (w.toList ++ r) := ⟨c, List.mem_singleton_self c, hhead⟩
  have hstarts : StartsIn ['d', c] (d ++ (w.toList ++ r)) := hd.startsIn rfl hword
  have hvisible : Text.isBlank 'd' = false := by decide
  have hdrop : dropBlanks (s ++ (d ++ (w.toList ++ r))) = d ++ (w.toList ++ r) := by
    rw [dropBlanks_append hs]
    exact hstarts.dropBlanks (by simp [hblank, hvisible])
  have hopener : declarator? (w.toList ++ r) = none := by
    obtain ⟨u, hu⟩ := List.head?_eq_some_iff.mp hhead
    rw [hu]
    exact declarator?_eq_none hinitials u
  constructor
  · rw [declaration?_of_start (start?_export _)]
    apply Option.bind_eq_none_iff.mpr
    intro u hu
    rw [blanks?_eq_some hu, hdrop,
      hd.dropModifier_append (hword.dropBlanks (by simp [hblank])) (hword.word? rfl hne),
      dropModifier_of_word? hasync, hopener, Option.bind_none]
  · obtain ⟨e, he, hfirst⟩ := hstarts
    apply list?_eq_none (start?_export _)
    rw [hdrop, hfirst]
    rintro heq
    exact hbrace (Option.some.inj heq ▸ he)
  · apply default?_eq_none (start?_export _)
    rw [hdrop]
    cases hd with
    | absent => exact hword.word? rfl hne
    | present _ => simp [word?, Text.dropInitial?]

/-! ### Statements -/

/-- What a reader makes of the text `x` of a statement, which `r` comes after; what it finds stands
for `f p`. -/
inductive Reading {α β : Type} (m : List Char → Option (α × List Char)) (g : α → List β)
    (f : Phrase → List β) (p : Phrase) (x r : List Char) : Prop
  | nothing (hnone : m (x ++ r) = none) (hvalue : f p = [])
  | taken {a : α} {w : List Char} (hsome : m (x ++ r) = some (a, w ++ r)) (hvalue : g a = f p)
  -- with the blanks after it, which can stand before a `from`
  | takenOn {a : α} (hown : p.isOwnList = true) (hsome : m (x ++ r) = some (a, dropBlanks r))
      (hvalue : g a = f p) (hnext : ¬ StartsList r → m r = none)

theorem declaration?_of_laid {p : Phrase} (h : p.IsLaid True x)
    (hr : p.endsInWord = true → EndsName r) :
    Reading declaration? (fun n => [n]) (fun p => p.declared?.toList) p x r := by
  cases h with
  | @declaration s d e k g _ _ o n hs hd ha hk hg hgap hn =>
    have hgap' : Separates g := ⟨hg, fun hnil => (hgap hnil).2 trivial⟩
    have hread := declaration?_append hs hd ha hk hgap' n r
    rw [name?_append n.ne_nil (hr rfl)] at hread
    simp only [← List.append_assoc] at hread ⊢
    cases hname : name? n.chars with
    | none =>
      rw [hname] at hread
      exact .nothing hread (by simp [Phrase.declared?, hname])
    | some v =>
      rw [hname] at hread
      exact .taken hread (by simp [Phrase.declared?, hname])
  | pattern hw hc hs hg =>
    apply Reading.nothing _ rfl
    simpa only [List.append_assoc, List.singleton_append] using
      (quiet_export_pattern hw hc hs hg r).declaration
  | list hb _ _ =>
    apply Reading.nothing _ rfl
    simpa only [List.append_assoc, List.cons_append] using declaration?_brace hb _
  | forwarded hb _ _ _ =>
    apply Reading.nothing _ rfl
    simpa only [List.append_assoc, List.cons_append] using declaration?_brace hb _
  | standard hs =>
    apply Reading.nothing _ rfl
    simpa only [List.append_assoc] using declaration?_default hs.blanks r
  | foreign hw hs hd _ =>
    have hquiet := quiet_export_foreign hw hs hd fun hsign => hr (decide_eq_true hsign)
    apply Reading.nothing _ rfl
    simpa only [List.append_assoc] using hquiet.declaration

/-- The symbols that a statement lists. -/
def Phrase.listedSymbols (p : Phrase) : List Symbol :=
  p.listed.map fun n => itemSymbol (String.ofList n.chars)

theorem list?_of_laid {p : Phrase} (h : p.IsLaid True x) (hr : p.endsInWord = true → EndsName r)
    (hfrom : p.isOwnList = true → ¬ StartsFrom r) :
    Reading list? listSymbols Phrase.listedSymbols p x r := by
  cases h with
  | declaration hs hd ha hk _ _ _ =>
    apply Reading.nothing _ rfl
    simpa only [List.append_assoc] using list?_declaration hs.blanks hd ha hk _
  | pattern hw hc hs hg =>
    apply Reading.nothing _ rfl
    simpa only [List.append_assoc, List.singleton_append] using
      (quiet_export_pattern hw hc hs hg r).list
  | @list b cs ts hb hne hcs =>
    have hread := list?_own hb (brace_notMem hcs) (filter_from_eq_none (hfrom rfl))
    refine .takenOn rfl ?_ (listSymbols_of_laid hne hcs false) list?_of_not_startsList
    simpa only [List.append_assoc, List.cons_append, List.nil_append] using hread
  | @forwarded b c cs ts hb hne hcs hc =>
    have hdrop : dropBlanks (c ++ ("from".toList ++ r)) = "from".toList ++ r := by
      rw [dropBlanks_append hc]
      exact dropBlanks_cons (by decide) _
    have hends : endsWord r = true := (hr rfl).endsWord
    have hword : (word? "from" (dropBlanks (c ++ ("from".toList ++ r)))).filter endsWord =
        some r := by
      rw [hdrop, word?_append, Option.filter_some, if_pos hends]
    have hread := list?_forwarded hb (brace_notMem hcs) hword
    refine .taken (w := []) ?_ (listSymbols_of_laid hne hcs true)
    simpa only [List.append_assoc, List.cons_append, List.nil_append] using hread
  | standard hs =>
    apply Reading.nothing _ rfl
    simpa only [List.append_assoc] using list?_default hs.blanks r
  | foreign hw hs hd _ =>
    have hquiet := quiet_export_foreign hw hs hd fun hsign => hr (decide_eq_true hsign)
    apply Reading.nothing _ rfl
    simpa only [List.append_assoc] using hquiet.list

theorem default?_of_laid {p : Phrase} (h : p.IsLaid True x)
    (hr : p.endsInWord = true → EndsName r) :
    Reading default? (fun _ => [()]) (fun p => if p.isStandard then [()] else []) p x r := by
  cases h with
  | declaration hs hd ha hk _ _ _ =>
    apply Reading.nothing _ rfl
    simpa only [List.append_assoc] using default?_declaration hs.blanks hd ha hk _
  | pattern hw hc hs hg =>
    apply Reading.nothing _ rfl
    simpa only [List.append_assoc, List.singleton_append] using
      (quiet_export_pattern hw hc hs hg r).default
  | list hb _ _ =>
    apply Reading.nothing _ rfl
    simpa only [List.append_assoc, List.cons_append] using default?_brace hb _
  | forwarded hb _ _ _ =>
    apply Reading.nothing _ rfl
    simpa only [List.append_assoc, List.cons_append] using default?_brace hb _
  | standard hs =>
    refine .taken (a := ()) (w := []) ?_ rfl
    simpa only [List.append_assoc, List.nil_append] using default?_default hs (hr rfl)
  | foreign hw hs hd _ =>
    have hquiet := quiet_export_foreign hw hs hd fun hsign => hr (decide_eq_true hsign)
    apply Reading.nothing _ rfl
    simpa only [List.append_assoc] using hquiet.default

end Export

end ExtTypes

import ExtTypes.Proofs.Import.Grammar
import ExtTypes.Proofs.Path.RoundTrip

/-! What the readers make of a text that starts with a statement. Main statements:
`declaration?_text`, `list?_text` and `default?_text`: a reader takes the statements of its own kind
and leaves what follows them; and `itemName?_text`. -/
namespace ExtTypes

namespace Text

/-- Blanks around a text that has none at its ends. -/
theorem strip_pad {before core after : List Char} (hbefore : ∀ c ∈ before, isBlank c = true)
    (hafter : ∀ c ∈ after, isBlank c = true) (hhead : ∀ c ∈ core.head?, isBlank c = false)
    (hlast : ∀ c ∈ core.getLast?, isBlank c = false) :
    strip (before ++ (core ++ after)) = core := by
  have hdrop (s : List Char) (h : ∀ c ∈ s.head?, isBlank c = false) : s.dropWhile isBlank = s := by
    cases s with
    | nil => rfl
    | cons c s =>
      have hc : isBlank c = false := h c rfl
      simp [hc]
  unfold strip stripBy
  rw [List.dropWhile_append_of_pos hbefore]
  cases core with
  | nil =>
    rw [List.nil_append, List.dropWhile_eq_nil_iff.mpr hafter]
    rfl
  | cons c core =>
    have hrest : ∀ d ∈ ((c :: core) ++ after).head?, isBlank d = false := hhead
    have hrev : ∀ d ∈ after.reverse, isBlank d = true := by simpa using hafter
    rw [hdrop _ hrest, List.reverse_append, List.dropWhile_append_of_pos hrev, hdrop,
      List.reverse_reverse]
    rwa [List.head?_reverse]

/-- A text is cut where the separator can start for the first time. -/
theorem cutAt?_append {c : Char} {pat a : List Char} (h : c ∉ a) (b : List Char) :
    cutAt? (c :: pat) (a ++ (c :: pat ++ b)) = some (a, b) := by
  induction a with
  | nil =>
    have hpre : c :: pat <+: c :: (pat ++ b) := List.prefix_append (c :: pat) b
    simp [cutAt?, hpre]
  | cons d a ih =>
    obtain ⟨hd, ha⟩ := not_or.mp (mt List.mem_cons.mpr h)
    have hpre : ¬ c :: pat <+: d :: (a ++ (c :: pat ++ b)) := by
      intro hpre
      exact hd (List.cons_prefix_cons.mp hpre).1
    rw [List.cons_append, cutAt?, if_neg hpre, ih ha]
    rfl

theorem cutAt?_of_notMem {c : Char} {pat s : List Char} (h : c ∉ s) :
    cutAt? (c :: pat) s = none := by
  induction s with
  | nil => rfl
  | cons d s ih =>
    obtain ⟨hd, hs⟩ := not_or.mp (mt List.mem_cons.mpr h)
    have hpre : ¬ c :: pat <+: d :: s := fun hpre => hd (List.cons_prefix_cons.mp hpre).1
    rw [cutAt?, if_neg hpre, ih hs]
    rfl

end Text

namespace Export

theorem dropBlanks_append {b : List Char} (h : ∀ c ∈ b, Text.isBlank c = true) (s : List Char) :
    dropBlanks (b ++ s) = dropBlanks s :=
  List.dropWhile_append_of_pos h

theorem dropBlanks_cons {c : Char} (h : Text.isBlank c = false) (s : List Char) :
    dropBlanks (c :: s) = c :: s := by
  simp [dropBlanks, h]

theorem word?_append (w : String) (s : List Char) : word? w (w.toList ++ s) = some s := by
  have hpre : w.toList <+: w.toList ++ s := List.prefix_append _ _
  rw [word?, Text.dropInitial?, if_pos hpre, List.drop_left]

theorem word?_eq_none {w : String} {c d : Char} (hw : w.toList.head? = some d) (h : d ≠ c)
    (s : List Char) : word? w (c :: s) = none := by
  obtain ⟨t, ht⟩ := List.head?_eq_some_iff.mp hw
  rw [word?, Text.dropInitial?, ht, if_neg]
  intro hpre
  exact h (List.cons_prefix_cons.mp hpre).1

theorem Gap.dropBlanks_append (g : Gap) (s : List Char) :
    dropBlanks (g.chars ++ s) = dropBlanks s :=
  Export.dropBlanks_append g.isBlank s

/-- The blanks before a text that starts with none. -/
theorem Space.blanks?_append (g : Space) {s : List Char} (h : dropBlanks s = s) :
    blanks? (g.chars ++ s) = some s := by
  have hdrop := g.dropBlanks_append s
  cases hg : g.chars with
  | nil => exact absurd hg g.ne_nil
  | cons c b =>
    have hc : Text.isBlank c = true := g.isBlank c (hg ▸ List.mem_cons_self)
    rw [hg, List.cons_append] at hdrop
    have hb : dropBlanks (b ++ s) = s := by
      rw [h] at hdrop
      simpa [dropBlanks, hc] using hdrop
    rw [List.cons_append, blanks?, if_pos hc, hb]

theorem blanks?_eq_some {s t : List Char} (h : blanks? s = some t) : t = dropBlanks s := by
  cases s with
  | nil => cases h
  | cons c s =>
    rw [blanks?] at h
    split at h
    · next hc =>
      obtain rfl := Option.some.inj h
      simp [dropBlanks, hc]
    · cases h

namespace Ident

variable (n : Ident)

theorem dropBlanks_text (s : List Char) : dropBlanks (n.text ++ s) = n.text ++ s :=
  dropBlanks_cons (n.notBlank_of_mem List.mem_cons_self) _

theorem notBlank_head_text (s : List Char) : ∀ c ∈ (n.text ++ s).head?, Text.isBlank c = false := by
  intro c hc
  obtain rfl : n.first = c := Option.some.inj hc
  exact n.notBlank_of_mem List.mem_cons_self

theorem name?_text {s : List Char} (h : s.head?.all (! isNamePart ·) = true) :
    name? (n.text ++ s) = some (n.text, s) := by
  have hstart := n.isNameStart_first
  have htake : s.takeWhile isNamePart = [] ∧ s.dropWhile isNamePart = s := by
    cases s with
    | nil => exact ⟨rfl, rfl⟩
    | cons c s =>
      have hc : isNamePart c = false := by simpa using h
      simp [hc]
  show name? (n.first :: (n.others ++ s)) = _
  have hothers := List.all_eq_true.mp n.isNamePart_others
  rw [name?, if_pos hstart, List.takeWhile_append_of_pos hothers,
    List.dropWhile_append_of_pos hothers, htake.1, htake.2, List.append_nil]
  rfl

end Ident

theorem start?_text (st : Statement) (s : List Char) :
    start? (st.text ++ s) = some (st.body ++ s) := by
  have he : Text.isBlank 'e' = false := by decide
  have htext : st.text ++ s = "export".toList ++ (st.body ++ s) :=
    List.append_assoc "export".toList st.body s
  have hdrop : dropBlanks ("export".toList ++ (st.body ++ s)) = "export".toList ++ (st.body ++ s) :=
    dropBlanks_cons he _
  rw [start?, htext, hdrop, word?_append]

theorem start?_append {b : List Char} (h : ∀ c ∈ b, Text.isBlank c = true) (s : List Char) :
    start? (b ++ s) = start? s := by
  rw [start?, start?, dropBlanks_append h]

/-- The word before a declaration that is there or not. -/
theorem dropModifier_optional (w : String) (o : Option Space) {s : List Char}
    (hs : dropBlanks s = s) (hw : word? w s = none) : dropModifier w (optional w o ++ s) = s := by
  cases o with
  | none =>
    rw [optional, List.nil_append, dropModifier, hw]
    rfl
  | some g =>
    have hblanks : blanks? (g.chars ++ s) = some s := g.blanks?_append hs
    rw [optional, List.append_assoc, dropModifier, word?_append, Option.bind_some, hblanks]
    rfl

/-- A modifier is not dropped from a text that starts in another way. -/
theorem dropModifier_of_word? {w : String} {s : List Char} (h : word? w s = none) :
    dropModifier w s = s := by
  rw [dropModifier, h]
  rfl

/-- The text starts with one of these characters. -/
def StartsIn (cs s : List Char) : Prop := ∃ c ∈ cs, s.head? = some c

namespace StartsIn

variable {cs s : List Char}

theorem dropBlanks (h : StartsIn cs s) (hcs : (cs.all fun c => ! Text.isBlank c) = true) :
    dropBlanks s = s := by
  obtain ⟨c, hc, hs⟩ := h
  obtain ⟨t, rfl⟩ := List.head?_eq_some_iff.mp hs
  have hblank : Text.isBlank c = false := by simpa using List.all_eq_true.mp hcs c hc
  exact dropBlanks_cons hblank t

theorem word? (h : StartsIn cs s) {w : String} {d : Char} (hw : w.toList.head? = some d)
    (hd : d ∉ cs) : word? w s = none := by
  obtain ⟨c, hc, hs⟩ := h
  obtain ⟨t, rfl⟩ := List.head?_eq_some_iff.mp hs
  apply word?_eq_none hw
  rintro rfl
  exact hd hc

theorem optional (h : StartsIn cs s) {w : String} {d : Char} (hw : w.toList.head? = some d)
    (o : Option Space) : StartsIn (d :: cs) (optional w o ++ s) := by
  cases o with
  | none =>
    obtain ⟨c, hc, hs⟩ := h
    exact ⟨c, List.mem_cons_of_mem d hc, hs⟩
  | some g =>
    refine ⟨d, List.mem_cons_self, ?_⟩
    rw [Export.optional, List.append_assoc, List.head?_append, hw, Option.some_or]

end StartsIn

/-- The letters with which a keyword can start. -/
def initials : List Char := ['f', 'c', 'l', 'v', 'e']

theorem exists_initial {w : String} (h : w ∈ "function" :: "function*" :: declarators) :
    ∃ c ∈ initials, w.toList.head? = some c := by
  have hall : ∀ w ∈ "function" :: "function*" :: declarators,
      w.toList.head?.any (· ∈ initials) = true := by decide
  have hinitial := hall w h
  cases hhead : w.toList.head? with
  | none =>
    rw [hhead] at hinitial
    cases hinitial
  | some c =>
    rw [hhead] at hinitial
    exact ⟨c, of_decide_eq_true hinitial, rfl⟩

theorem declarator?_eq_none {c : Char} (h : c ∉ initials) (s : List Char) :
    declarator? (c :: s) = none := by
  have hword : ∀ w ∈ "function" :: "function*" :: declarators, word? w (c :: s) = none := by
    intro w hw
    obtain ⟨d, hd, hhead⟩ := exists_initial hw
    apply word?_eq_none hhead
    rintro rfl
    exact h hd
  have hothers : declarators.findSome? (word? · (c :: s)) = none := by
    apply List.findSome?_eq_none_iff.mpr
    intro w hw
    exact hword w (List.mem_cons_of_mem _ (List.mem_cons_of_mem _ hw))
  rw [declarator?, hword "function" List.mem_cons_self]
  dsimp only
  rw [hothers]
  rfl

theorem declarator?_append {w : String} (hw : w ∈ declarators) (u : List Char) :
    declarator? (w.toList ++ u) = blanks? u := by
  have hapart : ∀ v ∈ "function" :: declarators, ∀ w ∈ declarators, v ≠ w →
      ¬ v.toList <+: w.toList ∧ ¬ w.toList <+: v.toList := by
    decide
  -- no other word is tried with success
  have hother : ∀ v ∈ "function" :: declarators, v ≠ w → word? v (w.toList ++ u) = none := by
    intro v hv hne
    obtain ⟨hvw, hwv⟩ := hapart v hv w hw hne
    apply if_neg
    intro hpre
    rcases List.prefix_or_prefix_of_prefix hpre (List.prefix_append w.toList u) with h | h
    · exact hvw h
    · exact hwv h
  have hfunction : word? "function" (w.toList ++ u) = none := by
    apply hother _ List.mem_cons_self
    rintro rfl
    exact absurd hw (by decide)
  obtain ⟨before, after, hsplit, hbefore⟩ := List.eq_append_cons_of_mem hw
  have hfound : declarators.findSome? (word? · (w.toList ++ u)) = some u := by
    apply List.findSome?_eq_some_iff.mpr
    refine ⟨before, w, after, hsplit, word?_append w u, fun v hv => ?_⟩
    have hmem : v ∈ declarators := hsplit ▸ List.mem_append_left _ hv
    exact hother v (List.mem_cons_of_mem _ hmem) fun h => hbefore (h ▸ hv)
  rw [declarator?, hfunction]
  dsimp only
  rw [hfound, Option.bind_some]

namespace Keyword

variable (k : Keyword)

theorem startsIn_text (s : List Char) : StartsIn initials (k.val.toList ++ s) := by
  obtain ⟨c, hc, hhead⟩ := exists_initial k.property
  exact ⟨c, hc, by rw [List.head?_append, hhead, Option.some_or]⟩

theorem declarator?_text (g : Space) (n : Ident) (s : List Char) :
    declarator? (k.val.toList ++ (g.chars ++ (n.text ++ s))) = some (n.text ++ s) := by
  have hgap : blanks? (g.chars ++ (n.text ++ s)) = some (n.text ++ s) :=
    g.blanks?_append (n.dropBlanks_text s)
  obtain ⟨w, hw⟩ := k
  rcases List.mem_cons.mp hw with rfl | hw
  -- what follows the blanks is a name, so it is not the star of a generator
  · have hstar : n.first ≠ '*' := by
      intro he
      have hpart := isNamePart_of_isNameStart n.isNameStart_first
      rw [he] at hpart
      exact absurd hpart (by decide)
    have hdrop : dropBlanks (g.chars ++ (n.text ++ s)) = n.first :: (n.others ++ s) := by
      rw [g.dropBlanks_append, n.dropBlanks_text]
      rfl
    rw [declarator?, word?_append]
    dsimp only
    rw [hdrop]
    split
    · next heq => exact absurd (List.cons.inj heq).1 hstar
    · exact hgap
  rcases List.mem_cons.mp hw with rfl | hw
  · have hword : word? "function" ("function*".toList ++ (g.chars ++ (n.text ++ s))) =
        some ('*' :: (g.chars ++ (n.text ++ s))) :=
      word?_append "function" ('*' :: (g.chars ++ (n.text ++ s)))
    have hstar : Text.isBlank '*' = false := by decide
    rw [declarator?, hword]
    dsimp only
    rw [dropBlanks_cons hstar]
    exact hgap
  · rw [declarator?_append hw, hgap]

end Keyword

section

variable (declare async : Option Space) (k : Keyword) (s : List Char)

/-- What is left of a declaration when `declare` is dropped. -/
theorem startsIn_undeclared :
    StartsIn ('a' :: initials) (optional "async" async ++ (k.val.toList ++ s)) :=
  (k.startsIn_text s).optional rfl async

theorem startsIn_declarationFrom :
    StartsIn ('d' :: 'a' :: initials) (declarationFrom declare async k s) :=
  (startsIn_undeclared async k s).optional rfl declare

theorem dropBlanks_declarationFrom :
    dropBlanks (declarationFrom declare async k s) = declarationFrom declare async k s :=
  (startsIn_declarationFrom declare async k s).dropBlanks (by decide)

/-- Only `declare` starts like `default`, and goes on in another way. -/
theorem word?_default_declarationFrom :
    word? "default" (declarationFrom declare async k s) = none := by
  cases declare with
  | some g => simp [declarationFrom, optional, word?, Text.dropInitial?]
  | none => exact (startsIn_undeclared async k s).word? rfl (by decide)

theorem dropModifiers_declarationFrom :
    dropModifier "async" (dropModifier "declare" (declarationFrom declare async k s)) =
      k.val.toList ++ s := by
  have hkeyword := k.startsIn_text s
  have hrest := startsIn_undeclared async k s
  unfold declarationFrom
  rw [dropModifier_optional "declare" declare (hrest.dropBlanks (by decide))
      (hrest.word? rfl (by decide)),
    dropModifier_optional "async" async (hkeyword.dropBlanks (by decide))
      (hkeyword.word? rfl (by decide))]

end

namespace Statement

theorem body_declaration (space : Space) (declare async : Option Space) (keyword : Keyword)
    (gap : Space) (n : Ident) (s : List Char) :
    (declaration space declare async keyword gap n).body ++ s =
      space.chars ++ declarationFrom declare async keyword (gap.chars ++ (n.text ++ s)) := by
  simp [body, declarationFrom]

theorem dropBlanks_body_list (before : Gap) (items : List Item) (after : Gap) (isForwarded : Bool)
    (s : List Char) : dropBlanks ((list before items after isForwarded).body ++ s) =
      '\x7b' :: (Text.joinWith [','] (items.map Item.text) ++
        '\x7d' :: (after.chars ++ ((if isForwarded then "from".toList else []) ++ s))) := by
  have hbrace : Text.isBlank '\x7b' = false := by decide
  rw [body, List.append_assoc, before.dropBlanks_append, List.cons_append, dropBlanks_cons hbrace]
  simp

end Statement

theorem dropBlanks_default (s : List Char) :
    dropBlanks ("default".toList ++ s) = "default".toList ++ s :=
  dropBlanks_cons (by decide) _

theorem declaration?_text (st : Statement) {s : List Char} (h : st.isEndedBy s = true) :
    declaration? (st.text ++ s) = st.declared?.map fun n => (n.text, s) := by
  unfold declaration?
  rw [start?_text]
  cases st with
  | declaration space declare async keyword gap n =>
    have hspace := space.blanks?_append
      (dropBlanks_declarationFrom declare async keyword (gap.chars ++ (n.text ++ s)))
    simp only [Statement.body_declaration, Option.bind_eq_bind, Option.bind_some, hspace]
    rw [dropModifiers_declarationFrom, keyword.declarator?_text, Option.bind_some]
    exact n.name?_text h
  | list before items after isForwarded =>
    simp only [Option.bind_eq_bind, Option.bind_some]
    -- blanks may be missing before the brace, and no keyword starts with one
    cases hblanks : blanks? ((Statement.list before items after isForwarded).body ++ s) with
    | none => rfl
    | some t =>
      have ht := blanks?_eq_some hblanks
      rw [Statement.dropBlanks_body_list] at ht
      have hdeclare : word? "declare" t = none := ht ▸ word?_eq_none rfl (by decide) _
      have hasync : word? "async" t = none := ht ▸ word?_eq_none rfl (by decide) _
      have hdeclarator : declarator? t = none := ht ▸ declarator?_eq_none (by decide) _
      rw [Option.bind_some, dropModifier_of_word? hdeclare, dropModifier_of_word? hasync,
        hdeclarator]
      rfl
  | standard space =>
    -- `default` starts like `declare`, which the reader looks for first
    have hspace := space.blanks?_append (dropBlanks_default s)
    have hdeclare : word? "declare" ("default".toList ++ s) = none := by
      simp [word?, Text.dropInitial?]
    have hasync : word? "async" ("default".toList ++ s) = none := word?_eq_none rfl (by decide) _
    have hdeclarator : declarator? ("default".toList ++ s) = none :=
      declarator?_eq_none (by decide) _
    simp only [Statement.body, List.append_assoc, Option.bind_eq_bind, Option.bind_some, hspace]
    rw [dropModifier_of_word? hdeclare, dropModifier_of_word? hasync, hdeclarator]
    rfl

/-- Where the blanks end, no list starts. -/
theorem list?_eq_none {s t : List Char} (hstart : start? s = some t)
    (h : (dropBlanks t).head? ≠ some '\x7b') : list? s = none := by
  rw [list?, hstart]
  simp only [Option.bind_eq_bind, Option.bind_some]
  split
  · next heq =>
    rw [heq] at h
    exact absurd rfl h
  · rfl

/-- A list ends at the first closing brace. -/
theorem span_brace {x : List Char} (hx : '\x7d' ∉ x) (u : List Char) :
    (x ++ '\x7d' :: u).takeWhile (· ≠ '\x7d') = x ∧
      (x ++ '\x7d' :: u).dropWhile (· ≠ '\x7d') = '\x7d' :: u := by
  have hx' : ∀ c ∈ x, decide (c ≠ '\x7d') = true := by
    intro c hc
    apply decide_eq_true
    rintro rfl
    exact hx hc
  rw [List.takeWhile_append_of_pos hx', List.dropWhile_append_of_pos hx']
  simp

/-- The items have no closing brace among them. -/
theorem span_items (items : List Item) (s : List Char) :
    (Text.joinWith [','] (items.map Item.text) ++ '\x7d' :: s).takeWhile (· ≠ '\x7d') =
        Text.joinWith [','] (items.map Item.text) ∧
      (Text.joinWith [','] (items.map Item.text) ++ '\x7d' :: s).dropWhile (· ≠ '\x7d') =
        '\x7d' :: s :=
  span_brace (Item.notMem_joinWith (by decide) (by decide) (by decide) items) s

theorem list?_text (st : Statement) {s : List Char} (h : st.isEndedBy s = true) :
    list? (st.text ++ s) = st.nameList?.map fun l => (l, s) := by
  have hstart := start?_text st s
  cases st with
  | declaration space declare async keyword gap n =>
    apply list?_eq_none hstart
    obtain ⟨c, hc, hhead⟩ := startsIn_declarationFrom declare async keyword
      (gap.chars ++ (n.text ++ s))
    rw [Statement.body_declaration, space.dropBlanks_append, dropBlanks_declarationFrom, hhead]
    intro hbrace
    obtain rfl := Option.some.inj hbrace
    exact absurd hc (by decide)
  | standard space =>
    apply list?_eq_none hstart
    rw [Statement.body, List.append_assoc, space.dropBlanks_append, dropBlanks_default]
    simp
  | list before items after isForwarded =>
    let tail := after.chars ++ ((if isForwarded then "from".toList else []) ++ s)
    have hopen := Statement.dropBlanks_body_list before items after isForwarded s
    obtain ⟨htake, hdrop⟩ := span_items items tail
    rw [list?, hstart]
    simp only [Option.bind_eq_bind, Option.bind_some, hopen, hdrop, htake, tail]
    cases isForwarded with
    -- the semicolon stops the blanks that are passed over in search of a `from`
    | false =>
      have hsemicolon : s.head? = some ';' := of_decide_eq_true h
      obtain ⟨t, rfl⟩ := List.head?_eq_some_iff.mp hsemicolon
      have hrest : dropBlanks tail = ';' :: t := by
        show dropBlanks (after.chars ++ ';' :: t) = ';' :: t
        rw [after.dropBlanks_append]
        exact dropBlanks_cons (by decide) t
      have hfrom : word? "from" (';' :: t) = none := word?_eq_none rfl (by decide) t
      rw [hrest, hfrom]
      rfl
    | true =>
      have hrest : dropBlanks tail = "from".toList ++ s := by
        show dropBlanks (after.chars ++ ("from".toList ++ s)) = _
        rw [after.dropBlanks_append]
        exact dropBlanks_cons (by decide) _
      have hends : endsWord s = true := h
      rw [hrest, word?_append, Option.filter_some, if_pos hends]
      rfl

theorem default?_text (st : Statement) {s : List Char} (h : st.isEndedBy s = true) :
    default? (st.text ++ s) = if st.isStandard then some ((), s) else none := by
  unfold default?
  rw [start?_text]
  cases st with
  | declaration space declare async keyword gap n =>
    have hspace := space.blanks?_append
      (dropBlanks_declarationFrom declare async keyword (gap.chars ++ (n.text ++ s)))
    simp only [Statement.body_declaration, Option.bind_eq_bind, Option.bind_some, hspace]
    rw [word?_default_declarationFrom]
    rfl
  | list before items after isForwarded =>
    simp only [Option.bind_eq_bind, Option.bind_some]
    cases hblanks : blanks? ((Statement.list before items after isForwarded).body ++ s) with
    | none => rfl
    | some t =>
      have ht := blanks?_eq_some hblanks
      rw [Statement.dropBlanks_body_list] at ht
      have hdefault : word? "default" t = none := ht ▸ word?_eq_none rfl (by decide) _
      rw [Option.bind_some, hdefault]
      rfl
  | standard space =>
    have hends : endsWord s = true := h
    have hspace := space.blanks?_append (dropBlanks_default s)
    simp only [Statement.body, List.append_assoc, Option.bind_eq_bind, Option.bind_some, hspace]
    rw [word?_append, Option.bind_some, if_pos hends]
    rfl

/-- An item ends in a name. -/
theorem strip_item (before after : Gap) {core : List Char} {m : Ident}
    (hfirst : ∀ c ∈ core.head?, Text.isBlank c = false) (hlast : m.text <:+ core) :
    Text.strip (before.chars ++ (core ++ after.chars)) = core := by
  apply Text.strip_pad before.isBlank after.isBlank hfirst
  intro c hc
  obtain ⟨w, rfl⟩ := hlast
  have hne : m.text ≠ [] := List.cons_ne_nil _ _
  have hmem : (w ++ m.text).getLast? = m.text.getLast? := by
    rw [List.getLast?_append, List.getLast?_eq_some_getLast hne, Option.some_or]
  rw [hmem] at hc
  exact m.notBlank_of_mem (List.mem_of_mem_getLast? hc)

theorem Ident.strip_text (n : Ident) : Text.strip n.text = n.text := by
  have hlast : n.text <:+ n.text ++ [] := by simp
  have h := strip_item ⟨[], rfl⟩ ⟨[], rfl⟩ (n.notBlank_head_text []) hlast
  simpa using h

/-- A name and a blank start like a type only if the name is the word. -/
theorem Ident.not_type_of_value {n : Ident} (h : n.text ≠ "type".toList) (s : List Char) :
    ¬ "type ".toList <+: n.text ++ ' ' :: s := by
  rintro ⟨t, ht⟩
  have hword : ' ' ∉ "type".toList := by decide
  have hspace : isNamePart ' ' = false := by decide
  have hfields : Text.fields ' ' ("type".toList ++ ' ' :: t) =
      Text.fields ' ' (n.text ++ ' ' :: s) := congrArg _ ht
  rw [Text.fields_append hword, Text.fields_append (n.notMem_text hspace)] at hfields
  exact h (List.cons.inj hfields).1.symm

theorem itemName?_text (i : Item) : itemName? i.text = i.exported?.map Ident.name := by
  have hspace : isNamePart ' ' = false := by decide
  unfold itemName?
  cases i with
  | nothing blanks =>
    have hstrip : Text.strip (blanks.chars ++ ([] ++ [])) = [] :=
      Text.strip_pad blanks.isBlank (by simp) (by simp) (by simp)
    rw [List.append_nil, List.append_nil] at hstrip
    simp only [Item.text, hstrip, true_or, if_true]
    rfl
  | plain before n after =>
    have hlast : n.text <:+ n.text ++ [] := by simp
    have hstrip := strip_item before after (n.notBlank_head_text []) hlast
    rw [List.append_nil] at hstrip
    have hne : n.text ≠ [] := List.cons_ne_nil _ _
    have htype : ¬ "type ".toList <+: n.text := by
      intro hpre
      exact n.notMem_text hspace (hpre.subset (by decide))
    have hcut : Text.cutAt? " as ".toList n.text = none :=
      Text.cutAt?_of_notMem (n.notMem_text hspace)
    simp only [Item.text, hstrip, hne, htype, or_self, if_false, hcut]
    rfl
  | renamed before n m after isValue =>
    have hlast : m.text <:+ n.text ++ (" as ".toList ++ m.text) :=
      ⟨n.text ++ " as ".toList, by simp⟩
    have hstrip := strip_item before after (n.notBlank_head_text _) hlast
    have hne : n.text ++ (" as ".toList ++ m.text) ≠ [] := List.cons_ne_nil _ _
    have htype : ¬ "type ".toList <+: n.text ++ (" as ".toList ++ m.text) :=
      Ident.not_type_of_value isValue ("as ".toList ++ m.text)
    have hcut : Text.cutAt? " as ".toList (n.text ++ (" as ".toList ++ m.text)) =
        some (n.text, m.text) :=
      Text.cutAt?_append (n.notMem_text hspace) m.text
    simp only [Item.text, hstrip, hne, htype, or_self, if_false, hcut, m.strip_text]
    rfl
  | type before gap n after =>
    have hfirst : ∀ c ∈ ("type ".toList ++ (gap.chars ++ n.text)).head?,
        Text.isBlank c = false := by
      intro c hc
      obtain rfl : 't' = c := Option.some.inj hc
      decide
    have hlast : n.text <:+ "type ".toList ++ (gap.chars ++ n.text) :=
      ⟨"type ".toList ++ gap.chars, by simp⟩
    have hstrip := strip_item before after hfirst hlast
    have htype : "type ".toList <+: "type ".toList ++ (gap.chars ++ n.text) :=
      List.prefix_append _ _
    simp only [Item.text, hstrip, htype, or_true, if_true]
    rfl

end Export

end ExtTypes

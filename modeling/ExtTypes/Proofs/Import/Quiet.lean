import ExtTypes.Proofs.Import.Phrase
import ExtTypes.Proofs.Import.Statements

/-! Where no reader finds a statement. A statement can be laid out over several lines, and so can the
text after it; no line but the first one of a statement is one in its own right. Main statements:
`Phrase.IsLaid.inert` and `IsFree.inert`. -/
namespace ExtTypes.Export

variable {b r s t u x y : List Char}

/-- No reader finds a statement at the start of the text. -/
structure Quiet (s : List Char) : Prop where
  declaration : declaration? s = none
  list : list? s = none
  default : default? s = none

/-! ### After the first word -/

theorem Separates.blanks?_append (h : Separates b) (hs : dropBlanks s = s) :
    blanks? (b ++ s) = some s := by
  cases b with
  | nil => exact absurd rfl h.ne_nil
  | cons c b =>
    have hc : Text.isBlank c = true := h.blanks c List.mem_cons_self
    have hb : Blanks b := fun d hd => h.blanks d (List.mem_cons_of_mem c hd)
    rw [List.cons_append, blanks?, if_pos hc, dropBlanks_append hb, hs]

theorem start?_export (t : List Char) : start? ("export".toList ++ t) = some t := by
  have he : Text.isBlank 'e' = false := by decide
  have hdrop : dropBlanks ("export".toList ++ t) = "export".toList ++ t := dropBlanks_cons he _
  rw [start?, hdrop, word?_append]

theorem declaration?_of_start (h : start? s = some t) :
    declaration? s = (blanks? t).bind fun u =>
      (declarator? (dropModifier "async" (dropModifier "declare" u))).bind name? := by
  rw [declaration?, h]
  rfl

theorem default?_of_start (h : start? s = some t) :
    default? s = (blanks? t).bind fun u =>
      (word? "default" u).bind fun v => if endsWord v then some ((), v) else none := by
  rw [default?, h]
  rfl

theorem declaration?_eq_none (hstart : start? s = some t)
    (hdeclare : word? "declare" (dropBlanks t) = none)
    (hasync : word? "async" (dropBlanks t) = none) (hopener : declarator? (dropBlanks t) = none) :
    declaration? s = none := by
  rw [declaration?_of_start hstart]
  apply Option.bind_eq_none_iff.mpr
  intro u hu
  obtain rfl := blanks?_eq_some hu
  rw [dropModifier_of_word? hdeclare, dropModifier_of_word? hasync, hopener, Option.bind_none]

theorem default?_eq_none (hstart : start? s = some t)
    (hdefault : word? "default" (dropBlanks t) = none) : default? s = none := by
  rw [default?_of_start hstart]
  apply Option.bind_eq_none_iff.mpr
  intro u hu
  obtain rfl := blanks?_eq_some hu
  rw [hdefault, Option.bind_none]

namespace Quiet

theorem of_start (h : start? s = none) : Quiet s :=
  ⟨by rw [declaration?, h]; rfl, by rw [list?, h]; rfl, by rw [default?, h]; rfl⟩

theorem append_blanks (hb : Blanks b) (h : Quiet s) : Quiet (b ++ s) := by
  have hstart := start?_append hb s
  constructor
  · rw [declaration?, hstart]
    exact h.declaration
  · rw [list?, hstart]
    exact h.list
  · rw [default?, hstart]
    exact h.default

/-- Only `export` starts a statement. -/
theorem of_head {c : Char} (hblank : Text.isBlank c = false) (hc : c ≠ 'e') (s : List Char) :
    Quiet (c :: s) := by
  apply of_start
  rw [start?, dropBlanks_cons hblank]
  exact word?_eq_none rfl hc.symm s

/-- The word after `export` must be one of a few. -/
theorem of_words (hbrace : (dropBlanks t).head? ≠ some '\x7b')
    (hdeclare : word? "declare" (dropBlanks t) = none)
    (hasync : word? "async" (dropBlanks t) = none) (hopener : declarator? (dropBlanks t) = none)
    (hdefault : word? "default" (dropBlanks t) = none) : Quiet ("export".toList ++ t) := by
  have hstart := start?_export t
  exact ⟨declaration?_eq_none hstart hdeclare hasync hopener, list?_eq_none hstart hbrace,
    default?_eq_none hstart hdefault⟩

/-- A character with which no word starts that is looked for after `export`. -/
theorem of_sign {c : Char} (hdrop : dropBlanks t = c :: u) (hbrace : c ≠ '\x7b')
    (hc : c ∉ 'd' :: 'a' :: initials) : Quiet ("export".toList ++ t) := by
  obtain ⟨hd, hrest⟩ := not_or.mp (mt List.mem_cons.mpr hc)
  obtain ⟨ha, hinitials⟩ := not_or.mp (mt List.mem_cons.mpr hrest)
  apply of_words
  · rw [hdrop]
    exact fun h => hbrace (Option.some.inj h)
  · rw [hdrop]
    exact word?_eq_none rfl (Ne.symm hd) u
  · rw [hdrop]
    exact word?_eq_none rfl (Ne.symm ha) u
  · rw [hdrop]
    exact declarator?_eq_none hinitials u
  · rw [hdrop]
    exact word?_eq_none rfl (Ne.symm hd) u

/-- A longer word is another one. -/
theorem of_longer {c : Char} (hblank : Text.isBlank c = false) (hbrace : c ≠ '\x7b')
    (u : List Char) : Quiet ("export".toList ++ c :: u) := by
  have hstart := start?_export (c :: u)
  have hblanks : blanks? (c :: u) = none := by
    rw [blanks?, if_neg (by simp [hblank])]
  refine ⟨?_, list?_eq_none hstart ?_, ?_⟩
  · rw [declaration?_of_start hstart, hblanks, Option.bind_none]
  · rw [dropBlanks_cons hblank]
    exact fun h => hbrace (Option.some.inj h)
  · rw [default?_of_start hstart, hblanks, Option.bind_none]

end Quiet

/-! ### Words and lines -/

theorem EndsName.append_blanks (hb : Blanks b) (h : EndsName s) : EndsName (b ++ s) := by
  cases b with
  | nil => exact h
  | cons c b =>
    have hc : Text.isBlank c = true := hb c List.mem_cons_self
    have hname : isNamePart c = false := by
      by_contra hpart
      rw [notBlank_of_isNamePart (by simpa using hpart)] at hc
      cases hc
    simp [EndsName, hname]

theorem Separates.endsName (h : Separates b) (s : List Char) : EndsName (b ++ s) := by
  have hnil : EndsName [] := rfl
  have hb := hnil.append_blanks h.blanks
  cases b with
  | nil => exact absurd rfl h.ne_nil
  | cons c b => simpa [EndsName] using hb

/-- No word goes beyond the end of one. -/
theorem prefix_of_endsName {w : List Char} (hw : w.all isNamePart = true) (hs : EndsName s)
    (h : w <+: u ++ s) : w <+: u := by
  rcases List.prefix_or_prefix_of_prefix h (List.prefix_append u s) with hwu | ⟨v, rfl⟩
  · exact hwu
  · cases v with
    | nil => simp
    | cons c v =>
      obtain ⟨t, rfl⟩ := (List.prefix_append_right_inj u).mp h
      have hc : isNamePart c = true :=
        List.all_eq_true.mp hw c (List.mem_append_right u List.mem_cons_self)
      have hends : isNamePart c = false := by simpa [EndsName] using hs
      rw [hc] at hends
      cases hends

/-- A text is quiet if `export` is no more than the start of a longer word. -/
theorem Quiet.of_unlike {q : List Char} (hhead : ∀ c ∈ q.head?, Text.isBlank c = false)
    (hne : q ≠ []) (hr : EndsName r)
    (h : ∀ v, q = "export".toList ++ v → ∃ c u, v = c :: u ∧ Text.isBlank c = false ∧ c ≠ '\x7b') :
    Quiet (q ++ r) := by
  by_cases hpre : "export".toList <+: q
  · obtain ⟨v, rfl⟩ := hpre
    obtain ⟨c, u, rfl, hblank, hbrace⟩ := h v rfl
    rw [List.append_assoc, List.cons_append]
    exact of_longer hblank hbrace (u ++ r)
  · apply of_start
    have hdrop : dropBlanks (q ++ r) = q ++ r := by
      cases q with
      | nil => exact absurd rfl hne
      | cons c q => exact dropBlanks_cons (hhead c rfl) _
    rw [start?, hdrop, word?, Text.dropInitial?, if_neg]
    exact fun hlonger => hpre (prefix_of_endsName (by decide) hr hlonger)

/-- A line is quiet unless it starts with `export`. -/
theorem Quiet.of_line {q : List Char} (hq : ¬ Blanks q) (h : ¬ StartsExport q) (hr : EndsName r) :
    Quiet (q ++ r) := by
  have hsplit : q = q.takeWhile Text.isBlank ++ dropBlanks q :=
    List.takeWhile_append_dropWhile.symm
  rw [hsplit, List.append_assoc]
  apply append_blanks
  · exact fun c hc => List.mem_takeWhile_imp hc
  · apply of_unlike
    · intro c hc
      have hfirst := List.head?_dropWhile_not Text.isBlank q
      rw [show (q.dropWhile Text.isBlank).head? = some c from hc] at hfirst
      exact hfirst
    · intro hnil
      exact hq fun c hc => List.dropWhile_eq_nil_iff.mp hnil c hc
    · exact hr
    · intro v hv
      -- otherwise the line would start with the word
      have hgoes : ¬ EndsName v := fun hends => h ⟨v, hv, hends⟩
      cases v with
      | nil => exact absurd rfl hgoes
      | cons c u =>
        have hc : isNamePart c = true := by simpa [EndsName] using hgoes
        refine ⟨c, u, rfl, notBlank_of_isNamePart hc, ?_⟩
        rintro rfl
        exact absurd hc (by decide)

namespace Word

variable (w : Word)

theorem notBlank_of_mem {c : Char} (h : c ∈ w.chars) : Text.isBlank c = false := (w.isWord c h).1

theorem notMem {c : Char} (h : Text.isBlank c = true ∨ c ∈ ['\x7b', '\x7d', ',', '*']) :
    c ∉ w.chars := by
  intro hc
  obtain ⟨hblank, hsign⟩ := w.isWord c hc
  rcases h with h | h
  · rw [hblank] at h
    cases h
  · exact hsign h

theorem notBlank_head : ∀ c ∈ w.chars.head?, Text.isBlank c = false :=
  fun _ hc => w.notBlank_of_mem (List.mem_of_mem_head? hc)

theorem dropBlanks_append (s : List Char) : dropBlanks (w.chars ++ s) = w.chars ++ s := by
  obtain ⟨c, u, hw⟩ := List.exists_cons_of_ne_nil w.ne_nil
  have hc : Text.isBlank c = false := w.notBlank_head c (by simp [hw])
  rw [hw, List.cons_append]
  exact dropBlanks_cons hc _

theorem quiet (h : w.chars ≠ "export".toList) (hr : EndsName r) : Quiet (w.chars ++ r) := by
  apply Quiet.of_unlike w.notBlank_head w.ne_nil hr
  intro v hv
  cases v with
  | nil => exact absurd (hv.trans (List.append_nil _)) h
  | cons c u =>
    have hc : c ∈ w.chars := hv ▸ List.mem_append_right _ List.mem_cons_self
    refine ⟨c, u, rfl, w.notBlank_of_mem hc, ?_⟩
    rintro rfl
    exact w.notMem (.inr (by decide)) hc

end Word

/-! ### Texts over several lines -/

/-- No line of `x` but the first one starts a statement, where `r` comes after `x`. -/
def Inert (x r : List Char) : Prop := ∀ q, '\n' :: q <:+ x → Quiet (q ++ r)

namespace Inert

theorem append (hx : Inert x (y ++ r)) (hy : Inert y r) : Inert (x ++ y) r := by
  rintro q ⟨p, hp⟩
  rcases List.append_eq_append_iff.mp hp with ⟨x', rfl, hq⟩ | ⟨p', -, hy'⟩
  -- the line starts in the first part, or it does so in the second one
  · cases x' with
    | nil => exact hy q ⟨[], hq⟩
    | cons c x' =>
      rw [List.cons_append] at hq
      obtain ⟨rfl, rfl⟩ := List.cons.inj hq
      rw [List.append_assoc]
      exact hx x' (List.suffix_append p _)
  · exact hy q ⟨p', hy'.symm⟩

theorem of_notMem (h : '\n' ∉ x) (r : List Char) : Inert x r := fun _ hq =>
  absurd (hq.subset List.mem_cons_self) h

theorem of_blanks (hb : Blanks b) (hr : Quiet r) : Inert b r := by
  intro q hq
  exact hr.append_blanks fun c hc => hb c (hq.subset (List.mem_cons_of_mem _ hc))

/-- Blanks, and a word or sign after them. -/
theorem blanks_append (hb : Blanks b) (hquiet : Quiet (y ++ r)) (hy : Inert y r) :
    Inert (b ++ y) r :=
  (of_blanks hb hquiet).append hy

/-- A text without a line feed, and what comes after it. -/
theorem line_append (hx : '\n' ∉ x) (hy : Inert y r) : Inert (x ++ y) r :=
  (of_notMem hx _).append hy

end Inert

theorem IsFree.inert (h : IsFree t) (hr : EndsName r) : Inert t r := by
  intro q hq
  apply Quiet.of_line _ (h.lines q hq) hr
  -- the last character is no blank, so it is not the line feed either
  intro hblank
  obtain ⟨p, rfl⟩ := hq
  have hlast : ∀ c ∈ ('\n' :: q).getLast?, Text.isBlank c = false := by
    intro c hc
    apply h.last
    rw [List.getLast?_append_of_ne_nil _ (List.cons_ne_nil _ _)]
    exact hc
  have hall : ∀ c ∈ '\n' :: q, Text.isBlank c = true := by
    intro c hc
    rcases List.mem_cons.mp hc with rfl | hc
    · decide
    · exact hblank c hc
  have hmem := List.getLast_mem (List.cons_ne_nil '\n' q)
  have hno := hlast _ (List.getLast?_eq_some_getLast (List.cons_ne_nil '\n' q))
  rw [hall _ hmem] at hno
  cases hno

theorem Word.newline_notMem (w : Word) : '\n' ∉ w.chars := w.notMem (.inl (by decide))

/-! ### Lists over several lines -/

/-- What comes after a clause: a comma or the closing brace. -/
def Closes (r : List Char) : Prop := ∃ c ∈ [',', '\x7d'], r.head? = some c

theorem Closes.cons {c : Char} (hc : c ∈ [',', '\x7d']) (s : List Char) : Closes (c :: s) :=
  ⟨c, hc, rfl⟩

namespace Closes

theorem exists_cons (h : Closes r) : ∃ c s, r = c :: s ∧ c ∈ [',', '\x7d'] := by
  obtain ⟨c, hc, hhead⟩ := h
  obtain ⟨s, rfl⟩ := List.head?_eq_some_iff.mp hhead
  exact ⟨c, s, rfl, hc⟩

theorem quiet (h : Closes r) : Quiet r := by
  obtain ⟨c, s, rfl, hc⟩ := h.exists_cons
  simp only [List.mem_cons, List.not_mem_nil, or_false] at hc
  rcases hc with rfl | rfl
  · exact .of_head (by decide) (by decide) s
  · exact .of_head (by decide) (by decide) s

theorem endsName (h : Closes r) : EndsName r := by
  obtain ⟨c, s, rfl, hc⟩ := h.exists_cons
  simp only [List.mem_cons, List.not_mem_nil, or_false] at hc
  rcases hc with rfl | rfl <;> rfl

/-- The last word of a clause, which may be `export`. -/
theorem quiet_word (h : Closes r) (n : Word) (hb : Blanks b) : Quiet (n.chars ++ (b ++ r)) := by
  by_cases hn : n.chars = "export".toList
  · obtain ⟨c, s, rfl, hc⟩ := h.exists_cons
    have hdrop : dropBlanks (b ++ c :: s) = c :: s := by
      have hblank : Text.isBlank c = false := by
        simp only [List.mem_cons, List.not_mem_nil, or_false] at hc
        rcases hc with rfl | rfl <;> decide
      rw [Export.dropBlanks_append hb, dropBlanks_cons hblank]
    rw [hn]
    simp only [List.mem_cons, List.not_mem_nil, or_false] at hc
    rcases hc with rfl | rfl
    · exact .of_sign hdrop (by decide) (by decide)
    · exact .of_sign hdrop (by decide) (by decide)
  · exact n.quiet hn (h.endsName.append_blanks hb)

end Closes

/-- The word before an `as`, which may be `export`. -/
theorem Word.quiet_as (n : Word) (hs : Separates s) (ht : Separates t) (u : List Char) :
    Quiet (n.chars ++ (s ++ ("as".toList ++ (t ++ u)))) := by
  by_cases hn : n.chars = "export".toList
  · have hdrop : dropBlanks (s ++ ("as".toList ++ (t ++ u))) = "as".toList ++ (t ++ u) := by
      rw [Export.dropBlanks_append hs.blanks]
      exact dropBlanks_cons (by decide) _
    have hasync : word? "async" ("as".toList ++ (t ++ u)) = none := by
      rw [word?, Text.dropInitial?, if_neg]
      intro hpre
      exact absurd (prefix_of_endsName (by decide) (ht.endsName u) hpre) (by decide)
    rw [hn]
    apply Quiet.of_words
    · rw [hdrop]
      simp
    · rw [hdrop]
      exact word?_eq_none rfl (by decide) _
    · rwa [hdrop]
    · rw [hdrop]
      exact declarator?_eq_none (by decide) _
    · rw [hdrop]
      exact word?_eq_none rfl (by decide) _
  · exact n.quiet hn (hs.endsName _)

variable {plain : Prop}

theorem Clause.IsLaid.inert {c : Clause} (h : c.IsLaid plain x) (hr : Closes r) : Inert x r := by
  have has (u : List Char) : Quiet ("as".toList ++ u) := .of_head (by decide) (by decide) _
  have htype (u : List Char) : Quiet ("type".toList ++ u) := .of_head (by decide) (by decide) _
  cases h with
  | nothing hb => exact .of_blanks hb hr.quiet
  | @value a b n ha hb =>
    have hn : Quiet ((n.chars ++ b) ++ r) := by
      rw [List.append_assoc]
      exact hr.quiet_word n hb
    exact .blanks_append ha hn (.line_append n.newline_notMem (.of_blanks hb hr.quiet))
  | @renamed a b s t n m ha hs ht hb _ =>
    have hn := n.quiet_as hs ht (m.chars ++ (b ++ r))
    have hm := hr.quiet_word m hb
    simp only [List.append_assoc]
    apply Inert.blanks_append ha (by simpa only [List.append_assoc] using hn)
    apply Inert.line_append n.newline_notMem
    apply Inert.blanks_append hs.blanks (by simpa only [List.append_assoc] using has _)
    apply Inert.line_append (by decide)
    apply Inert.blanks_append ht.blanks (by simpa only [List.append_assoc] using hm)
    exact .line_append m.newline_notMem (.of_blanks hb hr.quiet)
  | @type a b s n ha hs hb _ =>
    have hn := hr.quiet_word n hb
    simp only [List.append_assoc]
    apply Inert.blanks_append ha (by simpa only [List.append_assoc] using htype _)
    apply Inert.line_append (by decide)
    apply Inert.blanks_append hs.blanks (by simpa only [List.append_assoc] using hn)
    exact .line_append n.newline_notMem (.of_blanks hb hr.quiet)
  | @renamedType a b q s t n m ha hq hs ht hb _ =>
    have hn := n.quiet_as hs ht (m.chars ++ (b ++ r))
    have hm := hr.quiet_word m hb
    simp only [List.append_assoc]
    apply Inert.blanks_append ha (by simpa only [List.append_assoc] using htype _)
    apply Inert.line_append (by decide)
    apply Inert.blanks_append hq.blanks (by simpa only [List.append_assoc] using hn)
    apply Inert.line_append n.newline_notMem
    apply Inert.blanks_append hs.blanks (by simpa only [List.append_assoc] using has _)
    apply Inert.line_append (by decide)
    apply Inert.blanks_append ht.blanks (by simpa only [List.append_assoc] using hm)
    exact .line_append m.newline_notMem (.of_blanks hb hr.quiet)

/-- The clauses of a list, with the commas between them. -/
theorem inert_clauses {cs : List Clause} {ts : List (List Char)}
    (h : List.Forall₂ (Clause.IsLaid plain) cs ts) (u : List Char) :
    Inert (Text.joinWith [','] ts) ('\x7d' :: u) := by
  have hbrace : Closes ('\x7d' :: u) := .cons (by decide) u
  induction h with
  | nil => exact .of_notMem List.not_mem_nil _
  | @cons c t cs ts hc hcs ih =>
    cases ts with
    | nil => exact hc.inert hbrace
    | cons v ts =>
      have hcomma : Closes ((',' :: Text.joinWith [','] (v :: ts)) ++ '\x7d' :: u) :=
        .cons (by decide) _
      have hrest : Inert (',' :: Text.joinWith [','] (v :: ts)) ('\x7d' :: u) :=
        Inert.line_append (x := [',']) (by decide) ih
      have hjoin : Text.joinWith [','] (t :: v :: ts) =
          t ++ ',' :: Text.joinWith [','] (v :: ts) := by
        simp [Text.joinWith]
      rw [hjoin]
      exact (hc.inert hcomma).append hrest

/-! ### Statements over several lines -/

theorem Opener.IsLaid.quiet {o : Opener} (h : o.IsLaid x) (u : List Char) : Quiet (x ++ u) := by
  cases h with
  | word hw =>
    simp only [declarators, List.mem_cons, List.not_mem_nil, or_false] at hw
    rcases hw with rfl | rfl | rfl | rfl | rfl | rfl
    case inr.inr.inr.inr.inr =>
      -- only `enum` starts like `export`
      have hdrop : dropBlanks ("enum".toList ++ u) = "enum".toList ++ u :=
        dropBlanks_cons (by decide) _
      apply Quiet.of_start
      rw [start?, hdrop]
      simp [word?, Text.dropInitial?]
    all_goals exact .of_head (by decide) (by decide) _
  | generator hb => exact .of_head (by decide) (by decide) _

theorem Opener.IsLaid.inert {o : Opener} (h : o.IsLaid x) (r : List Char) : Inert x r := by
  cases h with
  | word hw =>
    have hall : ∀ w ∈ "function" :: declarators, '\n' ∉ w.toList := by decide
    exact .of_notMem (hall _ hw) r
  | @generator b hb =>
    have hstar : Quiet (['*'] ++ r) := .of_head (by decide) (by decide) r
    exact .line_append (by decide) (.blanks_append hb hstar (.of_notMem (by decide) r))

theorem IsModifier.quiet_append {w : String} {isThere : Bool} (h : IsModifier w isThere x)
    (hw : w = "declare" ∨ w = "async") (hu : Quiet u) : Quiet (x ++ u) := by
  cases h with
  | absent => exact hu
  | present hs =>
    rcases hw with rfl | rfl
    · exact .of_head (by decide) (by decide) _
    · exact .of_head (by decide) (by decide) _

theorem IsModifier.inert_append {w : String} {isThere : Bool} (h : IsModifier w isThere x)
    (hw : w = "declare" ∨ w = "async") (hquiet : Quiet (y ++ r)) (hy : Inert y r) :
    Inert (x ++ y) r := by
  cases h with
  | absent => exact hy
  | present hs =>
    have hline : '\n' ∉ w.toList := by
      rcases hw with rfl | rfl <;> decide
    rw [List.append_assoc]
    exact .line_append hline (.blanks_append hs.blanks hquiet hy)

theorem quiet_foreign {w : String} (hw : w ∈ foreignWords) (r : List Char) :
    Quiet (w.toList ++ r) := by
  have hall : ∀ w ∈ foreignWords,
      w.toList.head?.any (fun c => ! Text.isBlank c && c != 'e') = true := by
    decide
  have hhead := hall w hw
  cases hc : w.toList with
  | nil =>
    rw [hc] at hhead
    cases hhead
  | cons c u =>
    rw [hc, List.head?_cons, Option.any_some] at hhead
    obtain ⟨hblank, he⟩ := Bool.and_eq_true_iff.mp hhead
    exact .of_head (by simpa using hblank) (by simpa using he) _

/-- No line of a statement is one in its own right. -/
theorem Phrase.IsLaid.inert {p : Phrase} (h : p.IsLaid plain x)
    (hr : p.endsInWord = true → EndsName r) : Inert x r := by
  have hexport : '\n' ∉ "export".toList := by decide
  cases h with
  | @declaration s d a k g _ _ o n hs hd ha hk hg hgap hn =>
    have hname : Quiet (n.chars ++ r) := n.quiet hn (hr rfl)
    have hrest : Inert (k ++ (g ++ n.chars)) r :=
      (hk.inert _).append (.blanks_append hg hname (.of_notMem n.newline_notMem r))
    have hkeyword : Quiet ((k ++ (g ++ n.chars)) ++ r) := by
      rw [List.append_assoc]
      exact hk.quiet _
    have hasync : Quiet ((a ++ (k ++ (g ++ n.chars))) ++ r) := by
      rw [List.append_assoc]
      exact ha.quiet_append (.inr rfl) hkeyword
    have hdeclare : Quiet ((d ++ (a ++ (k ++ (g ++ n.chars)))) ++ r) := by
      rw [List.append_assoc]
      exact hd.quiet_append (.inl rfl) hasync
    apply Inert.line_append hexport
    apply Inert.blanks_append hs.blanks hdeclare
    apply hd.inert_append (.inl rfl) hasync
    exact ha.inert_append (.inr rfl) hkeyword hrest
  | @list b cs ts hb hne hcs =>
    have hbrace : Quiet (('\x7b' :: (Text.joinWith [','] ts ++ ['\x7d'])) ++ r) :=
      .of_head (by decide) (by decide) _
    apply Inert.line_append hexport
    apply Inert.blanks_append hb hbrace
    apply Inert.line_append (x := ['\x7b']) (by decide)
    exact (inert_clauses hcs r).append (.of_notMem (by decide) r)
  | @forwarded b c cs ts hb hne hcs hc =>
    have hbrace (u : List Char) : Quiet (('\x7b' :: u) ++ r) :=
      .of_head (by decide) (by decide) _
    have hfrom : Quiet ("from".toList ++ r) := .of_head (by decide) (by decide) _
    apply Inert.line_append hexport
    apply Inert.blanks_append hb (hbrace _)
    apply Inert.line_append (x := ['\x7b']) (by decide)
    apply Inert.append (inert_clauses hcs _)
    apply Inert.line_append (x := ['\x7d']) (by decide)
    exact .blanks_append hc hfrom (.of_notMem (by decide) r)
  | @pattern s g w c hw hc hs hg =>
    have hopener : Opener.IsLaid (.word w (List.mem_cons_of_mem _ hw)) w.toList := .word _
    have hbracket : Quiet ([c] ++ r) ∧ '\n' ∉ [c] := by
      simp only [brackets, List.mem_cons, List.not_mem_nil, or_false] at hc
      rcases hc with rfl | rfl <;> exact ⟨.of_head (by decide) (by decide) r, by decide⟩
    obtain ⟨hquiet, hline⟩ := hbracket
    have hstart : Quiet ((w.toList ++ (g ++ [c])) ++ r) := by
      rw [List.append_assoc]
      exact hopener.quiet _
    apply Inert.line_append hexport
    apply Inert.blanks_append hs.blanks hstart
    apply Inert.append (hopener.inert _)
    exact .blanks_append hg hquiet (.of_notMem hline r)
  | standard hs =>
    have hdefault : Quiet ("default".toList ++ r) := .of_head (by decide) (by decide) _
    apply Inert.line_append hexport
    exact .blanks_append hs.blanks hdefault (.of_notMem (by decide) r)
  | @foreign s d declare w hw hs hd _ =>
    have hline : ∀ w ∈ foreignWords, '\n' ∉ w.toList := by decide
    have hquiet : Quiet (w.toList ++ r) := quiet_foreign hw r
    have hrest : Quiet ((d ++ w.toList) ++ r) := by
      rw [List.append_assoc]
      exact hd.quiet_append (.inl rfl) hquiet
    apply Inert.line_append hexport
    apply Inert.blanks_append hs hrest
    exact hd.inert_append (.inl rfl) hquiet (.of_notMem (hline w hw) r)

end ExtTypes.Export

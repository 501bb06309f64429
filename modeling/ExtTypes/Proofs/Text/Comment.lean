import Mathlib.Data.List.Infix

/-! Block comments. Each goes from its start to the first end after it, so that a text can be read
piece by piece: of what was read before, it matters only whether it ended in a comment. Main statement:
`uncomment_append`. -/
namespace ExtTypes.Text

/-- What is left of a text without its block comments; `inside` says whether it starts in one. A
comment without an end goes on to the end of the text. -/
def uncomment : (inside : Bool) → List Char → List Char
  | false, '/' :: '*' :: cs => uncomment true cs
  | false, c :: cs => c :: uncomment false cs
  | true, '*' :: '/' :: cs => uncomment false cs
  | true, _ :: cs => uncomment true cs
  | _, [] => []

/-- Whether the text ends in a block comment. -/
def endsInside : (inside : Bool) → List Char → Bool
  | false, '/' :: '*' :: cs => endsInside true cs
  | false, _ :: cs => endsInside false cs
  | true, '*' :: '/' :: cs => endsInside false cs
  | true, _ :: cs => endsInside true cs
  | inside, [] => inside

def withoutComments (s : String) : String := String.ofList (uncomment false s.toList)

/-- A character that is part of a mark. -/
def IsMark (c : Char) : Prop := c = '/' ∨ c = '*'

instance (c : Char) : Decidable (IsMark c) := inferInstanceAs (Decidable (_ ∨ _))

/-- No mark is cut where the one text ends and the other starts. -/
def Apart (s t : List Char) : Prop :=
  (∀ c ∈ s.getLast?, ¬ IsMark c) ∨ ∀ c ∈ t.head?, ¬ IsMark c

theorem Apart.of_getLast? {c : Char} {s t : List Char} (h : s.getLast? = some c) (hc : ¬ IsMark c) :
    Apart s t := by
  left
  intro d hd
  obtain rfl : c = d := Option.some.inj (h.symm.trans hd)
  exact hc

theorem Apart.of_head? {c : Char} {s t : List Char} (h : t.head? = some c) (hc : ¬ IsMark c) :
    Apart s t := by
  right
  intro d hd
  obtain rfl : c = d := Option.some.inj (h.symm.trans hd)
  exact hc

theorem uncomment_false_cons {c : Char} {cs : List Char} (h : ∀ r, c = '/' → cs = '*' :: r → False) :
    uncomment false (c :: cs) = c :: uncomment false cs ∧
      endsInside false (c :: cs) = endsInside false cs :=
  ⟨uncomment.eq_2 c cs h, endsInside.eq_2 c cs h⟩

theorem uncomment_true_cons {c : Char} {cs : List Char} (h : ∀ r, c = '*' → cs = '/' :: r → False) :
    uncomment true (c :: cs) = uncomment true cs ∧ endsInside true (c :: cs) = endsInside true cs :=
  ⟨uncomment.eq_4 c cs h, endsInside.eq_4 c cs h⟩

theorem Apart.of_cons {c : Char} {s t : List Char} (h : Apart (c :: s) t) : Apart s t := by
  rcases h with h | h
  · left
    intro d hd
    apply h d
    cases s with
    | nil => cases hd
    | cons a s => rwa [List.getLast?_cons_cons]
  · exact .inr h

/-- A mark that starts before the cut ends before it. -/
theorem Apart.ne_cons {c d : Char} {s t : List Char} (h : Apart (c :: s) t) (hc : IsMark c)
    (hd : IsMark d) (hs : ∀ r, s ≠ d :: r) : ∀ r, s ++ t ≠ d :: r := by
  intro r hcut
  cases s with
  | cons a s =>
    obtain ⟨rfl, -⟩ := List.cons.inj hcut
    exact hs s rfl
  | nil =>
    rw [List.nil_append] at hcut
    rcases h with h | h
    · exact h c rfl hc
    · rw [hcut] at h
      exact h d rfl hd

/-- What follows a text is read in the state in which the text ends. -/
theorem uncomment_append (b : Bool) {s t : List Char} (h : Apart s t) :
    uncomment b (s ++ t) = uncomment b s ++ uncomment (endsInside b s) t ∧
      endsInside b (s ++ t) = endsInside (endsInside b s) t := by
  fun_induction uncomment b s with
  | case1 cs ih => exact ih h.of_cons.of_cons
  | case2 c cs hopen ih =>
    have hcut : ∀ r, c = '/' → cs ++ t = '*' :: r → False := by
      intro r hc
      exact h.ne_cons (.inl hc) (.inr rfl) (fun r => hopen r hc) r
    obtain ⟨hrest, hends⟩ := ih h.of_cons
    rw [List.cons_append, (uncomment_false_cons hcut).1, (uncomment_false_cons hcut).2,
      (uncomment_false_cons hopen).2, hrest, hends]
    exact ⟨rfl, rfl⟩
  | case3 cs ih => exact ih h.of_cons.of_cons
  | case4 c cs hclose ih =>
    have hcut : ∀ r, c = '*' → cs ++ t = '/' :: r → False := by
      intro r hc
      exact h.ne_cons (.inr hc) (.inl rfl) (fun r => hclose r hc) r
    obtain ⟨hrest, hends⟩ := ih h.of_cons
    rw [List.cons_append, (uncomment_true_cons hcut).1, (uncomment_true_cons hcut).2,
      (uncomment_true_cons hclose).2, hrest, hends]
    exact ⟨rfl, rfl⟩
  | case5 b => cases b <;> exact ⟨rfl, rfl⟩

/-- Where no mark can start, nothing is taken away. -/
theorem uncomment_of_notMem {s : List Char} (h : '/' ∉ s) :
    uncomment false s = s ∧ endsInside false s = false := by
  induction s with
  | nil => exact ⟨rfl, rfl⟩
  | cons c s ih =>
    obtain ⟨hc, hs⟩ := not_or.mp (mt List.mem_cons.mpr h)
    have hopen : ∀ r, c = '/' → s = '*' :: r → False := fun r he => absurd he.symm hc
    rw [(uncomment_false_cons hopen).1, (uncomment_false_cons hopen).2, (ih hs).1, (ih hs).2]
    exact ⟨rfl, rfl⟩

/-- A comment goes on where it has no end. -/
theorem uncomment_of_no_end {s : List Char} (h : ¬ ['*', '/'] <:+: s) :
    uncomment true s = [] ∧ endsInside true s = true := by
  induction s with
  | nil => exact ⟨rfl, rfl⟩
  | cons c s ih =>
    have hclose : ∀ r, c = '*' → s = '/' :: r → False := by
      rintro r rfl rfl
      exact h ⟨[], r, rfl⟩
    have hs : ¬ ['*', '/'] <:+: s := fun hin => h (hin.trans (List.suffix_cons c s).isInfix)
    rw [(uncomment_true_cons hclose).1, (uncomment_true_cons hclose).2]
    exact ih hs

end ExtTypes.Text

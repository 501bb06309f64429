import Mathlib.Data.List.Forall2

/-! Steps that may fail, one after the other. All of them succeed or the first failure is the result.
Main statements: `mapM_eq_ok_iff` and `exists_of_mapM_eq_error`. -/
namespace ExtTypes

variable {ε α β : Type}

theorem bind_eq_ok_iff {x : Except ε α} {f : α → Except ε β} {b : β} :
    x >>= f = .ok b ↔ ∃ a, x = .ok a ∧ f a = .ok b := by
  cases x with
  | error e => simp [bind, Except.bind]
  | ok a => simp [bind, Except.bind]

theorem map_eq_ok_iff {x : Except ε α} {f : α → β} {b : β} :
    x.map f = .ok b ↔ ∃ a, x = .ok a ∧ f a = b := by
  cases x with
  | error e => simp [Except.map]
  | ok a => simp [Except.map]

/-- What comes with an outcome need not be spelled out. -/
theorem exists_snd_of_fst_eq {x : α × β} {a : α} (h : x.1 = a) : ∃ b, x = (a, b) := by
  rw [← h]
  exact ⟨x.2, rfl⟩

variable {f : α → Except ε β} {as : List α} {bs : List β}

/-- Items are read one after the other if each of them is read to its own result. -/
theorem mapM_eq_ok_iff : as.mapM f = .ok bs ↔ List.Forall₂ (fun a b => f a = .ok b) as bs := by
  constructor
  · intro h
    induction as generalizing bs with
    | nil =>
      obtain rfl := Except.ok.inj h
      exact .nil
    | cons a as ih =>
      rw [List.mapM_cons] at h
      obtain ⟨b, hb, h⟩ := bind_eq_ok_iff.mp h
      obtain ⟨bs', hbs, h⟩ := bind_eq_ok_iff.mp h
      obtain rfl := Except.ok.inj h
      exact .cons hb (ih hbs)
  · intro h
    induction h with
    | nil => rfl
    | cons ha _ ih =>
      rw [List.mapM_cons, ha, ih]
      rfl

theorem exists_of_mapM_eq_ok (h : as.mapM f = .ok bs) {a : α} (ha : a ∈ as) : ∃ b, f a = .ok b := by
  have hread := mapM_eq_ok_iff.mp h
  clear h
  induction hread with
  | nil => cases ha
  | cons hab _ ih =>
    rcases List.mem_cons.mp ha with rfl | ha
    · exact ⟨_, hab⟩
    · exact ih ha

/-- What is read is what the items are read to. -/
theorem mem_of_mapM_eq_ok (h : as.mapM f = .ok bs) {b : β} : b ∈ bs ↔ ∃ a ∈ as, f a = .ok b := by
  have hread := mapM_eq_ok_iff.mp h
  clear h
  induction hread with
  | nil => simp
  | cons ha _ ih =>
    simp only [List.mem_cons, exists_eq_or_imp, ha, Except.ok.injEq, ih]
    rw [eq_comm]

theorem forall_of_mapM_eq_ok {p : β → Prop} (hf : ∀ a b, f a = .ok b → p b)
    (h : as.mapM f = .ok bs) : ∀ b ∈ bs, p b := by
  intro b hb
  obtain ⟨a, -, ha⟩ := (mem_of_mapM_eq_ok h).mp hb
  exact hf a b ha

/-- The failure is that of the first item that could not be read. -/
theorem exists_of_mapM_eq_error {e : ε} (h : as.mapM f = .error e) :
    ∃ before a after, as = before ++ a :: after ∧ (∀ x ∈ before, ∃ b, f x = .ok b) ∧
      f a = .error e := by
  induction as with
  | nil => cases h
  | cons a as ih =>
    rw [List.mapM_cons] at h
    cases ha : f a with
    | error e' =>
      rw [ha] at h
      obtain rfl : e' = e := Except.error.inj h
      exact ⟨[], a, as, rfl, (fun x hx => absurd hx List.not_mem_nil), ha⟩
    | ok b =>
      cases has : as.mapM f with
      | error e' =>
        rw [ha, has] at h
        obtain rfl : e' = e := Except.error.inj h
        obtain ⟨before, c, after, rfl, hbefore, hc⟩ := ih has
        exact ⟨a :: before, c, after, rfl, List.forall_mem_cons.mpr ⟨⟨b, ha⟩, hbefore⟩, hc⟩
      | ok bs =>
        rw [ha, has] at h
        cases h

theorem exists_mapM_eq_ok (h : ∀ a ∈ as, ∃ b, f a = .ok b) : ∃ bs, as.mapM f = .ok bs := by
  cases hread : as.mapM f with
  | ok bs => exact ⟨bs, rfl⟩
  | error e =>
    obtain ⟨before, a, after, rfl, -, ha⟩ := exists_of_mapM_eq_error hread
    obtain ⟨b, hb⟩ := h a (by simp)
    rw [hb] at ha
    cases ha

/-- What is read to something, with what it is read to. -/
theorem exists_pairs_of_mapM {f : α → Except ε (Option β)} {found : List (Option β)}
    (h : as.mapM f = .ok found) :
    ∃ ps : List (α × β), ps.map Prod.snd = found.filterMap id ∧ (ps.map Prod.fst).Sublist as ∧
      ∀ p, p ∈ ps ↔ p.1 ∈ as ∧ f p.1 = .ok (some p.2) := by
  have hread := mapM_eq_ok_iff.mp h
  clear h
  induction hread with
  | nil => exact ⟨[], rfl, .slnil, by simp⟩
  | @cons a b? as found ha _ ih =>
    obtain ⟨ps, hsnd, hfst, hmem⟩ := ih
    cases b? with
    | none =>
      refine ⟨ps, hsnd, hfst.cons a, fun p => ?_⟩
      rw [hmem, List.mem_cons, or_and_right]
      constructor
      · exact .inr
      · rintro (⟨hp, hsome⟩ | hp)
        · rw [hp, ha] at hsome
          cases hsome
        · exact hp
    | some b =>
      refine ⟨(a, b) :: ps, congrArg (b :: ·) hsnd, hfst.cons_cons a, fun p => ?_⟩
      rw [List.mem_cons, hmem, List.mem_cons, or_and_right]
      apply or_congr_left
      constructor
      · rintro rfl
        exact ⟨rfl, ha⟩
      · rintro ⟨hp, hsome⟩
        rw [hp, ha] at hsome
        exact Prod.ext hp (Option.some.inj (Except.ok.inj hsome)).symm

end ExtTypes

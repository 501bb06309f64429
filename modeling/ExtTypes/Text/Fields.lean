/-! Cutting a text at a separator, and putting the pieces together again. -/
namespace ExtTypes.Text

/-- The pieces between the separators; `n` separators make `n + 1` pieces. -/
def fields (sep : Char) : List Char → List (List Char)
  | [] => [[]]
  | c :: s =>
    if c = sep then [] :: fields sep s
    else match fields sep s with
      | [] => [[c]]
      | p :: ps => (c :: p) :: ps

/-- `fields` on strings. -/
def splitAt (sep : Char) (s : String) : List String :=
  (fields sep s.toList).map String.ofList

/-- The pieces joined with the separator between them. -/
def joinWith (sep : List Char) : List (List Char) → List Char
  | [] => []
  | [p] => p
  | p :: ps => p ++ sep ++ joinWith sep ps

/-- `joinWith` on strings. -/
def joinText (sep : String) (ps : List String) : String :=
  String.ofList (joinWith sep.toList (ps.map String.toList))

/-- The text before the first occurrence of `pat`, and the text after it. -/
def cutAt? (pat : List Char) : List Char → Option (List Char × List Char)
  | [] => if pat = [] then some ([], []) else none
  | c :: s =>
    if pat <+: c :: s then some ([], (c :: s).drop pat.length)
    else (cutAt? pat s).map fun (a, b) => (c :: a, b)

/-- The text after `pat`, if it starts with it. -/
def dropInitial? (pat s : List Char) : Option (List Char) :=
  if pat <+: s then some (s.drop pat.length) else none

/-- The text with each character replaced where `f` says so. -/
def mapText (f : Char → Char) (s : String) : String := String.ofList (s.toList.map f)

theorem fields_ne_nil (sep : Char) (s : List Char) : fields sep s ≠ [] := by
  cases s with
  | nil => simp [fields]
  | cons c s =>
    simp only [fields]
    split
    · simp
    · split <;> simp

/-- Joining the pieces gives the text back. -/
theorem joinWith_fields (sep : Char) (s : List Char) : joinWith [sep] (fields sep s) = s := by
  induction s with
  | nil => simp [fields, joinWith]
  | cons c s ih =>
    simp only [fields]
    split
    · next h =>
      subst h
      cases hf : fields c s with
      | nil => exact absurd hf (fields_ne_nil c s)
      | cons p ps => rw [hf] at ih; simp [joinWith, ih]
    · cases hf : fields sep s with
      | nil => exact absurd hf (fields_ne_nil sep s)
      | cons p ps =>
        rw [hf] at ih
        cases ps with
        | nil => simpa [joinWith] using ih
        | cons q qs => simpa [joinWith] using ih

/-- No piece holds the separator. -/
theorem not_mem_of_mem_fields {sep : Char} {s p : List Char} (h : p ∈ fields sep s) : sep ∉ p := by
  induction s generalizing p with
  | nil => simp_all [fields]
  | cons c s ih =>
    simp only [fields] at h
    split at h
    · rcases List.mem_cons.mp h with rfl | h
      · simp
      · exact ih h
    · next hc =>
      split at h
      · next hf => exact absurd hf (fields_ne_nil sep s)
      · next p' ps hf =>
        rcases List.mem_cons.mp h with rfl | h
        · have hp := ih (p := p') (by simp [hf])
          simpa [hp] using fun e => hc e.symm
        · exact ih (by simp [hf, h])

theorem mem_of_mem_fields {sep c : Char} {s p : List Char} (hp : p ∈ fields sep s) (h : c ∈ p) :
    c ∈ s := by
  induction s generalizing p with
  | nil =>
    obtain rfl : p = [] := List.mem_singleton.mp hp
    cases h
  | cons d s ih =>
    rw [fields] at hp
    split at hp
    · rcases List.mem_cons.mp hp with rfl | hp
      · cases h
      · exact List.mem_cons_of_mem d (ih hp h)
    · split at hp
      · next hf => exact absurd hf (fields_ne_nil sep s)
      · next q qs hf =>
        rcases List.mem_cons.mp hp with rfl | hp
        · rcases List.mem_cons.mp h with rfl | h
          · exact List.mem_cons_self
          · exact List.mem_cons_of_mem d (ih (hf ▸ List.mem_cons_self) h)
        · exact List.mem_cons_of_mem d (ih (hf ▸ List.mem_cons_of_mem q hp) h)

theorem mem_joinWith {sep : List Char} {c : Char} {ps : List (List Char)}
    (h : c ∈ joinWith sep ps) : c ∈ sep ∨ ∃ p ∈ ps, c ∈ p := by
  fun_induction joinWith sep ps with
  | case1 => cases h
  | case2 p => exact .inr ⟨p, List.mem_singleton_self p, h⟩
  | case3 p ps _ ih =>
    rcases List.mem_append.mp h with h | h
    · rcases List.mem_append.mp h with h | h
      · exact .inr ⟨p, List.mem_cons_self, h⟩
      · exact .inl h
    · rcases ih h with h | ⟨q, hq, h⟩
      · exact .inl h
      · exact .inr ⟨q, List.mem_cons_of_mem p hq, h⟩

theorem joinWith_eq_intercalate (sep : List Char) (ps : List (List Char)) :
    joinWith sep ps = sep.intercalate ps := by
  fun_induction joinWith sep ps with
  | case1 => rfl
  | case2 p => simp [List.intercalate]
  | case3 p ps hne ih =>
    obtain ⟨q, ps, rfl⟩ := List.exists_cons_of_ne_nil hne
    rw [ih]
    simp [List.intercalate]

theorem joinText_eq_intercalate (sep : String) (ps : List String) :
    joinText sep ps = sep.intercalate ps := by
  apply String.toList_inj.mp
  rw [joinText, String.toList_ofList, joinWith_eq_intercalate, String.toList_intercalate]

end ExtTypes.Text

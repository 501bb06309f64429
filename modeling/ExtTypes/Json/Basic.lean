import ExtTypes.Decimal.Double

/-! JSON values. The fields of an object keep the order in which their names first stood; a name
that stands twice has its last value. -/
namespace ExtTypes

inductive Json
  | null
  | bool (b : Bool)
  | int (n : Int)
  | real (x : Decimal.Double)
  | str (s : String)
  | arr (items : List Json)
  | obj (fields : List (String × Json))

/-- The pairs with `v` under `k`: in the place of `k`, or at the end. -/
def putField {α β : Type} [DecidableEq α] (k : α) (v : β) : List (α × β) → List (α × β)
  | [] => [(k, v)]
  | (k', v') :: fs => if k' = k then (k', v) :: fs else (k', v') :: putField k v fs

/-- The pairs with each name once: its first place, its last value. -/
def dedupFields {α β : Type} [DecidableEq α] (fs : List (α × β)) : List (α × β) :=
  fs.foldl (fun acc f => putField f.1 f.2 acc) []

theorem putField_keys {α β : Type} [DecidableEq α] (k : α) (v : β) (fs : List (α × β)) :
    (putField k v fs).map Prod.fst =
      if k ∈ fs.map Prod.fst then fs.map Prod.fst else fs.map Prod.fst ++ [k] := by
  induction fs with
  | nil => simp [putField]
  | cons f fs ih =>
    simp only [putField]
    split
    · next h => simp [h]
    · next h =>
      have hk : k ≠ f.1 := fun e => h e.symm
      by_cases hm : k ∈ fs.map Prod.fst <;> simp_all

theorem nodup_putField {α β : Type} [DecidableEq α] (k : α) (v : β) {fs : List (α × β)}
    (h : (fs.map Prod.fst).Nodup) : ((putField k v fs).map Prod.fst).Nodup := by
  rw [putField_keys]
  split
  · exact h
  · next hk => exact List.nodup_append.mpr ⟨h, by simp, by grind⟩

theorem putField_of_notMem {α β : Type} [DecidableEq α] {k : α} (v : β) {fs : List (α × β)}
    (h : k ∉ fs.map Prod.fst) : putField k v fs = fs ++ [(k, v)] := by
  induction fs with
  | nil => rfl
  | cons f fs ih =>
    rw [List.map_cons, List.mem_cons, not_or] at h
    rw [putField, if_neg (Ne.symm h.1), ih h.2, List.cons_append]

/-- Pairs whose names are different stay as they are. -/
theorem dedupFields_of_nodup {α β : Type} [DecidableEq α] {fs : List (α × β)}
    (h : (fs.map Prod.fst).Nodup) : dedupFields fs = fs := by
  -- each pair goes to the end of those before it
  have key (acc : List (α × β)) (hacc : ((acc ++ fs).map Prod.fst).Nodup) :
      fs.foldl (fun acc f => putField f.1 f.2 acc) acc = acc ++ fs := by
    clear h
    induction fs generalizing acc with
    | nil => simp
    | cons f fs ih =>
      have hf : f.1 ∉ acc.map Prod.fst := by
        rw [List.map_append, List.map_cons] at hacc
        intro hm
        exact (List.nodup_append.mp hacc).2.2 _ hm _ List.mem_cons_self rfl
      rw [List.foldl_cons, putField_of_notMem f.2 hf, ih (acc ++ [f]) (by simpa using hacc)]
      simp
  simpa [dedupFields] using key [] (by simpa using h)

end ExtTypes

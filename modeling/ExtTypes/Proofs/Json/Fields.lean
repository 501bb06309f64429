import ExtTypes.Json.Basic
import Mathlib.Data.List.Induction

/-! What stands under which name after pairs were put together. Main statements: `keys_dedupFields`,
a name keeps its first place, and `lookup_dedupFields`, it has its last value. -/
namespace ExtTypes

variable {α β : Type} [DecidableEq α]

theorem lookup_cons_eq_ite (k k' : α) (v : β) (fs : List (α × β)) :
    ((k, v) :: fs).lookup k' = if k' = k then some v else fs.lookup k' := by
  rw [List.lookup_cons]
  by_cases h : k' = k
  · simp [h]
  · simp [h, beq_false_of_ne h]

theorem lookup_putField (k k' : α) (v : β) (fs : List (α × β)) :
    (putField k v fs).lookup k' = if k' = k then some v else fs.lookup k' := by
  induction fs with
  | nil => rw [putField, lookup_cons_eq_ite]
  | cons f fs ih =>
    obtain ⟨l, w⟩ := f
    rw [putField, lookup_cons_eq_ite]
    split
    · next hl =>
      subst hl
      by_cases h : k' = l <;> simp [lookup_cons_eq_ite, h]
    · next hl =>
      rw [lookup_cons_eq_ite, ih]
      by_cases h : k' = l
      · simp [h, hl]
      · simp [h]

theorem dedupFields_concat (fs : List (α × β)) (f : α × β) :
    dedupFields (fs ++ [f]) = putField f.1 f.2 (dedupFields fs) := by
  rw [dedupFields, List.foldl_append]
  rfl

theorem dedupFields_append (fs gs : List (α × β)) :
    dedupFields (fs ++ gs) = gs.foldl (fun acc f => putField f.1 f.2 acc) (dedupFields fs) :=
  List.foldl_append

/-- Each name stands where it first stood. -/
theorem keys_dedupFields (fs : List (α × β)) :
    (dedupFields fs).map Prod.fst = (fs.map Prod.fst).eraseDups := by
  induction fs using List.reverseRecOn with
  | nil => rfl
  | append_singleton fs f ih =>
    rw [dedupFields_concat, putField_keys, ih, List.map_append, List.eraseDups_append]
    by_cases h : f.1 ∈ fs.map Prod.fst
    · have hold : [f.1].removeAll (fs.map Prod.fst) = [] := by
        simp only [List.removeAll, List.filter_cons, List.elem_eq_mem, h]
        rfl
      rw [if_pos (List.mem_eraseDups.mpr h), List.map_singleton, hold, List.eraseDups_nil,
        List.append_nil]
    · have hnew : [f.1].removeAll (fs.map Prod.fst) = [f.1] := by
        simp only [List.removeAll, List.filter_cons, List.elem_eq_mem, h]
        rfl
      rw [if_neg fun hm => h (List.mem_eraseDups.mp hm), List.map_singleton, hnew]
      rfl

/-- Each name has the value that it had last. -/
theorem lookup_dedupFields (fs : List (α × β)) (k : α) :
    (dedupFields fs).lookup k = fs.reverse.lookup k := by
  induction fs using List.reverseRecOn with
  | nil => rfl
  | append_singleton fs f ih =>
    obtain ⟨l, v⟩ := f
    rw [dedupFields_concat, lookup_putField, ih, List.reverse_append, List.reverse_singleton,
      List.singleton_append, lookup_cons_eq_ite]

theorem lookup_of_forall {fs : List (α × β)} {k : α} {v : β} (hmem : (k, v) ∈ fs)
    (h : ∀ w, (k, w) ∈ fs → w = v) : fs.lookup k = some v := by
  have hsome : (fs.lookup k).isSome := List.lookup_isSome_iff.mpr ⟨(k, v), hmem, beq_self_eq_true k⟩
  obtain ⟨w, hw⟩ := Option.isSome_iff_exists.mp hsome
  obtain ⟨before, after, hfs, -⟩ := List.lookup_eq_some_iff.mp hw
  rw [hw, h w (by simp [hfs])]

/-- A name that always had the same value has that value. -/
theorem lookup_dedupFields_of_forall {fs : List (α × β)} {k : α} {v : β} (hmem : (k, v) ∈ fs)
    (h : ∀ w, (k, w) ∈ fs → w = v) : (dedupFields fs).lookup k = some v := by
  rw [lookup_dedupFields]
  exact lookup_of_forall (List.mem_reverse.mpr hmem) fun w hw => h w (List.mem_reverse.mp hw)

theorem mem_of_mem_putField {k : α} {v : β} {fs : List (α × β)} {f : α × β}
    (h : f ∈ putField k v fs) : f = (k, v) ∨ f ∈ fs := by
  induction fs with
  | nil => exact .inl (List.mem_singleton.mp h)
  | cons g fs ih =>
    rw [putField] at h
    split at h
    · next hk =>
      rcases List.mem_cons.mp h with rfl | h
      · exact .inl (Prod.ext hk rfl)
      · exact .inr (List.mem_cons_of_mem g h)
    · rcases List.mem_cons.mp h with rfl | h
      · exact .inr List.mem_cons_self
      · exact (ih h).imp_right (List.mem_cons_of_mem g)

theorem mem_of_mem_dedupFields {fs : List (α × β)} {f : α × β} (h : f ∈ dedupFields fs) :
    f ∈ fs := by
  induction fs using List.reverseRecOn with
  | nil => exact h
  | append_singleton fs g ih =>
    rw [dedupFields_concat] at h
    rcases mem_of_mem_putField h with rfl | h
    · exact List.mem_append_right fs (List.mem_singleton_self _)
    · exact List.mem_append_left _ (ih h)

theorem nodup_dedupFields (fs : List (α × β)) : ((dedupFields fs).map Prod.fst).Nodup := by
  induction fs using List.reverseRecOn with
  | nil => exact List.nodup_nil
  | append_singleton fs f ih =>
    rw [dedupFields_concat]
    exact nodup_putField f.1 f.2 ih

end ExtTypes

import Mathlib.Data.List.Sort

/-! Lists in order. What is sorted does not depend on the order that was there before, but for items
that the sort does not tell apart; these stay in their order. Texts in order are strictly increasing
once each of them is there no more than once. -/
namespace ExtTypes

/-- Items that are not told apart stay in their order. -/
theorem filter_mergeSort_of_le {α : Type} {le : α → α → Bool}
    (trans : ∀ a b c, le a b = true → le b c = true → le a c = true)
    (total : ∀ a b, (le a b || le b a) = true) {p : α → Bool}
    (hp : ∀ a b, p a = true → p b = true → le a b = true) (l : List α) :
    (l.mergeSort le).filter p = l.filter p := by
  have hle : (l.filter p).Pairwise fun a b => le a b = true := by
    apply List.pairwise_of_forall_mem_list
    intro a ha b hb
    exact hp a b (List.mem_filter.mp ha).2 (List.mem_filter.mp hb).2
  have hsub : (l.filter p).Sublist ((l.mergeSort le).filter p) := by
    have hsorted := List.sublist_mergeSort trans total hle List.filter_sublist
    have hfilter := hsorted.filter p
    rwa [List.filter_filter, funext fun a => Bool.and_self (p a)] at hfilter
  -- both lists have the same items, so there is nothing more in the longer one
  have hlength := ((List.mergeSort_perm l le).filter p).length_eq
  exact (hsub.eq_of_length hlength.symm).symm

/-- Sorted items that are not told apart are related as they were before. -/
theorem pairwise_mergeSort_stable {α : Type} {le : α → α → Bool}
    (trans : ∀ a b c, le a b = true → le b c = true → le a c = true)
    (total : ∀ a b, (le a b || le b a) = true) {R : α → α → Prop} {l : List α}
    (h : l.Pairwise R) :
    (l.mergeSort le).Pairwise fun a b => le a b = true ∧ (le b a = true → R a b) := by
  rw [List.pairwise_iff_forall_sublist]
  intro a b hab
  have hle : le a b = true := by
    have hsorted := List.pairwise_mergeSort trans total l
    exact List.pairwise_iff_forall_sublist.mp hsorted hab
  refine ⟨hle, fun hba => ?_⟩
  -- the items that are not told apart from `a` stay in their order, and `b` is one of them
  let p : α → Bool := fun x => le a x && le x a
  have hstable : (l.mergeSort le).filter p = l.filter p := by
    apply filter_mergeSort_of_le trans total
    intro x y hx hy
    exact trans x a y (Bool.and_eq_true_iff.mp hx).2 (Bool.and_eq_true_iff.mp hy).1
  have hpair : [a, b].filter p = [a, b] := by
    have haa : le a a = true := by simpa using total a a
    simp [p, haa, hle, hba]
  have hsub := hab.filter p
  rw [hpair, hstable] at hsub
  exact List.pairwise_iff_forall_sublist.mp h (hsub.trans List.filter_sublist)

theorem mergeSort_eq_of_perm {α : Type} {le : α → α → Bool}
    (trans : ∀ a b c, le a b = true → le b c = true → le a c = true)
    (total : ∀ a b, (le a b || le b a) = true)
    (antisymm : ∀ a b, le a b = true → le b a = true → a = b)
    {s t : List α} (h : s.Perm t) : s.mergeSort le = t.mergeSort le := by
  have hp : (s.mergeSort le).Perm (t.mergeSort le) :=
    ((List.mergeSort_perm s le).trans h).trans (List.mergeSort_perm t le).symm
  -- two sorted lists with the same members are equal
  refine hp.eq_of_pairwise (fun a b _ _ => antisymm a b) ?_ ?_
  · exact List.pairwise_mergeSort trans total s
  · exact List.pairwise_mergeSort trans total t

theorem mergeSort_texts_eq_of_perm {s t : List String} (h : s.Perm t) :
    (s.mergeSort fun a b => decide (a ≤ b)) = t.mergeSort fun a b => decide (a ≤ b) := by
  apply mergeSort_eq_of_perm _ _ _ h
  · intro a b c hab hbc
    exact decide_eq_true (String.le_trans (of_decide_eq_true hab) (of_decide_eq_true hbc))
  · intro a b
    simpa using String.le_total a b
  · intro a b hab hba
    exact String.le_antisymm (of_decide_eq_true hab) (of_decide_eq_true hba)

/-- Different texts in order are strictly increasing. -/
theorem pairwise_lt_mergeSort {s : List String} (h : s.Nodup) :
    (s.mergeSort fun a b => decide (a ≤ b)).Pairwise (· < ·) := by
  have hdistinct : (s.mergeSort fun a b => decide (a ≤ b)).Nodup := List.nodup_mergeSort.mpr h
  apply ((List.pairwise_mergeSort' (· ≤ ·) s).and hdistinct).imp
  rintro a b ⟨hle, hne⟩
  exact Std.lt_of_le_of_ne hle hne

/-- Texts in order, each once, are strictly increasing. -/
theorem pairwise_lt_eraseDups {s : List String} (h : s.Pairwise (· ≤ ·)) :
    s.eraseDups.Pairwise (· < ·) := by
  -- the texts equal to the first one are dropped, so the recursion goes on with a shorter list
  induction hlen : s.length using Nat.strong_induction_on generalizing s with
  | _ k ih =>
    cases s with
    | nil => exact .nil
    | cons a s =>
      obtain ⟨hle, hs⟩ := List.pairwise_cons.mp h
      have hshort : (s.filter fun b => !b == a).length < k := by
        rw [← hlen, List.length_cons]
        exact Nat.lt_succ_of_le (List.length_filter_le _ s)
      rw [List.eraseDups_cons]
      refine List.pairwise_cons.mpr ⟨fun b hb => ?_, ih _ hshort (hs.filter _) rfl⟩
      obtain ⟨hmem, hne⟩ := List.mem_filter.mp (List.mem_eraseDups.mp hb)
      have hab : a ≠ b := by
        rintro rfl
        simp at hne
      exact Std.lt_of_le_of_ne (hle b hmem) hab

end ExtTypes

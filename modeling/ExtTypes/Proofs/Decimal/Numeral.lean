import ExtTypes.Decimal.Numeral
import Mathlib.Data.List.Induction
import Mathlib.Data.List.TakeWhile
import Mathlib.Tactic.Ring

/-! How great a number can be that was read from so many digits. Main statement:
`isWritable_of_readInt`. -/
namespace ExtTypes.Decimal

theorem digitValue_lt {base : Nat} {s : List Char} {ds : List Nat} {rest : List Char}
    (h : digitRun? base s = some (ds, rest)) : ∀ d ∈ ds, d < base := by
  intro d hd
  unfold digitRun? at h
  dsimp only at h
  split at h
  · cases h
  · obtain ⟨rfl, -⟩ := Prod.mk.inj (Option.some.inj h)
    obtain ⟨c, hc, hv⟩ := List.mem_filterMap.mp hd
    obtain ⟨g, hg, hcg⟩ := List.mem_flatten.mp hc
    have hrun := List.mem_takeWhile_imp (Text.mem_of_mem_fields hg hcg)
    have hbar : c ≠ '_' := fun he => Text.not_mem_of_mem_fields hg (he ▸ hcg)
    simpa [hv, hbar] using hrun

theorem valueOf_lt {base : Nat} {ds : List Nat} (h : ∀ d ∈ ds, d < base) :
    valueOf base ds < base ^ ds.length := by
  unfold valueOf
  induction ds using List.reverseRecOn with
  | nil => simp
  | append_singleton ds d ih =>
    have hd : d < base := h d (by simp)
    have hinit := ih fun e he => h e (by simp [he])
    rw [List.foldl_append, List.foldl_cons, List.foldl_nil, List.length_append, List.length_singleton,
      pow_succ]
    calc _ < ds.foldl (fun n d => n * base + d) 0 * base + base := by omega
      _ = (ds.foldl (fun n d => n * base + d) 0 + 1) * base := by ring
      _ ≤ base ^ ds.length * base := Nat.mul_le_mul_right base hinit

/-- A whole number that was read can be written. -/
theorem isWritable_of_readInt {s : List Char} {n : Int} (h : readInt 10 s = .ok n) :
    isWritable n = true := by
  unfold readInt at h
  dsimp only at h
  split at h
  · cases h
  · next ds rest hrun =>
    split at h
    · cases h
    · next hshort =>
      split at h
      · cases h
      · have hlen : ds.length ≤ digitLimit := by simpa using hshort
        have habs : n.natAbs = valueOf 10 ds := by
          rw [← Except.ok.inj h]
          split <;> simp
        rw [isWritable, habs]
        -- the limit itself is of no account, and its power should not be evaluated
        generalize digitLimit = limit at hlen
        apply decide_eq_true
        calc valueOf 10 ds < 10 ^ ds.length := valueOf_lt (digitValue_lt hrun)
          _ ≤ 10 ^ limit := Nat.pow_le_pow_right (by decide) hlen

end ExtTypes.Decimal

import ExtTypes.Import.Scanner
import ExtTypes.Proofs.Action
import Mathlib.Data.List.Induction
import Mathlib.Data.List.Nodup

/-! Which of the imports with the same exposed name is kept: the one that stands first, so that a
preset comes before all that is scanned. Imports are told apart by their places in the list, since
the same one may stand there twice. Main statement: `Scanner.imports_shadowing`. -/
namespace ExtTypes

namespace Import

/-! ### One import more -/

/-- An import at the end is compared with those that have been kept by then. -/
theorem sift_concat (seen is : List Import) (i : Import) :
    sift seen (is ++ [i]) =
      match (seen ++ (sift seen is).1).find? (·.exposed = i.exposed) with
      | some j => ((sift seen is).1, (sift seen is).2 ++ [(i, j)])
      | none => ((sift seen is).1 ++ [i], (sift seen is).2) := by
  induction is generalizing seen with
  | nil =>
    rw [List.nil_append, sift, sift, List.append_nil]
    cases seen.find? (·.exposed = i.exposed) <;> simp [sift]
  | cons k is ih =>
    rw [List.cons_append, sift, sift]
    cases hfind : seen.find? (·.exposed = k.exposed) with
    | some j =>
      dsimp only
      rw [ih]
      cases (seen ++ (sift seen is).1).find? (·.exposed = i.exposed) <;> rfl
    | none =>
      dsimp only
      rw [ih, List.append_assoc, List.singleton_append]
      cases (seen ++ k :: (sift (seen ++ [k]) is).1).find? (·.exposed = i.exposed) <;> rfl

/-- An import and its place in a list. -/
abbrev Placed := Import × Nat

/-- Which of the imports `is` are kept, and which are left out, each with the one that shadows it.
-/
structure Shadowing (is : List Import) (kept : List Placed) (lost : List (Placed × Placed)) :
    Prop where
  kept_sublist : kept.Sublist is.zipIdx
  lost_sublist : (lost.map Prod.fst).Sublist is.zipIdx
  /-- Each import is either kept or left out, and no more than once. -/
  split : (kept ++ lost.map Prod.fst).Perm is.zipIdx
  distinct : (kept.map fun p => p.1.exposed).Nodup
  shadow : ∀ d ∈ lost, d.2 ∈ kept ∧ d.2.2 < d.1.2 ∧ d.2.1.exposed = d.1.1.exposed

variable {is : List Import} {kept : List Placed} {lost : List (Placed × Placed)}

theorem zipIdx_concat (is : List Import) (i : Import) :
    (is ++ [i]).zipIdx = is.zipIdx ++ [(i, is.length)] := by
  rw [List.zipIdx_append, Nat.zero_add]
  rfl

theorem Shadowing.nil : Shadowing [] [] [] :=
  ⟨List.nil_sublist _, List.nil_sublist _, .nil, List.nodup_nil, by simp⟩

theorem Shadowing.keep (h : Shadowing is kept lost) {i : Import}
    (hnew : ∀ p ∈ kept, p.1.exposed ≠ i.exposed) :
    Shadowing (is ++ [i]) (kept ++ [(i, is.length)]) lost := by
  constructor
  · rw [zipIdx_concat]
    exact h.kept_sublist.append (List.Sublist.refl _)
  · rw [zipIdx_concat]
    exact h.lost_sublist.trans (List.sublist_append_left _ _)
  · rw [zipIdx_concat]
    have hperm := h.split.append_right [(i, is.length)]
    refine .trans ?_ hperm
    rw [List.append_assoc, List.append_assoc]
    exact List.perm_append_comm.append_left kept
  · rw [List.map_append, List.map_singleton, List.nodup_append]
    refine ⟨h.distinct, List.nodup_singleton _, ?_⟩
    intro a ha b hb
    obtain ⟨p, hp, rfl⟩ := List.mem_map.mp ha
    rw [List.mem_singleton.mp hb]
    exact hnew p hp
  · intro d hd
    obtain ⟨hkept, hlt, hsame⟩ := h.shadow d hd
    exact ⟨List.mem_append_left _ hkept, hlt, hsame⟩

theorem Shadowing.drop (h : Shadowing is kept lost) {i : Import} {p : Placed} (hp : p ∈ kept)
    (hsame : p.1.exposed = i.exposed) :
    Shadowing (is ++ [i]) kept (lost ++ [((i, is.length), p)]) := by
  have hplace : p.2 < is.length := by
    have hlt := List.snd_lt_of_mem_zipIdx (h.kept_sublist.subset hp)
    omega
  constructor
  · rw [zipIdx_concat]
    exact h.kept_sublist.trans (List.sublist_append_left _ _)
  · rw [zipIdx_concat, List.map_append]
    exact h.lost_sublist.append (List.Sublist.refl _)
  · rw [zipIdx_concat, List.map_append, ← List.append_assoc]
    exact h.split.append_right _
  · exact h.distinct
  · intro d hd
    rcases List.mem_append.mp hd with hd | hd
    · exact h.shadow d hd
    · rw [List.mem_singleton.mp hd]
      exact ⟨hp, hplace, hsame⟩

/-- What a sift gives are the imports that are kept, and those left out. -/
theorem exists_shadowing (is : List Import) : ∃ kept lost, Shadowing is kept lost ∧
    sift [] is = (kept.map Prod.fst, lost.map fun d => (d.1.1, d.2.1)) := by
  induction is using List.reverseRecOn with
  | nil => exact ⟨[], [], .nil, rfl⟩
  | append_singleton is i ih =>
    obtain ⟨kept, lost, hshadow, hsift⟩ := ih
    rw [sift_concat, List.nil_append, hsift]
    cases hfind : (kept.map Prod.fst).find? (·.exposed = i.exposed) with
    | some j =>
      obtain ⟨p, hp, rfl⟩ := List.mem_map.mp (List.mem_of_find?_eq_some hfind)
      have hsame : p.1.exposed = i.exposed := by simpa using List.find?_some hfind
      refine ⟨kept, _, hshadow.drop hp hsame, ?_⟩
      rw [List.map_append]
      rfl
    | none =>
      have hnew : ∀ p ∈ kept, p.1.exposed ≠ i.exposed := by
        intro p hp
        simpa using List.find?_eq_none.mp hfind p.1 (List.mem_map_of_mem hp)
      refine ⟨_, lost, hshadow.keep hnew, ?_⟩
      rw [List.map_append]
      rfl

/-- The first import with its exposed name is kept. -/
theorem Shadowing.mem_kept (h : Shadowing is kept lost) {p : Placed} (hp : p ∈ is.zipIdx)
    (hfirst : ∀ q ∈ is.zipIdx, q.2 < p.2 → q.1.exposed ≠ p.1.exposed) : p ∈ kept := by
  rcases List.mem_append.mp (h.split.mem_iff.mpr hp) with hkept | hlost
  · exact hkept
  · obtain ⟨d, hd, rfl⟩ := List.mem_map.mp hlost
    obtain ⟨hkept, hlt, hsame⟩ := h.shadow d hd
    exact absurd hsame (hfirst d.2 (h.kept_sublist.subset hkept) hlt)

/-- What is kept is among the imports, and no name is lost. -/
theorem Shadowing.exposed_iff (h : Shadowing is kept lost) {n : String} :
    (∃ p ∈ kept, p.1.exposed = n) ↔ ∃ i ∈ is, i.exposed = n := by
  constructor
  · rintro ⟨p, hp, he⟩
    have hplace := List.mem_zipIdx' (h.kept_sublist.subset hp)
    exact ⟨p.1, hplace.2 ▸ List.getElem_mem _, he⟩
  · rintro ⟨i, hi, rfl⟩
    obtain ⟨k, hk, rfl⟩ := List.mem_iff_getElem.mp hi
    have hplace : (is[k], k) ∈ is.zipIdx := List.mem_zipIdx_iff_getElem?.mpr (by simp [hk])
    rcases List.mem_append.mp (h.split.mem_iff.mpr hplace) with hkept | hlost
    · exact ⟨_, hkept, rfl⟩
    · obtain ⟨d, hd, he⟩ := List.mem_map.mp hlost
      obtain ⟨hkept, -, hsame⟩ := h.shadow d hd
      exact ⟨d.2, hkept, by rw [hsame, he]⟩

theorem Shadowing.length_add (h : Shadowing is kept lost) :
    kept.length + lost.length = is.length := by
  have hlen := h.split.length_eq
  rwa [List.length_append, List.length_map, List.length_zipIdx] at hlen

end Import

open Log (State)

/-- All records that are of enough weight are shown, in order. -/
theorem Log.State.shown_foldl_record {σ : State} {least : Log.Level} {file? : Option Location}
    (hk : σ.sinks = .ofLeast least file?) {rs : List Record}
    (hrs : ∀ r ∈ rs, least.rank ≤ r.level.rank) :
    (rs.foldl State.record σ).shown = σ.shown ++ rs := by
  induction rs generalizing σ with
  | nil => rw [List.foldl_nil, List.append_nil]
  | cons r rs ih =>
    obtain ⟨hr, hrs⟩ := List.forall_mem_cons.mp hrs
    have hsinks : (σ.record r).sinks = .ofLeast least file? := (record_logged σ r).sinks.trans hk
    have hshown : (σ.record r).shown = σ.shown ++ [r] := by
      rw [record_of_accepts hk hr]
    rw [List.foldl_cons, ih hsinks hrs, hshown, List.append_assoc, List.singleton_append]

namespace Scanner

open Import (Placed Shadowing)

/-- Of the presets and the scanned imports those are kept that come first with their exposed names,
in order, so that no scanned import shadows a preset. For each of the others there is one warning,
in order, that names the import and the one that is kept in its place. -/
theorem imports_shadowing (sc : Scanner) : ∃ kept lost warnings,
    Shadowing (sc.presets ++ sc.scanned) kept lost ∧
      (∀ p ∈ (sc.presets ++ sc.scanned).zipIdx, (∀ q ∈ (sc.presets ++ sc.scanned).zipIdx,
        q.2 < p.2 → q.1.exposed ≠ p.1.exposed) → p ∈ kept) ∧
      (∀ d ∈ lost, d.1.2 < sc.presets.length → d.2.2 < sc.presets.length) ∧
      kept.length + lost.length = sc.presets.length + sc.scanned.length ∧
      warnings = lost.map (fun d => (⟨.warning, "declgen.imports",
        "Duplicate auto-import '" ++ (d.1.1.alias?.filter (· ≠ "")).getD d.1.1.name ++ "' from " ++
          d.1.1.source ++ " ignored (already provided by " ++ d.2.1.source ++ ")"⟩ : Log.Record)) ∧
      (∀ σ, sc.imports σ = (.ok (kept.map Prod.fst), warnings.foldl State.record σ)) ∧
      ∀ (σ : State) least file?, σ.sinks = .ofLeast least file? →
        least.rank ≤ Log.Level.warning.rank → (sc.imports σ).2.shown = σ.shown ++ warnings := by
  obtain ⟨kept, lost, hshadow, hsift⟩ := Import.exists_shadowing (sc.presets ++ sc.scanned)
  have himports (σ : State) : sc.imports σ =
      (.ok (kept.map Prod.fst), sc.warnings.foldl State.record σ) := by
    have hlog := Action.forM_log_apply id sc.warnings σ
    rw [List.map_id] at hlog
    refine (Action.bind_of_ok hlog).trans ?_
    rw [sifted, hsift]
    rfl
  refine ⟨kept, lost, sc.warnings, hshadow, fun p hp => hshadow.mem_kept hp, ?_, ?_, ?_, himports,
    ?_⟩
  · intro d hd hpreset
    have hlt := (hshadow.shadow d hd).2.1
    omega
  · rw [hshadow.length_add, List.length_append]
  · rw [warnings, sifted, hsift, List.map_map]
    simp only [← Import.exposed_eq]
    rfl
  · intro σ least file? hk hleast
    rw [himports]
    apply State.shown_foldl_record hk
    intro r hr
    obtain ⟨d, -, rfl⟩ := List.mem_map.mp hr
    exact hleast

end Scanner

end ExtTypes

import ExtTypes.Proofs.Declaration.Paths

/-! The union of paths is a canonical form: it tells which paths it was made of, and nothing else.
Rows are compared with all that is around the paths, which is the same in each of them. Main
statement: `pathsText_eq_iff`. -/
namespace ExtTypes.Declaration

/-! ### Lines -/

/-- Lines come apart again as they were; after the end of the last one there is no more text. -/
theorem splitAt_unlines {ls : List String} (h : ∀ l ∈ ls, '\n' ∉ l.toList) :
    Text.splitAt '\n' (unlines ls) = ls ++ [""] := by
  rw [Text.splitAt, unlines, String.toList_ofList]
  induction ls with
  | nil => rfl
  | cons l ls ih =>
    obtain ⟨hl, hls⟩ := List.forall_mem_cons.mp h
    rw [List.flatMap_cons, List.append_assoc, List.singleton_append, Text.fields_append hl,
      List.map_cons, String.ofList_toList, ih hls]
    rfl

/-- The same lines stand before the rows, and after them, whatever the paths are. -/
theorem exists_pathsText_eq : ∃ before after : List String,
    (∀ l ∈ before ++ after, '\n' ∉ l.toList) ∧
      ∀ paths, pathsText paths = unlines (before ++ pathRows paths ++ after) :=
  ⟨_, _, by decide, fun _ => rfl⟩

theorem newline_notMem_pathRow {p : String} (h : '\n' ∉ p.toList) : '\n' ∉ (pathRow p).toList := by
  have hframe : '\n' ∉ "    | \"/".toList ∧ '\n' ∉ "\"".toList := by decide
  intro hrow
  rw [pathRow, String.toList_append, String.toList_append] at hrow
  rcases List.mem_append.mp hrow with hrow | hrow
  · rcases List.mem_append.mp hrow with hrow | hrow
    · exact hframe.1 hrow
    · rcases mem_slashed hrow with hc | hc
      · cases hc
      · exact h hc
  · exact hframe.2 hrow

theorem newline_notMem_pathRows {paths : List String} (h : ∀ p ∈ paths, '\n' ∉ p.toList) :
    ∀ row ∈ pathRows paths, '\n' ∉ row.toList := by
  intro row hrow
  rcases mem_pathRows.mp hrow with ⟨p, hp, rfl⟩ | ⟨-, rfl⟩
  · exact newline_notMem_pathRow (h p hp)
  · decide

/-- The rows can be read off the text: they are the lines between those that all texts share. -/
theorem exists_splitAt_pathsText : ∃ before after : List String, ∀ paths : List String,
    (∀ p ∈ paths, '\n' ∉ p.toList) →
      Text.splitAt '\n' (pathsText paths) = before ++ pathRows paths ++ after := by
  obtain ⟨before, after, hframe, htext⟩ := exists_pathsText_eq
  obtain ⟨hbefore, hafter⟩ := List.forall_mem_append.mp hframe
  refine ⟨before, after ++ [""], fun paths h => ?_⟩
  have hlines : ∀ l ∈ before ++ pathRows paths ++ after, '\n' ∉ l.toList := by
    intro l hl
    rcases List.mem_append.mp hl with hl | hl
    · rcases List.mem_append.mp hl with hl | hl
      · exact hbefore l hl
      · exact newline_notMem_pathRows h l hl
    · exact hafter l hl
  rw [htext, splitAt_unlines hlines, List.append_assoc _ after]

/-! ### Rows -/

/-- A row shows its path, slashed. -/
theorem pathRow_inj {p q : String} : pathRow p = pathRow q ↔ slashed p = slashed q := by
  constructor
  · intro h
    rw [pathRow, pathRow, String.append_left_inj, String.append_right_inj] at h
    exact h
  · intro h
    rw [pathRow, pathRow, h]

theorem pathRow_mem_pathRows {p : String} {paths : List String} :
    pathRow p ∈ pathRows paths ↔ slashed p ∈ paths.map slashed := by
  rw [mem_pathRows, List.mem_map]
  constructor
  · rintro (⟨q, hq, hrow⟩ | ⟨-, hrow⟩)
    · exact ⟨q, hq, (pathRow_inj.mp hrow).symm⟩
    · exact absurd hrow (pathRow_ne_never p)
  · rintro ⟨q, hq, hslashed⟩
    exact .inl ⟨q, hq, pathRow_inj.mpr hslashed.symm⟩

/-- A slashed path is among those of the list if its row is there. -/
theorem mem_map_slashed {p : String} {paths : List String} :
    p ∈ paths.map slashed ↔ slashed p = p ∧ pathRow p ∈ pathRows paths := by
  rw [pathRow_mem_pathRows]
  constructor
  · intro hp
    obtain ⟨q, -, rfl⟩ := List.mem_map.mp hp
    rw [slashed_slashed]
    exact ⟨rfl, hp⟩
  · rintro ⟨hp, hmem⟩
    rwa [hp] at hmem

theorem mem_pathRows_of_mem {ps qs : List String}
    (h : ∀ p, p ∈ ps.map slashed ↔ p ∈ qs.map slashed) {row : String} (hrow : row ∈ pathRows ps) :
    row ∈ pathRows qs := by
  rcases mem_pathRows.mp hrow with ⟨p, hp, rfl⟩ | ⟨rfl, rfl⟩
  · rw [pathRow_mem_pathRows, ← h]
    exact List.mem_map_of_mem hp
  · have hqs : qs = [] := by
      apply List.map_eq_nil_iff.mp
      apply List.eq_nil_iff_forall_not_mem.mpr
      intro p hp
      exact List.not_mem_nil ((h p).mpr hp)
    rwa [hqs]

/-- The rows tell which paths they are of, and are told by that. -/
theorem pathRows_eq_iff {ps qs : List String} :
    pathRows ps = pathRows qs ↔ ∀ p, p ∈ ps.map slashed ↔ p ∈ qs.map slashed := by
  constructor
  · intro h p
    rw [mem_map_slashed, h, ← mem_map_slashed]
  · intro h
    -- rows that are strictly increasing are told by which of them are there
    apply (pairwise_pathRows ps).eq_of_mem_iff (pairwise_pathRows qs)
    intro row
    exact ⟨mem_pathRows_of_mem h, mem_pathRows_of_mem fun p => (h p).symm⟩

variable {ps qs : List String}

/-- Two texts are the same if and only if they are made of the same slashed paths, in whatever order
and however often. Between the lines that both share they have their rows, which are strictly
increasing; only where there is no path do they say so. -/
theorem pathsText_eq_iff (hps : ∀ p ∈ ps, '\n' ∉ p.toList) (hqs : ∀ p ∈ qs, '\n' ∉ p.toList) :
    (pathsText ps = pathsText qs ↔ ∀ p, p ∈ ps.map slashed ↔ p ∈ qs.map slashed) ∧
      (pathRows ps).Pairwise (· < ·) ∧ (pathRows ps = ["    | never"] ↔ ps = []) ∧
      ∃ before after, Text.splitAt '\n' (pathsText ps) = before ++ pathRows ps ++ after ∧
        Text.splitAt '\n' (pathsText qs) = before ++ pathRows qs ++ after := by
  obtain ⟨before, after, hlines⟩ := exists_splitAt_pathsText
  refine ⟨?_, pairwise_pathRows ps, pathRows_eq_never, before, after, hlines ps hps, hlines qs hqs⟩
  rw [← pathRows_eq_iff]
  constructor
  · intro h
    have hsplit := hlines ps hps
    rw [h, hlines qs hqs] at hsplit
    exact (List.append_cancel_left (List.append_cancel_right hsplit)).symm
  · intro h
    obtain ⟨before, after, -, htext⟩ := exists_pathsText_eq
    rw [htext, htext, h]

/-- A path that looks like the end of a row and the start of another one is still one path. -/
theorem pathsText_eq_iff_icons :
    pathsText ["icons\\16.png", "popup.html", "icons/16.png"] =
        pathsText ["popup.html", "icons/16.png"] ∧
      pathsText ["a\"    | \"/b"] ≠ pathsText ["a", "b"] := by
  constructor
  · apply (pathsText_eq_iff (by decide) (by decide)).1.mpr
    have hslashed : slashed "icons\\16.png" = "icons/16.png" := by decide
    have hsame : slashed "icons/16.png" = "icons/16.png" := by decide
    intro p
    simp only [List.map_cons, List.map_nil, hslashed, hsame, List.mem_cons, List.not_mem_nil,
      or_false]
    tauto
  · intro h
    have hmem := ((pathsText_eq_iff (by decide) (by decide)).1.mp h "a").mpr (by decide)
    exact absurd hmem (by decide)

end ExtTypes.Declaration

import ExtTypes.Proofs.Generate.Pipeline
import Mathlib.Data.List.Nodup

/-! Where a run without hooks puts its files. All but one of the places follow from the output
directory; only the file for the linter goes where the settings say. Main statement:
`targets_distinct_iff`. -/
namespace ExtTypes.Generate

open Log (State)

variable {s : Settings} {entrypoints : List Entrypoint} {source : HookSource} {σ τ : State}
  {entries : List Entry}

/-- Where a file with this path goes. -/
def place (s : Settings) (path : String) : Location := (s.outputDir.path.child path).collapse []

/-- The paths that do not depend on the settings. -/
def fixedPaths (hasImports isLocalized : Bool) : List String :=
  (if hasImports then ["types/imports.d.ts"] else []) ++ ["types/paths.d.ts"] ++
    (if isLocalized then ["types/i18n.d.ts"] else []) ++
    ["types/globals.d.ts", "tsconfig.json", "wxt.d.ts"]

/-- The path of the file for the linter, if there is to be one. -/
def lintPath? (s : Settings) : Option String :=
  (s.imports?.filter (·.lint.enabled)).map (·.lint.filePath)

theorem map_location_targets (s : Settings) (entries : List Entry) :
    (targets s entries).map FileEntry.location =
      (entries.filterMap Entry.file?).map fun f => place s f.path := by
  unfold targets
  rw [List.map_map]
  apply List.map_congr_left
  intro f _
  simp only [Function.comp_apply, FileEntry.location, FileEntry.target, Path.ofString_text, place]

theorem filterMap_file?_moduleEntries (s : Settings) :
    (moduleEntries s).filterMap Entry.file? = [] := by
  apply List.filterMap_eq_nil_iff.mpr
  intro e he
  rcases List.mem_cons.mp he with rfl | he
  · rfl
  · obtain ⟨m, -, rfl⟩ := List.mem_map.mp he
    rfl

theorem path_eq_of_pathsEntry {files : FileSystem} {f : FileEntry}
    (h : Declaration.pathsEntry files s entrypoints = .ok f) : f.path = "types/paths.d.ts" := by
  unfold Declaration.pathsEntry at h
  cases hp : Declaration.publicPaths files s entrypoints with
  | error e =>
    rw [hp] at h
    cases h
  | ok ps =>
    rw [hp] at h
    cases h
    rfl

/-- Of a run without hooks, the paths are the fixed ones and that for the linter. -/
theorem map_path_perm (st : Stages s entrypoints source σ) (hadded : st.added = [])
    (last : FileEntry) (hlast : last.path = "wxt.d.ts") :
    (((st.before ++ [Entry.file last]).filterMap Entry.file?).map FileEntry.path).Perm
      ((lintPath? s).toList ++ fixedPaths s.imports?.isSome st.localized) := by
  have hpaths := path_eq_of_pathsEntry st.paths_eq
  have hmessages : ((messageFiles st.localized st.messages).filterMap Entry.file?).map
      FileEntry.path = if st.localized then ["types/i18n.d.ts"] else [] := by
    unfold messageFiles
    split <;> rfl
  -- the linter's file comes right after the declarations of the imports
  have himports : (((importFiles s st.found).filterMap Entry.file?).map FileEntry.path).Perm
      ((lintPath? s).toList ++ if s.imports?.isSome then ["types/imports.d.ts"] else []) := by
    unfold importFiles lintPath?
    cases s.imports? with
    | none => exact .refl _
    | some o =>
      by_cases hlint : o.lint.enabled = true
      · simp only [hlint, if_true, Option.filter_some, Option.isSome_some]
        exact .swap _ _ _
      · simp [hlint, Declaration.importsFile, Entry.file?]
  simp only [Stages.before, hadded, List.append_nil, List.filterMap_append,
    filterMap_file?_moduleEntries, List.nil_append, List.map_append, hmessages]
  have hrest : (([.file st.paths] : List Entry).filterMap Entry.file?).map FileEntry.path =
      ["types/paths.d.ts"] := by
    rw [← hpaths]
    rfl
  have hend : (([.file (Declaration.globalsEntry s), .file (Declaration.tsconfigEntry s)] :
      List Entry).filterMap Entry.file?).map FileEntry.path ++
        (([.file last] : List Entry).filterMap Entry.file?).map FileEntry.path =
      ["types/globals.d.ts", "tsconfig.json", "wxt.d.ts"] := by
    rw [← hlast]
    rfl
  rw [hrest, List.append_assoc _ _ ((List.filterMap _ _).map _), hend]
  unfold fixedPaths
  simp only [← List.append_assoc]
  exact ((himports.append_right _).append_right _).append_right _

/-- The fixed paths go to different places. -/
theorem nodup_fixedPlaces (s : Settings) (hasImports isLocalized : Bool) :
    ((fixedPaths hasImports isLocalized).map (place s)).Nodup := by
  have hplain : ∀ p ∈ fixedPaths hasImports isLocalized, (Path.ofString p).isAbsolute = false ∧
      Part.up ∉ (Path.ofString p).parts := by
    cases hasImports <;> cases isLocalized <;> decide
  have hdifferent : ((fixedPaths hasImports isLocalized).map fun p =>
      Path.names (Path.ofString p).parts).Nodup := by
    cases hasImports <;> cases isLocalized <;> decide
  -- each is that many names below the output directory
  have hplace : (fixedPaths hasImports isLocalized).map (place s) =
      ((fixedPaths hasImports isLocalized).map fun p => Path.names (Path.ofString p).parts).map
        (s.outputDir ++ ·) := by
    rw [List.map_map]
    apply List.map_congr_left
    intro p hp
    obtain ⟨hrel, hup⟩ := hplain p hp
    show (s.outputDir.path.child p).collapse [] = _
    have hchild : s.outputDir.path.child p =
        Location.path (s.outputDir ++ Path.names (Path.ofString p).parts) := by
      show (Location.path s.outputDir).join (Path.ofString p) = _
      rw [Path.join, if_neg (by simp [hrel])]
      show (⟨.root, s.outputDir.map .name ++ (Path.ofString p).parts⟩ : Path) =
        ⟨.root, (s.outputDir ++ Path.names (Path.ofString p).parts).map .name⟩
      rw [List.map_append, Path.map_names hup]
    rw [hchild, Path.collapse_path]
    rfl
  rw [hplace]
  exact List.Nodup.map (fun _ _ => List.append_cancel_left) hdifferent

theorem nodup_map_place (s : Settings) (hasImports isLocalized : Bool) :
    (((lintPath? s).toList ++ fixedPaths hasImports isLocalized).map (place s)).Nodup ↔
      ∀ p ∈ lintPath? s, place s p ∉ (fixedPaths hasImports isLocalized).map (place s) := by
  have hfixed := nodup_fixedPlaces s hasImports isLocalized
  cases lintPath? s with
  | none => simpa using hfixed
  | some p =>
    show ((p :: fixedPaths hasImports isLocalized).map (place s)).Nodup ↔ _
    rw [List.map_cons, List.nodup_cons]
    constructor
    · rintro ⟨hp, -⟩ q hq
      cases hq
      exact hp
    · intro h
      exact ⟨h p rfl, hfixed⟩

theorem isPlain_target (f : FileEntry) {p : String} (h : Part.up ∉ (Path.ofString p).parts) :
    FileEntry.IsPlain { f with path := (s.outputDir.path.child p).text } := by
  constructor
  · rw [FileEntry.IsAbsolute, FileEntry.target, Path.ofString_text]
    exact Path.isAbsolute_child (Path.isAbsolute_path s.outputDir) p
  · rw [FileEntry.target, Path.ofString_text, Path.child, Path.join]
    split
    · exact h
    · simpa [Location.path] using h

theorem up_notMem_fixedPaths {hasImports isLocalized : Bool} :
    ∀ p ∈ fixedPaths hasImports isLocalized, Part.up ∉ (Path.ofString p).parts := by
  cases hasImports <;> cases isLocalized <;> decide +kernel

/-- Without hooks, the files of a run go to different places unless the one for the linter is sent
where another one goes. If they do, each holds its own text in the end, in whatever order they were
written. They can be written in any order, if no path goes up. Only the log file may get other
text. -/
theorem targets_distinct_iff {r : Result} (hhooks : source.hooks s = .ok [])
    (h : run s entrypoints source σ = (.ok r, τ)) :
    ∃ st : Stages s entrypoints source (begun s σ),
      r.entries = st.before ++ [.file (Declaration.referenceEntry s st.before)] ∧
        (((targets s r.entries).map FileEntry.location).Nodup ↔
          ∀ p ∈ lintPath? s,
            place s p ∉ (fixedPaths s.imports?.isSome st.localized).map (place s)) ∧
        (((targets s r.entries).map FileEntry.location).Nodup →
          ∀ f ∈ targets s r.entries, f.location ∉ σ.logFiles →
            τ.files.read [] f.target = .ok f.text.toUTF8 ∧
              ∀ order φ, order.Perm (targets s r.entries) → φ.logFiles = σ.logFiles →
                (∀ w ∈ (Writer.writeEach φ order).1, ∃ x, w = .ok x) →
                (Writer.writeEach φ order).2.files.read [] f.target = .ok f.text.toUTF8) ∧
        (((targets s r.entries).map FileEntry.location).Nodup →
          (∀ p ∈ lintPath? s, Part.up ∉ (Path.ofString p).parts) →
          (∀ f ∈ targets s r.entries, f.location ∉ σ.logFiles) →
          ∃ φ, State.Logged (begun s σ) φ ∧
            (Writer.writeAll (targets s r.entries) φ).1 = .ok r.writes ∧
            ∀ order, order.Perm (targets s r.entries) →
              ∀ w ∈ (Writer.writeEach φ order).1, ∃ x, w = .ok x) := by
  obtain ⟨υ, φ₀, hgather, -⟩ := run_eq_ok h
  obtain ⟨st, hentries⟩ := collect_eq_ok (gather_eq_ok hgather).2
  have hnone : st.hooks = [] := Except.ok.inj (st.hooks_eq.symm.trans hhooks)
  have hadded : st.added = [] := by
    have hrun := st.added_eq
    rw [hnone] at hrun
    exact (Except.ok.inj hrun).symm
  -- the paths are the fixed ones and the linter's one, up to their order
  have hperm := map_path_perm st hadded (Declaration.referenceEntry s st.before) rfl
  rw [← hentries] at hperm
  refine ⟨st, hentries, ?_, ?_, fun hnodup hlint hlog => ?_⟩
  · rw [← nodup_map_place, ← (hperm.map (place s)).nodup_iff, map_location_targets, List.map_map]
    rfl
  · intro hnodup f hf hlog
    -- where places are different, what is read at one was written to it
    have hown {g : FileEntry} (hg : g ∈ targets s r.entries) (hloc : g.location = f.location) :
        g = f := List.inj_on_of_nodup_map hnodup hg hf hloc
    constructor
    · obtain ⟨g, hg, hloc, hread⟩ := read_of_run h hf hlog
      rwa [hown hg hloc] at hread
    · intro order φ hperm hφ hok
      have horder : ∀ f ∈ order, f.IsAbsolute := fun g hg =>
        isAbsolute_targets s r.entries g (hperm.mem_iff.mp hg)
      obtain ⟨g, hg, hloc, hread⟩ :=
        Writer.read_writeEach horder hok (hperm.mem_iff.mpr hf) (hφ ▸ hlog)
      rwa [hown (hperm.mem_iff.mp hg) hloc] at hread
  · obtain ⟨φ, hφ, -, hall, -, hany⟩ := writes_of_run h
    have hplain : ∀ f ∈ targets s r.entries, f.IsPlain := by
      intro f hf
      obtain ⟨g, hg, rfl⟩ := mem_targets.mp hf
      have hpath : g.path ∈ (r.entries.filterMap Entry.file?).map FileEntry.path :=
        List.mem_map_of_mem (List.mem_filterMap.mpr ⟨.file g, hg, rfl⟩)
      rw [hperm.mem_iff, List.mem_append, Option.mem_toList] at hpath
      exact isPlain_target g (hpath.elim (hlint _) (up_notMem_fixedPaths _))
    exact ⟨φ, hφ, hall, hany hplain hnodup hlog⟩

/-- The sample with a file for the linter at this path. -/
def linted (path : String) : Settings :=
  { sample with imports? := some { ImportOptions.default with lint := ⟨true, path, .flag true⟩ } }

/-- Next to the output directory the linter's file is out of the way. -/
theorem targets_distinct_beside : ∃ r τ,
    run (linted "../globals.json") [] (.given []) (quiet FileSystem.empty) = (.ok r, τ) ∧
      ((targets (linted "../globals.json") r.entries).map FileEntry.location).Nodup := by
  obtain ⟨r, τ, hrun, -⟩ : EndsIn (run (linted "../globals.json") [] (.given [])
      (quiet FileSystem.empty)) fun _ _ => True := by decide +kernel
  obtain ⟨st, -, hiff, -, -⟩ := targets_distinct_iff rfl hrun
  refine ⟨r, τ, hrun, hiff.mpr fun p hp => ?_⟩
  obtain rfl : "../globals.json" = p := Option.some.inj hp
  cases st.localized <;> decide +kernel

/-- A configuration can send the linter's file where the compiler's one goes. -/
theorem targets_collide : ∃ s,
    Settings.resolve [] (Path.ofString "/project") (.json (.obj [("imports", .obj [("eslintrc",
      .obj [("enabled", .bool true), ("file_path", .str "tsconfig.json")])])])) = .ok s ∧
      EndsIn (run s [] (.given []) (quiet FileSystem.empty)) fun r _ =>
        ¬ ((targets s r.entries).map FileEntry.location).Nodup :=
  ⟨linted "tsconfig.json", by decide +kernel, by decide +kernel⟩

end ExtTypes.Generate

import ExtTypes.Proofs.Generate.Inputs

/-! Files that an earlier run left behind. Whatever text they hold, or if they are missing, a run
ends in the same way; but one that holds no text stops it. Main statement: `run_over_old_output`. -/
namespace ExtTypes.Generate

open FileSystem (Alike Grows IsText)
open Log (State)

variable {s : Settings} {entrypoints : List Entrypoint} {source : HookSource}
  {ls lg : Set Location} {σ σ' τ τ' : State} {r r' : Result}

/-- The files at `ls` are written by the run and not read, and the log files at `lg` are neither. -/
structure OldOutput (s : Settings) (entrypoints : List Entrypoint) (source : HookSource)
    (ls lg : Set Location) (σ : State) : Prop where
  unread : ∀ l ∈ inputs s (begun s σ).files, l ∉ ls ∪ lg
  written : ∀ r σ', run s entrypoints source σ = (.ok r, σ') →
    ∀ l ∈ ls, ∃ f ∈ targets s r.entries, f.location = l
  unlogged : ∀ r σ', run s entrypoints source σ = (.ok r, σ') →
    ∀ f ∈ targets s r.entries, f.location ∉ lg
  logFiles : σ.logFiles ⊆ lg
  hasLog : ∀ l ∈ lg, σ.files.HasFile l

/-- All places of the old output hold files after a run that ends well. -/
theorem OldOutput.hasFile (hσ : OldOutput s entrypoints source ls lg σ)
    (h : run s entrypoints source σ = (.ok r, σ')) {l : Location} (hl : l ∈ ls ∪ lg) :
    σ'.files.HasFile l := by
  rcases hl with hl | hl
  · obtain ⟨f, hf, rfl⟩ := hσ.written r σ' h l hl
    have hlog : f.location ∉ σ.logFiles := fun hm => hσ.unlogged r σ' h f hf (hσ.logFiles hm)
    obtain ⟨g, -, -, hread⟩ := read_of_run h hf hlog
    exact ⟨_, (FileSystem.read_eq_ok.mp hread).2.2⟩
  -- a log file was there before, and no run removes a file
  · obtain ⟨υ, φ, hgather, -⟩ := run_eq_ok h
    obtain ⟨b, hb⟩ := hσ.hasLog l hl
    have hgrows := run_grows hgather
    rw [h] at hgrows
    exact hgrows.file hb

/-- The directories above the files of a run that ends well are not among the old output. -/
theorem OldOutput.notMem_folders (hσ : OldOutput s entrypoints source ls lg σ)
    (h : run s entrypoints source σ = (.ok r, σ')) {l : Location}
    (hl : l ∈ Writer.folders (targets s r.entries)) : l ∉ ls ∪ lg := by
  obtain ⟨f, hf, hl⟩ := hl
  have hlog : f.location ∉ σ.logFiles := fun hm => hσ.unlogged r σ' h f hf (hσ.logFiles hm)
  have hdir := dir_of_run h hf hlog hl
  intro hm
  obtain ⟨b, hb⟩ := hσ.hasFile h hm
  simp [hb] at hdir

/-- Neither is the directory for declarations. -/
theorem OldOutput.notMem_typesDir (hσ : OldOutput s entrypoints source ls lg σ)
    (h : run s entrypoints source σ = (.ok r, σ')) {l : Location}
    (hl : l ∈ s.typesDir.path.way) : l ∉ ls ∪ lg := by
  have hdir := FileSystem.dir_of_mem_way (Path.isAbsolute_path s.typesDir) (typesDir_of_run h) hl
  intro hm
  obtain ⟨b, hb⟩ := hσ.hasFile h hm
  simp [hb] at hdir

/-- What is collected before the old output is written over is collected before it is written over
elsewhere. -/
theorem gather_over_old_output (h : Alike ls ∅ σ.files τ.files)
    (hσ : OldOutput s entrypoints source ls lg σ) (hτ : OldOutput s entrypoints source ls lg τ)
    (hrun : run s entrypoints source σ = (.ok r, σ')) {υ : State}
    (hgather : gather s entrypoints source σ = (.ok r.entries, υ)) :
    ∃ υ', gather s entrypoints source τ = (.ok r.entries, υ') ∧
      Similar s (ls ∪ lg) ∅ υ υ' := by
  obtain ⟨hmake, hcollect⟩ := gather_eq_ok hgather
  have hannounced := (h.mono (Set.subset_union_left (t := lg))).rewrites
    ((announced_logged s σ).files.mono (hσ.logFiles.trans Set.subset_union_right))
    ((announced_logged s τ).files.mono (hτ.logFiles.trans Set.subset_union_right))
  -- no old output is on the way to the directory for declarations
  obtain ⟨hmake', hbegun⟩ := hannounced.makeDirs (Path.isAbsolute_path s.typesDir)
    (fun l hl => hσ.notMem_typesDir hrun hl) hmake
  have hleft := State.logFiles_congr (begun_sinks s σ) ▸ hσ.logFiles
  have hright := State.logFiles_congr (begun_sinks s τ) ▸ hτ.logFiles
  have hsimilar : Similar s (ls ∪ lg) ∅ (begun s σ) (begun s τ) :=
    ⟨hleft.trans Set.subset_union_right, hright.trans Set.subset_union_right, hbegun, hσ.unread⟩
  obtain ⟨υ', hυ', hafter⟩ := collect_carries (.empty s) _ _ hsimilar _ _ hcollect
  exact ⟨υ', (gather_of_ok hmake').trans hυ', hafter⟩

/-- A run ends well in the other state too, with the same entries and the same files, if the old
output there is text. -/
theorem run_of_isText (h : Alike ls ∅ σ.files τ.files)
    (hσ : OldOutput s entrypoints source ls lg σ) (hτ : OldOutput s entrypoints source ls lg τ)
    (hrun : run s entrypoints source σ = (.ok r, σ'))
    (htext : ∀ l ∈ ls, ∀ b, τ.files.node? l = some (.file b) → IsText b) :
    ∃ ws τ', run s entrypoints source τ = (.ok ⟨r.entries, ws⟩, τ') ∧
      ∀ l, l ∉ lg → τ'.files.node? l = σ'.files.node? l := by
  obtain ⟨υ, φ, hgather, hφ, hwrites, hend⟩ := run_eq_ok hrun
  obtain ⟨υ', hgather', hsimilar⟩ := gather_over_old_output h hσ hτ hrun hgather
  obtain ⟨φ', hφ', hfst, hend'⟩ := run_of_gather hgather'
  have hafter := hsimilar.logged hφ hφ'
  have hlog : φ.logFiles ⊆ lg := by
    rw [hφ.logFiles, gather_logFiles hgather]
    exact hσ.logFiles
  have hlog' : φ'.logFiles ⊆ lg := by
    rw [hφ'.logFiles, gather_logFiles hgather']
    exact hτ.logFiles
  -- until the first file is written the old output stands as it did
  have htext' : ∀ l ∈ ls, l ∉ lg → ∀ b, φ'.files.node? l = some (.file b) → IsText b := by
    intro l hl hnot b hb
    have hnotτ : l ∉ τ.logFiles := fun hm => hnot (hτ.logFiles hm)
    have hmid : υ'.files.node? l = some (.file b) := by
      rw [← hb]
      exact (hφ'.files.node?_eq (gather_logFiles hgather' ▸ hnotτ)).symm
    exact htext l hl b ((gather_grows hgather').file_before hmid hnotτ)
  have hok : ∀ w ∈ (Writer.writeEach φ (targets s r.entries)).1, ∃ x, w = .ok x := by
    rw [hwrites]
    simp
  obtain ⟨hok', hfinal⟩ := Writer.writeEach_alike hafter.alike hlog hlog'
    (isAbsolute_targets s r.entries) (fun l hl => hσ.notMem_folders hrun hl)
    (fun f hf => hσ.unlogged r σ' hrun f hf) htext' hok
  obtain ⟨ws, -, hws⟩ := run_of_forall_ok hfst hok'
  refine ⟨ws, _, Prod.ext hws rfl, fun l hl => ?_⟩
  have hstart := Writer.writeEach_sinks (targets s r.entries) φ
  have hstart' := Writer.writeEach_sinks (targets s r.entries) φ'
  have hlast := hend.files.node?_eq (l := l) fun hm =>
    hl (hlog (State.logFiles_congr hstart ▸ hm))
  have hlast' := hend'.files.node?_eq (l := l) fun hm =>
    hl (hlog' (State.logFiles_congr hstart' ▸ hm))
  rw [hlast, hlast']
  -- all places of the old output were written over
  rcases hfinal l with he | ⟨hm, -⟩ | ⟨⟨hm, hnot⟩ | hm, -⟩
  · exact he
  · exact absurd hm (Set.notMem_empty l)
  · exact absurd (hσ.written r σ' hrun l hm) hnot
  · exact absurd hm hl

/-- A run that ends well found no old output but text. -/
theorem isText_of_run (hσ : OldOutput s entrypoints source ls lg σ)
    (hrun : run s entrypoints source σ = (.ok r, σ')) {l : Location} (hl : l ∈ ls) {b : ByteArray}
    (hb : σ.files.node? l = some (.file b)) : IsText b := by
  obtain ⟨υ, φ, hgather, hφ, hwrites, -⟩ := run_eq_ok hrun
  obtain ⟨f, hf, rfl⟩ := hσ.written r σ' hrun l hl
  have hnot : f.location ∉ σ.logFiles := fun hm => hσ.unlogged r σ' hrun f hf (hσ.logFiles hm)
  have hnotυ : f.location ∉ υ.logFiles := gather_logFiles hgather ▸ hnot
  -- nothing but log files was touched before the writes
  have hbφ : φ.files.node? f.location = some (.file b) := by
    rw [hφ.files.node?_eq hnotυ]
    exact (gather_grows hgather).file_eq hb hnot
  have hok : ∀ w ∈ (Writer.writeEach φ (targets s r.entries)).1, ∃ x, w = .ok x := by
    rw [hwrites]
    simp
  exact Writer.isText_of_writeEach (isAbsolute_targets s r.entries) hok hf
    (hφ.logFiles ▸ hnotυ) hbφ

/-- Where the sample's declaration of paths goes. -/
def pathsLocation : Location := sample.typesDir ++ [⟨"paths.d.ts", by decide⟩]

/-- A public file, and the directory for declarations with nothing in it. -/
def freshDisk : FileSystem :=
  ((FileSystem.empty.makeDirs [] sample.typesDir.path).2.makeDirs []
    sample.publicDir.path).2.writeFile (sample.publicDir ++ [⟨"é.png", by decide⟩]) ByteArray.empty

/-- The same with these bytes where the declaration of paths goes. -/
def oldDisk (b : ByteArray) : FileSystem := freshDisk.writeFile pathsLocation b

theorem alike_oldDisk (b : ByteArray) : Alike {pathsLocation} ∅ freshDisk (oldDisk b) := by
  have hpar : freshDisk.node? pathsLocation.dropLast = some .dir := by decide +kernel
  have hnone : freshDisk.node? pathsLocation = none := by decide +kernel
  intro l
  rw [oldDisk, FileSystem.node?_writeFile b (by decide) hpar (by simp [hnone])]
  split
  · next hl =>
    subst hl
    exact .inr (.inr ⟨rfl, by simp [hnone], by simp⟩)
  · exact .inl rfl

theorem pathsLocation_notMem_inputs (fs : FileSystem) : pathsLocation ∉ inputs sample fs := by
  rw [inputs_of_no_imports rfl rfl]
  exact fun h => absurd h.1 (by decide)

/-- A run of the sample writes the declaration of paths. -/
theorem exists_target_pathsLocation (h : run sample entrypoints source σ = (.ok r, σ')) :
    ∃ f ∈ targets sample r.entries, f.location = pathsLocation := by
  obtain ⟨υ, φ, hgather, -⟩ := run_eq_ok h
  obtain ⟨st, hst⟩ := collect_eq_ok (gather_eq_ok hgather).2
  have hpath : st.paths.path = "types/paths.d.ts" := by
    have hpaths := st.paths_eq
    unfold Declaration.pathsEntry at hpaths
    cases hp : Declaration.publicPaths st.files sample entrypoints with
    | error e => simp [hp, Except.map] at hpaths
    | ok ps =>
      rw [hp] at hpaths
      rw [← Except.ok.inj hpaths]
  refine ⟨_, mem_targets.mpr ⟨st.paths, ?_, rfl⟩, ?_⟩
  · rw [hst]
    simp [Stages.before]
  · rw [FileEntry.location, FileEntry.target, Path.ofString_text, hpath]
    decide

theorem oldOutput_sample (fs : FileSystem) :
    OldOutput sample [] (.given []) {pathsLocation} ∅ (quiet fs) where
  unread := by
    rintro l hl (rfl | hm)
    · exact pathsLocation_notMem_inputs _ hl
    · exact hm
  written := by
    rintro r σ' h l rfl
    exact exists_target_pathsLocation h
  unlogged := fun _ _ _ _ _ => Set.notMem_empty _
  logFiles := by simp
  hasLog := fun l hl => absurd hl (Set.notMem_empty l)

/-- The start of a declaration of paths, cut within a character. -/
def cutBytes : ByteArray :=
  ⟨#[0x2f, 0x2f, 0x20, 0x47, 0x65, 0x6e, 0x65, 0x72, 0x61, 0x74, 0x65, 0x64, 0x20, 0x62, 0x79, 0x20,
    0x77, 0x78, 0x74, 0xc3]⟩

/-- Where nothing was before, a run ends well. It fails over old output that was cut within a
character, in place of writing over it. -/
theorem run_fails_over_cut_output :
    Alike {pathsLocation} ∅ (quiet freshDisk).files (quiet (oldDisk cutBytes)).files ∧
      OldOutput sample [] (.given []) {pathsLocation} ∅ (quiet freshDisk) ∧
      OldOutput sample [] (.given []) {pathsLocation} ∅ (quiet (oldDisk cutBytes)) ∧
      EndsIn (run sample [] (.given []) (quiet freshDisk)) (fun _ _ => True) ∧
      (run sample [] (.given []) (quiet (oldDisk cutBytes))).1 =
        .error (.encoding ⟨0xc3, 19, 1, .cutShort⟩) :=
  ⟨alike_oldDisk cutBytes, oldOutput_sample _, oldOutput_sample _, by decide +kernel,
    by decide +kernel⟩

/-- Two runs from states that differ in nothing but old output: if one of them ends well, the other
one does so if and only if its old output is text where it is there. If both end well, they return
the same entries and leave the same files, the log files apart. -/
theorem run_over_old_output (h : Alike ls ∅ σ.files τ.files)
    (hσ : OldOutput s entrypoints source ls lg σ) (hτ : OldOutput s entrypoints source ls lg τ) :
    (∀ r σ', run s entrypoints source σ = (.ok r, σ') →
      ((∃ r' τ', run s entrypoints source τ = (.ok r', τ')) ↔
        ∀ l ∈ ls, ∀ b, τ.files.node? l = some (.file b) → IsText b)) ∧
      (∀ r τ', run s entrypoints source τ = (.ok r, τ') →
        ((∃ r' σ', run s entrypoints source σ = (.ok r', σ')) ↔
          ∀ l ∈ ls, ∀ b, σ.files.node? l = some (.file b) → IsText b)) ∧
      ∀ r σ' r' τ', run s entrypoints source σ = (.ok r, σ') →
        run s entrypoints source τ = (.ok r', τ') →
        r'.entries = r.entries ∧ ∀ l, l ∉ lg → τ'.files.node? l = σ'.files.node? l := by
  refine ⟨fun r σ' hrun => ⟨?_, ?_⟩, fun r τ' hrun => ⟨?_, ?_⟩, fun r σ' r' τ' hrun hrun' => ?_⟩
  · rintro ⟨r', τ', hrun'⟩ l hl b hb
    exact isText_of_run hτ hrun' hl hb
  · intro htext
    obtain ⟨ws, τ', hrun', -⟩ := run_of_isText h hσ hτ hrun htext
    exact ⟨_, τ', hrun'⟩
  · rintro ⟨r', σ', hrun'⟩ l hl b hb
    exact isText_of_run hσ hrun' hl hb
  · intro htext
    obtain ⟨ws, σ', hrun', -⟩ := run_of_isText h.symm hτ hσ hrun htext
    exact ⟨_, σ', hrun'⟩
  -- as the second run ends well its old output is text, which gives a run that ends like the first
  · have htext : ∀ l ∈ ls, ∀ b, τ.files.node? l = some (.file b) → IsText b :=
      fun l hl b hb => isText_of_run hτ hrun' hl hb
    obtain ⟨ws, τ'', hrun'', hsame⟩ := run_of_isText h hσ hτ hrun htext
    rw [hrun'] at hrun''
    cases hrun''
    exact ⟨rfl, hsame⟩

/-- An older text. -/
def olderBytes : ByteArray := "// older".toUTF8

/-- Over an older text the sample is generated as where nothing was before. -/
theorem run_over_old_text : ∃ r σ' r' τ',
    run sample [] (.given []) (quiet freshDisk) = (.ok r, σ') ∧
      run sample [] (.given []) (quiet (oldDisk olderBytes)) = (.ok r', τ') ∧
      r'.entries = r.entries ∧ ∀ l, τ'.files.node? l = σ'.files.node? l := by
  obtain ⟨hleft, -, hboth⟩ := run_over_old_output (σ := quiet freshDisk)
    (τ := quiet (oldDisk olderBytes)) (alike_oldDisk olderBytes) (oldOutput_sample freshDisk)
    (oldOutput_sample (oldDisk olderBytes))
  obtain ⟨r, σ', hrun, -⟩ : EndsIn (run sample [] (.given []) (quiet freshDisk))
      fun _ _ => True := by decide +kernel
  have hold : (oldDisk olderBytes).node? pathsLocation = some (.file olderBytes) := by
    decide +kernel
  have htext : ∀ l ∈ ({pathsLocation} : Set Location), ∀ b,
      (quiet (oldDisk olderBytes)).files.node? l = some (.file b) → IsText b := by
    rintro l rfl b hb
    obtain rfl : olderBytes = b := by simpa [quiet, hold] using hb
    exact FileSystem.isText_toUTF8 _
  obtain ⟨r', τ', hrun'⟩ := (hleft r σ' hrun).mpr htext
  obtain ⟨hentries, hsame⟩ := hboth r σ' r' τ' hrun hrun'
  exact ⟨r, σ', r', τ', hrun, hrun', hentries, fun l => hsame l (Set.notMem_empty l)⟩

end ExtTypes.Generate

import ExtTypes.Proofs.Generate.Inputs
import Mathlib.Data.List.Nodup

/-! A run that follows at once on one that ended well. The first one made directories that the
second one finds, and wrote files that it does not read. Main statement: `run_again`. -/
namespace ExtTypes.Generate

open FileSystem (Grows fits)
open Log (State)

variable {s : Settings} {entrypoints : List Entrypoint} {source : HookSource} {σ σ' : State}
  {r : Result}

/-- The directories that the run makes after it has read its inputs. -/
def newDirs (s : Settings) (σ σ' : State) : Set Location :=
  {l | (begun s σ).files.node? l = none ∧ σ'.files.node? l = some .dir}

/-- They are above the files of the run. -/
theorem exists_below_of_mem_newDirs (h : run s entrypoints source σ = (.ok r, σ'))
    (hup : ∀ f ∈ targets s r.entries, Part.up ∉ f.target.parts) {l : Location}
    (hl : l ∈ newDirs s σ σ') :
    ∃ f ∈ targets s r.entries, ∃ t, t ≠ [] ∧ f.location = l ++ t := by
  obtain ⟨υ, φ, hgather, -⟩ := run_eq_ok h
  have hgrows := run_grows_begun hgather
  rw [h] at hgrows
  obtain ⟨hnone, hdir⟩ := hl
  -- it was missing and is a directory now, so it was made for a file
  rcases hgrows l with he | ⟨⟨f, hf, hway⟩, -⟩ | ⟨-, -, b, hb⟩
  · simp [he, hnone] at hdir
  · have hne : l ≠ [] := by
      rintro rfl
      simp [FileSystem.node?_nil] at hnone
    have habs := isAbsolute_targets s r.entries f hf
    exact ⟨f, hf, f.exists_below_of_mem_way habs (hup f hf) hway hne⟩
  · simp [hb] at hdir

/-- The files of the entries go to different places, on paths that never go up, and a run reads none
of them. Neither does it read or write the log file. -/
structure Separate (s : Settings) (entries : List Entry) (σ : State) : Prop where
  distinct : ((targets s entries).map FileEntry.location).Nodup
  targets_plain : ∀ f ∈ targets s entries, Part.up ∉ f.target.parts
  bases_plain : ∀ base ∈ importBases s, Part.up ∉ base.parts
  unread : ∀ f ∈ targets s entries, f.location ∉ inputs s (begun s σ).files
  unlogged : ∀ f ∈ targets s entries, f.location ∉ σ.logFiles
  log_unread : ∀ l ∈ σ.logFiles, l ∉ inputs s (begun s σ).files

/-- The new directories do not show in what a run reads, if no path that it follows goes on in one
of them with a name that is too long. -/
theorem harmless_newDirs (h : run s entrypoints source σ = (.ok r, σ'))
    (hsep : Separate s r.entries σ)
    (hshort : ∀ base ∈ s.publicDir.path :: importBases s, ∀ q ∈ newDirs s σ σ', ∀ n,
      q ++ [n] <+: base.collapse [] → n.val.utf8ByteSize ≤ FileSystem.nameLimit) :
    Harmless s (newDirs s σ σ') where
  notPublic := by
    -- with a new directory in it the public directory would have the file below as well
    rintro q hq ⟨t, rfl⟩
    obtain ⟨f, hf, t', ht', hloc⟩ := exists_below_of_mem_newDirs h hsep.targets_plain hq
    refine hsep.unread f hf (.inl ⟨⟨t ++ t', ?_⟩, ?_⟩)
    · rw [hloc, List.append_assoc]
    · rw [hloc, List.append_assoc]
      simp [ht']
  publicDir := by
    refine FileSystem.unhindered_of_plain (Path.isAbsolute_path _) (by simp [Location.path]) ?_
    exact hshort _ List.mem_cons_self
  bases := fun base hbase => FileSystem.unhindered_of_plain (isAbsolute_of_mem_importBases hbase)
    (hsep.bases_plain base hbase) (hshort base (List.mem_cons_of_mem _ hbase))
  short := by
    intro q hq a ha
    obtain ⟨f, hf, t, ht, hloc⟩ := exists_below_of_mem_newDirs h hsep.targets_plain hq
    obtain ⟨g, -, -, hread⟩ := read_of_run h hf (hsep.unlogged f hf)
    obtain ⟨-, hlocate, -⟩ := FileSystem.read_eq_ok.mp hread
    -- the path of the file was short enough, so what is above it is
    have hfits := (FileSystem.locate_eq_ok.mp hlocate).1
    have habs := isAbsolute_targets s r.entries f hf
    have hanchor : f.target.anchor ≠ .relative := by
      simpa [FileEntry.IsAbsolute, Path.isAbsolute] using habs
    have hparts : f.target.parts = q.map .name ++ t.map .name := by
      rw [f.parts_of_plain habs (hsep.targets_plain f hf), hloc, List.map_append]
    have hfits' : fits ⟨f.target.anchor, q.map .name ++ t.map .name⟩ = true := by
      rw [← hparts]
      exact hfits
    exact FileSystem.fits_anchor hanchor ha (by simpa using ht) hfits'

/-- The second run finds the first one's files as they would be written. -/
theorem isIn_of_run (h : run s entrypoints source σ = (.ok r, σ'))
    (hsep : Separate s r.entries σ) : ∀ f ∈ targets s r.entries, f.IsIn σ'.files := by
  intro f hf
  obtain ⟨g, hg, hloc, hread⟩ := read_of_run h hf (hsep.unlogged f hf)
  -- no other file went there
  obtain rfl : g = f := List.inj_on_of_nodup_map hsep.distinct hg hf hloc
  exact hread

/-- The second run starts to collect where the first one did, but for what the first one left. -/
theorem similar_of_run (h : run s entrypoints source σ = (.ok r, σ'))
    (hsep : Separate s r.entries σ) (hlogged : State.Logged σ' (begun s σ')) :
    Similar s (Writer.locations (targets s r.entries) ∪ σ.logFiles) (newDirs s σ σ') (begun s σ)
      (begun s σ') := by
  obtain ⟨υ, φ, hgather, -⟩ := run_eq_ok h
  have hgrows := run_grows_begun hgather
  rw [h] at hgrows
  -- the log goes to the same files all the time
  have hfirst : (begun s σ).logFiles = σ.logFiles := State.logFiles_congr (begun_sinks s σ)
  have hmid : σ'.logFiles = σ.logFiles := State.logFiles_congr (sinks_of_run_eq_ok h)
  have hsecond : (begun s σ').logFiles = σ.logFiles := hlogged.logFiles.trans hmid
  have hmade : Grows (Writer.locations (targets s r.entries) ∪ σ.logFiles) (newDirs s σ σ')
      (begun s σ).files σ'.files := hgrows.made.mono subset_rfl fun l hl => hl.2
  have hlast := hlogged.files
  rw [hmid] at hlast
  -- the files of the first run and its directories, then the first record of the second run
  refine ⟨?_, ?_, ?_, ?_⟩
  · rw [hfirst]
    exact Set.subset_union_right
  · rw [hsecond]
    exact Set.subset_union_right
  · exact hmade.alike.rewrites .refl (hlast.mono Set.subset_union_right)
  · rintro l hl (⟨f, hf, rfl⟩ | hm)
    · exact hsep.unread f hf hl
    · exact hsep.log_unread l hm hl

/-- Without imports, messages and a log only the public files are read. -/
theorem separate_quiet {entries : List Entry} (himports : s.imports? = none)
    (hlocale : s.defaultLocale? = none) (fs : FileSystem)
    (hdistinct : ((targets s entries).map FileEntry.location).Nodup)
    (hapart : ∀ f ∈ targets s entries, Part.up ∉ f.target.parts ∧ ¬ s.publicDir <+: f.location) :
    Separate s entries (quiet fs) where
  distinct := hdistinct
  targets_plain := fun f hf => (hapart f hf).1
  bases_plain := by simp [importBases, himports]
  unread := by
    rw [inputs_of_no_imports himports hlocale]
    exact fun f hf hm => (hapart f hf).2 hm.1
  unlogged := by simp
  log_unread := by simp

/-- A second run fails where the path of the public directory goes on in a new directory with a name
that is too long. -/
theorem run_fails_of_long_name {q t : Location} {n : Name} (hq : q ∈ newDirs s σ σ')
    (hpublic : s.publicDir = q ++ n :: t) (hnul : FileSystem.hasNul s.publicDir.path = false)
    (hn : FileSystem.nameLimit < n.val.utf8ByteSize) :
    ∀ r' τ, run s entrypoints source σ' ≠ (.ok r', τ) := by
  intro r' τ hrun
  obtain ⟨υ, φ, hgather, -⟩ := run_eq_ok hrun
  obtain ⟨st, -⟩ := collect_eq_ok (gather_eq_ok hgather).2
  -- only the log file has changed when the public files are listed
  have hdir : st.files.node? q = some .dir :=
    st.files_rewrites.dir_iff.mpr ((begun_grows s σ').dir hq.2)
  rw [hpublic] at hnul
  have hfind := FileSystem.find_nameTooLong hnul hdir hn
  have hpaths := st.paths_eq
  rw [← hpublic] at hfind
  simp [Declaration.pathsEntry, Declaration.publicPaths, FileSystem.publicFiles,
    FileSystem.dirAt?, FileSystem.pathIsDir, hfind, Except.map] at hpaths

/-- Settings like the sample's, with the public directory below one that is not there yet. -/
def farPublic : Settings :=
  { sample with publicDir := sample.root ++ [⟨"gen", by decide⟩, longName] }

theorem hasNul_farPublic : FileSystem.hasNul farPublic.publicDir.path = false := by
  have hchars : longName.val.toList = List.replicate 64 '😀' := String.toList_ofList
  have hreplicate : (List.replicate 64 '😀').contains '\x00' = false := by decide
  have hlong : longName.val.toList.contains '\x00' = false := hchars ▸ hreplicate
  have hproject : "project".toList.contains '\x00' = false := by decide
  have hgen : "gen".toList.contains '\x00' = false := by decide
  simp only [FileSystem.hasNul, farPublic, sample, Location.path, List.map_cons, List.map_nil,
    List.cons_append, List.nil_append,
    List.any_cons, List.any_nil, Part.text, hproject, hgen, hlong, Bool.or_false]

/-- A hook that adds a file in the directory that is not there yet. -/
def noteHook : Hook :=
  ⟨"extra", true, fun _ _ => .ok (.items [.entry (.file ⟨"/project/gen/x.txt", "x", false⟩)])⟩

/-- The sample with one directory in which imports are looked for. -/
def importing : Settings :=
  { sample with imports? := some { ImportOptions.default with dirs := ["components"] } }

/-- A hook that adds a source file there. -/
def sourceHook : Hook := ⟨"extra", true, fun _ _ => .ok (.items
  [.entry (.file ⟨"/project/components/x.ts", "export const x = 1\n", false⟩)])⟩

/-- What the scan found shows in the second entry. -/
theorem importsFile_of_run {r : Result} (h : run importing entrypoints source σ = (.ok r, τ)) :
    ∃ found, (Scanner.scan ⟨[], []⟩ importing.sourceDir.path ["components"]
        (begun importing σ)).1 = .ok ⟨[], found⟩ ∧
      r.entries[1]? =
        some (.file (Declaration.importsFile importing (Scanner.mk [] found).sifted.1)) := by
  obtain ⟨υ, φ, hgather, -⟩ := run_eq_ok h
  obtain ⟨st, hentries⟩ := collect_eq_ok (gather_eq_ok hgather).2
  exact ⟨st.found, st.scan_eq _ rfl, by rw [hentries]; rfl⟩

/-- Two ways in which a second run is another one, although the files of the first are separate from
all else that it read. On its way to the public directory it finds a directory that the first one
made, and a name that is too long. Or there is a source file now in a directory that was missing when
the first run looked for imports in it. -/
theorem run_fails_below_new_dir :
    (∃ r σ', run farPublic [] (.given [noteHook]) (quiet FileSystem.empty) = (.ok r, σ') ∧
      Separate farPublic r.entries (quiet FileSystem.empty) ∧
      ∀ r' τ, run farPublic [] (.given [noteHook]) σ' ≠ (.ok r', τ)) ∧
    ∃ r σ', run importing [] (.given [sourceHook]) (quiet FileSystem.empty) = (.ok r, σ') ∧
      ((targets importing r.entries).map FileEntry.location).Nodup ∧
      (∀ f ∈ targets importing r.entries,
        Part.up ∉ f.target.parts ∧ ¬ importing.publicDir <+: f.location) ∧
      (∀ base ∈ importBases importing, Part.up ∉ base.parts ∧
        (begun importing (quiet FileSystem.empty)).files.node? (base.collapse []) = none) ∧
      ∀ r' τ, run importing [] (.given [sourceHook]) σ' = (.ok r', τ) → r'.entries ≠ r.entries := by
  constructor
  · obtain ⟨r, σ', hrun, hdistinct, hapart, hdir⟩ :
        EndsIn (run farPublic [] (.given [noteHook]) (quiet FileSystem.empty)) fun r σ' =>
          ((targets farPublic r.entries).map FileEntry.location).Nodup ∧
            (∀ f ∈ targets farPublic r.entries,
              Part.up ∉ f.target.parts ∧ ¬ farPublic.publicDir <+: f.location) ∧
            σ'.files.node? (farPublic.publicDir.dropLast) = some .dir := by decide +kernel
    have hnone : (begun farPublic (quiet FileSystem.empty)).files.node?
        (farPublic.publicDir.dropLast) = none := by decide +kernel
    refine ⟨r, σ', hrun, separate_quiet rfl rfl _ hdistinct hapart, ?_⟩
    exact run_fails_of_long_name ⟨hnone, hdir⟩ rfl hasNul_farPublic (by decide +kernel)
  · let x : Import := ⟨"x", "/project/components/x.ts", none⟩
    obtain ⟨r, σ', hrun, hdistinct, hapart, hscan'⟩ :
        EndsIn (run importing [] (.given [sourceHook]) (quiet FileSystem.empty)) fun r σ' =>
          ((targets importing r.entries).map FileEntry.location).Nodup ∧
            (∀ f ∈ targets importing r.entries,
              Part.up ∉ f.target.parts ∧ ¬ importing.publicDir <+: f.location) ∧
            (Scanner.scan ⟨[], []⟩ importing.sourceDir.path ["components"]
              (begun importing σ')).1 = .ok ⟨[], [x]⟩ := by decide +kernel
    have hscan : (Scanner.scan ⟨[], []⟩ importing.sourceDir.path ["components"]
        (begun importing (quiet FileSystem.empty))).1 = .ok ⟨[], []⟩ := by decide +kernel
    have hfiles : Declaration.importsFile importing (Scanner.mk [] [x]).sifted.1 ≠
        Declaration.importsFile importing (Scanner.mk [] []).sifted.1 := by decide +kernel
    refine ⟨r, σ', hrun, hdistinct, hapart, by decide +kernel, fun r' τ hrun' heq => hfiles ?_⟩
    -- the scans of the two runs differ, and so do the files that declare what they found
    obtain ⟨found, hfound, hentry⟩ := importsFile_of_run hrun
    obtain ⟨found', hfound', hentry'⟩ := importsFile_of_run hrun'
    rw [hscan] at hfound
    rw [hscan'] at hfound'
    cases hfound
    cases hfound'
    rw [heq, hentry] at hentry'
    exact (Entry.file.inj (Option.some.inj hentry')).symm

/-- A run that ended well ends well again at once, with the same entries, and writes nothing: if its
files are separate from each other and from what it reads, and if no path that it follows goes on in
one of the directories that it makes with a name that is too long. The log file is left out of
account. -/
theorem run_again (h : run s entrypoints source σ = (.ok r, σ')) (hsep : Separate s r.entries σ)
    (hshort : ∀ base ∈ s.publicDir.path :: importBases s, ∀ q ∈ newDirs s σ σ', ∀ n,
      q ++ [n] <+: base.collapse [] → n.val.utf8ByteSize ≤ FileSystem.nameLimit) :
    ∃ τ, run s entrypoints source σ' =
        (.ok ⟨r.entries, r.writes.map fun w => { w with written := false }⟩, τ) ∧
      (∀ l, l ∉ σ.logFiles → τ.files.node? l = σ'.files.node? l) ∧
      (σ.logFiles = ∅ → τ.files = σ'.files) := by
  -- the directory for declarations is there, so that the second run only logs before it collects
  obtain ⟨hmake, hbegun⟩ := begun_of_isDir (typesDir_of_run h)
  obtain ⟨υ, φ, hgather, -, hwrites, -⟩ := run_eq_ok h
  -- the same entries are collected
  obtain ⟨υ', hυ', -⟩ := collect_carries (harmless_newDirs h hsep hshort) _ _
    (similar_of_run h hsep hbegun) _ _ (gather_eq_ok hgather).2
  have hgather' : gather s entrypoints source σ' = (.ok r.entries, υ') :=
    (gather_of_ok hmake).trans hυ'
  obtain ⟨φ', hφ', hfst, hend⟩ := run_of_gather hgather'
  have hstart : State.Logged σ' φ' := hbegun.trans ((gather_logged hgather').trans hφ')
  have hlog : σ'.logFiles = σ.logFiles := State.logFiles_congr (sinks_of_run_eq_ok h)
  have hunlogged : ∀ f ∈ targets s r.entries, f.location ∉ σ'.logFiles := fun f hf =>
    hlog ▸ hsep.unlogged f hf
  -- and all their files are there already
  obtain ⟨hres, hnothing⟩ := Writer.writeEach_of_isIn (σ := φ') (isAbsolute_targets s r.entries)
    (fun f hf => hstart.read (hunlogged f hf) (isIn_of_run h hsep f hf))
    (fun f hf => hstart.logFiles ▸ hunlogged f hf)
  have hall : State.Logged σ' (run s entrypoints source σ').2 :=
    hstart.trans (hnothing.trans hend)
  have hsame : r.writes.map (fun w => { w with written := false }) =
      (targets s r.entries).map (FileEntry.result · false) := by
    have hpaths := congrArg (List.map (WriteResult.mk · false))
      (Writer.map_path_of_writeEach hwrites)
    rwa [List.map_map, List.map_map] at hpaths
  have hcollect : Writer.collect (Writer.writeEach φ' (targets s r.entries)).1 =
      .ok ((targets s r.entries).map (FileEntry.result · false)) := by
    apply Writer.collect_eq_ok.mpr
    rw [hres, List.map_map]
    rfl
  refine ⟨_, Prod.ext ?_ rfl, fun l hl => ?_, fun hno => ?_⟩
  · rw [hfst, hcollect, hsame]
    rfl
  · exact hall.files.node?_eq (hlog ▸ hl)
  · exact hall.same (hlog ▸ hno)

/-- A second run of the sample writes nothing. -/
theorem run_again_sample : ∃ r σ' τ,
    run sample [] (.given []) (quiet FileSystem.empty) = (.ok r, σ') ∧
      run sample [] (.given []) σ' =
        (.ok ⟨r.entries, r.writes.map fun w => { w with written := false }⟩, τ) ∧
      τ.files = σ'.files := by
  have hnames : ∀ n ∈ sample.publicDir, n.val.utf8ByteSize ≤ FileSystem.nameLimit := by
    decide +kernel
  obtain ⟨r, σ', hrun, hdistinct, hapart⟩ :
      EndsIn (run sample [] (.given []) (quiet FileSystem.empty)) fun r _ =>
        ((targets sample r.entries).map FileEntry.location).Nodup ∧
          ∀ f ∈ targets sample r.entries,
            Part.up ∉ f.target.parts ∧ ¬ sample.publicDir <+: f.location := by decide +kernel
  have hsep := separate_quiet rfl rfl FileSystem.empty hdistinct hapart
  have hshort : ∀ base ∈ sample.publicDir.path :: importBases sample,
      ∀ q ∈ newDirs sample (quiet FileSystem.empty) σ', ∀ n,
        q ++ [n] <+: base.collapse [] → n.val.utf8ByteSize ≤ FileSystem.nameLimit := by
    intro base hbase q _ n hpre
    obtain rfl : base = sample.publicDir.path := by simpa [importBases, sample] using hbase
    rw [Path.collapse_path] at hpre
    exact hnames n (hpre.subset (by simp))
  obtain ⟨τ, hτ, -, hfiles⟩ := run_again hrun hsep hshort
  exact ⟨r, σ', τ, hrun, hτ, hfiles (quiet_logFiles FileSystem.empty)⟩

end ExtTypes.Generate

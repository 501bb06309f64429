import ExtTypes.Generate
import ExtTypes.Proofs.Path.RoundTrip
import ExtTypes.Proofs.Writer
import ExtTypes.Settings.Resolve

/-! The two halves of a run: all that comes before the first file is written, and the writing. Main
statements: `gather_grows`, the first half makes no more than one directory and those above it, and
`write_spec`, the second half in terms of its writes. -/
namespace ExtTypes

open ExtTypes.Action (Logs)
open FileSystem (Grows)
open Log (State)

namespace Scanner

theorem scanDir_logs (base : Path) : Logs (scanDir base) := by
  refine .bind (.look _) fun l? => ?_
  cases l? with
  | some l => exact .look _
  | none => exact .bind (.note _ _ _) fun _ => .pure _

theorem scanDirs_logs (source : Path) (ds : List String) : Logs (scanDirs source ds) := by
  induction ds with
  | nil => exact .pure _
  | cons d ds ih => exact .bind (scanDir_logs _) fun _ => .bind ih fun _ => .pure _

theorem scan_logs (s : Scanner) (source : Path) (ds : List String) : Logs (s.scan source ds) := by
  refine .bind (.look _) fun isDir => ?_
  cases isDir with
  | true => exact .bind (scanDirs_logs source ds) fun _ => .bind (.note _ _ _) fun _ => .pure _
  | false => exact .ofExcept _

theorem imports_logs (s : Scanner) : Logs s.imports :=
  .bind (.forM .log _) fun _ => .pure _

end Scanner

namespace Generate

variable {s : Settings} {entrypoints : List Entrypoint} {source : HookSource} {σ τ : State}
  {entries : List Entry} {f : FileEntry}

theorem importEntries_logs (s : Settings) : Logs (importEntries s) := by
  unfold importEntries
  cases s.imports? with
  | none => exact .bind (.note _ _ _) fun _ => .pure _
  | some o =>
    refine .bind ?_ fun p => ?_
    · refine .bind (Scanner.scan_logs _ _ _) fun scanner => .bind ?_ fun _ => .pure _
      exact .bind (Scanner.imports_logs scanner) fun _ => .pure _
    · obtain ⟨declarations, scanner⟩ := p
      dsimp only
      split
      · refine .bind (.bind (Scanner.imports_logs scanner) fun _ => .pure _) fun _ => .pure _
      · exact .pure _

theorem hookEntries_logs (s : Settings) (source : HookSource) (seen : List Entry) :
    Logs (hookEntries s source seen) := by
  refine .bind (.ofExcept _) fun hooks => .bind (.ofExcept _) fun added => ?_
  dsimp only
  split
  · exact .pure _
  · exact .bind (.note _ _ _) fun _ => .pure _

/-- The entries are collected without a change to any file but the log file. -/
theorem collect_logs (s : Settings) (entrypoints : List Entrypoint) (source : HookSource) :
    Logs (collect s entrypoints source) := by
  refine .bind (importEntries_logs s) fun imports => .bind (.look _) fun paths =>
    .bind (.look _) fun messages => .bind (hookEntries_logs _ _ _) fun added => .pure _

/-- The first half of a run, up to the first file that is written. -/
def gather (s : Settings) (entrypoints : List Entrypoint) (source : HookSource) :
    Action (List Entry) := do
  Action.note .info "generator" ("Generating types in " ++ s.outputDir.text)
  Action.change fun files => files.makeDirs [] s.typesDir.path
  collect s entrypoints source

theorem run_eq (s : Settings) (entrypoints : List Entrypoint) (source : HookSource) :
    run s entrypoints source = gather s entrypoints source >>= write s := by
  unfold run gather
  rw [Action.bind_assoc]
  simp only [Action.bind_assoc]

/-- The state after the first record. -/
def announced (s : Settings) (σ : State) : State :=
  σ.record ⟨.info, Log.loggerName "generator", "Generating types in " ++ s.outputDir.text⟩

/-- The state in which the entries are collected. -/
def begun (s : Settings) (σ : State) : State :=
  { announced s σ with files := ((announced s σ).files.makeDirs [] s.typesDir.path).2 }

theorem announced_logged (s : Settings) (σ : State) : State.Logged σ (announced s σ) :=
  σ.record_logged _

theorem begun_sinks (s : Settings) (σ : State) : (begun s σ).sinks = σ.sinks :=
  (announced_logged s σ).sinks

/-- Only the directory for declarations and those above it can be new. -/
theorem begun_grows (s : Settings) (σ : State) :
    Grows σ.logFiles {l | l <+: s.typesDir} σ.files (begun s σ).files := by
  have hlog : Grows σ.logFiles {l | l <+: s.typesDir} σ.files (announced s σ).files :=
    (announced_logged s σ).files.grows
  have hdirs : Grows ∅ s.typesDir.path.way (announced s σ).files (begun s σ).files :=
    FileSystem.makeDirs_grows _ (Path.isAbsolute_path s.typesDir)
  refine hlog.trans (hdirs.mono (Set.empty_subset _) fun l hl => ?_)
  exact Path.mem_way_path.mp hl

theorem gather_of_ok (h : ((announced s σ).files.makeDirs [] s.typesDir.path).1 = .ok ()) :
    gather s entrypoints source σ = collect s entrypoints source (begun s σ) := by
  have hchange : Action.change (fun files => files.makeDirs [] s.typesDir.path) (announced s σ) =
      (.ok (), begun s σ) := Prod.ext h rfl
  exact (Action.bind_of_ok (Action.log_apply _)).trans (Action.bind_of_ok hchange)

theorem gather_of_error {e : Failure}
    (h : ((announced s σ).files.makeDirs [] s.typesDir.path).1 = .error e) :
    gather s entrypoints source σ = (.error e, begun s σ) := by
  have hchange : Action.change (fun files => files.makeDirs [] s.typesDir.path) (announced s σ) =
      (.error e, begun s σ) := Prod.ext h rfl
  exact (Action.bind_of_ok (Action.log_apply _)).trans (Action.bind_of_error hchange)

theorem isDir_begun (h : ((announced s σ).files.makeDirs [] s.typesDir.path).1 = .ok ()) :
    (begun s σ).files.pathIsDir [] s.typesDir.path = .ok true :=
  FileSystem.isDir_makeDirs (Path.isAbsolute_path s.typesDir) h

/-- Where the directory for declarations is there, the entries are collected at once. -/
theorem begun_of_isDir (h : σ.files.pathIsDir [] s.typesDir.path = .ok true) :
    ((announced s σ).files.makeDirs [] s.typesDir.path).1 = .ok () ∧
      State.Logged σ (begun s σ) := by
  have hlogged := announced_logged s σ
  have hgrows : Grows σ.logFiles ∅ σ.files (announced s σ).files := hlogged.files.grows
  have hmake := FileSystem.makeDirs_of_isDir (hgrows.pathIsDir h)
  have hsame : begun s σ = announced s σ := by rw [begun, hmake]
  exact ⟨congrArg Prod.fst hmake, hsame ▸ hlogged⟩

/-- Where entries were collected, the directory for declarations could be made. -/
theorem gather_eq_ok (h : gather s entrypoints source σ = (.ok entries, τ)) :
    ((announced s σ).files.makeDirs [] s.typesDir.path).1 = .ok () ∧
      collect s entrypoints source (begun s σ) = (.ok entries, τ) := by
  cases hm : ((announced s σ).files.makeDirs [] s.typesDir.path).1 with
  | error e =>
    rw [gather_of_error hm] at h
    cases h
  | ok u => exact ⟨rfl, gather_of_ok hm ▸ h⟩

theorem gather_logged {x : Except Failure (List Entry)}
    (h : gather s entrypoints source σ = (x, τ)) : State.Logged (begun s σ) τ := by
  cases hm : ((announced s σ).files.makeDirs [] s.typesDir.path).1 with
  | error e =>
    rw [gather_of_error hm] at h
    cases h
    exact .refl
  | ok u =>
    rw [gather_of_ok hm] at h
    have hcollect := collect_logs s entrypoints source (begun s σ)
    rwa [h] at hcollect

theorem gather_sinks {x : Except Failure (List Entry)}
    (h : gather s entrypoints source σ = (x, τ)) : τ.sinks = σ.sinks :=
  (gather_logged h).sinks.trans (begun_sinks s σ)

theorem gather_logFiles {x : Except Failure (List Entry)}
    (h : gather s entrypoints source σ = (x, τ)) : τ.logFiles = σ.logFiles :=
  State.logFiles_congr (gather_sinks h)

/-- Before the first file is written no file but the log file is touched, and only the directory for
declarations and those above it can be new. -/
theorem gather_grows {x : Except Failure (List Entry)}
    (h : gather s entrypoints source σ = (x, τ)) :
    Grows σ.logFiles {l | l <+: s.typesDir} σ.files τ.files := by
  have hbegun : (begun s σ).logFiles = σ.logFiles := State.logFiles_congr (begun_sinks s σ)
  refine (begun_grows s σ).trans ?_
  rw [← hbegun]
  exact (gather_logged h).files.grows

/-- The files of the entries, as they are written. -/
theorem mem_targets : f ∈ targets s entries ↔ ∃ g, .file g ∈ entries ∧
    f = { g with path := (s.outputDir.path.child g.path).text } := by
  unfold targets
  simp only [List.mem_map, List.mem_filterMap]
  constructor
  · rintro ⟨g, ⟨e, he, hg⟩, rfl⟩
    cases e with
    | module name => cases hg
    | file g' =>
      cases hg
      exact ⟨g, he, rfl⟩
  · rintro ⟨g, hg, rfl⟩
    exact ⟨g, ⟨.file g, hg, rfl⟩, rfl⟩

theorem isAbsolute_targets (s : Settings) (entries : List Entry) :
    ∀ f ∈ targets s entries, f.IsAbsolute := by
  intro f hf
  obtain ⟨g, -, rfl⟩ := mem_targets.mp hf
  rw [FileEntry.IsAbsolute, FileEntry.target, Path.ofString_text]
  exact Path.isAbsolute_child (Path.isAbsolute_path s.outputDir) g.path

/-- The second half of a run is its writes, with records before and after them. -/
theorem write_spec (s : Settings) (entries : List Entry) (σ : State) :
    ∃ τ, State.Logged σ τ ∧
      (write s entries σ).1 =
        (Writer.collect (Writer.writeEach τ (targets s entries)).1).map (Result.mk entries) ∧
      State.Logged (Writer.writeEach τ (targets s entries)).2 (write s entries σ).2 := by
  obtain ⟨τ, hτ, hlogged⟩ := Action.forM_log
    (fun e : Entry => ⟨.debug, Log.loggerName "generator", "Entry " ++ e.title⟩) entries σ
  have hall := Writer.writeAll_of_isAbsolute (isAbsolute_targets s entries) τ
  refine ⟨τ, hlogged, ?_⟩
  have hwrite : write s entries σ = (Writer.writeAll (targets s entries) >>= fun ws => do
      Action.note .info "generator" ("Types ready: " ++ (Result.mk entries ws).summary)
      pure (Result.mk entries ws)) τ := Action.bind_of_ok hτ
  rw [hwrite]
  cases hc : Writer.collect (Writer.writeEach τ (targets s entries)).1 with
  | error e =>
    rw [hc] at hall
    rw [Action.bind_of_error hall]
    exact ⟨rfl, .refl⟩
  | ok ws =>
    rw [hc] at hall
    rw [Action.bind_of_ok hall]
    exact ⟨rfl, State.record_logged _ _⟩

/-- Where no entries can be collected, nothing is written. -/
theorem run_of_gather_error {e : Failure} (h : gather s entrypoints source σ = (.error e, τ)) :
    run s entrypoints source σ = (.error e, τ) := by
  rw [run_eq]
  exact Action.bind_of_error h

/-- Where entries can be collected, the run is the writes of the files among them. -/
theorem run_of_gather (h : gather s entrypoints source σ = (.ok entries, τ)) :
    ∃ φ, State.Logged τ φ ∧
      (run s entrypoints source σ).1 =
        (Writer.collect (Writer.writeEach φ (targets s entries)).1).map (Result.mk entries) ∧
      State.Logged (Writer.writeEach φ (targets s entries)).2 (run s entrypoints source σ).2 := by
  rw [run_eq, Action.bind_of_ok h]
  exact write_spec s entries τ

/-- A run whose files are all written ends well. -/
theorem run_of_forall_ok {φ : State}
    (hfst : (run s entrypoints source σ).1 =
      (Writer.collect (Writer.writeEach φ (targets s entries)).1).map (Result.mk entries))
    (hok : ∀ w ∈ (Writer.writeEach φ (targets s entries)).1, ∃ x, w = .ok x) :
    ∃ ws, (Writer.writeEach φ (targets s entries)).1 = ws.map .ok ∧
      (run s entrypoints source σ).1 = .ok ⟨entries, ws⟩ := by
  obtain ⟨ws, hws⟩ := Writer.exists_map_ok hok
  rw [Writer.collect_eq_ok.mpr hws] at hfst
  exact ⟨ws, hws, hfst⟩

/-- Of a run that ends well, all files were written. -/
theorem run_eq_ok {r : Result} (h : run s entrypoints source σ = (.ok r, τ)) :
    ∃ υ φ, gather s entrypoints source σ = (.ok r.entries, υ) ∧ State.Logged υ φ ∧
      (Writer.writeEach φ (targets s r.entries)).1 = r.writes.map .ok ∧
      State.Logged (Writer.writeEach φ (targets s r.entries)).2 τ := by
  rcases hg : gather s entrypoints source σ with ⟨e | entries, υ⟩
  · rw [run_of_gather_error hg] at h
    cases h
  -- the writes are collected only if none of them failed
  · obtain ⟨φ, hφ, hfst, hsnd⟩ := run_of_gather hg
    rw [h] at hfst hsnd
    cases hc : Writer.collect (Writer.writeEach φ (targets s entries)).1 with
    | error e => simp [hc, Except.map] at hfst
    | ok ws =>
      have hr : r = ⟨entries, ws⟩ := by simpa [hc, Except.map] using hfst
      subst hr
      exact ⟨υ, φ, rfl, hφ, Writer.collect_eq_ok.mp hc, hsnd⟩

/-- After the directory for declarations is made, nothing is touched but the files of the entries,
the directories above them and the log file. -/
theorem run_grows_begun (h : gather s entrypoints source σ = (.ok entries, τ)) :
    Grows (Writer.locations (targets s entries) ∪ σ.logFiles) (Writer.folders (targets s entries))
      (begun s σ).files (run s entrypoints source σ).2.files := by
  obtain ⟨φ, hφ, -, hend⟩ := run_of_gather h
  have htitles := (gather_logged h).trans hφ
  have hbegun : (begun s σ).logFiles = σ.logFiles := State.logFiles_congr (begun_sinks s σ)
  have hφlog : φ.logFiles = σ.logFiles := htitles.logFiles.trans hbegun
  have hwrites := Writer.writeEach_grows (isAbsolute_targets s entries) φ
  have hlast := hend.files
  rw [Writer.writeEach_logFiles, hφlog] at hlast
  rw [hφlog] at hwrites
  have hfirst := htitles.files
  rw [hbegun] at hfirst
  -- the records before the writes, the writes, and the records after them
  refine (hfirst.grows.mono Set.subset_union_right subset_rfl).trans (hwrites.trans ?_)
  exact hlast.grows.mono Set.subset_union_right subset_rfl

/-- Nothing is touched but the files of the entries, the directories above them, the directory for
declarations and the log file. -/
theorem run_grows (h : gather s entrypoints source σ = (.ok entries, τ)) :
    Grows (Writer.locations (targets s entries) ∪ σ.logFiles)
      (Writer.folders (targets s entries) ∪ {l | l <+: s.typesDir}) σ.files
      (run s entrypoints source σ).2.files := by
  have hbegun := (begun_grows s σ).mono
    (Set.subset_union_right (s := Writer.locations (targets s entries)))
    (Set.subset_union_right (s := Writer.folders (targets s entries)))
  exact hbegun.trans ((run_grows_begun h).mono subset_rfl Set.subset_union_left)

/-- After a run that ends well, the path of each file leads to the text of one that goes there. -/
theorem read_of_run {r : Result} (h : run s entrypoints source σ = (.ok r, τ))
    (hf : f ∈ targets s r.entries) (hlog : f.location ∉ σ.logFiles) :
    ∃ g ∈ targets s r.entries, g.location = f.location ∧
      τ.files.read [] f.target = .ok g.text.toUTF8 := by
  obtain ⟨υ, φ, hgather, hφ, hwrites, hend⟩ := run_eq_ok h
  have hφlog : φ.logFiles = σ.logFiles := hφ.logFiles.trans (gather_logFiles hgather)
  have hok : ∀ w ∈ (Writer.writeEach φ (targets s r.entries)).1, ∃ x, w = .ok x := by
    rw [hwrites]
    simp
  obtain ⟨g, hg, hloc, hread⟩ := Writer.read_writeEach (isAbsolute_targets s r.entries) hok hf
    (hφlog ▸ hlog)
  -- the records after the writes go to the log file only
  have hlast : (Writer.writeEach φ (targets s r.entries)).2.logFiles = σ.logFiles :=
    (Writer.writeEach_logFiles _ φ).trans hφlog
  exact ⟨g, hg, hloc, hend.read (hlast ▸ hlog) hread⟩

/-- The directory that the file is in is there, too. -/
theorem dir_of_run {r : Result} (h : run s entrypoints source σ = (.ok r, τ))
    (hf : f ∈ targets s r.entries) (hlog : f.location ∉ σ.logFiles) {l : Location}
    (hl : l ∈ f.folder.way) : τ.files.node? l = some .dir := by
  obtain ⟨g, -, -, hread⟩ := read_of_run h hf hlog
  have habs := isAbsolute_targets s r.entries f hf
  exact FileSystem.dir_of_mem_way habs.folder
    (FileSystem.isDir_parent_of_read (p := f.target) habs hread) hl

theorem typesDir_of_run {r : Result} (h : run s entrypoints source σ = (.ok r, τ)) :
    τ.files.pathIsDir [] s.typesDir.path = .ok true := by
  obtain ⟨υ, φ, hgather, -⟩ := run_eq_ok h
  have hgrows := run_grows_begun hgather
  rw [h] at hgrows
  exact hgrows.pathIsDir (isDir_begun (gather_eq_ok hgather).1)

theorem sinks_of_run_eq_ok {r : Result} (h : run s entrypoints source σ = (.ok r, τ)) :
    τ.sinks = σ.sinks := by
  -- each half of the run leaves the sinks of the log as they are
  obtain ⟨υ, φ, hgather, hφ, -, hend⟩ := run_eq_ok h
  have hstart : φ.sinks = σ.sinks := hφ.sinks.trans (gather_sinks hgather)
  exact hend.sinks.trans ((Writer.writeEach_sinks _ φ).trans hstart)

/-- It ended well, and this holds of what was returned and of the state that is left. -/
def EndsIn (x : Except Failure Result × State) (p : Result → State → Prop) : Prop :=
  ∃ r τ, x = (.ok r, τ) ∧ p r τ

instance {x : Except Failure Result × State} {p : Result → State → Prop}
    [∀ r τ, Decidable (p r τ)] : Decidable (EndsIn x p) :=
  match x with
  | (.error _, _) => isFalse nofun
  | (.ok r, τ) => decidable_of_iff (p r τ) (by simp [EndsIn])

/-- The settings of a project at `/project` that asks for no more than to leave imports out. -/
def sample : Settings where
  root := [⟨"project", by decide⟩]
  sourceDir := [⟨"project", by decide⟩]
  publicDir := [⟨"project", by decide⟩, ⟨"public", by decide⟩]
  entrypointsDir := [⟨"project", by decide⟩, ⟨"entrypoints", by decide⟩]
  outBaseDir := [⟨"project", by decide⟩, ⟨".output", by decide⟩]
  outputDir := [⟨"project", by decide⟩, ⟨".wxt", by decide⟩]
  browser := "chrome"
  manifestVersion := .v3
  command := .build
  mode := "production"
  imports? := none
  modules := []
  aliases := Settings.defaultAliases [⟨"project", by decide⟩] [⟨"project", by decide⟩]
  defaultLocale? := none
  hooks := []

example : Settings.resolve [] (Path.ofString "/project")
    (.json (.obj [("imports", .bool false)])) = .ok sample := by decide +kernel

/-- A name of 256 bytes. -/
def longName : Name :=
  ⟨String.ofList (List.replicate 64 '😀'), isName_ofList (by decide) (by decide)⟩

/-- A state without a log. -/
def quiet (files : FileSystem) : State := ⟨.unset, "", [], files⟩

@[simp] theorem quiet_logFiles (files : FileSystem) : (quiet files).logFiles = ∅ := by
  ext l
  simp [quiet, State.logFiles, Log.Sinks.unset]

/-- A state whose log goes to a file, too. -/
def logging (l : Location) (files : FileSystem) : State :=
  ⟨.ofLeast .info (some l), "", [], files⟩

end Generate

end ExtTypes

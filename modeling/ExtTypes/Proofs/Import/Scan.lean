import ExtTypes.Proofs.FileSystem.Same
import ExtTypes.Proofs.FileSystem.Source
import ExtTypes.Proofs.Generate.Stages
import ExtTypes.Proofs.Outcome

/-! Which files a scan reads, and in which order. The files are told by what is there before the
scan: it logs, but that makes no new file, and only the log file gets other bytes. Main statement:
`scan_reads`. -/
namespace ExtTypes.Scanner

open ExtTypes.Action (Carries)
open FileSystem (Rewrites)
open Log (State)

variable {files files' : FileSystem} {base source : Path} {dirs : List String} {is : List Import}
  {σ τ : State}

/-! ### One directory -/

/-- Files are read one after the other, each to its own imports. -/
theorem exists_reads_of_scanFiles {ps : List Path} (h : scanFiles files ps = .ok is) :
    ∃ reads : List (Path × List Import), reads.map Prod.fst = ps ∧ is = reads.flatMap Prod.snd ∧
      ∀ r ∈ reads, scanFile files r.1 = .ok r.2 := by
  induction ps generalizing is with
  | nil =>
    cases h
    exact ⟨[], rfl, rfl, by simp⟩
  | cons p ps ih =>
    rw [scanFiles] at h
    cases hp : scanFile files p with
    | error e =>
      rw [hp] at h
      cases h
    | ok js =>
      rw [hp] at h
      obtain ⟨ks, hks, rfl⟩ := map_eq_ok_iff.mp h
      obtain ⟨reads, rfl, rfl, hreads⟩ := ih hks
      exact ⟨(p, js) :: reads, rfl, rfl, List.forall_mem_cons.mpr ⟨hp, hreads⟩⟩

/-- The source files below a directory, as the names that lead there; none if it is missing. -/
def walk (files : FileSystem) (base : Path) : List (List Name) :=
  if files.pathIsDir [] base = .ok true then files.sourceFiles (base.collapse []) else []

theorem walk_of_not_dir (h : files.pathIsDir [] base = .ok false) : walk files base = [] := by
  unfold walk
  rw [h]
  exact if_neg (by simp)

theorem walk_of_dir (h : files.pathIsDir [] base = .ok true) :
    walk files base = files.sourceFiles (base.collapse []) := if_pos h

/-- Logging does not change which files there are. -/
theorem walk_of_logged (h : State.Logged σ τ) (base : Path) :
    walk τ.files base = walk σ.files base := by
  unfold walk
  rw [h.files.pathIsDir, h.files.sourceFiles]

theorem scanDir_eq_ok (h : scanDir base σ = (.ok is, τ)) :
    (σ.files.pathIsDir [] base = .ok false ∧ is = []) ∨
      σ.files.pathIsDir [] base = .ok true ∧
        scanBelow σ.files base (base.collapse []) = .ok is := by
  obtain ⟨l?, σ₁, hlook, h⟩ := Action.bind_eq_ok.mp h
  obtain ⟨hl, rfl⟩ := Action.look_eq_ok.mp hlook
  rw [FileSystem.dirAt?_eq] at hl
  obtain ⟨isDir, hdir, rfl⟩ := map_eq_ok_iff.mp hl
  cases isDir with
  | true => exact .inr ⟨hdir, (Action.look_eq_ok.mp h).1⟩
  | false =>
    obtain ⟨-, σ₂, -, h⟩ := Action.bind_eq_ok.mp h
    cases h
    exact .inl ⟨hdir, rfl⟩

theorem exists_reads_of_scanDir (h : scanDir base σ = (.ok is, τ)) :
    (∃ isDir, σ.files.pathIsDir [] base = .ok isDir) ∧
      ∃ reads : List (Path × List Import),
        reads.map Prod.fst = (walk σ.files base).map base.below ∧ is = reads.flatMap Prod.snd ∧
          ∀ r ∈ reads, scanFile σ.files r.1 = .ok r.2 := by
  rcases scanDir_eq_ok h with ⟨hdir, rfl⟩ | ⟨hdir, hbelow⟩
  · refine ⟨⟨false, hdir⟩, [], ?_, rfl, by simp⟩
    rw [walk_of_not_dir hdir]
    rfl
  · refine ⟨⟨true, hdir⟩, ?_⟩
    unfold scanBelow at hbelow
    cases hpaths : σ.files.sourcePaths base (base.collapse []) with
    | error e =>
      rw [hpaths] at hbelow
      cases hbelow
    | ok ps =>
      rw [hpaths] at hbelow
      obtain ⟨-, -, rfl⟩ := FileSystem.sourcePaths_eq_ok.mp hpaths
      rw [walk_of_dir hdir]
      exact exists_reads_of_scanFiles hbelow

/-! ### All directories -/

theorem exists_reads_of_scanDirs (h : scanDirs source dirs σ = (.ok is, τ)) :
    (∀ d ∈ dirs, ∃ isDir, σ.files.pathIsDir [] (source.child d) = .ok isDir) ∧
      ∃ reads : List (Path × List Import),
        reads.map Prod.fst =
            dirs.flatMap (fun d => (walk σ.files (source.child d)).map (source.child d).below) ∧
          is = reads.flatMap Prod.snd ∧
          ∀ r ∈ reads, ∃ ρ, State.Logged σ ρ ∧ scanFile ρ.files r.1 = .ok r.2 := by
  induction dirs generalizing is σ with
  | nil =>
    cases h
    exact ⟨by simp, [], rfl, rfl, by simp⟩
  | cons d dirs ih =>
    obtain ⟨found, σ₁, hfound, h⟩ := Action.bind_eq_ok.mp h
    obtain ⟨rest, σ₂, hrest, h⟩ := Action.bind_eq_ok.mp h
    cases h
    have hlogged : State.Logged σ σ₁ := by
      have hlogs := scanDir_logs (source.child d) σ
      rwa [hfound] at hlogs
    obtain ⟨hdir, reads, hpaths, rfl, hreads⟩ := exists_reads_of_scanDir hfound
    obtain ⟨hdirs, reads', hpaths', rfl, hreads'⟩ := ih hrest
    constructor
    · refine List.forall_mem_cons.mpr ⟨hdir, fun d' hd' => ?_⟩
      obtain ⟨isDir, hisDir⟩ := hdirs d' hd'
      rw [hlogged.files.pathIsDir] at hisDir
      exact ⟨isDir, hisDir⟩
    · refine ⟨reads ++ reads', ?_, (List.flatMap_append).symm, ?_⟩
      -- what the scan of the first directory logged does not change which files there are
      · simp only [walk_of_logged hlogged] at hpaths'
        rw [List.map_append, List.flatMap_cons, hpaths, hpaths']
      · intro r hr
        rcases List.mem_append.mp hr with hr | hr
        · exact ⟨σ, .refl, hreads r hr⟩
        · obtain ⟨ρ, hρ, hread⟩ := hreads' r hr
          exact ⟨ρ, hlogged.trans hρ, hread⟩

/-! ### Another order of listing -/

theorem scanFiles_same (h : FileSystem.Same files files') (ps : List Path) :
    scanFiles files' ps = scanFiles files ps := by
  induction ps with
  | nil => rfl
  | cons p ps ih =>
    have hfile : scanFile files' p = scanFile files p := by
      rw [scanFile, scanFile, h.readText]
    rw [scanFiles, scanFiles, hfile, ih]

theorem scanBelow_same (h : FileSystem.Same files files') {l : Location}
    (his : scanBelow files base l = .ok is) : scanBelow files' base l = .ok is := by
  unfold scanBelow at his ⊢
  cases hpaths : files.sourcePaths base l with
  | error e =>
    rw [hpaths] at his
    cases his
  | ok ps =>
    rw [hpaths] at his
    rw [h.sourcePaths hpaths]
    dsimp only at his ⊢
    rwa [scanFiles_same h]

theorem note_same (level : Log.Level) (part text : String) :
    Carries State.Same (Action.note level part text) :=
  .log (fun _ _ r h => h.record r) _

theorem scanDir_same (base : Path) : Carries State.Same (scanDir base) := by
  refine .bind (.look fun σ τ h l? hl => ?_) fun l? => ?_
  · have hrewrites : Rewrites ∅ σ.files τ.files := h.files.rewrites
    rwa [hrewrites.dirAt?]
  · cases l? with
    | none => exact .bind (note_same _ _ _) fun _ => .pure _
    | some l => exact .look fun σ τ h is his => scanBelow_same h.files his

theorem scanDirs_same (source : Path) (dirs : List String) :
    Carries State.Same (scanDirs source dirs) := by
  induction dirs with
  | nil => exact .pure _
  | cons d dirs ih => exact .bind (scanDir_same _) fun _ => .bind ih fun _ => .pure _

theorem scan_same (sc : Scanner) (source : Path) (dirs : List String) :
    Carries State.Same (sc.scan source dirs) := by
  refine .bind (.look fun σ τ h isDir hdir => ?_) fun isDir => ?_
  · have hrewrites : Rewrites ∅ σ.files τ.files := h.files.rewrites
    rwa [hrewrites.pathIsDir]
  · cases isDir with
    | false => exact .ofExcept _
    | true =>
      exact .bind (scanDirs_same source dirs) fun _ => .bind (note_same _ _ _) fun _ => .pure _

/-! ### A whole scan -/

/-- Every directory that is there is walked once for each time it is named, one that is missing is
skipped, and what is found is what the files on the way offer. -/
theorem scan_reads {sc sc' : Scanner} (h : sc.scan source dirs σ = (.ok sc', τ)) :
    ∃ (walk : String → List (List Name)) (reads : List (Path × List Import)),
      (∀ d ∈ dirs, ∃ isDir, σ.files.pathIsDir [] (source.child d) = .ok isDir ∧
        (isDir = false → walk d = []) ∧
        (isDir = true → (walk d).Pairwise Precedes ∧ (walk d).Nodup ∧
          ∀ names, names ∈ walk d ↔
            IsSourceName names ∧ σ.files.HasFile ((source.child d).collapse [] ++ names))) ∧
      reads.map Prod.fst = dirs.flatMap (fun d => (walk d).map (source.child d).below) ∧
      sc' = { sc with scanned := reads.flatMap Prod.snd } ∧
      (∀ r ∈ reads, ∃ ρ, State.Logged σ ρ ∧ scanFile ρ.files r.1 = .ok r.2) ∧
      ∀ σ', State.Same σ σ' → ∃ τ', sc.scan source dirs σ' = (.ok sc', τ') := by
  have hsame : ∀ σ', State.Same σ σ' → ∃ τ', sc.scan source dirs σ' = (.ok sc', τ') := by
    intro σ' hσ
    obtain ⟨τ', hscan, -⟩ := scan_same sc source dirs _ _ hσ _ _ h
    exact ⟨τ', hscan⟩
  obtain ⟨isDir, σ₁, hlook, h⟩ := Action.bind_eq_ok.mp h
  obtain ⟨-, rfl⟩ := Action.look_eq_ok.mp hlook
  cases isDir with
  | false => cases h
  | true =>
    obtain ⟨found, σ₂, hfound, h⟩ := Action.bind_eq_ok.mp h
    obtain ⟨-, σ₃, -, h⟩ := Action.bind_eq_ok.mp h
    cases h
    obtain ⟨hdirs, reads, hpaths, rfl, hreads⟩ := exists_reads_of_scanDirs hfound
    refine ⟨fun d => walk σ.files (source.child d), reads, ?_, hpaths, rfl, hreads, hsame⟩
    intro d hd
    obtain ⟨isDir, hdir⟩ := hdirs d hd
    refine ⟨isDir, hdir, ?_, ?_⟩
    · rintro rfl
      exact walk_of_not_dir hdir
    · rintro rfl
      have hpairwise : (walk σ.files (source.child d)).Pairwise Precedes := by
        rw [walk_of_dir hdir]
        exact FileSystem.pairwise_sourceFiles _ _
      refine ⟨hpairwise, Precedes.nodup hpairwise, fun names => ?_⟩
      · change names ∈ walk σ.files (source.child d) ↔ _
        rw [walk_of_dir hdir]
        exact FileSystem.mem_sourceFiles_iff

def shared : Location := Generate.sample.root ++ [⟨"shared", by decide⟩]

/-- A directory with a source file, a declaration file and a foreign module. -/
def mixedDisk : FileSystem :=
  let dirs := (FileSystem.empty.makeDirs [] (Path.ofString "/project/shared/node_modules")).2
  let foreign := dirs.writeFile (shared ++ [⟨"node_modules", by decide⟩, ⟨"c.ts", by decide⟩])
    "export const c = 1\n".toUTF8
  let declared := foreign.writeFile (shared ++ [⟨"a.d.ts", by decide⟩])
    "export const a = 1\n".toUTF8
  declared.writeFile (shared ++ [⟨"b.ts", by decide⟩]) "export const b = 1\n".toUTF8

/-- The directory is named twice, and one that is missing in between. -/
theorem scan_reads_mixed : ∃ sc' τ, ∃ (walk : String → List (List Name))
    (reads : List (Path × List Import)),
    (⟨[], []⟩ : Scanner).scan (Path.ofString "/project") ["shared", "missing", "shared"]
      (Generate.quiet mixedDisk) = (.ok sc', τ) ∧
    reads.map Prod.fst = ["shared", "missing", "shared"].flatMap (fun d =>
      (walk d).map ((Path.ofString "/project").child d).below) ∧
    reads.flatMap Prod.snd = [⟨"b", "/project/shared/b.ts", none⟩, ⟨"b", "/project/shared/b.ts", none⟩] ∧
    walk "missing" = [] := by
  have hfound : ((⟨[], []⟩ : Scanner).scan (Path.ofString "/project") ["shared", "missing", "shared"]
      (Generate.quiet mixedDisk)).1 = .ok ⟨[], [⟨"b", "/project/shared/b.ts", none⟩,
        ⟨"b", "/project/shared/b.ts", none⟩]⟩ := by
    decide +kernel
  obtain ⟨τ, h⟩ := exists_snd_of_fst_eq hfound
  have hmissing : mixedDisk.pathIsDir [] ((Path.ofString "/project").child "missing") =
      .ok false := by
    decide +kernel
  obtain ⟨walk, reads, hdirs, hpaths, hsc, -, -⟩ := scan_reads h
  obtain ⟨isDir, hisDir, hnone, -⟩ := hdirs "missing" (by simp)
  obtain rfl := Except.ok.inj (hmissing.symm.trans hisDir)
  exact ⟨_, τ, walk, reads, h, hpaths, (congrArg Scanner.scanned hsc).symm, hnone rfl⟩

end ExtTypes.Scanner

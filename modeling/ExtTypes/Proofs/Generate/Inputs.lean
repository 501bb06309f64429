import ExtTypes.Proofs.FileSystem.Search
import ExtTypes.Proofs.FileSystem.Walk
import ExtTypes.Proofs.Generate.Pipeline
import ExtTypes.Proofs.Path.Below

/-! What a run reads. Two file systems that agree on it give the same entries, even if the second
one has more directories. Main statement: `collect_carries`. -/
namespace ExtTypes

open ExtTypes.Action (Carries)
open FileSystem (Alike Rewrites Unhindered fits)
open Log (State)

namespace Generate

/-- The paths of the directories in which imports are looked for. -/
def importBases (s : Settings) : List Path :=
  match s.imports? with
  | none => []
  | some o => o.dirs.map s.sourceDir.path.child

/-- The locations of all files that a run reads, or lists, which starts on these files: those below
the public directory, the bundle of the default locale if there are locales, and the source files
below the directories in which imports are looked for. -/
def inputs (s : Settings) (files : FileSystem) : Set Location :=
  {l | (s.publicDir <+: l ∧ l ≠ s.publicDir) ∨
    (hasLocales files s = .ok true ∧ ∃ locale, s.defaultLocale?.filter (· ≠ "") = some locale ∧
      l = (Declaration.bundleFile s locale).collapse []) ∨
    ∃ base ∈ importBases s, ∃ names, isOwnSource names = true ∧ l = base.collapse [] ++ names}

theorem inputs_of_no_imports {s : Settings} (himports : s.imports? = none)
    (hlocale : s.defaultLocale? = none) (files : FileSystem) :
    inputs s files = {l | s.publicDir <+: l ∧ l ≠ s.publicDir} := by
  simp [inputs, importBases, himports, hlocale]

/-- New directories that do not show in what a run reads. None is in the public directory; none
leads the path of a directory that is looked for on to a name that is too long, and a walk can get
into each. -/
structure Harmless (s : Settings) (dirs : Set Location) : Prop where
  notPublic : ∀ q ∈ dirs, ¬ s.publicDir <+: q
  publicDir : Unhindered dirs s.publicDir.path
  bases : ∀ base ∈ importBases s, Unhindered dirs base
  short : ∀ q ∈ dirs, ∀ a : Anchor, a ≠ .relative → fits ⟨a, q.map .name⟩ = true

theorem Harmless.empty (s : Settings) : Harmless s ∅ where
  notPublic := fun q hq => absurd hq (Set.notMem_empty q)
  publicDir := .empty
  bases := fun _ _ => .empty
  short := fun q hq => absurd hq (Set.notMem_empty q)

variable {s : Settings} {entrypoints : List Entrypoint} {source : HookSource}
  {files dirs : Set Location} {fs fs' : FileSystem} {σ τ : State}

theorem isAbsolute_of_mem_importBases {base : Path} (h : base ∈ importBases s) :
    base.isAbsolute := by
  unfold importBases at h
  cases ho : s.imports? with
  | none => simp [ho] at h
  | some o =>
    rw [ho] at h
    obtain ⟨d, -, rfl⟩ := List.mem_map.mp h
    exact Path.isAbsolute_child (Path.isAbsolute_path s.sourceDir) d

theorem locales_mem_inputs (s : Settings) (fs : FileSystem) :
    s.publicDir ++ [localesName] ∈ inputs s fs := by
  refine .inl ⟨List.prefix_append _ _, fun h => ?_⟩
  simpa using congrArg List.length h

/-- No new directory hinders the way to the locales. -/
theorem Harmless.locales (hd : Harmless s dirs) :
    Unhindered dirs (Location.path (s.publicDir ++ [localesName])) := by
  rcases hd.publicDir with he | ⟨-, hlen⟩
  · exact .inl he
  · refine .inr ⟨by simp [Location.path], fun ps q hpq hm => ?_⟩
    have hparts : (Location.path (s.publicDir ++ [localesName])).parts =
        s.publicDir.path.parts ++ [.name localesName] := by simp [Location.path]
    rw [hparts] at hpq
    rcases List.prefix_concat_iff.mp hpq with he | hpq
    -- the name of the directory of locales comes after the public directory, which is not new
    · obtain ⟨rfl, -⟩ := List.append_inj' he rfl
      have hpub : s.publicDir.path.parts.foldl Location.step [] = s.publicDir := by
        rw [Location.path, Location.foldl_step_names, List.nil_append]
      rw [hpub] at hm
      exact absurd List.prefix_rfl (hd.notPublic _ hm)
    · exact hlen ps q hpq hm

theorem hasLocales_alike (h : Alike files dirs fs fs') (hd : Harmless s dirs)
    (hfiles : s.publicDir ++ [localesName] ∉ files) {b : Bool} (hb : hasLocales fs s = .ok b) :
    hasLocales fs' s = .ok b := by
  unfold hasLocales at hb ⊢
  rw [localesPath] at hb ⊢
  cases hk : fs.find [] (Location.path (s.publicDir ++ [localesName])) with
  | error e => simp [hk, Except.map] at hb
  | ok k? =>
    have hdirs : s.publicDir ++ [localesName] ∉ dirs := fun hm =>
      hd.notPublic _ hm (List.prefix_append _ _)
    rw [h.find (Path.isAbsolute_path _) hd.locales (by simpa using hfiles) (by simpa using hdirs)
      hk, ← hk]
    exact hb

theorem readText_alike (h : Alike files dirs fs fs') {p : Path} (hp : p.collapse [] ∉ files)
    {t : String} (ht : fs.readText [] p = .ok t) : fs'.readText [] p = .ok t := by
  unfold FileSystem.readText at ht ⊢
  cases hb : fs.read [] p with
  | error e =>
    rw [hb] at ht
    cases ht
  | ok b =>
    rw [h.read hp hb, ← hb]
    exact ht

theorem defaultMessages_alike (h : Alike files dirs fs fs')
    (hin : ∀ l ∈ inputs s fs, l ∉ files) (hloc : hasLocales fs s = .ok true) {ms : List Message}
    (hms : Declaration.defaultMessages fs s = .ok ms) :
    Declaration.defaultMessages fs' s = .ok ms := by
  unfold Declaration.defaultMessages at hms ⊢
  cases hl : s.defaultLocale?.filter (· ≠ "") with
  | none =>
    rw [hl] at hms
    exact hms
  | some locale =>
    rw [hl] at hms
    dsimp only at hms ⊢
    cases ht : fs.readText [] (Declaration.bundleFile s locale) with
    | error e =>
      rw [ht] at hms
      cases hms
    | ok t =>
      have hbundle := hin _ (.inr (.inl ⟨hloc, locale, hl, rfl⟩))
      rw [readText_alike h hbundle ht, ← ht]
      exact hms

theorem messageEntries_alike (h : Alike files dirs fs fs') (hd : Harmless s dirs)
    (hin : ∀ l ∈ inputs s fs, l ∉ files) {es : List Entry} (hes : messageEntries fs s = .ok es) :
    messageEntries fs' s = .ok es := by
  obtain ⟨b, ms, hb, rfl, hms⟩ := messageEntries_eq_ok.mp hes
  have hb' := hasLocales_alike h hd (hin _ (locales_mem_inputs s fs)) hb
  refine messageEntries_eq_ok.mpr ⟨b, ms, hb', rfl, ?_⟩
  rintro rfl
  exact defaultMessages_alike h hin hb (hms rfl)

/-- The list of public files is the same. -/
theorem pathsEntry_alike (h : Alike files dirs fs fs') (hd : Harmless s dirs)
    (hin : ∀ l ∈ inputs s fs, l ∉ files) {f : FileEntry}
    (hf : Declaration.pathsEntry fs s entrypoints = .ok f) :
    Declaration.pathsEntry fs' s entrypoints = .ok f := by
  have habs := Path.isAbsolute_path s.publicDir
  have hsame : fs.publicFiles s.publicDir.path = fs'.publicFiles s.publicDir.path := by
    refine FileSystem.publicFiles_congr ?_ fun r hr => ?_
    · rcases hdir : fs.pathIsDir [] s.publicDir.path with e | _ | _
      · simp [Declaration.pathsEntry, Declaration.publicPaths, FileSystem.publicFiles,
          FileSystem.dirAt?, hdir, Except.map] at hf
      · rcases h.pathIsDir_false habs hd.publicDir hdir with hdir' | ⟨-, hm, -⟩
        · exact hdir'.symm
        · rw [Path.collapse_path] at hm
          exact absurd List.prefix_rfl (hd.notPublic _ hm)
      · exact (h.pathIsDir_true hdir).symm
    · have hinput : s.publicDir ++ r ∈ inputs s fs := by
        refine .inl ⟨List.prefix_append _ _, fun he => hr ?_⟩
        simpa using he
      rw [Path.collapse_path, FileSystem.HasFile, FileSystem.HasFile]
      exact exists_congr fun b => (h.file_iff (hin _ hinput)).symm
  rwa [Declaration.pathsEntry, Declaration.publicPaths, ← hsame]

/-- A source file gives the same imports. -/
theorem scanFiles_alike (h : Alike files dirs fs fs') {ps : List Path}
    (hps : ∀ p ∈ ps, p.collapse [] ∉ files) {is : List Import}
    (his : Scanner.scanFiles fs ps = .ok is) : Scanner.scanFiles fs' ps = .ok is := by
  induction ps generalizing is with
  | nil => exact his
  | cons p ps ih =>
    obtain ⟨hp, hps⟩ := List.forall_mem_cons.mp hps
    unfold Scanner.scanFiles Scanner.scanFile at his ⊢
    cases ht : fs.readText [] p with
    | error e => simp [ht, Except.map] at his
    | ok t =>
      cases hrest : Scanner.scanFiles fs ps with
      | error e => simp [ht, hrest, Except.map] at his
      | ok js =>
        simp only [ht, hrest, Except.map] at his
        simp only [readText_alike h hp ht, ih hps hrest, Except.map, his]

/-- The walk below a directory that is looked for gets into a new one. -/
theorem fits_below_new (hd : Harmless s dirs) {base : Path} (hbase : base ∈ importBases s)
    {d : List Name} (hm : base.collapse [] ++ d ∈ dirs) : fits (base.below d) = true := by
  have habs := isAbsolute_of_mem_importBases hbase
  have ha : base.anchor ≠ .relative := by simpa [Path.isAbsolute] using habs
  rcases hd.bases base hbase with rfl | ⟨hup, -⟩
  · exact absurd hm (Set.notMem_empty _)
  · have hparts : base.below d = ⟨base.anchor, (base.collapse [] ++ d).map .name⟩ := by
      rw [Path.collapse_of_isAbsolute habs, Path.foldl_step_plain hup, List.nil_append,
        List.map_append, Path.map_names hup]
      rfl
    rw [hparts]
    exact hd.short _ hm base.anchor ha

/-- A walk that gets through once does so again if it can get into the new directories. -/
theorem scanBelow_alike (h : Alike files dirs fs fs') (hd : Harmless s dirs) {base : Path}
    (hbase : base ∈ importBases s) (hin : ∀ l ∈ inputs s fs, l ∉ files) {is : List Import}
    (his : Scanner.scanBelow fs base (base.collapse []) = .ok is) :
    Scanner.scanBelow fs' base (base.collapse []) = .ok is := by
  have habs := isAbsolute_of_mem_importBases hbase
  have hsource (r : List Name) (hr : isOwnSource r = true) : base.collapse [] ++ r ∉ files :=
    hin _ (.inr (.inr ⟨base, hbase, r, hr, rfl⟩))
  unfold Scanner.scanBelow at his ⊢
  cases hps : fs.sourcePaths base (base.collapse []) with
  | error e =>
    rw [hps] at his
    cases his
  | ok ps =>
    obtain ⟨hisdir, hfits, hpaths⟩ := FileSystem.sourcePaths_eq_ok.mp hps
    have hsame : fs'.sourceFiles (base.collapse []) = fs.sourceFiles (base.collapse []) := by
      refine FileSystem.sourceFiles_congr fun r hr => ?_
      exact exists_congr fun b => h.file_iff (hsource r hr)
    -- the walk gets into the directories from before, as it did, and into the new ones
    have hps' : fs'.sourcePaths base (base.collapse []) = .ok ps := by
      refine FileSystem.sourcePaths_eq_ok.mpr
        ⟨h.dir hisdir, fun d hdir hforeign => ?_, hsame ▸ hpaths⟩
      rcases FileSystem.mem_dirsBelow.mp hdir with rfl | hnode
      · exact hfits [] (FileSystem.mem_dirsBelow.mpr (.inl rfl)) rfl
      · rcases h.dir_or_new hnode with hold | ⟨hnew, -⟩
        · exact hfits d (FileSystem.mem_dirsBelow.mpr (.inr hold)) hforeign
        · exact fits_below_new hd hbase hnew
    rw [hps] at his
    rw [hps']
    refine scanFiles_alike h (fun p hp => ?_) his
    rw [hpaths] at hp
    obtain ⟨r, hr, rfl⟩ := List.mem_map.mp hp
    rw [Path.collapse_below habs]
    exact hsource r (FileSystem.mem_sourceFiles.mp hr).1

/-- Two states whose files are alike, and agree on what a run reads. -/
structure Similar (s : Settings) (files dirs : Set Location) (σ τ : State) : Prop where
  left : σ.logFiles ⊆ files
  right : τ.logFiles ⊆ files
  alike : Alike files dirs σ.files τ.files
  apart : ∀ l ∈ inputs s σ.files, l ∉ files

/-- More text in the log does not change what is an input. -/
theorem inputs_rewrites (h : Rewrites files fs fs') (hin : ∀ l ∈ inputs s fs, l ∉ files) :
    inputs s fs' ⊆ inputs s fs := by
  rintro l (hl | ⟨hloc, hl⟩ | hl)
  · exact .inl hl
  · refine .inr (.inl ⟨?_, hl⟩)
    have halike : Alike files ∅ fs' fs := h.symm.grows.alike
    exact hasLocales_alike halike (.empty s) (hin _ (locales_mem_inputs s fs)) hloc
  · exact .inr (.inr hl)

theorem Similar.logged (h : Similar s files dirs σ τ) {σ' τ' : State} (hσ : State.Logged σ σ')
    (hτ : State.Logged τ τ') : Similar s files dirs σ' τ' := by
  have hσfiles := hσ.files.mono h.left
  refine ⟨hσ.logFiles ▸ h.left, hτ.logFiles ▸ h.right, ?_, fun l hl => ?_⟩
  · exact h.alike.rewrites hσfiles (hτ.files.mono h.right)
  · exact h.apart l (inputs_rewrites hσfiles h.apart hl)

theorem note_carries (level : Log.Level) (part text : String) :
    Carries (Similar s files dirs) (Action.note level part text) :=
  .log (fun σ τ r h => h.logged (σ.record_logged r) (τ.record_logged r)) _

/-- No source file is below a directory that is new. -/
theorem scanBelow_new (h : Alike files dirs fs fs') (hd : Harmless s dirs) {base : Path}
    (hbase : base ∈ importBases s) (hin : ∀ l ∈ inputs s fs, l ∉ files)
    (hnew : base.collapse [] ∈ dirs) (hnone : fs.node? (base.collapse []) = none)
    (hisdir : fs'.node? (base.collapse []) = some .dir) :
    Scanner.scanBelow fs' base (base.collapse []) = .ok [] := by
  -- nothing was below it before
  have hbelow (r : List Name) : fs.node? (base.collapse [] ++ r) = none := by
    by_contra hsome
    by_cases hr : r = []
    · exact hsome (by simpa [hr] using hnone)
    · simp [FileSystem.node?_of_append hr hsome] at hnone
  have hnosource : fs'.sourceFiles (base.collapse []) = [] := by
    refine List.eq_nil_iff_forall_not_mem.mpr fun r hr => ?_
    obtain ⟨hown, b, hb⟩ := FileSystem.mem_sourceFiles.mp hr
    have hinput := hin _ (.inr (.inr ⟨base, hbase, r, hown, rfl⟩))
    simpa [hbelow r] using (h.file_iff hinput).mp hb
  have hps : fs'.sourcePaths base (base.collapse []) = .ok [] := by
    refine FileSystem.sourcePaths_eq_ok.mpr ⟨hisdir, fun d hdir _ => ?_, by rw [hnosource]; rfl⟩
    have hm : base.collapse [] ++ d ∈ dirs := by
      rcases FileSystem.mem_dirsBelow.mp hdir with rfl | hnode
      · simpa using hnew
      · exact ((h.dir_or_new hnode).resolve_left (by simp [hbelow d])).1
    exact fits_below_new hd hbase hm
  simp only [Scanner.scanBelow, hps, Scanner.scanFiles]

/-- A directory that is scanned gives the same imports, and one that is new gives none. -/
theorem scanDir_carries (hd : Harmless s dirs) {base : Path} (hbase : base ∈ importBases s) :
    Carries (Similar s files dirs) (Scanner.scanDir base) := by
  have habs := isAbsolute_of_mem_importBases hbase
  intro σ τ h is σ' hscan
  obtain ⟨l?, σ₁, hfirst, his⟩ := Action.bind_eq_ok.mp hscan
  obtain ⟨hl, rfl⟩ := Action.look_eq_ok.mp hfirst
  rw [FileSystem.dirAt?_eq] at hl
  have hlook (isDir : Bool) (hdir : τ.files.pathIsDir [] base = .ok isDir) :
      Action.look (fun files => files.dirAt? [] base) τ =
        (.ok (if isDir then some (base.collapse []) else none), τ) := by
    refine Action.look_eq_ok.mpr ⟨?_, rfl⟩
    rw [FileSystem.dirAt?_eq, hdir]
    rfl
  rcases hdir : σ.files.pathIsDir [] base with e | _ | _
  · simp [hdir, Except.map] at hl
  · rw [hdir] at hl
    cases hl
    obtain ⟨u, σ₂, hnote, hpure⟩ := Action.bind_eq_ok.mp his
    cases hnote
    cases hpure
    rcases h.alike.pathIsDir_false habs (hd.bases base hbase) hdir with hdir' | ⟨hdir', hm, hnone⟩
    · refine ⟨_, (Action.bind_of_ok (hlook false hdir')).trans rfl, ?_⟩
      exact h.logged (σ.record_logged _) (τ.record_logged _)
    -- the directory is one of the new ones: in place of a record there is an empty scan
    · obtain ⟨-, -, hisdir⟩ := FileSystem.pathIsDir_eq_true.mp hdir'
      refine ⟨τ, (Action.bind_of_ok (hlook true hdir')).trans ?_, ?_⟩
      · exact Action.look_eq_ok.mpr
          ⟨scanBelow_new h.alike hd hbase h.apart hm hnone hisdir, rfl⟩
      · exact h.logged (σ.record_logged _) .refl
  · rw [hdir] at hl
    cases hl
    obtain ⟨hbelow, rfl⟩ := Action.look_eq_ok.mp his
    refine ⟨τ, ?_, h⟩
    refine (Action.bind_of_ok (hlook true (h.alike.pathIsDir_true hdir))).trans ?_
    exact Action.look_eq_ok.mpr ⟨scanBelow_alike h.alike hd hbase h.apart hbelow, rfl⟩

theorem scanDirs_carries (hd : Harmless s dirs) {ds : List String}
    (hds : ∀ d ∈ ds, s.sourceDir.path.child d ∈ importBases s) :
    Carries (Similar s files dirs) (Scanner.scanDirs s.sourceDir.path ds) := by
  induction ds with
  | nil => exact .pure _
  | cons d ds ih =>
    obtain ⟨hhead, htail⟩ := List.forall_mem_cons.mp hds
    exact .bind (scanDir_carries hd hhead) fun found => .bind (ih htail) fun rest => .pure _

theorem scan_carries (hd : Harmless s dirs) {o : ImportOptions} (ho : s.imports? = some o)
    (sc : Scanner) : Carries (Similar s files dirs) (sc.scan s.sourceDir.path o.dirs) := by
  have hds : ∀ d ∈ o.dirs, s.sourceDir.path.child d ∈ importBases s := fun d hd => by
    rw [importBases, ho]
    exact List.mem_map_of_mem hd
  intro σ τ h sc' σ' hscan
  obtain ⟨isDir, σ₁, hfirst, hsc⟩ := Action.bind_eq_ok.mp hscan
  obtain ⟨hdir, rfl⟩ := Action.look_eq_ok.mp hfirst
  cases isDir with
  | false => cases hsc
  | true =>
    have hlook : Action.look (fun files => files.pathIsDir [] s.sourceDir.path) τ =
        (.ok true, τ) := Action.look_eq_ok.mpr ⟨h.alike.pathIsDir_true hdir, rfl⟩
    have hscans : Carries (Similar s files dirs)
        (Scanner.scanDirs s.sourceDir.path o.dirs) := scanDirs_carries hd hds
    have hrest := Carries.bind hscans fun found =>
      Carries.bind (note_carries .debug "imports" ("Indexed " ++ toString found.length ++
        " imports under " ++ s.sourceDir.path.text)) fun _ =>
        Carries.pure { sc with scanned := found }
    obtain ⟨τ', hτ', h'⟩ := hrest σ τ h sc' σ' hsc
    exact ⟨τ', (Action.bind_of_ok hlook).trans hτ', h'⟩

theorem imports_carries (sc : Scanner) : Carries (Similar s files dirs) sc.imports :=
  .bind (.forM (.log fun σ τ r h => h.logged (σ.record_logged r) (τ.record_logged r)) _)
    fun _ => .pure _

theorem importEntries_carries (hd : Harmless s dirs) :
    Carries (Similar s files dirs) (importEntries s) := by
  unfold importEntries
  cases ho : s.imports? with
  | none => exact .bind (note_carries _ _ _) fun _ => .pure _
  | some o =>
    refine .bind ?_ fun p => ?_
    · refine .bind (scan_carries hd ho _) fun scanner => .bind ?_ fun _ => .pure _
      exact .bind (imports_carries scanner) fun _ => .pure _
    · obtain ⟨declarations, scanner⟩ := p
      dsimp only
      split
      · exact .bind (.bind (imports_carries scanner) fun _ => .pure _) fun _ => .pure _
      · exact .pure _

theorem hookEntries_carries (seen : List Entry) :
    Carries (Similar s files dirs) (hookEntries s source seen) := by
  refine .bind (.ofExcept _) fun hooks => .bind (.ofExcept _) fun added => ?_
  dsimp only
  split
  · exact .pure _
  · exact .bind (note_carries _ _ _) fun _ => .pure _

/-- What is collected from one of two similar states is collected from the other. -/
theorem collect_carries (hd : Harmless s dirs) :
    Carries (Similar s files dirs) (collect s entrypoints source) := by
  refine .bind (importEntries_carries hd) fun imports => .bind (.look ?_) fun paths =>
    .bind (.look ?_) fun messages => .bind (hookEntries_carries _) fun added => .pure _
  · exact fun σ τ h f hf => pathsEntry_alike h.alike hd h.apart hf
  · exact fun σ τ h es hes => messageEntries_alike h.alike hd h.apart hes

end Generate

end ExtTypes

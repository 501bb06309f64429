import ExtTypes.Proofs.Declaration.Paths
import ExtTypes.Proofs.FileSystem.Lookup
import ExtTypes.Proofs.FileSystem.Same

/-! All files below a directory, each once and by code point, in whatever order directories are
listed. Where the system refuses to look for the directory, so does the listing, and what is in a
directory with too long a path is passed over. Main statement: `publicFiles_complete`. -/
namespace ExtTypes.FileSystem

variable {fs fs' : FileSystem} {p : Path}

/-! ### Looking along a path -/

/-- A name is too long to be looked for exactly where all parts before it get to a directory. -/
theorem route_eq_nameTooLong {l : Location} {ps : List Part} :
    fs.route l ps = .error .nameTooLong ↔ ∃ qs n rs, ps = qs ++ Part.name n :: rs ∧
      fs.Passes l qs ∧ fs.node? (qs.foldl Location.step l) = some .dir ∧
        nameLimit < n.val.utf8ByteSize := by
  constructor
  · intro h
    induction ps generalizing l with
    | nil => cases h
    | cons p ps ih =>
      rw [route] at h
      split at h
      · cases h
      · cases h
      · next hdir =>
        split at h
        · next hlong =>
          cases p with
          | up => exact absurd hlong (by decide)
          | name n => exact ⟨[], n, ps, rfl, trivial, hdir, hlong⟩
        · next hshort =>
          obtain ⟨qs, n, rs, rfl, hpass, hn, hlong⟩ := ih h
          exact ⟨p :: qs, n, rs, rfl, ⟨hdir, Nat.le_of_not_lt hshort, hpass⟩, hn, hlong⟩
  · rintro ⟨qs, n, rs, rfl, hpass, hn, hlong⟩
    induction qs generalizing l with
    | nil =>
      have hdir : fs.node? l = some .dir := hn
      rw [List.nil_append, route, hdir]
      exact if_pos hlong
    | cons q qs ih =>
      obtain ⟨hdir, hshort, hpass⟩ := hpass
      have hrest := ih hpass hn
      rw [List.cons_append, route, hdir]
      exact (if_neg (Nat.not_lt.mpr hshort)).trans hrest

/-- Whether the system refuses to follow a path: the text is too long, or a name of it is where it is
looked for. -/
def Refuses (fs : FileSystem) (p : Path) : Prop :=
  hasNul p = false ∧ (fits p = false ∨ ∃ qs n rs, p.parts = qs ++ Part.name n :: rs ∧
    fs.Passes [] qs ∧ fs.node? (qs.foldl Location.step []) = some .dir ∧
      nameLimit < n.val.utf8ByteSize)

/-- Whether a path gets through to a directory. -/
def LeadsToDir (fs : FileSystem) (p : Path) : Prop :=
  hasNul p = false ∧ fs.Passes [] p.parts ∧ fs.node? (p.collapse []) = some .dir

theorem start_nil (p : Path) : p.start [] = [] := by
  rw [Path.start, ite_self]

theorem locate_eq_nameTooLong (hnul : hasNul p = false) :
    fs.locate [] p = .error .nameTooLong ↔ fs.Refuses p := by
  rw [locate_eq, start_nil, Refuses, and_iff_right hnul, ← route_eq_nameTooLong]
  cases fits p <;> simp

theorem pathIsDir_of_refuses (h : fs.Refuses p) :
    fs.pathIsDir [] p = .error (.disk .nameTooLong p.text) := by
  have hlocate := (locate_eq_nameTooLong h.1).mpr h
  rw [pathIsDir, find, if_neg (by simp [h.1]), hlocate]
  rfl

theorem pathIsDir_of_leads (h : ¬ fs.Refuses p) (hdir : fs.LeadsToDir p) :
    fs.pathIsDir [] p = .ok true := by
  obtain ⟨hnul, hpass, hnode⟩ := hdir
  have hfits : fits p = true := by
    by_contra hlong
    exact h ⟨hnul, .inl (by simpa using hlong)⟩
  rw [← start_nil p] at hpass
  exact pathIsDir_eq_true.mpr ⟨hnul, locate_eq_ok.mpr ⟨hfits, hpass, rfl⟩, hnode⟩

theorem leadsToDir_of_pathIsDir (h : fs.pathIsDir [] p = .ok true) : fs.LeadsToDir p := by
  obtain ⟨hnul, hlocate, hnode⟩ := pathIsDir_eq_true.mp h
  obtain ⟨-, hpass, -⟩ := locate_eq_ok.mp hlocate
  rw [start_nil] at hpass
  exact ⟨hnul, hpass, hnode⟩

theorem pathIsDir_of_not_leads (h : ¬ fs.Refuses p) (hdir : ¬ fs.LeadsToDir p) :
    fs.pathIsDir [] p = .ok false := by
  unfold pathIsDir find
  cases hnul : hasNul p with
  | true => rfl
  | false =>
    cases hlocate : fs.locate [] p with
    | ok l =>
      obtain ⟨-, hpass, rfl⟩ := locate_eq_ok.mp hlocate
      rw [start_nil] at hpass
      have hnode : fs.node? (p.collapse []) ≠ some .dir := fun hd => hdir ⟨hnul, hpass, hd⟩
      simp [Except.map, hnode]
    | error c =>
      cases c with
      | nameTooLong => exact absurd ((locate_eq_nameTooLong hnul).mp hlocate) h
      | _ => rfl

/-! ### The listing -/

/-- What the listing shows for a file at these names: the names with slashes between them, and with
slashes for their backslashes. -/
def shown (names : List Name) : String :=
  String.ofList (("/".intercalate (names.map Subtype.val)).toList.map fun c =>
    if c = '\\' then '/' else c)

theorem slashed_text_names {names : List Name} (h : names ≠ []) :
    slashed (Path.text ⟨.relative, names.map .name⟩) = shown names := by
  rw [Path.text_names h, Text.joinText_eq_intercalate]
  rfl

/-- The files that a listing gets to, from the directory at a path. -/
def GetsTo (fs : FileSystem) (p : Path) (names : List Name) : Prop :=
  names ≠ [] ∧ fs.HasFile (p.collapse [] ++ names) ∧ fits (p.below names.dropLast) = true

/-- A listing has a text for each file that it gets to, and is sorted. -/
structure IsListing (fs : FileSystem) (p : Path) (texts : List String) : Prop where
  sorted : texts.Pairwise (· ≤ ·)
  exact : ∃ files : List (List Name), files.Nodup ∧ (∀ names, names ∈ files ↔ fs.GetsTo p names) ∧
    texts.Perm (files.map shown)

theorem publicFiles_of_dir (h : fs.pathIsDir [] p = .ok true) :
    fs.publicFiles p = .ok ((((fs.filesBelow (p.collapse [])).filter fun names =>
      fits (p.below names.dropLast)).map fun names =>
        slashed (Path.text ⟨.relative, names.map .name⟩)).mergeSort fun a b => decide (a ≤ b)) := by
  rw [publicFiles_eq, h]
  rfl

theorem isListing_of_dir (h : fs.pathIsDir [] p = .ok true) :
    ∃ texts, fs.publicFiles p = .ok texts ∧ IsListing fs p texts := by
  refine ⟨_, publicFiles_of_dir h, List.pairwise_mergeSort' (· ≤ ·) _, ?_⟩
  let files := (fs.filesBelow (p.collapse [])).filter fun names => fits (p.below names.dropLast)
  have hmem (names : List Name) : names ∈ files ↔ fs.GetsTo p names := by
    rw [List.mem_filter, mem_filesBelow, GetsTo, HasFile, and_assoc]
  have htexts : files.map (fun names => slashed (Path.text ⟨.relative, names.map .name⟩)) =
      files.map shown := by
    apply List.map_congr_left
    intro names hnames
    exact slashed_text_names ((hmem names).mp hnames).1
  refine ⟨files, (nodup_filesBelow fs _).filter _, hmem, ?_⟩
  rw [← htexts]
  exact List.mergeSort_perm _ _

theorem publicFiles_same (h : Same fs fs') (p : Path) : fs'.publicFiles p = fs.publicFiles p := by
  have hdir : fs.pathIsDir [] p = fs'.pathIsDir [] p := by rw [pathIsDir, pathIsDir, h.find]
  refine (publicFiles_congr hdir fun names _ => ?_).symm
  rw [HasFile, HasFile, h]

/-- The listing has one text for each file below the directory, in order, and none for anything else,
in whatever order the directories are listed; without a directory, it is empty. It is refused where a
look for the directory is, and leaves out what is in directories with too long a path. -/
theorem publicFiles_complete (hsame : Same fs fs') (p : Path) :
    fs'.publicFiles p = fs.publicFiles p ∧
      (fs.Refuses p → fs.publicFiles p = .error (.disk .nameTooLong p.text)) ∧
      (¬ fs.Refuses p → ¬ fs.LeadsToDir p → fs.publicFiles p = .ok []) ∧
      (¬ fs.Refuses p → fs.LeadsToDir p →
        ∃ texts, fs.publicFiles p = .ok texts ∧ IsListing fs p texts) := by
  refine ⟨publicFiles_same hsame p, fun h => ?_, fun h hno => ?_, fun h hdir => ?_⟩
  · rw [publicFiles_eq, pathIsDir_of_refuses h]
    rfl
  · rw [publicFiles_eq, pathIsDir_of_not_leads h hno]
    rfl
  · exact isListing_of_dir (pathIsDir_of_leads h hdir)

/-- Files at two places may be written in either order. -/
theorem same_writeFile_comm {l l' : Location} (b b' : ByteArray) (hne : l ≠ l') (hl : l ≠ [])
    (hl' : l' ≠ []) (hparent : fs.node? l.dropLast = some .dir) (hnode : fs.node? l = none)
    (hparent' : fs.node? l'.dropLast = some .dir) (hnode' : fs.node? l' = none) :
    Same ((fs.writeFile l b).writeFile l' b') ((fs.writeFile l' b').writeFile l b) := by
  have hfirst := node?_writeFile b hl hparent (by simp [hnode])
  have hfirst' := node?_writeFile b' hl' hparent' (by simp [hnode'])
  -- neither file is the directory of the other one
  have hup : l'.dropLast ≠ l := by
    rintro rfl
    rw [hparent'] at hnode
    cases hnode
  have hup' : l.dropLast ≠ l' := by
    rintro rfl
    rw [hparent] at hnode'
    cases hnode'
  have hdir : (fs.writeFile l b).node? l'.dropLast = some .dir := by
    rw [hfirst, if_neg hup, hparent']
  have hdir' : (fs.writeFile l' b').node? l.dropLast = some .dir := by
    rw [hfirst', if_neg hup', hparent]
  have hsecond := node?_writeFile b' hl' hdir (by simp [hfirst, hne.symm, hnode'])
  have hsecond' := node?_writeFile b hl hdir' (by simp [hfirst', hne, hnode])
  intro m
  rw [hsecond, hsecond', hfirst, hfirst']
  split
  · next hm => rw [hm, if_neg hne]
  · rfl

def pageIcon : List Name := [⟨"icons", by decide⟩, Declaration.iconFile]

/-- A file that is listed before what is in the directory, since its text comes first. -/
def iconPage : List Name := [⟨"icons-2.html", by decide⟩]

/-- A public directory with a file in it, one in another directory there, and one that is shown like
that one. -/
def iconDirs : FileSystem :=
  (empty.makeDirs [] (Path.ofString "/project/public/icons")).2.writeFile
    (Generate.sample.publicDir ++ [Declaration.slashFile]) .empty

def iconDisk : FileSystem :=
  (iconDirs.writeFile (Generate.sample.publicDir ++ pageIcon) .empty).writeFile
    (Generate.sample.publicDir ++ iconPage) .empty

/-- The disk with the files written in the other order. -/
def swappedDisk : FileSystem :=
  (iconDirs.writeFile (Generate.sample.publicDir ++ iconPage) .empty).writeFile
    (Generate.sample.publicDir ++ pageIcon) .empty

theorem publicFiles_complete_icons : iconDisk.LeadsToDir Generate.sample.publicDir.path ∧
    swappedDisk.publicFiles Generate.sample.publicDir.path =
      .ok ["icons-2.html", "icons/16.png", "icons/16.png"] := by
  have hsame : Same iconDisk swappedDisk := by
    apply same_writeFile_comm
    all_goals decide +kernel
  obtain ⟨heq, hrefused, hempty, hlisting⟩ :=
    publicFiles_complete hsame Generate.sample.publicDir.path
  have hopen : ¬ iconDisk.Refuses Generate.sample.publicDir.path := by
    rw [← locate_eq_nameTooLong (by decide +kernel)]
    decide +kernel
  have hdir : iconDisk.LeadsToDir Generate.sample.publicDir.path :=
    leadsToDir_of_pathIsDir (by decide +kernel)
  obtain ⟨texts, htexts, hsorted, files, hnodup, hmem, hperm⟩ := hlisting hopen hdir
  have hfits : ∀ names ∈ iconDisk.filesBelow Generate.sample.publicDir,
      fits (Generate.sample.publicDir.path.below names.dropLast) = true := by
    decide +kernel
  have hfiles : files.Perm (iconDisk.filesBelow Generate.sample.publicDir) := by
    refine (List.perm_ext_iff_of_nodup hnodup (nodup_filesBelow _ _)).mpr fun names => ?_
    rw [hmem]
    constructor
    · exact fun ⟨hne, hfile, _⟩ => mem_filesBelow.mpr ⟨hne, hfile⟩
    · intro hnames
      obtain ⟨hne, hfile⟩ := mem_filesBelow.mp hnames
      exact ⟨hne, hfile, hfits names hnames⟩
  have hlist : ((iconDisk.filesBelow Generate.sample.publicDir).map shown).Perm
      ["icons-2.html", "icons/16.png", "icons/16.png"] := by
    decide +kernel
  refine ⟨hdir, heq.trans (htexts.trans (congrArg Except.ok ?_))⟩
  exact (hperm.trans ((hfiles.map shown).trans hlist)).eq_of_pairwise' hsorted (by decide +kernel)

/-! ### A file that is left out -/

/-- A file in the public directory, with seventeen directories around it. -/
def deepFile : List Name := List.replicate 17 Declaration.wideName ++ [Declaration.iconFile]

/-- The disk that holds the file. -/
def deepProject : FileSystem := Declaration.nested (Generate.sample.publicDir ++ deepFile)

theorem not_lists_deepProject (names : List Name) :
    ¬ deepProject.Lists Generate.sample.publicDir names := by
  rintro ⟨-, hfile, hfits⟩
  have hnames := (Declaration.hasFile_nested (by simp [Generate.sample])).mp hfile
  rw [List.append_cancel_left hnames] at hfits
  -- the directories around the file have too long a path
  have hwide : ((List.replicate 17 Declaration.wideName).map fun n =>
      n.val.utf8ByteSize + 1).sum = 4301 := by
    have hsize : Declaration.wideName.val.utf8ByteSize = 252 := by decide +kernel
    rw [List.map_replicate, hsize, List.sum_replicate_nat]
  have hdirs : deepFile.dropLast = List.replicate 17 Declaration.wideName := List.dropLast_concat
  have hsum : ((Generate.sample.publicDir ++ deepFile.dropLast).map
      fun n => n.val.utf8ByteSize + 1).sum ≥ 4301 := by
    rw [hdirs, List.map_append, List.sum_append, hwide]
    exact Nat.le_add_left _ _
  rw [fits, Path.utf8ByteSize_path (by simp [Generate.sample])] at hfits
  exact absurd (of_decide_eq_true hfits) (Nat.not_lt.mpr (Nat.le_trans (by decide) hsum))

/-- A file in a directory with too long a path is not shown. -/
theorem publicFiles_omits : deepProject.LeadsToDir Generate.sample.publicDir.path ∧
    deepProject.HasFile (Generate.sample.publicDir ++ deepFile) ∧
      deepProject.publicFiles Generate.sample.publicDir.path = .ok [] := by
  have hopen : ¬ deepProject.Refused Generate.sample.publicDir := by
    rw [refused_iff_locate]
    decide +kernel
  refine ⟨leadsToDir_of_pathIsDir (by decide +kernel), ?_, ?_⟩
  · exact (Declaration.hasFile_nested (by simp [Generate.sample])).mpr rfl
  · obtain ⟨texts, htexts, hmem⟩ := (mem_publicFiles (by decide +kernel)).2 hopen
    rw [htexts]
    apply congrArg Except.ok
    apply List.eq_nil_iff_forall_not_mem.mpr
    intro text htext
    obtain ⟨names, hnames, -⟩ := (hmem text).mp htext
    exact not_lists_deepProject names hnames

end ExtTypes.FileSystem

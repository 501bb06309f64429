import ExtTypes.Proofs.Action
import ExtTypes.Proofs.FileSystem.Write
import ExtTypes.Writer
import Mathlib.Order.BooleanAlgebra.Set

/-! Writing one file after the other. Main statements: `writeEach_grows`, nothing is touched but the
files and the directories above them, `read_writeEach`, each file is there in the end unless another
one went to the same place, and `writeEach_of_isIn`, a second time nothing is written. -/
namespace ExtTypes

open FileSystem (Grows Alike IsText)
open Log (State)

theorem Log.State.Logged.read {σ τ : State} (h : State.Logged σ τ) {p : Path} {b : ByteArray}
    (hl : p.collapse [] ∉ σ.logFiles) (hb : σ.files.read [] p = .ok b) :
    τ.files.read [] p = .ok b := by
  have hgrows : Grows σ.logFiles ∅ σ.files τ.files := h.files.grows
  exact hgrows.read hl hb

namespace FileEntry

/-- The path that the text says. -/
def target (f : FileEntry) : Path := Path.ofString f.path

/-- The directory that the file goes into. -/
def folder (f : FileEntry) : Path := f.target.parent

/-- Where the file is, if its path is absolute. -/
def location (f : FileEntry) : Location := f.target.collapse []

def IsAbsolute (f : FileEntry) : Prop := f.target.isAbsolute = true

/-- The file is there with the text of the entry. -/
def IsIn (f : FileEntry) (fs : FileSystem) : Prop := fs.read [] f.target = .ok f.text.toUTF8

/-- What comes of writing the file. -/
def result (f : FileEntry) (written : Bool) : WriteResult := ⟨f.target.text, written⟩

variable {f : FileEntry} {fs : FileSystem}

theorem IsAbsolute.folder (hf : f.IsAbsolute) : f.folder.isAbsolute := hf

theorem IsAbsolute.node?_start (hf : f.IsAbsolute) (fs : FileSystem) :
    fs.node? (f.target.start []) = some .dir :=
  FileSystem.node?_start_of_isAbsolute fs hf

theorem parts_of_plain (hf : f.IsAbsolute) (hup : Part.up ∉ f.target.parts) :
    f.target.parts = f.location.map .name := by
  rw [location, Path.collapse_of_isAbsolute hf, Path.foldl_step_plain hup, List.nil_append,
    Path.map_names hup]

/-- The directories for a file are strictly above it, if its path never goes up. -/
theorem exists_below_of_mem_way (hf : f.IsAbsolute) (hup : Part.up ∉ f.target.parts)
    {l : Location} (hl : l ∈ f.folder.way) (hne : l ≠ []) : ∃ t, t ≠ [] ∧ f.location = l ++ t := by
  have hparts : f.folder.parts = f.location.dropLast.map .name := by
    rw [List.map_dropLast, ← f.parts_of_plain hf hup]
    rfl
  have hupfolder : Part.up ∉ f.folder.parts := fun h => hup (List.dropLast_subset _ h)
  obtain ⟨t, ht⟩ := (Path.mem_way_of_plain hupfolder).mp hl
  rw [hparts, Path.names_map] at ht
  -- only at the root would the directory be no further up
  have hlocne : f.location ≠ [] := by
    intro h
    rw [h] at ht
    exact hne (List.append_eq_nil_iff.mp ht).1
  refine ⟨t ++ [f.location.getLast hlocne], by simp, ?_⟩
  rw [← List.append_assoc, ht, List.dropLast_concat_getLast]

end FileEntry

namespace Writer

variable {fs fs' : FileSystem} {f : FileEntry} {files : List FileEntry} {σ τ : State}

theorem writeOne_of_error {e : Failure} (h : fs.makeDirs [] f.folder = (.error e, fs')) :
    writeOne fs f = (.error e, fs') := by
  change fs.makeDirs [] (Path.ofString f.path).parent = _ at h
  simp only [writeOne, h]

theorem writeOne_of_ok (h : fs.makeDirs [] f.folder = (.ok (), fs')) :
    writeOne fs f = ((fs'.writeIfDifferent [] f.target f.text).1.map f.result,
      (fs'.writeIfDifferent [] f.target f.text).2) := by
  change fs.makeDirs [] (Path.ofString f.path).parent = _ at h
  change _ = ((fs'.writeIfDifferent [] (Path.ofString f.path) f.text).1.map f.result, _)
  simp only [writeOne, h]
  rcases hw : fs'.writeIfDifferent [] (Path.ofString f.path) f.text with ⟨e | w, fs''⟩
  · simp only [FileEntry.target, hw, Except.map]
  · simp only [FileEntry.target, hw, Except.map, FileEntry.result]

theorem writeOne_eq_ok {r : WriteResult} (h : (writeOne fs f).1 = .ok r) :
    (fs.makeDirs [] f.folder).1 = .ok () ∧ ∃ w, r = f.result w ∧
      (fs.makeDirs [] f.folder).2.writeIfDifferent [] f.target f.text =
        (.ok w, (writeOne fs f).2) := by
  rcases hm : fs.makeDirs [] f.folder with ⟨e | u, fs'⟩
  · rw [writeOne_of_error hm] at h
    cases h
  · rw [writeOne_of_ok hm] at h ⊢
    refine ⟨rfl, ?_⟩
    rcases hw : fs'.writeIfDifferent [] f.target f.text with ⟨e | w, fs''⟩
    · rw [hw] at h
      cases h
    · rw [hw] at h
      cases h
      exact ⟨w, rfl, rfl⟩

/-- A failure leaves no more behind than directories. -/
theorem writeOne_eq_error {e : Failure} (h : (writeOne fs f).1 = .error e) :
    (writeOne fs f).2 = (fs.makeDirs [] f.folder).2 := by
  rcases hm : fs.makeDirs [] f.folder with ⟨e | u, fs'⟩
  · rw [writeOne_of_error hm]
  · rw [writeOne_of_ok hm] at h ⊢
    rcases fs'.writeIfDifferent_cases [] f.target f.text with ⟨e, he⟩ | ⟨he, -⟩ | ⟨he, -⟩
    · rw [he]
    · rw [he] at h
      cases h
    · rw [he] at h
      cases h

theorem writeOne_grows (fs : FileSystem) (hf : f.IsAbsolute) :
    Grows {f.location} f.folder.way fs (writeOne fs f).2 := by
  have hdirs : Grows {f.location} f.folder.way fs (fs.makeDirs [] f.folder).2 :=
    (FileSystem.makeDirs_grows _ hf.folder).mono (Set.empty_subset _) subset_rfl
  cases h : (writeOne fs f).1 with
  | error e => rwa [writeOne_eq_error h]
  | ok r =>
    obtain ⟨-, w, -, hw⟩ := writeOne_eq_ok h
    -- first the directories, then the file
    have hfile := FileSystem.writeIfDifferent_grows f.text
      (hf.node?_start (fs.makeDirs [] f.folder).2)
    rw [hw] at hfile
    exact hdirs.trans (hfile.mono subset_rfl (Set.empty_subset _))

/-- What is where after a file was written. -/
theorem node?_writeOne {r : WriteResult} (hf : f.IsAbsolute) (h : (writeOne fs f).1 = .ok r)
    (l : Location) : (writeOne fs f).2.node? l =
      if l = f.location then some (.file f.text.toUTF8)
      else (fs.makeDirs [] f.folder).2.node? l := by
  obtain ⟨-, w, -, hw⟩ := writeOne_eq_ok h
  have hnode := FileSystem.node?_writeIfDifferent (hf.node?_start _) (congrArg Prod.fst hw) l
  rwa [hw] at hnode

theorem isIn_writeOne {r : WriteResult} (hf : f.IsAbsolute) (h : (writeOne fs f).1 = .ok r) :
    f.IsIn (writeOne fs f).2 := by
  obtain ⟨-, w, -, hw⟩ := writeOne_eq_ok h
  have hread := FileSystem.read_writeIfDifferent (hf.node?_start _) (congrArg Prod.fst hw)
  rwa [hw] at hread

/-- A file that is there with its text is not written again. -/
theorem writeOne_of_isIn (hf : f.IsAbsolute) (h : f.IsIn fs) :
    writeOne fs f = (.ok (f.result false), fs) := by
  have hdir := FileSystem.isDir_parent_of_read hf h
  rw [writeOne_of_ok (FileSystem.makeDirs_of_isDir hdir), FileSystem.writeIfDifferent_of_read h]
  rfl

/-- A file is written only where there was none, or a text. -/
theorem isText_of_writeOne {r : WriteResult} (hf : f.IsAbsolute) (h : (writeOne fs f).1 = .ok r)
    {b : ByteArray} (hb : fs.node? f.location = some (.file b)) : IsText b := by
  obtain ⟨-, w, -, hw⟩ := writeOne_eq_ok h
  obtain ⟨-, -, -, htext⟩ := FileSystem.writeIfDifferent_ok_iff.mp ⟨w, congrArg Prod.fst hw⟩
  exact htext b ((FileSystem.makeDirs_grows _ hf.folder).file_eq hb (Set.notMem_empty _))

/-- What is written into one of two file systems that are alike is written into the other, and is
the same then, unless a file is there that holds no text. -/
theorem writeOne_alike {ls : Set Location} {r : WriteResult} (h : Alike ls ∅ fs fs')
    (hf : f.IsAbsolute) (hfolder : ∀ l ∈ f.folder.way, l ∉ ls)
    (htext : ∀ b, fs'.node? f.location = some (.file b) → IsText b)
    (hr : (writeOne fs f).1 = .ok r) :
    (∃ w, (writeOne fs' f).1 = .ok (f.result w)) ∧
      Alike (ls \ {f.location}) ∅ (writeOne fs f).2 (writeOne fs' f).2 := by
  obtain ⟨hdirs, w, -, hw⟩ := writeOne_eq_ok hr
  obtain ⟨hdirs', halike⟩ := h.makeDirs hf.folder hfolder hdirs
  -- nothing that writing depends on differs, but for the text that was there
  obtain ⟨hn, hl, hd, -⟩ := FileSystem.writeIfDifferent_ok_iff.mp ⟨w, congrArg Prod.fst hw⟩
  obtain ⟨w', hw'⟩ : ∃ w', ((fs'.makeDirs [] f.folder).2.writeIfDifferent [] f.target
      f.text).1 = .ok w' := by
    refine FileSystem.writeIfDifferent_ok_iff.mpr ⟨hn, halike.locate hl, ?_, fun b hb => ?_⟩
    · exact fun he => hd (halike.symm.dir he)
    · exact htext b ((FileSystem.makeDirs_grows _ hf.folder).file_before hb (Set.notMem_empty _))
  have hok : (writeOne fs' f).1 = .ok (f.result w') := by
    rw [writeOne_of_ok (Prod.ext hdirs' rfl), hw']
    rfl
  refine ⟨⟨w', hok⟩, fun l => ?_⟩
  rw [node?_writeOne hf hr, node?_writeOne hf hok]
  split
  · exact .inl rfl
  · next hne =>
    rcases halike l with he | ⟨hm, -⟩ | ⟨hm, hd⟩
    · exact .inl he
    · exact absurd hm (Set.notMem_empty l)
    · exact .inr (.inr ⟨⟨hm, hne⟩, hd⟩)

theorem attempt_logged (f : FileEntry) (σ : State) :
    (attempt f σ).1 = (writeOne σ.files f).1 ∧
      State.Logged { σ with files := (writeOne σ.files f).2 } (attempt f σ).2 := by
  have hchange : Action.change (fun files => writeOne files f) σ =
      ((writeOne σ.files f).1, { σ with files := (writeOne σ.files f).2 }) := rfl
  unfold attempt
  cases h : (writeOne σ.files f).1 with
  | error e =>
    rw [h] at hchange
    rw [Action.bind_of_error hchange]
    exact ⟨rfl, .refl⟩
  | ok r =>
    rw [h] at hchange
    rw [Action.bind_of_ok hchange, Action.bind_of_ok (Action.log_apply r.record)]
    exact ⟨rfl, State.record_logged _ _⟩

theorem attempt_sinks (f : FileEntry) (σ : State) : (attempt f σ).2.sinks = σ.sinks :=
  (attempt_logged f σ).2.sinks

theorem attempt_logFiles (f : FileEntry) (σ : State) : (attempt f σ).2.logFiles = σ.logFiles :=
  State.logFiles_congr (attempt_sinks f σ)

/-- What is told of a file names the path that was asked for. -/
theorem path_of_attempt {w : WriteResult} (h : (attempt f σ).1 = .ok w) :
    w.path = f.target.text := by
  rw [(attempt_logged f σ).1] at h
  obtain ⟨-, b, rfl, -⟩ := writeOne_eq_ok h
  rfl

/-- Nothing is touched but the file, the directories above it and the log file. -/
theorem attempt_grows (hf : f.IsAbsolute) (σ : State) :
    Grows ({f.location} ∪ σ.logFiles) f.folder.way σ.files (attempt f σ).2.files := by
  have hone := writeOne_grows σ.files hf
  have hlog := (attempt_logged f σ).2.files
  refine (hone.mono Set.subset_union_left subset_rfl).trans ?_
  exact hlog.grows.mono Set.subset_union_right subset_rfl

theorem isIn_attempt {r : WriteResult} (hf : f.IsAbsolute) (hlog : f.location ∉ σ.logFiles)
    (h : (attempt f σ).1 = .ok r) : f.IsIn (attempt f σ).2.files := by
  obtain ⟨hfst, hlogged⟩ := attempt_logged f σ
  exact hlogged.read hlog (isIn_writeOne hf (hfst ▸ h))

/-- Where the files go. -/
def locations (files : List FileEntry) : Set Location := {l | ∃ f ∈ files, f.location = l}

/-- The directories that are made for the files. -/
def folders (files : List FileEntry) : Set Location := {l | ∃ f ∈ files, l ∈ f.folder.way}

theorem locations_cons : locations (f :: files) = {f.location} ∪ locations files := by
  ext l
  simp [locations, eq_comm]

theorem folders_cons : folders (f :: files) = f.folder.way ∪ folders files := by
  ext l
  simp [folders]

theorem writeEach_cons (σ : State) (f : FileEntry) (files : List FileEntry) :
    writeEach σ (f :: files) = ((attempt f σ).1 :: (writeEach (attempt f σ).2 files).1,
      (writeEach (attempt f σ).2 files).2) := rfl

theorem writeEach_sinks (files : List FileEntry) (σ : State) :
    (writeEach σ files).2.sinks = σ.sinks := by
  induction files generalizing σ with
  | nil => rfl
  | cons f files ih => exact (ih (attempt f σ).2).trans (attempt_sinks f σ)

theorem writeEach_logFiles (files : List FileEntry) (σ : State) :
    (writeEach σ files).2.logFiles = σ.logFiles :=
  State.logFiles_congr (writeEach_sinks files σ)

/-- Whatever becomes of each file, nothing is touched but the files, the directories above them and
the log file. -/
theorem writeEach_grows (hf : ∀ f ∈ files, f.IsAbsolute) (σ : State) :
    Grows (locations files ∪ σ.logFiles) (folders files) σ.files (writeEach σ files).2.files := by
  induction files generalizing σ with
  | nil => exact .refl
  | cons f files ih =>
    obtain ⟨hhead, htail⟩ := List.forall_mem_cons.mp hf
    have hfirst := attempt_grows hhead σ
    have hrest := ih htail (attempt f σ).2
    rw [attempt_logFiles] at hrest
    rw [locations_cons, folders_cons]
    refine (hfirst.mono ?_ Set.subset_union_left).trans (hrest.mono ?_ Set.subset_union_right)
    · exact Set.union_subset_union_left _ Set.subset_union_left
    · exact Set.union_subset_union_left _ Set.subset_union_right

/-- After all files were written, each path leads to the text of the last one that went there. -/
theorem read_writeEach (hf : ∀ f ∈ files, f.IsAbsolute)
    (hok : ∀ r ∈ (writeEach σ files).1, ∃ w, r = .ok w) (hmem : f ∈ files)
    (hlog : f.location ∉ σ.logFiles) :
    ∃ g ∈ files, g.location = f.location ∧
      (writeEach σ files).2.files.read [] f.target = .ok g.text.toUTF8 := by
  induction files generalizing σ f with
  | nil => cases hmem
  | cons e files ih =>
    obtain ⟨hhead, htail⟩ := List.forall_mem_cons.mp hf
    rw [writeEach_cons] at hok ⊢
    obtain ⟨⟨r, hr⟩, hok⟩ := List.forall_mem_cons.mp hok
    have hlog' : f.location ∉ (attempt e σ).2.logFiles := attempt_logFiles e σ ▸ hlog
    have hrest := writeEach_grows htail (attempt e σ).2
    -- the last file that goes to a place decides
    by_cases hlater : f ∈ files
    · obtain ⟨g, hg, hloc, hread⟩ := ih htail hok hlater hlog'
      exact ⟨g, List.mem_cons_of_mem e hg, hloc, hread⟩
    · obtain rfl : f = e := (List.mem_cons.mp hmem).resolve_right hlater
      have hin := isIn_attempt hhead hlog hr
      by_cases hsame : ∃ g ∈ files, g.location = f.location
      · obtain ⟨g, hg, hloc⟩ := hsame
        obtain ⟨g', hg', hloc', hread⟩ := ih htail hok hg (hloc ▸ hlog')
        -- the path of `f` still leads to its location, where the text of `g'` is now
        obtain ⟨hn, hl, -⟩ := FileSystem.read_eq_ok.mp hin
        have hnode : (writeEach (attempt f σ).2 files).2.files.node? g.location =
            some (.file g'.text.toUTF8) := (FileSystem.read_eq_ok.mp hread).2.2
        rw [hloc] at hnode
        refine ⟨g', List.mem_cons_of_mem f hg', hloc'.trans hloc, ?_⟩
        exact FileSystem.read_eq_ok.mpr ⟨hn, hrest.locate hl, hnode⟩
      -- no later file goes there, so the text stays
      · refine ⟨f, List.mem_cons_self, rfl, hrest.read ?_ hin⟩
        rintro (⟨g, hg, hloc⟩ | hm)
        · exact hsame ⟨g, hg, hloc⟩
        · exact hlog' hm

/-- Files that are there with their texts are not written again. -/
theorem writeEach_of_isIn (hf : ∀ f ∈ files, f.IsAbsolute) (hin : ∀ f ∈ files, f.IsIn σ.files)
    (hlog : ∀ f ∈ files, f.location ∉ σ.logFiles) :
    (writeEach σ files).1 = files.map (fun f => .ok (f.result false)) ∧
      State.Logged σ (writeEach σ files).2 := by
  induction files generalizing σ with
  | nil => exact ⟨rfl, .refl⟩
  | cons f files ih =>
    obtain ⟨hhead, htail⟩ := List.forall_mem_cons.mp hf
    obtain ⟨hinf, hinrest⟩ := List.forall_mem_cons.mp hin
    obtain ⟨-, hlogrest⟩ := List.forall_mem_cons.mp hlog
    obtain ⟨hfst, hlogged⟩ := attempt_logged f σ
    -- the files that follow are there still, as only the log file has changed
    rw [writeOne_of_isIn hhead hinf] at hfst hlogged
    obtain ⟨hres, hrest⟩ := ih (σ := (attempt f σ).2) htail
      (fun g hg => hlogged.read (hlogrest g hg) (hinrest g hg))
      (fun g hg => hlogged.logFiles ▸ hlogrest g hg)
    refine ⟨?_, State.Logged.trans hlogged hrest⟩
    rw [writeEach_cons, hfst, hres, List.map_cons]

/-- A file that is written somewhere in a run is written only where there was none, or a text. -/
theorem isText_of_writeEach (hf : ∀ f ∈ files, f.IsAbsolute)
    (hok : ∀ r ∈ (writeEach σ files).1, ∃ w, r = .ok w) (hmem : f ∈ files)
    (hlog : f.location ∉ σ.logFiles) {b : ByteArray}
    (hb : σ.files.node? f.location = some (.file b)) : IsText b := by
  induction files generalizing σ with
  | nil => cases hmem
  | cons e files ih =>
    obtain ⟨hhead, htail⟩ := List.forall_mem_cons.mp hf
    rw [writeEach_cons] at hok
    obtain ⟨⟨r, hr⟩, hok⟩ := List.forall_mem_cons.mp hok
    have hone : (writeOne σ.files e).1 = .ok r := (attempt_logged e σ).1 ▸ hr
    by_cases hsame : f.location = e.location
    -- the first file that goes there meets what was there before
    · exact isText_of_writeOne hhead hone (hsame ▸ hb)
    · have hlater : f ∈ files := (List.mem_cons.mp hmem).resolve_left fun h => hsame (h ▸ rfl)
      apply ih htail hok hlater
      · rwa [attempt_logFiles]
      · refine (attempt_grows hhead σ).file_eq hb ?_
        rintro (h | h)
        · exact hsame h
        · exact hlog h

/-- What is written into one of two file systems that are alike is written into the other, and the
files are the same then, unless a file is there that holds no text. -/
theorem writeEach_alike {ls lg : Set Location} (h : Alike (ls ∪ lg) ∅ σ.files τ.files)
    (hσ : σ.logFiles ⊆ lg) (hτ : τ.logFiles ⊆ lg) (hf : ∀ f ∈ files, f.IsAbsolute)
    (hfolder : ∀ l ∈ folders files, l ∉ ls ∪ lg) (hlog : ∀ f ∈ files, f.location ∉ lg)
    (htext : ∀ l ∈ ls, l ∉ lg → ∀ b, τ.files.node? l = some (.file b) → IsText b)
    (hok : ∀ r ∈ (writeEach σ files).1, ∃ w, r = .ok w) :
    (∀ r ∈ (writeEach τ files).1, ∃ w, r = .ok w) ∧
      Alike ((ls \ locations files) ∪ lg) ∅ (writeEach σ files).2.files
        (writeEach τ files).2.files := by
  induction files generalizing σ τ ls with
  | nil =>
    have hnone : locations [] = ∅ := by simp [locations]
    exact ⟨by simp [writeEach], by rwa [hnone, Set.sdiff_empty]⟩
  | cons f files ih =>
    obtain ⟨hhead, htail⟩ := List.forall_mem_cons.mp hf
    obtain ⟨hfl, hlogtail⟩ := List.forall_mem_cons.mp hlog
    rw [folders_cons] at hfolder
    rw [writeEach_cons] at hok ⊢
    rw [writeEach_cons]
    obtain ⟨⟨r, hr⟩, hoktail⟩ := List.forall_mem_cons.mp hok
    obtain ⟨hσfst, hσlog⟩ := attempt_logged f σ
    obtain ⟨hτfst, hτlog⟩ := attempt_logged f τ
    have hone : (writeOne σ.files f).1 = .ok r := hσfst ▸ hr
    -- where the two differ this is assumed, and elsewhere the first one could write
    have htextf : ∀ b, τ.files.node? f.location = some (.file b) → IsText b := by
      intro b hb
      by_cases hin : f.location ∈ ls
      · exact htext _ hin hfl b hb
      · have hout : f.location ∉ ls ∪ lg := fun hm => hm.elim hin hfl
        exact isText_of_writeOne hhead hone ((h.file_iff hout).mp hb)
    obtain ⟨⟨w, hw⟩, halike⟩ := writeOne_alike h hhead
      (fun l hl => hfolder l (.inl hl)) htextf hone
    -- what is written is the same in both, so it leaves the set
    have hsets : (ls ∪ lg) \ {f.location} = (ls \ {f.location}) ∪ lg := by
      rw [Set.union_sdiff_distrib, Set.sdiff_singleton_eq_self hfl]
    rw [hsets] at halike
    have halike' := halike.rewrites
      (hσlog.files.mono (hσ.trans Set.subset_union_right))
      (hτlog.files.mono (hτ.trans Set.subset_union_right))
    have htext' : ∀ l ∈ ls \ {f.location}, l ∉ lg → ∀ b,
        (attempt f τ).2.files.node? l = some (.file b) → IsText b := by
      rintro l ⟨hl, hne⟩ hnot b hb
      refine htext l hl hnot b ((attempt_grows hhead τ).file_before hb ?_)
      exact fun hm => hm.elim hne fun hm => hnot (hτ hm)
    obtain ⟨hres, hfinal⟩ := ih halike' (hσlog.logFiles ▸ hσ) (hτlog.logFiles ▸ hτ) htail
      (fun l hl hm => hfolder l (.inr hl) (hm.imp_left fun hm => hm.1)) hlogtail htext' hoktail
    refine ⟨List.forall_mem_cons.mpr ⟨⟨_, hτfst.trans hw⟩, hres⟩, ?_⟩
    rwa [locations_cons, ← Set.sdiff_sdiff]

theorem collect_eq_ok {α : Type} {rs : List (Except Failure α)} {as : List α} :
    collect rs = .ok as ↔ rs = as.map .ok := by
  constructor
  · intro h
    induction rs generalizing as with
    | nil =>
      cases h
      rfl
    | cons r rs ih =>
      cases r with
      | error e => cases h
      | ok a =>
        cases hc : collect rs with
        | error e => simp [collect, hc, Except.map] at h
        | ok bs =>
          have has : a :: bs = as := by simpa [collect, hc, Except.map] using h
          rw [← has, List.map_cons, ih hc]
  · rintro rfl
    induction as with
    | nil => rfl
    | cons a as ih => rw [List.map_cons, collect, ih, Except.map]

theorem exists_map_ok {α : Type} {rs : List (Except Failure α)} (h : ∀ r ∈ rs, ∃ a, r = .ok a) :
    ∃ as : List α, rs = as.map .ok := by
  induction rs with
  | nil => exact ⟨[], rfl⟩
  | cons r rs ih =>
    obtain ⟨⟨a, rfl⟩, hrs⟩ := List.forall_mem_cons.mp h
    obtain ⟨as, rfl⟩ := ih hrs
    exact ⟨a :: as, rfl⟩

theorem find?_relative (hf : ∀ f ∈ files, f.IsAbsolute) :
    files.find? (fun f => ! (Path.ofString f.path).isAbsolute) = none := by
  apply List.find?_eq_none.mpr
  intro f hm
  have habs : (Path.ofString f.path).isAbsolute = true := hf f hm
  simp [habs]

theorem writeAll_of_isAbsolute (hf : ∀ f ∈ files, f.IsAbsolute) (σ : State) :
    writeAll files σ = (collect (writeEach σ files).1, (writeEach σ files).2) := by
  simp only [writeAll, find?_relative hf]

/-- The results stand in the order of the files. -/
theorem map_path_of_writeEach {ws : List WriteResult} (h : (writeEach σ files).1 = ws.map .ok) :
    ws.map WriteResult.path = files.map fun f => f.target.text := by
  induction files generalizing σ ws with
  | nil =>
    cases ws with
    | nil => rfl
    | cons w ws => cases h
  | cons f files ih =>
    cases ws with
    | nil => cases h
    | cons w ws =>
      rw [writeEach_cons, List.map_cons] at h
      obtain ⟨hfirst, hrest⟩ := List.cons.inj h
      rw [List.map_cons, List.map_cons, ih hrest, path_of_attempt hfirst]

end Writer

end ExtTypes

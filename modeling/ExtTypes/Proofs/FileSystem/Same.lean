import ExtTypes.Proofs.Action
import ExtTypes.Proofs.FileSystem.Walk

/-! The order in which directories are listed. Nothing that is found at a path depends on it, and
neither does the way to that path, which only directories decide on. Main statements:
`Rewrites.pathIsDir`, `Same.find` and `Same.readText`. -/
namespace ExtTypes

namespace FileSystem

variable {files : Set Location} {fs fs' : FileSystem}

/-! ### Other bytes -/

theorem Rewrites.route (h : Rewrites files fs fs') (l : Location) (ps : List Part) :
    fs'.route l ps = fs.route l ps := by
  induction ps generalizing l with
  | nil => rfl
  | cons p ps ih =>
    rw [FileSystem.route, FileSystem.route, ih]
    -- a file with other bytes is in the way as it was before
    rcases h l with he | ⟨-, ⟨b, hb⟩, c, hc⟩
    · rw [he]
    · rw [hb, hc]

theorem Rewrites.locate (h : Rewrites files fs fs') (cwd : Location) (p : Path) :
    fs'.locate cwd p = fs.locate cwd p := by
  rw [locate_eq, locate_eq, h.route]

theorem Rewrites.pathIsDir (h : Rewrites files fs fs') (cwd : Location) (p : Path) :
    fs'.pathIsDir cwd p = fs.pathIsDir cwd p := by
  unfold FileSystem.pathIsDir FileSystem.find
  rw [h.locate]
  cases hasNul p with
  | true => rfl
  | false =>
    cases fs.locate cwd p with
    | error c => cases c <;> rfl
    | ok l =>
      have hdir : decide (fs'.node? l = some .dir) = decide (fs.node? l = some .dir) :=
        decide_eq_decide.mpr h.dir_iff
      exact congrArg Except.ok hdir

theorem Rewrites.dirAt? (h : Rewrites files fs fs') (cwd : Location) (p : Path) :
    fs'.dirAt? cwd p = fs.dirAt? cwd p := by
  rw [dirAt?_eq, dirAt?_eq, h.pathIsDir]

theorem Rewrites.hasFile_iff (h : Rewrites files fs fs') (l : Location) :
    fs'.HasFile l ↔ fs.HasFile l := by
  unfold HasFile
  rcases h l with he | ⟨-, hb, hc⟩
  · rw [he]
  · exact iff_of_true hc hb

theorem Rewrites.sourceFiles (h : Rewrites files fs fs') (l : Location) :
    fs'.sourceFiles l = fs.sourceFiles l :=
  sourceFiles_congr fun r _ => h.hasFile_iff (l ++ r)

/-! ### Another order -/

/-- The same stands at the same places, though it may be listed in another order. -/
def Same (fs fs' : FileSystem) : Prop := ∀ l, fs'.node? l = fs.node? l

theorem Same.rewrites (h : Same fs fs') : Rewrites files fs fs' := fun l => .inl (h l)

theorem Same.locate (h : Same fs fs') (cwd : Location) (p : Path) :
    fs'.locate cwd p = fs.locate cwd p := by
  have hrewrites : Rewrites ∅ fs fs' := h.rewrites
  exact hrewrites.locate cwd p

theorem Same.find (h : Same fs fs') (cwd : Location) (p : Path) :
    fs'.find cwd p = fs.find cwd p := by
  unfold FileSystem.find
  rw [h.locate]
  cases fs.locate cwd p with
  | error c => cases c <;> rfl
  | ok l =>
    dsimp only
    rw [h l]

theorem Same.read (h : Same fs fs') (cwd : Location) (p : Path) :
    fs'.read cwd p = fs.read cwd p := by
  unfold FileSystem.read
  rw [h.locate]
  cases fs.locate cwd p with
  | error c => cases c <;> rfl
  | ok l =>
    dsimp only
    rw [h l]

theorem Same.readText (h : Same fs fs') (cwd : Location) (p : Path) :
    fs'.readText cwd p = fs.readText cwd p := by
  unfold FileSystem.readText
  rw [h.read]

/-- The names in a directory are the same, though in another order. -/
theorem Same.children_perm (h : Same fs fs') (l : Location) :
    (fs'.children l).Perm (fs.children l) := by
  apply (List.perm_ext_iff_of_nodup (nodup_children fs' l) (nodup_children fs l)).mpr
  intro n
  rw [mem_children, mem_children, h]

/-- A walk that gets into every directory gets into the same ones. -/
theorem Same.sourcePaths (h : Same fs fs') {p : Path} {l : Location} {ps : List Path}
    (hps : fs.sourcePaths p l = .ok ps) : fs'.sourcePaths p l = .ok ps := by
  obtain ⟨hdir, hfits, rfl⟩ := sourcePaths_eq_ok.mp hps
  apply sourcePaths_eq_ok.mpr
  refine ⟨(h l).trans hdir, ?_, ?_⟩
  · intro d hd hforeign
    apply hfits d _ hforeign
    rw [mem_dirsBelow] at hd ⊢
    rwa [h] at hd
  · have hrewrites : Rewrites ∅ fs fs' := h.rewrites
    rw [hrewrites.sourceFiles]

/-- More text is put at the end of the same file. -/
theorem Same.appendText (h : Same fs fs') (l : Location) (text : String) :
    Same (Log.State.appendText fs l text) (Log.State.appendText fs' l text) := by
  intro l'
  match hn : fs.node? l with
  | some (.file b) =>
    rw [Log.State.node?_appendText hn, Log.State.node?_appendText ((h l).trans hn), h]
  | none | some .dir =>
    rw [Log.State.appendText, Log.State.appendText, h l, hn]
    exact h l'

end FileSystem

namespace Log.State

variable {σ τ : State}

/-- The same has been set up, and the files are the same, though listed in another order. -/
structure Same (σ τ : State) : Prop where
  sinks : τ.sinks = σ.sinks
  stamp : τ.stamp = σ.stamp
  files : FileSystem.Same σ.files τ.files

theorem Same.handle (h : Same σ τ) (r : Record) (d : Handler) :
    Same (State.handle r σ d) (State.handle r τ d) := by
  unfold State.handle
  split
  · split
    · exact ⟨h.sinks, h.stamp, h.files⟩
    · refine ⟨h.sinks, h.stamp, ?_⟩
      dsimp only
      rw [h.stamp]
      exact h.files.appendText _ _
  · exact h

theorem Same.foldl_handle (h : Same σ τ) (r : Record) (hs : List Handler) :
    Same (hs.foldl (State.handle r) σ) (hs.foldl (State.handle r) τ) := by
  induction hs generalizing σ τ with
  | nil => exact h
  | cons d hs ih => exact ih (h.handle r d)

theorem Same.record (h : Same σ τ) (r : Record) : Same (σ.record r) (τ.record r) := by
  unfold State.record
  rw [h.sinks]
  split
  · exact h.foldl_handle r _
  · exact h

end Log.State

end ExtTypes

import ExtTypes.Proofs.FileSystem.Refusal
import ExtTypes.Proofs.Writer
import Mathlib.Data.List.Pairwise
import Mathlib.Data.Set.Subsingleton

/-! Files that are written in another order. Each call does what it does alone, if no file is on the way
to another one: `writeOne_unaffected` for one call, `joint_writeEach` for all of them. Main statement:
`writeEach_perm`. -/
namespace ExtTypes

open FileSystem (Grows Rewrites SameFiles IsShort)
open Log (State)

/-- The outcomes are the same, but for which of these paths is said to hold too long a name. -/
def Agree {α : Type} (ts : Set String) (x y : Except Failure α) : Prop :=
  x = y ∨ ∃ s ∈ ts, ∃ t ∈ ts,
    x = .error (.disk .nameTooLong s) ∧ y = .error (.disk .nameTooLong t)

namespace Agree

variable {α β : Type} {ts ts' : Set String} {x y z : Except Failure α}

theorem refl (x : Except Failure α) : Agree ts x x := .inl rfl

theorem symm (h : Agree ts x y) : Agree ts y x := by
  rcases h with rfl | ⟨s, hs, t, ht, hx, hy⟩
  · exact .refl x
  · exact .inr ⟨t, ht, s, hs, hy, hx⟩

theorem trans (h₁ : Agree ts x y) (h₂ : Agree ts y z) : Agree ts x z := by
  rcases h₁ with rfl | ⟨s, hs, t, ht, hx, hy⟩
  · exact h₂
  · rcases h₂ with rfl | ⟨s', hs', t', ht', hy', hz⟩
    · exact .inr ⟨s, hs, t, ht, hx, hy⟩
    · exact .inr ⟨s, hs, t', ht', hx, hz⟩

theorem mono (h : Agree ts x y) (hsub : ts ⊆ ts') : Agree ts' x y := by
  rcases h with rfl | ⟨s, hs, t, ht, hxy⟩
  · exact .refl x
  · exact .inr ⟨s, hsub hs, t, hsub ht, hxy⟩

theorem map (f : α → β) (h : Agree ts x y) : Agree ts (x.map f) (y.map f) := by
  rcases h with rfl | ⟨s, hs, t, ht, rfl, rfl⟩
  · exact .refl _
  · exact .inr ⟨s, hs, t, ht, rfl, rfl⟩

theorem eq_ok {a : α} (h : Agree ts (.ok a) y) : y = .ok a := by
  rcases h with h | ⟨s, -, t, -, h, -⟩
  · exact h.symm
  · cases h

/-- Of no more than one path, nothing else can be said. -/
theorem eq_of_subsingleton (h : Agree ts x y) (hts : ts.Subsingleton) : x = y := by
  rcases h with rfl | ⟨s, hs, t, ht, rfl, rfl⟩
  · rfl
  · rw [hts hs ht]

end Agree

namespace FileEntry

/-- The path is absolute and never goes up. -/
structure IsPlain (f : FileEntry) : Prop where
  isAbsolute : f.IsAbsolute
  notUp : Part.up ∉ f.target.parts

instance (f : FileEntry) : Decidable f.IsPlain :=
  decidable_of_iff (f.target.isAbsolute = true ∧ Part.up ∉ f.target.parts)
    ⟨fun h => ⟨h.1, h.2⟩, fun h => ⟨h.1, h.2⟩⟩

/-- Neither file is the other one, or on the way to it. -/
def Apart (f g : FileEntry) : Prop := ¬ f.location <+: g.location ∧ ¬ g.location <+: f.location

instance (f g : FileEntry) : Decidable (f.Apart g) := inferInstanceAs (Decidable (_ ∧ _))

/-- The paths of directories above a file, as far as they hold a name that is too long. -/
def longDirs (f : FileEntry) : Set String :=
  {t | ∃ l, l <+: f.location.dropLast ∧ (∃ n ∈ l, ¬ IsShort n) ∧
    t = (f.target.anchor.pathTo l).text}

variable {f g : FileEntry}

theorem Apart.symm (h : f.Apart g) : g.Apart f := ⟨h.2, h.1⟩

theorem Apart.ne (h : f.Apart g) : f ≠ g := by
  rintro rfl
  exact h.1 List.prefix_rfl

instance : Std.Symm Apart := ⟨fun _ _ => Apart.symm⟩

theorem folder_eq (hf : f.IsPlain) : f.folder = f.target.anchor.pathTo f.location.dropLast := by
  have hparts := f.parts_of_plain hf.isAbsolute hf.notUp
  show (⟨f.target.anchor, f.target.parts.dropLast⟩ : Path) = ⟨_, f.location.dropLast.map .name⟩
  rw [hparts, List.map_dropLast]

theorem anchor_ne_relative (hf : f.IsPlain) : f.target.anchor ≠ .relative := by
  simpa [IsAbsolute, Path.isAbsolute] using hf.isAbsolute

theorem mem_way_folder (hf : f.IsPlain) {l : Location} :
    l ∈ f.folder.way ↔ l <+: f.location.dropLast := by
  rw [folder_eq hf, FileSystem.mem_way_pathTo]

/-- Where only the last name can be too long, there is no more than one such path. -/
theorem longDirs_subsingleton (h : ∀ n ∈ f.location.dropLast.dropLast, IsShort n) :
    f.longDirs.Subsingleton := by
  have hwhole {l : Location} (hl : l <+: f.location.dropLast) (hn : ∃ n ∈ l, ¬ IsShort n) :
      l = f.location.dropLast := by
    obtain ⟨n, hn, hlong⟩ := hn
    obtain ⟨r, hr⟩ := hl
    by_contra hne
    have hrne : r ≠ [] := by
      rintro rfl
      exact hne (by rw [← hr, List.append_nil])
    rw [← hr, List.dropLast_append_of_ne_nil hrne] at h
    exact hlong (h n (List.mem_append_left _ hn))
  rintro t ⟨l, hl, hn, rfl⟩ t' ⟨l', hl', hn', rfl⟩
  rw [hwhole hl hn, hwhole hl' hn']

end FileEntry

namespace Writer

variable {fs fs' : FileSystem} {f g : FileEntry} {files done : List FileEntry} {logs : Set Location}
  {σ τ φ : State}

/-- What writing the file changes. -/
def laid (fs : FileSystem) (f : FileEntry) (l : Location) : Option Node :=
  if (writeOne fs f).2.node? l = fs.node? l then none else (writeOne fs f).2.node? l

theorem laid_eq_some {l : Location} {k : Node} (hf : f.IsPlain) (h : laid fs f l = some k) :
    (l <+: f.location.dropLast ∧ fs.node? l = none ∧ k = .dir) ∨
      (l = f.location ∧ ∃ b, k = .file b) := by
  unfold laid at h
  split at h
  · cases h
  · next hne =>
    rcases writeOne_grows fs hf.isAbsolute l with he | ⟨hl, hn, hd⟩ | ⟨hl, -, b, hb⟩
    · exact absurd he hne
    · rw [hd] at h
      exact .inl ⟨(FileEntry.mem_way_folder hf).mp hl, hn, (Option.some.inj h).symm⟩
    · rw [hb] at h
      exact .inr ⟨hl, b, (Option.some.inj h).symm⟩

/-- What the file depends on is in `fs'` as in `fs`, but for directories that are already there. -/
structure Unaffected (f : FileEntry) (fs fs' : FileSystem) : Prop where
  own : fs'.node? f.location = fs.node? f.location
  files : SameFiles f.location.dropLast fs fs'
  dirs : ∀ l, l <+: f.location.dropLast → fs.node? l = some .dir → fs'.node? l = some .dir

theorem Unaffected.refl : Unaffected f fs fs := ⟨rfl, .refl _ _, fun _ _ h => h⟩

/-- What is put at some places, if it changes `fs`, is all that is new in `fs'` too. -/
theorem Unaffected.or_laid (h : Unaffected f fs fs') {put : Location → Option Node}
    (hput : ∀ l, (writeOne fs f).2.node? l = (put l).or (fs.node? l))
    (hdirs : ∀ l k, put l = some k → l = f.location ∨ l <+: f.location.dropLast ∧ k = .dir)
    (l : Location) : (laid fs f l).or (fs'.node? l) = (put l).or (fs'.node? l) := by
  unfold laid
  rw [hput l]
  cases hl : put l with
  | none => simp
  | some k =>
    by_cases hk : k = fs.node? l
    · rw [if_pos (by simpa using hk)]
      rcases hdirs l k hl with rfl | ⟨hway, rfl⟩
      · simpa [h.own] using hk.symm
      · simpa using h.dirs l hway hk.symm
    · rw [if_neg (by simpa using hk)]
      simp

/-- The directories above a location, itself included. -/
def dirsTo (l q : Location) : Option Node := if q <+: l then some .dir else none

theorem or_dirsTo (fs : FileSystem) (l q : Location) :
    (dirsTo l q).or (fs.node? q) = if q <+: l then some .dir else fs.node? q := by
  unfold dirsTo
  split <;> rfl

theorem prefix_of_dirsTo {l q : Location} {k : Node} (h : dirsTo l q = some k) :
    q <+: l ∧ k = .dir := by
  unfold dirsTo at h
  split at h
  · next hl => exact ⟨hl, (Option.some.inj h).symm⟩
  · cases h

/-- The file, and the directories above it. -/
def fileTo (f : FileEntry) (q : Location) : Option Node :=
  if q = f.location then some (.file f.text.toUTF8) else dirsTo f.location.dropLast q

theorem or_fileTo (fs : FileSystem) (f : FileEntry) (q : Location) :
    (fileTo f q).or (fs.node? q) = if q = f.location then some (.file f.text.toUTF8)
      else if q <+: f.location.dropLast then some .dir else fs.node? q := by
  unfold fileTo
  split
  · rfl
  · exact or_dirsTo fs f.location.dropLast q

/-- Below a directory that is there, the outcome hangs on what is at the place of the file. -/
theorem writeOne_fst_congr (hf : f.IsPlain) (h : Unaffected f fs fs')
    (hok : (fs.makeDirs [] f.folder).1 = .ok ()) (hok' : (fs'.makeDirs [] f.folder).1 = .ok ())
    (hnode : ∀ q, (fs.makeDirs [] f.folder).2.node? q =
      if q <+: f.location.dropLast then some .dir else fs.node? q)
    (hnode' : ∀ q, (fs'.makeDirs [] f.folder).2.node? q =
      if q <+: f.location.dropLast then some .dir else fs'.node? q) :
    (writeOne fs' f).1 = (writeOne fs f).1 := by
  have hlocate : (fs'.makeDirs [] f.folder).2.locate [] f.target =
      (fs.makeDirs [] f.folder).2.locate [] f.target := by
    have hroute : (fs'.makeDirs [] f.folder).2.route [] (f.location.map .name) =
        (fs.makeDirs [] f.folder).2.route [] (f.location.map .name) := by
      apply FileSystem.route_congr
      intro r n r' hr
      have hway : r <+: f.location.dropLast := by
        rw [hr, List.dropLast_append_of_ne_nil (List.cons_ne_nil n r')]
        exact List.prefix_append r _
      rw [List.nil_append, hnode, hnode', if_pos hway, if_pos hway]
    rw [FileSystem.locate_eq, FileSystem.locate_eq, Path.start, ite_self,
      f.parts_of_plain hf.isAbsolute hf.notUp, hroute]
  have hown : (fs'.makeDirs [] f.folder).2.node? (f.target.collapse []) =
      (fs.makeDirs [] f.folder).2.node? (f.target.collapse []) := by
    have hnodes := h.own
    rw [hnode, hnode']
    split
    · rfl
    · exact hnodes
  rw [writeOne_of_ok (Prod.ext hok rfl), writeOne_of_ok (Prod.ext hok' rfl),
    FileSystem.writeIfDifferent_congr f.text hlocate hown]

/-- The outcome is the one in `fs`, and so is what is put where. -/
theorem writeOne_put (hf : f.IsPlain) (h : Unaffected f fs fs') :
    Agree f.longDirs (writeOne fs f).1 (writeOne fs' f).1 ∧ ∃ put : Location → Option Node,
      (∀ l k, put l = some k → l = f.location ∨ l <+: f.location.dropLast ∧ k = .dir) ∧
      (∀ l, (writeOne fs f).2.node? l = (put l).or (fs.node? l)) ∧
      ∀ l, (writeOne fs' f).2.node? l = (put l).or (fs'.node? l) := by
  have hsame : SameFiles f.location.dropLast fs fs := .refl _ _
  have hdirsTo {r : Location} (hr : r <+: f.location.dropLast) (l : Location) (k : Node)
      (hk : dirsTo r l = some k) : l = f.location ∨ l <+: f.location.dropLast ∧ k = .dir := by
    obtain ⟨hl, hdir⟩ := prefix_of_dirsTo hk
    exact .inr ⟨hl.trans hr, hdir⟩
  rcases FileSystem.makeDirs_cases (FileEntry.anchor_ne_relative hf) fs f.location.dropLast with
    ⟨e, hall⟩ | hall | ⟨r, n, t, hway, hn, hall⟩
  all_goals rw [← FileEntry.folder_eq hf] at hall
  -- the directory is refused in both
  · rw [writeOne_of_error (hall fs hsame), writeOne_of_error (hall fs' h.files)]
    exact ⟨.refl _, fun _ => none, by simp, by simp, by simp⟩
  -- it is made in both
  · obtain ⟨hok, hnode⟩ := hall fs hsame
    obtain ⟨hok', hnode'⟩ := hall fs' h.files
    have hfst := writeOne_fst_congr hf h hok hok' hnode hnode'
    refine ⟨.inl hfst.symm, ?_⟩
    cases hx : (writeOne fs f).1 with
    | error e =>
      rw [hx] at hfst
      refine ⟨dirsTo f.location.dropLast, hdirsTo List.prefix_rfl, fun l => ?_, fun l => ?_⟩
      · rw [writeOne_eq_error hx, hnode, or_dirsTo]
      · rw [writeOne_eq_error hfst, hnode', or_dirsTo]
    | ok w =>
      rw [hx] at hfst
      refine ⟨fileTo f, fun l k hk => ?_, fun l => ?_, fun l => ?_⟩
      · unfold fileTo at hk
        split at hk
        · next hl => exact .inl hl
        · exact hdirsTo List.prefix_rfl l k hk
      · rw [node?_writeOne hf.isAbsolute hx, hnode, or_fileTo]
      · rw [node?_writeOne hf.isAbsolute hfst, hnode', or_fileTo]
  -- a name is too long, and what is above it is made in both
  · obtain ⟨⟨u, hu, herror⟩, hnode⟩ := hall fs hsame
    obtain ⟨⟨u', hu', herror'⟩, hnode'⟩ := hall fs' h.files
    have hlong {v : Location} (hv : v <+: t) :
        (f.target.anchor.pathTo (r ++ n :: v)).text ∈ f.longDirs := by
      refine ⟨r ++ n :: v, ?_, ⟨n, by simp, hn⟩, rfl⟩
      rw [hway]
      exact (List.prefix_append_right_inj r).mpr (List.cons_prefix_cons.mpr ⟨rfl, hv⟩)
    rw [writeOne_of_error (Prod.ext herror rfl), writeOne_of_error (Prod.ext herror' rfl)]
    refine ⟨.inr ⟨_, hlong hu, _, hlong hu', rfl, rfl⟩, dirsTo r, hdirsTo ?_, fun l => ?_,
      fun l => ?_⟩
    · rw [hway]
      exact List.prefix_append r _
    · rw [hnode, or_dirsTo]
    · rw [hnode', or_dirsTo]

/-- A file that is not affected by what else was written is written as it is alone. -/
theorem writeOne_unaffected (hf : f.IsPlain) (h : Unaffected f fs fs') :
    Agree f.longDirs (writeOne fs f).1 (writeOne fs' f).1 ∧
      ∀ l, (writeOne fs' f).2.node? l = (laid fs f l).or (fs'.node? l) := by
  obtain ⟨hagree, put, hdirs, hput, hput'⟩ := writeOne_put hf h
  refine ⟨hagree, fun l => ?_⟩
  rw [h.or_laid hput hdirs, hput']

/-- None of the files is in the way of another one, or in the way of the log. -/
structure Independent (logs : Set Location) (files : List FileEntry) : Prop where
  plain : ∀ f ∈ files, f.IsPlain
  apart : files.Pairwise FileEntry.Apart
  unlogged : ∀ f ∈ files, f.location ∉ logs

theorem Independent.perm (h : Independent logs files) (hperm : done.Perm files) :
    Independent logs done where
  plain f hf := h.plain f (hperm.mem_iff.mp hf)
  apart := (hperm.pairwise_iff FileEntry.Apart.symm).mpr h.apart
  unlogged f hf := h.unlogged f (hperm.mem_iff.mp hf)

theorem Independent.sublist (h : Independent logs files) (hsub : done.Sublist files) :
    Independent logs done where
  plain f hf := h.plain f (hsub.subset hf)
  apart := h.apart.sublist hsub
  unlogged f hf := h.unlogged f (hsub.subset hf)

/-- In `fs'` is what was in `fs`, and what each of the files changes when it is written alone. Only a
log file can be another one. -/
def Joint (logs : Set Location) (fs : FileSystem) (done : List FileEntry) (fs' : FileSystem) : Prop :=
  ∀ l, fs'.node? l = (done.findSome? fun f => laid fs f l).or (fs.node? l) ∨
    (l ∈ logs ∧ (∃ b, fs.node? l = some (.file b)) ∧ ∃ b, fs'.node? l = some (.file b))

/-- On the way to a file, the others change no more than that directories are new. -/
theorem findSome?_laid (h : Independent logs (f :: done)) {l : Location} (hl : l <+: f.location) :
    (done.findSome? fun g => laid fs g l) = none ∨ l ≠ f.location ∧ fs.node? l = none ∧
      (done.findSome? fun g => laid fs g l) = some .dir := by
  cases hfind : done.findSome? fun g => laid fs g l with
  | none => exact .inl rfl
  | some k =>
    obtain ⟨g, hg, hk⟩ := List.exists_of_findSome?_eq_some hfind
    obtain ⟨hfg, hgf⟩ := (List.pairwise_cons.mp h.apart).1 g hg
    rcases laid_eq_some (h.plain g (List.mem_cons_of_mem f hg)) hk with ⟨hway, hn, rfl⟩ | ⟨rfl, -⟩
    · refine .inr ⟨?_, hn, rfl⟩
      rintro rfl
      exact hfg (hway.trans (List.dropLast_prefix _))
    · exact absurd hl hgf

theorem Joint.unaffected (hjoint : Joint logs fs done fs') (h : Independent logs (f :: done)) :
    Unaffected f fs fs' := by
  have hway {l : Location} (hl : l <+: f.location.dropLast) : l <+: f.location :=
    hl.trans (List.dropLast_prefix _)
  constructor
  case own =>
    rcases hjoint f.location with he | ⟨hm, -⟩
    · rcases findSome?_laid h List.prefix_rfl with hnone | ⟨hne, -⟩
      · rw [he, hnone, Option.none_or]
      · exact absurd rfl hne
    · exact absurd hm (h.unlogged f List.mem_cons_self)
  case files =>
    intro l hl
    rcases hjoint l with he | ⟨-, hb, hb'⟩
    · rcases findSome?_laid h (hway hl) with hnone | ⟨-, hn, hdir⟩
      · rw [he, hnone, Option.none_or]
      · rw [he, hdir, hn]
        simp
    · exact ⟨fun _ => hb, fun _ => hb'⟩
  case dirs =>
    intro l hl hd
    rcases hjoint l with he | ⟨-, ⟨b, hb⟩, -⟩
    · rcases findSome?_laid h (hway hl) with hnone | ⟨-, -, hdir⟩
      · rw [he, hnone, Option.none_or, hd]
      · rw [he, hdir, Option.some_or]
    · simp [hb] at hd

/-- One more file is written as it is alone. -/
theorem Joint.attempt (hjoint : Joint logs fs done φ.files) (hφ : φ.logFiles = logs)
    (h : Independent logs (f :: done)) :
    Agree f.longDirs (writeOne fs f).1 (attempt f φ).1 ∧
      Joint logs fs (f :: done) (attempt f φ).2.files := by
  obtain ⟨hfst, hlogged⟩ := attempt_logged f φ
  obtain ⟨hagree, hnode⟩ :=
    writeOne_unaffected (h.plain f List.mem_cons_self) (hjoint.unaffected h)
  rw [hfst]
  refine ⟨hagree, fun l => ?_⟩
  have hcons : ((f :: done).findSome? fun g => laid fs g l) =
      (laid fs f l).or (done.findSome? fun g => laid fs g l) := by
    rw [List.findSome?_cons]
    cases laid fs f l <;> rfl
  -- at the place of a log file nothing is put
  have hlog (hl : l ∈ logs) {b : ByteArray} :
      ((f :: done).findSome? fun g => laid fs g l) ≠ some (.file b) := by
    intro hfind
    obtain ⟨g, hg, hk⟩ := List.exists_of_findSome?_eq_some hfind
    rcases laid_eq_some (h.plain g hg) hk with ⟨-, -, hk⟩ | ⟨rfl, -⟩
    · cases hk
    · exact h.unlogged g hg hl
  have hfiles : Rewrites logs (writeOne φ.files f).2 (Writer.attempt f φ).2.files := hφ ▸ hlogged.files
  rcases hjoint l with he | ⟨hl, ⟨b, hb⟩, hb'⟩
  · have hall : (writeOne φ.files f).2.node? l =
        ((f :: done).findSome? fun g => laid fs g l).or (fs.node? l) := by
      rw [hnode, he, hcons, Option.or_assoc]
    rcases hfiles l with he' | ⟨hl, ⟨b, hb⟩, hb'⟩
    · exact .inl (he'.trans hall)
    · refine .inr ⟨hl, ⟨b, ?_⟩, hb'⟩
      rw [hall] at hb
      exact (Option.or_eq_some_iff.mp hb).elim (fun hk => absurd hk (hlog hl)) And.right
  · refine .inr ⟨hl, ⟨b, hb⟩, ?_⟩
    have hnone : laid fs f l = none := by
      apply Option.eq_none_iff_forall_ne_some.mpr
      intro k hk
      rcases laid_eq_some (h.plain f List.mem_cons_self) hk with ⟨-, hn, -⟩ | ⟨rfl, -⟩
      · simp [hn] at hb
      · exact h.unlogged f List.mem_cons_self hl
    rcases hfiles l with he | ⟨-, -, hb⟩
    · rw [he, hnode, hnone, Option.none_or]
      exact hb'
    · exact hb

/-- So are all files, in whatever order. -/
theorem joint_writeEach {order : List FileEntry} (hjoint : Joint logs fs done φ.files)
    (hφ : φ.logFiles = logs) (h : Independent logs (order ++ done)) :
    (∀ f x, (f, x) ∈ order.zip (writeEach φ order).1 → Agree f.longDirs (writeOne fs f).1 x) ∧
      Joint logs fs (order.reverse ++ done) (writeEach φ order).2.files := by
  induction order generalizing done φ with
  | nil => exact ⟨by simp, hjoint⟩
  | cons f order ih =>
    have hfirst : Independent logs (f :: done) :=
      h.sublist (List.Sublist.cons_cons f (List.sublist_append_right order done))
    have hrest : Independent logs (order ++ f :: done) := h.perm List.perm_middle
    obtain ⟨hagree, hnext⟩ := hjoint.attempt hφ hfirst
    have hφ' : (attempt f φ).2.logFiles = logs := (attempt_logFiles f φ).trans hφ
    obtain ⟨hothers, hend⟩ := ih hnext hφ' hrest
    rw [writeEach_cons]
    constructor
    · intro g x hgx
      rw [List.zip_cons_cons, List.mem_cons] at hgx
      rcases hgx with he | hgx
      · cases he
        exact hagree
      · exact hothers g x hgx
    · rw [List.reverse_cons, List.append_assoc]
      exact hend

/-- What the files change is the same in any order. -/
theorem findSome?_laid_perm (fs : FileSystem) {order : List FileEntry} (h : Independent logs files)
    (hperm : order.Perm files) (l : Location) :
    (order.findSome? fun f => laid fs f l) = files.findSome? fun f => laid fs f l := by
  -- two files that change the same place are on the way to other places there
  have hsame {f g : FileEntry} (hf : f ∈ files) (hg : g ∈ files) {k k' : Node}
      (hk : laid fs f l = some k) (hk' : laid fs g l = some k') : k = k' := by
    by_cases hfg : f = g
    · rw [hfg, hk'] at hk
      exact (Option.some.inj hk).symm
    · have happ : f.Apart g := h.apart.forall hf hg hfg
      have hway {e : FileEntry} (hl : l <+: e.location.dropLast) : l <+: e.location :=
        hl.trans (List.dropLast_prefix _)
      rcases laid_eq_some (h.plain f hf) hk with ⟨hl, -, rfl⟩ | ⟨rfl, -⟩
      · rcases laid_eq_some (h.plain g hg) hk' with ⟨-, -, rfl⟩ | ⟨rfl, -⟩
        · rfl
        · exact absurd (hway hl) happ.2
      · rcases laid_eq_some (h.plain g hg) hk' with ⟨hl, -, rfl⟩ | ⟨he, -⟩
        · exact absurd (hway hl) happ.1
        · exact absurd (he ▸ List.prefix_rfl) happ.1
  cases hfind : files.findSome? fun f => laid fs f l with
  | none =>
    rw [List.findSome?_eq_none_iff] at hfind ⊢
    exact fun f hf => hfind f (hperm.mem_iff.mp hf)
  | some k =>
    obtain ⟨g, hg, hk⟩ := List.exists_of_findSome?_eq_some hfind
    cases hfind' : order.findSome? fun f => laid fs f l with
    | none =>
      rw [List.findSome?_eq_none_iff] at hfind'
      rw [hfind' g (hperm.mem_iff.mpr hg)] at hk
      cases hk
    | some k' =>
      obtain ⟨g', hg', hk'⟩ := List.exists_of_findSome?_eq_some hfind'
      rw [hsame (hperm.mem_iff.mp hg') hg hk' hk]

/-- What becomes of each file if they are written in this order. -/
def outcomes (order : List FileEntry) (σ : State) : List (FileEntry × Except Failure WriteResult) :=
  order.zip (writeEach σ order).1

/-- Writes all files as a pool does that carries the calls out in this order: what becomes of them is
told in the order of the files. -/
def writeAllIn (order files : List FileEntry) : Action (List WriteResult) := fun σ =>
  match files.find? fun f => ! (Path.ofString f.path).isAbsolute with
  | some f => (.error (.value (.relativeEntry f.path)), σ)
  | none => (collect (files.filterMap fun f => (outcomes order σ).lookup f), (writeEach σ order).2)

theorem length_writeEach (files : List FileEntry) (σ : State) :
    (writeEach σ files).1.length = files.length := by
  induction files generalizing σ with
  | nil => rfl
  | cons f files ih => rw [writeEach_cons, List.length_cons, ih, List.length_cons]

theorem exists_lookup_zip {order : List FileEntry} {rs : List (Except Failure WriteResult)}
    (hlen : rs.length = order.length) (hf : f ∈ order) :
    ∃ x, (order.zip rs).lookup f = some x ∧ (f, x) ∈ order.zip rs := by
  induction order generalizing rs with
  | nil => cases hf
  | cons g order ih =>
    obtain ⟨r, rs, rfl⟩ := List.exists_cons_of_length_eq_add_one hlen
    rw [List.zip_cons_cons, List.lookup_cons]
    by_cases hg : f = g
    · subst hg
      exact ⟨r, by simp, List.mem_cons_self⟩
    · have hmem : f ∈ order := (List.mem_cons.mp hf).resolve_left hg
      obtain ⟨x, hx, hin⟩ := ih (by simpa using hlen) hmem
      refine ⟨x, ?_, List.mem_cons_of_mem _ hin⟩
      have hbeq : (f == g) = false := by simpa using hg
      rw [hbeq]
      exact hx

/-- Results that agree one by one agree as a whole. -/
theorem agree_collect {ts : Set String} {rs : List (Except Failure WriteResult)}
    {out : FileEntry → Option (Except Failure WriteResult)} (hlen : rs.length = files.length)
    (h : ∀ f y, (f, y) ∈ files.zip rs → ∃ x, out f = some x ∧ Agree ts x y) :
    Agree ts (collect (files.filterMap out)) (collect rs) := by
  induction files generalizing rs with
  | nil =>
    obtain rfl : rs = [] := List.length_eq_zero_iff.mp hlen
    exact .refl _
  | cons f files ih =>
    obtain ⟨y, rs, rfl⟩ := List.exists_cons_of_length_eq_add_one hlen
    obtain ⟨x, hx, hagree⟩ := h f y (by simp)
    have hrest : Agree ts (collect (files.filterMap out)) (collect rs) :=
      ih (by simpa using hlen) fun g z hz => h g z (by simp [hz])
    rw [List.filterMap_cons_some hx]
    rcases hagree with rfl | ⟨s, hs, t, ht, rfl, rfl⟩
    · cases x with
      | error e => exact .refl _
      | ok a => exact hrest.map _
    · exact .inr ⟨s, hs, t, ht, rfl, rfl⟩

theorem filterMap_lookup_zip {rs : List (Except Failure WriteResult)} (hnodup : files.Nodup)
    (hlen : rs.length = files.length) :
    (files.filterMap fun f => (files.zip rs).lookup f) = rs := by
  induction files generalizing rs with
  | nil => exact (List.length_eq_zero_iff.mp hlen).symm
  | cons g files ih =>
    obtain ⟨r, rs, rfl⟩ := List.exists_cons_of_length_eq_add_one hlen
    obtain ⟨hg, hnodup⟩ := List.nodup_cons.mp hnodup
    have hrest : (files.filterMap fun f => ((g, r) :: files.zip rs).lookup f) =
        files.filterMap fun f => (files.zip rs).lookup f := by
      apply List.filterMap_congr
      intro f hf
      have hne : (f == g) = false := beq_eq_false_iff_ne.mpr (ne_of_mem_of_not_mem hf hg)
      rw [List.lookup_cons, hne]
    rw [List.zip_cons_cons, List.filterMap_cons_some (b := r) (by simp), hrest,
      ih hnodup (by simpa using hlen)]

/-- Carried out in the order of the files, the calls are one after the other. -/
theorem writeAllIn_self (hnodup : files.Nodup) (σ : State) :
    writeAllIn files files σ = writeAll files σ := by
  let told (rs : List (Except Failure WriteResult)) : Except Failure (List WriteResult) × State :=
    match files.find? fun f => ! (Path.ofString f.path).isAbsolute with
    | some f => (.error (.value (.relativeEntry f.path)), σ)
    | none => (collect rs, (writeEach σ files).2)
  have hresults : files.filterMap (fun f => (outcomes files σ).lookup f) = (writeEach σ files).1 :=
    filterMap_lookup_zip hnodup (length_writeEach files σ)
  calc writeAllIn files files σ
      = told (files.filterMap fun f => (outcomes files σ).lookup f) := rfl
    _ = told (writeEach σ files).1 := by rw [hresults]
    _ = writeAll files σ := rfl

theorem Joint.nil : Joint logs fs [] fs := fun _ => .inl rfl

theorem agree_of_mem_outcomes (h : Independent σ.logFiles files) {x : Except Failure WriteResult}
    (hx : (f, x) ∈ outcomes files σ) : Agree f.longDirs (writeOne σ.files f).1 x :=
  (joint_writeEach .nil rfl (by simpa using h)).1 f x hx

theorem outcomes_agree (h : Independent σ.logFiles files) (hf : f ∈ files) :
    ∃ x, (outcomes files σ).lookup f = some x ∧ Agree f.longDirs (writeOne σ.files f).1 x := by
  obtain ⟨x, hx, hmem⟩ := exists_lookup_zip (length_writeEach files σ) hf
  exact ⟨x, hx, agree_of_mem_outcomes h hmem⟩

theorem exists_mem_outcomes {order : List FileEntry} {w : Except Failure WriteResult}
    (hw : w ∈ (writeEach σ order).1) : ∃ f ∈ order, (f, w) ∈ outcomes order σ := by
  have hsnd : (outcomes order σ).map Prod.snd = (writeEach σ order).1 :=
    List.map_snd_zip (length_writeEach order σ).le
  rw [← hsnd] at hw
  obtain ⟨⟨f, w'⟩, hmem, rfl⟩ := List.mem_map.mp hw
  exact ⟨f, (List.of_mem_zip hmem).1, hmem⟩

/-- If all files are written in one order, they are in any other. -/
theorem writeEach_perm_ok {order : List FileEntry} (h : Independent σ.logFiles files)
    (hperm : order.Perm files) (hok : ∀ w ∈ (writeEach σ files).1, ∃ r, w = .ok r) :
    ∀ w ∈ (writeEach σ order).1, ∃ r, w = .ok r := by
  intro w hw
  obtain ⟨f, hf, hmem⟩ := exists_mem_outcomes hw
  obtain ⟨x, -, hx⟩ := exists_lookup_zip (length_writeEach files σ) (hperm.mem_iff.mp hf)
  obtain ⟨r, rfl⟩ := hok x (List.of_mem_zip hx).2
  -- alone it is written, too
  have halone := (agree_of_mem_outcomes h hx).symm.eq_ok
  have hagree := agree_of_mem_outcomes (h.perm hperm) hmem
  rw [halone] at hagree
  exact ⟨r, hagree.eq_ok⟩

/-- Files that were all written to different places are not in the way of each other. -/
theorem independent_of_ok (hplain : ∀ f ∈ files, f.IsPlain)
    (hnodup : (files.map FileEntry.location).Nodup) (hlog : ∀ f ∈ files, f.location ∉ σ.logFiles)
    (hok : ∀ w ∈ (writeEach σ files).1, ∃ r, w = .ok r) : Independent σ.logFiles files := by
  have habs : ∀ f ∈ files, f.IsAbsolute := fun f hf => (hplain f hf).isAbsolute
  have hread {f : FileEntry} (hf : f ∈ files) : ∃ b,
      (writeEach σ files).2.files.read [] f.target = .ok b := by
    obtain ⟨g, -, -, hg⟩ := read_writeEach habs hok hf (hlog f hf)
    exact ⟨_, hg⟩
  -- in the end there is a file at the place of each of them, and above it are directories
  have hapart {f g : FileEntry} (hf : f ∈ files) (hg : g ∈ files) (hne : f.location ≠ g.location) :
      ¬ f.location <+: g.location := by
    intro hpre
    obtain ⟨b, hb⟩ := hread hf
    obtain ⟨c, hc⟩ := hread hg
    have hfile : (writeEach σ files).2.files.node? f.location = some (.file b) :=
      (FileSystem.read_eq_ok.mp hb).2.2
    have hway : f.location <+: g.location.dropLast := by
      obtain ⟨t, ht⟩ := hpre
      have hne : t ≠ [] := by
        rintro rfl
        exact hne (by rw [← ht, List.append_nil])
      rw [← ht, List.dropLast_append_of_ne_nil hne]
      exact List.prefix_append _ _
    have hdir := FileSystem.dir_of_mem_way (habs g hg).folder
      (FileSystem.isDir_parent_of_read (habs g hg) hc)
      ((FileEntry.mem_way_folder (hplain g hg)).mpr hway)
    rw [hfile] at hdir
    cases hdir
  refine ⟨hplain, ?_, hlog⟩
  have hpair := List.pairwise_map.mp hnodup
  exact hpair.imp_of_mem fun hf hg hne => ⟨hapart hf hg hne, hapart hg hf hne.symm⟩

/-- In the end every place is as one of the files leaves it that is written alone. -/
theorem node?_writeEach (h : Independent σ.logFiles files) {l : Location} (hl : l ∉ σ.logFiles) :
    (writeEach σ files).2.files.node? l =
      (files.findSome? fun f => laid σ.files f l).or (σ.files.node? l) := by
  obtain ⟨-, hend⟩ := joint_writeEach .nil rfl (by simpa using h)
  have hreverse := findSome?_laid_perm σ.files h files.reverse_perm l
  rw [List.append_nil] at hend
  rcases hend l with he | ⟨hm, -⟩
  · rw [he, hreverse]
  · exact absurd hm hl

/-- Files of which none is in the way of another one can be written in any order. The files are the
same in the end, log files apart, and so is what becomes of each, also of those that fail. No more
than this can differ: which directory is said to have too long a name, if one far enough up has. -/
theorem writeAllIn_perm {order : List FileEntry} (h : Independent σ.logFiles files)
    (hperm : order.Perm files) :
    (∀ l ∉ σ.logFiles, (writeAllIn order files σ).2.files.node? l =
      (writeAll files σ).2.files.node? l) ∧
      (∀ f ∈ files, ∃ x y, (outcomes order σ).lookup f = some x ∧
        (outcomes files σ).lookup f = some y ∧ Agree f.longDirs x y) ∧
      Agree {t | ∃ f ∈ files, t ∈ f.longDirs} (writeAllIn order files σ).1 (writeAll files σ).1 ∧
      ((∀ f ∈ files, ∀ n ∈ f.location.dropLast.dropLast, IsShort n) →
        (∀ f ∈ files, (outcomes order σ).lookup f = (outcomes files σ).lookup f) ∧
          (writeAllIn order files σ).1 = (writeAll files σ).1) := by
  have horder : Independent σ.logFiles order := h.perm hperm
  have habs : ∀ f ∈ files, f.IsAbsolute := fun f hf => (h.plain f hf).isAbsolute
  have hin : writeAllIn order files σ =
      (collect (files.filterMap fun f => (outcomes order σ).lookup f), (writeEach σ order).2) := by
    simp only [writeAllIn, find?_relative habs]
  rw [hin, writeAll_of_isAbsolute habs σ]
  -- each call alone is what the two orders have in common
  have houtcomes : ∀ f ∈ files, ∃ x y, (outcomes order σ).lookup f = some x ∧
      (outcomes files σ).lookup f = some y ∧ Agree f.longDirs x y := by
    intro f hf
    obtain ⟨x, hx, hxagree⟩ := outcomes_agree horder (hperm.mem_iff.mpr hf)
    obtain ⟨y, hy, hyagree⟩ := outcomes_agree h hf
    exact ⟨x, y, hx, hy, hxagree.symm.trans hyagree⟩
  have hcollect (ts : Set String)
      (hts : ∀ f ∈ files, ∀ x y : Except Failure WriteResult, Agree f.longDirs x y → Agree ts x y) :
      Agree ts (collect (files.filterMap fun f => (outcomes order σ).lookup f))
        (collect (writeEach σ files).1) := by
    apply agree_collect (length_writeEach files σ)
    intro f y hy
    have hf : f ∈ files := (List.of_mem_zip hy).1
    obtain ⟨x, hx, hxagree⟩ := outcomes_agree horder (hperm.mem_iff.mpr hf)
    exact ⟨x, hx, hts f hf x y (hxagree.symm.trans (agree_of_mem_outcomes h hy))⟩
  refine ⟨fun l hl => ?_, houtcomes, ?_, fun hshort => ?_⟩
  · show (writeEach σ order).2.files.node? l = (writeEach σ files).2.files.node? l
    rw [node?_writeEach horder hl, node?_writeEach h hl, findSome?_laid_perm σ.files h hperm]
  · exact hcollect _ fun f hf x y hagree => hagree.mono fun t ht => ⟨f, hf, ht⟩
  -- no directory can be told from another one by what is said of it
  · have hexact {f : FileEntry} (hf : f ∈ files) {x y : Except Failure WriteResult}
        (hagree : Agree f.longDirs x y) : x = y :=
      hagree.eq_of_subsingleton (FileEntry.longDirs_subsingleton (hshort f hf))
    constructor
    · intro f hf
      obtain ⟨x, y, hx, hy, hagree⟩ := houtcomes f hf
      rw [hx, hy, hexact hf hagree]
    · have hall := hcollect ∅ fun f hf x y hagree => .inl (hexact hf hagree)
      exact hall.eq_of_subsingleton Set.subsingleton_empty

theorem logFiles_of_no_log (hσ : σ.sinks.handlers = []) : σ.logFiles = ∅ := by
  ext l
  simp [State.logFiles, hσ]

theorem independent_of_no_log (hσ : σ.sinks.handlers = []) (hplain : ∀ f ∈ files, f.IsPlain)
    (hapart : files.Pairwise FileEntry.Apart) : Independent σ.logFiles files := by
  rw [logFiles_of_no_log hσ]
  exact ⟨hplain, hapart, fun f _ => Set.notMem_empty f.location⟩

/-- A file in the way of the last of three, which is refused, whatever becomes of the others first. -/
def threeFiles : List FileEntry :=
  [⟨"/out/a", "1", false⟩, ⟨"/out/sub/b", "2", false⟩, ⟨"/notes/c", "3", false⟩]

theorem writeAllIn_perm_refused : ∃ σ : State,
    σ.files.node? [⟨"notes", by decide⟩] = some (.file ByteArray.empty) ∧
      Independent σ.logFiles threeFiles ∧
      (writeAllIn threeFiles.reverse threeFiles σ).1 = (writeAll threeFiles σ).1 ∧
      ∃ e, (writeAll threeFiles σ).1 = .error e := by
  let σ : State := ⟨.unset, "", [], FileSystem.empty.writeFile [⟨"notes", by decide⟩] ByteArray.empty⟩
  have hnotes : σ.files.node? [⟨"notes", by decide⟩] = some (.file ByteArray.empty) := by
    decide +kernel
  have h : Independent σ.logFiles threeFiles :=
    independent_of_no_log rfl (by decide +kernel) (by decide +kernel)
  have hshort : ∀ f ∈ threeFiles, ∀ n ∈ f.location.dropLast.dropLast, IsShort n := by
    decide +kernel
  have herror : (writeAll threeFiles σ).1 = .error (.disk .alreadyExists "/notes") := by
    decide +kernel
  obtain ⟨-, -, -, hall⟩ := writeAllIn_perm h (List.reverse_perm threeFiles)
  exact ⟨σ, hnotes, h, (hall hshort).2, _, herror⟩

theorem writeOne_of_long {a : Anchor} {r t : Location} {n : Name} (ha : a ≠ .relative)
    (hfolder : f.folder = a.pathTo (r ++ n :: t))
    (hnul : FileSystem.hasNul (a.pathTo (r ++ n :: t)) = false)
    (hfits : FileSystem.fits (a.pathTo (r ++ n :: t)) = true) (hr : ∀ m ∈ r, IsShort m)
    (hn : ¬ IsShort n) (hfile : ∀ q, q <+: r → ∀ b, fs.node? q ≠ some (.file b)) :
    (writeOne fs f).1 = .error (.disk .nameTooLong
      (a.pathTo (r ++ n :: if fs.node? r = some .dir then t else [])).text) := by
  obtain ⟨herror, -⟩ := FileSystem.makeDirs_of_long ha hnul hfits hr hn hfile
  rw [← hfolder] at herror
  rw [writeOne_of_error (Prod.ext herror rfl)]

/-- The first of two files that is refused decides, -/
theorem writeAll_pair_of_error {e : Failure} (hf : f.IsAbsolute) (hg : g.IsAbsolute)
    (h : (attempt f σ).1 = .error e) : (writeAll [f, g] σ).1 = .error e := by
  have habs : ∀ f' ∈ [f, g], f'.IsAbsolute := by simp [hf, hg]
  rw [writeAll_of_isAbsolute habs, writeEach_cons, h]
  rfl

/-- also when the other one is written before it. -/
theorem writeAllIn_swap_of_error {e : Failure} (hf : f.IsAbsolute) (hg : g.IsAbsolute) (hne : f ≠ g)
    (h : (attempt f (attempt g σ).2).1 = .error e) : (writeAllIn [g, f] [f, g] σ).1 = .error e := by
  have habs : ∀ f' ∈ [f, g], f'.IsAbsolute := by simp [hf, hg]
  have hbeq : (f == g) = false := beq_eq_false_iff_ne.mpr hne
  have hlookup : (outcomes [g, f] σ).lookup f = some (.error e) := by
    rw [outcomes, writeEach_cons, writeEach_cons, h, List.zip_cons_cons, List.lookup_cons, hbeq,
      List.zip_cons_cons, List.lookup_cons, beq_self_eq_true]
  simp only [writeAllIn, find?_relative habs, List.filterMap_cons, hlookup, collect]

/-- A name of 256 bytes. -/
theorem isName_huge : IsName (String.ofList (List.replicate 64 '😀')) :=
  isName_ofList (by decide) (by decide)

def hugeName : Name := ⟨String.ofList (List.replicate 64 '😀'), isName_huge⟩

def newName : Name := ⟨"new", by decide⟩

def subName : Name := ⟨"sub", by decide⟩

/-- A file below a directory with too long a name, which is in one that may be missing. -/
def farFile : FileEntry :=
  ⟨(Anchor.root.pathTo [newName, hugeName, subName, ⟨"x", by decide⟩]).text, "", false⟩

/-- A file next to that directory. -/
def nearFile : FileEntry := ⟨(Anchor.root.pathTo [newName, ⟨"y", by decide⟩]).text, "", false⟩

theorem target_farFile :
    farFile.target = Anchor.root.pathTo [newName, hugeName, subName, ⟨"x", by decide⟩] :=
  Path.ofString_text _

theorem target_nearFile : nearFile.target = Anchor.root.pathTo [newName, ⟨"y", by decide⟩] :=
  Path.ofString_text _

/-- What is refused for the far file hangs on the directory that may be missing. -/
theorem writeOne_farFile (fs : FileSystem) (hfile : ∀ b, fs.node? [newName] ≠ some (.file b)) :
    (writeOne fs farFile).1 = .error (.disk .nameTooLong (Anchor.root.pathTo
      ([newName] ++ hugeName :: if fs.node? [newName] = some .dir then [subName] else [])).text) := by
  have hfolder : farFile.folder = Anchor.root.pathTo ([newName] ++ hugeName :: [subName]) := by
    rw [FileEntry.folder, target_farFile]
    rfl
  have hchars : hugeName.val.toList = List.replicate 64 '😀' := String.toList_ofList
  have hnul : FileSystem.hasNul (Anchor.root.pathTo ([newName] ++ hugeName :: [subName])) = false := by
    have hnew : newName.val.toList.contains '\x00' = false := by decide
    have hhuge : (List.replicate 64 '😀').contains '\x00' = false := by decide
    have hsub : subName.val.toList.contains '\x00' = false := by decide
    simp only [FileSystem.hasNul, Anchor.pathTo, List.cons_append, List.nil_append, List.map_cons,
      List.map_nil, List.any_cons, List.any_nil, Part.text, hnew, hchars, hhuge, hsub, Bool.or_false]
  have hfits : FileSystem.fits (Anchor.root.pathTo ([newName] ++ hugeName :: [subName])) = true := by
    have hroot : (Anchor.root.pathTo ([newName] ++ hugeName :: [subName])).anchor.text.toList =
        ['/'] := by
      decide
    have hbody : Path.body (Anchor.root.pathTo ([newName] ++ hugeName :: [subName])).parts =
        newName.val.toList ++ ['/'] ++ (List.replicate 64 '😀' ++ ['/'] ++ subName.val.toList) := by
      simp only [Path.body, Anchor.pathTo, List.cons_append, List.nil_append, List.map_cons,
        List.map_nil, Part.text, hchars, Text.joinWith]
    rw [FileSystem.fits, decide_eq_true_eq, Path.utf8ByteSize_text rfl, hroot, hbody]
    decide +kernel
  have hprefix : ∀ q, q <+: [newName] → ∀ b, fs.node? q ≠ some (.file b) := by
    intro q hq b
    rcases List.prefix_cons_iff.mp hq with rfl | ⟨t, rfl, ht⟩
    · simp [FileSystem.node?_nil]
    · obtain rfl := List.prefix_nil.mp ht
      exact hfile b
  have hnew : ∀ m ∈ [newName], IsShort m := by decide +kernel
  have hhuge : ¬ IsShort hugeName := by decide +kernel
  exact writeOne_of_long (r := [newName]) (n := hugeName) (t := [subName]) (by decide) hfolder hnul
    hfits hnew hhuge hprefix

theorem independent_far_near (hσ : σ.sinks.handlers = []) :
    Independent σ.logFiles [farFile, nearFile] := by
  have hfar : farFile.location = [newName, hugeName, subName, ⟨"x", by decide⟩] := by
    rw [FileEntry.location, target_farFile]
    exact FileSystem.collapse_pathTo (by decide)
  have hnear : nearFile.location = [newName, ⟨"y", by decide⟩] := by
    rw [FileEntry.location, target_nearFile]
    exact FileSystem.collapse_pathTo (by decide)
  apply independent_of_no_log hσ
  · intro f hf
    rcases List.mem_pair.mp hf with rfl | rfl
    · exact ⟨congrArg Path.isAbsolute target_farFile, by simp [target_farFile, Anchor.pathTo]⟩
    · exact ⟨congrArg Path.isAbsolute target_nearFile, by simp [target_nearFile, Anchor.pathTo]⟩
  · rw [List.pairwise_pair, FileEntry.Apart, hfar, hnear]
    decide +kernel

/-- What is said of the far file alone is not what is said of it once the near file is there. -/
theorem attempt_farFile_ne (hσ : σ.sinks.handlers = []) (hmissing : σ.files.node? [newName] = none)
    (hmade : (writeOne σ.files nearFile).2.node? [newName] = some .dir) :
    ∃ e e' : Failure, e ≠ e' ∧ (attempt farFile σ).1 = .error e ∧
      (attempt farFile (attempt nearFile σ).2).1 = .error e' := by
  have hfiles : (attempt nearFile σ).2.files = (writeOne σ.files nearFile).2 :=
    (attempt_logged nearFile σ).2.same (logFiles_of_no_log hσ)
  have hfirst : (attempt farFile σ).1 = .error (.disk .nameTooLong
      (Anchor.root.pathTo ([newName] ++ hugeName :: [])).text) := by
    have hout := writeOne_farFile σ.files (by simp [hmissing])
    rw [(attempt_logged farFile σ).1, hout, hmissing]
    rfl
  have hsecond : (attempt farFile (attempt nearFile σ).2).1 = .error (.disk .nameTooLong
      (Anchor.root.pathTo ([newName] ++ hugeName :: [subName])).text) := by
    have hout := writeOne_farFile (writeOne σ.files nearFile).2 (by simp [hmade])
    rw [(attempt_logged farFile _).1, hfiles, hout, if_pos hmade]
  refine ⟨_, _, ?_, hfirst, hsecond⟩
  -- the texts of two paths are the same only if the paths are
  intro heq
  have hpath := congrArg Path.ofString (Failure.disk.inj heq).2
  rw [Path.ofString_text, Path.ofString_text] at hpath
  have hlength := congrArg (fun p : Path => p.parts.length) hpath
  simp [Anchor.pathTo] at hlength

/-- In the order of the files the long name is found on the way back from the directory that is
missing, and in the other order at once. -/
theorem writeAllIn_shows_order : ∃ σ : State, Independent σ.logFiles [farFile, nearFile] ∧
    [nearFile, farFile].Perm [farFile, nearFile] ∧
      (writeAllIn [nearFile, farFile] [farFile, nearFile] σ).1 ≠
        (writeAll [farFile, nearFile] σ).1 := by
  let σ : State := ⟨.unset, "", [], FileSystem.empty⟩
  have h : Independent σ.logFiles [farFile, nearFile] := independent_far_near rfl
  have hmissing : σ.files.node? [newName] = none := by decide +kernel
  have hmade : (writeOne σ.files nearFile).2.node? [newName] = some .dir := by decide +kernel
  obtain ⟨e, e', hne, hfirst, hsecond⟩ := attempt_farFile_ne rfl hmissing hmade
  have hfar : farFile.IsAbsolute := (h.plain farFile (by simp)).isAbsolute
  have hnear : nearFile.IsAbsolute := (h.plain nearFile (by simp)).isAbsolute
  have happ := (List.pairwise_cons.mp h.apart).1 nearFile List.mem_cons_self
  refine ⟨σ, h, .swap _ _ _, ?_⟩
  rw [writeAll_pair_of_error hfar hnear hfirst,
    writeAllIn_swap_of_error hfar hnear happ.ne hsecond]
  exact fun heq => hne (Except.error.inj heq).symm

end Writer

end ExtTypes

import ExtTypes.Proofs.FileSystem.Change
import ExtTypes.Proofs.Path.Extent

/-! Making a directory and all that is missing above it. Main statements: `makeDirs_grows`, nothing
but directories on the way is new, `isDir_makeDirs`, the directory is there then, and
`makeDirs_eq_ok_iff`, all that can stand in its way. -/
namespace ExtTypes

namespace Path

/-- The locations that an absolute path comes by, its end included. -/
def way (p : Path) : Set Location := {l | ∃ ps, ps <+: p.parts ∧ l = ps.foldl Location.step []}

theorem collapse_of_isAbsolute {p : Path} (hp : p.isAbsolute) :
    p.collapse [] = p.parts.foldl Location.step [] := by
  rw [collapse_eq, start, if_pos hp]

theorem collapse_mem_way {p : Path} (hp : p.isAbsolute) : p.collapse [] ∈ p.way :=
  ⟨p.parts, List.prefix_rfl, collapse_of_isAbsolute hp⟩

theorem way_mono {a : Anchor} {ps qs : List Part} (h : ps <+: qs) : way ⟨a, ps⟩ ⊆ way ⟨a, qs⟩ := by
  rintro l ⟨rs, hrs, rfl⟩
  exact ⟨rs, hrs.trans h, rfl⟩

theorem mem_way_of_plain {p : Path} (hup : Part.up ∉ p.parts) {l : Location} :
    l ∈ p.way ↔ l <+: names p.parts := by
  constructor
  · rintro ⟨ps, ⟨qs, hqs⟩, rfl⟩
    rw [← hqs, List.mem_append, not_or] at hup
    rw [foldl_step_plain hup.1, List.nil_append, ← hqs]
    exact ⟨names qs, by simp [names]⟩
  · rintro ⟨r, hr⟩
    refine ⟨l.map .name, ⟨r.map .name, ?_⟩, ?_⟩
    · rw [← List.map_append, hr, map_names hup]
    · rw [Location.foldl_step_names, List.nil_append]

@[simp] theorem mem_way_path {l l' : Location} : l' ∈ (Location.path l).way ↔ l' <+: l := by
  have hup : Part.up ∉ (Location.path l).parts := by simp [Location.path]
  rw [mem_way_of_plain hup, Location.path, names_map]

end Path

namespace FileSystem

variable {fs fs' : FileSystem} {p : Path} {a : Anchor}

theorem hasNul_append {ps qs : List Part} :
    hasNul ⟨a, ps ++ qs⟩ = (hasNul ⟨a, ps⟩ || hasNul ⟨a, qs⟩) := by
  simp [hasNul]

theorem pathIsDir_eq_true {cwd : Location} : fs.pathIsDir cwd p = .ok true ↔
    hasNul p = false ∧ fs.locate cwd p = .ok (p.collapse cwd) ∧
      fs.node? (p.collapse cwd) = some .dir := by
  unfold pathIsDir find
  cases hn : hasNul p with
  | true => simp [Except.map]
  | false =>
    cases hl : fs.locate cwd p with
    | error c => cases c <;> simp [Except.map]
    | ok l =>
      obtain ⟨-, -, rfl⟩ := locate_eq_ok.mp hl
      simp [Except.map]

theorem Grows.pathIsDir {files dirs : Set Location} {cwd : Location} (h : Grows files dirs fs fs')
    (hd : fs.pathIsDir cwd p = .ok true) : fs'.pathIsDir cwd p = .ok true := by
  obtain ⟨hn, hl, hd⟩ := pathIsDir_eq_true.mp hd
  exact pathIsDir_eq_true.mpr ⟨hn, h.locate hl, h.dir hd⟩

/-- All that the path of a directory comes by is a directory. -/
theorem dir_of_mem_way (hp : p.isAbsolute) (h : fs.pathIsDir [] p = .ok true) {l : Location}
    (hl : l ∈ p.way) : fs.node? l = some .dir := by
  obtain ⟨-, hloc, hd⟩ := pathIsDir_eq_true.mp h
  obtain ⟨-, hpass, -⟩ := locate_eq_ok.mp hloc
  obtain ⟨ps, ⟨qs, hqs⟩, rfl⟩ := hl
  rw [Path.start, if_pos hp, ← hqs, passes_append] at hpass
  cases qs with
  | nil =>
    rw [Path.collapse_of_isAbsolute hp] at hd
    simpa [← hqs] using hd
  | cons q qs => exact hpass.2.1

theorem makeOneDir_eq_ok (hp : p.isAbsolute) (h : fs.makeOneDir [] p = .ok fs') :
    fs.locate [] p = .ok (p.collapse []) ∧ fs.node? (p.collapse []) = none ∧
      ∀ l, fs'.node? l = if l = p.collapse [] then some .dir else fs.node? l := by
  unfold makeOneDir at h
  cases hl : fs.locate [] p with
  | error c => simp [hl] at h
  | ok l =>
    obtain ⟨-, -, rfl⟩ := locate_eq_ok.mp hl
    cases hk : fs.node? (p.collapse []) with
    | some k => simp [hl, hk] at h
    | none =>
      have he : fs.makeDir (p.collapse []) = fs' := by simpa [hl, hk] using h
      -- nothing is there, so it is not the root and goes into a directory
      obtain ⟨hne, hd⟩ := parent_of_locate hl (node?_start_of_isAbsolute fs hp) (by simp [hk])
      refine ⟨rfl, rfl, fun l => ?_⟩
      rw [← he, node?_makeDir hne hd hk]

theorem makeOneDir_grows (hp : p.isAbsolute) (h : fs.makeOneDir [] p = .ok fs') :
    Grows ∅ p.way fs fs' := by
  obtain ⟨-, hnone, hnode⟩ := makeOneDir_eq_ok hp h
  intro l
  rw [hnode l]
  split
  · next hl =>
    subst hl
    exact .inr (.inl ⟨Path.collapse_mem_way hp, hnone, rfl⟩)
  · exact .inl rfl

theorem isDir_makeOneDir (hp : p.isAbsolute) (hn : hasNul p = false)
    (h : fs.makeOneDir [] p = .ok fs') : fs'.pathIsDir [] p = .ok true := by
  obtain ⟨hl, -, hnode⟩ := makeOneDir_eq_ok hp h
  refine pathIsDir_eq_true.mpr ⟨hn, (makeOneDir_grows hp h).locate hl, ?_⟩
  rw [hnode, if_pos rfl]

@[simp] theorem settleDir_files {cwd : Location} {c : DiskCause} :
    (fs.settleDir cwd p c).2 = fs := by
  unfold settleDir
  split <;> rfl

theorem settleDir_eq_ok {cwd : Location} {c : DiskCause} :
    (fs.settleDir cwd p c).1 = .ok () ↔ fs.pathIsDir cwd p = .ok true := by
  unfold settleDir
  split <;> simp_all

/-- What is new are directories on the way; it ends well only if the directory is there. -/
theorem makeDirsBack_spec (fs : FileSystem) (ha : a ≠ .relative) (ps : List Part)
    (hn : hasNul ⟨a, ps.reverse⟩ = false) :
    Grows ∅ (Path.way ⟨a, ps.reverse⟩) fs (fs.makeDirsBack [] a ps).2 ∧
      ((fs.makeDirsBack [] a ps).1 = .ok () →
        (fs.makeDirsBack [] a ps).2.pathIsDir [] ⟨a, ps.reverse⟩ = .ok true) := by
  have habs (qs : List Part) : (⟨a, qs⟩ : Path).isAbsolute := by simpa [Path.isAbsolute] using ha
  have hsettle (fs' : FileSystem) (qs : List Part) (c : DiskCause)
      (h : Grows ∅ (Path.way ⟨a, qs⟩) fs fs') :
      Grows ∅ (Path.way ⟨a, qs⟩) fs (fs'.settleDir [] ⟨a, qs⟩ c).2 ∧
        ((fs'.settleDir [] ⟨a, qs⟩ c).1 = .ok () →
          (fs'.settleDir [] ⟨a, qs⟩ c).2.pathIsDir [] ⟨a, qs⟩ = .ok true) := by
    rw [settleDir_files]
    exact ⟨h, settleDir_eq_ok.mp⟩
  -- the parts are in reverse order, so the induction goes up the path
  induction ps with
  | nil => exact hsettle fs _ _ .refl
  | cons q above ih =>
    have habove : above.reverse <+: (q :: above).reverse := by simp
    have hn' : hasNul ⟨a, above.reverse⟩ = false := by
      rw [List.reverse_cons, hasNul_append, Bool.or_eq_false_iff] at hn
      exact hn.1
    obtain ⟨hgrows, -⟩ := ih hn'
    have hgrows := hgrows.mono (Set.Subset.refl ∅) (Path.way_mono habove)
    unfold makeDirsBack
    dsimp only
    split
    · next fs' h => exact ⟨makeOneDir_grows (habs _) h, fun _ => isDir_makeOneDir (habs _) hn h⟩
    -- what is above is missing; after it was made there is a second attempt
    · split
      · next e fs' h =>
        rw [h] at hgrows
        exact ⟨hgrows, by simp⟩
      · next fs' h =>
        rw [h] at hgrows
        split
        · next fs'' h' =>
          refine ⟨hgrows.trans (makeOneDir_grows (habs _) h'), fun _ => ?_⟩
          exact isDir_makeOneDir (habs _) hn h'
        · exact ⟨hgrows, by simp⟩
        · exact hsettle fs' _ _ hgrows
    · exact hsettle fs _ _ .refl

/-- Nothing but directories on the way is new, however it ends. -/
theorem makeDirs_grows (fs : FileSystem) (hp : p.isAbsolute) :
    Grows ∅ p.way fs (fs.makeDirs [] p).2 := by
  unfold makeDirs
  split
  · exact .refl
  · next hn =>
    have ha : p.anchor ≠ .relative := by simpa [Path.isAbsolute] using hp
    have hs := makeDirsBack_spec fs ha p.parts.reverse (by simpa using hn)
    simpa using hs.1

theorem isDir_makeDirs (hp : p.isAbsolute) (h : (fs.makeDirs [] p).1 = .ok ()) :
    (fs.makeDirs [] p).2.pathIsDir [] p = .ok true := by
  unfold makeDirs at h ⊢
  split at h
  · cases h
  · next hn =>
    have ha : p.anchor ≠ .relative := by simpa [Path.isAbsolute] using hp
    have hs := makeDirsBack_spec fs ha p.parts.reverse (by simpa using hn)
    rw [if_neg hn]
    simpa using hs.2 h

/-- What is where after a directory was made. -/
theorem node?_makeDirs (hp : p.isAbsolute) (h : (fs.makeDirs [] p).1 = .ok ()) {l : Location} :
    (l ∈ p.way → (fs.makeDirs [] p).2.node? l = some .dir) ∧
      (l ∉ p.way → (fs.makeDirs [] p).2.node? l = fs.node? l) := by
  refine ⟨dir_of_mem_way hp (isDir_makeDirs hp h), fun hl => ?_⟩
  rcases makeDirs_grows fs hp l with h | ⟨hm, -⟩ | ⟨hm, -⟩
  · exact h
  · exact absurd hm hl
  · exact absurd hm (Set.notMem_empty l)

/-- Nothing is done for a directory that is there. -/
theorem makeDirs_of_isDir (h : fs.pathIsDir [] p = .ok true) : fs.makeDirs [] p = (.ok (), fs) := by
  obtain ⟨hn, hl, hd⟩ := pathIsDir_eq_true.mp h
  have hsettle (c : DiskCause) : fs.settleDir [] p c = (.ok (), fs) := by
    rw [settleDir, h]
  rw [makeDirs, if_neg (by simp [hn])]
  -- the first attempt fails, as the directory exists, and that is settled
  rcases hps : p.parts.reverse with _ | ⟨q, above⟩
  · have hp : (⟨p.anchor, []⟩ : Path) = p := by
      cases p
      simpa using (List.reverse_eq_nil_iff.mp hps).symm
    rw [makeDirsBack, hp, hsettle]
  · have hp : (⟨p.anchor, (q :: above).reverse⟩ : Path) = p := by rw [← hps, List.reverse_reverse]
    have hone : fs.makeOneDir [] p = .error .alreadyExists := by simp [makeOneDir, hl, hd]
    simp only [makeDirsBack, hp, hone, hsettle]

/-- A way without files gets through, or something is missing on it. -/
theorem route_of_no_file {l : Location} {ps : List Part}
    (hlen : ∀ q ∈ ps, q.text.utf8ByteSize ≤ nameLimit)
    (hfile : ∀ qs, qs <+: ps → ∀ b, fs.node? (qs.foldl Location.step l) ≠ some (.file b)) :
    (∃ l', fs.route l ps = .ok l') ∨ fs.route l ps = .error .notFound := by
  induction ps generalizing l with
  | nil => exact .inl ⟨l, rfl⟩
  | cons q ps ih =>
    have hq : ¬ nameLimit < q.text.utf8ByteSize := Nat.not_lt.mpr (hlen q List.mem_cons_self)
    have hl : ∀ b, fs.node? l ≠ some (.file b) := hfile [] List.nil_prefix
    rw [route]
    cases hk : fs.node? l with
    | none => exact .inr rfl
    | some k =>
      cases k with
      | file b => exact absurd hk (hl b)
      | dir =>
        simp only [hq, if_false]
        refine ih (fun r hr => hlen r (List.mem_cons_of_mem q hr)) fun qs hqs => ?_
        exact hfile (q :: qs) (List.cons_prefix_cons.mpr ⟨rfl, hqs⟩)

/-- In a directory that is there, a new one can be made where no file is. -/
theorem makeOneDir_below {ps : List Part} {q : Part} (ha : a ≠ .relative)
    (habove : fs.pathIsDir [] ⟨a, ps⟩ = .ok true) (hn : hasNul ⟨a, ps ++ [q]⟩ = false)
    (hfits : fits ⟨a, ps ++ [q]⟩ = true) (hlen : q.text.utf8ByteSize ≤ nameLimit)
    (hfile : ∀ b, fs.node? (Path.collapse [] ⟨a, ps ++ [q]⟩) ≠ some (.file b)) :
    (∃ fs', fs.makeOneDir [] ⟨a, ps ++ [q]⟩ = .ok fs') ∨
      fs.makeOneDir [] ⟨a, ps ++ [q]⟩ = .error .alreadyExists ∧
        fs.pathIsDir [] ⟨a, ps ++ [q]⟩ = .ok true := by
  have habs (qs : List Part) : (⟨a, qs⟩ : Path).isAbsolute := by simpa [Path.isAbsolute] using ha
  obtain ⟨-, hloc, hd⟩ := pathIsDir_eq_true.mp habove
  obtain ⟨-, hpass, -⟩ := locate_eq_ok.mp hloc
  rw [Path.collapse_of_isAbsolute (habs ps)] at hd
  have hl : fs.locate [] ⟨a, ps ++ [q]⟩ = .ok (Path.collapse [] ⟨a, ps ++ [q]⟩) := by
    refine locate_eq_ok.mpr ⟨hfits, ?_, rfl⟩
    rw [Path.start, if_pos (habs _)] at hpass ⊢
    exact passes_append.mpr ⟨hpass, hd, hlen, trivial⟩
  cases hk : fs.node? (Path.collapse [] ⟨a, ps ++ [q]⟩) with
  | none => exact .inl ⟨_, by simp [makeOneDir, hl, hk]; rfl⟩
  | some k =>
    cases k with
    | file b => exact absurd hk (hfile b)
    | dir => exact .inr ⟨by simp [makeOneDir, hl, hk], pathIsDir_eq_true.mpr ⟨hn, hl, hk⟩⟩

/-- Where the directory above is not there, something is missing. -/
theorem makeOneDir_missing {ps : List Part} {q : Part} (ha : a ≠ .relative)
    (habove : fs.pathIsDir [] ⟨a, ps⟩ ≠ .ok true) (hn : hasNul ⟨a, ps⟩ = false)
    (hfits : fits ⟨a, ps ++ [q]⟩ = true) (hlen : ∀ r ∈ ps ++ [q], r.text.utf8ByteSize ≤ nameLimit)
    (hfile : ∀ l ∈ Path.way ⟨a, ps ++ [q]⟩, ∀ b, fs.node? l ≠ some (.file b)) :
    fs.makeOneDir [] ⟨a, ps ++ [q]⟩ = .error .notFound := by
  have habs (qs : List Part) : (⟨a, qs⟩ : Path).isAbsolute := by simpa [Path.isAbsolute] using ha
  -- a way that gets through would show that the directory above is there
  have hr := route_of_no_file (l := []) hlen fun qs hqs => hfile _ ⟨qs, hqs, rfl⟩
  rcases hr with ⟨l, hr⟩ | hr
  · obtain ⟨hpass, -⟩ := passes_append.mp (route_eq_ok.mp hr).1
    have hd := (passes_append.mp (route_eq_ok.mp hr).1).2.1
    refine absurd (pathIsDir_eq_true.mpr ⟨hn, ?_, ?_⟩) habove
    · refine locate_eq_ok.mpr ⟨fits_above hfits, ?_, rfl⟩
      rwa [Path.start, if_pos (habs ps)]
    · rwa [Path.collapse_of_isAbsolute (habs ps)]
  · simp [makeOneDir, locate_eq, hfits, Path.start, habs, hr]

theorem makeDirsBack_of_no_file (ha : a ≠ .relative) (ps : List Part)
    (hn : hasNul ⟨a, ps.reverse⟩ = false) (hfits : fits ⟨a, ps.reverse⟩ = true)
    (hlen : ∀ r ∈ ps.reverse, r.text.utf8ByteSize ≤ nameLimit)
    (hfile : ∀ l ∈ Path.way ⟨a, ps.reverse⟩, ∀ b, fs.node? l ≠ some (.file b)) :
    (fs.makeDirsBack [] a ps).1 = .ok () := by
  have habs (qs : List Part) : (⟨a, qs⟩ : Path).isAbsolute := by simpa [Path.isAbsolute] using ha
  induction ps with
  | nil =>
    refine settleDir_eq_ok.mpr (pathIsDir_eq_true.mpr ⟨hn, ?_, ?_⟩)
    · exact locate_eq_ok.mpr ⟨hfits, trivial, rfl⟩
    · rw [Path.collapse_of_isAbsolute (habs _)]
      exact node?_nil fs
  | cons q above ih =>
    rw [List.reverse_cons] at hn hfits hlen hfile
    have hn' : hasNul ⟨a, above.reverse⟩ = false := by
      rw [hasNul_append, Bool.or_eq_false_iff] at hn
      exact hn.1
    have hlen' : ∀ r ∈ above.reverse, r.text.utf8ByteSize ≤ nameLimit :=
      fun r hr => hlen r (List.mem_append_left _ hr)
    have hq : q.text.utf8ByteSize ≤ nameLimit := hlen q (by simp)
    have hsub := Path.way_mono (a := a) (List.prefix_append above.reverse [q])
    have hend := hfile _ (Path.collapse_mem_way (habs _))
    unfold makeDirsBack
    simp only [List.reverse_cons]
    by_cases hd : fs.pathIsDir [] ⟨a, above.reverse⟩ = .ok true
    -- the directory above is there, so the first attempt does it
    · rcases makeOneDir_below ha hd hn hfits hq hend with ⟨fs', h⟩ | ⟨h, hp⟩
      · rw [h]
      · rw [h]
        exact settleDir_eq_ok.mpr hp
    -- it is missing, and no file came in the way while it was made
    · rw [makeOneDir_missing ha hd hn' hfits hlen hfile]
      have hok := ih hn' (fits_above hfits) hlen' fun l hl => hfile l (hsub hl)
      obtain ⟨hgrows, hdir⟩ := makeDirsBack_spec fs ha above hn'
      obtain ⟨r, fs', hr⟩ : ∃ r fs', fs.makeDirsBack [] a above = (r, fs') := ⟨_, _, rfl⟩
      rw [hr] at hok hgrows hdir
      simp only at hok
      subst hok
      simp only [hr]
      have hend' : ∀ b, fs'.node? (Path.collapse [] ⟨a, above.reverse ++ [q]⟩) ≠ some (.file b) :=
        fun b hb => hend b (hgrows.file_before hb (Set.notMem_empty _))
      rcases makeOneDir_below ha (hdir rfl) hn hfits hq hend' with ⟨fs'', h⟩ | ⟨h, hp⟩
      · rw [h]
      · rw [h]
        exact settleDir_eq_ok.mpr hp

/-- All that can stand in the way of a directory: a character or a length that no path can have, and
a file on the way. -/
theorem makeDirs_eq_ok_iff (hp : p.isAbsolute) : (fs.makeDirs [] p).1 = .ok () ↔
    hasNul p = false ∧ fits p = true ∧ (∀ q ∈ p.parts, q.text.utf8ByteSize ≤ nameLimit) ∧
      ∀ l ∈ p.way, ∀ b, fs.node? l ≠ some (.file b) := by
  have ha : p.anchor ≠ .relative := by simpa [Path.isAbsolute] using hp
  constructor
  · intro h
    have hdir := isDir_makeDirs hp h
    obtain ⟨hn, hl, -⟩ := pathIsDir_eq_true.mp hdir
    obtain ⟨hfits, hpass, -⟩ := locate_eq_ok.mp hl
    refine ⟨hn, hfits, hpass.length_le, fun l hl b hb => ?_⟩
    -- a file on the way would still be one after the directories were made
    obtain ⟨c, hc⟩ := (makeDirs_grows fs hp).file hb
    simp [dir_of_mem_way hp hdir hl] at hc
  · rintro ⟨hn, hfits, hlen, hfile⟩
    rw [makeDirs, if_neg (by simp [hn])]
    apply makeDirsBack_of_no_file ha <;> simpa using ‹_›

/-- Where a directory can be made in one of two file systems, it can be made in the other, if they
are alike on the way. -/
theorem Alike.makeDirs {files : Set Location} (h : Alike files ∅ fs fs') (hp : p.isAbsolute)
    (hway : ∀ l ∈ p.way, l ∉ files) (hok : (fs.makeDirs [] p).1 = .ok ()) :
    (fs'.makeDirs [] p).1 = .ok () ∧
      Alike files ∅ (fs.makeDirs [] p).2 (fs'.makeDirs [] p).2 := by
  obtain ⟨hn, hfits, hlen, hfile⟩ := (makeDirs_eq_ok_iff hp).mp hok
  have hok' : (fs'.makeDirs [] p).1 = .ok () := by
    refine (makeDirs_eq_ok_iff hp).mpr ⟨hn, hfits, hlen, fun l hl b hb => ?_⟩
    exact hfile l hl b ((h.file_iff (hway l hl)).mp hb)
  refine ⟨hok', fun l => ?_⟩
  by_cases hl : l ∈ p.way
  · rw [(node?_makeDirs hp hok).1 hl, (node?_makeDirs hp hok').1 hl]
    exact .inl rfl
  · rw [(node?_makeDirs hp hok).2 hl, (node?_makeDirs hp hok').2 hl]
    exact h l

end FileSystem

end ExtTypes

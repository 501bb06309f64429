import ExtTypes.Proofs.FileSystem.Files

/-! Looking for what stands at a location. It is refused where a name on the way is too long or the
whole path is; otherwise the answer is what stands there, and a listing shows all files in
directories whose paths are short enough. Main statements: `find_path` and `mem_publicFiles`. -/
namespace ExtTypes.FileSystem

variable {fs : FileSystem} {l t : Location}

/-- Whether the system refuses to look for what stands at a location. -/
def Refused (fs : FileSystem) (l : Location) : Prop :=
  fits l.path = false ∨
    ∃ q n t, l = q ++ n :: t ∧ fs.node? q = some .dir ∧ nameLimit < n.val.utf8ByteSize

/-- Names are said to be too long only where one of them is, in a directory. -/
theorem exists_long_of_route (h : fs.route l (t.map .name) = .error .nameTooLong) :
    ∃ q n r, t = q ++ n :: r ∧ fs.node? (l ++ q) = some .dir ∧
      nameLimit < n.val.utf8ByteSize := by
  induction t generalizing l with
  | nil => cases h
  | cons m t ih =>
    rw [List.map_cons, route] at h
    split at h
    · cases h
    · cases h
    · next hd =>
      split at h
      · next hm => exact ⟨[], m, t, rfl, by rwa [List.append_nil], hm⟩
      · obtain ⟨q, n, r, rfl, hq, hn⟩ := ih h
        exact ⟨m :: q, n, r, rfl, by rwa [List.append_cons], hn⟩

theorem refused_iff_locate : fs.Refused l ↔ fs.locate [] l.path = .error .nameTooLong := by
  rw [locate_eq]
  constructor
  · rintro (hfits | ⟨q, n, t, rfl, hd, hn⟩)
    · rw [if_neg (by simp [hfits])]
    · have hroute := route_nameTooLong (l := []) (t.map .name) hd hn
      split
      · simpa [Path.start, Location.path] using hroute
      · rfl
  · intro h
    split at h
    · exact .inr (exists_long_of_route h)
    · next hfits => exact .inl (by simpa using hfits)

/-- What is found at a location is what stands there, unless it is refused to look. -/
theorem find_path (hnul : hasNul l.path = false) : (fs.Refused l →
      fs.find [] l.path = .error (.disk .nameTooLong l.text)) ∧
    (¬ fs.Refused l → fs.find [] l.path = .ok (fs.node? l)) := by
  rw [find, if_neg (by simp [hnul]), refused_iff_locate]
  constructor
  · intro h
    rw [h]
    rfl
  · intro h
    -- any other failure is that nothing stands there
    cases hlocate : fs.locate [] l.path with
    | ok l' =>
      obtain ⟨-, -, rfl⟩ := locate_eq_ok.mp hlocate
      rw [Path.collapse_path]
    | error c =>
      have hc : c ≠ .nameTooLong := by
        rintro rfl
        exact h hlocate
      have hnone : fs.node? l = none := by
        rw [locate_eq] at hlocate
        split at hlocate
        · have hup : Part.up ∉ l.path.parts := by simp [Location.path]
          have hnode := node?_of_route_error hup hlocate hc
          rwa [← Path.collapse_eq, Path.collapse_path] at hnode
        · cases hlocate
          exact absurd rfl hc
      rw [hnone]
      cases c <;> first | rfl | exact absurd rfl hc

/-- A look for a directory is refused, or it tells whether there is one. -/
theorem pathIsDir_cases (fs : FileSystem) (hnul : hasNul l.path = false) :
    fs.Refused l ∧ fs.pathIsDir [] l.path = .error (.disk .nameTooLong l.text) ∨
      ¬ fs.Refused l ∧ fs.node? l = some .dir ∧ fs.pathIsDir [] l.path = .ok true ∨
      ¬ fs.Refused l ∧ fs.node? l ≠ some .dir ∧ fs.pathIsDir [] l.path = .ok false := by
  obtain ⟨hrefused, hfound⟩ := find_path hnul
  unfold pathIsDir
  by_cases h : fs.Refused l
  · rw [hrefused h]
    exact .inl ⟨h, rfl⟩
  · rw [hfound h]
    by_cases hd : fs.node? l = some .dir
    · exact .inr (.inl ⟨h, hd, congrArg Except.ok (decide_eq_true hd)⟩)
    · exact .inr (.inr ⟨h, hd, congrArg Except.ok (decide_eq_false hd)⟩)

/-- A look for a file is refused, or it tells whether there is one. -/
theorem pathIsFile_cases (fs : FileSystem) (hnul : hasNul l.path = false) :
    fs.Refused l ∧ fs.pathIsFile [] l.path = .error (.disk .nameTooLong l.text) ∨
      ¬ fs.Refused l ∧ fs.HasFile l ∧ fs.pathIsFile [] l.path = .ok true ∨
      ¬ fs.Refused l ∧ ¬ fs.HasFile l ∧ fs.pathIsFile [] l.path = .ok false := by
  obtain ⟨hrefused, hfound⟩ := find_path hnul
  unfold pathIsFile HasFile
  by_cases h : fs.Refused l
  · rw [hrefused h]
    exact .inl ⟨h, rfl⟩
  · rw [hfound h]
    match fs.node? l with
    | some (.file b) => exact .inr (.inl ⟨h, ⟨b, rfl⟩, rfl⟩)
    | some .dir | none => exact .inr (.inr ⟨h, nofun, rfl⟩)

theorem below_path (l : Location) (names : List Name) : l.path.below names = (l ++ names).path := by
  rw [Path.below, Path.join, if_neg (by simp [Path.isAbsolute])]
  show (⟨.root, l.map .name ++ names.map .name⟩ : Path) = ⟨.root, (l ++ names).map .name⟩
  rw [List.map_append]

theorem filesBelow_of_not_dir (h : fs.node? l ≠ some .dir) : fs.filesBelow l = [] := by
  refine List.eq_nil_iff_forall_not_mem.mpr fun names hnames => ?_
  obtain ⟨hne, b, hb⟩ := mem_filesBelow.mp hnames
  exact h (node?_of_append hne (by simp [hb]))

/-- Whether a listing from a location shows the file at these names. -/
def Lists (fs : FileSystem) (l : Location) (names : List Name) : Prop :=
  names ≠ [] ∧ fs.HasFile (l ++ names) ∧ fits (l ++ names.dropLast).path = true

/-- The public files are those that a listing shows, if it is not refused. -/
theorem mem_publicFiles (hnul : hasNul l.path = false) : (fs.Refused l →
      fs.publicFiles l.path = .error (.disk .nameTooLong l.text)) ∧
    (¬ fs.Refused l → ∃ ps, fs.publicFiles l.path = .ok ps ∧ ∀ p, p ∈ ps ↔
      ∃ names, fs.Lists l names ∧ p = slashed (Path.text ⟨.relative, names.map .name⟩)) := by
  have hlists (names : List Name) : names ∈ (fs.filesBelow l).filter
      (fun names => fits (l.path.below names.dropLast)) ↔ fs.Lists l names := by
    rw [List.mem_filter, mem_filesBelow, below_path, Lists, HasFile, and_assoc]
  rw [publicFiles_eq, Path.collapse_path]
  rcases fs.pathIsDir_cases hnul with ⟨hr, hdir⟩ | ⟨hr, -, hdir⟩ | ⟨hr, hno, hdir⟩
  all_goals rw [hdir]
  · exact ⟨fun _ => rfl, fun h => absurd hr h⟩
  · refine ⟨fun h => absurd h hr, fun _ => ⟨_, rfl, fun p => ?_⟩⟩
    dsimp only
    rw [if_pos rfl, List.mem_mergeSort, List.mem_map]
    constructor
    · rintro ⟨names, hnames, rfl⟩
      exact ⟨names, (hlists names).mp hnames, rfl⟩
    · rintro ⟨names, hnames, rfl⟩
      exact ⟨names, (hlists names).mpr hnames, rfl⟩
  -- where there is no directory, there are no files below it either
  · refine ⟨fun h => absurd h hr, fun _ => ⟨[], rfl, fun p => ?_⟩⟩
    constructor
    · exact fun hp => absurd hp List.not_mem_nil
    · rintro ⟨names, hnames, -⟩
      have hmem := (hlists names).mpr hnames
      rw [filesBelow_of_not_dir hno] at hmem
      cases hmem

end ExtTypes.FileSystem

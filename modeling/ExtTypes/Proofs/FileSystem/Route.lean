import ExtTypes.FileSystem.Disk
import Mathlib.Data.Set.Basic

/-! Where a path leads, told by what stands at the locations on its way. A path gets through where
every place that it leaves behind is a directory and no name is too long. Main statements:
`locate_eq_ok` and `node?_of_route_error`. -/
namespace ExtTypes

namespace Path

/-- Where the parts of the path start. -/
def start (cwd : Location) (p : Path) : Location := if p.isAbsolute then [] else cwd

theorem collapse_eq (cwd : Location) (p : Path) :
    p.collapse cwd = p.parts.foldl Location.step (p.start cwd) := rfl

/-- The names among the parts. -/
def names (ps : List Part) : List Name :=
  ps.filterMap fun
    | .up => none
    | .name n => some n

/-- Parts that never go up are names. -/
theorem map_names {ps : List Part} (h : Part.up ∉ ps) : (names ps).map Part.name = ps := by
  induction ps with
  | nil => rfl
  | cons p ps ih =>
    simp only [List.mem_cons, not_or] at h
    cases p with
    | up => exact absurd rfl h.1
    | name n => simpa [names] using ih h.2

@[simp] theorem names_map (l : Location) : names (l.map .name) = l := by
  induction l with
  | nil => rfl
  | cons n l ih => exact congrArg (n :: ·) ih

theorem foldl_step_plain {ps : List Part} (h : Part.up ∉ ps) (l : Location) :
    ps.foldl Location.step l = l ++ names ps := by
  have hs := Location.foldl_step_names l (names ps)
  rwa [map_names h] at hs

end Path

namespace FileSystem

/-- What has something below it is a directory. -/
theorem node?_of_append {fs : FileSystem} {l r : Location} (hr : r ≠ [])
    (h : fs.node? (l ++ r) ≠ none) : fs.node? l = some .dir := by
  rw [node?, tree?_append] at h
  obtain ⟨n, r, rfl⟩ := List.exists_cons_of_ne_nil hr
  cases ht : fs.tree? l with
  | none => simp [ht] at h
  | some t =>
    cases t with
    | file b => simp [ht] at h
    | dir es => simp [node?, ht, Tree.node]

theorem node?_dropLast {fs : FileSystem} {l : Location} (h : fs.node? l = some .dir) :
    fs.node? l.dropLast = some .dir := by
  rcases List.eq_nil_or_concat l with rfl | ⟨l, n, rfl⟩
  · exact h
  · rw [List.concat_eq_append] at h ⊢
    have hne : fs.node? (l ++ [n]) ≠ none := by simp [h]
    simpa using node?_of_append (List.cons_ne_nil n []) hne

/-- A file is in a directory. -/
theorem parent_of_file {fs : FileSystem} {l : Location} {b : ByteArray}
    (h : fs.node? l = some (.file b)) : l ≠ [] ∧ fs.node? l.dropLast = some .dir := by
  have hne : l ≠ [] := by
    rintro rfl
    rw [node?_nil] at h
    cases h
  refine ⟨hne, ?_⟩
  -- something is below the directory, so it is one
  apply node?_of_append (List.cons_ne_nil (l.getLast hne) [])
  rw [List.dropLast_concat_getLast, h]
  exact Option.some_ne_none _

/-- Where parts lead from `l`. All that is left behind on the way must be directories, and a name
that is too long is not looked for. -/
def route (fs : FileSystem) : Location → List Part → Except DiskCause Location
  | l, [] => .ok l
  | l, p :: ps =>
    match fs.node? l with
    | none => .error .notFound
    | some (.file _) => .error .notDirectory
    | some .dir =>
      if nameLimit < p.text.utf8ByteSize then .error .nameTooLong else fs.route (l.step p) ps

theorem follow_spot (fs : FileSystem) (l : Location) (ps : List Part) :
    ((fs.spot l).follow ps).map Spot.location = fs.route l ps := by
  induction ps generalizing l with
  | nil => simp [Spot.follow, route, spot_location, Except.map]
  | cons p ps ih =>
    -- the one looks at the tree, the other at the kind of its root only
    rw [Spot.follow, route, spot_here?, node?]
    cases fs.tree? l with
    | none => rfl
    | some t =>
      cases t with
      | file b => rfl
      | dir es =>
        simp only [Option.map_some, Tree.node]
        split
        · rfl
        · rw [step_spot, ih]

/-- Ways on which the same things stand lead to the same. -/
theorem route_congr {fs fs' : FileSystem} {l t : Location}
    (h : ∀ r n r', t = r ++ n :: r' → fs'.node? (l ++ r) = fs.node? (l ++ r)) :
    fs'.route l (t.map .name) = fs.route l (t.map .name) := by
  induction t generalizing l with
  | nil => rfl
  | cons m t ih =>
    have hl := h [] m t rfl
    rw [List.append_nil] at hl
    have hrest : fs'.route (l ++ [m]) (t.map .name) = fs.route (l ++ [m]) (t.map .name) := by
      apply ih
      intro r n r' ht
      have hr := h (m :: r) n r' (by rw [ht, List.cons_append])
      simpa using hr
    rw [List.map_cons, route, route, hl]
    cases fs.node? l with
    | none => rfl
    | some k =>
      cases k with
      | file b => rfl
      | dir =>
        simp only [Location.step]
        rw [hrest]

theorem locate_eq (fs : FileSystem) (cwd : Location) (p : Path) :
    fs.locate cwd p =
      if fits p then fs.route (p.start cwd) p.parts else .error .nameTooLong := by
  rw [locate, follow_spot, Path.start]

/-- The parts get through from `l`. -/
def Passes (fs : FileSystem) : Location → List Part → Prop
  | _, [] => True
  | l, p :: ps =>
    fs.node? l = some .dir ∧ p.text.utf8ByteSize ≤ nameLimit ∧ fs.Passes (l.step p) ps

theorem route_eq_ok {fs : FileSystem} {l l' : Location} {ps : List Part} :
    fs.route l ps = .ok l' ↔ fs.Passes l ps ∧ l' = ps.foldl Location.step l := by
  induction ps generalizing l with
  | nil => simp [route, Passes, eq_comm]
  | cons p ps ih =>
    rw [route, Passes, List.foldl_cons]
    cases fs.node? l with
    | none => simp
    | some k =>
      cases k with
      | file b => simp
      | dir =>
        by_cases hp : nameLimit < p.text.utf8ByteSize
        · simp [hp, Nat.not_le.mpr hp]
        · simp [hp, ih, Nat.not_lt.mp hp]

theorem locate_eq_ok {fs : FileSystem} {cwd l : Location} {p : Path} :
    fs.locate cwd p = .ok l ↔
      fits p = true ∧ fs.Passes (p.start cwd) p.parts ∧ l = p.collapse cwd := by
  rw [locate_eq, Path.collapse_eq]
  split <;> simp_all [route_eq_ok]

theorem passes_append {fs : FileSystem} {l : Location} {ps qs : List Part} :
    fs.Passes l (ps ++ qs) ↔ fs.Passes l ps ∧ fs.Passes (ps.foldl Location.step l) qs := by
  induction ps generalizing l with
  | nil => simp [Passes]
  | cons p ps ih => simp [Passes, ih, and_assoc]

/-- Where a path gets through, it does so after more directories have come. -/
theorem Passes.mono {fs fs' : FileSystem}
    (h : ∀ l, fs.node? l = some .dir → fs'.node? l = some .dir) {l : Location} {ps : List Part}
    (hp : fs.Passes l ps) : fs'.Passes l ps := by
  induction ps generalizing l with
  | nil => trivial
  | cons p ps ih => exact ⟨h l hp.1, hp.2.1, ih hp.2.2⟩

theorem Passes.length_le {fs : FileSystem} {l : Location} {ps : List Part} (hp : fs.Passes l ps) :
    ∀ q ∈ ps, q.text.utf8ByteSize ≤ nameLimit := by
  induction ps generalizing l with
  | nil => simp
  | cons p ps ih =>
    intro q hq
    rcases List.mem_cons.mp hq with rfl | hq
    · exact hp.2.1
    · exact ih hp.2.2 q hq

/-- The end of a way with at least one part is in a directory. -/
theorem Passes.parent {fs : FileSystem} {l : Location} {ps : List Part} (hp : fs.Passes l ps)
    (hne : ps ≠ []) :
    ∃ l' q, fs.node? l' = some .dir ∧ ps.foldl Location.step l = l'.step q := by
  obtain ⟨qs, q, rfl⟩ := List.eq_nil_or_concat ps |>.resolve_left hne
  rw [List.concat_eq_append, passes_append] at hp
  exact ⟨qs.foldl Location.step l, q, hp.2.1, by simp⟩

theorem node?_start_of_isAbsolute {cwd : Location} {p : Path} (fs : FileSystem) (hp : p.isAbsolute) :
    fs.node? (p.start cwd) = some .dir := by
  rw [Path.start, if_pos hp, node?_nil]

theorem node?_start {fs : FileSystem} {cwd : Location} (hcwd : fs.node? cwd = some .dir) (p : Path) :
    fs.node? (p.start cwd) = some .dir := by
  rw [Path.start]
  split
  · exact node?_nil fs
  · exact hcwd

/-- Something that is no directory, at the end of a path that starts in one, is in a directory. -/
theorem parent_of_locate {fs : FileSystem} {cwd l : Location} {p : Path}
    (h : fs.locate cwd p = .ok l) (hstart : fs.node? (p.start cwd) = some .dir)
    (hl : fs.node? l ≠ some .dir) : l ≠ [] ∧ fs.node? l.dropLast = some .dir := by
  obtain ⟨-, hpass, rfl⟩ := locate_eq_ok.mp h
  rw [Path.collapse_eq] at hl ⊢
  by_cases hne : p.parts = []
  · rw [hne] at hl
    exact absurd hstart hl
  obtain ⟨l', q, hd, he⟩ := hpass.parent hne
  rw [he] at hl ⊢
  -- `..` would lead to a directory
  cases q with
  | up => exact absurd (node?_dropLast hd) hl
  | name n => simpa [Location.step] using hd

/-- A name that is too long is not looked for in a directory. -/
theorem route_nameTooLong {fs : FileSystem} {l r : Location} {n : Name} (ps : List Part)
    (hd : fs.node? (l ++ r) = some .dir) (hn : nameLimit < n.val.utf8ByteSize) :
    fs.route l (r.map .name ++ .name n :: ps) = .error .nameTooLong := by
  induction r generalizing l with
  | nil =>
    rw [List.append_nil] at hd
    simp [route, hd, Part.text, hn]
  | cons m r ih =>
    have habove : fs.node? l = some .dir := by
      refine node?_of_append (List.cons_ne_nil m r) ?_
      simp [hd]
    have hrest := ih (l := l ++ [m]) (by simpa using hd)
    rw [List.map_cons, List.cons_append, route, habove]
    -- a name before it may be too long as well
    by_cases hm : nameLimit < (Part.name m).text.utf8ByteSize
    · simp only [hm, if_true]
    · rwa [if_neg hm]

theorem find_nameTooLong {fs : FileSystem} {q t : Location} {n : Name}
    (hnul : hasNul (Location.path (q ++ n :: t)) = false) (hd : fs.node? q = some .dir)
    (hn : nameLimit < n.val.utf8ByteSize) :
    fs.find [] (Location.path (q ++ n :: t)) =
      .error (.disk .nameTooLong (Location.text (q ++ n :: t))) := by
  have hroute := route_nameTooLong (l := []) (t.map .name) hd hn
  have hlocate : fs.locate [] (Location.path (q ++ n :: t)) = .error .nameTooLong := by
    rw [locate_eq]
    split
    · simpa [Path.start, Location.path] using hroute
    · rfl
  rw [find, hnul, hlocate]
  rfl

/-- Nothing stands where plain parts do not get through, unless a name is too long. -/
theorem node?_of_route_error {fs : FileSystem} {l : Location} {ps : List Part} {c : DiskCause}
    (hup : Part.up ∉ ps) (h : fs.route l ps = .error c) (hc : c ≠ .nameTooLong) :
    fs.node? (ps.foldl Location.step l) = none := by
  induction ps generalizing l with
  | nil => simp [route] at h
  | cons q ps ih =>
    by_contra hne
    -- what has something below it is a directory, so the parts go on from here
    have hd : fs.node? l = some .dir := by
      rw [Path.foldl_step_plain hup] at hne
      refine node?_of_append (fun hnil => ?_) hne
      have hlen := congrArg List.length (Path.map_names hup)
      simp [hnil] at hlen
    rw [route, hd] at h
    by_cases hq : nameLimit < q.text.utf8ByteSize
    · simp only [hq, if_true, Except.error.injEq] at h
      exact hc h.symm
    · simp only [hq, if_false] at h
      exact hne (ih (fun hm => hup (List.mem_cons_of_mem q hm)) h)

end FileSystem

end ExtTypes

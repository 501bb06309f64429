import ExtTypes.Proofs.FileSystem.Write
import Mathlib.Data.List.Induction

/-! How making a directory ends where it cannot be made. What decides are the files on the way and the
lengths of the names. Main statement: `makeDirs_cases`: the directories that are there already show
only in the path that is said to have too long a name. -/
namespace ExtTypes

/-- The path that leads from this anchor to a location. -/
def Anchor.pathTo (a : Anchor) (l : Location) : Path := ⟨a, l.map .name⟩

namespace FileSystem

/-- A name that can be looked for. -/
def IsShort (n : Name) : Prop := n.val.utf8ByteSize ≤ nameLimit

instance (n : Name) : Decidable (IsShort n) := inferInstanceAs (Decidable (_ ≤ _))

theorem exists_first_long {l : Location} (h : ¬ ∀ m ∈ l, IsShort m) :
    ∃ r n t, l = r ++ n :: t ∧ (∀ m ∈ r, IsShort m) ∧ ¬ IsShort n := by
  induction l with
  | nil => simp at h
  | cons m l ih =>
    by_cases hm : IsShort m
    · have hl : ¬ ∀ m ∈ l, IsShort m := fun hl => h (List.forall_mem_cons.mpr ⟨hm, hl⟩)
      obtain ⟨r, n, t, rfl, hr, hn⟩ := ih hl
      exact ⟨m :: r, n, t, rfl, List.forall_mem_cons.mpr ⟨hm, hr⟩, hn⟩
    · exact ⟨[], m, l, rfl, by simp, hm⟩

/-- The same places on the way to `l` hold files. -/
def SameFiles (l : Location) (fs fs' : FileSystem) : Prop :=
  ∀ r, r <+: l → ((∃ b, fs'.node? r = some (.file b)) ↔ ∃ b, fs.node? r = some (.file b))

variable {fs fs' : FileSystem} {a : Anchor} {l r t : Location} {n : Name} {b : ByteArray}

theorem SameFiles.refl (l : Location) (fs : FileSystem) : SameFiles l fs fs := fun _ _ => .rfl

/-- A short name does not stop a path in a directory. -/
theorem route_cons (hd : fs.node? l = some .dir) (hn : IsShort n) (ps : List Part) :
    fs.route l (.name n :: ps) = fs.route (l ++ [n]) ps := by
  have hlimit : ¬ nameLimit < (Part.name n).text.utf8ByteSize := Nat.not_lt.mpr hn
  rw [route, hd]
  simp only [hlimit, if_false]
  rfl

theorem route_of_node (hr : ∀ m ∈ r, IsShort m) (h : fs.node? (l ++ r) ≠ none) :
    fs.route l (r.map .name) = .ok (l ++ r) := by
  induction r generalizing l with
  | nil => simp [route]
  | cons m r ih =>
    have hd : fs.node? l = some .dir := node?_of_append (List.cons_ne_nil m r) h
    obtain ⟨hm, hr⟩ := List.forall_mem_cons.mp hr
    have hrest := ih (l := l ++ [m]) hr (by simpa using h)
    rw [List.map_cons, route_cons hd hm, hrest]
    simp

/-- No path leads on from a file. -/
theorem route_of_file (hr : ∀ m ∈ r, IsShort m) (h : fs.node? (l ++ r) = some (.file b))
    (p : Part) (ps : List Part) : fs.route l (r.map .name ++ p :: ps) = .error .notDirectory := by
  induction r generalizing l with
  | nil =>
    rw [List.append_nil] at h
    simp [route, h]
  | cons m r ih =>
    have hd : fs.node? l = some .dir := by
      apply node?_of_append (List.cons_ne_nil m r)
      simp [h]
    obtain ⟨hm, hr⟩ := List.forall_mem_cons.mp hr
    have hrest := ih (l := l ++ [m]) hr (by simpa using h)
    rwa [List.map_cons, List.cons_append, route_cons hd hm]

/-- Nor from where nothing is. -/
theorem route_of_none (hr : ∀ m ∈ r, IsShort m) (h : fs.node? (l ++ r) = none)
    (hfile : ∀ q, q <+: r → ∀ b, fs.node? (l ++ q) ≠ some (.file b)) (p : Part) (ps : List Part) :
    fs.route l (r.map .name ++ p :: ps) = .error .notFound := by
  induction r generalizing l with
  | nil =>
    rw [List.append_nil] at h
    simp [route, h]
  | cons m r ih =>
    cases hk : fs.node? l with
    | none => simp [route, hk]
    | some k =>
      cases k with
      | file b =>
        have hl := hfile [] List.nil_prefix b
        rw [List.append_nil] at hl
        exact absurd hk hl
      | dir =>
        obtain ⟨hm, hr⟩ := List.forall_mem_cons.mp hr
        rw [List.map_cons, List.cons_append, route_cons hk hm]
        apply ih hr (by simpa using h)
        intro q hq b hb
        refine hfile (m :: q) (List.cons_prefix_cons.mpr ⟨rfl, hq⟩) b ?_
        simpa using hb

theorem isAbsolute_pathTo (ha : a ≠ .relative) (l : Location) : (a.pathTo l).isAbsolute = true := by
  cases a with
  | relative => exact absurd rfl ha
  | root => rfl
  | doubleRoot => rfl

theorem locate_pathTo (ha : a ≠ .relative) (hfits : fits (a.pathTo l) = true) :
    fs.locate [] (a.pathTo l) = fs.route [] (l.map .name) := by
  have habs := isAbsolute_pathTo ha l
  rw [locate_eq, if_pos hfits, Path.start, if_pos habs]
  rfl

theorem collapse_pathTo (ha : a ≠ .relative) : (a.pathTo l).collapse [] = l := by
  have habs := isAbsolute_pathTo ha l
  rw [Path.collapse_of_isAbsolute habs]
  exact Location.foldl_step_names [] l

theorem mem_way_pathTo : r ∈ (a.pathTo l).way ↔ r <+: l := by
  have hup : Part.up ∉ (a.pathTo l).parts := by simp [Anchor.pathTo]
  rw [Path.mem_way_of_plain hup, Anchor.pathTo, Path.names_map]

/-- What cannot be looked for cannot be made. -/
theorem settleDir_of_locate {c : DiskCause} {p : Path} (hnul : hasNul p = false)
    (h : fs.locate [] p = .error c) : fs.settleDir [] p c = (.error (.disk c p.text), fs) := by
  unfold settleDir pathIsDir find
  rw [hnul, h]
  cases c <;> rfl

theorem makeDirs_pathTo (hnul : hasNul (a.pathTo l) = false) :
    fs.makeDirs [] (a.pathTo l) = fs.makeDirsBack [] a (l.map .name).reverse := by
  rw [makeDirs, if_neg (by simp [hnul])]
  rfl

/-- One more name at the end of a path: the first attempt decides, unless something is missing. -/
theorem makeDirsBack_concat (fs : FileSystem) (a : Anchor) (l : Location) (n : Name) :
    fs.makeDirsBack [] a ((l ++ [n]).map .name).reverse =
      match fs.makeOneDir [] (a.pathTo (l ++ [n])) with
      | .ok fs' => (.ok (), fs')
      | .error .notFound =>
        match fs.makeDirsBack [] a (l.map .name).reverse with
        | (.error e, fs') => (.error e, fs')
        | (.ok (), fs') =>
          match fs'.makeOneDir [] (a.pathTo (l ++ [n])) with
          | .ok fs'' => (.ok (), fs'')
          | .error .notFound => (.error (.disk .notFound (a.pathTo (l ++ [n])).text), fs')
          | .error c => fs'.settleDir [] (a.pathTo (l ++ [n])) c
      | .error c => fs.settleDir [] (a.pathTo (l ++ [n])) c := by
  have hback : ((l ++ [n]).map Part.name).reverse = .name n :: (l.map .name).reverse := by simp
  have hpath : (⟨a, (Part.name n :: (l.map Part.name).reverse).reverse⟩ : Path) =
      a.pathTo (l ++ [n]) := by
    simp [Anchor.pathTo]
  rw [hback, ← hpath]
  rfl

/-- An attempt that is refused for good is the last one. -/
theorem makeDirs_of_locate {c : DiskCause} (hl : l ≠ []) (hnul : hasNul (a.pathTo l) = false)
    (h : fs.locate [] (a.pathTo l) = .error c) (hc : c ≠ .notFound) :
    fs.makeDirs [] (a.pathTo l) = (.error (.disk c (a.pathTo l).text), fs) := by
  obtain ⟨l, n, rfl⟩ := List.eq_nil_or_concat l |>.resolve_left hl
  rw [List.concat_eq_append] at *
  have hone : fs.makeOneDir [] (a.pathTo (l ++ [n])) = .error c := by rw [makeOneDir, h]
  rw [makeDirs_pathTo hnul, makeDirsBack_concat, hone]
  cases c <;> first | exact absurd rfl hc | exact settleDir_of_locate hnul h

theorem node?_of_prefix (h : fs.node? l = some .dir) (hr : r <+: l) : fs.node? r = some .dir := by
  obtain ⟨t, rfl⟩ := hr
  by_cases ht : t = []
  · rwa [ht, List.append_nil] at h
  · exact node?_of_append ht (by simp [h])

theorem hasNul_pathTo_of_append (h : hasNul (a.pathTo (r ++ t)) = false) :
    hasNul (a.pathTo r) = false := by
  rw [Anchor.pathTo, List.map_append, hasNul_append, Bool.or_eq_false_iff] at h
  exact h.1

theorem fits_pathTo_of_append (h : fits (a.pathTo (r ++ t)) = true) :
    fits (a.pathTo r) = true := by
  rw [Anchor.pathTo, List.map_append] at h
  exact fits_above h

theorem makeOneDir_of_none (ha : a ≠ .relative) (hfits : fits (a.pathTo (r ++ n :: t)) = true)
    (hr : ∀ m ∈ r, IsShort m) (h : fs.node? r = none)
    (hfile : ∀ q, q <+: r → ∀ b, fs.node? q ≠ some (.file b)) :
    fs.makeOneDir [] (a.pathTo (r ++ n :: t)) = .error .notFound := by
  have hroute := route_of_none (l := []) hr h hfile (.name n) (t.map .name)
  rw [makeOneDir, locate_pathTo ha hfits, List.map_append, List.map_cons, hroute]

theorem locate_of_long (ha : a ≠ .relative) (hfits : fits (a.pathTo (r ++ n :: t)) = true)
    (hd : fs.node? r = some .dir) (hn : ¬ IsShort n) :
    fs.locate [] (a.pathTo (r ++ n :: t)) = .error .nameTooLong := by
  rw [locate_pathTo ha hfits, List.map_append]
  exact route_nameTooLong (l := []) (t.map .name) hd (Nat.not_le.mp hn)

theorem makeDirs_of_not_fits (ha : a ≠ .relative) (hnul : hasNul (a.pathTo l) = false)
    (hfits : fits (a.pathTo l) = false) :
    fs.makeDirs [] (a.pathTo l) = (.error (.disk .nameTooLong (a.pathTo l).text), fs) := by
  have hl : l ≠ [] := by
    rintro rfl
    cases a with
    | relative => exact ha rfl
    | root => revert hfits; decide
    | doubleRoot => revert hfits; decide
  apply makeDirs_of_locate hl hnul
  · rw [locate_eq, hfits]
    rfl
  · simp

/-- A file on the way, or at its end, is not replaced. -/
theorem makeDirs_of_file (ha : a ≠ .relative) (hnul : hasNul (a.pathTo (r ++ t)) = false)
    (hfits : fits (a.pathTo (r ++ t)) = true) (hr : ∀ m ∈ r, IsShort m)
    (h : fs.node? r = some (.file b)) :
    fs.makeDirs [] (a.pathTo (r ++ t)) =
      (.error (.disk (if t = [] then .alreadyExists else .notDirectory)
        (a.pathTo (r ++ t)).text), fs) := by
  cases t with
  | cons n t =>
    apply makeDirs_of_locate (by simp) hnul
    · rw [locate_pathTo ha hfits, List.map_append]
      exact route_of_file (l := []) hr h _ _
    · simp
  -- only here something is found at the end
  | nil =>
    rw [List.append_nil] at hnul hfits ⊢
    have hlocate : fs.locate [] (a.pathTo r) = .ok r := by
      rw [locate_pathTo ha hfits]
      exact route_of_node (l := []) hr (by simp [h])
    have hne : r ≠ [] := by
      rintro rfl
      simp [node?_nil] at h
    obtain ⟨r, n, rfl⟩ := List.eq_nil_or_concat r |>.resolve_left hne
    rw [List.concat_eq_append] at *
    have hone : fs.makeOneDir [] (a.pathTo (r ++ [n])) = .error .alreadyExists := by
      rw [makeOneDir, hlocate]
      simp [h]
    have hdir : fs.pathIsDir [] (a.pathTo (r ++ [n])) = .ok false := by
      unfold pathIsDir find
      rw [hnul, hlocate]
      simp [h, Except.map]
    rw [makeDirs_pathTo hnul, makeDirsBack_concat, hone]
    simp [settleDir, hdir]

theorem makeDirs_of_short (ha : a ≠ .relative) (hnul : hasNul (a.pathTo l) = false)
    (hfits : fits (a.pathTo l) = true) (hl : ∀ m ∈ l, IsShort m)
    (hfile : ∀ r, r <+: l → ∀ b, fs.node? r ≠ some (.file b)) :
    (fs.makeDirs [] (a.pathTo l)).1 = .ok () ∧
      ∀ q, (fs.makeDirs [] (a.pathTo l)).2.node? q = if q <+: l then some .dir else fs.node? q := by
  have habs := isAbsolute_pathTo ha l
  have hok : (fs.makeDirs [] (a.pathTo l)).1 = .ok () := by
    refine (makeDirs_eq_ok_iff habs).mpr ⟨hnul, hfits, fun q hq => ?_, fun r hr => ?_⟩
    · obtain ⟨m, hm, rfl⟩ := List.mem_map.mp hq
      exact hl m hm
    · exact hfile r (mem_way_pathTo.mp hr)
  refine ⟨hok, fun q => ?_⟩
  obtain ⟨hin, hout⟩ := node?_makeDirs habs hok (l := q)
  rw [mem_way_pathTo] at hin hout
  split
  · next hq => exact hin hq
  · next hq => exact hout hq

/-- Where a name is too long, what can be is made above it. If all that is there already, the whole
path is refused at once; else the refusal comes on the way back from there. -/
theorem makeDirs_of_long (ha : a ≠ .relative) (hnul : hasNul (a.pathTo (r ++ n :: t)) = false)
    (hfits : fits (a.pathTo (r ++ n :: t)) = true) (hr : ∀ m ∈ r, IsShort m) (hn : ¬ IsShort n)
    (hfile : ∀ q, q <+: r → ∀ b, fs.node? q ≠ some (.file b)) :
    (fs.makeDirs [] (a.pathTo (r ++ n :: t))).1 = .error (.disk .nameTooLong
        (a.pathTo (r ++ n :: if fs.node? r = some .dir then t else [])).text) ∧
      ∀ q, (fs.makeDirs [] (a.pathTo (r ++ n :: t))).2.node? q =
        if q <+: r then some .dir else fs.node? q := by
  by_cases hd : fs.node? r = some .dir
  · have hlocate := locate_of_long ha hfits hd hn
    rw [makeDirs_of_locate (by simp) hnul hlocate (by simp), if_pos hd]
    refine ⟨rfl, fun q => ?_⟩
    split
    · next hq => exact node?_of_prefix hd hq
    · rfl
  · rw [if_neg hd]
    have hnone : fs.node? r = none := by
      cases hk : fs.node? r with
      | none => rfl
      | some k =>
        cases k with
        | dir => exact absurd hk hd
        | file b => exact absurd hk (hfile r List.prefix_rfl b)
    -- the induction is on the names after the long one, from the last one back
    induction t using List.reverseRecOn with
    | nil =>
      have hnul' := hasNul_pathTo_of_append hnul
      have hone := makeOneDir_of_none ha hfits hr hnone hfile
      obtain ⟨hok, hnode⟩ := makeDirs_of_short ha hnul' (fits_pathTo_of_append hfits) hr hfile
      rw [makeDirs_pathTo hnul'] at hok hnode
      rcases hm : fs.makeDirsBack [] a (r.map .name).reverse with ⟨x, fs'⟩
      rw [hm] at hok hnode
      obtain rfl : x = .ok () := hok
      -- the second attempt gets as far as the long name
      have hd' : fs'.node? r = some .dir := by
        have hself := hnode r
        rwa [if_pos List.prefix_rfl] at hself
      have hlocate := locate_of_long ha hfits hd' hn
      have htwo : fs'.makeOneDir [] (a.pathTo (r ++ [n])) = .error .nameTooLong := by
        rw [makeOneDir, hlocate]
      have hwhole : fs.makeDirs [] (a.pathTo (r ++ [n])) =
          fs'.settleDir [] (a.pathTo (r ++ [n])) .nameTooLong := by
        rw [makeDirs_pathTo hnul, makeDirsBack_concat, hone]
        simp only [hm, htwo]
      rw [hwhole, settleDir_of_locate hnul hlocate]
      exact ⟨rfl, hnode⟩
    | append_singleton t m ih =>
      have hsplit : r ++ n :: (t ++ [m]) = r ++ n :: t ++ [m] := by simp
      have hone := makeOneDir_of_none ha hfits hr hnone hfile
      rw [hsplit] at hnul hfits hone ⊢
      have hnul' := hasNul_pathTo_of_append hnul
      obtain ⟨herror, hnode⟩ := ih hnul' (fits_pathTo_of_append hfits)
      rw [makeDirs_pathTo hnul'] at herror hnode
      rcases hm : fs.makeDirsBack [] a ((r ++ n :: t).map .name).reverse with ⟨x, fs'⟩
      rw [hm] at herror hnode
      obtain rfl : x = _ := herror
      have hwhole : fs.makeDirs [] (a.pathTo (r ++ n :: t ++ [m])) =
          (.error (.disk .nameTooLong (a.pathTo (r ++ [n])).text), fs') := by
        rw [makeDirs_pathTo hnul, makeDirsBack_concat, hone]
        simp only [hm]
      rw [hwhole]
      exact ⟨rfl, hnode⟩

/-- Making a directory comes to the same wherever the same places on its way hold files: it is
refused and nothing is done, or it is made, or all is made that is above the first name that is too
long. -/
theorem makeDirs_cases (ha : a ≠ .relative) (fs : FileSystem) (l : Location) :
    (∃ e, ∀ fs', SameFiles l fs fs' → fs'.makeDirs [] (a.pathTo l) = (.error e, fs')) ∨
      (∀ fs', SameFiles l fs fs' → (fs'.makeDirs [] (a.pathTo l)).1 = .ok () ∧
        ∀ q, (fs'.makeDirs [] (a.pathTo l)).2.node? q =
          if q <+: l then some .dir else fs'.node? q) ∨
      ∃ r n t, l = r ++ n :: t ∧ ¬ IsShort n ∧ ∀ fs', SameFiles l fs fs' →
        (∃ t', t' <+: t ∧ (fs'.makeDirs [] (a.pathTo l)).1 =
          .error (.disk .nameTooLong (a.pathTo (r ++ n :: t')).text)) ∧
        ∀ q, (fs'.makeDirs [] (a.pathTo l)).2.node? q =
          if q <+: r then some .dir else fs'.node? q := by
  cases hnul : hasNul (a.pathTo l) with
  | true =>
    refine .inl ⟨.value .nulInPath, fun fs' _ => ?_⟩
    rw [makeDirs, if_pos hnul]
  | false =>
  cases hfits : fits (a.pathTo l) with
  | false => exact .inl ⟨_, fun fs' _ => makeDirs_of_not_fits ha hnul hfits⟩
  | true =>
  by_cases hfile : ∃ r, r <+: l ∧ (∀ m ∈ r, IsShort m) ∧ ∃ b, fs.node? r = some (.file b)
  · obtain ⟨r, ⟨t, rfl⟩, hr, hb⟩ := hfile
    let c : DiskCause := if t = [] then .alreadyExists else .notDirectory
    refine .inl ⟨.disk c (a.pathTo (r ++ t)).text, fun fs' hsame => ?_⟩
    obtain ⟨b', hb'⟩ := (hsame r (List.prefix_append r t)).mpr hb
    exact makeDirs_of_file ha hnul hfits hr hb'
  -- no file can be reached, in either file system
  have hclear (fs' : FileSystem) (hsame : SameFiles l fs fs') (r : Location) (hrl : r <+: l)
      (hr : ∀ m ∈ r, IsShort m) (q : Location) (hq : q <+: r) (b : ByteArray) :
      fs'.node? q ≠ some (.file b) := by
    intro hb
    have hql := hq.trans hrl
    have hshort : ∀ m ∈ q, IsShort m := fun m hm => hr m (hq.subset hm)
    exact hfile ⟨q, hql, hshort, (hsame q hql).mp ⟨b, hb⟩⟩
  by_cases hl : ∀ m ∈ l, IsShort m
  · refine .inr (.inl fun fs' hsame => ?_)
    exact makeDirs_of_short ha hnul hfits hl (hclear fs' hsame l List.prefix_rfl hl)
  · obtain ⟨r, n, t, rfl, hr, hn⟩ := exists_first_long hl
    refine .inr (.inr ⟨r, n, t, rfl, hn, fun fs' hsame => ?_⟩)
    obtain ⟨herror, hnode⟩ :=
      makeDirs_of_long ha hnul hfits hr hn (hclear fs' hsame r (List.prefix_append r _) hr)
    refine ⟨⟨_, ?_, herror⟩, hnode⟩
    split
    · exact List.prefix_rfl
    · exact List.nil_prefix

end FileSystem

end ExtTypes

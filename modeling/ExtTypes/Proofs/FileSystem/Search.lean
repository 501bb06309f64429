import ExtTypes.Proofs.FileSystem.Listing

/-! What a search shows in two file systems that are alike. New directories can lead it further than
before, to a name that is too long to be looked for. Main statement: `Alike.find_cases`. -/
namespace ExtTypes.FileSystem

/-- The new directories `dirs` do not lead to a name that is too long on the way of the path. -/
def Unhindered (dirs : Set Location) (p : Path) : Prop :=
  dirs = ∅ ∨ Part.up ∉ p.parts ∧
    ∀ ps q, ps ++ [q] <+: p.parts → ps.foldl Location.step [] ∈ dirs →
      q.text.utf8ByteSize ≤ nameLimit

variable {files dirs : Set Location} {fs fs' : FileSystem} {p : Path}

theorem Unhindered.empty : Unhindered ∅ p := .inl rfl

/-- For a path that never goes up it is enough to look at the locations on its way. -/
theorem unhindered_of_plain (hp : p.isAbsolute) (hup : Part.up ∉ p.parts)
    (hlen : ∀ q ∈ dirs, ∀ n, q ++ [n] <+: p.collapse [] → n.val.utf8ByteSize ≤ nameLimit) :
    Unhindered dirs p := by
  refine .inr ⟨hup, fun ps q hpq hm => ?_⟩
  have hupq : Part.up ∉ ps ++ [q] := fun h => hup (hpq.subset h)
  have hups : Part.up ∉ ps := fun h => hupq (List.mem_append_left _ h)
  rw [Path.foldl_step_plain hups, List.nil_append] at hm
  cases q with
  | up => simp at hupq
  | name n =>
    refine hlen _ hm n ?_
    have hpre : Path.names (ps ++ [.name n]) <+: Path.names p.parts := hpq.filterMap _
    rw [Path.collapse_of_isAbsolute hp, Path.foldl_step_plain hup, List.nil_append]
    simpa [Path.names] using hpre

theorem route_ne_of_not_dir {l : Location} {q : Part} {ps : List Part}
    (hl : fs.node? l ≠ some .dir) : fs.route l (q :: ps) ≠ .error .nameTooLong := by
  rw [route]
  cases hk : fs.node? l with
  | none => simp
  | some k =>
    cases k with
    | file b => simp
    | dir => exact absurd hk hl

/-- Parts that go on where the first file system has nothing do so in new directories. -/
theorem Alike.route_of_none (h : Alike files dirs fs fs') {l : Location} {ps : List Part}
    (hup : Part.up ∉ ps) (hl : fs.node? l ≠ some .dir)
    (hlen : ∀ qs q, qs ++ [q] <+: ps → qs.foldl Location.step l ∈ dirs →
      q.text.utf8ByteSize ≤ nameLimit) :
    fs'.route l ps ≠ .error .nameTooLong := by
  induction ps generalizing l with
  | nil => simp [route]
  | cons q ps ih =>
    by_cases hk : fs'.node? l = some .dir
    -- the directory is new; what is below it is new as well, since there was nothing to be in
    · rw [route, hk]
      obtain ⟨hnew, hnone⟩ := (h.dir_or_new hk).resolve_left hl
      have hq : ¬ nameLimit < q.text.utf8ByteSize :=
        Nat.not_lt.mpr (hlen [] q (by simp) hnew)
      simp only [hq, if_false]
      simp only [List.mem_cons, not_or] at hup
      refine ih hup.2 (fun hd => ?_) fun qs r hqs hm => ?_
      · cases q with
        | up => exact hup.1 rfl
        | name n =>
          have hdir : fs.node? (l ++ [n]) ≠ none → fs.node? l = some .dir :=
            node?_of_append (List.cons_ne_nil n [])
          rw [Location.step] at hd
          exact hl (hdir (by simp [hd]))
      · exact hlen (q :: qs) r (List.cons_prefix_cons.mpr ⟨rfl, hqs⟩) hm
    · exact route_ne_of_not_dir hk

theorem Alike.route_ne_nameTooLong (h : Alike files dirs fs fs') {l : Location} {ps : List Part}
    (hd : dirs = ∅ ∨ Part.up ∉ ps ∧ ∀ qs q, qs ++ [q] <+: ps →
      qs.foldl Location.step l ∈ dirs → q.text.utf8ByteSize ≤ nameLimit)
    (hr : fs.route l ps ≠ .error .nameTooLong) : fs'.route l ps ≠ .error .nameTooLong := by
  induction ps generalizing l with
  | nil => simp [route]
  | cons q ps ih =>
    by_cases hl : fs.node? l = some .dir
    · rw [route, hl] at hr
      rw [route, h.dir hl]
      by_cases hq : nameLimit < q.text.utf8ByteSize
      · simp [hq] at hr
      · simp only [hq, if_false] at hr ⊢
        refine ih (hd.imp_right fun hplain => ⟨?_, fun qs r hqs => ?_⟩) hr
        · exact fun hm => hplain.1 (List.mem_cons_of_mem q hm)
        · exact hplain.2 (q :: qs) r (List.cons_prefix_cons.mpr ⟨rfl, hqs⟩)
    · rcases hd with rfl | ⟨hup, hlen⟩
      · have hl' : fs'.node? l ≠ some .dir := by
          intro hk
          rcases h.dir_or_new hk with hk | ⟨hm, -⟩
          · exact hl hk
          · exact hm
        exact route_ne_of_not_dir hl'
      · exact h.route_of_none hup hl hlen

/-- A search shows what it showed before, or it gets to the end of the path and shows what is there
now. -/
theorem Alike.find_cases (h : Alike files dirs fs fs') (hp : p.isAbsolute) (hd : Unhindered dirs p)
    {k? : Option Node} (hf : fs.find [] p = .ok k?) :
    fs'.find [] p = .ok k? ∨
      k? = fs.node? (p.collapse []) ∧ fs'.find [] p = .ok (fs'.node? (p.collapse [])) := by
  unfold find at hf ⊢
  cases hn : hasNul p with
  | true => exact .inl (by simpa [hn] using hf)
  | false =>
    simp only [hn, Bool.false_eq_true, if_false] at hf ⊢
    cases hl : fs.locate [] p with
    | ok l =>
      obtain ⟨-, -, rfl⟩ := locate_eq_ok.mp hl
      rw [h.locate hl]
      exact .inr ⟨by simpa [hl, eq_comm] using hf, rfl⟩
    -- the search ended early, and may get further now
    | error c =>
      have hc : c ≠ .nameTooLong := by
        rintro rfl
        simp [hl] at hf
      have hk : k? = none := by
        rw [hl] at hf
        cases c <;> simp_all
      have hfits : fits p = true := by
        by_contra hfits
        rw [locate_eq, if_neg hfits] at hl
        exact hc (by simpa using hl.symm)
      have hroute : fs.route [] p.parts = .error c := by
        simpa [locate_eq, hfits, Path.start, hp] using hl
      have hnot := h.route_ne_nameTooLong hd (by simpa [hroute] using hc)
      have hloc : fs'.locate [] p = fs'.route [] p.parts := by
        simp [locate_eq, hfits, Path.start, hp]
      rw [hloc]
      cases hr : fs'.route [] p.parts with
      | error c' =>
        have hc' : c' ≠ .nameTooLong := by
          rintro rfl
          exact hnot hr
        left
        cases c' <;> simp_all
      | ok l =>
        obtain ⟨hpass, rfl⟩ := route_eq_ok.mp hr
        rcases hd with rfl | ⟨hup, -⟩
        -- without new directories the way back is the same
        · have hback := route_eq_ok.mpr ⟨hpass.mono fun _ => h.symm.dir, rfl⟩
          rw [hback] at hroute
          cases hroute
        · right
          rw [Path.collapse_of_isAbsolute hp]
          exact ⟨hk.trans (node?_of_route_error hup hroute hc).symm, rfl⟩

/-- Where nothing new is at the end of a path, a search shows the same. -/
theorem Alike.find (h : Alike files dirs fs fs') (hp : p.isAbsolute) (hd : Unhindered dirs p)
    (hfile : p.collapse [] ∉ files) (hdir : p.collapse [] ∉ dirs) {k? : Option Node}
    (hf : fs.find [] p = .ok k?) : fs'.find [] p = .ok k? := by
  rcases h.find_cases hp hd hf with hf' | ⟨rfl, hf'⟩
  · exact hf'
  · rcases h (p.collapse []) with he | ⟨hm, -⟩ | ⟨hm, -⟩
    · rw [hf', he]
    · exact absurd hm hdir
    · exact absurd hm hfile

theorem Alike.pathIsDir_true (h : Alike files dirs fs fs') (hd : fs.pathIsDir [] p = .ok true) :
    fs'.pathIsDir [] p = .ok true := by
  obtain ⟨hn, hl, hd⟩ := pathIsDir_eq_true.mp hd
  exact pathIsDir_eq_true.mpr ⟨hn, h.locate hl, h.dir hd⟩

/-- A directory that was not there is still not there, or is one of the new ones. -/
theorem Alike.pathIsDir_false (h : Alike files dirs fs fs') (hp : p.isAbsolute)
    (hd : Unhindered dirs p) (hf : fs.pathIsDir [] p = .ok false) :
    fs'.pathIsDir [] p = .ok false ∨
      fs'.pathIsDir [] p = .ok true ∧ p.collapse [] ∈ dirs ∧ fs.node? (p.collapse []) = none := by
  unfold FileSystem.pathIsDir at hf ⊢
  cases hk : fs.find [] p with
  | error e => simp [hk, Except.map] at hf
  | ok k? =>
    have hk? : k? ≠ some .dir := by simpa [hk, Except.map] using hf
    rcases h.find_cases hp hd hk with hk' | ⟨rfl, hk'⟩
    · exact .inl (by simp [hk', Except.map, hk?])
    · rw [hk']
      by_cases hdir : fs'.node? (p.collapse []) = some .dir
      · exact .inr ⟨by simp [Except.map, hdir], (h.dir_or_new hdir).resolve_left hk?⟩
      · exact .inl (by simp [Except.map, hdir])

end ExtTypes.FileSystem

import ExtTypes.Proofs.Path.Relative

/-! The text that leads from one place to another, both given by texts. It goes up as far as it must
and then down, and no other text leads there in fewer components. Main statement:
`relativeText?_leads`. -/
namespace ExtTypes

namespace Location

theorem partsTo_eq_nil {s t : Location} : partsTo s t = [] ↔ s = t := by
  constructor
  · intro h
    have hto := foldl_step_partsTo [] s t
    rw [h] at hto
    exact hto
  · rintro rfl
    have h := partsTo_append s []
    rwa [List.append_nil] at h

/-- All steps up come first. -/
theorem partsTo_eq (s t : Location) :
    ∃ (k : Nat) (ns : List Name), partsTo s t = List.replicate k .up ++ ns.map .name := by
  fun_induction partsTo s t with
  | case1 s b t ih => exact ih
  | case2 a s b t hne => exact ⟨s.length + 1, b :: t, rfl⟩
  | case3 s t => exact ⟨s.length, t, rfl⟩

theorem length_partsTo_le (s t : Location) : (partsTo s t).length ≤ s.length + t.length := by
  fun_induction partsTo s t with
  | case1 s b t ih =>
    simp only [List.length_cons]
    omega
  | case2 a s b t hne => simp
  | case3 s t => simp

/-- No fewer parts lead to the same place. -/
theorem length_partsTo_foldl_step (l : Location) (ps : List Part) :
    (partsTo l (ps.foldl step l)).length ≤ ps.length := by
  obtain ⟨k, ns, heq, -, hlen⟩ := foldl_step_eq l ps
  calc (partsTo l (ps.foldl step l)).length
      = (partsTo (l.drop k) ns).length := by rw [heq, partsTo_take_append]
    _ ≤ (l.drop k).length + ns.length := length_partsTo_le _ _
    _ ≤ ps.length := hlen

end Location

namespace Path

variable {cwd : Location} {p q : Path} {n : Name}

theorem collapse_join (cwd : Location) (p q : Path) :
    (p.join q).collapse cwd = q.collapse (p.collapse cwd) := by
  unfold join
  cases hq : q.isAbsolute with
  | true => simp [collapse, hq]
  | false =>
    have hp : (⟨p.anchor, p.parts ++ q.parts⟩ : Path).isAbsolute = p.isAbsolute := rfl
    simp [collapse, hp, hq, List.foldl_append]

theorem collapse_child (cwd : Location) (p : Path) (s : String) :
    (p.child s).collapse cwd = (ofString s).collapse (p.collapse cwd) :=
  collapse_join cwd p (ofString s)

/-- Names on the way are those of the place where it starts, or of the path. -/
theorem mem_of_mem_collapse (h : n ∈ p.collapse cwd) : n ∈ cwd ∨ .name n ∈ p.parts := by
  obtain ⟨k, ns, heq, hns, -⟩ := Location.foldl_step_eq (if p.isAbsolute then [] else cwd) p.parts
  rw [collapse, heq] at h
  rcases List.mem_append.mp h with h | h
  · have hstart := List.mem_of_mem_take h
    split at hstart
    · cases hstart
    · exact .inl hstart
  · exact .inr (hns n h)

/-- The components of a text are the parts of the path that it says. -/
theorem splitAt_text {ps : List Part} (h : ps ≠ []) :
    Text.splitAt '/' (text ⟨.relative, ps⟩) = ps.map Part.text := by
  have htext : (text ⟨.relative, ps⟩).toList = body ps := by
    rw [toList_text, if_neg fun hps => h hps.2]
    rfl
  rw [Text.splitAt, htext, fields_body ps h, List.map_map]
  apply List.map_congr_left
  intro q _
  exact String.ofList_toList

theorem length_parts_ofString (s : String) :
    (ofString s).parts.length ≤ (Text.splitAt '/' s).length :=
  List.length_filterMap_le _ _

theorem text_eq_dot {ps : List Part} : text ⟨.relative, ps⟩ = "." ↔ ps = [] := by
  constructor
  · intro h
    have hsame : ofString (text ⟨.relative, ps⟩) = ofString "." := congrArg ofString h
    rw [ofString_text] at hsame
    exact congrArg Path.parts hsame
  · rintro rfl
    rfl

end Path

/-- The text hangs on the two places alone. -/
theorem relativeText?_of_ne (cwd : Location) {target : String} (start : String) (hne : target ≠ "") :
    relativeText? cwd target start = some (slashed (Path.text ⟨.relative,
      ((Path.ofString start).collapse cwd).partsTo ((Path.ofString target).collapse cwd)⟩)) := by
  rw [relativeText?, if_neg hne, relativeText]

/-- Without backslashes, it is that of the way between them. -/
theorem slashed_text_partsTo {cwd s : Location} {target : String} (htarget : '\\' ∉ target.toList)
    (hcwd : ∀ n ∈ cwd, '\\' ∉ n.val.toList) :
    slashed (Path.text ⟨.relative, s.partsTo ((Path.ofString target).collapse cwd)⟩) =
      Path.text ⟨.relative, s.partsTo ((Path.ofString target).collapse cwd)⟩ := by
  apply slashed_of_notMem
  apply Path.backslash_notMem_text
  intro n hn hc
  rcases Path.mem_of_mem_collapse (Location.mem_of_mem_partsTo hn) with hm | hm
  · exact hcwd n hm hc
  · exact htarget (Path.mem_of_mem_ofString hm hc)

/-- From the place of `start`, the relative text leads to the place of `target`. It is a dot if the two
are one place, and otherwise goes up first and then down by names, in no more components than any
text that leads there. All that counts are the two places. -/
theorem relativeText?_leads {cwd : Location} {target : String} (start : String) (hne : target ≠ "")
    (htarget : '\\' ∉ target.toList) (hcwd : ∀ n ∈ cwd, '\\' ∉ n.val.toList) :
    ∃ r, relativeText? cwd target start = some r ∧
      ((cwd.path.child start).child r).collapse [] = (cwd.path.child target).collapse [] ∧
      (r = "." ↔ (cwd.path.child start).collapse [] = (cwd.path.child target).collapse []) ∧
      (r ≠ "." →
        (∃ (k : Nat) (ns : List Name),
          Text.splitAt '/' r = List.replicate k ".." ++ ns.map Subtype.val) ∧
        ∀ s, (Path.ofString s).isAbsolute = false →
          ((cwd.path.child start).child s).collapse [] = (cwd.path.child target).collapse [] →
          (Text.splitAt '/' r).length ≤ (Text.splitAt '/' s).length) ∧
      ∀ cwd' target' start', target' ≠ "" →
        (cwd'.path.child start').collapse [] = (cwd.path.child start).collapse [] →
        (cwd'.path.child target').collapse [] = (cwd.path.child target).collapse [] →
        relativeText? cwd' target' start' = some r := by
  have hr := relativeText?_of_ne cwd start hne
  rw [slashed_text_partsTo htarget hcwd] at hr
  simp only [Path.collapse_child, Path.collapse_path]
  generalize hs : (Path.ofString start).collapse cwd = s at hr
  generalize ht : (Path.ofString target).collapse cwd = t at hr
  refine ⟨_, hr, ?_, ?_, fun hdot => ?_, fun cwd' target' start' hne' hs' ht' => ?_⟩
  · rw [Path.ofString_text, Path.collapse_partsTo]
  · rw [Path.text_eq_dot, Location.partsTo_eq_nil]
  · have hparts : s.partsTo t ≠ [] := fun hnil => hdot (Path.text_eq_dot.mpr hnil)
    rw [Path.splitAt_text hparts, List.length_map]
    constructor
    · obtain ⟨k, ns, heq⟩ := Location.partsTo_eq s t
      refine ⟨k, ns, ?_⟩
      rw [heq, List.map_append, List.map_replicate, Part.map_text_name]
      rfl
    · intro other hrel hleads
      have hfold : (Path.ofString other).parts.foldl Location.step s = t := by
        rwa [Path.collapse, hrel] at hleads
      calc (s.partsTo t).length
          ≤ (Path.ofString other).parts.length := by
            rw [← hfold]
            exact Location.length_partsTo_foldl_step s _
        _ ≤ (Text.splitAt '/' other).length := Path.length_parts_ofString other
  · rw [relativeText?_of_ne cwd' start' hne', hs', ht', ← hs, ← ht, slashed_text_partsTo htarget hcwd]

/-- From a directory that is below the current one to a place next to the current one. -/
theorem relativeText?_leads_up : ∃ (cwd : Location) (r : String),
    cwd.text = "/home/me" ∧ relativeText? cwd "../lib//x" "a/./b/" = some r ∧
      r = "../../../lib/x" ∧
      ((cwd.path.child "a/./b/").child r).collapse [] = (cwd.path.child "../lib//x").collapse [] ∧
      ∀ s, (Path.ofString s).isAbsolute = false →
        ((cwd.path.child "a/./b/").child s).collapse [] = (cwd.path.child "../lib//x").collapse [] →
        5 ≤ (Text.splitAt '/' s).length := by
  let cwd : Location := [⟨"home", by decide⟩, ⟨"me", by decide⟩]
  have hr : relativeText? cwd "../lib//x" "a/./b/" = some "../../../lib/x" := by decide +kernel
  have hne : "../lib//x" ≠ "" := by decide
  have htarget : '\\' ∉ "../lib//x".toList := by decide
  have hcwd : ∀ n ∈ cwd, '\\' ∉ n.val.toList := by decide
  obtain ⟨r, hr', hleads, -, hshort, -⟩ := relativeText?_leads "a/./b/" hne htarget hcwd
  obtain rfl : "../../../lib/x" = r := Option.some.inj (hr.symm.trans hr')
  have hlength : (Text.splitAt '/' "../../../lib/x").length = 5 := by decide +kernel
  refine ⟨cwd, _, by decide +kernel, hr, rfl, hleads, fun s hrel hs => ?_⟩
  rw [← hlength]
  exact (hshort (by decide)).2 s hrel hs

end ExtTypes

import ExtTypes.Proofs.FileSystem.Route
import ExtTypes.Proofs.Path.RoundTrip

/-! Paths from one location to another, as texts. They hold nothing but names of the target and dots,
so they lead there unless a name of the target holds a backslash. Main statement:
`collapse_child_relativeText`. -/
namespace ExtTypes

/-! ### Backslashes -/

theorem slashed_of_notMem {s : String} (h : '\\' ∉ s.toList) : slashed s = s := by
  unfold slashed Text.mapText
  rw [List.map_congr_left (g := id), List.map_id, String.ofList_toList]
  intro c hc
  refine if_neg ?_
  rintro rfl
  exact h hc

theorem backslash_notMem_slashed (s : String) : '\\' ∉ (slashed s).toList := by
  unfold slashed Text.mapText
  rw [String.toList_ofList, List.mem_map]
  rintro ⟨c, -, hc⟩
  split at hc
  · cases hc
  · next hne => exact hne hc

theorem mem_slashed {s : String} {c : Char} (h : c ∈ (slashed s).toList) :
    c = '/' ∨ c ∈ s.toList := by
  unfold slashed Text.mapText at h
  rw [String.toList_ofList, List.mem_map] at h
  obtain ⟨d, hd, rfl⟩ := h
  split
  · exact .inl rfl
  · exact .inr hd

theorem slashed_slashed (s : String) : slashed (slashed s) = slashed s :=
  slashed_of_notMem (backslash_notMem_slashed s)

/-! ### Parts -/

namespace Location

theorem partsTo_nil (t : Location) : partsTo [] t = t.map .name := by
  cases t <;> rfl

/-- What both locations start with is passed over. -/
theorem partsTo_append_append (l s t : Location) : partsTo (l ++ s) (l ++ t) = partsTo s t := by
  induction l with
  | nil => rfl
  | cons n l ih => rw [List.cons_append, List.cons_append, partsTo, if_pos rfl, ih]

theorem partsTo_append (l t : Location) : partsTo l (l ++ t) = t.map .name := by
  have h := partsTo_append_append l [] t
  rw [List.append_nil] at h
  rw [h, partsTo_nil]

theorem partsTo_take_append (l t : Location) (k : Nat) :
    partsTo l (l.take k ++ t) = partsTo (l.drop k) t := by
  have h := partsTo_append_append (l.take k) (l.drop k) t
  rwa [List.take_append_drop] at h

/-- The names on the way to a location are names of its own. -/
theorem mem_of_mem_partsTo {s t : Location} {n : Name} (h : .name n ∈ partsTo s t) : n ∈ t := by
  have hdown {k : Nat} {t : Location}
      (h : Part.name n ∈ List.replicate k Part.up ++ t.map .name) : n ∈ t := by
    rcases List.mem_append.mp h with h | h
    · cases List.eq_of_mem_replicate h
    · obtain ⟨m, hm, hmn⟩ := List.mem_map.mp h
      exact Part.name.inj hmn ▸ hm
  fun_induction partsTo s t with
  | case1 s a t ih => exact List.mem_cons_of_mem a (ih h)
  | case2 => exact hdown h
  | case3 => exact hdown h

/-- Parts leave a start of the location, and put names of theirs after it. It takes a part for each
name that is left behind or put there. -/
theorem foldl_step_eq (l : Location) (ps : List Part) :
    ∃ k ns, ps.foldl step l = l.take k ++ ns ∧ (∀ n ∈ ns, .name n ∈ ps) ∧
      (l.drop k).length + ns.length ≤ ps.length := by
  induction ps generalizing l with
  | nil => exact ⟨l.length, [], by simp⟩
  | cons p ps ih =>
    rw [List.foldl_cons]
    obtain ⟨k, ns, hl, hns, hlen⟩ := ih (l.step p)
    have hmem (n : Name) (hn : n ∈ ns) : .name n ∈ p :: ps := List.mem_cons_of_mem p (hns n hn)
    rw [List.length_drop] at hlen
    cases p with
    | up =>
      refine ⟨min k (l.length - 1), ns, ?_, hmem, ?_⟩
      · rw [hl, step, List.dropLast_eq_take, List.take_take]
      · rw [step, List.length_dropLast] at hlen
        rw [List.length_drop, List.length_cons]
        omega
    | name m =>
      rw [step, List.length_append, List.length_singleton] at hlen
      rcases Nat.lt_or_ge l.length k with hk | hk
      -- nothing of the location was left behind, so the new name is still there
      · refine ⟨l.length, m :: ns, ?_, List.forall_mem_cons.mpr ⟨List.mem_cons_self, hmem⟩, ?_⟩
        · rw [hl, step, List.take_of_length_le (by rwa [List.length_append]), List.take_length,
            List.append_assoc, List.singleton_append]
        · rw [List.drop_length, List.length_nil, List.length_cons, List.length_cons]
          omega
      · refine ⟨k, ns, ?_, hmem, ?_⟩
        · rw [hl, step, List.take_append_of_le_length hk]
        · rw [List.length_drop, List.length_cons]
          omega

end Location

namespace Path

/-- The names on the way to where a path leads are names of the path. -/
theorem mem_of_mem_partsTo_collapse {l : Location} {p : Path} {n : Name}
    (h : .name n ∈ l.partsTo ((l.path.join p).collapse [])) : .name n ∈ p.parts := by
  rw [join] at h
  split at h
  · next habs =>
    rw [collapse, if_pos habs] at h
    obtain ⟨k, ns, heq, hns, -⟩ := Location.foldl_step_eq [] p.parts
    rw [heq, List.take_nil, List.nil_append] at h
    exact hns n (Location.mem_of_mem_partsTo h)
  · have hfold : (⟨l.path.anchor, l.path.parts ++ p.parts⟩ : Path).collapse [] =
        p.parts.foldl Location.step l := by
      show (l.map Part.name ++ p.parts).foldl Location.step [] = _
      rw [List.foldl_append, Location.foldl_step_names, List.nil_append]
    rw [hfold] at h
    -- what is left of the location is passed over
    obtain ⟨k, ns, heq, hns, -⟩ := Location.foldl_step_eq l p.parts
    rw [heq, Location.partsTo_take_append] at h
    exact hns n (Location.mem_of_mem_partsTo h)

theorem mem_of_mem_ofString {s : String} {n : Name} {c : Char} (h : .name n ∈ (ofString s).parts)
    (hc : c ∈ n.val.toList) : c ∈ s.toList := by
  rw [parts_ofString] at h
  obtain ⟨f, hf, hpart⟩ := List.mem_filterMap.mp h
  have htext := Part.text_of_ofString? hpart
  have hn : n.val.toList = f := by
    rw [← String.toList_ofList (l := f), ← htext]
    rfl
  exact Text.mem_of_mem_fields hf (hn ▸ hc)

/-- A dot and a slash in front make a path relative, and change nothing else. -/
theorem ofString_dot_slash (s : String) : ofString ("./" ++ s) = ⟨.relative, (ofString s).parts⟩ := by
  have hlist : ("./" ++ s).toList = '.' :: '/' :: s.toList := by rw [String.toList_append]; rfl
  have hdot : Part.ofString? (String.ofList ['.']) = none := by decide
  have hparts : (ofString ("./" ++ s)).parts = (ofString s).parts := by
    rw [parts_ofString, parts_ofString, hlist]
    show List.filterMap _ (Text.fields '/' (['.'] ++ '/' :: s.toList)) = _
    rw [Text.fields_append (by decide)]
    exact List.filterMap_cons_none hdot
  show (⟨Anchor.ofChars ("./" ++ s).toList, (ofString ("./" ++ s)).parts⟩ : Path) = _
  rw [hparts, hlist]
  rfl

/-- The text of a path is made of its names, slashes and dots. -/
theorem mem_text {p : Path} {c : Char} (h : c ∈ p.text.toList) :
    c = '.' ∨ c = '/' ∨ ∃ n, .name n ∈ p.parts ∧ c ∈ n.val.toList := by
  rw [toList_text] at h
  split at h
  · exact .inl (List.mem_singleton.mp h)
  · rcases List.mem_append.mp h with h | h
    · refine .inr (.inl ?_)
      cases hanchor : p.anchor <;> simp [hanchor, Anchor.text] at h <;> exact h
    · rcases Text.mem_joinWith h with h | ⟨s, hs, h⟩
      · exact .inr (.inl (List.mem_singleton.mp h))
      · obtain ⟨q, hq, rfl⟩ := List.mem_map.mp hs
        cases q with
        | up => exact .inl (by simpa [Part.text] using h)
        | name n => exact .inr (.inr ⟨n, hq, h⟩)

theorem backslash_notMem_text {p : Path} (h : ∀ n, .name n ∈ p.parts → '\\' ∉ n.val.toList) :
    '\\' ∉ p.text.toList := by
  intro hmem
  rcases mem_text hmem with hc | hc | ⟨n, hn, hc⟩
  · cases hc
  · cases hc
  · exact h n hn hc

end Path

/-! ### Relative texts -/

section

variable {l : Location} {p : Path}

theorem relativeText_path (l : Location) (p : Path) :
    relativeText [] p l.path = slashed (Path.text ⟨.relative, l.partsTo (p.collapse [])⟩) := by
  rw [relativeText, Path.collapse_path]

theorem mem_relativeText {c : Char} (h : c ∈ (relativeText [] p l.path).toList) :
    c = '.' ∨ c = '/' ∨ ∃ n, .name n ∈ l.partsTo (p.collapse []) ∧ c ∈ n.val.toList := by
  rw [relativeText_path] at h
  rcases mem_slashed h with h | h
  · exact .inr (.inl h)
  · exact Path.mem_text h

/-- A text that is seen from the location has all that the way there has, slashes and dots aside. -/
theorem mem_of_mem_relativeText_child {s : String} {c : Char}
    (h : c ∈ (relativeText [] (l.path.child s) l.path).toList) :
    c = '.' ∨ c = '/' ∨ c ∈ s.toList := by
  rcases mem_relativeText h with h | h | ⟨n, hn, hc⟩
  · exact .inl h
  · exact .inr (.inl h)
  · exact .inr (.inr (Path.mem_of_mem_ofString (Path.mem_of_mem_partsTo_collapse hn) hc))

/-- Where no name on the way holds a backslash, the text is that of the way. -/
theorem ofString_relativeText
    (h : ∀ n, .name n ∈ l.partsTo (p.collapse []) → '\\' ∉ n.val.toList) :
    Path.ofString (relativeText [] p l.path) = ⟨.relative, l.partsTo (p.collapse [])⟩ := by
  rw [relativeText_path, slashed_of_notMem (Path.backslash_notMem_text h), Path.ofString_text]

/-- Where no name on the way holds a backslash, the text leads from the location to the target. -/
theorem collapse_child_relativeText
    (h : ∀ n, .name n ∈ l.partsTo (p.collapse []) → '\\' ∉ n.val.toList) :
    (l.path.child (relativeText [] p l.path)).collapse [] = p.collapse [] := by
  rw [Path.child, ofString_relativeText h]
  show ((l.map Part.name) ++ l.partsTo (p.collapse [])).foldl Location.step [] = p.collapse []
  rw [List.foldl_append, Location.foldl_step_names]
  have hto := Location.foldl_step_partsTo [] l (p.collapse [])
  simpa using hto

/-- With a dot and a slash in front it leads there as well. -/
theorem child_dot_slash_relativeText
    (h : ∀ n, .name n ∈ l.partsTo (p.collapse []) → '\\' ∉ n.val.toList) :
    l.path.child ("./" ++ relativeText [] p l.path) = l.path.child (relativeText [] p l.path) := by
  rw [Path.child, Path.child, Path.ofString_dot_slash, ofString_relativeText h]

end

end ExtTypes

import ExtTypes.FileSystem.Walk
import ExtTypes.Proofs.FileSystem.MakeDirs
import ExtTypes.Proofs.Path.Relative

/-! Paths of what is below a directory. Main statement: `relativeText_below`, the text of a path from
the directory shows the names that lead there. -/
namespace ExtTypes

theorem Text.joinText_singleton (sep a : String) : joinText sep [a] = a := String.ofList_toList

theorem Text.joinText_pair (sep a b : String) : joinText sep [a, b] = a ++ sep ++ b := by
  rw [← String.ofList_toList (s := a ++ sep ++ b), String.toList_append, String.toList_append]
  rfl

namespace Path

theorem text_names {names : List Name} (h : names ≠ []) :
    text ⟨.relative, names.map .name⟩ = Text.joinText "/" (names.map Subtype.val) := by
  rw [text, if_neg (by simpa using h), Part.map_text_name]
  exact String.empty_append

theorem text_name (n : Name) : text ⟨.relative, [.name n]⟩ = n.val := by
  rw [← List.map_singleton, text_names (List.cons_ne_nil n [])]
  exact Text.joinText_singleton "/" n.val

/-- The text of names leads to what they lead to. -/
theorem child_text (p : Path) (names : List Name) :
    p.child (text ⟨.relative, names.map .name⟩) = p.below names := by
  rw [child, ofString_text]
  rfl

theorem child_val (p : Path) (n : Name) : p.child n.val = p.below [n] := by
  rw [← text_name, ← List.map_singleton, child_text]

theorem below_below (p : Path) (names more : List Name) :
    (p.below names).below more = p.below (names ++ more) := by
  simp [below, join, isAbsolute]

theorem collapse_below {p : Path} (hp : p.isAbsolute) (names : List Name) :
    (p.below names).collapse [] = p.collapse [] ++ names := by
  have hbelow : (p.below names).isAbsolute := hp
  rw [collapse_of_isAbsolute hbelow, collapse_of_isAbsolute hp]
  change (p.parts ++ names.map Part.name).foldl Location.step [] = _
  rw [List.foldl_append, Location.foldl_step_names]

/-- The text of a path from a directory to what is below it shows the names. -/
theorem relativeText_below {p : Path} (hp : p.isAbsolute) {names : List Name} (h : names ≠ []) :
    relativeText [] (p.below names) p = slashed (Text.joinText "/" (names.map Subtype.val)) := by
  rw [relativeText, collapse_below hp, Location.partsTo_append, text_names h]

end Path

end ExtTypes

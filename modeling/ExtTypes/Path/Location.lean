import ExtTypes.Path.Basic

/-! Where a path leads when `..` simply drops the part before it, and the shortest path from one
location to another. Main statement: `collapse_partsTo`, the parts from one location to another
lead there. -/
namespace ExtTypes

namespace Location

/-- One part further on; nothing is above the root. -/
def step (l : Location) : Part → Location
  | .up => l.dropLast
  | .name n => l ++ [n]

def path (l : Location) : Path := ⟨.root, l.map .name⟩

def text (l : Location) : String := l.path.text

/-- The parts that lead from one location to another: up to what they share, then down. -/
def partsTo : Location → Location → List Part
  | a :: s, b :: t =>
    if a = b then partsTo s t else List.replicate (s.length + 1) .up ++ (b :: t).map .name
  | s, t => List.replicate s.length .up ++ t.map .name

end Location

namespace Path

/-- The location of `p` as seen from `cwd`, without a look at the disk. -/
def collapse (cwd : Location) (p : Path) : Location :=
  p.parts.foldl Location.step (if p.isAbsolute then [] else cwd)

end Path

/-- The path text that leads from the location of `start` to that of `target`, with slashes only;
`cwd` is where relative paths start. -/
def relativeText (cwd : Location) (target start : Path) : String :=
  slashed (Path.text ⟨.relative, (start.collapse cwd).partsTo (target.collapse cwd)⟩)

/-- `relativeText` for a text, which must name something. -/
def relativeText? (cwd : Location) (target start : String) : Option String :=
  if target = "" then none
  else some (relativeText cwd (Path.ofString target) (Path.ofString start))

namespace Location

theorem foldl_step_names (l t : Location) : (t.map Part.name).foldl step l = l ++ t := by
  induction t generalizing l with
  | nil => simp
  | cons n t ih => simp [ih, step]

theorem foldl_step_ups (l : Location) (k : Nat) :
    (List.replicate k Part.up).foldl step l = l.take (l.length - k) := by
  induction k generalizing l with
  | zero => simp
  | succ k ih =>
    simp only [List.replicate_succ, List.foldl_cons, ih, step, List.length_dropLast]
    rw [List.dropLast_eq_take, List.take_take]
    congr 1
    omega

/-- Following the parts from `s` to `t` leads to `t`. -/
theorem foldl_step_partsTo (l s t : Location) : (partsTo s t).foldl step (l ++ s) = l ++ t := by
  fun_induction partsTo s t generalizing l with
  | case1 s a t ih => simpa using ih (l ++ ([a] : Location))
  | case2 =>
    rw [List.foldl_append, foldl_step_ups, foldl_step_names]
    simp
  | case3 =>
    rw [List.foldl_append, foldl_step_ups, foldl_step_names]
    simp

end Location

namespace Path

@[simp] theorem collapse_path (cwd l : Location) : l.path.collapse cwd = l := by
  simpa [collapse, Location.path, isAbsolute] using Location.foldl_step_names [] l

theorem collapse_partsTo (s t : Location) : Path.collapse s ⟨.relative, s.partsTo t⟩ = t := by
  simpa [collapse, isAbsolute] using Location.foldl_step_partsTo [] s t

end Path

end ExtTypes

import ExtTypes.Text.Fields

/-! What all generated declarations share. -/
namespace ExtTypes.Declaration

def header : String := "// Generated by wxt"

/-- Lines with a line end after each. -/
def unlines (ls : List String) : String := String.ofList (ls.flatMap fun l => l.toList ++ ['\n'])

theorem unlines_eq_join (ls : List String) : unlines ls = String.join (ls.map (· ++ "\n")) := by
  apply String.toList_inj.mp
  induction ls with
  | nil => rfl
  | cons l ls ih =>
    rw [List.map_cons, String.join_cons, String.toList_append, ← ih, unlines, unlines,
      String.toList_ofList, String.toList_ofList, List.flatMap_cons, String.toList_append]
    rfl

end ExtTypes.Declaration

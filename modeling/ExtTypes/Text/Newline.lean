/-! Line ends: a carriage return, alone or before a line feed, counts as one line feed. -/
namespace ExtTypes.Text

def unifyNewlines : List Char → List Char
  | '\r' :: '\n' :: s => '\n' :: unifyNewlines s
  | '\r' :: s => '\n' :: unifyNewlines s
  | c :: s => c :: unifyNewlines s
  | [] => []

/-- `unifyNewlines` on strings. -/
def withNewlines (s : String) : String := String.ofList (unifyNewlines s.toList)

theorem return_notMem_unifyNewlines (s : List Char) : '\r' ∉ unifyNewlines s := by
  fun_induction unifyNewlines s with
  | case1 s ih => simpa using ih
  | case2 s _ ih => simpa using ih
  | case3 c s _ hc ih => simpa [ih] using fun h => hc h.symm
  | case4 => simp

end ExtTypes.Text

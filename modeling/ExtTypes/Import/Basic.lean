import ExtTypes.Failure

/-! Symbols that can be used without an import statement. Of two with the same exposed name the
first one stays. -/
namespace ExtTypes

structure Import where
  name : String
  source : String
  alias? : Option String
  deriving DecidableEq, Repr

namespace Import

/-- The name under which the symbol can be used: its alias, unless that is empty. -/
def exposed (i : Import) : String :=
  match i.alias? with
  | some a => if a = "" then i.name else a
  | none => i.name

theorem exposed_eq (i : Import) : i.exposed = (i.alias?.filter (· ≠ "")).getD i.name := by
  unfold exposed
  cases i.alias? with
  | none => rfl
  | some a => by_cases ha : a = "" <;> simp [ha, Option.filter]

/-- An import from named fields. -/
def ofFields (fields : List (String × String)) : Except Failure Import :=
  match fields.lookup "name", fields.lookup "from" with
  | none, _ => .error (.missingKey "name")
  | some _, none => .error (.missingKey "from")
  | some n, some s => .ok ⟨n, s, fields.lookup "as"⟩

/-- What is kept of the imports, and what is left out with the import that shadows it. -/
def sift : List Import → List Import → List Import × List (Import × Import)
  | _, [] => ([], [])
  | seen, i :: is =>
    match seen.find? (·.exposed = i.exposed) with
    | some j =>
      let (kept, dropped) := sift seen is
      (kept, (i, j) :: dropped)
    | none =>
      let (kept, dropped) := sift (seen ++ [i]) is
      (i :: kept, dropped)

/-- What is said of an import that another one shadows. -/
def shadowText (i j : Import) : String :=
  "Duplicate auto-import '" ++ i.exposed ++ "' from " ++ i.source ++
    " ignored (already provided by " ++ j.source ++ ")"

end Import

end ExtTypes

import ExtTypes.Json.Basic
import ExtTypes.Value.Scalar

/-! The values of a configuration. Only a plain value names something in a mapping. A value is looked
at one layer at a time, through `view`: what it holds in all can be far more than its text, and
without an end. -/
namespace ExtTypes

/-- A value in a table. What a collection holds stands at places of its own, so that one value can be
in many places, inside itself too. -/
inductive Object
  /-- A value of its own equals no other one. -/
  | scalar (s : Scalar) (isOwn : Bool)
  | list (items : List Nat)
  | pairs (items : List (Nat × Nat))
  | set (items : List Scalar)
  | map (entries : List (Scalar × Nat))
  deriving DecidableEq, Repr

/-- The values of a text, as far as there are some. -/
abbrev Objects := Array (Option Object)

/-- A value of a configuration: a JSON value, or what stands at a place of a table. -/
inductive Value
  | json (v : Json)
  | stored (objects : Objects) (place : Nat)
  | pair (a b : Value)

/-- What a value is, with a look at no more than what it holds itself. -/
inductive View
  | scalar (s : Scalar)
  | list (items : List Value)
  | pair (a b : Value)
  | set (items : List Scalar)
  | map (entries : List (Scalar × Value))

namespace View

def ofJson : Json → View
  | .null => .scalar .null
  | .bool b => .scalar (.bool b)
  | .int n => .scalar (.int n)
  | .real x => .scalar (.real x)
  | .str s => .scalar (.str s)
  | .arr items => .list (items.map .json)
  | .obj fields => .map (fields.map fun f => (.str f.1, .json f.2))

/-- The view of an object, whose table it is given. -/
def ofObject (objects : Objects) : Object → View
  | .scalar s _ => .scalar s
  | .list items => .list (items.map (.stored objects))
  | .pairs items => .list (items.map fun p => .pair (.stored objects p.1) (.stored objects p.2))
  | .set items => .set items
  | .map entries => .map (entries.map fun e => (e.1, .stored objects e.2))

def isTruthy : View → Bool
  | scalar .null => false
  | scalar (.bool b) => b
  | scalar (.int n) => n ≠ 0
  | scalar (.real x) => x.toInt? ≠ some 0
  | scalar (.str s) => s ≠ ""
  | scalar (.bytes bs) => bs ≠ []
  | scalar _ => true
  | list items => ! items.isEmpty
  | pair _ _ => true
  | set items => ! items.isEmpty
  | map entries => ! entries.isEmpty

end View

namespace Value

def emptyMap : Value := .json (.obj [])

/-- What is at a place where there is no value counts as none. -/
def view : Value → View
  | json v => .ofJson v
  | stored objects place =>
    match objects[place]?.join with
    | some o => .ofObject objects o
    | none => .scalar .null
  | pair a b => .pair a b

end Value

end ExtTypes

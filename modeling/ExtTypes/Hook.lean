import ExtTypes.Entry
import ExtTypes.Failure
import ExtTypes.Settings.Basic

/-! Hooks: functions that add entries. Each one sees what was collected before it, what the hooks
before it added included. -/
namespace ExtTypes

/-- One of the items that a hook gives; what is no entry is known by its type. -/
inductive Given
  | entry (e : Entry)
  | other (typeName : String)
  deriving DecidableEq, Repr

/-- What a hook returns: items, or something that has none. -/
inductive Returned
  | items (is : List Given)
  /-- Whether the value counts as true. -/
  | single (isTruthy : Bool)
  deriving DecidableEq, Repr

/-- The work of a hook. -/
abbrev HookWork := Settings → List Entry → Except Failure Returned

structure Hook where
  name : String
  /-- A plain function may return nothing at all. -/
  isFunction : Bool
  work : HookWork

/-- What can be found where a hook is looked for. -/
inductive HookObject
  | function (work : HookWork)
  | hook (name : String) (work : HookWork)
  | other

namespace Hook

/-- The hook that an object is; a function takes the name it was found under. -/
def ofObject (name : String) : HookObject → Except Failure Hook
  | .function work => .ok ⟨name, true, work⟩
  | .hook own work => .ok ⟨own, false, work⟩
  | .other => .error (.hook (.notHook name))

/-- The entries among the items, if nothing else is among them. -/
def entriesOf (name : String) : List Given → Except Failure (List Entry)
  | [] => .ok []
  | .entry e :: is => (entriesOf name is).map (e :: ·)
  | .other t :: _ => .error (.hook (.notEntry name t))

/-- The entries that a hook adds to those collected so far. -/
def added (h : Hook) (s : Settings) (seen : List Entry) : Except Failure (List Entry) :=
  match h.work s seen with
  | .error e =>
    if e.kind = .typeMismatch then .error (.hook (.notIterable h.name)) else .error e
  | .ok (.items is) => entriesOf h.name is
  | .ok (.single isTruthy) =>
    if h.isFunction && ! isTruthy then .ok [] else .error (.hook (.notIterable h.name))

/-- The entries that the hooks add one after the other. -/
def runAll (s : Settings) : List Hook → List Entry → Except Failure (List Entry)
  | [], _ => .ok []
  | h :: hs, seen =>
    match h.added s seen with
    | .error e => .error e
    | .ok es => (runAll s hs (seen ++ es)).map (es ++ ·)

end Hook

/-- Where hooks come from besides the settings: modules with what is in them, and entry points,
each of which has an object or the reason why it has none. -/
structure Plugins where
  modules : List (String × List (String × HookObject))
  entryPoints : List (String × Except String HookObject)

namespace Plugins

def isKnown (p : Plugins) (name : String) : Bool := (p.modules.lookup name).isSome

/-- Why the module with these parts, last one first, cannot be found: of the modules that it would
have to be in, the outermost one is missing, unless one of them is there. No module that is there
has others in it. -/
def missingText (p : Plugins) : List String → String
  | [] => ""
  | [part] => "No module named " ++ Text.quoted part
  | part :: above =>
    let outer := Text.joinText "." above.reverse
    if p.isKnown outer then
      "No module named " ++ Text.quoted (Text.joinText "." (part :: above).reverse) ++ "; " ++
        Text.quoted outer ++ " is not a package"
    else p.missingText above

/-- The object that `module:attribute` names. -/
def load (p : Plugins) (target : String) : Except Failure HookObject :=
  let cs := target.toList
  let source := String.ofList (cs.takeWhile (· ≠ ':'))
  let member := String.ofList ((cs.dropWhile (· ≠ ':')).drop 1)
  if source = "" ∨ member = "" then .error (.hook (.targetForm target))
  else if source.toList.head? = some '.' then .error (.type (.relativeModule source))
  else match p.modules.lookup source with
    | none =>
      .error (.hook (.notImported source (p.missingText (Text.splitAt '.' source).reverse)))
    | some members =>
      match members.lookup member with
      | some o => .ok o
      | none => .error (.hook (.noAttribute source member))

def namedHook (p : Plugins) (target : String) : Except Failure Hook := do
  Hook.ofObject target (← p.load target)

def entryPointHook : String × Except String HookObject → Except Failure Hook
  | (name, .ok o) => Hook.ofObject name o
  | (name, .error why) => .error (.hook (.notLoaded name why))

/-- The hooks with these names, then those of the entry points. -/
def discover (p : Plugins) (names : List String) : Except Failure (List Hook) := do
  let named ← names.mapM p.namedHook
  let others ← p.entryPoints.mapM entryPointHook
  return named ++ others

end Plugins

end ExtTypes

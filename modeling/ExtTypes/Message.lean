import ExtTypes.Failure

/-! Messages of one language. A bundle is a JSON object of messages and groups; what stands in a
group is named for it. -/
namespace ExtTypes

structure Message where
  name : String
  text : String
  description? : Option String
  deriving DecidableEq, Repr

namespace Message

/-- The name of `key` in a group; the root is the group without a name. -/
def nameIn (group key : String) : String := if group = "" then key else group ++ "_" ++ key

/-- The description, which may be missing or null. -/
def readDescription (name : String) : Option Json → Except BundleFault (Option String)
  | none => .ok none
  | some .null => .ok none
  | some (.str s) => .ok (some s)
  | some _ => .error (.descriptionShape name)

/-- A message from the fields of an object that has a text. -/
def ofFields (name : String) (fields : List (String × Json)) (text : Json) :
    Except BundleFault Message :=
  match text with
  | .str s => (readDescription name (fields.lookup "description")).map fun d => ⟨name, s, d⟩
  | _ => .error (.textShape name)

mutual

/-- The messages of what stands under `key`. -/
def collectValue (name : String) : Json → Except BundleFault (List Message)
  | .obj fields =>
    match fields.lookup "message" with
    | some text => (ofFields name fields text).map ([·])
    | none => if fields.isEmpty then .error (.noText name) else collectFields name fields
  | _ => .error (.messageShape name)

def collectFields (group : String) : List (String × Json) → Except BundleFault (List Message)
  | [] => .ok []
  | (key, v) :: fs =>
    match collectValue (nameIn group key) v with
    | .error e => .error e
    | .ok ms => (collectFields group fs).map (ms ++ ·)

end

/-- All messages of a bundle, in its order. -/
def ofBundle : Json → Except BundleFault (List Message)
  | .obj fields => collectFields "" fields
  | _ => .error .notObject

end Message

end ExtTypes

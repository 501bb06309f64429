import ExtTypes.Yaml.Node
import ExtTypes.Yaml.Token.Lexer

/-! The document of a YAML text, as a table of nodes. It is read token by token, and where no token
follows any more, what kept it from being read counts. -/
namespace ExtTypes.Yaml

/-- What can stand before a node. -/
structure Properties where
  anchor? : Option String
  /-- The full name of the tag. -/
  tag? : Option String

namespace Properties

/-- Whether a tag leaves it to the text what the node is. -/
def leavesOpen (p : Properties) : Bool := p.tag? = none || p.tag? = some "!"

def tagOr (p : Properties) (t : Tag) : Tag :=
  if p.leavesOpen then t else (p.tag?.map Tag.ofName).getD t

/-- The tag of a text. -/
def textTag (p : Properties) (text : String) (isPlain : Bool) : Tag :=
  if (isPlain && p.tag?.isNone) || p.tag? = some "!" then .ofText text else p.tagOr .str

end Properties

/-- The tokens that are left, why no others follow them, and the nodes so far. -/
structure Source where
  tokens : List Token
  stop : Failure
  anchors : List (String × Nat)
  nodes : Graph
  /-- How many collections are open. -/
  depth : Nat

/-- The greatest number of collections inside one another. -/
def depthLimit : Nat := 485

abbrev Reader (α : Type) := StateT Source (Except Failure) α

namespace Reader

def fail {α : Type} : Reader α := fun _ => refuse

/-- The next token. -/
def head : Reader Token := fun x =>
  match x.tokens with
  | [] => .error x.stop
  | t :: _ => .ok (t, x)

def drop : Reader Unit := modify fun x => { x with tokens := x.tokens.tail }

def isAtAny (ts : List Token) : Reader Bool := do return ts.contains (← head)

/-- A new node, which its name stands for from here on. -/
def add (p : Properties) (tag : Tag) (content : Content) : Reader Nat := fun x =>
  let place := x.nodes.size
  let x := { x with nodes := x.nodes.push ⟨tag, content⟩ }
  match p.anchor? with
  | none => .ok (place, x)
  | some a =>
    if (x.anchors.lookup a).isSome then refuse
    else .ok (place, { x with anchors := (a, place) :: x.anchors })

def empty : Reader Nat := add ⟨none, none⟩ .null (.scalar "")

/-- A collection, whose place is known while its content is read. -/
def collection (p : Properties) (tag : Tag) (start : Content) (read : Reader Content) :
    Reader Nat := do
  let place ← add p tag start
  if depthLimit ≤ (← get).depth then throw .tooDeep
  modify fun x => { x with depth := x.depth + 1 }
  let content ← read
  modify fun x => { x with nodes := x.nodes.setContent place content, depth := x.depth - 1 }
  return place

def sequence (p : Properties) (read : Reader (List Nat)) : Reader Nat :=
  collection p (p.tagOr .seq) (.seq []) (Content.seq <$> read)

def mapping (p : Properties) (read : Reader (List (Nat × Nat))) : Reader Nat :=
  collection p (p.tagOr .map) (.map []) (Content.map <$> read)

def named (anchor : String) : Reader Nat := fun x =>
  match x.anchors.lookup anchor with
  | some place => .ok (place, x)
  | none => refuse

end Reader

abbrev Handles := List (String × String)

namespace Document

open Reader

/-- The name that comes next, if one does. -/
def readAnchor? : Reader (Option String) := do
  match ← head with
  | .anchor a => drop; return some a
  | _ => return none

/-- The tag that comes next, if one does: its handle and what follows it. -/
def readTag? : Reader (Option (Option String × String)) := do
  match ← head with
  | .tag h s => drop; return some (h, s)
  | _ => return none

/-- The full name of a tag. -/
def resolveTag (handles : Handles) : Option (Option String × String) → Reader (Option String)
  | none => return none
  | some (none, suffix) => return some suffix
  | some (some h, suffix) =>
    match handles.lookup h with
    | some p => return some (p ++ suffix)
    | none => fail

/-- A name and a tag, in either order; each may be missing. -/
def readProperties (handles : Handles) : Reader Properties := do
  let before? ← readAnchor?
  let tag? ← readTag?
  let after? ← if before?.isNone && tag?.isSome then readAnchor? else pure none
  return ⟨before? <|> after?, ← resolveTag handles tag?⟩

/-- Which nodes may stand somewhere: in blocks, and as entries that are no deeper than their key. -/
structure Context where
  block : Bool
  flatEntries : Bool

def Context.flow : Context := ⟨false, false⟩
def Context.inBlock : Context := ⟨true, false⟩
def Context.afterKey : Context := ⟨true, true⟩

mutual

def readNode (handles : Handles) (k : Context) : Nat → Reader Nat
  | 0 => fail
  | fuel + 1 => do
    match ← head with
    | .alias a => drop; named a
    | _ =>
      let p ← readProperties handles
      match ← head with
      | .scalar text isPlain => drop; add p (p.textTag text isPlain) (.scalar text)
      | .flowSequenceStart => drop; sequence p (readFlowItems handles fuel true)
      | .flowMappingStart => drop; mapping p (readFlowEntries handles fuel true)
      | t =>
        if k.flatEntries && t = .blockEntry then sequence p (readFlatItems handles fuel)
        else if k.block && t = .blockSequenceStart then
          drop; sequence p (readBlockItems handles fuel)
        else if k.block && t = .blockMappingStart then
          drop; mapping p (readBlockEntries handles fuel)
        else if p.anchor?.isSome || p.tag?.isSome then
          add p (if p.leavesOpen then .null else p.tagOr .str) (.scalar "")
        else fail

/-- A node, or an empty one before a token that ends it. -/
def readUnless (handles : Handles) (ends : List Token) (k : Context) : Nat → Reader Nat
  | 0 => fail
  | fuel + 1 => do if ← isAtAny ends then empty else readNode handles k fuel

def readBlockItems (handles : Handles) : Nat → Reader (List Nat)
  | 0 => fail
  | fuel + 1 => do
    match ← head with
    | .blockEntry =>
      drop
      let n ← readUnless handles [.blockEntry, .blockEnd] .inBlock fuel
      return n :: (← readBlockItems handles fuel)
    | .blockEnd => drop; return []
    | _ => fail

def readFlatItems (handles : Handles) : Nat → Reader (List Nat)
  | 0 => fail
  | fuel + 1 => do
    match ← head with
    | .blockEntry =>
      drop
      let n ← readUnless handles [.blockEntry, .key, .value, .blockEnd] .inBlock fuel
      return n :: (← readFlatItems handles fuel)
    | _ => return []

/-- The value after a key, which may be missing. -/
def readValue (handles : Handles) (ends : List Token) (k : Context) : Nat → Reader Nat
  | 0 => fail
  | fuel + 1 => do
    match ← head with
    | .value => drop; readUnless handles ends k fuel
    | _ => empty

def readBlockEntries (handles : Handles) : Nat → Reader (List (Nat × Nat))
  | 0 => fail
  | fuel + 1 => do
    let ends := [.key, .value, .blockEnd]
    match ← head with
    | .blockEnd => drop; return []
    | .key =>
      drop
      let key ← readUnless handles ends .afterKey fuel
      let v ← readValue handles ends .afterKey fuel
      return (key, v) :: (← readBlockEntries handles fuel)
    | _ => fail

/-- A key and its value between brackets, after the mark of the key. -/
def readFlowEntry (handles : Handles) (ends : List Token) : Nat → Reader (Nat × Nat)
  | 0 => fail
  | fuel + 1 => do
    let key ← readUnless handles (.value :: ends) .flow fuel
    let v ← readValue handles ends .flow fuel
    return (key, v)

def readFlowItems (handles : Handles) : Nat → Bool → Reader (List Nat)
  | 0, _ => fail
  | fuel + 1, isFirst => do
    if ← isAtAny [.flowSequenceEnd] then drop; return []
    else
      if ! isFirst then
        if ← isAtAny [.flowEntry] then drop else fail
      match ← head with
      | .flowSequenceEnd => drop; return []
      | .key =>
        drop
        let ends := [.flowEntry, .flowSequenceEnd]
        let n ← mapping ⟨none, none⟩ (List.singleton <$> readFlowEntry handles ends fuel)
        return n :: (← readFlowItems handles fuel false)
      | _ =>
        let n ← readNode handles .flow fuel
        return n :: (← readFlowItems handles fuel false)

def readFlowEntries (handles : Handles) : Nat → Bool → Reader (List (Nat × Nat))
  | 0, _ => fail
  | fuel + 1, isFirst => do
    if ← isAtAny [.flowMappingEnd] then drop; return []
    else
      if ! isFirst then
        if ← isAtAny [.flowEntry] then drop else fail
      match ← head with
      | .flowMappingEnd => drop; return []
      | .key =>
        drop
        let e ← readFlowEntry handles [.flowEntry, .flowMappingEnd] fuel
        return e :: (← readFlowEntries handles fuel false)
      | _ =>
        let key ← readNode handles .flow fuel
        let v ← empty
        return (key, v) :: (← readFlowEntries handles fuel false)

end

/-- The handles that the directives before a document add; the version may be given once. -/
def readDirectives : Nat → Bool → Handles → Reader Handles
  | 0, _, _ => fail
  | fuel + 1, seen, hs => do
    match ← head with
    | .version major =>
      drop
      if seen || major ≠ 1 then fail else readDirectives fuel true hs
    | .tagPrefix h p =>
      drop
      if (hs.lookup h).isSome then fail else readDirectives fuel seen ((h, p) :: hs)
    | .otherDirective => drop; readDirectives fuel seen hs
    | _ => return hs

def standardHandles : Handles := [("!", "!"), ("!!", standardTags)]

/-- Whether a token belongs to what stands between documents. -/
def isBetween : Token → Bool
  | .version _ | .tagPrefix _ _ | .otherDirective | .documentStart | .documentEnd | .streamEnd =>
    true
  | _ => false

def skipEnds : Nat → Reader Unit
  | 0 => fail
  | fuel + 1 => do if ← isAtAny [.documentEnd] then drop; skipEnds fuel

/-- Nothing but ends of the document may follow it. -/
def expectEnd (fuel : Nat) : Reader Unit := do
  skipEnds fuel
  if ! (← isAtAny [.streamEnd]) then
    let _ ← readDirectives fuel false []
    let _ ← head
    fail

/-- The one document of a text: the place of its root; nothing if there is none. -/
def readRoot? (fuel : Nat) : Reader (Option Nat) := do
  match ← head with
  | .version _ | .tagPrefix _ _ | .otherDirective | .documentStart =>
    let handles := (← readDirectives fuel false []) ++ standardHandles
    if ← isAtAny [.documentStart] then drop else fail
    let n ← if isBetween (← head) then empty else readNode handles .inBlock fuel
    expectEnd fuel
    return some n
  | .streamEnd => return none
  | _ =>
    let n ← readNode standardHandles .inBlock fuel
    expectEnd fuel
    return some n

end Document

/-- The nodes of a text and the place of the root; nothing if it holds no document. -/
def document? (text : String) : Except Failure (Option (Graph × Nat)) := do
  let ts := tokens text.toList
  let (root?, x) ← (Document.readRoot? (3 * ts.ready.length + 3)).run ⟨ts.ready, ts.stop, [], #[], 0⟩
  return root?.map fun root => (x.nodes, root)

end ExtTypes.Yaml

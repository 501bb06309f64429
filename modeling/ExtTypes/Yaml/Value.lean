import ExtTypes.Value.Basic
import ExtTypes.Yaml.Document
import ExtTypes.Yaml.Scalar

/-! The values of the nodes of a document. A collection is there before what is in it, so that it can
be in itself: collections are filled later, in the order in which they were met. -/
namespace ExtTypes.Yaml

namespace Graph

/-- The greatest number of mappings on the way to a text. -/
def chainLimit : Nat := 980

/-- The text of a node: its own, or in a mapping that of what stands under an equals sign. -/
def textFrom (g : Graph) : Nat → Nat → Except Failure String
  | 0, _ => .error .tooDeep
  | fuel + 1, i =>
    match g.contentAt i with
    | .scalar text => .ok text
    | .seq _ => refuse
    | .map es =>
      match es.find? fun e => g.tagAt e.1 = .value with
      | some (_, v) => textFrom g fuel v
      | none => refuse

def textAt (g : Graph) (i : Nat) : Except Failure String := g.textFrom chainLimit i

/-- The text of a moment, which has to stand in the node itself. -/
def momentTextAt (g : Graph) (i : Nat) : Except Failure String :=
  match g.textAt i, g.contentAt i with
  | .ok _, .map _ => .error (.type .listAsText)
  | r, _ => r

def isMerge (g : Graph) (e : Nat × Nat) : Bool := g.tagAt e.1 = .merge

/-- How many entries take in others. Taking in makes them fewer, so that it ends. -/
def mergeCount (g : Graph) : Nat :=
  (List.range g.size).foldl (fun n i => n + ((g.entriesAt i).filter g.isMerge).length) 0

/-- The table in which a name that is an equals sign is a name like others in the mapping at `i`. -/
def plainNames (g : Graph) (i : Nat) : Graph :=
  (g.entriesAt i).foldl
    (fun g e => if g.tagAt e.1 = .value then g.setTag e.1 .str else g) g

/-- The table in which the mapping at `i` has taken in the entries that it asks for, before its own.
`taken` is what it has taken in so far; of several mappings the last one comes first. -/
def flattenFrom : Nat → Nat → List (Nat × Nat) → Graph → Except Failure Graph
  | 0, _, _, _ => refuse
  | fuel + 1, i, taken, g =>
    let es := g.entriesAt i
    let before := es.takeWhile (! g.isMerge ·)
    match es.dropWhile (! g.isMerge ·) with
    | [] => .ok ((g.plainNames i).setContent i (.map (taken ++ es)))
    | (_, source) :: after => do
      let g := g.setContent i (.map (before ++ after))
      match g.contentAt source with
      | .map _ =>
        let g ← flattenFrom fuel source [] g
        flattenFrom fuel i (taken ++ g.entriesAt source) g
      | .seq items =>
        let (parts, g) ← items.foldlM (fun ((parts, g) : List (List (Nat × Nat)) × Graph) m =>
          match g.contentAt m with
          | .map _ => (flattenFrom fuel m [] g).map fun g => (g.entriesAt m :: parts, g)
          | _ => refuse) ([], g)
        flattenFrom fuel i (taken ++ parts.flatten) g
      | .scalar _ => refuse

/-- `flattenFrom` at a mapping; `fuel` is more than the entries that take in others. -/
def flatten (g : Graph) (fuel i : Nat) : Except Failure Graph :=
  if (g.entriesAt i).any g.isMerge then g.flattenFrom fuel i [] else .ok (g.plainNames i)

end Graph

/-- Values under way: the nodes, the values so far, and the collections that are still empty, the
last one first. -/
structure Site where
  nodes : Graph
  objects : Objects
  pending : List Nat
  /-- More than the entries that take in others. -/
  merges : Nat

abbrev Builder (α : Type) := StateT Site (Except Failure) α

namespace Builder

def put (i : Nat) (o : Object) : Builder Unit :=
  modify fun x => { x with objects := x.objects.setIfInBounds i (some o) }

/-- A collection that is filled later. -/
def putEmpty (i : Nat) (o : Object) : Builder Unit := do
  put i o
  modify fun x => { x with pending := i :: x.pending }

/-- Makes the value at a place; a collection is empty at first. -/
def make (i : Nat) : Builder Unit := do
  let x ← get
  if (x.objects[i]?.join).isSome then return
  match x.nodes.tagAt i with
  | .seq => putEmpty i (.list [])
  | .map => putEmpty i (.map [])
  | .set => putEmpty i (.set [])
  | .omap | .pairs => putEmpty i (.pairs [])
  | t =>
    match Scalars.ofText? t with
    | none => throw (.config .unreadable)
    | some read =>
      let text ← if t = .timestamp then x.nodes.momentTextAt i else x.nodes.textAt i
      let s ← read text
      put i (.scalar s (s = .real .nan && ! Scalars.isSharedNan text))

/-- A name in a mapping, with its place if it equals nothing but itself. -/
abbrev Key := Scalar × Option Nat

def sameKey (a b : Key) : Bool := a.2 = b.2 && a.1.same b.1

/-- The entries with `v` under `k`: in the place of an equal name, or at the end. -/
def putKey (k : Key) (v : Nat) : List (Key × Nat) → List (Key × Nat)
  | [] => [(k, v)]
  | e :: es => if sameKey e.1 k then (e.1, v) :: es else e :: putKey k v es

/-- The name that stands at a place. A collection is no name. -/
def keyAt (i : Nat) : Builder Key := do
  match (← get).objects[i]?.join with
  | some (.scalar s isOwn) => return (s, if isOwn then some i else none)
  | _ => throw (.config .unreadable)

/-- The entries of the mapping at a place, with those that it takes in. -/
def entries (i : Nat) : Builder (List (Key × Nat)) := do
  let x ← get
  match x.nodes.contentAt i with
  | .map _ =>
    let nodes ← x.nodes.flatten x.merges i
    modify fun x => { x with nodes }
    (nodes.entriesAt i).foldlM (fun es (k, v) => do
      make k
      let key ← keyAt k
      make v
      return putKey key v es) []
  | _ => throw (.config .unreadable)

/-- The pair that the mapping at a place is. -/
def pair (i : Nat) : Builder (Nat × Nat) := do
  match (← get).nodes.contentAt i with
  | .map [(k, v)] =>
    make k
    make v
    return (k, v)
  | _ => throw (.config .unreadable)

/-- The items of the sequence at a place. -/
def items (i : Nat) : Builder (List Nat) := do
  match (← get).nodes.contentAt i with
  | .seq is => return is
  | _ => throw (.config .unreadable)

/-- Puts into a collection what is in it. -/
def fill (i : Nat) : Builder Unit := do
  match (← get).nodes.tagAt i with
  | .seq =>
    let is ← items i
    is.forM make
    put i (.list is)
  | .map => put i (.map ((← entries i).map fun e => (e.1.1, e.2)))
  | .set => put i (.set ((← entries i).map fun e => e.1.1))
  | _ => put i (.pairs (← (← items i).mapM pair))

/-- Fills the collections that are empty, then those that were met while they were filled, and so
on. -/
def fillAll : Nat → Builder Unit
  | 0 => pure ()
  | rounds + 1 => do
    let batch := (← get).pending.reverse
    if batch.isEmpty then return
    modify fun x => { x with pending := [] }
    batch.forM fill
    fillAll rounds

end Builder

/-- The value that a text holds; nothing if it is empty. -/
def load (text : String) : Except Failure Value := do
  match ← document? text with
  | none => return .json .null
  | some (nodes, root) =>
    let build : Builder Unit := do
      Builder.make root
      Builder.fillAll (nodes.size + 1)
    let (_, x) ← build.run ⟨nodes, .replicate nodes.size none, [], nodes.mergeCount + 1⟩
    return .stored x.objects root

end ExtTypes.Yaml

import ExtTypes.Yaml.Tag

/-! Nodes of a YAML document, each with a place in a table. A node with a name may stand in many
places, inside itself too. -/
namespace ExtTypes.Yaml

/-- What is in a node; other nodes are given by their places. -/
inductive Content
  | scalar (text : String)
  | seq (items : List Nat)
  | map (entries : List (Nat × Nat))
  deriving DecidableEq, Repr

structure Node where
  tag : Tag
  content : Content
  deriving DecidableEq, Repr

abbrev Graph := Array Node

namespace Graph

/-- The tag of the node at a place of the table. -/
def tagAt (g : Graph) (i : Nat) : Tag := (g[i]?.map Node.tag).getD .null

def contentAt (g : Graph) (i : Nat) : Content := (g[i]?.map Node.content).getD (.scalar "")

/-- The entries of a mapping; other nodes have none. -/
def entriesAt (g : Graph) (i : Nat) : List (Nat × Nat) :=
  match g.contentAt i with
  | .map es => es
  | _ => []

def setTag (g : Graph) (i : Nat) (t : Tag) : Graph := g.modify i fun n => { n with tag := t }

def setContent (g : Graph) (i : Nat) (c : Content) : Graph :=
  g.modify i fun n => { n with content := c }

end Graph

end ExtTypes.Yaml

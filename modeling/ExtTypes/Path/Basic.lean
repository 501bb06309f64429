import ExtTypes.Text.Fields

/-! Names, paths and locations. A path is what a text says: `..` stays in it, since only the disk
knows where it leads. A location is a place below the root and has nothing left to resolve. -/
namespace ExtTypes

def IsName (s : String) : Prop := s ≠ "" ∧ s ≠ "." ∧ s ≠ ".." ∧ '/' ∉ s.toList

instance (s : String) : Decidable (IsName s) := inferInstanceAs (Decidable (_ ∧ _))

/-- The name of something in a directory. -/
abbrev Name := { s : String // IsName s }

inductive Part
  | up
  | name (n : Name)
  deriving DecidableEq

/-- How a path starts. Two slashes, and no third, are an anchor of their own. -/
inductive Anchor
  | relative
  | root
  | doubleRoot
  deriving DecidableEq, Repr

structure Path where
  anchor : Anchor
  parts : List Part
  deriving DecidableEq

/-- The names that lead from the root to a place. -/
abbrev Location := List Name

namespace Part

def text : Part → String
  | up => ".."
  | name n => n.val

/-- Nothing for the pieces that do not count: the empty one and `.`. -/
def ofString? (s : String) : Option Part :=
  if h : IsName s then some (.name ⟨s, h⟩) else if s = ".." then some .up else none

theorem ofString?_text (p : Part) : ofString? p.text = some p := by
  cases p with
  | up => simp [ofString?, text, IsName]
  | name n => simp [ofString?, text, n.property]

end Part

namespace Anchor

def text : Anchor → String
  | relative => ""
  | root => "/"
  | doubleRoot => "//"

def ofChars : List Char → Anchor
  | '/' :: '/' :: '/' :: _ => .root
  | '/' :: '/' :: _ => .doubleRoot
  | '/' :: _ => .root
  | _ => .relative

end Anchor

namespace Path

def ofString (s : String) : Path :=
  ⟨.ofChars s.toList, (Text.splitAt '/' s).filterMap Part.ofString?⟩

def text (p : Path) : String :=
  if p.anchor = .relative ∧ p.parts = [] then "."
  else p.anchor.text ++ Text.joinText "/" (p.parts.map Part.text)

def isAbsolute (p : Path) : Bool := p.anchor ≠ .relative

/-- The path `q` as seen from `p`: an absolute `q` stands for itself. -/
def join (p q : Path) : Path :=
  if q.isAbsolute then q else ⟨p.anchor, p.parts ++ q.parts⟩

/-- `join` with the path that a text says. -/
def child (p : Path) (s : String) : Path := p.join (ofString s)

/-- The path without its last part. -/
def parent (p : Path) : Path := ⟨p.anchor, p.parts.dropLast⟩

/-- The text of the last part. -/
def lastName (p : Path) : String := ((p.parts.getLast?).map Part.text).getD ""

end Path

/-- A name cut before its last dot. Both sides have text besides the dot, else nothing is cut. -/
def cutSuffix (s : List Char) : List Char × List Char :=
  let rest := s.reverse.dropWhile (· ≠ '.')
  let stem := (rest.drop 1).reverse
  let suffix := s.drop stem.length
  if rest = [] ∨ stem = [] ∨ suffix = ['.'] then (s, []) else (stem, suffix)

namespace Path

/-- The suffix of the last part, its dot included. -/
def suffix (p : Path) : String := String.ofList (cutSuffix p.lastName.toList).2

/-- The last part without its suffix. -/
def stem (p : Path) : String := String.ofList (cutSuffix p.lastName.toList).1

end Path

theorem cutSuffix_append (s : List Char) : (cutSuffix s).1 ++ (cutSuffix s).2 = s := by
  unfold cutSuffix
  dsimp only
  split
  · simp
  · have h : (s.reverse.takeWhile (· ≠ '.')) ++ (s.reverse.dropWhile (· ≠ '.')) = s.reverse :=
      List.takeWhile_append_dropWhile
    generalize ht : s.reverse.takeWhile (· ≠ '.') = t at h
    generalize hr : s.reverse.dropWhile (· ≠ '.') = r at h
    have hs : s = r.reverse ++ t.reverse := by
      rw [← List.reverse_append, h, List.reverse_reverse]
    cases r with
    | nil => simp
    | cons c r => simp [hs]

/-- The text with every backslash turned into a slash. -/
def slashed (s : String) : String := Text.mapText (fun c => if c = '\\' then '/' else c) s

end ExtTypes

/-! A place in a YAML text: the text from there on, how long that is, and where in its line it
starts. -/
namespace ExtTypes.Yaml

def isBreak (c : Char) : Bool := c = '\n' || c = '\x85' || c = '\u2028' || c = '\u2029'

/-- The mark at the start of a text, which has no width. -/
def byteOrderMark : Char := '\uFEFF'

structure Cursor where
  rest : List Char
  /-- The number of characters from there on. -/
  left : Nat
  line : Nat
  column : Nat
  left_eq : left = rest.length
  deriving DecidableEq, Repr

namespace Cursor

def start (text : List Char) : Cursor := ⟨text, text.length, 0, 0, rfl⟩

def next (c : Cursor) : Cursor :=
  match h : c.rest with
  | [] => c
  | ch :: s =>
    have left_eq : c.left - 1 = s.length := by simp [c.left_eq, h]
    if isBreak ch then ⟨s, c.left - 1, c.line + 1, 0, left_eq⟩
    else ⟨s, c.left - 1, c.line, if ch = byteOrderMark then c.column else c.column + 1, left_eq⟩

theorem rest_next (c : Cursor) : c.next.rest = c.rest.tail := by
  unfold next
  split
  · simp [*]
  · split <;> simp [*]

def forward (c : Cursor) : Nat → Cursor
  | 0 => c
  | n + 1 => c.next.forward n

theorem rest_forward (c : Cursor) (n : Nat) : (c.forward n).rest = c.rest.drop n := by
  induction n generalizing c with
  | zero => rfl
  | succ n ih => rw [forward, ih, rest_next, List.drop_tail]

/-- The character `k` places on. -/
def peek? (c : Cursor) (k : Nat) : Option Char := c.rest[k]?

/-- The characters that fulfil `p`, and the place after them. -/
def span (c : Cursor) (p : Char → Bool) : List Char × Cursor :=
  let taken := c.rest.takeWhile p
  (taken, c.forward taken.length)

def skip (c : Cursor) (p : Char → Bool) : Cursor := (c.span p).2

def skipSpaces (c : Cursor) : Cursor := c.skip (· = ' ')

/-- The place after a comment, if one starts here. -/
def skipComment (c : Cursor) : Cursor :=
  match c.rest with
  | '#' :: _ => c.skip (! isBreak ·)
  | _ => c

/-- The line break at this place, as it counts, and the place after it. -/
def lineBreak? (c : Cursor) : Option (Char × Cursor) :=
  match c.rest with
  | ch :: _ =>
    if isBreak ch then some (if ch = '\x85' then '\n' else ch, c.next) else none
  | [] => none

/-- Whether the text ends here or a line does. -/
def atLineEnd (c : Cursor) : Bool :=
  match c.rest with
  | [] => true
  | ch :: _ => isBreak ch

end Cursor

/-- Whether there is a gap between words `k` places on: a blank, the end of the line or of the
text. -/
def Cursor.gapAt (c : Cursor) (k : Nat) : Bool :=
  match c.peek? k with
  | none => true
  | some ch => ch = ' ' || ch = '\t' || isBreak ch

/-- `gapAt` for places where a tab is no gap. -/
def Cursor.endAt (c : Cursor) (k : Nat) : Bool :=
  match c.peek? k with
  | none => true
  | some ch => ch = ' ' || isBreak ch

/-- Whether three equal characters and a gap follow, as they do at the bounds of a document. -/
def Cursor.marks (c : Cursor) (ch : Char) : Bool :=
  [ch, ch, ch].isPrefixOf c.rest && c.gapAt 3

def Cursor.atBound (c : Cursor) : Bool := c.marks '-' || c.marks '.'

end ExtTypes.Yaml

import ExtTypes.Decimal.Notation
import ExtTypes.Json.Basic
import ExtTypes.Text.Fields
import ExtTypes.Text.Utf8

/-! JSON text in ASCII, two blanks deeper at each level. Characters beyond ASCII are written as the
one or two 16-bit units that stand for them. -/
namespace ExtTypes.Json

/-- Every number is told apart from an integer. -/
def realNotation : Decimal.Notation := ⟨-4, 16, ['.', '0'], 2, "NaN", "Infinity"⟩

def unitText (n : Nat) : List Char := '\\' :: 'u' :: Text.hexText 4 n

def escapeChar (c : Char) : List Char :=
  if c = '"' then ['\\', '"']
  else if c = '\\' then ['\\', '\\']
  else if c = '\n' then ['\\', 'n']
  else if c = '\r' then ['\\', 'r']
  else if c = '\t' then ['\\', 't']
  else if c = '\x0c' then ['\\', 'f']
  else if c = '\x08' then ['\\', 'b']
  else if 0x20 ≤ c.toNat ∧ c.toNat < 0x7F then [c]
  else if c.toNat < 0x10000 then unitText c.toNat
  else
    -- the two halves of a surrogate pair
    unitText (0xD800 + (c.toNat - 0x10000) / 0x400) ++
      unitText (0xDC00 + (c.toNat - 0x10000) % 0x400)

def stringText (s : String) : List Char := '"' :: s.toList.flatMap escapeChar ++ ['"']

/-- A new line, `depth` levels in. -/
def newLine (depth : Nat) : List Char := '\n' :: List.replicate (2 * depth) ' '

/-- The items on lines of their own, between two brackets. -/
def bracketed (opening closing : Char) (depth : Nat) (items : List (List Char)) : List Char :=
  match items with
  | [] => [opening, closing]
  | items =>
    opening :: newLine (depth + 1) ++
      Text.joinWith (',' :: newLine (depth + 1)) items ++ newLine depth ++ [closing]

mutual

def print (depth : Nat) : Json → List Char
  | .null => "null".toList
  | .bool true => "true".toList
  | .bool false => "false".toList
  | .int n => (toString n).toList
  | .real x => (realNotation.text x).toList
  | .str s => stringText s
  | .arr items => bracketed '[' ']' depth (printItems (depth + 1) items)
  | .obj fields => bracketed '{' '}' depth (printFields (depth + 1) fields)

def printItems (depth : Nat) : List Json → List (List Char)
  | [] => []
  | v :: vs => print depth v :: printItems depth vs

def printFields (depth : Nat) : List (String × Json) → List (List Char)
  | [] => []
  | (k, v) :: fs => (stringText k ++ ':' :: ' ' :: print depth v) :: printFields depth fs

end

/-- The text of a file that holds `v`. -/
def document (v : Json) : String := String.ofList (v.print 0 ++ ['\n'])

end ExtTypes.Json

import ExtTypes.Failure
import ExtTypes.Yaml.Cursor

/-! Tokens of YAML text, and the short ones among them: names, tags and directives. -/
namespace ExtTypes.Yaml

inductive Token
  | version (major : Nat)
  | tagPrefix (handle text : String)
  | otherDirective
  | documentStart
  | documentEnd
  | blockSequenceStart
  | blockMappingStart
  | blockEnd
  | flowSequenceStart
  | flowSequenceEnd
  | flowMappingStart
  | flowMappingEnd
  | blockEntry
  | flowEntry
  | key
  | value
  | alias (name : String)
  | anchor (name : String)
  | tag (handle? : Option String) (suffix : String)
  | scalar (text : String) (isPlain : Bool)
  | streamEnd
  deriving DecidableEq, Repr

/-- What every text that is no YAML ends in. -/
def refuse {α : Type} : Except Failure α := .error (.config .unreadable)

/-- Goes on only where a condition holds. -/
def demand (b : Bool) : Except Failure Unit := if b then .ok () else refuse

namespace Token

def isNameChar (c : Char) : Bool := c.isAlphanum || c = '-' || c = '_'

/-- An alias or an anchor, without the character before it. -/
def readName (c : Cursor) : Except Failure (String × Cursor) := do
  let (name, c) := c.next.span isNameChar
  demand (name ≠ [])
  let follows := match c.peek? 0 with
    | some ch => "?:,]\x7d%@`".toList.contains ch
    | none => true
  demand (c.gapAt 0 || follows)
  return (String.ofList name, c)

def isUriChar (c : Char) : Bool := c.isAlphanum || "-;/?:@&=+$,_.!~*'()[]%".toList.contains c

/-- The bytes that a run of percent signs with two digits each stands for, and what follows. -/
def uriBytes : List Char → Option (List UInt8 × List Char)
  | '%' :: a :: b :: s => do
    let a ← Json.hexValue? a
    let b ← Json.hexValue? b
    let (bs, r) ← uriBytes s
    some (UInt8.ofNat (16 * a + b) :: bs, r)
  | '%' :: _ => none
  | s => some ([], s)

/-- The text that a run of address characters stands for. -/
def uriText : Nat → List Char → Option (List Char)
  | 0, _ => none
  | _ + 1, [] => some []
  | fuel + 1, '%' :: s => do
    let (bs, r) ← uriBytes ('%' :: s)
    let t ← String.fromUTF8? ⟨bs.toArray⟩
    let u ← uriText fuel r
    some (t.toList ++ u)
  | fuel + 1, ch :: s => (uriText fuel s).map (ch :: ·)

def readUri (c : Cursor) : Except Failure (String × Cursor) :=
  let (run, c') := c.span isUriChar
  match uriText (run.length + 1) run with
  | some t => if run = [] then refuse else .ok (String.ofList t, c')
  | none => refuse

/-- A handle: an exclamation mark, or a name between two. -/
def readHandle (c : Cursor) : Except Failure (String × Cursor) := do
  demand (c.peek? 0 = some '!')
  if c.peek? 1 = some ' ' then return ("!", c.next)
  else
    let (name, c') := c.next.span isNameChar
    demand (c'.peek? 0 = some '!')
    return (String.ofList ('!' :: name ++ ['!']), c'.next)

/-- Whether another exclamation mark stands before the next gap. -/
def hasHandle (c : Cursor) : Bool :=
  (c.rest.drop 1).takeWhile (fun ch => ! (ch = ' ' || isBreak ch)) |>.contains '!'

def readTag (c : Cursor) : Except Failure (Token × Cursor) := do
  let (t, c) ←
    if c.peek? 1 = some '<' then do
      let (suffix, c) ← readUri (c.forward 2)
      demand (c.peek? 0 = some '>')
      pure (tag none suffix, c.next)
    else if c.gapAt 1 then pure (tag none "!", c.next)
    else do
      let (handle, c) ← if hasHandle c then readHandle c else pure ("!", c.next)
      let (suffix, c) ← readUri c
      pure (tag (some handle) suffix, c)
  demand (c.endAt 0)
  return (t, c)

/-- The end of a line on which nothing but a comment may follow. -/
def readLineEnd (c : Cursor) : Except Failure Cursor := do
  let c := c.skipSpaces.skipComment
  demand c.atLineEnd
  return match c.lineBreak? with
    | some (_, c) => c
    | none => c

def readDigits (c : Cursor) : Except Failure (Nat × Cursor) := do
  let (ds, c) := c.span Char.isDigit
  demand (ds ≠ [])
  if Decimal.digitLimit < ds.length then throw (.value (.digits (some ds.length)))
  return (Json.digitsValue ds, c)

def readDirective (c : Cursor) : Except Failure (Token × Cursor) := do
  let (name, c) := c.next.span isNameChar
  demand (name ≠ [] && c.endAt 0)
  let (t, c) ←
    if name = "YAML".toList then do
      let (major, c) ← readDigits c.skipSpaces
      demand (c.peek? 0 = some '.')
      let (_, c) ← readDigits c.next
      demand (c.endAt 0)
      pure (version major, c)
    else if name = "TAG".toList then do
      let (handle, c) ← readHandle c.skipSpaces
      demand (c.peek? 0 = some ' ')
      let (text, c) ← readUri c.skipSpaces
      demand (c.endAt 0)
      pure (tagPrefix handle text, c)
    else pure (otherDirective, c.skip (! isBreak ·))
  return (t, ← readLineEnd c)

end Token

end ExtTypes.Yaml

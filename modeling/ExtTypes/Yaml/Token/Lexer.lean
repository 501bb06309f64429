import ExtTypes.Text.CharRange
import ExtTypes.Yaml.Token.Block
import ExtTypes.Yaml.Token.Plain
import ExtTypes.Yaml.Token.Quoted

/-! The tokens of a YAML text. What turns out to be the key of a mapping only at the colon after it
gets its mark then, in front of what was read since. -/
namespace ExtTypes.Yaml

/-- Something that may turn out to be a key, on one line and not too long. -/
structure KeyCandidate where
  /-- The number of tokens before it. -/
  place : Nat
  isRequired : Bool
  start : Cursor

structure Lexer where
  cursor : Cursor
  /-- How many brackets are open. -/
  flow : Nat
  /-- The last token comes first. -/
  tokens : List Token
  indent : Int
  outer : List Int
  keyAllowed : Bool
  /-- At most one for each number of open brackets. -/
  candidates : List (Nat × KeyCandidate)

namespace Lexer

def start (text : List Char) : Lexer := ⟨.start text, 0, [], -1, [], true, []⟩

def push (x : Lexer) (t : Token) : Lexer := { x with tokens := t :: x.tokens }

def isStale (c : Cursor) (k : KeyCandidate) : Bool :=
  k.start.line ≠ c.line || 1024 < k.start.left - c.left

/-- Drops the candidates that can be no keys any more. -/
def dropStale (x : Lexer) : Except Failure Lexer := do
  demand (! x.candidates.any fun (_, k) => isStale x.cursor k && k.isRequired)
  return { x with candidates := x.candidates.filter fun (_, k) => ! isStale x.cursor k }

/-- Drops the candidate among the brackets that are open. -/
def dropCandidate (x : Lexer) : Except Failure Lexer := do
  match x.candidates.lookup x.flow with
  | some k => demand (! k.isRequired)
  | none => pure ()
  return { x with candidates := x.candidates.filter fun (f, _) => f ≠ x.flow }

/-- Takes what follows for a candidate, where a key may stand. -/
def addCandidate (x : Lexer) : Except Failure Lexer :=
  if x.keyAllowed then do
    let x ← x.dropCandidate
    let required := x.flow = 0 ∧ x.indent = (x.cursor.column : Int)
    return { x with candidates := (x.flow, ⟨x.tokens.length, required, x.cursor⟩) :: x.candidates }
  else .ok x

/-- Ends the blocks that are deeper than `column`. -/
def unwind (column : Int) (x : Lexer) : Lexer :=
  if x.flow ≠ 0 then x
  else go x.indent x.outer x.tokens
where
  go (indent : Int) : List Int → List Token → Lexer
    | [], ts => { x with indent := indent, outer := [], tokens := ts }
    | i :: is, ts =>
      if column < indent then go i is (.blockEnd :: ts)
      else { x with indent := indent, outer := i :: is, tokens := ts }

/-- Whether a block at this column is a new one. -/
def isDeeper (x : Lexer) (column : Nat) : Bool := x.indent < (column : Int)

/-- A new block at a column, with its token in front of the last `back` ones. -/
def openBlock (x : Lexer) (column back : Nat) (t : Token) : Lexer :=
  if x.isDeeper column then
    { x with
      indent := column
      outer := x.indent :: x.outer
      tokens := x.tokens.take back ++ t :: x.tokens.drop back }
  else x

/-- Skips blanks, comments and line breaks. -/
def skipGaps : Nat → Lexer → Lexer
  | 0, x => x
  | fuel + 1, x =>
    let c := x.cursor.skipSpaces.skipComment
    match c.lineBreak? with
    | some (_, c) => skipGaps fuel { x with cursor := c, keyAllowed := x.keyAllowed || x.flow = 0 }
    | none => { x with cursor := c }

/-- Goes on after a token of `width` characters. -/
def take (x : Lexer) (width : Nat) (t : Token) : Lexer :=
  { x.push t with cursor := x.cursor.forward width }

/-- A token that ends all blocks. -/
def bound (x : Lexer) (width : Nat) (t : Token) : Except Failure Lexer := do
  let x ← (x.unwind (-1)).dropCandidate
  return { x.take width t with keyAllowed := false }

def directive (x : Lexer) : Except Failure Lexer := do
  let x ← (x.unwind (-1)).dropCandidate
  let (t, c) ← Token.readDirective x.cursor
  return { x.push t with cursor := c, keyAllowed := false }

def openFlow (x : Lexer) (t : Token) : Except Failure Lexer := do
  let x ← x.addCandidate
  return { x.take 1 t with flow := x.flow + 1, keyAllowed := true }

def closeFlow (x : Lexer) (t : Token) : Except Failure Lexer := do
  demand (x.flow ≠ 0)
  let x ← x.dropCandidate
  return { x.take 1 t with flow := x.flow - 1, keyAllowed := false }

def flowEntry (x : Lexer) : Except Failure Lexer := do
  let x ← x.dropCandidate
  return { x.take 1 .flowEntry with keyAllowed := true }

def blockEntry (x : Lexer) : Except Failure Lexer := do
  demand (x.flow ≠ 0 || x.keyAllowed)
  let x := if x.flow = 0 then x.openBlock x.cursor.column 0 .blockSequenceStart else x
  let x ← x.dropCandidate
  return { x.take 1 .blockEntry with keyAllowed := true }

def explicitKey (x : Lexer) : Except Failure Lexer := do
  demand (x.flow ≠ 0 || x.keyAllowed)
  let x := if x.flow = 0 then x.openBlock x.cursor.column 0 .blockMappingStart else x
  let x ← x.dropCandidate
  return { x.take 1 .key with keyAllowed := x.flow = 0 }

def value (x : Lexer) : Except Failure Lexer :=
  match x.candidates.lookup x.flow with
  | some k =>
    -- the marks of the key go in front of all that was read since it started
    let back := x.tokens.length - k.place
    let x := { x with
      candidates := x.candidates.filter fun (f, _) => f ≠ x.flow
      tokens := x.tokens.take back ++ Token.key :: x.tokens.drop back }
    let x := if x.flow = 0 then x.openBlock k.start.column (back + 1) .blockMappingStart else x
    .ok { x.take 1 .value with keyAllowed := false }
  | none => do
    demand (x.flow ≠ 0 || x.keyAllowed)
    let x := if x.flow = 0 then x.openBlock x.cursor.column 0 .blockMappingStart else x
    let x ← x.dropCandidate
    return { x.take 1 .value with keyAllowed := x.flow = 0 }

/-- A token that may be a key, or stand before one. -/
def inKey (x : Lexer) (read : Cursor → Except Failure (Token × Cursor)) : Except Failure Lexer := do
  let x ← x.addCandidate
  let (t, c) ← read x.cursor
  return { x.push t with cursor := c, keyAllowed := false }

def blockScalar (x : Lexer) : Except Failure Lexer := do
  let x ← x.dropCandidate
  let (t, c) ← Block.read x.indent x.cursor
  return { x.push t with cursor := c, keyAllowed := true }

def plainScalar (x : Lexer) : Except Failure Lexer := do
  let x ← x.addCandidate
  let (t, lineEnded, c) := Plain.read (x.flow ≠ 0) x.indent x.cursor
  return { x.push t with cursor := c, keyAllowed := lineEnded }

def finish (x : Lexer) : Except Failure Lexer := do
  let x ← (x.unwind (-1)).dropCandidate
  return x.push .streamEnd

def named (make : String → Token) (c : Cursor) : Except Failure (Token × Cursor) :=
  (Token.readName c).map fun (n, c) => (make n, c)

/-- One more token, which starts with `ch`. -/
def step (x : Lexer) (ch : Char) : Except Failure Lexer :=
  let inFlow := x.flow ≠ 0
  let lineStart := x.cursor.column = 0
  if ch = '%' ∧ lineStart then x.directive
  else if lineStart ∧ x.cursor.marks '-' then x.bound 3 .documentStart
  else if lineStart ∧ x.cursor.marks '.' then x.bound 3 .documentEnd
  else if ch = '[' then x.openFlow .flowSequenceStart
  else if ch = '{' then x.openFlow .flowMappingStart
  else if ch = ']' then x.closeFlow .flowSequenceEnd
  else if ch = '}' then x.closeFlow .flowMappingEnd
  else if ch = ',' then x.flowEntry
  else if ch = '-' ∧ x.cursor.gapAt 1 then x.blockEntry
  else if ch = '?' ∧ (inFlow ∨ x.cursor.gapAt 1) then x.explicitKey
  else if ch = ':' ∧ (inFlow ∨ x.cursor.gapAt 1) then x.value
  else if ch = '*' then x.inKey (named .alias)
  else if ch = '&' then x.inKey (named .anchor)
  else if ch = '!' then x.inKey Token.readTag
  else if (ch = '|' ∨ ch = '>') ∧ ¬ inFlow then x.blockScalar
  else if ch = '\'' ∨ ch = '"' then x.inKey Quoted.read
  else if Plain.canStart inFlow x.cursor then x.plainScalar
  else refuse

/-- One more token, or the end; whether it is the end. -/
def advance (x : Lexer) : Except Failure (Lexer × Bool) := do
  -- a key that is required must show its colon before the line ends
  let x ← (skipGaps (x.cursor.left + 1) x).dropStale
  let x := x.unwind x.cursor.column
  match x.cursor.rest with
  | [] => return (← x.finish, true)
  | ch :: _ => return (← x.step ch, false)

/-- The tokens before which no mark can be put any more. -/
def settled (x : Lexer) : List Token :=
  match x.dropStale with
  | .error _ => []
  | .ok y =>
    match (y.candidates.map fun (_, k) => k.place).min? with
    | some place => y.tokens.reverse.take place
    | none => y.tokens.reverse

end Lexer

/-- The tokens of a text as far as they can be told, and why no others follow them. -/
structure Tokens where
  ready : List Token
  stop : Failure

def Lexer.run : Nat → Lexer → Tokens
  | 0, x => ⟨x.settled, .config .unreadable⟩
  | fuel + 1, x =>
    match x.advance with
    | .error e => ⟨x.settled, e⟩
    | .ok (x, true) => ⟨x.tokens.reverse, .config .unreadable⟩
    | .ok (x, false) => run fuel x

/-- The characters that may stand in a text. -/
def textRanges : List (Nat × Nat) :=
  [(0x9, 0xA), (0xD, 0xD), (0x20, 0x7E), (0x85, 0x85), (0xA0, 0xD7FF), (0xE000, 0xFFFD),
   (0x10000, 0x10FFFF)]

def dropMark : List Char → List Char
  | c :: s => if c = byteOrderMark then s else c :: s
  | [] => []

/-- The tokens of a text; a mark at its start does not count. -/
def tokens (text : List Char) : Tokens :=
  if text.all fun c => Text.inRanges textRanges c.toNat then
    Lexer.run (text.length + 1) (.start (dropMark text))
  else ⟨[], .config .unreadable⟩

end ExtTypes.Yaml

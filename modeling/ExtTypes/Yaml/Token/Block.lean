import ExtTypes.Yaml.Token.Basic

/-! Scalars that take whole lines, as deep as their first line; a mark says whether their line
breaks are kept or folded, another one what becomes of the last ones. -/
namespace ExtTypes.Yaml.Block

/-- What becomes of the line breaks at the end: all are dropped, one is kept, or all are. -/
inductive Chomping
  | strip
  | clip
  | keep
  deriving DecidableEq, Repr

structure Header where
  chomping : Chomping
  increment? : Option Nat
  deriving DecidableEq, Repr

def chomping? (c : Cursor) : Option Chomping :=
  match c.peek? 0 with
  | some '+' => some .keep
  | some '-' => some .strip
  | _ => none

/-- A digit, which must not be zero. -/
def readIncrement (c : Cursor) : Except Failure (Option Nat × Cursor) :=
  match c.rest with
  | ch :: _ =>
    if ch = '0' then refuse
    else if ch.isDigit then .ok (some (ch.toNat - '0'.toNat), c.next)
    else .ok (none, c)
  | [] => .ok (none, c)

/-- The marks after the first one, in either order, and the rest of their line. -/
def readHeader (c : Cursor) : Except Failure (Header × Cursor) := do
  let (h, c) ←
    match chomping? c with
    | some k => do
      let (i, c) ← readIncrement c.next
      pure ((⟨k, i⟩ : Header), c)
    | none => do
      let (i, c) ← readIncrement c
      match i, chomping? c with
      | some _, some k => pure (⟨k, i⟩, c.next)
      | _, _ => pure (⟨.clip, i⟩, c)
  demand (c.endAt 0)
  return (h, ← Token.readLineEnd c)

/-- The line breaks before the first line that is not blank, and how deep the deepest blank goes. -/
def leading : Nat → Cursor → List Char × Nat × Cursor
  | 0, c => ([], 0, c)
  | fuel + 1, c =>
    match c.lineBreak? with
    | some (b, c) =>
      let (bs, depth, c) := leading fuel c
      (b :: bs, depth, c)
    | none =>
      if c.peek? 0 = some ' ' then
        let (bs, depth, c') := leading fuel c.next
        (bs, max depth c.next.column, c')
      else ([], 0, c)

/-- The place after at most so many spaces that the column is `depth`. -/
def indentTo (depth : Nat) (c : Cursor) : Cursor :=
  c.forward (min (depth - c.column) (c.rest.takeWhile (· = ' ')).length)

/-- The line breaks of blank lines, no deeper than `depth`. -/
def blankLines (depth : Nat) : Nat → Cursor → List Char × Cursor
  | 0, c => ([], c)
  | fuel + 1, c =>
    let c := indentTo depth c
    match c.lineBreak? with
    | some (b, c) =>
      let (bs, c) := blankLines depth fuel c
      (b :: bs, c)
    | none => ([], c)

def startsBlank (c : Cursor) : Bool := c.peek? 0 = some ' ' || c.peek? 0 = some '\t'

def breakText : Option (Char × Cursor) → List Char
  | some (b, _) => [b]
  | none => []

/-- The lines from this place on: their text with the line breaks between them, the break after the
last one, and those of the blank lines after it. -/
def lines (fold : Bool) (depth : Nat) :
    Nat → List Char → Cursor → List Char × List Char × List Char × Cursor
  | 0, before, c => ([], [], before, c)
  | fuel + 1, before, c =>
    if c.column = depth ∧ c.rest ≠ [] then
      let opensBlank := startsBlank c
      let (text, c) := c.span (! isBreak ·)
      let lineEnd := breakText c.lineBreak?
      let c := (c.lineBreak?.map Prod.snd).getD c
      let (after, c) := blankLines depth (c.left + 1) c
      if c.column = depth ∧ c.rest ≠ [] then
        let joint :=
          if fold && lineEnd = ['\n'] && ! opensBlank && ! startsBlank c then
            if after = [] then [' '] else []
          else lineEnd
        let (more, last, tail, c) := lines fold depth fuel after c
        (before ++ text ++ joint ++ more, last, tail, c)
      else (before ++ text, lineEnd, after, c)
    else ([], [], before, c)

/-- A scalar whose mark stands at this place, below a block of depth `indent`. -/
def read (indent : Int) (c : Cursor) : Except Failure (Token × Cursor) := do
  let fold := c.peek? 0 = some '>'
  let (h, c) ← readHeader c.next
  let least := (max (indent + 1) 1).toNat
  let fuel := c.left + 1
  let (depth, before, c) := match h.increment? with
    | some n =>
      let depth := least + n - 1
      let (bs, c) := blankLines depth fuel c
      (depth, bs, c)
    | none =>
      let (bs, deepest, c) := leading fuel c
      (max least deepest, bs, c)
  let (text, last, tail, c) := lines fold depth fuel before c
  let rest := match h.chomping with
    | .strip => []
    | .clip => last
    | .keep => last ++ tail
  return (.scalar (String.ofList (text ++ rest)) false, c)

end ExtTypes.Yaml.Block

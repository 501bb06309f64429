import ExtTypes.Yaml.Token.Basic

/-! Scalars in quotes. A single line break between words counts as a blank, of several the first one
counts nothing. -/
namespace ExtTypes.Yaml.Quoted

/-- What an escaped character stands for. -/
def escapes : List (Char × Char) :=
  [('0', '\x00'), ('a', '\x07'), ('b', '\x08'), ('t', '\t'), ('\t', '\t'), ('n', '\n'),
   ('v', '\x0b'), ('f', '\x0c'), ('r', '\r'), ('e', '\x1b'), (' ', ' '), ('"', '"'),
   ('\\', '\\'), ('/', '/'), ('N', '\x85'), ('_', '\xa0'), ('L', '\u2028'), ('P', '\u2029')]

/-- How many digits follow the letter of an escape. -/
def escapeWidth? (c : Char) : Option Nat :=
  if c = 'x' then some 2 else if c = 'u' then some 4 else if c = 'U' then some 8 else none

/-- The number that `n` hexadecimal digits stand for. -/
def hexNumber? (c : Cursor) (n : Nat) : Option Nat :=
  let ds := (c.rest.take n).filterMap Json.hexValue?
  if ds.length = n then some (ds.foldl (fun m d => 16 * m + d) 0) else none

def isOrdinary (c : Char) : Bool :=
  ! (c = '\'' || c = '"' || c = '\\' || c = ' ' || c = '\t' || isBreak c)

/-- The line breaks at this place, less the blanks around them. No document may end here. -/
def breaks : Nat → Cursor → Except Failure (List Char × Cursor)
  | 0, _ => refuse
  | fuel + 1, c =>
    if c.atBound then refuse
    else
      let c := c.skip fun ch => ch = ' ' || ch = '\t'
      match c.lineBreak? with
      | some (b, c) => (breaks fuel c).map fun (bs, c) => (b :: bs, c)
      | none => .ok ([], c)

/-- The line breaks after a first one, joined with it. -/
def folded (first : Char) (more : List Char) : List Char :=
  if first ≠ '\n' then first :: more else if more = [] then [' '] else more

/-- The text from this place up to the closing quote, and the place after that. -/
def body (double : Bool) : Nat → Cursor → Except Failure (List Char × Cursor)
  | 0, _ => refuse
  | fuel + 1, c =>
    match c.rest with
    | [] => refuse
    | ch :: s =>
      let goOn (text : List Char) (c : Cursor) := (body double fuel c).map fun (t, c) => (text ++ t, c)
      if isOrdinary ch then
        let (text, c) := c.span isOrdinary
        goOn text c
      else if ch = ' ' ∨ ch = '\t' then
        let (blanks, c) := c.span fun ch => ch = ' ' || ch = '\t'
        match c.lineBreak? with
        | some (b, c) =>
          match breaks (c.left + 1) c with
          | .error e => .error e
          | .ok (bs, c) => goOn (folded b bs) c
        | none => goOn blanks c
      else if isBreak ch then
        match c.lineBreak? with
        | some (b, c) =>
          match breaks (c.left + 1) c with
          | .error e => .error e
          | .ok (bs, c) => goOn (folded b bs) c
        | none => refuse
      else if double then
        if ch = '"' then .ok ([], c.next)
        else if ch = '\'' then goOn [ch] c.next
        else
          let c := c.next
          match c.rest with
          | [] => refuse
          | e :: _ =>
            match escapes.lookup e, escapeWidth? e with
            | some r, _ => goOn [r] c.next
            | none, some n =>
              match hexNumber? c.next n with
              | none => refuse
              | some m =>
                if 0x80000000 ≤ m then .error (.overflow .codePoint)
                else if 0x110000 ≤ m then .error (.value .codePoint)
                else goOn [Char.ofNat m] (c.next.forward n)
            | none, none =>
              match c.lineBreak? with
              | none => refuse
              | some (_, c) =>
                match breaks (c.left + 1) c with
                | .error e => .error e
                | .ok (bs, c) => goOn bs c
      else if ch = '\'' then
        if s.head? = some '\'' then goOn ['\''] (c.forward 2) else .ok ([], c.next)
      else goOn [ch] c.next

/-- A scalar whose opening quote stands at this place. -/
def read (c : Cursor) : Except Failure (Token × Cursor) :=
  (body (c.peek? 0 = some '"') (c.left + 1) c.next).map fun (t, c) =>
    (.scalar (String.ofList t) false, c)

end ExtTypes.Yaml.Quoted

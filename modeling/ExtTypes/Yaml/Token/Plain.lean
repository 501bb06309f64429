import ExtTypes.Yaml.Token.Basic

/-! Scalars without quotes. They may go on over several lines, as deep as what they stand in. -/
namespace ExtTypes.Yaml.Plain

/-- Whether a plain scalar cannot go on with the text at this place. -/
def stops (inFlow : Bool) : List Char → Bool
  | [] => true
  | ch :: s =>
    ch = ' ' || ch = '\t' || isBreak ch ||
    (ch = ':' && match s with
      | [] => true
      | d :: _ => d = ' ' || d = '\t' || isBreak d || (inFlow && ",[]\x7b\x7d".toList.contains d)) ||
    (inFlow && ",?[]\x7b\x7d".toList.contains ch)

/-- The text up to the first place where a plain scalar stops. -/
def word (inFlow : Bool) : List Char → List Char
  | [] => []
  | ch :: s => if stops inFlow (ch :: s) then [] else ch :: word inFlow s

/-- Spaces and line breaks; the breaks only, and whether a bound of a document follows. -/
def moreBreaks : Nat → Cursor → List Char × Bool × Cursor
  | 0, c => ([], false, c)
  | fuel + 1, c =>
    if c.peek? 0 = some ' ' then moreBreaks fuel c.next
    else match c.lineBreak? with
      | some (b, c) =>
        if c.atBound then ([b], true, c)
        else
          let (bs, bound, c) := moreBreaks fuel c
          (b :: bs, bound, c)
      | none => ([], false, c)

/-- What stands between two words: the text that counts for it, if the scalar may go on after it,
whether a line ended, and the place after it. -/
structure Gap where
  text? : Option (List Char)
  hasBreak : Bool
  next : Cursor

def readGap (c : Cursor) : Gap :=
  let (spaces, c) := c.span (· = ' ')
  match c.lineBreak? with
  | none => ⟨if spaces = [] then none else some spaces, false, c⟩
  | some (b, c) =>
    if c.atBound then ⟨none, true, c⟩
    else
      let (bs, bound, c) := moreBreaks (c.left + 1) c
      if bound then ⟨none, true, c⟩
      else
        let text := if b ≠ '\n' then b :: bs else if bs = [] then [' '] else bs
        ⟨some text, true, c⟩

/-- The words from this place on with what stands between them; whether the last thing read was the
end of a line; and the place after it. `gap` stands before the first word. -/
def words (inFlow : Bool) (depth : Int) :
    Nat → List Char → Bool → Cursor → List Char × Bool × Cursor
  | 0, _, lineEnded, c => ([], lineEnded, c)
  | fuel + 1, gap, lineEnded, c =>
    if c.peek? 0 = some '#' then ([], lineEnded, c)
    else
      match word inFlow c.rest with
      | [] => ([], lineEnded, c)
      | w =>
        let g := readGap (c.forward w.length)
        let stopped := g.next.peek? 0 = some '#' || (! inFlow && (g.next.column : Int) < depth)
        match g.text? with
        | none => (gap ++ w, g.hasBreak, g.next)
        | some t =>
          if stopped then (gap ++ w, g.hasBreak, g.next)
          else
            let (more, lineEnded, c) := words inFlow depth fuel t g.hasBreak g.next
            (gap ++ w ++ more, lineEnded, c)

/-- The scalar at this place, whether a line ended after it, and the place from where to go on. -/
def read (inFlow : Bool) (indent : Int) (c : Cursor) : Token × Bool × Cursor :=
  let (text, lineEnded, c) := words inFlow (indent + 1) (c.left + 1) [] false c
  (.scalar (String.ofList text) true, lineEnded, c)

/-- Whether a plain scalar can start at this place. -/
def canStart (inFlow : Bool) (c : Cursor) : Bool :=
  match c.rest with
  | [] => false
  | ch :: _ =>
    ! (c.gapAt 0 || "-?:,[]\x7b\x7d#&*!|>'\"%@`".toList.contains ch) ||
      (! c.gapAt 1 && (ch = '-' || (! inFlow && (ch = '?' || ch = ':'))))

end ExtTypes.Yaml.Plain

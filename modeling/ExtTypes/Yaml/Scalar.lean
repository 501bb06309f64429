import ExtTypes.Text.Lowercase
import ExtTypes.Value.Scalar
import ExtTypes.Yaml.Token.Basic
import ExtTypes.Yaml.Tag

/-! The value that a text with a tag stands for. -/
namespace ExtTypes.Yaml

namespace Scalars

def boolOf (text : String) : Except Failure Scalar :=
  let word := String.ofList (Text.lower text.toList)
  if ["yes", "true", "on"].contains word then .ok (.bool true)
  else if ["no", "false", "off"].contains word then .ok (.bool false)
  else .error (.missingKey word)

def wholeNumber (base : Nat) (s : List Char) : Except Failure Int :=
  match Decimal.readInt base s with
  | .ok n => .ok n
  | .error .malformed => .error (.value (.integer base (String.ofList s)))
  | .error (.tooLong digits) => .error (.value (.digits (some digits)))

/-- The number that parts of a base of 60 stand for. -/
def sixties (ns : List Int) : Int := ns.foldl (fun n m => 60 * n + m) 0

def positiveInt (s : List Char) : Except Failure Int :=
  match s with
  | [] => .error .missingCharacter
  | ['0'] => .ok 0
  | '0' :: 'b' :: t => wholeNumber 2 t
  | '0' :: 'x' :: t => wholeNumber 16 t
  | '0' :: _ => wholeNumber 8 s
  | _ =>
    if s.contains ':' then ((Text.fields ':' s).mapM (wholeNumber 10)).map sixties
    else wholeNumber 10 s

def dropUnderscores (text : String) : List Char := text.toList.filter (· ≠ '_')

def intOf (text : String) : Except Failure Scalar :=
  match dropUnderscores text with
  | [] => .error .missingCharacter
  | s =>
    let (negative, t) := Decimal.cutSign s
    (positiveInt t).map fun n => .int (if negative then -n else n)

def realNumber (s : List Char) : Except Failure Decimal.Double :=
  match Decimal.readReal? s with
  | some x => .ok x
  | none => .error (.value (.real (String.ofList s)))

/-- The sum of the parts, last one first, each times its power of 60; every power, product and sum is
rounded. -/
def sumSixties (sum : Decimal.Double) (power : Nat) :
    List Decimal.Double → Except Failure Decimal.Double
  | [] => .ok sum
  | x :: xs =>
    match Decimal.Double.ofNat? power with
    | none => .error (.overflow .real)
    | some p => sumSixties (sum.add (x.mul p)) (60 * power) xs

def positiveReal (s : List Char) : Except Failure Decimal.Double :=
  if s = ".inf".toList then .ok (.infinite false)
  else if s = ".nan".toList then .ok .nan
  else if s.contains ':' then do
    let parts ← (Text.fields ':' s).mapM realNumber
    sumSixties (.zero false) 1 parts.reverse
  else realNumber s

/-- The text of a number without underscores, in small letters. -/
def realText (text : String) : List Char := Text.lower (dropUnderscores text)

def realOf (text : String) : Except Failure Scalar :=
  match realText text with
  | [] => .error .missingCharacter
  | s =>
    let (negative, t) := Decimal.cutSign s
    (positiveReal t).map fun x => .real (if negative then x.negate else x)

/-- Whether a text is the usual one for no number. All that are written so are one value; any other
that is no number differs from all values. -/
def isSharedNan (text : String) : Bool := (Decimal.cutSign (realText text)).2 = ".nan".toList

def timestampOf (text : String) : Except Failure Scalar :=
  match Timestamp.read? (dropLastFeed text.toList) with
  | none => .error .notTimestamp
  | some t =>
    let checked : Except CalendarFault Scalar :=
      match t.time? with
      | none => t.date.check.map .date
      | some time => (Moment.check ⟨t.date, time, t.offset?⟩).map .moment
    match checked with
    | .ok s => .ok s
    | .error e => .error (.value (.calendar e))

/-- The value of a digit in base 64. -/
def sextet? (c : Char) : Option Nat :=
  if 'A' ≤ c ∧ c ≤ 'Z' then some (c.toNat - 'A'.toNat)
  else if 'a' ≤ c ∧ c ≤ 'z' then some (c.toNat - 'a'.toNat + 26)
  else if c.isDigit then some (c.toNat - '0'.toNat + 52)
  else if c = '+' then some 62
  else if c = '/' then some 63
  else none

/-- The bytes of a text in base 64. `held` are the digits of the group so far, `pads` the padding
since; other characters do not count. -/
def bytesFrom : List Nat → Nat → List Char → Option (List UInt8)
  | held, _, [] => if held = [] then some [] else none
  | held, pads, c :: s =>
    if c = '=' then
      if 2 ≤ held.length then
        if 4 ≤ held.length + (pads + 1) then some [] else bytesFrom held (pads + 1) s
      else bytesFrom held pads s
    else
      match sextet? c with
      | none => bytesFrom held pads s
      | some d =>
        match held with
        | [] => bytesFrom [d] 0 s
        | [a] => (bytesFrom [a, d] 0 s).map (UInt8.ofNat (a * 4 + d / 16) :: ·)
        | [a, b] => (bytesFrom [a, b, d] 0 s).map (UInt8.ofNat (b % 16 * 16 + d / 4) :: ·)
        | _ :: _ :: b :: _ => (bytesFrom [] 0 s).map (UInt8.ofNat (b % 4 * 64 + d) :: ·)

def binaryOf (text : String) : Except Failure Scalar :=
  if text.toList.all fun c => c.toNat < 0x80 then
    match bytesFrom [] 0 text.toList with
    | some bs => .ok (.bytes bs)
    | none => refuse
  else refuse

/-- How a text is read with a tag for values that are texts. -/
def ofText? (t : Tag) : Option (String → Except Failure Scalar) :=
  match t with
  | .null => some fun _ => .ok .null
  | .bool => some boolOf
  | .int => some intOf
  | .float => some realOf
  | .str => some fun text => .ok (.str text)
  | .binary => some binaryOf
  | .timestamp => some timestampOf
  | _ => none

end Scalars

end ExtTypes.Yaml

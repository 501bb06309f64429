import ExtTypes.Decimal.Notation
import ExtTypes.Text.Printable
import ExtTypes.Text.Utf8
import ExtTypes.Value.Calendar

/-! Plain values: all that is no collection. Two of them that are equal as numbers are one name in a
mapping. -/
namespace ExtTypes

inductive Scalar
  | null
  | bool (b : Bool)
  | int (n : Int)
  | real (x : Decimal.Double)
  | str (s : String)
  | bytes (bs : List UInt8)
  | date (d : Date)
  | moment (m : Moment)
  deriving DecidableEq, Repr

namespace Scalar

/-- How a number that is no integer is written. -/
def realNotation : Decimal.Notation := ⟨-4, 16, ['.', '0'], 2, "nan", "inf"⟩

def byteText (quote : Char) (b : UInt8) : List Char :=
  let c := Char.ofNat b.toNat
  if c = quote ∨ c = '\\' then ['\\', c]
  else if c = '\t' then ['\\', 't']
  else if c = '\n' then ['\\', 'n']
  else if c = '\r' then ['\\', 'r']
  else if b < 0x20 ∨ 0x7F ≤ b then '\\' :: 'x' :: Text.hexText 2 b.toNat
  else [c]

def bytesText (bs : List UInt8) : String :=
  let quote := if bs.contains 0x27 && ! bs.contains 0x22 then '"' else '\''
  String.ofList ('b' :: quote :: bs.flatMap (byteText quote) ++ [quote])

/-- The text that stands for the value where a text is shown. -/
def text : Scalar → String
  | null => "None"
  | bool b => if b then "True" else "False"
  | int n => toString n
  | real x => realNotation.text x
  | str s => s
  | bytes bs => bytesText bs
  | date d => d.text
  | moment m => m.text

/-- The integer that the value equals. -/
def asInt? : Scalar → Option Int
  | bool b => some (if b then 1 else 0)
  | int n => some n
  | real x => x.toInt?
  | _ => none

/-- Whether two values are one name in a mapping. -/
def same (a b : Scalar) : Bool :=
  match a, b with
  | str x, str y => x = y
  | moment x, moment y =>
    if x.offset?.isSome && y.offset?.isSome then x.instant = y.instant else x = y
  | a, b =>
    match a.asInt?, b.asInt? with
    | some m, some n => m = n
    | none, none => a = b
    | _, _ => false

end Scalar

end ExtTypes

import ExtTypes.Decimal.Double

/-! The text of a floating-point number: which numbers are written in full, and how the exponent
of the others looks. -/
namespace ExtTypes.Decimal

structure Notation where
  /-- The least exponent of the first digit that is written in full. -/
  fullFrom : Int
  /-- The least exponent of the first digit that is not written in full any more. -/
  fullBelow : Int
  /-- What follows a whole number that is written in full. -/
  whole : List Char
  /-- The least number of digits of an exponent. -/
  exponentWidth : Nat
  notANumber : String
  infinite : String

namespace Notation

/-- Zeros in front of `ds` up to `width` digits. -/
def padded (width : Nat) (ds : List Char) : List Char :=
  List.replicate (width - ds.length) '0' ++ ds

def exponentText (f : Notation) (e : Int) : List Char :=
  'e' :: (if e < 0 then '-' else '+') :: padded f.exponentWidth (Nat.toDigits 10 e.natAbs)

/-- Positive numbers. -/
def digitsText (f : Notation) (d : Digits) : List Char :=
  if f.fullFrom < d.point ∧ d.point ≤ f.fullBelow then
    if d.point ≤ 0 then
      '0' :: '.' :: List.replicate (-d.point).toNat '0' ++ d.digits
    else if d.digits.length ≤ d.point.toNat then
      d.digits ++ List.replicate (d.point.toNat - d.digits.length) '0' ++ f.whole
    else
      d.digits.take d.point.toNat ++ '.' :: d.digits.drop d.point.toNat
  else
    d.digits.take 1 ++ (if d.digits.length ≤ 1 then [] else '.' :: d.digits.drop 1) ++
      f.exponentText (d.point - 1)

def signText (negative : Bool) : String := if negative then "-" else ""

def text (f : Notation) : Double → String
  | .nan => f.notANumber
  | .infinite s => signText s ++ f.infinite
  | .zero s => signText s ++ String.ofList ('0' :: f.whole)
  | .finite s b => signText s ++ String.ofList (f.digitsText b.shortest)

end Notation

end ExtTypes.Decimal

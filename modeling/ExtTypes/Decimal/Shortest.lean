/-! The shortest decimal that reads back as a given binary number, in exact arithmetic. -/
namespace ExtTypes.Decimal

/-- The number `m * 2 ^ q`, with at most 53 binary digits in `m` and `q` from -1074 to 971. -/
structure Binary where
  m : Nat
  q : Int
  deriving Repr, DecidableEq

/-- The number `0.d₁d₂… * 10 ^ point`, where `d₁d₂…` are the digits of `digits`. -/
structure Digits where
  digits : List Char
  point : Int
  deriving Repr, DecidableEq

/-- `n * b ^ e` for a positive `e`, else `n`. -/
def raise (n b : Nat) (e : Int) : Nat := n * Nat.pow b e.toNat

/-- Compares `a * 2 ^ p` with `b * 10 ^ e`. -/
def compareScaled (a : Nat) (p : Int) (b : Nat) (e : Int) : Ordering :=
  compare (raise (raise a 2 p) 10 (-e)) (raise (raise b 2 (-p)) 10 e)

/-- The greatest `d` with `d * 10 ^ e ≤ a * 2 ^ p`. -/
def floorScaled (a : Nat) (p e : Int) : Nat :=
  raise (raise a 2 p) 10 (-e) / raise (raise 1 2 (-p)) 10 e

/-- The least `k ≥ start` with `m * 2 ^ q < 10 ^ k`, as far as the fuel reaches. -/
def magnitudeFrom (m : Nat) (q : Int) (start : Int) : Nat → Int
  | 0 => start
  | fuel + 1 =>
    if compareScaled m q 1 start == .lt then start else magnitudeFrom m q (start + 1) fuel

/-- The least number with 53 binary digits. -/
def leastMantissa : Nat := 0x10000000000000

namespace Binary

/-- Whether the next lower number is only half as far as the next higher one. -/
def narrowBelow (b : Binary) : Bool := b.m = leastMantissa ∧ -1074 < b.q

/-- The least `k` with `m * 2 ^ q < 10 ^ k`; a binary digit is less than a third of a decimal one
and more than a quarter. -/
def magnitude (b : Binary) : Int :=
  let bits : Int := b.m.log2 + b.q
  magnitudeFrom b.m b.q (if 0 ≤ bits then bits / 4 else bits / 3 - 1) (bits.natAbs + 8)

/-- Whether `d * 10 ^ e` is closer to the number than to any other one, or at the same distance
from two of which the number has the even mantissa. -/
def holds (b : Binary) (d : Nat) (e : Int) : Bool :=
  let low := compareScaled (4 * b.m - (if b.narrowBelow then 1 else 2)) (b.q - 2) d e
  let high := compareScaled (4 * b.m + 2) (b.q - 2) d e
  if b.m % 2 = 0 then low != .gt && high != .lt else low == .lt && high == .gt

/-- Whether `d * 10 ^ e` is closer to the number than `(d + 1) * 10 ^ e` is; a tie goes to the even
one. -/
def nearerBelow (b : Binary) (d : Nat) (e : Int) : Bool :=
  match compareScaled (2 * b.m) b.q (2 * d + 1) e with
  | .lt => true
  | .eq => d % 2 = 0
  | .gt => false

/-- The decimal with `10 ^ e` as its last place that reads back, if there is one. -/
def onGrid? (b : Binary) (e : Int) : Option Nat :=
  let d := floorScaled b.m b.q e
  match b.holds d e, b.holds (d + 1) e with
  | true, true => if b.nearerBelow d e then some d else some (d + 1)
  | true, false => some d
  | false, true => some (d + 1)
  | false, false => none

/-- Tries `n` digits, then one more, as far as the fuel reaches. -/
def shortestFrom (b : Binary) (k : Int) (n : Nat) : Nat → Nat × Int
  | 0 => (floorScaled b.m b.q (k - n), k - n)
  | fuel + 1 =>
    match b.onGrid? (k - n) with
    | some d => (d, k - n)
    | none => shortestFrom b k (n + 1) fuel

/-- The fewest digits that read back; of two candidates the nearer one. -/
def shortest (b : Binary) : Digits :=
  let (d, e) := b.shortestFrom b.magnitude 1 17
  let ds := Nat.toDigits 10 d
  ⟨(ds.reverse.dropWhile (· = '0')).reverse, e + ds.length⟩

end Binary

end ExtTypes.Decimal

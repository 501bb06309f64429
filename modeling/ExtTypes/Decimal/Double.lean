import ExtTypes.Decimal.Shortest

/-! Floating-point numbers of 64 bits: a fraction is rounded to the nearest one, a tie goes to the
even one. -/
namespace ExtTypes.Decimal

inductive Double
  | nan
  | infinite (negative : Bool)
  | zero (negative : Bool)
  | finite (negative : Bool) (value : Binary)
  deriving Repr, DecidableEq

/-- The quotient `n / d` rounded to a whole number, a tie to the even one. -/
def roundDiv (n d : Nat) : Nat :=
  let low := n / d
  match compare (2 * (n % d)) d with
  | .lt => low
  | .gt => low + 1
  | .eq => low + low % 2

namespace Double

/-- The number nearest to `n / d`, with the given sign. -/
def ofRatio (negative : Bool) (n d : Nat) : Double :=
  if n = 0 then zero negative
  else
    let e : Int := (n.log2 : Int) - d.log2
    let q := max (-1074) (if compareScaled n (-e) d 0 == .lt then e - 53 else e - 52)
    let m := roundDiv (raise n 2 (-q)) (raise d 2 q)
    -- rounding up may give one binary digit too many
    let b : Binary := if m = 2 * leastMantissa then ⟨leastMantissa, q + 1⟩ else ⟨m, q⟩
    if b.m = 0 then zero negative
    else if 971 < b.q then infinite negative
    else finite negative b

/-- The number nearest to `n * 10 ^ e`. A decimal that is far out of range needs no power. -/
def ofDecimal (negative : Bool) (n : Nat) (e : Int) : Double :=
  let size : Int := e + (Nat.toDigits 10 n).length
  if n = 0 ∨ size < -400 then zero negative
  else if 400 < size then infinite negative
  else ofRatio negative (raise n 10 e) (raise 1 10 (-e))

def isNegative : Double → Bool
  | nan => false
  | infinite s | zero s | finite s _ => s

/-- The fraction that a finite number is. -/
def fraction? : Double → Option (Int × Nat)
  | zero _ => some (0, 1)
  | finite s b =>
    let n : Int := raise b.m 2 b.q
    some (if s then -n else n, raise 1 2 (-b.q))
  | _ => none

/-- The number nearest to a fraction. -/
def ofFraction (n : Int) (d : Nat) : Double := ofRatio (n < 0) n.natAbs d

/-- The whole number that a number is. -/
def toInt? (x : Double) : Option Int :=
  x.fraction?.bind fun (n, d) => if n % d = 0 then some (n / d) else none

def add (x y : Double) : Double :=
  match x.fraction?, y.fraction? with
  | some (a, b), some (c, d) => ofFraction (a * d + c * b) (b * d)
  | some _, none => y
  | none, some _ => x
  | none, none => if x = y then x else nan

/-- The number nearest to a whole number; nothing if all numbers are too small. -/
def ofNat? (n : Nat) : Option Double :=
  match ofRatio false n 1 with
  | infinite _ => none
  | x => some x

def mul (x y : Double) : Double :=
  let negative := x.isNegative != y.isNegative
  match x, y with
  | nan, _ | _, nan | infinite _, zero _ | zero _, infinite _ => nan
  | infinite _, _ | _, infinite _ => infinite negative
  | zero _, _ | _, zero _ => zero negative
  | finite _ a, finite _ b =>
    ofRatio negative (raise (a.m * b.m) 2 (a.q + b.q)) (raise 1 2 (-(a.q + b.q)))

def negate : Double → Double
  | nan => nan
  | infinite s => infinite !s
  | zero s => zero !s
  | finite s b => finite (!s) b

end Double

end ExtTypes.Decimal

import ExtTypes.Decimal.Double
import ExtTypes.Text.Blank
import ExtTypes.Text.DecimalDigit
import ExtTypes.Text.Fields

/-! Numbers as people write them: blanks around, a sign in front, digits of any script, and single
underscores between digits. A whole number in base ten has a bounded number of digits. -/
namespace ExtTypes.Decimal

/-- The greatest number of decimal digits that a whole number is read from or written with. -/
def digitLimit : Nat := 4300

inductive NumeralFault
  | malformed
  /-- More digits than `digitLimit`. -/
  | tooLong (digits : Nat)
  deriving DecidableEq, Repr

/-- What is said of a whole number that is too long: of the digits that are there when it is read,
of none when it is written. -/
def tooLongText (digits? : Option Nat) : String :=
  "Exceeds the limit (" ++ toString digitLimit ++ " digits) for integer string conversion" ++
    (digits?.map fun n => ": value has " ++ toString n ++ " digits").getD "" ++
    "; use sys.set_int_max_str_digits() to increase the limit"

/-- White space that may stand around a number: any but the four separator controls. -/
def isMargin (c : Char) : Bool := Text.isBlank c && ! (0x1C ≤ c.toNat && c.toNat ≤ 0x1F)

/-- The value of a digit in bases up to 36. -/
def digitValue? (c : Char) : Option Nat :=
  if 'a' ≤ c ∧ c ≤ 'z' then some (c.toNat - 'a'.toNat + 10)
  else if 'A' ≤ c ∧ c ≤ 'Z' then some (c.toNat - 'A'.toNat + 10)
  else Text.decimalValue? c

/-- The values of the digits that a text starts with, single underscores between them left out, and
the text after them. -/
def digitRun? (base : Nat) (s : List Char) : Option (List Nat × List Char) :=
  let inRun := fun c => (digitValue? c).any (· < base) || c = '_'
  let groups := Text.fields '_' (s.takeWhile inRun)
  if groups.contains [] then none
  else some (groups.flatten.filterMap digitValue?, s.dropWhile inRun)

/-- The values of the digits of a text of nothing but digits, with single underscores between
them. -/
def digits? (base : Nat) (s : List Char) : Option (List Nat) :=
  (digitRun? base s).bind fun (ds, rest) => if rest = [] then some ds else none

def valueOf (base : Nat) (ds : List Nat) : Nat := ds.foldl (fun n d => n * base + d) 0

/-- Whether the text starts with a minus sign, and the text after its sign. -/
def cutSign : List Char → Bool × List Char
  | '-' :: s => (true, s)
  | '+' :: s => (false, s)
  | s => (false, s)

/-- The text after the mark of a base, such as `0x`. -/
def cutBaseMark (base : Nat) (s : List Char) : List Char :=
  let mark := if base = 2 then some 'b' else if base = 8 then some 'o'
    else if base = 16 then some 'x' else none
  match s with
  | '0' :: c :: '_' :: t => if some c.toLower = mark then t else s
  | '0' :: c :: t => if some c.toLower = mark then t else s
  | _ => s

/-- The whole number that a text says. Too many digits are a fault whatever follows them. -/
def readInt (base : Nat) (s : List Char) : Except NumeralFault Int :=
  let (negative, s) := cutSign (Text.stripBy isMargin s)
  match digitRun? base (cutBaseMark base s) with
  | none => .error .malformed
  | some (ds, rest) =>
    if base = 10 ∧ digitLimit < ds.length then .error (.tooLong ds.length)
    else if rest ≠ [] then .error .malformed
    else .ok (if negative then -(valueOf base ds : Int) else valueOf base ds)

/-- Whether a whole number has few enough digits to be written. -/
def isWritable (n : Int) : Bool := n.natAbs < Nat.pow 10 digitLimit

/-- The digits before a point, after it, and the exponent. -/
def readPositive? (s : List Char) : Option (List Nat × List Nat × Int) :=
  let isMark := fun c => c = 'e' || c = 'E'
  let mantissa := s.takeWhile (! isMark ·)
  let group := fun t => if t = [] then some [] else digits? 10 t
  let whole := mantissa.takeWhile (· ≠ '.')
  let part := (mantissa.dropWhile (· ≠ '.')).drop 1
  let exponent? := match s.dropWhile (! isMark ·) with
    | [] => some 0
    | _ :: t =>
      let (negative, t) := cutSign t
      (digits? 10 t).map fun ds => if negative then -(valueOf 10 ds : Int) else valueOf 10 ds
  do
    let w ← group whole
    let p ← group part
    let e ← exponent?
    guard (w ≠ [] ∨ p ≠ [])
    some (w, p, e)

def readReal? (s : List Char) : Option Double :=
  let (negative, s) := cutSign (Text.stripBy isMargin s)
  let word := String.ofList (s.map Char.toLower)
  if word = "inf" ∨ word = "infinity" then some (.infinite negative)
  else if word = "nan" then some .nan
  else (readPositive? s).map fun (w, p, e) =>
    .ofDecimal negative (valueOf 10 (w ++ p)) (e - p.length)

end ExtTypes.Decimal

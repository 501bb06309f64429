import ExtTypes.Text.Utf8
import ExtTypes.Decimal.Notation

/-! Days and times of day, and the numbers that stand for none. -/
namespace ExtTypes

structure Date where
  year : Nat
  month : Nat
  day : Nat
  deriving DecidableEq, Repr

structure TimeOfDay where
  hour : Nat
  minute : Nat
  second : Nat
  micro : Nat
  deriving DecidableEq, Repr

/-- A day with a time of day, and its distance from universal time in minutes, if it is given. -/
structure Moment where
  date : Date
  time : TimeOfDay
  offset? : Option Int
  deriving DecidableEq, Repr

inductive CalendarFault
  | year (n : Nat)
  | month
  | day
  | hour
  | minute
  | second
  /-- An offset of a day or more, in minutes. -/
  | offset (minutes : Int)
  deriving DecidableEq, Repr

namespace CalendarFault

/-- A span of minutes, as whole days and the seconds above them. -/
def spanText (minutes : Int) : String :=
  let days := minutes.fdiv 1440
  let seconds := minutes.fmod 1440 * 60
  "datetime.timedelta(days=" ++ toString days ++
    (if seconds = 0 then "" else ", seconds=" ++ toString seconds) ++ ")"

def message : CalendarFault → String
  | year n => "year " ++ toString n ++ " is out of range"
  | month => "month must be in 1..12"
  | day => "day is out of range for month"
  | hour => "hour must be in 0..23"
  | minute => "minute must be in 0..59"
  | second => "second must be in 0..59"
  | offset m =>
    "offset must be a timedelta strictly between -timedelta(hours=24) and timedelta(hours=24), not "
      ++ spanText m ++ "."

end CalendarFault

def isLeapYear (y : Nat) : Bool := y % 4 = 0 && (y % 100 ≠ 0 || y % 400 = 0)

def daysInMonth (y m : Nat) : Nat :=
  if m = 2 then (if isLeapYear y then 29 else 28)
  else if m = 4 ∨ m = 6 ∨ m = 9 ∨ m = 11 then 30 else 31

/-- Zeros in front of a number up to `width` digits. -/
def paddedNat (width n : Nat) : String :=
  String.ofList (Decimal.Notation.padded width (Nat.toDigits 10 n))

namespace Date

def check (d : Date) : Except CalendarFault Date :=
  if d.year < 1 ∨ 9999 < d.year then .error (.year d.year)
  else if d.month < 1 ∨ 12 < d.month then .error .month
  else if d.day < 1 ∨ daysInMonth d.year d.month < d.day then .error .day
  else .ok d

def text (d : Date) : String :=
  paddedNat 4 d.year ++ "-" ++ paddedNat 2 d.month ++ "-" ++ paddedNat 2 d.day

/-- The number of days up to the first of March of year 0 that lie before the day. -/
def dayNumber (d : Date) : Int :=
  let y : Int := if d.month ≤ 2 then d.year - 1 else d.year
  let m : Int := if d.month ≤ 2 then d.month + 9 else d.month - 3
  365 * y + y.fdiv 4 - y.fdiv 100 + y.fdiv 400 + (153 * m + 2).fdiv 5 + d.day

end Date

namespace TimeOfDay

def check (t : TimeOfDay) : Except CalendarFault TimeOfDay :=
  if 23 < t.hour then .error .hour
  else if 59 < t.minute then .error .minute
  else if 59 < t.second then .error .second
  else .ok t

def text (t : TimeOfDay) : String :=
  paddedNat 2 t.hour ++ ":" ++ paddedNat 2 t.minute ++ ":" ++ paddedNat 2 t.second ++
    (if t.micro = 0 then "" else "." ++ paddedNat 6 t.micro)

end TimeOfDay

namespace Moment

def check (m : Moment) : Except CalendarFault Moment := do
  match m.offset? with
  | some o => if 1440 ≤ o.natAbs then throw (.offset o)
  | none => pure ()
  let d ← m.date.check
  let t ← m.time.check
  return ⟨d, t, m.offset?⟩

def offsetText (o : Int) : String :=
  (if o < 0 then "-" else "+") ++ paddedNat 2 (o.natAbs / 60) ++ ":" ++ paddedNat 2 (o.natAbs % 60)

def text (m : Moment) : String :=
  m.date.text ++ " " ++ m.time.text ++ (m.offset?.map offsetText).getD ""

/-- The microseconds up to the moment; two moments of one kind with the same number are the
same. -/
def instant (m : Moment) : Int :=
  let minutes : Int := (m.date.dayNumber * 24 + m.time.hour) * 60 + m.time.minute - m.offset?.getD 0
  (minutes * 60 + m.time.second) * 1000000 + m.time.micro

end Moment

end ExtTypes

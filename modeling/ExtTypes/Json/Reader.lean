import ExtTypes.Decimal.Numeral
import ExtTypes.Json.Basic

/-! Reading JSON text. A fault is reported where it is found: with the text that follows it while
reading, as line, column and place in the end. -/
namespace ExtTypes.Json

inductive Expected
  | value
  | fieldName
  | colon
  | comma
  | nothing
  | stringEnd
  | printable
  | escape
  | hexDigits
  | noMark
  deriving DecidableEq, Repr

def Expected.text : Expected → String
  | .value => "Expecting value"
  | .fieldName => "Expecting property name enclosed in double quotes"
  | .colon => "Expecting ':' delimiter"
  | .comma => "Expecting ',' delimiter"
  | .nothing => "Extra data"
  | .stringEnd => "Unterminated string starting at"
  | .printable => "Invalid control character at"
  | .escape => "Invalid \\escape"
  | .hexDigits => "Invalid \\uXXXX escape"
  | .noMark => "Unexpected UTF-8 BOM (decode using utf-8-sig)"

inductive Fault
  /-- Where something else stands than what was expected. -/
  | unexpected (expected : Expected) (line column place : Nat)
  | numberTooLong (digits : Nat)
  /-- An object or an array inside too many others. -/
  | tooDeep (isObject : Bool)
  deriving DecidableEq, Repr

/-- The greatest number of values around a value. -/
def nestingLimit : Nat := 990

def nestingText : String := "maximum recursion depth exceeded"

def Fault.message : Fault → String
  | unexpected expected line column place =>
    expected.text ++ ": line " ++ toString line ++ " column " ++ toString column ++
      " (char " ++ toString place ++ ")"
  | numberTooLong digits => Decimal.tooLongText (some digits)
  | tooDeep isObject =>
    nestingText ++ " while decoding a JSON " ++ (if isObject then "object" else "array") ++
      " from a unicode string"

/-- Why reading stops: what was expected and the text that stands there, or a fault of its own. -/
inductive Stop
  | expected (e : Expected) (rest : List Char)
  | numberTooLong (digits : Nat)
  | tooDeep (isObject : Bool)

/-- The fault for reading the text `text`. -/
def Stop.fault (text : List Char) : Stop → Fault
  | expected e rest =>
    let before := text.take (text.length - rest.length)
    let lastLine := before.reverse.takeWhile (· ≠ '\n')
    .unexpected e (before.count '\n' + 1) (lastLine.length + 1) before.length
  | numberTooLong digits => .numberTooLong digits
  | tooDeep isObject => .tooDeep isObject

/-- What reading a part gives: its value and the text after it. -/
abbrev Read (α : Type) := Except Stop (α × List Char)

def stop {α : Type} (e : Expected) (rest : List Char) : Read α := .error (.expected e rest)

def isSpace (c : Char) : Bool := c = ' ' || c = '\t' || c = '\n' || c = '\r'

def skipSpace (s : List Char) : List Char := s.dropWhile isSpace

def hexValue? (c : Char) : Option Nat :=
  if '0' ≤ c ∧ c ≤ '9' then some (c.toNat - '0'.toNat)
  else if 'a' ≤ c ∧ c ≤ 'f' then some (c.toNat - 'a'.toNat + 10)
  else if 'A' ≤ c ∧ c ≤ 'F' then some (c.toNat - 'A'.toNat + 10)
  else none

/-- The unit that four hexadecimal digits stand for. Text has to follow them. -/
def readUnit? : List Char → Option (Nat × List Char)
  | a :: b :: c :: d :: e :: s => do
    let a ← hexValue? a
    let b ← hexValue? b
    let c ← hexValue? c
    let d ← hexValue? d
    some (((a * 16 + b) * 16 + c) * 16 + d, e :: s)
  | _ => none

def isHighUnit (n : Nat) : Bool := 0xD800 ≤ n && n < 0xDC00
def isLowUnit (n : Nat) : Bool := 0xDC00 ≤ n && n < 0xE000

/-- The character of one unit; a unit of a pair alone stands for no character. -/
def unitChar (n : Nat) : Char := if isHighUnit n || isLowUnit n then '\uFFFD' else Char.ofNat n

def pairChar (high low : Nat) : Char :=
  Char.ofNat (0x10000 + (high - 0xD800) * 0x400 + (low - 0xDC00))

def simpleEscape? (c : Char) : Option Char :=
  if c = '"' ∨ c = '\\' ∨ c = '/' then some c
  else if c = 'b' then some '\x08'
  else if c = 'f' then some '\x0c'
  else if c = 'n' then some '\n'
  else if c = 'r' then some '\r'
  else if c = 't' then some '\t'
  else none

/-- The character that an escape stands for; `s` is the text after the backslash, `u`. -/
def readUnicode (u : List Char) : Read Char :=
  match readUnit? (u.drop 1) with
  | none => stop .hexDigits u
  | some (high, s) =>
    if isHighUnit high then
      match s with
      | '\\' :: 'u' :: t =>
        if (t.drop 4).isEmpty then .ok (unitChar high, s)
        else
          match readUnit? t with
          | none => stop .hexDigits ('u' :: t)
          | some (low, s') =>
            if isLowUnit low then .ok (pairChar high low, s') else .ok (unitChar high, s)
      | _ => .ok (unitChar high, s)
    else .ok (unitChar high, s)

/-- The rest of a string whose opening quote starts the text `start`. -/
def readString (start : List Char) : Nat → List Char → Read (List Char)
  | 0, s => stop .stringEnd s
  | _ + 1, [] => stop .stringEnd start
  | fuel + 1, c :: s =>
    if c = '"' then .ok ([], s)
    else if c = '\\' then
      match s with
      | [] => stop .stringEnd start
      | 'u' :: t =>
        match readUnicode ('u' :: t) with
        | .error e => .error e
        | .ok (ch, t') => (readString start fuel t').map fun (cs, r) => (ch :: cs, r)
      | e :: t =>
        match simpleEscape? e with
        | none => stop .escape (c :: s)
        | some ch => (readString start fuel t).map fun (cs, r) => (ch :: cs, r)
    else if c.toNat < 0x20 then stop .printable (c :: s)
    else (readString start fuel s).map fun (cs, r) => (c :: cs, r)

def digitsValue (ds : List Char) : Nat := ds.foldl (fun n d => 10 * n + (d.toNat - '0'.toNat)) 0

/-- The digits after a point, and the text after them; none of both if no digit follows. -/
def readFraction : List Char → List Char × List Char
  | '.' :: s =>
    let ds := s.takeWhile Char.isDigit
    if ds = [] then ([], '.' :: s) else (ds, s.dropWhile Char.isDigit)
  | s => ([], s)

/-- The exponent, if there is a whole one, and the text after it. -/
def readExponent (s : List Char) : Option Int × List Char :=
  match s with
  | e :: t =>
    if e = 'e' ∨ e = 'E' then
      let (negative, u) := match t with
        | '+' :: u => (false, u)
        | '-' :: u => (true, u)
        | u => (false, u)
      let ds := u.takeWhile Char.isDigit
      if ds = [] then (none, s)
      else
        let n : Int := digitsValue ds
        (some (if negative then -n else n), u.dropWhile Char.isDigit)
    else (none, s)
  | [] => (none, s)

def readNumber (s : List Char) : Read Json :=
  let (negative, t) := match s with
    | '-' :: t => (true, t)
    | t => (false, t)
  let (ds, t) := match t with
    | '0' :: t => (['0'], t)
    | t => (t.takeWhile Char.isDigit, t.dropWhile Char.isDigit)
  if ds = [] then stop .value s
  else
    let (fraction, t) := readFraction t
    let (exponent?, t) := readExponent t
    if fraction = [] ∧ exponent? = none then
      let n : Int := digitsValue ds
      if Decimal.digitLimit < ds.length then .error (.numberTooLong ds.length)
      else .ok (.int (if negative then -n else n), t)
    else
      let e := exponent?.getD 0 - fraction.length
      .ok (.real (.ofDecimal negative (digitsValue (ds ++ fraction)) e), t)

def words : List (String × Json) :=
  [("null", .null), ("true", .bool true), ("false", .bool false), ("NaN", .real .nan),
   ("Infinity", .real (.infinite false)), ("-Infinity", .real (.infinite true))]

/-- A value that is neither a string nor made of others. -/
def readPlain (s : List Char) : Read Json :=
  match words.find? fun w => w.1.toList.isPrefixOf s with
  | some (w, v) => .ok (v, s.drop w.length)
  | none => readNumber s

mutual

/-- A value; `room` is how many values inside one another may start here. -/
def readValue : Nat → Nat → List Char → Read Json
  | 0, _, s => stop .value s
  | fuel + 1, room, s =>
    match s, room with
    | '"' :: t, _ => (readString s fuel t).map fun (cs, r) => (.str (String.ofList cs), r)
    | '{' :: _, 0 => .error (.tooDeep true)
    | '{' :: t, room + 1 =>
      match skipSpace t with
      | '}' :: r => .ok (.obj [], r)
      | t => (readFields fuel room t).map fun (fs, r) => (.obj (dedupFields fs), r)
    | '[' :: _, 0 => .error (.tooDeep false)
    | '[' :: t, room + 1 =>
      match skipSpace t with
      | ']' :: r => .ok (.arr [], r)
      | t => (readItems fuel room t).map fun (vs, r) => (.arr vs, r)
    | s, _ => readPlain s

/-- The fields of an object, up to its end. -/
def readFields : Nat → Nat → List Char → Read (List (String × Json))
  | 0, _, s => stop .fieldName s
  | fuel + 1, room, s =>
    match s with
    | '"' :: t =>
      match readString s fuel t with
      | .error e => .error e
      | .ok (k, t) =>
        match skipSpace t with
        | ':' :: t =>
          match readValue fuel room (skipSpace t) with
          | .error e => .error e
          | .ok (v, t) =>
            match skipSpace t with
            | '}' :: r => .ok ([(String.ofList k, v)], r)
            | ',' :: t =>
              (readFields fuel room (skipSpace t)).map fun (fs, r) =>
                ((String.ofList k, v) :: fs, r)
            | t => stop .comma t
        | t => stop .colon t
    | s => stop .fieldName s

/-- The items of an array, up to its end. -/
def readItems : Nat → Nat → List Char → Read (List Json)
  | 0, _, s => stop .value s
  | fuel + 1, room, s =>
    match readValue fuel room s with
    | .error e => .error e
    | .ok (v, t) =>
      match skipSpace t with
      | ']' :: r => .ok ([v], r)
      | ',' :: t => (readItems fuel room (skipSpace t)).map fun (vs, r) => (v :: vs, r)
      | t => stop .comma t

end

/-- The value that a whole text holds. -/
def parse (text : String) : Except Fault Json :=
  let cs := text.toList
  let result : Read Json :=
    match cs with
    | '\uFEFF' :: _ => stop .noMark cs
    | _ => readValue (2 * cs.length + 2) nestingLimit (skipSpace cs)
  match result with
  | .error e => .error (e.fault cs)
  | .ok (v, r) =>
    match skipSpace r with
    | [] => .ok v
    | r => .error (Stop.fault cs (.expected .nothing r))

end ExtTypes.Json

import ExtTypes.Json.Reader
import ExtTypes.Text.Fields
import ExtTypes.Value.Calendar

/-! Tags: what a YAML node is said to be, or what its text alone says that it is. -/
namespace ExtTypes.Yaml

inductive Tag
  | null
  | bool
  | int
  | float
  | str
  | binary
  | timestamp
  | merge
  | value
  | seq
  | map
  | set
  | omap
  | pairs
  | other (name : String)
  deriving DecidableEq, Repr

/-- The text that the names of the standard tags start with. -/
def standardTags : String := "tag:yaml.org,2002:"

namespace Tag

def standard : List (String × Tag) :=
  [("null", null), ("bool", bool), ("int", int), ("float", float), ("str", str),
   ("binary", binary), ("timestamp", timestamp), ("seq", seq), ("map", map), ("set", set),
   ("omap", omap), ("pairs", pairs), ("merge", merge), ("value", value)]

def ofName (name : String) : Tag :=
  ((standard.find? fun t => standardTags ++ t.1 = name).map Prod.snd).getD (other name)

end Tag

def boolWords : List String :=
  ["yes", "Yes", "YES", "no", "No", "NO", "true", "True", "TRUE", "false", "False", "FALSE", "on",
   "On", "ON", "off", "Off", "OFF"]

def nullWords : List String := ["", "~", "null", "Null", "NULL"]

/-- A digit and then characters of a kind; underscores may stand among them. -/
def isRun (first more : Char → Bool) : List Char → Bool
  | [] => false
  | c :: s => first c && s.all fun d => more d || d = '_'

def isDecimalRun : List Char → Bool := isRun Char.isDigit Char.isDigit

/-- At least one character, all of a kind or underscores. -/
def isLooseRun (p : Char → Bool) (s : List Char) : Bool :=
  ! s.isEmpty && s.all fun d => p d || d = '_'

def isOctalDigit (c : Char) : Bool := '0' ≤ c && c ≤ '7'

/-- One digit, or two below 60. -/
def isSixtieth : List Char → Bool
  | [a] => a.isDigit
  | [a, b] => '0' ≤ a && a ≤ '5' && b.isDigit
  | _ => false

def dropSign : List Char → List Char
  | '-' :: s => s
  | '+' :: s => s
  | s => s

/-- Parts with colons between them; the first one is of a kind of its own. -/
def isSexagesimal (first : List Char → Bool) (s : List Char) : Bool :=
  match Text.fields ':' s with
  | a :: b :: more => first a && (b :: more).all isSixtieth
  | _ => false

def isIntText (s : List Char) : Bool :=
  let t := dropSign s
  let positive := isRun (fun c => c.isDigit && c ≠ '0') Char.isDigit
  match t with
  | ['0'] => true
  | '0' :: 'b' :: u => isLooseRun (fun c => c = '0' || c = '1') u
  | '0' :: 'x' :: u => isLooseRun (fun c => (Json.hexValue? c).isSome) u
  | '0' :: u => isLooseRun isOctalDigit u
  | t => positive t || isSexagesimal positive t

/-- Nothing, or an exponent with its sign. -/
def isExponent : List Char → Bool
  | [] => true
  | e :: sign :: ds =>
    (e = 'e' || e = 'E') && (sign = '-' || sign = '+') && ! ds.isEmpty && ds.all Char.isDigit
  | _ => false

def isFractionChar (c : Char) : Bool := c.isDigit || c = '_'

def isFloatText (s : List Char) : Bool :=
  let t := dropSign s
  let whole := t.takeWhile (· ≠ '.')
  match t.dropWhile (· ≠ '.') with
  | [] => false
  | _ :: part =>
    let word := String.ofList part
    if whole = [] then
      ["inf", "Inf", "INF"].contains word ||
        (t = s && (["nan", "NaN", "NAN"].contains word ||
          (part.head?.any Char.isDigit && isExponent (part.dropWhile isFractionChar))))
    else
      (isDecimalRun whole && isExponent (part.dropWhile isFractionChar)) ||
        (isSexagesimal isDecimalRun whole && part.all isFractionChar)

/-- The numbers in a text for a day, and perhaps a time. -/
structure Timestamp where
  date : Date
  time? : Option TimeOfDay
  offset? : Option Int
  /-- Whether month and day have two digits each. -/
  isPadded : Bool
  deriving DecidableEq, Repr

namespace Timestamp

def digits (ds : List Char) : Nat := Json.digitsValue ds

/-- Between `least` and `most` digits, and the text after them. -/
def readDigits? (least most : Nat) (s : List Char) : Option (List Char × List Char) :=
  let ds := (s.take most).takeWhile Char.isDigit
  if least ≤ ds.length then some (ds, s.drop ds.length) else none

def expect? (c : Char) : List Char → Option (List Char)
  | [] => none
  | d :: s => if c = d then some s else none

def isGap (c : Char) : Bool := c = ' ' || c = '\t'

/-- The distance from universal time in minutes, at the end of a text. -/
def readOffset? (s : List Char) : Option (Option Int) :=
  match s.dropWhile isGap with
  | [] => if s = [] then some none else none
  | ['Z'] => some (some 0)
  | sign :: t =>
    if sign = '-' ∨ sign = '+' then do
      let (h, t) ← readDigits? 1 2 t
      let m ← match t with
        | [] => some []
        | _ => do
          let (m, t) ← readDigits? 2 2 (← expect? ':' t)
          if t = [] then some m else none
      let minutes : Int := digits h * 60 + digits m
      some (some (if sign = '-' then -minutes else minutes))
    else none

/-- The first six digits of a fraction of a second. -/
def micro (ds : List Char) : Nat :=
  digits (ds.take 6 ++ List.replicate (6 - ds.length) '0')

def readTime? (s : List Char) : Option (TimeOfDay × Option Int) := do
  let (hour, s) ← readDigits? 1 2 s
  let (minute, s) ← readDigits? 2 2 (← expect? ':' s)
  let (second, s) ← readDigits? 2 2 (← expect? ':' s)
  let (fraction, s) := match s with
    | '.' :: t => (t.takeWhile Char.isDigit, t.dropWhile Char.isDigit)
    | s => ([], s)
  let offset? ← readOffset? s
  some (⟨digits hour, digits minute, digits second, micro fraction⟩, offset?)

/-- The text after what stands between a day and a time. -/
def readBetween? : List Char → Option (List Char)
  | [] => none
  | c :: s =>
    if c = 'T' ∨ c = 't' then some s
    else if isGap c then some (s.dropWhile isGap)
    else none

def read? (s : List Char) : Option Timestamp := do
  let (year, s) ← readDigits? 4 4 s
  let (month, s) ← readDigits? 1 2 (← expect? '-' s)
  let (day, s) ← readDigits? 1 2 (← expect? '-' s)
  let date : Date := ⟨digits year, digits month, digits day⟩
  let isPadded := month.length = 2 ∧ day.length = 2
  if s = [] then some ⟨date, none, none, isPadded⟩
  else do
    let (time, offset?) ← readTime? (← readBetween? s)
    some ⟨date, some time, offset?, isPadded⟩

end Timestamp

/-- Whether a text alone says a day or a time; a day alone has to be padded. -/
def isTimestampText (s : List Char) : Bool :=
  match Timestamp.read? s with
  | some t => t.time?.isSome || t.isPadded
  | none => false

/-- The text without the line feed at its end, which does not count where a text is looked at. -/
def dropLastFeed (s : List Char) : List Char :=
  if s.getLast? = some '\n' then s.dropLast else s

/-- Marks of the format itself, which stand for no value. -/
def formatMarks : List (List Char) := [['!'], ['&'], ['*']]

/-- What a text without quotes is. -/
def Tag.ofText (text : String) : Tag :=
  let s := dropLastFeed text.toList
  let word := String.ofList s
  if text = "\n" then str
  else if word ∈ boolWords then bool
  else if isFloatText s then float
  else if isIntText s then int
  else if word = "<<" then merge
  else if word ∈ nullWords then null
  else if isTimestampText s then timestamp
  else if word = "=" then value
  else if s ∈ formatMarks then other (standardTags ++ "yaml")
  else str

end ExtTypes.Yaml

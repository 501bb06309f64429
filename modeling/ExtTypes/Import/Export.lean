import ExtTypes.Text.Blank
import ExtTypes.Text.Fields
import ExtTypes.Text.Word

/-! Export statements in a source text: declarations, lists in braces, and the default export. A
statement starts a line, blanks apart; the blanks between its words may be of any kind. -/
namespace ExtTypes.Export

/-- The text after a word. -/
def word? (w : String) (s : List Char) : Option (List Char) := Text.dropInitial? w.toList s

def dropBlanks (s : List Char) : List Char := s.dropWhile Text.isBlank

/-- The text after at least one blank. -/
def blanks? : List Char → Option (List Char)
  | [] => none
  | c :: s => if Text.isBlank c then some (dropBlanks s) else none

/-- The text after a word and blanks, or all of it. -/
def dropModifier (w : String) (s : List Char) : List Char := ((word? w s).bind blanks?).getD s

def isNameStart (c : Char) : Bool := c.isAlpha || c = '_' || c = '$'

def isNamePart (c : Char) : Bool := Text.isWord c || c = '$'

/-- The name at the start of a text, and the text after it. -/
def name? : List Char → Option (List Char × List Char)
  | [] => none
  | c :: s =>
    if isNameStart c then some (c :: s.takeWhile isNamePart, s.dropWhile isNamePart) else none

def declarators : List String := ["const", "let", "var", "class", "enum"]

/-- The text after a word that starts a declaration, and the blanks after it. -/
def declarator? (s : List Char) : Option (List Char) :=
  match word? "function" s with
  | some t =>
    -- the star of a generator may follow the word at once
    match dropBlanks t with
    | '*' :: u => blanks? u
    | _ => blanks? t
  | none => (declarators.findSome? (word? · s)).bind blanks?

/-- The text after the word that starts an export. -/
def start? (s : List Char) : Option (List Char) := word? "export" (dropBlanks s)

/-- A declaration: its name and the text after the name. -/
def declaration? (s : List Char) : Option (List Char × List Char) := do
  let s ← blanks? (← start? s)
  let s ← declarator? (dropModifier "async" (dropModifier "declare" s))
  name? s

/-- Whether no word goes on at the start of the text. -/
def endsWord : List Char → Bool
  | [] => true
  | c :: _ => ! Text.isWord c

structure NameList where
  body : List Char
  /-- Whether the names come from another module. -/
  isForwarded : Bool

/-- A list in braces, and the text after it. -/
def list? (s : List Char) : Option (NameList × List Char) := do
  match dropBlanks (← start? s) with
  | '{' :: t =>
    match t.dropWhile (· ≠ '}') with
    | '}' :: u =>
      let body := t.takeWhile (· ≠ '}')
      match (word? "from" (dropBlanks u)).filter endsWord with
      | some v => some (⟨body, true⟩, v)
      | none => some (⟨body, false⟩, dropBlanks u)
    | _ => none
  | _ => none

/-- The default export. -/
def default? (s : List Char) : Option (Unit × List Char) := do
  let t ← word? "default" (← blanks? (← start? s))
  if endsWord t then some ((), t) else none

/-- Everything that `m` finds at the start of a line. The first `skip` characters belong to what was
found before. -/
def findAll {α : Type} (m : List Char → Option (α × List Char)) :
    Bool → Nat → List Char → List α
  | _, _, [] => []
  | _, skip + 1, c :: s => findAll m (c = '\n') skip s
  | lineStart, 0, c :: s =>
    match (if lineStart then m (c :: s) else none) with
    | some (a, rest) => a :: findAll m (c = '\n') (s.length - rest.length) s
    | none => findAll m (c = '\n') 0 s

/-- What a file offers: a symbol of that name, or its default export. -/
inductive Symbol
  | named (name : String)
  | standard
  deriving DecidableEq, Repr

/-- The name that an item of a list exports; none for a blank item and for a type. -/
def itemName? (item : List Char) : Option String :=
  let part := Text.strip item
  if part = [] ∨ "type ".toList <+: part then none
  else match Text.cutAt? " as ".toList part with
    | some (_, exported) => some (String.ofList (Text.strip exported))
    | none => some (String.ofList part)

def itemSymbol (name : String) : Symbol := if name = "default" then .standard else .named name

def listSymbols (l : NameList) : List Symbol :=
  if l.isForwarded then []
  else ((Text.fields ',' l.body).filterMap itemName?).map itemSymbol

end ExtTypes.Export

namespace ExtTypes

/-- What a source text exports: declarations, then lists, then the default export. -/
def exportedSymbols (text : List Char) : List Export.Symbol :=
  (Export.findAll Export.declaration? true 0 text).map (fun n => .named (String.ofList n)) ++
    (Export.findAll Export.list? true 0 text).flatMap Export.listSymbols ++
    (if (Export.findAll Export.default? true 0 text).isEmpty then [] else [.standard])

end ExtTypes

import ExtTypes.Proofs.Import.Grammar
import Mathlib.Data.List.Forall2

/-! Export statements as sequences of tokens, and the texts that such a sequence can be laid out in:
blanks of any kind between the tokens, some wherever two words would run together. A layout can be
held to be plain; this is what the scanner asks for beyond what the language does. -/
namespace ExtTypes.Export

/-! ### Blanks -/

def Blanks (b : List Char) : Prop := ∀ c ∈ b, Text.isBlank c = true

instance (b : List Char) : Decidable (Blanks b) := List.decidableBAll _ b

/-- Blanks that keep two words apart. -/
structure Separates (b : List Char) : Prop where
  blanks : Blanks b
  ne_nil : b ≠ []

/-- A word: what has no blank in it and no sign that is a token of its own. -/
structure Word where
  chars : List Char
  ne_nil : chars ≠ []
  isWord : ∀ c ∈ chars, Text.isBlank c = false ∧ c ∉ ['\x7b', '\x7d', ',', '*']

/-! ### Tokens -/

/-- The tokens between two commas of a list. -/
inductive Clause
  -- as after a last comma
  | nothing
  | value (n : Word)
  -- `n as m`
  | renamed (n m : Word)
  -- `type n`
  | type (n : Word)
  -- `type n as m`
  | renamedType (n m : Word)

/-- The tokens that say what is declared. -/
inductive Opener
  | word (w : String) (isOpener : w ∈ "function" :: declarators)
  -- `function *`
  | generator

/-- Signs after which something is exported that no import can be made of. -/
def foreignSigns : List String := ["*", "="]

/-- Words and signs after which something is exported that no import can be made of. -/
def foreignWords : List String :=
  ["type", "interface", "abstract", "namespace", "module", "import", "as"] ++ foreignSigns

/-- The brackets with which a pattern starts. -/
def brackets : List Char := ['\x7b', '[']

/-- The tokens of a statement, from its `export` to the last one that counts. -/
inductive Phrase
  -- with or without `declare` and `async`
  | declaration (declare async : Bool) (opener : Opener) (n : Word)
  -- `const` and a pattern, whose names are not looked for
  | pattern (w : String) (isDeclarator : w ∈ declarators) (c : Char) (isBracket : c ∈ brackets)
  -- a list in braces, with or without `from`
  | list (clauses : List Clause) (isForwarded : Bool)
  -- `export default`
  | standard
  -- with or without `declare`
  | foreign (declare : Bool) (w : String) (isForeign : w ∈ foreignWords)

/-! ### Layouts -/

section

-- whether a layout is held to be plain
variable (plain : Prop)

/-- A text with the tokens of a clause. In a plain one there are spaces on both sides of `as`, and a
space comes after a `type` at the start. -/
inductive Clause.IsLaid : Clause → List Char → Prop
  | nothing {b : List Char} (hb : Blanks b) : IsLaid .nothing b
  | value {a b : List Char} {n : Word} (ha : Blanks a) (hb : Blanks b) :
      IsLaid (.value n) (a ++ (n.chars ++ b))
  | renamed {a b s t : List Char} {n m : Word} (ha : Blanks a) (hs : Separates s)
      (ht : Separates t) (hb : Blanks b)
      (hplain : plain → s.getLast? = some ' ' ∧ t.head? = some ' ' ∧
        (n.chars = "type".toList → s.head? = some ' ')) :
      IsLaid (.renamed n m)
        (a ++ ((n.chars ++ (s ++ ("as".toList ++ (t ++ m.chars)))) ++ b))
  | type {a b s : List Char} {n : Word} (ha : Blanks a) (hs : Separates s) (hb : Blanks b)
      (hplain : plain → s.head? = some ' ') :
      IsLaid (.type n) (a ++ (("type".toList ++ (s ++ n.chars)) ++ b))
  | renamedType {a b r s t : List Char} {n m : Word} (ha : Blanks a) (hr : Separates r)
      (hs : Separates s) (ht : Separates t) (hb : Blanks b) (hplain : plain → r.head? = some ' ') :
      IsLaid (.renamedType n m) (a ++ (("type".toList ++
        (r ++ (n.chars ++ (s ++ ("as".toList ++ (t ++ m.chars)))))) ++ b))

inductive Opener.IsLaid : Opener → List Char → Prop
  | word {w : String} (h : w ∈ "function" :: declarators) : IsLaid (.word w h) w.toList
  | generator {b : List Char} (hb : Blanks b) : IsLaid .generator ("function".toList ++ (b ++ ['*']))

/-- A text with a modifier that is there or not. -/
inductive IsModifier (w : String) : Bool → List Char → Prop
  | absent : IsModifier w false []
  | present {s : List Char} (hs : Separates s) : IsModifier w true (w.toList ++ s)

/-- A text with the tokens of a statement. In a plain one blanks come after the star of a
generator. -/
inductive Phrase.IsLaid : Phrase → List Char → Prop
  | declaration {s d a k g : List Char} {declare async : Bool} {o : Opener} {n : Word}
      (hs : Separates s) (hd : IsModifier "declare" declare d) (ha : IsModifier "async" async a)
      (hk : o.IsLaid k) (hg : Blanks g) (hgap : g = [] → o = .generator ∧ ¬ plain)
      -- a reserved word
      (hn : n.chars ≠ "export".toList) :
      IsLaid (.declaration declare async o n)
        ("export".toList ++ (s ++ (d ++ (a ++ (k ++ (g ++ n.chars))))))
  | pattern {s g : List Char} {w : String} {c : Char} (hw : w ∈ declarators) (hc : c ∈ brackets)
      (hs : Separates s) (hg : Blanks g) :
      IsLaid (.pattern w hw c hc) ("export".toList ++ (s ++ (w.toList ++ (g ++ [c]))))
  | list {b : List Char} {cs : List Clause} {ts : List (List Char)} (hb : Blanks b) (hne : cs ≠ [])
      (hcs : List.Forall₂ (Clause.IsLaid plain) cs ts) :
      IsLaid (.list cs false)
        ("export".toList ++ (b ++ '\x7b' :: (Text.joinWith [','] ts ++ ['\x7d'])))
  | forwarded {b c : List Char} {cs : List Clause} {ts : List (List Char)} (hb : Blanks b)
      (hne : cs ≠ []) (hcs : List.Forall₂ (Clause.IsLaid plain) cs ts) (hc : Blanks c) :
      IsLaid (.list cs true) ("export".toList ++
        (b ++ '\x7b' :: (Text.joinWith [','] ts ++ '\x7d' :: (c ++ "from".toList))))
  | standard {s : List Char} (hs : Separates s) :
      IsLaid .standard ("export".toList ++ (s ++ "default".toList))
  | foreign {s d : List Char} {declare : Bool} {w : String} (hw : w ∈ foreignWords) (hs : Blanks s)
      (hd : IsModifier "declare" declare d) (hgap : s = [] → declare = false ∧ w ∈ foreignSigns) :
      IsLaid (.foreign declare w hw) ("export".toList ++ (s ++ (d ++ w.toList)))

end

/-! ### Sources -/

/-- No word goes on at the start of the text. -/
def EndsName (s : List Char) : Prop := s.head?.all (! isNamePart ·) = true

/-- The text starts with blanks and `export`. -/
def StartsExport (s : List Char) : Prop :=
  ∃ r, dropBlanks s = "export".toList ++ r ∧ EndsName r

/-- The text starts with blanks and the word `from`. -/
def StartsFrom (s : List Char) : Prop :=
  ∃ r, dropBlanks s = "from".toList ++ r ∧ endsWord r = true

/-- The text starts with blanks and the opening of a list. -/
def StartsList (s : List Char) : Prop :=
  ∃ b r, Blanks b ∧ dropBlanks s = "export".toList ++ (b ++ '\x7b' :: r)

/-- Text that is not looked at: no line after its first one starts with `export`, and blanks after it
are not part of it. -/
structure IsFree (t : List Char) : Prop where
  last : ∀ c ∈ t.getLast?, Text.isBlank c = false
  lines : ∀ q, '\n' :: q <:+ t → ¬ StartsExport q

namespace Phrase

/-- A list that is not from another module. -/
def isOwnList : Phrase → Bool
  | list _ isForwarded => ! isForwarded
  | declaration .. | pattern .. | standard | foreign .. => false

/-- Whether the last token is a word, which other text must be kept apart from. -/
def endsInWord : Phrase → Bool
  | list _ isForwarded => isForwarded
  | foreign _ w _ => w ∉ foreignSigns
  | pattern .. => false
  | declaration .. | standard => true

end Phrase

/-- What comes next is on a line of its own, or there is nothing but blanks. -/
def OnNewLine (s : List Char) : Prop := '\n' ∈ s.takeWhile Text.isBlank ∨ dropBlanks s = []

instance (s : List Char) : Decidable (OnNewLine s) := inferInstanceAs (Decidable (_ ∨ _))

/-- What comes next is on a line of its own and not indented. -/
def NotIndented (s : List Char) : Prop := (s.takeWhile Text.isBlank).getLast? = some '\n'

/-- A text with these statements, each on a line of its own, and with other text after and between
them. In a plain one, a list that comes after a list without a semicolon is not indented. -/
inductive IsSource (plain : Prop) : List Phrase → List Char → Prop
  | nil {b : List Char} (hb : Blanks b) : IsSource plain [] b
  | phrase {b x t s : List Char} {p : Phrase} {ps : List Phrase} (hb : Blanks b)
      (hx : p.IsLaid plain x) (ht : IsFree t) (hends : p.endsInWord = true → EndsName t)
      (hlist : p.isOwnList = true → ¬ StartsFrom (t ++ s)) (hline : OnNewLine s)
      (hplain : plain → p.isOwnList = true → t = [] → StartsList s → NotIndented s)
      (hs : IsSource plain ps s) :
      IsSource plain (p :: ps) (b ++ (x ++ (t ++ s)))
  | other {b t s : List Char} {ps : List Phrase} (hb : Blanks b) (hne : t ≠ []) (ht : IsFree t)
      (hstart : ¬ StartsExport t) (hhead : ∀ c ∈ t.head?, Text.isBlank c = false)
      (hline : OnNewLine s) (hs : IsSource plain ps s) : IsSource plain ps (b ++ (t ++ s))

/-! ### What is exported -/

/-- The name under which a clause exports a value. A renamed `type` is taken for a type. -/
def Clause.exported? : Clause → Option Word
  | value n => some n
  | renamed n m => if n.chars = "type".toList then none else some m
  | nothing | type _ | renamedType .. => none

namespace Phrase

/-- The name that is declared: as much of the word as can be one. -/
def declared? : Phrase → Option (List Char)
  | declaration _ _ _ n => (name? n.chars).map Prod.fst
  | pattern .. | list .. | standard | foreign .. => none

def listed : Phrase → List Word
  | list cs false => cs.filterMap Clause.exported?
  | list _ true | declaration .. | pattern .. | standard | foreign .. => []

def isStandard : Phrase → Bool
  | standard => true
  | declaration .. | pattern .. | list .. | foreign .. => false

end Phrase

/-- What statements with these tokens export: declarations, lists, the default export. -/
def phraseSymbols (ps : List Phrase) : List Symbol :=
  (ps.filterMap Phrase.declared?).map (fun n => .named (String.ofList n)) ++
    (ps.flatMap Phrase.listed).map (fun n => itemSymbol (String.ofList n.chars)) ++
    if ps.any Phrase.isStandard then [.standard] else []

end ExtTypes.Export

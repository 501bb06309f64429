import ExtTypes.Import.Export
import Mathlib.Data.List.TakeWhile

/-! Export statements as they are written. A statement is a tree with all its blanks, so it has one
text. The names of the values that it exports are read off the tree. -/
namespace ExtTypes

namespace Text

theorem blank_apart_word : ∀ r ∈ blankRanges, ∀ w ∈ wordRanges, w.2 < r.1 ∨ r.2 < w.1 := by
  decide +kernel

/-- The blanks of ASCII come before the digits. -/
theorem blank_ascii : ∀ r ∈ blankRanges, r.2 < 0x30 ∨ 0x80 ≤ r.1 := by decide

theorem not_isWord_before_digits : ∀ n < 0x30, isWord (Char.ofNat n) = false := by decide

theorem notBlank_of_isWord {c : Char} (h : isWord c = true) : isBlank c = false := by
  apply Bool.eq_false_iff.mpr
  intro hblank
  obtain ⟨r, hr, hlow, hhigh⟩ := (inRanges_iff _ _).mp hblank
  by_cases hascii : c.toNat < 0x80
  · have hword : 0x30 ≤ c.toNat := by
      apply Nat.not_lt.mp
      intro hlt
      have hno := not_isWord_before_digits c.toNat hlt
      rw [Char.ofNat_toNat, h] at hno
      cases hno
    have hblank := blank_ascii r hr
    omega
  -- beyond ASCII both are tables, which have no code point in common
  · rw [isWord, if_neg hascii] at h
    obtain ⟨w, hw, hwlow, hwhigh⟩ := (inRanges_iff _ _).mp h
    have hapart := blank_apart_word r hr w hw
    omega

end Text

namespace Export

/-- Blanks within a line, or nothing. -/
structure Gap where
  chars : List Char
  isGap : (chars.all fun c => Text.isBlank c && c != '\n') = true

structure Space extends Gap where
  ne_nil : chars ≠ []

structure Ident where
  first : Char
  others : List Char
  isNameStart_first : isNameStart first = true
  isNamePart_others : others.all isNamePart = true

namespace Ident

def text (n : Ident) : List Char := n.first :: n.others

def name (n : Ident) : String := String.ofList n.text

end Ident

/-- What stands between two commas of a list. -/
inductive Item
  -- as after a last comma
  | nothing (blanks : Gap)
  | plain (before : Gap) (n : Ident) (after : Gap)
  -- `type as m` would be the type of the name `as`
  | renamed (before : Gap) (n m : Ident) (after : Gap) (isValue : n.text ≠ "type".toList)
  | type (before gap : Gap) (n : Ident) (after : Gap)

namespace Item

def text : Item → List Char
  | nothing blanks => blanks.chars
  | plain before n after => before.chars ++ (n.text ++ after.chars)
  | renamed before n m after _ =>
    before.chars ++ ((n.text ++ (" as ".toList ++ m.text)) ++ after.chars)
  | type before gap n after =>
    before.chars ++ (("type ".toList ++ (gap.chars ++ n.text)) ++ after.chars)

/-- The name under which an item exports a value. -/
def exported? : Item → Option Ident
  | plain _ n _ => some n
  | renamed _ _ m _ _ => some m
  | nothing _ | type .. => none

end Item

def Keyword := {w : String // w ∈ "function" :: "function*" :: declarators}

/-- A word and blanks, where the word is not left out. -/
def optional (w : String) : Option Space → List Char
  | none => []
  | some s => w.toList ++ s.chars

/-- A declaration from its modifiers on. -/
def declarationFrom (declare async : Option Space) (k : Keyword) (s : List Char) : List Char :=
  optional "declare" declare ++ (optional "async" async ++ (k.val.toList ++ s))

inductive Statement
  -- `export const n`, with `declare` or `async` or both before the keyword
  | declaration (space : Space) (declare async : Option Space) (keyword : Keyword) (gap : Space)
      (n : Ident)
  -- a list in braces, and a `from` after it if the names come from another module
  | list (before : Gap) (items : List Item) (after : Gap) (isForwarded : Bool)
  -- `export default`
  | standard (space : Space)

namespace Statement

def body : Statement → List Char
  | declaration space declare async keyword gap n =>
    space.chars ++ declarationFrom declare async keyword (gap.chars ++ n.text)
  | list before items after isForwarded =>
    before.chars ++ ('\x7b' :: (Text.joinWith [','] (items.map Item.text) ++
      ('\x7d' :: (after.chars ++ if isForwarded then "from".toList else []))))
  | standard space => space.chars ++ "default".toList

def text (st : Statement) : List Char := "export".toList ++ st.body

/-- Whether the statement can end before such a text. -/
def isEndedBy : Statement → List Char → Bool
  -- otherwise the name would go on
  | declaration .., s => s.head?.all (! isNamePart ·)
  | list _ _ _ false, s => s.head? = some ';'
  | list _ _ _ true, s | standard _, s => endsWord s

def declared? : Statement → Option Ident
  | declaration _ _ _ _ _ n => some n
  | list .. | standard _ => none

def nameList? : Statement → Option NameList
  | list _ items _ isForwarded => some ⟨Text.joinWith [','] (items.map Item.text), isForwarded⟩
  | declaration .. | standard _ => none

/-- The names of the values in a list of the file's own. -/
def listed : Statement → List Ident
  | list _ items _ false => items.filterMap Item.exported?
  | list _ _ _ true | declaration .. | standard _ => []

def isStandard : Statement → Bool
  | standard _ => true
  | declaration .. | list .. => false

end Statement

theorem notBlank_of_isNamePart {c : Char} (h : isNamePart c = true) : Text.isBlank c = false := by
  unfold isNamePart at h
  rcases Bool.or_eq_true_iff.mp h with h | h
  · exact Text.notBlank_of_isWord h
  · obtain rfl : c = '$' := by simpa using h
    decide

theorem toNat_lt_of_isAlpha {c : Char} (h : c.isAlpha = true) : c.toNat < 0x80 := by
  rcases Bool.or_eq_true_iff.mp h with h | h
  · have hupper : 'A'.val ≤ c.val ∧ c.val ≤ 'Z'.val := of_decide_eq_true h
    have hle : c.toNat ≤ 'Z'.toNat := UInt32.le_iff_toNat_le.mp hupper.2
    have hz : 'Z'.toNat = 90 := rfl
    omega
  · have hlower : c.val ≤ 'z'.val := of_decide_eq_true (Bool.and_eq_true_iff.mp h).2
    have hle : c.toNat ≤ 'z'.toNat := UInt32.le_iff_toNat_le.mp hlower
    have hz : 'z'.toNat = 122 := rfl
    omega

theorem isNamePart_of_isNameStart {c : Char} (h : isNameStart c = true) : isNamePart c = true := by
  simp only [isNameStart, Bool.or_eq_true, decide_eq_true_eq] at h
  rcases h with (h | rfl) | rfl
  · have halnum : c.isAlphanum = true := Bool.or_eq_true_iff.mpr (.inl h)
    rw [isNamePart, Text.isWord, if_pos (toNat_lt_of_isAlpha h), halnum]
    rfl
  · decide
  · decide

namespace Gap

variable (g : Gap)

theorem isGap_of_mem {c : Char} (h : c ∈ g.chars) : Text.isBlank c = true ∧ c ≠ '\n' := by
  simpa using List.all_eq_true.mp g.isGap c h

theorem isBlank : ∀ c ∈ g.chars, Text.isBlank c = true := fun _ hc => (g.isGap_of_mem hc).1

theorem newline_notMem : '\n' ∉ g.chars := fun h => (g.isGap_of_mem h).2 rfl

end Gap

namespace Ident

variable (n : Ident)

theorem isNamePart_of_mem {c : Char} (h : c ∈ n.text) : isNamePart c = true := by
  rcases List.mem_cons.mp h with rfl | h
  · exact isNamePart_of_isNameStart n.isNameStart_first
  · exact List.all_eq_true.mp n.isNamePart_others c h

theorem notBlank_of_mem {c : Char} (h : c ∈ n.text) : Text.isBlank c = false :=
  notBlank_of_isNamePart (n.isNamePart_of_mem h)

theorem notMem_text {c : Char} (h : isNamePart c = false) : c ∉ n.text := by
  intro hc
  rw [n.isNamePart_of_mem hc] at h
  cases h

end Ident

/-- No item has a character that is neither a blank of its line nor part of a name. -/
theorem Item.notMem_text {c : Char} (hname : isNamePart c = false)
    (hgap : Text.isBlank c = false ∨ c = '\n') (i : Item) : c ∉ i.text := by
  have hblank (g : Gap) : c ∉ g.chars := by
    intro hc
    obtain ⟨h, hline⟩ := g.isGap_of_mem hc
    rcases hgap with hgap | hgap
    · rw [hgap] at h
      cases h
    · exact hline hgap
  have hword (w : List Char) (h : (w.all fun d => d = ' ' || isNamePart d) = true) : c ∉ w := by
    intro hc
    have hd := List.all_eq_true.mp h c hc
    rw [hname, Bool.or_false] at hd
    obtain rfl : c = ' ' := of_decide_eq_true hd
    exact absurd hgap (by decide)
  have has : c ∉ " as ".toList := hword _ (by decide)
  have htype : c ∉ "type ".toList := hword _ (by decide)
  cases i with
  | nothing blanks => exact hblank blanks
  | plain before n after =>
    simp only [text, List.mem_append, hblank, n.notMem_text hname, or_self, not_false_eq_true]
  | renamed before n m after isValue =>
    simp only [text, List.mem_append, hblank, n.notMem_text hname, m.notMem_text hname, has,
      or_self, not_false_eq_true]
  | type before gap n after =>
    simp only [text, List.mem_append, hblank, n.notMem_text hname, htype, or_self,
      not_false_eq_true]

theorem Item.notMem_joinWith {c : Char} (hname : isNamePart c = false)
    (hgap : Text.isBlank c = false ∨ c = '\n') (hcomma : c ≠ ',') (items : List Item) :
    c ∉ Text.joinWith [','] (items.map Item.text) := by
  intro hc
  rcases Text.mem_joinWith hc with hc | ⟨p, hp, hc⟩
  · exact hcomma (List.mem_singleton.mp hc)
  · obtain ⟨i, -, rfl⟩ := List.mem_map.mp hp
    exact i.notMem_text hname hgap hc

theorem Keyword.newline_notMem (k : Keyword) : '\n' ∉ k.val.toList := by
  have hall : ∀ w ∈ "function" :: "function*" :: declarators, '\n' ∉ w.toList := by decide
  exact hall k.val k.property

theorem newline_notMem_optional {w : String} (h : '\n' ∉ w.toList) (o : Option Space) :
    '\n' ∉ optional w o := by
  cases o with
  | none => exact List.not_mem_nil
  | some g =>
    rw [optional, List.mem_append, not_or]
    exact ⟨h, g.newline_notMem⟩

theorem Statement.text_eq_cons (st : Statement) : st.text = 'e' :: st.text.tail := rfl

theorem Statement.text_ne_nil (st : Statement) : st.text ≠ [] := List.cons_ne_nil _ _

/-- A statement stands on one line. -/
theorem Statement.newline_notMem_text (st : Statement) : '\n' ∉ st.text := by
  have hname : isNamePart '\n' = false := by decide
  have hexport : '\n' ∉ "export".toList := by decide
  have hbody : '\n' ∉ st.body := by
    cases st with
    | declaration space declare async keyword gap n =>
      have hdeclare := newline_notMem_optional (w := "declare") (by decide) declare
      have hasync := newline_notMem_optional (w := "async") (by decide) async
      simp only [body, declarationFrom, List.mem_append, space.newline_notMem, hdeclare, hasync,
        keyword.newline_notMem, gap.newline_notMem, n.notMem_text hname, or_self, not_false_eq_true]
    | list before items after isForwarded =>
      have hitems := Item.notMem_joinWith hname (.inr rfl) (by decide) items
      have hfrom : '\n' ∉ if isForwarded then "from".toList else [] := by
        cases isForwarded <;> decide
      have hopen : '\n' ≠ '\x7b' := by decide
      have hclose : '\n' ≠ '\x7d' := by decide
      simp only [body, List.mem_append, List.mem_cons, before.newline_notMem, hitems,
        after.newline_notMem, hfrom, hopen, hclose, or_self, not_false_eq_true]
    | standard space =>
      have hdefault : '\n' ∉ "default".toList := by decide
      simp only [body, List.mem_append, space.newline_notMem, hdefault, or_self, not_false_eq_true]
  intro h
  rcases List.mem_append.mp h with h | h
  · exact hexport h
  · exact hbody h

end Export

end ExtTypes

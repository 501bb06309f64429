import ExtTypes.Text.CharRange

/-! White space: the characters that separate words in any script (Unicode 14), the four
separator controls U+001C to U+001F included. -/
namespace ExtTypes.Text

def blankRanges : List (Nat × Nat) :=
  [(0x9, 0xD), (0x1C, 0x20), (0x85, 0x85), (0xA0, 0xA0), (0x1680, 0x1680), (0x2000, 0x200A),
   (0x2028, 0x2029), (0x202F, 0x202F), (0x205F, 0x205F), (0x3000, 0x3000)]

def isBlank (c : Char) : Bool := inRanges blankRanges c.toNat

/-- Drops the characters at both ends that fulfil `p`. -/
def stripBy (p : Char → Bool) (s : List Char) : List Char :=
  ((s.dropWhile p).reverse.dropWhile p).reverse

/-- Drops the white space at both ends. -/
def strip (s : List Char) : List Char := stripBy isBlank s

/-- `strip` on strings. -/
def trim (s : String) : String := String.ofList (strip s.toList)

theorem isBlank_of_isWhitespace {c : Char} (h : c.isWhitespace = true) : isBlank c = true := by
  simp only [Char.isWhitespace, Bool.or_eq_true, decide_eq_true_eq] at h
  rcases h with ((h | h) | h) | h <;> subst h <;> decide

end ExtTypes.Text

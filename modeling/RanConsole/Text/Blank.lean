import RanConsole.Text.Ranges

/-!
# Blank characters and trimming

Blank are the white space characters of Unicode together with the four information separators U+001C to U+001F. The zero
width space and the byte order mark are not blank. Trimming takes blanks off the ends of a text and leaves those inside.
-/

namespace RanConsole.Text

/-- The blank characters. -/
def blankRanges : List (Nat × Nat) :=
  [(0x09, 0x0D), (0x1C, 0x20), (0x85, 0x85), (0xA0, 0xA0), (0x1680, 0x1680), (0x2000, 0x200A), (0x2028, 0x2029),
   (0x202F, 0x202F), (0x205F, 0x205F), (0x3000, 0x3000)]

/-- White space that trimming removes. -/
def isBlank (c : Char) : Bool :=
  inRanges blankRanges c

/-- Every character that core calls white space is blank. -/
theorem isBlank_of_isWhitespace (c : Char) (h : c.isWhitespace = true) : isBlank c = true := by
  simp only [Char.isWhitespace, Bool.or_eq_true, decide_eq_true_eq] at h
  rcases h with ((h | h) | h) | h <;> subst h <;> decide

/-- The text without the longest end that satisfies `p`. -/
def dropEndWhile (p : Char → Bool) (s : List Char) : List Char :=
  (s.reverse.dropWhile p).reverse

/-- The text without the blanks at its end. -/
def trimEnd (s : List Char) : List Char :=
  dropEndWhile isBlank s

/-- The text without the blanks at its two ends. -/
def trim (s : List Char) : List Char :=
  trimEnd (s.dropWhile isBlank)

/-- A text of blanks alone, or of nothing. -/
def isBlankText (s : List Char) : Bool :=
  s.all isBlank

end RanConsole.Text

namespace RanConsole

/-- The text without the blanks at its two ends. -/
def trimmed (s : String) : String :=
  String.ofList (Text.trim s.toList)

end RanConsole

/-!
# Lines of a text

A line ends at a line feed, a carriage return, the two together, a vertical tab, a form feed, one of the separators U+001C to
U+001E, U+0085, or the line and paragraph separators U+2028 and U+2029. What follows the last line end is a line unless it is
empty.
-/

namespace RanConsole.Text

/-- A character that ends a line. -/
def isLineEnd (c : Char) : Bool :=
  (0x0A ≤ c.toNat && c.toNat ≤ 0x0D) || (0x1C ≤ c.toNat && c.toNat ≤ 0x1E) || c.toNat == 0x85 ||
    c.toNat == 0x2028 || c.toNat == 0x2029

/-- The lines of a text whose first line starts with the reversed characters `line`. -/
def linesFrom (line : List Char) : List Char → List (List Char)
  | [] => if line.isEmpty then [] else [line.reverse]
  | '\r' :: '\n' :: s => line.reverse :: linesFrom [] s
  | c :: s => if isLineEnd c then line.reverse :: linesFrom [] s else linesFrom (c :: line) s

/-- The text with a line feed for each carriage return, and for each carriage return with the line feed after it. -/
def withLineFeeds : List Char → List Char
  | [] => []
  | '\r' :: '\n' :: s => '\n' :: withLineFeeds s
  | c :: s => (if c = '\r' then '\n' else c) :: withLineFeeds s

/-- The lines of a text, without their ends. -/
def lines (s : List Char) : List (List Char) := linesFrom [] s

end RanConsole.Text

import RanConsole.Json.Basic
import RanConsole.Number.Layout
import RanConsole.Text.Cut
import RanConsole.Text.Quoted

/-!
# Writing JSON

A style says how items are separated, whether values stand on indented lines, and which characters are escaped. Quotes,
backslashes and control characters below U+0020 are always escaped; in an ASCII style so is every character from U+007F on, by the units
of UTF-16.
-/

namespace RanConsole

namespace Json

/-- The decisions of a JSON format. -/
structure Style where
  itemSeparator : String
  keySeparator : String
  /-- The width of one level; none for a value on a single line. -/
  indent : Option Nat
  /-- Whether characters from U+007F on are escaped. -/
  asciiOnly : Bool
  numbers : NumberFormat

/-- Numbers in JSON; infinities and what is not a number have words that JSON itself lacks. -/
def numberWords : NumberFormat :=
  { NumberFormat.plain with infinity := "Infinity", negativeInfinity := "-Infinity", notANumber := "NaN" }

/-- One line, ASCII only. -/
def Style.line : Style :=
  { itemSeparator := ", ", keySeparator := ": ", indent := none, asciiOnly := true, numbers := numberWords }

/-- Indented by two, ASCII only. -/
def Style.indented : Style :=
  { itemSeparator := ",", keySeparator := ": ", indent := some 2, asciiOnly := true, numbers := numberWords }

/-- One line without spaces, every printable character as it is. -/
def Style.compact : Style :=
  { itemSeparator := ",", keySeparator := ":", indent := none, asciiOnly := false, numbers := numberWords }

/-- The escape of one unit of UTF-16. -/
def unitEscape (n : Nat) : List Char := '\\' :: 'u' :: Text.hexDigits 4 n

/-- A character inside a JSON text. -/
def escaped (asciiOnly : Bool) (c : Char) : List Char :=
  if c = '"' then ['\\', '"']
  else if c = '\\' then ['\\', '\\']
  else if c = '\n' then ['\\', 'n']
  else if c = '\r' then ['\\', 'r']
  else if c = '\t' then ['\\', 't']
  else if c = '\x08' then ['\\', 'b']
  else if c = '\x0C' then ['\\', 'f']
  else if c.toNat < 0x20 then unitEscape c.toNat
  else if c.toNat < 0x7F || !asciiOnly then [c]
  else if c.toNat < 0x10000 then unitEscape c.toNat
  else
    unitEscape (0xD800 + (c.toNat - 0x10000) / 0x400) ++ unitEscape (0xDC00 + (c.toNat - 0x10000) % 0x400)

/-- A text in double quotes. -/
def printText (style : Style) (s : String) : List Char :=
  '"' :: (s.toList.flatMap (escaped style.asciiOnly) ++ ['"'])

/-- A line break and the indentation of a level, or nothing on a single line. -/
def lineBreak (style : Style) (depth : Nat) : List Char :=
  match style.indent with
  | none => []
  | some width => '\n' :: List.replicate (width * depth) ' '

/-- The pieces between brackets, each on a line of its own where lines are broken. -/
def bracketed (style : Style) (depth : Nat) (opening closing : Char) : List (List Char) → List Char
  | [] => [opening, closing]
  | pieces =>
    opening :: (lineBreak style (depth + 1) ++
      Text.joinWith (style.itemSeparator.toList ++ lineBreak style (depth + 1)) pieces ++
      lineBreak style depth ++ [closing])

mutual

/-- A value that stands `depth` levels deep. -/
def print (style : Style) (depth : Nat) : Json → List Char
  | .null => "null".toList
  | .bool true => "true".toList
  | .bool false => "false".toList
  | .int i => integerText i
  | .float x => (x.written style.numbers).toList
  | .str s => printText style s
  | .arr items => bracketed style depth '[' ']' (printItems style (depth + 1) items)
  | .obj members => bracketed style depth '{' '}' (printMembers style (depth + 1) members)

/-- The items of a list. -/
def printItems (style : Style) (depth : Nat) : List Json → List (List Char)
  | [] => []
  | v :: rest => print style depth v :: printItems style depth rest

/-- The members of an object. -/
def printMembers (style : Style) (depth : Nat) : List (String × Json) → List (List Char)
  | [] => []
  | (key, v) :: rest =>
    (printText style key ++ style.keySeparator.toList ++ print style depth v) :: printMembers style depth rest

end

/-- The value written in the style. -/
def render (style : Style) (v : Json) : String :=
  String.ofList (v.print style 0)

end Json

end RanConsole

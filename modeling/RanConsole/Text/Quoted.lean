import RanConsole.Text.Printable

/-!
# Quoted texts

A quoted text stands in apostrophes, or in double quotes when it holds an apostrophe and no double quote. The quote in use and
the backslash are escaped with a backslash, line feed, carriage return and tab have letters, and every other character that is
not printable is written by its code point in two, four or eight lower-case hexadecimal digits.
-/

namespace RanConsole.Text

/-- The lower-case hexadecimal digit of a value below sixteen. -/
def hexDigit (n : Nat) : Char :=
  if n < 10 then Char.ofNat (0x30 + n) else Char.ofNat (0x57 + n)

/-- The last `width` hexadecimal digits of a number. -/
def hexDigits : (width : Nat) → Nat → List Char
  | 0, _ => []
  | width + 1, n => hexDigits width (n / 16) ++ [hexDigit (n % 16)]

/-- The character that quotes the text. -/
def quoteFor (s : List Char) : Char :=
  if s.contains '\'' && !s.contains '"' then '"' else '\''

/-- One character of a text that stands between two of the given quotes. -/
def quoteChar (quote c : Char) : List Char :=
  if c = quote ∨ c = '\\' then ['\\', c]
  else if c = '\n' then ['\\', 'n']
  else if c = '\r' then ['\\', 'r']
  else if c = '\t' then ['\\', 't']
  else if isPrintable c then [c]
  else if c.toNat < 0x100 then '\\' :: 'x' :: hexDigits 2 c.toNat
  else if c.toNat < 0x10000 then '\\' :: 'u' :: hexDigits 4 c.toNat
  else '\\' :: 'U' :: hexDigits 8 c.toNat

/-- The text in quotes. -/
def quote (s : List Char) : List Char :=
  let q := quoteFor s
  q :: (s.flatMap (quoteChar q) ++ [q])

end RanConsole.Text

namespace RanConsole

/-- The text in quotes, with the characters escaped that cannot be shown. -/
def quoted (s : String) : String :=
  String.ofList (Text.quote s.toList)

end RanConsole

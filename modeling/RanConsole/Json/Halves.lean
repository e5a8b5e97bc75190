import RanConsole.Json.Printer
import RanConsole.Json.Token

/-!
# Halves that are written

A half of a pair that stands alone is no character, but a JSON text can hold its escape, and a JSON line in ASCII shows it again by that
escape. So a line that was written with spelled halves shows each of them by its own escape (`unspelled`).
-/

namespace RanConsole.Json

/-- The unit that four hexadecimal digits stand for. -/
def unitOf? (digits : List Char) : Option Nat :=
  (digits.mapM hexValue?).map fun values => values.foldl (fun n d => 16 * n + d) 0

/-- The escape of what a mark and the unit behind it spell: the half, or the mark itself. -/
def spelledEscape (unit : Nat) : List Char :=
  unitEscape (if unit = spellingMark.toNat then unit else unit - spellingShift)

/-- A line in ASCII with the escapes of spelled halves in place of their spellings. -/
def unspelled : List Char → List Char
  | '\\' :: '\\' :: s => '\\' :: '\\' :: unspelled s
  | '\\' :: 'u' :: 'd' :: '7' :: 'f' :: 'f' :: '\\' :: 'u' :: a :: b :: c :: d :: s =>
    ((unitOf? [a, b, c, d]).elim [] spelledEscape) ++ unspelled s
  | c :: s => c :: unspelled s
  | [] => []

end RanConsole.Json

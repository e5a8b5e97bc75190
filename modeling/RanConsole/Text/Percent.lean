import RanConsole.Text.Quoted
import RanConsole.Text.Utf8

/-!
# Percent notation

In an address a character that cannot stand for itself is written by its octets, each as `%` and two hexadecimal digits. A text that
is in this notation already stays as it is.
-/

namespace RanConsole.Text.Percent

/-- The value of a hexadecimal digit. -/
def digitValue? (c : Char) : Option Nat :=
  if c.isDigit then some (c.toNat - '0'.toNat)
  else if 'a' ≤ c.toLower && c.toLower ≤ 'f' then some (c.toLower.toNat - 'a'.toNat + 10)
  else none

/-- An octet as `%` and two digits. -/
def encodeOctet (octet : Nat) : List Char :=
  '%' :: (hexDigits 2 octet).map Char.toUpper

/-- The text with the characters that are not kept written by their octets. What is written so already is kept. -/
def encode (keeps : Char → Bool) : List Char → List Char
  | [] => []
  | '%' :: a :: b :: s =>
    if (digitValue? a).isSome && (digitValue? b).isSome then '%' :: a :: b :: encode keeps s
    else (if keeps '%' then ['%'] else encodeOctet '%'.toNat) ++ encode keeps (a :: b :: s)
  | c :: s => (if keeps c then [c] else (Utf8.encodeChar c).flatMap encodeOctet) ++ encode keeps s

/-- The octets of a text in which `%` and two digits stand for an octet. -/
def octets : List Char → List Nat
  | [] => []
  | '%' :: a :: b :: s =>
    match digitValue? a, digitValue? b with
    | some x, some y => (16 * x + y) :: octets s
    | _, _ => '%'.toNat :: octets (a :: b :: s)
  | c :: s => Utf8.encodeChar c ++ octets s

/-- The text for people to read. -/
def decode (s : List Char) : List Char :=
  Utf8.decodeLossy (octets s)

end RanConsole.Text.Percent

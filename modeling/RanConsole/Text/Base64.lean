/-!
# Base64

Octets in groups of six bits, each written as one of 64 characters, in lines of 76 characters when they are written. When they are
read, other characters are passed over, and the padding that completes a group of four ends the text.
-/

namespace RanConsole.Text.Base64

/-- The 64 characters in the order of their values. -/
def alphabet : List Char :=
  "ABCDEFGHIJKLMNOPQRSTUVWXYZabcdefghijklmnopqrstuvwxyz0123456789+/".toList

/-- The value of one of the 64 characters. -/
def value? (c : Char) : Option Nat := alphabet.findIdx? (· == c)

/-- The character of a value below 64. -/
def character (n : Nat) : Char := alphabet.getD n 'A'

/-- A group that has begun: how many of its four characters are read, what is left of their bits, and the padding after them. -/
structure Group where
  count : Nat := 0
  left : Nat := 0
  padding : Nat := 0
  deriving Repr

/-- The octets of the characters that follow a group which has begun. -/
def decodeFrom (g : Group) : List Char → Option (List Nat)
  | [] => if g.count = 0 then some [] else none
  | c :: s =>
    if c = '=' then
      if g.count < 2 then decodeFrom g s
      else if 4 ≤ g.count + g.padding + 1 then some []
      else decodeFrom { g with padding := g.padding + 1 } s
    else
      match value? c with
      | none => decodeFrom g s
      | some v =>
        match g.count with
        | 0 => decodeFrom { count := 1, left := v } s
        | 1 => (decodeFrom { count := 2, left := v % 16 } s).map ((g.left * 4 + v / 16) :: ·)
        | 2 => (decodeFrom { count := 3, left := v % 4 } s).map ((g.left * 16 + v / 4) :: ·)
        | _ => (decodeFrom {} s).map ((g.left * 64 + v) :: ·)

/-- The octets of a text, which holds ASCII characters only and ends with a whole group. -/
def decode? (s : List Char) : Option (List Nat) :=
  if s.all (·.toNat < 0x80) then decodeFrom {} s else none

/-- The characters of octets. -/
def encode : List Nat → List Char
  | [] => []
  | [a] => [character (a / 4), character (a % 4 * 16), '=', '=']
  | [a, b] => [character (a / 4), character (a % 4 * 16 + b / 16), character (b % 16 * 4), '=']
  | a :: b :: c :: rest =>
    character (a / 4) :: character (a % 4 * 16 + b / 16) :: character (b % 16 * 4 + c / 64) :: character (c % 64) ::
      encode rest

/-- The number of octets on a line. -/
def lineOctets : Nat := 57

/-- The lines of octets, of which the first line has room for `room` more. -/
def linesFrom (room : Nat) (line : List Nat) : List Nat → List (List Char)
  | [] => if line.isEmpty then [] else [encode line.reverse]
  | b :: rest =>
    match room with
    | 0 => encode line.reverse :: linesFrom (lineOctets - 1) [b] rest
    | room + 1 => linesFrom room (b :: line) rest

/-- The lines of octets. -/
def lines (octets : List Nat) : List (List Char) := linesFrom lineOctets [] octets

end RanConsole.Text.Base64

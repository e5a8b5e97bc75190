/-!
# UTF-8

Encoding of a text into octets, and decoding by a machine that looks at one octet at a time. Where the octets stop being UTF-8 the
decoding marks one place for the longest beginning of a character that is there, and goes on.
-/

namespace RanConsole.Text.Utf8

/-- The octets of a character. -/
def encodeChar (c : Char) : List Nat :=
  let n := c.toNat
  if n < 0x80 then [n]
  else if n < 0x800 then [0xC0 + n / 0x40, 0x80 + n % 0x40]
  else if n < 0x10000 then [0xE0 + n / 0x1000, 0x80 + n / 0x40 % 0x40, 0x80 + n % 0x40]
  else [0xF0 + n / 0x40000, 0x80 + n / 0x1000 % 0x40, 0x80 + n / 0x40 % 0x40, 0x80 + n % 0x40]

/-- The octets of a text. -/
def encode (s : List Char) : List Nat :=
  s.flatMap encodeChar

/-- A character that has begun: the octets still owed, the value so far, and the bounds of the next octet. -/
structure Begun where
  owed : Nat
  value : Nat
  low : Nat := 0x80
  high : Nat := 0xBF
  deriving DecidableEq, Repr

/-- What the first octet of a character says. -/
inductive First where
  | single
  | begins (b : Begun)
  | never
  deriving DecidableEq, Repr

/-- What an octet between characters says. -/
def first (b : Nat) : First :=
  if b ≤ 0x7F then .single
  else if 0xC2 ≤ b ∧ b ≤ 0xDF then .begins { owed := 1, value := b - 0xC0 }
  else if b = 0xE0 then .begins { owed := 2, value := 0, low := 0xA0 }
  else if b = 0xED then .begins { owed := 2, value := 0xD, high := 0x9F }
  else if 0xE1 ≤ b ∧ b ≤ 0xEF then .begins { owed := 2, value := b - 0xE0 }
  else if b = 0xF0 then .begins { owed := 3, value := 0, low := 0x90 }
  else if 0xF1 ≤ b ∧ b ≤ 0xF3 then .begins { owed := 3, value := b - 0xF0 }
  else if b = 0xF4 then .begins { owed := 3, value := 4, high := 0x8F }
  else .never

/-- The characters of octets that follow the given beginning, none where the octets are not UTF-8. -/
def decodeFrom : Option Begun → List Nat → List (Option Char)
  | none, [] => []
  | some _, [] => [none]
  | begun, b :: s =>
    let afresh :=
      match first b with
      | .single => some (Char.ofNat b) :: decodeFrom none s
      | .begins next => decodeFrom (some next) s
      | .never => none :: decodeFrom none s
    match begun with
    | none => afresh
    | some c =>
      if c.low ≤ b ∧ b ≤ c.high then
        let value := c.value * 0x40 + (b - 0x80)
        if c.owed ≤ 1 then some (Char.ofNat value) :: decodeFrom none s
        else decodeFrom (some { owed := c.owed - 1, value := value }) s
      else none :: afresh

/-- The text of octets, with the replacement character where they are not UTF-8. -/
def decodeLossy (octets : List Nat) : List Char :=
  (decodeFrom none octets).map (·.getD '\uFFFD')

/-- The text of octets that are UTF-8. -/
def decode? (octets : List Nat) : Option (List Char) :=
  (decodeFrom none octets).mapM id

end RanConsole.Text.Utf8

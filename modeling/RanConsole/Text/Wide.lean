/-!
# UTF-16 and UTF-32

Texts in units of two or four octets. The octets of a unit come with the highest or with the lowest first; a mark at the start of a
text, U+FEFF, tells which. In UTF-16 a character from U+10000 on is a high unit and a low unit.
-/

namespace RanConsole.Text.Wide

/-- Which octet of a unit comes first. -/
inductive Order where
  | highest
  | lowest
  deriving DecidableEq, Repr

/-- The number that octets make. -/
def Order.join (o : Order) (octets : List Nat) : Nat :=
  let inOrder := if o = .highest then octets else octets.reverse
  inOrder.foldl (fun n b => 0x100 * n + b) 0

/-- The units of two octets, and none for an octet that is left. -/
def pairs (o : Order) : List Nat → List (Option Nat)
  | [] => []
  | [_] => [none]
  | a :: b :: s => some (o.join [a, b]) :: pairs o s

/-- The units of four octets, and none for octets that are left. -/
def quads (o : Order) : List Nat → List (Option Nat)
  | [] => []
  | a :: b :: c :: d :: s => some (o.join [a, b, c, d]) :: quads o s
  | _ => [none]

/-- The first of two units of a character. -/
def isHigh (unit : Nat) : Bool := 0xD800 ≤ unit && unit ≤ 0xDBFF

/-- The second of two units of a character. -/
def isLow (unit : Nat) : Bool := 0xDC00 ≤ unit && unit ≤ 0xDFFF

/-- The characters of units that follow the given high unit, none where they make no character. -/
def decode16From : Option Nat → List (Option Nat) → List (Option Char)
  | none, [] => []
  | some _, [] => [none]
  | _, none :: s => none :: decode16From none s
  | high, some unit :: s =>
    let afresh :=
      if isHigh unit then decode16From (some unit) s
      else if isLow unit then none :: decode16From none s
      else some (Char.ofNat unit) :: decode16From none s
    match high with
    | none => afresh
    | some h =>
      if isLow unit then some (Char.ofNat (0x10000 + 0x400 * (h - 0xD800) + (unit - 0xDC00))) :: decode16From none s
      else none :: afresh

/-- The characters of UTF-16, none where the octets make no character. -/
def decode16 (o : Order) (octets : List Nat) : List (Option Char) :=
  decode16From none (pairs o octets)

/-- The characters of UTF-32, none where the octets make no character. -/
def decode32 (o : Order) (octets : List Nat) : List (Option Char) :=
  (quads o octets).map fun unit => unit.bind fun n => if n.isValidChar then some (Char.ofNat n) else none

/-- The order that a mark at the start of UTF-16 tells, and what follows the mark. -/
def marked16? : List Nat → Option (Order × List Nat)
  | 0xFE :: 0xFF :: s => some (.highest, s)
  | 0xFF :: 0xFE :: s => some (.lowest, s)
  | _ => none

/-- The order that a mark at the start of UTF-32 tells, and what follows the mark. -/
def marked32? : List Nat → Option (Order × List Nat)
  | 0x00 :: 0x00 :: 0xFE :: 0xFF :: s => some (.highest, s)
  | 0xFF :: 0xFE :: 0x00 :: 0x00 :: s => some (.lowest, s)
  | _ => none

end RanConsole.Text.Wide

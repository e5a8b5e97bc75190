import RanConsole.Number.Layout

/-!
# Fixed places

A magnitude with a given number of places after the point, or with a given number of digits and an exponent, correctly rounded
from the exact value with ties going to the even digit.
-/

namespace RanConsole

namespace Decimal

/-- The digits of a number with a point before the last `places` of them; a point that nothing follows is left out unless it is to be
kept. -/
def pointed (keepPoint : Bool) (places : Nat) (n : Nat) : List Char :=
  let digits := zeroPadded (places + 1) (digitsOf n)
  let whole := digits.take (digits.length - places)
  if places = 0 then if keepPoint then whole ++ ['.'] else whole
  else whole ++ '.' :: digits.drop (digits.length - places)

/-- A rational rounded to the given number of places. -/
def fixed (keepPoint : Bool) (places : Nat) (num den : Nat) : List Char :=
  pointed keepPoint places (roundedQuotient (num * Nat.pow 10 places) den)

/-- A rational rounded to `places + 1` digits: the digits as a number and the exponent of the first. -/
def rounded (places : Nat) (num den : Nat) : Nat × Int :=
  if num = 0 then (0, 0)
  else
    let exponent := order num den - 1
    let (n, d) := shifted num den (Int.ofNat places - exponent)
    let digits := roundedQuotient n d
    if digits = Nat.pow 10 (places + 1) then (Nat.pow 10 places, exponent + 1) else (digits, exponent)

/-- The exponent with its mark, a sign and at least two digits. -/
def exponentText (exponent : Int) : List Char :=
  'e' :: (if exponent < 0 then '-' else '+') :: zeroPadded 2 (digitsOf exponent.natAbs)

/-- A rational with one digit before the point, the given number after it, and an exponent. -/
def scientific (keepPoint : Bool) (places : Nat) (num den : Nat) : List Char :=
  let (digits, exponent) := rounded places num den
  pointed keepPoint places digits ++ exponentText exponent

/-- Without the zeros that end a fraction, and without a point that nothing follows. -/
def stripFraction (s : List Char) : List Char :=
  if s.contains '.' then
    match s.reverse.dropWhile (· = '0') with
    | '.' :: rest => rest.reverse
    | rest => rest.reverse
  else s

/-- The shorter of the two notations at a number of significant digits; `keepZeros` keeps the point and the zeros that
end a fraction. -/
def general (significant : Nat) (keepZeros : Bool) (num den : Nat) : List Char :=
  let precision := if significant = 0 then 1 else significant
  let (digits, exponent) := rounded (precision - 1) num den
  let tidy (s : List Char) := if keepZeros then s else stripFraction s
  if -4 ≤ exponent ∧ exponent < Int.ofNat precision then
    tidy (fixed keepZeros (Int.ofNat precision - 1 - exponent).toNat num den)
  else tidy (pointed keepZeros (precision - 1) digits) ++ exponentText exponent

end Decimal

namespace Binary64

/-- The magnitude of a number by a rule for finite ones. -/
def magnitudeText (rule : (num den : Nat) → List Char) : Binary64 → List Char
  | .nan => "nan".toList
  | .infinite _ => "inf".toList
  | .finite _ m e =>
    let (n, d) := magnitude m e
    rule n d

/-- The number with a given number of places after the point. -/
def fixedText (places : Nat) (x : Binary64) : String :=
  String.ofList ((if x.isNegative then ['-'] else []) ++ x.magnitudeText (Decimal.fixed false places))

end Binary64

end RanConsole

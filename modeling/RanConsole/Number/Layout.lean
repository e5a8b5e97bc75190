import RanConsole.Number.Numeral
import RanConsole.Number.Shortest

/-!
# The written form of floating point numbers

A format decides where positional notation ends, how an exponent is written, and what stands for the values that are no
numbers; the digits are the shortest that read back.
-/

namespace RanConsole

/-- The decisions of a number format. -/
structure NumberFormat where
  /-- The least exponent of the first digit that is written positionally. -/
  positionalFrom : Int
  /-- The least exponent of the first digit that is no longer written positionally. -/
  positionalBelow : Int
  /-- The least number of digits of an exponent. -/
  exponentPlaces : Nat
  /-- Whether a single digit before an exponent is followed by `.0`. -/
  pointBeforeExponent : Bool
  infinity : String
  negativeInfinity : String
  notANumber : String

/-- Numbers in tables, messages and structured output. -/
def NumberFormat.plain : NumberFormat :=
  { positionalFrom := -4, positionalBelow := 16, exponentPlaces := 2, pointBeforeExponent := false
    infinity := "inf", negativeInfinity := "-inf", notANumber := "nan" }

namespace Decimal

/-- Digits with zeros in front up to a least length. -/
def zeroPadded (width : Nat) (digits : List Char) : List Char :=
  List.replicate (width - digits.length) '0' ++ digits

/-- The digits of a decimal without the zeros at their end. -/
def significant (d : Decimal) : List Char :=
  match ((digitsOf d.digits).reverse.dropWhile (· = '0')).reverse with
  | [] => ['0']
  | digits => digits

/-- Positional notation: at least one digit on either side of the point. -/
def positional (digits : List Char) (point : Int) : List Char :=
  if point ≤ 0 then '0' :: '.' :: (List.replicate (-point).toNat '0' ++ digits)
  else
    let width := point.toNat
    let whole := digits.take width
    let fraction := digits.drop width
    whole ++ List.replicate (width - whole.length) '0' ++ '.' :: (if fraction.isEmpty then ['0'] else fraction)

/-- Notation with an exponent, which always has a sign. -/
def withExponent (format : NumberFormat) (digits : List Char) (exponent : Int) : List Char :=
  let mantissa :=
    match digits with
    | [] => ['0']
    | [d] => if format.pointBeforeExponent then [d, '.', '0'] else [d]
    | d :: rest => d :: '.' :: rest
  mantissa ++ 'e' :: (if exponent < 0 then '-' else '+') ::
    zeroPadded format.exponentPlaces (digitsOf exponent.natAbs)

/-- The written form of a decimal. -/
def written (format : NumberFormat) (d : Decimal) : List Char :=
  let digits := d.significant
  let exponent := d.point - 1
  if format.positionalFrom ≤ exponent ∧ exponent < format.positionalBelow then positional digits d.point
  else withExponent format digits exponent

end Decimal

/-- The written form of a floating point number. -/
def Binary64.written (format : NumberFormat) : Binary64 → String
  | .nan => format.notANumber
  | .infinite false => format.infinity
  | .infinite true => format.negativeInfinity
  | .finite negative 0 _ => if negative then "-0.0" else "0.0"
  | .finite negative m e =>
    String.ofList ((if negative then ['-'] else []) ++ (Decimal.shortest m e).written format)

/-- The written form of a floating point number in tables and messages. -/
def Binary64.text (x : Binary64) : String := x.written .plain

/-- The decimal digits of an integer, with a minus in front of a negative one. -/
def integerText (i : Int) : List Char :=
  if i < 0 then '-' :: Decimal.digitsOf i.natAbs else Decimal.digitsOf i.natAbs

/-- Whether an integer has no more digits than are read and written. -/
def isShort (i : Int) : Bool := (Decimal.digitsOf i.natAbs).length ≤ Numeral.maxDigits

end RanConsole

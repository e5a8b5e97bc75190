/-!
# Floating point numbers

A number with a binary fraction of 53 bits, as data: sign, mantissa and a power of two. Every operation is exact arithmetic on
natural numbers followed by one rounding to the nearest representable number, a tie going to the even mantissa. Two zeros
differ in their sign; there is one value that is not a number.
-/

namespace RanConsole

/-- A quotient rounded to the nearest natural number, a half to the even neighbour. -/
def roundedQuotient (num den : Nat) : Nat :=
  let q := num / den
  let twice := 2 * (num % den)
  if twice < den then q
  else if den < twice then q + 1
  else if q % 2 = 0 then q else q + 1

/-- A floating point number; the finite ones have the value `mantissa * 2 ^ exponent`. -/
inductive Binary64 where
  | finite (negative : Bool) (mantissa : Nat) (exponent : Int)
  | infinite (negative : Bool)
  | nan
  deriving DecidableEq, Repr, Inhabited

namespace Binary64

/-- The least exponent of a mantissa. -/
def minExponent : Int := -1074

/-- The greatest exponent of a mantissa. -/
def maxExponent : Int := 971

/-- The least mantissa of 53 bits, which is as long as a mantissa can be. -/
def leastFull : Nat := 0x10000000000000

/-- Zero of either sign. -/
def zero (negative : Bool) : Binary64 := .finite negative 0 minExponent

/-- A rational times a power of two, as numerator and denominator. -/
def scaledRatio (num den : Nat) (power : Int) : Nat × Nat :=
  if 0 ≤ power then (num * Nat.pow 2 power.toNat, den) else (num, den * Nat.pow 2 (-power).toNat)

/-- The greatest power of two that is at most a positive rational. -/
def binaryOrder (num den : Nat) : Int :=
  let k : Int := Int.ofNat num.log2 - Int.ofNat den.log2
  let (n, d) := scaledRatio num den (-k)
  if n < d then k - 1 else k

/-- The number of a mantissa of at most 54 bits, which overflows past the greatest exponent. -/
def packed (negative : Bool) (mantissa : Nat) (exponent : Int) : Binary64 :=
  let (m, e) := if mantissa = 2 * leastFull then (leastFull, exponent + 1) else (mantissa, exponent)
  if maxExponent < e then .infinite negative else .finite negative m e

/-- The number nearest to a rational with a positive denominator. -/
def ofRatio (negative : Bool) (num den : Nat) : Binary64 :=
  if num = 0 then zero negative
  else
    let e := max minExponent (binaryOrder num den - 52)
    let (n, d) := scaledRatio num den (-e)
    packed negative (roundedQuotient n d) e

/-- The number nearest to an integer. -/
def ofInt (i : Int) : Binary64 := ofRatio (i < 0) i.natAbs 1

/-- The magnitude past which every decimal overflows. -/
def decimalOverflow : Int := 310

/-- The magnitude below which every decimal rounds to zero. -/
def decimalUnderflow : Int := -330

/-- The number nearest to `digits * 10 ^ exponent`, where `digits` is below `10 ^ length`. -/
def ofDecimal (negative : Bool) (digits length : Nat) (exponent : Int) : Binary64 :=
  if digits = 0 then zero negative
  else if decimalOverflow < Int.ofNat length + exponent then .infinite negative
  else if Int.ofNat length + exponent < decimalUnderflow then zero negative
  else if 0 ≤ exponent then ofRatio negative (digits * Nat.pow 10 exponent.toNat) 1
  else ofRatio negative digits (Nat.pow 10 (-exponent).toNat)

/-- Numerator and denominator of the magnitude of a finite number. -/
def magnitude (mantissa : Nat) (exponent : Int) : Nat × Nat :=
  scaledRatio mantissa 1 exponent

/-- The integer left when the fraction is cut off; none for infinities and for what is not a number. -/
def truncated? : Binary64 → Option Int
  | .finite negative m e =>
    let (n, d) := magnitude m e
    let q : Int := Int.ofNat (n / d)
    some (if negative then -q else q)
  | _ => none

/-- Whether the number is an integer. -/
def isIntegral : Binary64 → Bool
  | .finite _ m e =>
    let (n, d) := magnitude m e
    n % d == 0
  | _ => false

/-- The number times a power of two. -/
def doubled (x : Binary64) (times : Nat) : Binary64 :=
  match x with
  | .finite negative m e =>
    let (n, d) := magnitude m (e + times)
    ofRatio negative n d
  | other => other

/-- The number nearest to the sum of two numbers. A sum that is zero is positive unless both parts are negative zeros. -/
def add : Binary64 → Binary64 → Binary64
  | .finite a m e, .finite b n f =>
    let (p, q) := magnitude m e
    let (r, s) := magnitude n f
    let sign (negative : Bool) (k : Nat) : Int := if negative then -Int.ofNat k else Int.ofNat k
    let sum := sign a (p * s) + sign b (r * q)
    if sum = 0 then zero (a && b) else ofRatio (sum < 0) sum.natAbs (q * s)
  | .infinite a, .infinite b => if a = b then .infinite a else .nan
  | .infinite a, .finite .. | .finite .., .infinite a => .infinite a
  | _, _ => .nan

/-- The number nearest to the product of two numbers. -/
def mul : Binary64 → Binary64 → Binary64
  | .finite a m e, .finite b n f =>
    let (p, q) := magnitude m e
    let (r, s) := magnitude n f
    ofRatio (a != b) (p * r) (q * s)
  | .infinite a, .infinite b => .infinite (a != b)
  | .infinite a, .finite b m _ | .finite b m _, .infinite a => if m = 0 then .nan else .infinite (a != b)
  | _, _ => .nan

/-- The number with the other sign. -/
def neg : Binary64 → Binary64
  | .finite negative m e => .finite (!negative) m e
  | .infinite negative => .infinite (!negative)
  | .nan => .nan

/-- The number equal to one, however it is written. -/
def isOne (x : Binary64) : Bool := x.isIntegral && x.truncated? == some 1

/-- A zero of either sign. -/
def isZero : Binary64 → Bool
  | .finite _ m _ => m == 0
  | _ => false

/-- Whether the sign is a minus. -/
def isNegative : Binary64 → Bool
  | .finite negative _ _ | .infinite negative => negative
  | .nan => false

end Binary64

end RanConsole

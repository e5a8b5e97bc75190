import RanConsole.Number.Binary64

/-!
# The fewest digits that read back

The shortest decimal of a floating point number is the one with the fewest digits among those that round to it, and the
nearest of these. For each number of digits the two neighbours of the value on the decimal grid are tested in exact
arithmetic; seventeen digits always suffice.
-/

namespace RanConsole

/-- A positive decimal `0.d₁d₂… * 10 ^ point`, as the number made of its digits and the place of the point. -/
structure Decimal where
  digits : Nat
  point : Int
  deriving DecidableEq, Repr

namespace Decimal

/-- The decimal digits of a number, most significant first. -/
def digitsOf (n : Nat) : List Char := Nat.toDigits 10 n

/-- The least `k` such that the positive rational is below `10 ^ k`. -/
def order (num den : Nat) : Int :=
  let k : Int := Int.ofNat (digitsOf num).length - Int.ofNat (digitsOf den).length
  if (if 0 ≤ k then den * Nat.pow 10 k.toNat ≤ num else den ≤ num * Nat.pow 10 (-k).toNat) then k + 1 else k

/-- A rational times a power of ten, as numerator and denominator. -/
def shifted (num den : Nat) (power : Int) : Nat × Nat :=
  if 0 ≤ power then (num * Nat.pow 10 power.toNat, den) else (num, den * Nat.pow 10 (-power).toNat)

/-- The numbers that round to a given one lie between two rationals over one denominator. -/
structure Interval where
  low : Nat
  value : Nat
  high : Nat
  den : Nat
  closed : Bool

/-- The interval of a positive finite number. The gap below a power of two is half as wide. -/
def Interval.of (mantissa : Nat) (exponent : Int) : Interval :=
  let narrow := mantissa = Binary64.leastFull ∧ Binary64.minExponent < exponent
  let (unit, den) := Binary64.scaledRatio 1 1 (exponent - 2)
  { low := (4 * mantissa - if narrow then 1 else 2) * unit
    value := 4 * mantissa * unit
    high := (4 * mantissa + 2) * unit
    den := den
    closed := mantissa % 2 = 0 }

/-- Whether the rational lies in the interval. -/
def Interval.holds (i : Interval) (num den : Nat) : Bool :=
  let n := num * i.den
  let l := i.low * den
  let h := i.high * den
  if i.closed then l ≤ n && n ≤ h else l < n && n < h

/-- The neighbour of the value on the grid of `10 ^ (point - places)` that reads back, the nearer one if both do. -/
def Interval.neighbour? (i : Interval) (point : Int) (places : Nat) : Option Nat :=
  let (n, d) := shifted i.value i.den (Int.ofNat places - point)
  let below := n / d
  let readsBack (c : Nat) : Bool :=
    let (num, den) := shifted c 1 (point - Int.ofNat places)
    i.holds num den
  match readsBack below, readsBack (below + 1) with
  | true, true => some (roundedQuotient n d)
  | true, false => some below
  | false, true => some (below + 1)
  | false, false => none

/-- The first hit on the grids of `places`, `places + 1`, … digits. -/
def Interval.search (i : Interval) (point : Int) : (places fuel : Nat) → Decimal
  | places, 0 => ⟨(i.neighbour? point places).getD 0, point⟩
  | places, fuel + 1 =>
    match i.neighbour? point places with
    | some digits =>
      -- A carry past the last place moves the point.
      if digits = Nat.pow 10 places then ⟨1, point + 1⟩ else ⟨digits, point⟩
    | none => i.search point (places + 1) fuel

/-- The shortest decimal of a positive finite number. -/
def shortest (mantissa : Nat) (exponent : Int) : Decimal :=
  let i := Interval.of mantissa exponent
  i.search (order i.value i.den) 1 16

end Decimal

end RanConsole

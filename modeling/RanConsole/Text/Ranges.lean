/-!
# Ranges of code points

Character properties are tables of closed ranges of code points, ascending and apart.
-/

namespace RanConsole.Text

/-- Membership of a character in a table of closed ranges. -/
def inRanges (ranges : List (Nat × Nat)) (c : Char) : Bool :=
  ranges.any fun r => r.1 ≤ c.toNat && c.toNat ≤ r.2

end RanConsole.Text

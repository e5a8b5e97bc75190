import Mathlib.Algebra.Order.Field.Power
import Mathlib.Data.Rat.Cast.Order
import Mathlib.Tactic.FieldSimp
import Mathlib.Tactic.Linarith
import Mathlib.Tactic.Positivity
import Mathlib.Tactic.Ring
import RanConsole.Number.Binary64

/-!
# Rationals that round to a number

A floating point number has one form in which its mantissa is full or its exponent the least (`Binary64.IsProper`). The rationals that
are nearest to it, ties at an even mantissa among them, lie between two bounds (`Binary64.IsNearest`), and each of them is rounded to it
(`Binary64.ofRatio_eq`).
-/

namespace RanConsole

/-! ## Scaled ratios -/

/-- A numerator and a denominator make a rational. -/
def IsRatio (p : Nat × Nat) (q : ℚ) : Prop := 0 < p.2 ∧ (p.1 : ℚ) / p.2 = q

theorem isRatio_scaled {base den : Nat} (hBase : 0 < base) (hDen : 0 < den) (num : Nat) (power : Int) :
    IsRatio (if 0 ≤ power then (num * Nat.pow base power.toNat, den) else (num, den * Nat.pow base (-power).toNat))
      (num / den * (base : ℚ) ^ power) := by
  have hBaseNe : (base : ℚ) ≠ 0 := by positivity
  have hDenNe : (den : ℚ) ≠ 0 := by positivity
  by_cases hPower : 0 ≤ power
  · rw [if_pos hPower]
    refine ⟨hDen, ?_⟩
    obtain ⟨n, rfl⟩ := Int.eq_ofNat_of_zero_le hPower
    rw [Int.toNat_natCast, zpow_natCast, Nat.pow_eq, Nat.cast_mul, Nat.cast_pow]
    ring
  · rw [if_neg hPower]
    refine ⟨Nat.mul_pos hDen (Nat.pow_pos hBase), ?_⟩
    obtain ⟨n, hn⟩ := Int.eq_ofNat_of_zero_le (show 0 ≤ -power by omega)
    obtain rfl : power = -(n : ℤ) := by omega
    rw [Int.neg_neg, Int.toNat_natCast, zpow_neg, zpow_natCast, Nat.pow_eq, Nat.cast_mul, Nat.cast_pow]
    field_simp

/-- What lies between powers of a base above and below a line has a quotient between powers. -/
theorem ratio_bounds {base a b num den : Nat} (hBase : 0 < base) (hNum : base ^ a ≤ num ∧ num < base ^ (a + 1))
    (hDen : base ^ b ≤ den ∧ den < base ^ (b + 1)) :
    (base : ℚ) ^ ((a : ℤ) - b - 1) < num / den ∧ (num : ℚ) / den < (base : ℚ) ^ ((a : ℤ) - b + 1) := by
  have hBaseNe : (base : ℚ) ≠ 0 := by positivity
  have hBasePos : (0 : ℚ) < base := by positivity
  have hDenPos : (0 : ℚ) < den := by exact_mod_cast Nat.lt_of_lt_of_le (Nat.pow_pos hBase) hDen.1
  have hNumLow : (base : ℚ) ^ a ≤ num := by exact_mod_cast hNum.1
  have hNumHigh : (num : ℚ) < base ^ (a + 1) := by exact_mod_cast hNum.2
  have hDenLow : (base : ℚ) ^ b ≤ den := by exact_mod_cast hDen.1
  have hDenHigh : (den : ℚ) < base ^ (b + 1) := by exact_mod_cast hDen.2
  constructor
  · rw [lt_div_iff₀ hDenPos]
    calc (base : ℚ) ^ ((a : ℤ) - b - 1) * den
        < (base : ℚ) ^ ((a : ℤ) - b - 1) * (base : ℚ) ^ (b + 1) := by gcongr
      _ = (base : ℚ) ^ a := by
          rw [← zpow_natCast, ← zpow_add₀ hBaseNe, ← zpow_natCast]
          congr 1
          push_cast
          ring
      _ ≤ num := hNumLow
  · rw [div_lt_iff₀ hDenPos]
    calc (num : ℚ) < (base : ℚ) ^ (a + 1) := hNumHigh
      _ = (base : ℚ) ^ ((a : ℤ) - b + 1) * (base : ℚ) ^ b := by
          rw [← zpow_natCast, ← zpow_natCast, ← zpow_add₀ hBaseNe]
          congr 1
          push_cast
          ring
      _ ≤ (base : ℚ) ^ ((a : ℤ) - b + 1) * den := by gcongr

/-! ## Rounded quotients -/

/-- The natural number that is nearest to a quotient is the rounded quotient, and of two that are as near the even one. -/
theorem roundedQuotient_eq {num den m : Nat} (hDen : 0 < den) (hLow : (m : ℚ) - 1 / 2 ≤ num / den) (hHigh : (num : ℚ) / den ≤ m + 1 / 2)
    (hOdd : m % 2 = 1 → (m : ℚ) - 1 / 2 < num / den ∧ (num : ℚ) / den < m + 1 / 2) : roundedQuotient num den = m := by
  have hDenPos : (0 : ℚ) < den := by exact_mod_cast hDen
  have hBelow : 2 * m * den ≤ 2 * num + den := by
    rw [le_div_iff₀ hDenPos] at hLow
    have hCleared : (2 * m * den : ℚ) ≤ 2 * num + den := by linarith
    exact_mod_cast hCleared
  have hAbove : 2 * num ≤ (2 * m + 1) * den := by
    rw [div_le_iff₀ hDenPos] at hHigh
    have hCleared : (2 * num : ℚ) ≤ (2 * m + 1) * den := by linarith
    exact_mod_cast hCleared
  have hStrict : m % 2 = 1 → 2 * m * den < 2 * num + den ∧ 2 * num < (2 * m + 1) * den := by
    intro h
    obtain ⟨hBelow, hAbove⟩ := hOdd h
    rw [lt_div_iff₀ hDenPos] at hBelow
    rw [div_lt_iff₀ hDenPos] at hAbove
    have hBelow : (2 * m * den : ℚ) < 2 * num + den := by linarith
    have hAbove : (2 * num : ℚ) < (2 * m + 1) * den := by linarith
    exact ⟨by exact_mod_cast hBelow, by exact_mod_cast hAbove⟩
  have hSplit := Nat.div_add_mod num den
  have hRest := Nat.mod_lt num hDen
  rw [roundedQuotient]
  generalize num / den = quotient at *
  generalize num % den = rest at *
  subst hSplit
  -- the quotient is the nearest number or the one below it
  have hAtMost : m ≤ quotient + 1 := by
    by_contra hMore
    have hProduct : (quotient + 2) * den ≤ m * den := Nat.mul_le_mul_right den (by omega)
    nlinarith
  have hAtLeast : quotient ≤ m := by
    by_contra hLess
    have hProduct : (m + 1) * den ≤ quotient * den := Nat.mul_le_mul_right den (by omega)
    nlinarith
  have hCases : m = quotient ∨ m = quotient + 1 := by omega
  rcases hCases with rfl | rfl
  · have hNotMore : 2 * rest ≤ den := by nlinarith
    have hTie : m % 2 = 1 → 2 * rest < den := fun h => by nlinarith [(hStrict h).2]
    split
    · rfl
    · split
      · omega
      · split
        · rfl
        · omega
  · have hNotLess : den ≤ 2 * rest := by nlinarith
    have hTie : (quotient + 1) % 2 = 1 → den < 2 * rest := fun h => by nlinarith [(hStrict h).1]
    split
    · omega
    · split
      · rfl
      · split
        · omega
        · rfl

namespace Binary64

theorem isRatio_scaledRatio {den : Nat} (hDen : 0 < den) (num : Nat) (power : Int) :
    IsRatio (scaledRatio num den power) (num / den * 2 ^ power) := isRatio_scaled (by decide) hDen num power

/-- The order of a positive rational is where it lies among the powers of two. -/
theorem binaryOrder_bounds {num den : Nat} (hNum : num ≠ 0) (hDen : 0 < den) :
    (2 : ℚ) ^ binaryOrder num den ≤ num / den ∧ (num : ℚ) / den < 2 ^ (binaryOrder num den + 1) := by
  have hBounds := ratio_bounds (by decide) ⟨Nat.log2_self_le hNum, Nat.lt_log2_self⟩
    ⟨Nat.log2_self_le (Nat.pos_iff_ne_zero.mp hDen), Nat.lt_log2_self⟩
  rw [binaryOrder]
  simp only [Int.ofNat_eq_natCast]
  generalize (num.log2 : ℤ) - den.log2 = k at *
  obtain ⟨hPos, hRatio⟩ := isRatio_scaledRatio hDen num (-k)
  have hPower : (0 : ℚ) < 2 ^ k := by positivity
  have hPosQ : (0 : ℚ) < ((scaledRatio num den (-k)).2 : ℚ) := by exact_mod_cast hPos
  have hLess : (scaledRatio num den (-k)).1 < (scaledRatio num den (-k)).2 ↔ (num : ℚ) / den < 2 ^ k := by
    rw [← Nat.cast_lt (α := ℚ), ← div_lt_one hPosQ, hRatio, zpow_neg, mul_inv_lt_iff₀ hPower, one_mul]
  split
  · rename_i hBelow
    rw [sub_add_cancel]
    exact ⟨hBounds.1.le, hLess.mp hBelow⟩
  · rename_i hBelow
    exact ⟨not_lt.mp (mt hLess.mpr hBelow), hBounds.2⟩

/-! ## Numbers in their one form -/

/-- A number in its one form: the mantissa is full, or the exponent is the least. -/
def IsProper : Binary64 → Prop
  | .finite _ m e => m < 2 * leastFull ∧ minExponent ≤ e ∧ e ≤ maxExponent ∧ (leastFull ≤ m ∨ e = minExponent)
  | .infinite _ | .nan => True

instance : DecidablePred IsProper
  | .finite _ m e => inferInstanceAs (Decidable (m < 2 * leastFull ∧ minExponent ≤ e ∧ e ≤ maxExponent ∧ (leastFull ≤ m ∨ e = minExponent)))
  | .infinite _ | .nan => .isTrue trivial

/-- The distance from a mantissa down to where numbers round to the one below. The numbers below a power of two lie twice as close. -/
def gapBelow (m : Nat) (e : Int) : ℚ := if m = leastFull ∧ minExponent < e then 1 / 4 else 1 / 2

/-- A rational is nearest to the number with a mantissa and an exponent. -/
structure IsNearest (m : Nat) (e : Int) (q : ℚ) : Prop where
  low : (m - gapBelow m e) * 2 ^ e ≤ q
  high : q ≤ (m + 1 / 2) * 2 ^ e
  odd : m % 2 = 1 → (m - gapBelow m e) * 2 ^ e < q ∧ q < (m + 1 / 2) * 2 ^ e

theorem gapBelow_le (m : Nat) (e : Int) : gapBelow m e ≤ 1 / 2 := by
  rw [gapBelow]
  split <;> norm_num

theorem gapBelow_pos (m : Nat) (e : Int) : 0 < gapBelow m e := by
  rw [gapBelow]
  split <;> norm_num

theorem IsNearest.pos {m : Nat} {e : Int} {q : ℚ} (h : IsNearest m e q) (hm : 0 < m) : 0 < q := by
  have hMantissa : (1 : ℚ) ≤ m := by exact_mod_cast hm
  have hGap := gapBelow_le m e
  have hLow : 0 < (m - gapBelow m e) * (2 : ℚ) ^ e := mul_pos (by linarith) (by positivity)
  exact hLow.trans_le h.low

theorem packed_eq {m : Nat} {e : Int} (negative : Bool) (hm : m < 2 * leastFull) (he : e ≤ maxExponent) :
    packed negative m e = .finite negative m e := by
  rw [packed, if_neg (Nat.ne_of_lt hm)]
  exact if_neg (Int.not_lt.mpr he)

theorem packed_full {e : Int} (negative : Bool) (he : e + 1 ≤ maxExponent) :
    packed negative (2 * leastFull) e = .finite negative leastFull (e + 1) := by
  rw [packed, if_pos rfl]
  exact if_neg (Int.not_lt.mpr he)

theorem IsNearest.roundedQuotient_eq {m : Nat} {e : Int} {num den : Nat} (hDen : 0 < den) (h : IsNearest m e (num / den)) :
    roundedQuotient (scaledRatio num den (-e)).1 (scaledRatio num den (-e)).2 = m := by
  obtain ⟨hPos, hRatio⟩ := isRatio_scaledRatio hDen num (-e)
  have hUnit : (0 : ℚ) < 2 ^ e := by positivity
  have hGap := gapBelow_le m e
  refine RanConsole.roundedQuotient_eq hPos ?_ ?_ fun hOdd => ⟨?_, ?_⟩
  all_goals rw [hRatio, zpow_neg, ← div_eq_mul_inv]
  · exact (by linarith : (m : ℚ) - 1 / 2 ≤ m - gapBelow m e).trans ((le_div_iff₀ hUnit).mpr h.low)
  · exact (div_le_iff₀ hUnit).mpr h.high
  · exact (by linarith : (m : ℚ) - 1 / 2 ≤ m - gapBelow m e).trans_lt ((lt_div_iff₀ hUnit).mpr (h.odd hOdd).1)
  · exact (div_lt_iff₀ hUnit).mpr (h.odd hOdd).2

/-- A rational that is nearest to a number with a full mantissa and lies below all full mantissas is close to the least one. -/
theorem IsNearest.of_below {m : Nat} {e : Int} {q : ℚ} (h : IsNearest m e q) (hFull : leastFull ≤ m) (hMin : minExponent < e)
    (hHigh : q < 2 ^ (52 : ℤ) * 2 ^ e) : m = leastFull ∧ ((2 : ℚ) ^ (52 : ℤ) - 1 / 4) * 2 ^ e ≤ q := by
  have hValue : leastFull = 2 ^ 52 := by decide
  have hUnit : (0 : ℚ) < 2 ^ e := by positivity
  have hLeast : m = leastFull := by
    have hGap := gapBelow_le m e
    have hLess : (m : ℚ) - gapBelow m e < 2 ^ (52 : ℤ) := lt_of_mul_lt_mul_right (h.low.trans_lt hHigh) hUnit.le
    have hCast : (m : ℚ) < 2 ^ (52 : ℤ) + 1 := by linarith
    have hNat : m < 2 ^ 52 + 1 := by exact_mod_cast hCast
    omega
  subst hLeast
  have hGap : gapBelow leastFull e = 1 / 4 := if_pos ⟨rfl, hMin⟩
  have hLow := h.low
  rw [hGap, hValue] at hLow
  exact ⟨rfl, by exact_mod_cast hLow⟩

/-- Just below a power of two the mantissa is rounded up to the next one, at an exponent that is one less. -/
theorem roundedQuotient_below {e : Int} {num den : Nat} (hDen : 0 < den) (hLow : ((2 : ℚ) ^ (52 : ℤ) - 1 / 4) * 2 ^ e ≤ num / den)
    (hHigh : (num : ℚ) / den < 2 ^ (52 : ℤ) * 2 ^ e) :
    roundedQuotient (scaledRatio num den (-(e - 1))).1 (scaledRatio num den (-(e - 1))).2 = 2 * leastFull := by
  obtain ⟨hPos, hRatio⟩ := isRatio_scaledRatio hDen num (-(e - 1))
  have hUnit : (0 : ℚ) < 2 ^ e := by positivity
  have hScaled : (num : ℚ) / den * 2 ^ (-(e - 1)) = 2 * (num / den / 2 ^ e) := by
    have hPower : (2 : ℚ) ^ (-(e - 1)) = 2 * (2 ^ e)⁻¹ := by
      rw [neg_sub, sub_eq_add_neg, zpow_add₀ (by norm_num), zpow_one, zpow_neg]
    rw [hPower]
    ring
  have hValue : ((2 * leastFull : ℕ) : ℚ) = 2 * 2 ^ (52 : ℤ) := by norm_num [leastFull]
  have hQuotientLow : (2 : ℚ) ^ (52 : ℤ) - 1 / 4 ≤ num / den / 2 ^ e := (le_div_iff₀ hUnit).mpr hLow
  have hQuotientHigh : (num : ℚ) / den / 2 ^ e < 2 ^ (52 : ℤ) := (div_lt_iff₀ hUnit).mpr hHigh
  refine RanConsole.roundedQuotient_eq hPos ?_ ?_ fun hOdd => absurd hOdd (by decide)
  all_goals
    rw [hRatio, hScaled, hValue]
    linarith

/-- A rational that is nearest to a number is rounded to it. -/
theorem ofRatio_eq {m : Nat} {e : Int} (negative : Bool) (hProper : (finite negative m e).IsProper) (hm : 0 < m) {num den : Nat}
    (hDen : 0 < den) (h : IsNearest m e (num / den)) : ofRatio negative num den = .finite negative m e := by
  obtain ⟨hMantissa, hMin, hMax, hFull⟩ := hProper
  have hNum : num ≠ 0 := by
    rintro rfl
    exact absurd (h.pos hm) (by simp)
  obtain ⟨hOrderLow, hOrderHigh⟩ := binaryOrder_bounds hNum hDen
  have hUnit : (0 : ℚ) < 2 ^ e := by positivity
  have hTwo : (1 : ℚ) < 2 := by norm_num
  have hOrder : binaryOrder num den < 53 + e := by
    have hTop : (m : ℚ) + 1 ≤ 2 ^ (53 : ℤ) := by
      have hNat : m + 1 ≤ 2 ^ 53 := hMantissa
      exact_mod_cast hNat
    have hBelowTop : (num : ℚ) / den < 2 ^ (53 + e) := by
      rw [zpow_add₀ (by norm_num)]
      exact h.high.trans_lt (mul_lt_mul_of_pos_right (by linarith) hUnit)
    exact (zpow_lt_zpow_iff_right₀ hTwo).mp (hOrderLow.trans_lt hBelowTop)
  rw [ofRatio, if_neg hNum]
  by_cases hSame : 2 ^ (52 + e) ≤ (num : ℚ) / den ∨ e = minExponent
  · -- the rational has the exponent of the number
    have hExponent : max minExponent (binaryOrder num den - 52) = e := by
      rcases hSame with hSame | rfl
      · have hMore : 52 + e < binaryOrder num den + 1 := (zpow_lt_zpow_iff_right₀ hTwo).mp (hSame.trans_lt hOrderHigh)
        omega
      · omega
    simp only [hExponent, h.roundedQuotient_eq hDen]
    exact packed_eq negative hMantissa hMax
  · -- the number is a power of two, and the rational lies below it, where the exponent is smaller
    obtain ⟨hBelow, hNotMin⟩ := not_or.mp hSame
    have hHigh : (num : ℚ) / den < 2 ^ (52 : ℤ) * 2 ^ e := by
      rw [← zpow_add₀ (by norm_num)]
      exact not_le.mp hBelow
    obtain ⟨rfl, hLow⟩ := h.of_below (hFull.resolve_right hNotMin) (by omega) hHigh
    have hExponent : max minExponent (binaryOrder num den - 52) = e - 1 := by
      have hHalf : (2 : ℚ) ^ (51 + e) ≤ num / den := by
        rw [zpow_add₀ (by norm_num)]
        exact (mul_le_mul_of_nonneg_right (by norm_num) hUnit.le).trans hLow
      have hMore : 51 + e < binaryOrder num den + 1 := (zpow_lt_zpow_iff_right₀ hTwo).mp (hHalf.trans_lt hOrderHigh)
      have hLess : binaryOrder num den < 52 + e := (zpow_lt_zpow_iff_right₀ hTwo).mp (hOrderLow.trans_lt (not_le.mp hBelow))
      omega
    simp only [hExponent, roundedQuotient_below hDen hLow hHigh]
    rw [packed_full negative (by omega), sub_add_cancel]

end Binary64

end RanConsole

import Mathlib.Data.Nat.Cast.Order.Field
import RanConsole.Number.Shortest
import RanConsole.Proofs.Number.Rounding

/-!
# Decimals that are nearest to their number

The shortest decimal of a number is nearest to that number (`Decimal.isNearest_shortest`). The search finds one because the grid of
seventeen digits has a point on one side of every number that is closer to it than any bound of what rounds to it
(`Decimal.isNearest_of_seventeen`), and a carry past the last digit can come with the first digit only.
-/

namespace RanConsole

open Binary64

namespace Decimal

theorem isRatio_shifted {den : Nat} (hDen : 0 < den) (num : Nat) (power : Int) :
    IsRatio (shifted num den power) (num / den * 10 ^ power) := isRatio_scaled (by decide) hDen num power

/-! ## Digits of a number -/

theorem lt_length_digitsOf_iff {n : Nat} (hn : 0 < n) (k : Nat) : k < (digitsOf n).length ↔ 10 ^ k ≤ n := by
  cases k with
  | zero => exact iff_of_true Nat.length_toDigits_pos (by rw [Nat.pow_zero]; exact hn)
  | succ k => rw [← Nat.not_le, digitsOf, Nat.length_toDigits_le_iff (by decide) (Nat.succ_pos k), Nat.not_lt]

theorem length_digitsOf {n k : Nat} (hLow : 10 ^ k ≤ n) (hHigh : n < 10 ^ (k + 1)) : (digitsOf n).length = k + 1 := by
  have hn : 0 < n := (Nat.pow_pos (by decide)).trans_le hLow
  have hMore := (lt_length_digitsOf_iff hn k).mpr hLow
  have hLess := mt (lt_length_digitsOf_iff hn (k + 1)).mp (Nat.not_le.mpr hHigh)
  omega

theorem bounds_digitsOf {n : Nat} (hn : 0 < n) :
    10 ^ ((digitsOf n).length - 1) ≤ n ∧ n < 10 ^ ((digitsOf n).length - 1 + 1) := by
  have hPos : 0 < (digitsOf n).length := Nat.length_toDigits_pos
  exact ⟨(lt_length_digitsOf_iff hn _).mp (by omega), Nat.not_le.mp (mt (lt_length_digitsOf_iff hn _).mpr (by omega))⟩

/-- A rational is compared with a power of ten without a fraction. -/
theorem pow_le_iff (num : Nat) {den : Nat} (hDen : 0 < den) (k : Int) :
    (if 0 ≤ k then den * Nat.pow 10 k.toNat ≤ num else den ≤ num * Nat.pow 10 (-k).toNat) ↔ (10 : ℚ) ^ k ≤ num / den := by
  have hDenPos : (0 : ℚ) < den := by exact_mod_cast hDen
  rw [le_div_iff₀ hDenPos]
  split
  · rename_i hk
    obtain ⟨n, rfl⟩ := Int.eq_ofNat_of_zero_le hk
    rw [Int.toNat_natCast, zpow_natCast, Nat.pow_eq, Nat.mul_comm, ← Nat.cast_le (α := ℚ)]
    push_cast
    rfl
  · obtain ⟨n, hn⟩ := Int.eq_ofNat_of_zero_le (show 0 ≤ -k by omega)
    obtain rfl : k = -(n : ℤ) := by omega
    rw [Int.neg_neg, Int.toNat_natCast, zpow_neg, zpow_natCast, Nat.pow_eq, inv_mul_le_iff₀ (by positivity), mul_comm,
      ← Nat.cast_le (α := ℚ)]
    push_cast
    rfl

/-- The order of a positive rational is where it lies among the powers of ten. -/
theorem order_bounds {num den : Nat} (hNum : 0 < num) (hDen : 0 < den) :
    (10 : ℚ) ^ (order num den - 1) ≤ num / den ∧ (num : ℚ) / den < 10 ^ order num den := by
  have hBounds := ratio_bounds (by decide) (bounds_digitsOf hNum) (bounds_digitsOf hDen)
  have hNumLength : 0 < (digitsOf num).length := Nat.length_toDigits_pos
  have hDenLength : 0 < (digitsOf den).length := Nat.length_toDigits_pos
  have hLengths : (((digitsOf num).length - 1 : ℕ) : ℤ) - ((digitsOf den).length - 1 : ℕ) =
      (digitsOf num).length - (digitsOf den).length := by omega
  rw [hLengths, Nat.cast_ofNat] at hBounds
  rw [order]
  simp only [Int.ofNat_eq_natCast]
  generalize ((digitsOf num).length : ℤ) - (digitsOf den).length = k at *
  have hReaches := pow_le_iff num hDen k
  by_cases hk : (10 : ℚ) ^ k ≤ num / den
  · rw [if_pos (hReaches.mpr hk), add_sub_cancel_right]
    exact ⟨hk, hBounds.2⟩
  · rw [if_neg (mt hReaches.mp hk)]
    exact ⟨hBounds.1.le, not_le.mp hk⟩

/-! ## The interval of a number -/

/-- The interval of a number, over the rationals. -/
theorem interval_eq {m : Nat} (hm : 0 < m) (e : Int) :
    0 < (Interval.of m e).den ∧ 0 < (Interval.of m e).value ∧
      ((Interval.of m e).low : ℚ) / (Interval.of m e).den = (m - gapBelow m e) * 2 ^ e ∧
      ((Interval.of m e).value : ℚ) / (Interval.of m e).den = m * 2 ^ e ∧
      ((Interval.of m e).high : ℚ) / (Interval.of m e).den = (m + 1 / 2) * 2 ^ e := by
  obtain ⟨hDen, hUnit⟩ := isRatio_scaledRatio Nat.one_pos 1 (e - 2)
  have hPower : (2 : ℚ) ^ e = 4 * ((scaledRatio 1 1 (e - 2)).1 / (scaledRatio 1 1 (e - 2)).2) := by
    rw [hUnit, zpow_sub₀ (by norm_num)]
    ring
  have hUnitPos : 0 < (scaledRatio 1 1 (e - 2)).1 := by
    by_contra hZero
    obtain hZero : (scaledRatio 1 1 (e - 2)).1 = 0 := by omega
    rw [hZero, Nat.cast_zero, zero_div, mul_zero] at hPower
    exact absurd hPower (by positivity)
  simp only [Interval.of, gapBelow]
  rw [hPower]
  refine ⟨hDen, Nat.mul_pos (by omega) hUnitPos, ?_, ?_, ?_⟩
  · split
    · rw [Nat.cast_mul, Nat.cast_sub (by omega)]
      push_cast
      ring
    · rw [Nat.cast_mul, Nat.cast_sub (by omega)]
      push_cast
      ring
  · push_cast
    ring
  · push_cast
    ring

/-- The interval of a number holds what is nearest to it. -/
theorem holds_iff {m : Nat} (hm : 0 < m) (e : Int) {num den : Nat} (hDen : 0 < den) :
    (Interval.of m e).holds num den = true ↔ IsNearest m e (num / den) := by
  obtain ⟨hPos, -, hLow, -, hHigh⟩ := interval_eq hm e
  have hPosQ : (0 : ℚ) < (Interval.of m e).den := by exact_mod_cast hPos
  have hDenQ : (0 : ℚ) < den := by exact_mod_cast hDen
  have hClosed : (Interval.of m e).closed = decide (m % 2 = 0) := rfl
  rw [Interval.holds, hClosed]
  generalize Interval.of m e = i at *
  have hLowIff : i.low * den ≤ num * i.den ↔ (m - gapBelow m e) * 2 ^ e ≤ (num : ℚ) / den := by
    rw [← hLow, div_le_div_iff₀ hPosQ hDenQ]
    exact_mod_cast Iff.rfl
  have hHighIff : num * i.den ≤ i.high * den ↔ (num : ℚ) / den ≤ (m + 1 / 2) * 2 ^ e := by
    rw [← hHigh, div_le_div_iff₀ hDenQ hPosQ]
    exact_mod_cast Iff.rfl
  have hLowStrict : i.low * den < num * i.den ↔ (m - gapBelow m e) * 2 ^ e < (num : ℚ) / den := by
    rw [← hLow, div_lt_div_iff₀ hPosQ hDenQ]
    exact_mod_cast Iff.rfl
  have hHighStrict : num * i.den < i.high * den ↔ (num : ℚ) / den < (m + 1 / 2) * 2 ^ e := by
    rw [← hHigh, div_lt_div_iff₀ hDenQ hPosQ]
    exact_mod_cast Iff.rfl
  by_cases hEven : m % 2 = 0
  · simp only [hEven, decide_true, if_true, Bool.and_eq_true, decide_eq_true_eq, hLowIff, hHighIff]
    exact ⟨fun ⟨hl, hh⟩ => ⟨hl, hh, fun hOdd => by omega⟩, fun h => ⟨h.low, h.high⟩⟩
  · simp only [hEven, decide_false, Bool.false_eq_true, if_false, Bool.and_eq_true, decide_eq_true_eq, hLowStrict, hHighStrict]
    exact ⟨fun ⟨hl, hh⟩ => ⟨hl.le, hh.le, fun _ => ⟨hl, hh⟩⟩, fun h => h.odd (by omega)⟩

/-- A point of a grid reads back as a number if it is nearest to it. -/
theorem holds_shifted_iff {m : Nat} (hm : 0 < m) (e : Int) (digits : Nat) (power : Int) :
    (Interval.of m e).holds (shifted digits 1 power).1 (shifted digits 1 power).2 = true ↔ IsNearest m e (digits * 10 ^ power) := by
  obtain ⟨hDen, hShifted⟩ := isRatio_shifted Nat.one_pos digits power
  rw [holds_iff hm e hDen, hShifted, Nat.cast_one, div_one]

/-! ## Neighbours on a grid -/

theorem roundedQuotient_cases (num den : Nat) : roundedQuotient num den = num / den ∨ roundedQuotient num den = num / den + 1 := by
  simp only [roundedQuotient]
  split
  · exact .inl rfl
  · split
    · exact .inr rfl
    · split
      · exact .inl rfl
      · exact .inr rfl

/-- The two neighbours of a number on a grid, and what is taken of them: one that is nearest to the number, unless neither is. -/
structure AreNeighbours (m : Nat) (e : Int) (step : ℚ) (below : Nat) (taken : Option Nat) : Prop where
  le : below * step ≤ m * 2 ^ e
  lt : m * 2 ^ e < (below + 1) * step
  isNearest_of_some : ∀ digits, taken = some digits → (digits = below ∨ digits = below + 1) ∧ IsNearest m e (digits * step)
  not_isNearest_of_none : taken = none → ¬ IsNearest m e (below * step) ∧ ¬ IsNearest m e ((below + 1) * step)

theorem exists_neighbours {m : Nat} (hm : 0 < m) (e point : Int) (places : Nat) :
    ∃ below, AreNeighbours m e (10 ^ (point - places)) below ((Interval.of m e).neighbour? point places) := by
  obtain ⟨hDen, -, -, hValue, -⟩ := interval_eq hm e
  obtain ⟨hPos, hRatio⟩ := isRatio_shifted hDen (Interval.of m e).value (Int.ofNat places - point)
  have hReadsBack (digits : Nat) := holds_shifted_iff hm e digits (point - Int.ofNat places)
  rw [Interval.neighbour?]
  simp only
  generalize shifted (Interval.of m e).value (Interval.of m e).den (Int.ofNat places - point) = scaled at *
  obtain ⟨n, d⟩ := scaled
  simp only at hPos hRatio ⊢
  have hStep : (0 : ℚ) < 10 ^ (point - places) := by positivity
  have hPosQ : (0 : ℚ) < d := by exact_mod_cast hPos
  have hScaled : (m : ℚ) * 2 ^ e = n / d * 10 ^ (point - places) := by
    rw [hRatio, hValue, Int.ofNat_eq_natCast, mul_assoc, ← zpow_add₀ (by norm_num)]
    simp
  refine ⟨n / d, ?_, ?_, ?_, ?_⟩
  · rw [hScaled]
    exact mul_le_mul_of_nonneg_right Nat.cast_div_le hStep.le
  · rw [hScaled]
    refine mul_lt_mul_of_pos_right ?_ hStep
    rw [div_lt_iff₀ hPosQ]
    exact_mod_cast Nat.lt_mul_of_div_lt (Nat.lt_succ_self _) hPos
  · intro digits hTaken
    split at hTaken
    · rename_i hBelow hAbove
      obtain rfl := Option.some.inj hTaken
      refine ⟨roundedQuotient_cases n d, ?_⟩
      rcases roundedQuotient_cases n d with h | h
      · exact h ▸ (hReadsBack _).mp hBelow
      · exact h ▸ (hReadsBack _).mp hAbove
    · rename_i hBelow _
      obtain rfl := Option.some.inj hTaken
      exact ⟨.inl rfl, (hReadsBack _).mp hBelow⟩
    · rename_i _ hAbove
      obtain rfl := Option.some.inj hTaken
      exact ⟨.inr rfl, (hReadsBack _).mp hAbove⟩
    · cases hTaken
  · intro hTaken
    split at hTaken
    · cases hTaken
    · cases hTaken
    · cases hTaken
    · rename_i hBelow hAbove
      refine ⟨mt (hReadsBack _).mpr (Bool.eq_false_iff.mp hBelow), ?_⟩
      have hNot := mt (hReadsBack _).mpr (Bool.eq_false_iff.mp hAbove)
      rwa [Nat.cast_add, Nat.cast_one] at hNot

/-! ## The search -/

/-- What lies between a number and a rational that is nearest to it is nearest to it as well. -/
theorem isNearest_of_le {m : Nat} {e : Int} {q r : ℚ} (h : IsNearest m e r) (hLow : m * 2 ^ e ≤ q) (hHigh : q ≤ r) :
    IsNearest m e q := by
  have hBelow : (m - gapBelow m e) * 2 ^ e < m * (2 : ℚ) ^ e :=
    mul_lt_mul_of_pos_right (by linarith [gapBelow_pos m e]) (by positivity)
  exact ⟨hBelow.le.trans hLow, hHigh.trans h.high, fun hOdd => ⟨hBelow.trans_le hLow, hHigh.trans_lt (h.odd hOdd).2⟩⟩

/-- Seventeen digits tell a number from its neighbours, also where these lie closest. -/
theorem lt_gapBelow {m : Nat} {e : Int} (hm : m < 2 * leastFull) : (m : ℚ) < 2 * 10 ^ 16 * gapBelow m e := by
  rw [gapBelow]
  split
  · rename_i hLeast
    rw [hLeast.1]
    norm_num [leastFull]
  · have hNat : m < 10 ^ 16 := hm.trans (by decide)
    have hCast : (m : ℚ) < 10 ^ 16 := by exact_mod_cast hNat
    linarith

/-- Of the two neighbours of a number on a grid of seventeen digits one is nearest to the number. -/
theorem isNearest_of_seventeen {m : Nat} {e : Int} (hm : m < 2 * leastFull) {step : ℚ} (hStep : 10 ^ 16 * step ≤ m * 2 ^ e) {below : Nat}
    (hLow : below * step ≤ m * 2 ^ e) (hHigh : m * 2 ^ e < (below + 1) * step) :
    IsNearest m e (below * step) ∨ IsNearest m e ((below + 1) * step) := by
  have hUnit : (0 : ℚ) < 2 ^ e := by positivity
  have hWide : step / 2 < gapBelow m e * 2 ^ e := by nlinarith [mul_lt_mul_of_pos_right (lt_gapBelow (e := e) hm) hUnit]
  have hHalf : gapBelow m e * 2 ^ e ≤ 1 / 2 * 2 ^ e := mul_le_mul_of_nonneg_right (gapBelow_le m e) hUnit.le
  rcases le_total (m * 2 ^ e - below * step) (step / 2) with hNear | hFar
  · refine .inl ⟨?_, ?_, fun _ => ⟨?_, ?_⟩⟩ <;> nlinarith
  · refine .inr ⟨?_, ?_, fun _ => ⟨?_, ?_⟩⟩ <;> nlinarith

/-- The rational that a decimal stands for. -/
def value (d : Decimal) : ℚ := d.digits * 10 ^ (d.point - (digitsOf d.digits).length)

theorem value_of_bounds (places : Nat) {digits : Nat} (point : Int) (hLow : 10 ^ places ≤ digits) (hHigh : digits < 10 ^ (places + 1)) :
    value ⟨digits, point⟩ = digits * 10 ^ (point - (places + 1 : ℕ)) := by
  rw [value, length_digitsOf hLow hHigh]

theorem value_carry (point : Int) : value ⟨1, point + 1⟩ = 10 ^ point := by
  rw [value_of_bounds 0 _ (by decide) (by decide)]
  simp

/-- A decimal stands for a rational that is nearest to a number. -/
structure IsNearestDecimal (m : Nat) (e : Int) (d : Decimal) : Prop where
  pos : 0 < d.digits
  nearest : IsNearest m e d.value

theorem pow_eq_mul_step (point : Int) (places : Nat) : (10 : ℚ) ^ point = 10 ^ places * 10 ^ (point - places) := by
  rw [← zpow_natCast, ← zpow_add₀ (by norm_num)]
  congr 1
  ring

section Search

variable {m : Nat} {e point : Int} (hLow : (10 : ℚ) ^ (point - 1) ≤ m * 2 ^ e) (hHigh : m * 2 ^ e < (10 : ℚ) ^ point)

include hLow hHigh in
/-- The neighbour below a number between two powers of ten has as many digits as the grid has places. -/
theorem AreNeighbours.bounds {places below : Nat} {taken : Option Nat}
    (h : AreNeighbours m e (10 ^ (point - (places + 1 : ℕ))) below taken) : 10 ^ places ≤ below ∧ below < 10 ^ (places + 1) := by
  have hStep : (0 : ℚ) < 10 ^ (point - (places + 1 : ℕ)) := by positivity
  have hFirst : (10 : ℚ) ^ (point - 1) = 10 ^ places * 10 ^ (point - (places + 1 : ℕ)) := by
    rw [pow_eq_mul_step (point - 1) places]
    congr 2
    push_cast
    ring
  constructor
  · have hCast : (10 : ℚ) ^ places < below + 1 := lt_of_mul_lt_mul_right (hFirst ▸ hLow.trans_lt h.lt) hStep.le
    have hNat : 10 ^ places < below + 1 := by exact_mod_cast hCast
    omega
  · have hCast : (below : ℚ) < 10 ^ (places + 1) :=
      lt_of_mul_lt_mul_right (pow_eq_mul_step point (places + 1) ▸ h.le.trans_lt hHigh) hStep.le
    exact_mod_cast hCast

include hLow hHigh in
/-- What is taken on a grid is nearest to the number, unless it is a carry past the first digit. -/
theorem AreNeighbours.isNearestDecimal {places below digits : Nat} {taken : Option Nat}
    (h : AreNeighbours m e (10 ^ (point - (places + 1 : ℕ))) below taken) (hTaken : taken = some digits)
    (hCarry : digits ≠ 10 ^ (places + 1)) : IsNearestDecimal m e ⟨digits, point⟩ := by
  obtain ⟨hMore, hLess⟩ := h.bounds hLow hHigh
  obtain ⟨hCases, hNearest⟩ := h.isNearest_of_some digits hTaken
  have hBounds : 10 ^ places ≤ digits ∧ digits < 10 ^ (places + 1) := by omega
  refine ⟨(Nat.pow_pos (by decide)).trans_le hBounds.1, ?_⟩
  rwa [value_of_bounds places point hBounds.1 hBounds.2]

theorem AreNeighbours.isNearest_carry {places below digits : Nat} {taken : Option Nat}
    (h : AreNeighbours m e (10 ^ (point - (places : ℕ))) below taken) (hTaken : taken = some digits) (hCarry : digits = 10 ^ places) :
    IsNearest m e (10 ^ point) := by
  have hNearest := (h.isNearest_of_some digits hTaken).2
  rwa [hCarry, Nat.cast_pow, Nat.cast_ofNat, ← pow_eq_mul_step] at hNearest

include hLow hHigh in
/-- If neither neighbour is nearest to a number, the power of ten above the number is not either. -/
theorem AreNeighbours.not_isNearest_power {places below : Nat} {taken : Option Nat}
    (h : AreNeighbours m e (10 ^ (point - (places + 1 : ℕ))) below taken) (hTaken : taken = none) : ¬ IsNearest m e (10 ^ point) := by
  intro hPower
  refine (h.not_isNearest_of_none hTaken).2 (isNearest_of_le hPower h.lt.le ?_)
  rw [pow_eq_mul_step point (places + 1)]
  have hNat : below + 1 ≤ 10 ^ (places + 1) := (h.bounds hLow hHigh).2
  exact mul_le_mul_of_nonneg_right (by exact_mod_cast hNat) (by positivity)

include hLow in
/-- On the grid of seventeen digits something is taken. -/
theorem AreNeighbours.taken_ne_none {below : Nat} {taken : Option Nat} (h : AreNeighbours m e (10 ^ (point - 17)) below taken)
    (hm : m < 2 * leastFull) : taken ≠ none := by
  intro hTaken
  have hStep : (10 : ℚ) ^ 16 * 10 ^ (point - 17) ≤ m * 2 ^ e := by
    refine le_trans (le_of_eq ?_) hLow
    rw [pow_eq_mul_step (point - 1) 16]
    congr 2
    ring
  obtain ⟨hBelow, hAbove⟩ := h.not_isNearest_of_none hTaken
  rcases isNearest_of_seventeen hm hStep h.le h.lt with hNearest | hNearest
  · exact hBelow hNearest
  · exact hAbove hNearest

include hLow hHigh in
/-- The search by induction on the grids that are left: past the first grid the power of ten above the number is known not to be
nearest, so that there is no carry. -/
theorem isNearestDecimal_search (hPos : 0 < m) (hm : m < 2 * leastFull) (fuel places : Nat) (hGrids : places + fuel = 16)
    (hCarry : 0 < places → ¬ IsNearest m e (10 ^ point)) :
    IsNearestDecimal m e ((Interval.of m e).search point (places + 1) fuel) := by
  induction fuel generalizing places with
  | zero =>
    obtain rfl : places = 16 := hGrids
    obtain ⟨below, h⟩ := exists_neighbours hPos e point (16 + 1)
    obtain ⟨digits, hTaken⟩ := Option.ne_none_iff_exists'.mp (h.taken_ne_none hLow hm)
    have hNoCarry : digits ≠ 10 ^ (16 + 1) := fun hDigits => hCarry (by decide) (h.isNearest_carry hTaken hDigits)
    have hNearest := h.isNearestDecimal hLow hHigh hTaken hNoCarry
    rwa [Interval.search, hTaken, Option.getD_some]
  | succ fuel ih =>
    obtain ⟨below, h⟩ := exists_neighbours hPos e point (places + 1)
    rw [Interval.search]
    cases hTaken : (Interval.of m e).neighbour? point (places + 1) with
    | none =>
      exact ih (places + 1) (by omega) fun _ => h.not_isNearest_power hLow hHigh hTaken
    | some digits =>
      simp only [Nat.pow_eq]
      split
      · rename_i hDigits
        refine ⟨Nat.one_pos, ?_⟩
        rw [value_carry]
        exact h.isNearest_carry hTaken hDigits
      · rename_i hDigits
        exact h.isNearestDecimal hLow hHigh hTaken hDigits

end Search

/-- The shortest decimal of a number is nearest to it. -/
theorem isNearest_shortest {m : Nat} (e : Int) (hPos : 0 < m) (hm : m < 2 * leastFull) : IsNearestDecimal m e (shortest m e) := by
  obtain ⟨hDen, hNum, -, hValue, -⟩ := interval_eq hPos e
  obtain ⟨hLow, hHigh⟩ := order_bounds hNum hDen
  rw [hValue] at hLow hHigh
  exact isNearestDecimal_search hLow hHigh hPos hm 16 0 rfl fun h => absurd h (by decide)

end Decimal

end RanConsole

import RanConsole.Number.Layout
import RanConsole.Proofs.Number.Digits
import RanConsole.Proofs.Number.Shortest

/-!
# Decimals that are read as they were written

A decimal that is nearest to a number is read as that number, whatever zeros are written around its digits
(`Numeral.Scientific.Stands.value_eq`), since the numbers lie within the magnitudes that are read
(`Decimal.IsNearestDecimal.point_bounds`).
-/

namespace RanConsole

open Binary64 Decimal

namespace Numeral

theorem digitsValue_zeros_append (zeros : Nat) (s : List Char) : digitsValue (List.replicate zeros '0' ++ s) = digitsValue s := by
  induction zeros with
  | zero => rfl
  | succ zeros ih => exact ih

theorem digitsValue_append_zeros (s : List Char) (zeros : Nat) :
    digitsValue (s ++ List.replicate zeros '0') = digitsValue s * 10 ^ zeros := by
  have hSplit : digitsValue (s ++ List.replicate zeros '0') = Nat.ofDigitChars 10 (s ++ List.replicate zeros '0') 0 := rfl
  have hFront : digitsValue s = Nat.ofDigitChars 10 s 0 := rfl
  rw [hSplit, hFront, Nat.ofDigitChars_append, Nat.ofDigitChars_replicate_zero, Nat.mul_comm]

theorem isDigit_of_mem_zeros {zeros : Nat} {c : Char} (h : c ∈ List.replicate zeros '0') : c.isDigit = true :=
  List.eq_of_mem_replicate h ▸ rfl

/-- An exponent with its mark and its sign is read as it was written. -/
theorem exponent?_written (width : Nat) (e : Int) :
    exponent? ('e' :: (if e < 0 then '-' else '+') :: zeroPadded width (digitsOf e.natAbs)) = some e := by
  have hDigits : (zeroPadded width (digitsOf e.natAbs)).all Char.isDigit = true := by
    rw [zeroPadded, List.all_append, Bool.and_eq_true, List.all_eq_true, List.all_eq_true]
    exact ⟨fun c hc => isDigit_of_mem_zeros hc, fun c hc => isDigit_digitsOf hc⟩
  have hSome : (zeroPadded width (digitsOf e.natAbs)).isEmpty = false := by
    rw [List.isEmpty_eq_false_iff, zeroPadded]
    exact List.append_ne_nil_of_right_ne_nil _ Nat.toDigits_ne_nil
  have hValue : digitsValue (zeroPadded width (digitsOf e.natAbs)) = e.natAbs := by
    rw [zeroPadded, digitsValue_zeros_append, digitsValue_digitsOf]
  by_cases hSign : e < 0
  · rw [if_pos hSign, exponent?, if_pos (.inl rfl)]
    simp only [signed, hSome, hDigits, hValue, Bool.not_false, Bool.and_self, if_true, Option.some.injEq, Int.ofNat_eq_natCast]
    omega
  · rw [if_neg hSign, exponent?, if_pos (.inl rfl)]
    simp only [signed, hSome, hDigits, hValue, Bool.not_false, Bool.and_self, if_true, Option.some.injEq, Int.ofNat_eq_natCast,
      Bool.false_eq_true, if_false]
    omega

end Numeral

/-! ## The range of the numbers -/

namespace Binary64

theorem IsNearest.range {m : Nat} {e : Int} {q : ℚ} (negative : Bool) (hProper : (finite negative m e).IsProper) (hm : 0 < m)
    (h : IsNearest m e q) : (2 : ℚ) ^ (-1075 : ℤ) ≤ q ∧ q < 2 ^ (1024 : ℤ) := by
  obtain ⟨hMantissa, hMin, hMax, -⟩ := hProper
  have hTwo : (1 : ℚ) ≤ 2 := by norm_num
  have hMantissaLow : (1 : ℚ) ≤ m := by exact_mod_cast hm
  have hMantissaHigh : (m : ℚ) + 1 ≤ 2 ^ (53 : ℤ) := by
    have hNat : m + 1 ≤ 2 ^ 53 := hMantissa
    exact_mod_cast hNat
  constructor
  · calc (2 : ℚ) ^ (-1075 : ℤ) = 1 / 2 * 2 ^ minExponent := by
          rw [minExponent, show (-1075 : ℤ) = -1 + -1074 by norm_num, zpow_add₀ (by norm_num)]
          norm_num
      _ ≤ (m - gapBelow m e) * 2 ^ e :=
          mul_le_mul (by linarith [gapBelow_le m e]) (zpow_le_zpow_right₀ hTwo hMin) (by positivity) (by linarith [gapBelow_le m e])
      _ ≤ q := h.low
  · calc q ≤ (m + 1 / 2) * 2 ^ e := h.high
      _ < 2 ^ (53 : ℤ) * 2 ^ e := mul_lt_mul_of_pos_right (by linarith) (by positivity)
      _ ≤ 2 ^ (53 : ℤ) * 2 ^ maxExponent := mul_le_mul_of_nonneg_left (zpow_le_zpow_right₀ hTwo hMax) (by positivity)
      _ = 2 ^ (1024 : ℤ) := by
          rw [maxExponent, ← zpow_add₀ (by norm_num)]
          norm_num

/-- A decimal that is nearest to a number is read as the number if its magnitude is one that is read. -/
theorem ofDecimal_eq {m : Nat} {e : Int} (negative : Bool) (hProper : (finite negative m e).IsProper) (hm : 0 < m) {digits length : Nat}
    {exponent : Int} (hLow : decimalUnderflow ≤ length + exponent) (hHigh : length + exponent ≤ decimalOverflow)
    (h : IsNearest m e (digits * 10 ^ exponent)) : ofDecimal negative digits length exponent = .finite negative m e := by
  have hDigits : digits ≠ 0 := by
    rintro rfl
    exact absurd (h.pos hm) (by simp)
  obtain ⟨hDen, hRatio⟩ := isRatio_scaled (show 0 < 10 by decide) Nat.one_pos digits exponent
  rw [ofDecimal, Int.ofNat_eq_natCast, if_neg hDigits, if_neg (Int.not_lt.mpr hHigh), if_neg (Int.not_lt.mpr hLow)]
  by_cases hSign : 0 ≤ exponent
  · rw [if_pos hSign] at hDen hRatio ⊢
    refine ofRatio_eq negative hProper hm hDen ?_
    rw [hRatio]
    simpa using h
  · rw [if_neg hSign, Nat.one_mul] at hDen hRatio
    rw [if_neg hSign]
    refine ofRatio_eq negative hProper hm hDen ?_
    rw [hRatio]
    simpa using h

end Binary64

namespace Decimal

theorem value_bounds {d : Decimal} (hPos : 0 < d.digits) : (10 : ℚ) ^ (d.point - 1) ≤ d.value ∧ d.value < 10 ^ d.point := by
  obtain ⟨hLow, hHigh⟩ := bounds_digitsOf hPos
  have hSome : 0 < (digitsOf d.digits).length := Nat.length_toDigits_pos
  rw [value]
  generalize (digitsOf d.digits).length = length at *
  obtain ⟨places, rfl⟩ := Nat.exists_eq_succ_of_ne_zero (Nat.pos_iff_ne_zero.mp hSome)
  have hLowQ : (10 : ℚ) ^ places ≤ d.digits := by exact_mod_cast hLow
  have hHighQ : (d.digits : ℚ) < 10 ^ (places + 1) := by exact_mod_cast hHigh
  have hStep : (0 : ℚ) < 10 ^ (d.point - (places.succ : ℕ)) := by positivity
  constructor
  · have hFirst : (10 : ℚ) ^ (d.point - 1) = 10 ^ places * 10 ^ (d.point - (places.succ : ℕ)) := by
      rw [pow_eq_mul_step (d.point - 1) places]
      congr 2
      push_cast
      ring
    rw [hFirst]
    exact mul_le_mul_of_nonneg_right hLowQ hStep.le
  · rw [pow_eq_mul_step d.point places.succ]
    exact mul_lt_mul_of_pos_right hHighQ hStep

/-- The point of a decimal that is nearest to a number lies within the magnitudes that are read. -/
theorem IsNearestDecimal.point_bounds {m : Nat} {e : Int} {d : Decimal} (negative : Bool) (hProper : (finite negative m e).IsProper)
    (hm : 0 < m) (h : IsNearestDecimal m e d) : decimalUnderflow ≤ d.point ∧ d.point ≤ decimalOverflow := by
  obtain ⟨hLow, hHigh⟩ := h.nearest.range negative hProper hm
  obtain ⟨hFrom, hTo⟩ := value_bounds h.pos
  have hTen : (1 : ℚ) < 10 := by norm_num
  have hLeast : (10 : ℚ) ^ decimalUnderflow ≤ 2 ^ (-1075 : ℤ) := by
    have hNat : 2 ^ 1075 ≤ 10 ^ 330 := by decide +kernel
    rw [decimalUnderflow, zpow_neg, zpow_neg, inv_le_inv₀ (by positivity) (by positivity)]
    exact_mod_cast hNat
  have hGreatest : (2 : ℚ) ^ (1024 : ℤ) ≤ 10 ^ (309 : ℤ) := by
    have hNat : 2 ^ 1024 ≤ 10 ^ 309 := by decide +kernel
    exact_mod_cast hNat
  have hMore : decimalUnderflow < d.point := (zpow_lt_zpow_iff_right₀ hTen).mp ((hLeast.trans hLow).trans_lt hTo)
  have hLess : d.point - 1 < 309 := (zpow_lt_zpow_iff_right₀ hTen).mp (hFrom.trans_lt (hHigh.trans_le hGreatest))
  rw [decimalOverflow]
  omega

/-! ## Significant digits -/

/-- The significant digits of a positive decimal are its digits up to zeros at their end. -/
theorem exists_zeros {d : Decimal} (hPos : 0 < d.digits) :
    ∃ zeros, digitsOf d.digits = d.significant ++ List.replicate zeros '0' := by
  have hZeros : (digitsOf d.digits).reverse.takeWhile (· = '0') =
      List.replicate ((digitsOf d.digits).reverse.takeWhile (· = '0')).length '0' :=
    List.eq_replicate_of_mem fun c hc => by simpa using List.mem_takeWhile_imp hc
  have hSplit := List.takeWhile_append_dropWhile (p := fun c => decide (c = '0')) (l := (digitsOf d.digits).reverse)
  rw [hZeros] at hSplit
  generalize ((digitsOf d.digits).reverse.takeWhile (· = '0')).length = zeros at *
  have hDigits := congrArg List.reverse hSplit
  rw [List.reverse_append, List.reverse_reverse, List.reverse_replicate] at hDigits
  refine ⟨zeros, ?_⟩
  rw [significant]
  split
  · -- digits that are all zeros make zero
    rename_i hNone
    have hValue := digitsValue_digitsOf d.digits
    have hZero : Numeral.digitsValue [] = 0 := rfl
    rw [← hDigits, hNone, Numeral.digitsValue_append_zeros, hZero, Nat.zero_mul] at hValue
    exact absurd hValue hPos.ne
  · exact hDigits.symm

/-- The significant digits of a positive decimal: they are digits, and the first is not a zero. -/
theorem exists_significant {d : Decimal} (hPos : 0 < d.digits) :
    ∃ c w, d.significant = c :: w ∧ c ≠ '0' ∧ (∀ x ∈ d.significant, x.isDigit = true) := by
  obtain ⟨zeros, hZeros⟩ := exists_zeros hPos
  have hNotZero : (digitsOf d.digits).head? ≠ some '0' := by
    intro hFirst
    have hValue := digitsValue_digitsOf d.digits
    rw [digitsOf_of_zero_first hFirst] at hValue
    have hZero : Numeral.digitsValue ['0'] = 0 := by decide
    omega
  have hAll : ∀ x ∈ d.significant, x.isDigit = true := fun x hx =>
    isDigit_digitsOf (n := d.digits) (hZeros ▸ List.mem_append_left _ hx)
  cases hDigits : d.significant with
  | nil =>
    rw [significant] at hDigits
    split at hDigits
    · cases hDigits
    · rename_i hSome
      exact absurd hDigits hSome
  | cons c w =>
    rw [hZeros, hDigits, List.cons_append, List.head?_cons, ne_eq, Option.some.injEq] at hNotZero
    exact ⟨c, w, rfl, hNotZero, hDigits ▸ hAll⟩

theorem value_eq_significant {d : Decimal} (hPos : 0 < d.digits) :
    d.value = Numeral.digitsValue d.significant * 10 ^ (d.point - d.significant.length) := by
  obtain ⟨zeros, hZeros⟩ := exists_zeros hPos
  have hDigits : d.digits = Numeral.digitsValue d.significant * 10 ^ zeros := by
    rw [← Numeral.digitsValue_append_zeros, ← hZeros, digitsValue_digitsOf]
  rw [value, hZeros, List.length_append, List.length_replicate]
  conv_lhs => rw [hDigits]
  rw [pow_eq_mul_step (d.point - d.significant.length) zeros]
  push_cast
  rw [mul_assoc, sub_sub]

end Decimal

/-! ## Reading -/

namespace Numeral

/-- Whether digits with an exponent are those of a decimal: zeros around them aside, with the point at the same place. -/
def Scientific.Stands (x : Scientific) (d : Decimal) : Prop :=
  ∃ front back : Nat, x.whole ++ x.fraction = List.replicate front '0' ++ (d.significant ++ List.replicate back '0') ∧
    x.exponent - x.fraction.length = d.point - d.significant.length - back

/-- The digits of a decimal that is nearest to a number are read as the number. -/
theorem Scientific.Stands.value_eq {x : Scientific} {d : Decimal} (hStands : x.Stands d) {m : Nat} {e : Int} (negative : Bool)
    (hProper : (finite negative m e).IsProper) (hm : 0 < m) (h : IsNearestDecimal m e d) : x.value negative = .finite negative m e := by
  obtain ⟨front, back, hDigits, hExponent⟩ := hStands
  obtain ⟨hLow, hHigh⟩ := h.point_bounds negative hProper hm
  obtain ⟨c, w, hSignificant, hFirst, -⟩ := exists_significant h.pos
  have hDropped : (x.whole ++ x.fraction).dropWhile (· = '0') = d.significant ++ List.replicate back '0' := by
    rw [hDigits, List.dropWhile_append_of_pos fun a ha => by simpa using List.eq_of_mem_replicate ha, hSignificant, List.cons_append,
      List.dropWhile_cons_of_neg (by simpa using hFirst)]
  have hPoint : ((d.significant ++ List.replicate back '0').length : ℤ) + (x.exponent - x.fraction.length) = d.point := by
    rw [List.length_append, List.length_replicate, hExponent]
    push_cast
    ring
  rw [Scientific.value]
  simp only [hDropped]
  refine ofDecimal_eq negative hProper hm (hPoint ▸ hLow) (hPoint ▸ hHigh) ?_
  have hNearest := h.nearest
  rw [value_eq_significant h.pos, pow_eq_mul_step (d.point - d.significant.length) back, ← mul_assoc] at hNearest
  rw [digitsValue_append_zeros, hExponent]
  exact_mod_cast hNearest

end Numeral

end RanConsole

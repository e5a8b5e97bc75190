import Mathlib.Algebra.Group.Nat.Defs
import RanConsole.Number.Layout
import RanConsole.Number.Numeral
import RanConsole.Proofs.Text.Trim

/-!
# Digits and the numbers they make

The digits of a number make that number again (`digitsValue_digitsOf`), without a zero in front. Integers with more digits than a limit
are not read; those that are read, whatever the script of their digits, are short enough to be read again (`isShort_of_readInteger`), and
a short integer is read as it was written (`readInteger_integerText`).
-/

namespace RanConsole

namespace Decimal

theorem isDigit_digitsOf {n : Nat} {c : Char} (h : c ∈ digitsOf n) : c.isDigit = true :=
  Nat.isDigit_of_mem_toDigits (by decide) (by decide) h

theorem bounds_of_isDigit {c : Char} (h : c.isDigit = true) : 48 ≤ c.toNat ∧ c.toNat ≤ 57 := by
  simp only [Char.isDigit, Bool.and_eq_true, decide_eq_true_eq] at h
  exact h

theorem not_isBlank_of_isDigit {c : Char} (h : c.isDigit = true) : Text.isBlank c = false := by
  obtain ⟨hLower, hUpper⟩ := bounds_of_isDigit h
  simp only [Text.isBlank, Text.inRanges, Text.blankRanges, List.any_cons, List.any_nil, Bool.or_false, Bool.or_eq_false_iff,
    Bool.and_eq_false_iff, decide_eq_false_iff_not]
  omega

theorem digitsValue_digitsOf (n : Nat) : Numeral.digitsValue (digitsOf n) = n :=
  Nat.ofDigitChars_ten_toDigits

/-- The digits of a number start with a zero only if it is zero. -/
theorem digitsOf_of_zero_first {n : Nat} (h : (digitsOf n).head? = some '0') : digitsOf n = ['0'] := by
  induction n using Nat.strongRecOn with
  | ind n ih =>
    by_cases hSmall : n < 10
    · have hDigits : digitsOf n = [n.digitChar] := Nat.toDigits_of_lt_base hSmall
      rw [hDigits, List.head?_cons, Option.some.injEq] at h
      rw [hDigits, h]
    · have hSplit : digitsOf n = digitsOf (n / 10) ++ digitsOf (n % 10) := by
        rw [digitsOf, digitsOf, digitsOf,
          Nat.toDigits_append_toDigits (by decide) (by omega) (Nat.mod_lt _ (by decide)), Nat.div_add_mod]
      have hFirst : (digitsOf (n / 10)).head? = some '0' := by
        rw [hSplit, List.head?_append] at h
        cases hFront : digitsOf (n / 10) with
        | nil => exact absurd hFront Nat.toDigits_ne_nil
        | cons d w =>
          rw [hFront] at h
          exact h
      have hZero := digitsValue_digitsOf (n / 10)
      rw [ih (n / 10) (by omega) hFirst] at hZero
      have hValue : Numeral.digitsValue ['0'] = 0 := by decide
      omega

theorem exists_digitsOf (n : Nat) : ∃ d w, digitsOf n = d :: w ∧ d.isDigit = true := by
  cases h : digitsOf n with
  | nil => exact absurd h Nat.toDigits_ne_nil
  | cons d w => exact ⟨d, w, rfl, isDigit_digitsOf (h ▸ List.mem_cons_self ..)⟩

end Decimal

/-- A written integer has digits, and nothing else than a minus in front of them. -/
theorem mem_integerText {i : Int} {c : Char} (h : c ∈ integerText i) : c = '-' ∨ c.isDigit = true := by
  rw [integerText] at h
  split at h
  · rcases List.mem_cons.mp h with rfl | h
    · exact .inl rfl
    · exact .inr (Decimal.isDigit_digitsOf h)
  · exact .inr (Decimal.isDigit_digitsOf h)

theorem integerText_ne_nil (i : Int) : integerText i ≠ [] := by
  rw [integerText]
  split
  · exact List.cons_ne_nil _ _
  · exact Nat.toDigits_ne_nil

/-! ## Short integers -/

theorem isShort_iff (i : Int) : isShort i = true ↔ i.natAbs < 10 ^ Numeral.maxDigits := by
  rw [isShort, decide_eq_true_iff, Decimal.digitsOf, Nat.length_toDigits_le_iff (by decide) (by decide)]

namespace Numeral

/-- What digits make is bounded by their number. -/
theorem valueOf_lt {digits : List Nat} (h : ∀ d ∈ digits, d < 10) : valueOf digits < 10 ^ digits.length := by
  have hFrom : ∀ (digits : List Nat) (start : Nat), (∀ d ∈ digits, d < 10) →
      digits.foldl (fun n d => 10 * n + d) start < (start + 1) * 10 ^ digits.length := by
    intro digits
    induction digits with
    | nil =>
      intro start _
      simp
    | cons d digits ih =>
      intro start h
      have hd := h d (List.mem_cons_self ..)
      have hRest := ih (10 * start + d) fun e he => h e (List.mem_cons_of_mem _ he)
      have hStep : (10 * start + d + 1) * 10 ^ digits.length ≤ ((start + 1) * 10) * 10 ^ digits.length :=
        Nat.mul_le_mul_right _ (by omega)
      rw [List.foldl_cons, List.length_cons, Nat.pow_succ', ← Nat.mul_assoc]
      exact Nat.lt_of_lt_of_le hRest hStep
  have hAll := hFrom digits 0 h
  rwa [Nat.zero_add, Nat.one_mul] at hAll

theorem isShort_of_digits {digits : List Nat} (h : ∀ d ∈ digits, d < 10) (hLength : ¬ maxDigits < digits.length)
    (negative : Bool) : isShort (if negative then -(valueOf digits : Int) else (valueOf digits : Int)) = true := by
  have hAbs : (if negative then -(valueOf digits : Int) else (valueOf digits : Int)).natAbs = valueOf digits := by
    cases negative <;> simp
  rw [isShort_iff, hAbs]
  exact Nat.lt_of_lt_of_le (valueOf_lt h) (Nat.pow_le_pow_right (by decide) (Nat.le_of_not_lt hLength))

theorem digitsValue_eq_valueOf (s : List Char) : digitsValue s = valueOf (s.map fun c => c.toNat - '0'.toNat) := by
  rw [digitsValue, valueOf, List.foldl_map]

theorem lt_ten_of_isDigit {c : Char} (h : c.isDigit = true) : c.toNat - '0'.toNat < 10 := by
  have hUpper := (Decimal.bounds_of_isDigit h).2
  have hZero : '0'.toNat = 48 := rfl
  omega

theorem isShort_of_digitsValue {s : List Char} (h : ∀ c ∈ s, c.isDigit = true) (hLength : ¬ maxDigits < s.length)
    (negative : Bool) : isShort (if negative then -(digitsValue s : Int) else (digitsValue s : Int)) = true := by
  have hDigits : ∀ d ∈ s.map fun c => c.toNat - '0'.toNat, d < 10 := by
    intro d hd
    obtain ⟨c, hc, rfl⟩ := List.mem_map.mp hd
    exact lt_ten_of_isDigit (h c hc)
  rw [← List.length_map fun c => c.toNat - '0'.toNat] at hLength
  rw [digitsValue_eq_valueOf]
  exact isShort_of_digits hDigits hLength negative

theorem decimalDigit?_lt {c : Char} {d : Nat} (h : Text.decimalDigit? c = some d) : d < 10 := by
  rw [Text.decimalDigit?] at h
  split at h
  · split at h
    · rename_i hRange
      have hNine : '9'.toNat = 57 := rfl
      have hZero : '0'.toNat = 48 := rfl
      cases h
      omega
    · cases h
  · obtain ⟨z, hFind, rfl⟩ := Option.map_eq_some_iff.mp h
    have hRange : decide (z ≤ c.toNat ∧ c.toNat ≤ z + 9) = true := by simpa using List.find?_some hFind
    have hBounds := of_decide_eq_true hRange
    omega

theorem digitRun_lt (afterDigit : Bool) (s : List Char) : ∀ d ∈ (digitRun afterDigit s).1, d < 10 := by
  induction s generalizing afterDigit with
  | nil =>
    intro d hd
    cases hd
  | cons c s ih =>
    intro d hd
    rw [digitRun] at hd
    cases hc : Text.decimalDigit? c with
    | some e =>
      simp only [hc, List.mem_cons] at hd
      rcases hd with rfl | hd
      · exact decimalDigit?_lt hc
      · exact ih true d hd
    | none =>
      simp only [hc] at hd
      split at hd
      · exact ih false d hd
      · cases hd

end Numeral

/-- An integer that is read can be written and read again. -/
theorem isShort_of_readInteger {s : String} {i : Int} (h : readInteger s = .ok i) : isShort i = true := by
  have hDigits := Numeral.digitRun_lt false (Numeral.signed (Numeral.stripped s.toList)).2
  simp only [readInteger, Numeral.integer] at h
  split at h
  · cases h
  · split at h
    · cases h
    · rename_i hLength
      split at h
      · cases h
        exact Numeral.isShort_of_digits hDigits hLength _
      · cases h

/-! ## Integers that are read as they were written -/

namespace Numeral

theorem not_isSpace_of_isDigit {c : Char} (h : c.isDigit = true) : isSpace c = false := by
  rw [isSpace, Decimal.not_isBlank_of_isDigit h, Bool.false_and]

theorem decimalDigit?_of_isDigit {c : Char} (h : c.isDigit = true) : Text.decimalDigit? c = some (c.toNat - '0'.toNat) := by
  obtain ⟨hLower, hUpper⟩ := Decimal.bounds_of_isDigit h
  rw [Text.decimalDigit?, if_pos (by omega), if_pos ⟨hLower, hUpper⟩]

theorem signed_cons {c : Char} (hMinus : c ≠ '-') (hPlus : c ≠ '+') (s : List Char) : signed (c :: s) = (false, c :: s) := by
  rw [signed]
  · rintro _ ⟨rfl, rfl⟩
    exact hMinus rfl
  · rintro _ ⟨rfl, rfl⟩
    exact hPlus rfl

/-- A text of digits is a run of digits to its end. -/
theorem digitRun_of_digits {s : List Char} (h : ∀ c ∈ s, c.isDigit = true) (afterDigit : Bool) :
    digitRun afterDigit s = (s.map fun c => c.toNat - '0'.toNat, []) := by
  induction s generalizing afterDigit with
  | nil => rfl
  | cons c s ih =>
    have hc := decimalDigit?_of_isDigit (h c (List.mem_cons_self ..))
    have hRest := ih (fun d hd => h d (List.mem_cons_of_mem c hd)) true
    simp only [digitRun, hc, hRest, List.map_cons]

/-- A text with the digits of a number behind its sign is read as the number, if there are not too many. -/
theorem integer_of_signed {s : List Char} {negative : Bool} {n : Nat} (hSpace : ∀ c ∈ s, isSpace c = false)
    (hSigned : signed s = (negative, Decimal.digitsOf n)) (hLength : ¬ maxDigits < (Decimal.digitsOf n).length) :
    integer s = .ok (if negative then -(n : Int) else n) := by
  have hRun : digitRun false (Decimal.digitsOf n) = ((Decimal.digitsOf n).map fun c => c.toNat - '0'.toNat, []) :=
    digitRun_of_digits (fun c hc => Decimal.isDigit_digitsOf hc) false
  have hNonempty : ((Decimal.digitsOf n).map fun c => c.toNat - '0'.toNat).isEmpty = false := by
    obtain ⟨d, w, hDigits, -⟩ := Decimal.exists_digitsOf n
    rw [hDigits]
    rfl
  have hValue : valueOf ((Decimal.digitsOf n).map fun c => c.toNat - '0'.toNat) = n := by
    rw [← digitsValue_eq_valueOf, Decimal.digitsValue_digitsOf]
  rw [← List.length_map fun c => c.toNat - '0'.toNat] at hLength
  have hStripped : stripped s = s := Text.dropEndWhile_dropWhile_of_forall_not hSpace
  simp only [integer, hStripped, hSigned, hRun, hNonempty, hValue, if_neg hLength]
  rfl

end Numeral

/-- A short integer is read as it was written. -/
theorem readInteger_integerText {i : Int} (h : isShort i = true) : readInteger (String.ofList (integerText i)) = .ok i := by
  have hLength : ¬ Numeral.maxDigits < (Decimal.digitsOf i.natAbs).length := Nat.not_lt.mpr (of_decide_eq_true h)
  have hDigits : ∀ c ∈ Decimal.digitsOf i.natAbs, Numeral.isSpace c = false :=
    fun c hc => Numeral.not_isSpace_of_isDigit (Decimal.isDigit_digitsOf hc)
  rw [readInteger, String.toList_ofList, integerText]
  by_cases hSign : i < 0
  · rw [if_pos hSign, Numeral.integer_of_signed (n := i.natAbs) (List.forall_mem_cons.mpr ⟨by decide, hDigits⟩) rfl hLength, if_pos rfl]
    congr 1
    omega
  · have hSigned : Numeral.signed (Decimal.digitsOf i.natAbs) = (false, Decimal.digitsOf i.natAbs) := by
      obtain ⟨d, w, hFirst, hd⟩ := Decimal.exists_digitsOf i.natAbs
      rw [hFirst]
      exact Numeral.signed_cons (by rintro rfl; cases hd) (by rintro rfl; cases hd) w
    rw [if_neg hSign, Numeral.integer_of_signed hDigits hSigned hLength, if_neg (by decide)]
    congr 1
    omega

end RanConsole

import RanConsole.Number.Fixed
import RanConsole.Proofs.Json.RoundTrip
import RanConsole.Proofs.Number.Written

/-!
# The tokens of printed floating point numbers

The written form of a decimal is a numeral with a point or an exponent (`Decimal.exists_isNumeral`), and so one word, read as the number
to which the decimal is nearest. So a number in its one form is read as it was written (`Style.readsFloat_of_isProper`).
-/

namespace RanConsole

open Decimal

/-! ## Numerals -/

/-- The whole part of a numeral: digits, of which the first is a zero only if it is the only one. -/
structure IsWhole (whole : List Char) : Prop where
  digits : ∀ c ∈ whole, c.isDigit = true
  ne_nil : whole ≠ []
  zero : whole.head? = some '0' → whole = ['0']

/-- What ends a numeral: nothing, or an exponent. -/
inductive IsEnding : List Char → Int → Prop
  | none : IsEnding [] 0
  | exponent (e : Int) : IsEnding (exponentText e) e

/-- A numeral with a point or an exponent, and the decimal it stands for. -/
inductive IsNumeral : List Char → Numeral.Scientific → Prop
  | whole {whole : List Char} (hWhole : IsWhole whole) (e : Int) : IsNumeral (whole ++ exponentText e) ⟨whole, [], e⟩
  | pointed {whole fraction rest : List Char} {e : Int} (hWhole : IsWhole whole) (hFraction : ∀ c ∈ fraction, c.isDigit = true)
      (hSome : fraction ≠ []) (hRest : IsEnding rest e) : IsNumeral (whole ++ '.' :: (fraction ++ rest)) ⟨whole, fraction, e⟩

theorem IsWhole.of_digit {c : Char} (h : c.isDigit = true) : IsWhole [c] where
  digits := fun _ hd => List.mem_singleton.mp hd ▸ h
  ne_nil := List.cons_ne_nil c []
  zero := fun hZero => congrArg (fun d => [d]) (Option.some.inj hZero)

theorem IsWhole.of_digits {c : Char} {w : List Char} (h : ∀ d ∈ c :: w, d.isDigit = true) (hFirst : c ≠ '0') : IsWhole (c :: w) where
  digits := h
  ne_nil := List.cons_ne_nil c w
  zero := fun hZero => absurd (Option.some.inj hZero) hFirst

/-- A numeral without an exponent. -/
theorem IsNumeral.positional {whole fraction : List Char} (hWhole : IsWhole whole) (hFraction : ∀ c ∈ fraction, c.isDigit = true)
    (hSome : fraction ≠ []) : IsNumeral (whole ++ '.' :: fraction) ⟨whole, fraction, 0⟩ := by
  have hNumeral := IsNumeral.pointed hWhole hFraction hSome .none
  rwa [List.append_nil] at hNumeral

theorem exponentText_eq (e : Int) : exponentText e = 'e' :: (if e < 0 then '-' else '+') :: zeroPadded 2 (digitsOf e.natAbs) := rfl

theorem exponent?_exponentText (e : Int) : Numeral.exponent? (exponentText e) = some e := by
  rw [exponentText_eq, Numeral.exponent?_written]

theorem IsEnding.exponent?_eq {s : List Char} {e : Int} (h : IsEnding s e) : Numeral.exponent? s = some e := by
  cases h with
  | none => rfl
  | exponent => exact exponent?_exponentText e

theorem IsEnding.not_isDigit {s : List Char} {e : Int} (h : IsEnding s e) : ∀ c ∈ s.head?, c.isDigit = false := by
  intro c hc
  cases h with
  | none => cases hc
  | exponent =>
    cases hc
    rfl

/-! ## Decimals as numerals -/

namespace Decimal

variable {d : Decimal} (hPos : 0 < d.digits)
include hPos

/-- Positional notation is a numeral that stands for the decimal. -/
theorem exists_isNumeral_positional : ∃ x : Numeral.Scientific, IsNumeral (positional d.significant d.point) x ∧ x.Stands d := by
  obtain ⟨c, w, hDigits, hFirst, hAll⟩ := exists_significant hPos
  rw [positional]
  split
  · rename_i hPoint
    -- zeros between the point and the digits
    refine ⟨⟨['0'], List.replicate (-d.point).toNat '0' ++ d.significant, 0⟩, ?_, (-d.point).toNat + 1, 0,
      by simp [List.replicate_succ], ?_⟩
    · have hFraction : ∀ a ∈ List.replicate (-d.point).toNat '0' ++ d.significant, a.isDigit = true := fun a ha =>
        (List.mem_append.mp ha).elim Numeral.isDigit_of_mem_zeros (hAll a)
      exact IsNumeral.positional (IsWhole.of_digit rfl) hFraction (by simp [hDigits])
    · simp only [List.length_append, List.length_replicate]
      omega
  · rename_i hPoint
    simp only
    by_cases hLength : d.significant.length ≤ d.point.toNat
    · -- zeros between the digits and the point
      rw [List.take_of_length_le hLength, List.drop_of_length_le hLength]
      refine ⟨⟨d.significant ++ List.replicate (d.point.toNat - d.significant.length) '0', ['0'], 0⟩, ?_, 0,
        d.point.toNat - d.significant.length + 1, by simp [List.replicate_succ'], ?_⟩
      · have hWhole : IsWhole (d.significant ++ List.replicate (d.point.toNat - d.significant.length) '0') := by
          rw [hDigits, List.cons_append]
          refine IsWhole.of_digits (fun a ha => ?_) hFirst
          rw [← List.cons_append, ← hDigits] at ha
          exact (List.mem_append.mp ha).elim (hAll a) Numeral.isDigit_of_mem_zeros
        exact IsNumeral.positional hWhole (by simp) (by simp)
      · simp only [List.length_singleton]
        omega
    · -- the point stands between digits
      rw [List.length_take, Nat.min_eq_left (by omega), Nat.sub_self, List.replicate_zero, List.append_nil]
      have hSome : d.significant.drop d.point.toNat ≠ [] := by
        rw [ne_eq, List.drop_eq_nil_iff]
        exact hLength
      rw [if_neg (by simpa using hSome)]
      refine ⟨⟨d.significant.take d.point.toNat, d.significant.drop d.point.toNat, 0⟩, ?_, 0, 0, by simp, ?_⟩
      · have hWhole : IsWhole (d.significant.take d.point.toNat) := by
          obtain ⟨n, hn⟩ := Nat.exists_eq_succ_of_ne_zero (show d.point.toNat ≠ 0 by omega)
          have hTaken := fun a (ha : a ∈ d.significant.take d.point.toNat) => hAll a (List.mem_of_mem_take ha)
          rw [hn, hDigits, List.take_succ_cons] at hTaken ⊢
          exact IsWhole.of_digits hTaken hFirst
        exact IsNumeral.positional hWhole (fun a ha => hAll a (List.mem_of_mem_drop ha)) hSome
      · simp only [List.length_drop]
        omega

/-- Notation with an exponent is a numeral that stands for the decimal. -/
theorem exists_isNumeral_withExponent {format : NumberFormat} (hPlaces : format.exponentPlaces = 2)
    (hPoint : format.pointBeforeExponent = false) :
    ∃ x : Numeral.Scientific, IsNumeral (withExponent format d.significant (d.point - 1)) x ∧ x.Stands d := by
  obtain ⟨c, w, hDigits, -, hAll⟩ := exists_significant hPos
  have hDigit : c.isDigit = true := hAll c (hDigits ▸ List.mem_cons_self ..)
  cases w with
  | nil =>
    refine ⟨⟨[c], [], d.point - 1⟩, ?_, 0, 0, by simp [hDigits], by simp [hDigits]⟩
    simp only [withExponent, hDigits, hPlaces, hPoint]
    exact IsNumeral.whole (IsWhole.of_digit hDigit) (d.point - 1)
  | cons b w =>
    refine ⟨⟨[c], b :: w, d.point - 1⟩, ?_, 0, 0, by simp [hDigits], ?_⟩
    · simp only [withExponent, hDigits, hPlaces]
      have hFraction : ∀ a ∈ b :: w, a.isDigit = true := fun a ha => hAll a (hDigits ▸ List.mem_cons_of_mem c ha)
      exact IsNumeral.pointed (IsWhole.of_digit hDigit) hFraction (List.cons_ne_nil b w) (.exponent (d.point - 1))
    · rw [hDigits]
      simp only [List.length_cons]
      omega

/-- The written form of a decimal is a numeral that stands for it. -/
theorem exists_isNumeral {format : NumberFormat} (hPlaces : format.exponentPlaces = 2) (hPoint : format.pointBeforeExponent = false) :
    ∃ x : Numeral.Scientific, IsNumeral (d.written format) x ∧ x.Stands d := by
  rw [written]
  split
  · exact exists_isNumeral_positional hPos
  · exact exists_isNumeral_withExponent hPos hPlaces hPoint

end Decimal

namespace Json

/-! ## Numerals as tokens -/

theorem takeWhile_digits {digits s : List Char} (hDigits : ∀ c ∈ digits, c.isDigit = true) (hs : ∀ c ∈ s.head?, c.isDigit = false) :
    (digits ++ s).takeWhile Char.isDigit = digits := by
  rw [List.takeWhile_append_of_pos hDigits]
  cases s with
  | nil => exact List.append_nil digits
  | cons c s => rw [List.takeWhile_cons_of_neg (Bool.eq_false_iff.mp (hs c rfl)), List.append_nil]

theorem dropWhile_digits {digits s : List Char} (hDigits : ∀ c ∈ digits, c.isDigit = true) (hs : ∀ c ∈ s.head?, c.isDigit = false) :
    (digits ++ s).dropWhile Char.isDigit = s := by
  rw [List.dropWhile_append_of_pos hDigits]
  cases s with
  | nil => rfl
  | cons c s => exact List.dropWhile_cons_of_neg (Bool.eq_false_iff.mp (hs c rfl))

/-- A numeral is read as the decimal it stands for. -/
theorem numberToken_of_isNumeral {s : List Char} {x : Numeral.Scientific} (h : IsNumeral s x) (negative : Bool) :
    numberToken negative s = .scalar (.float (x.value negative)) := by
  have hKept {whole : List Char} (hWhole : IsWhole whole) : (if whole.head? == some '0' then ['0'] else whole) = whole := by
    split
    · rename_i hZero
      exact (hWhole.zero (eq_of_beq hZero)).symm
    · rfl
  have hSome {whole : List Char} (hWhole : IsWhole whole) : whole.isEmpty = false := List.isEmpty_eq_false_iff.mpr hWhole.ne_nil
  cases h with
  | @whole whole hWhole e =>
    have hEnds := (IsEnding.exponent e).not_isDigit
    have hTaken := takeWhile_digits hWhole.digits hEnds
    have hDropped := dropWhile_digits hWhole.digits hEnds
    have hExponent := exponent?_exponentText e
    rw [exponentText_eq] at hTaken hDropped hExponent ⊢
    simp only [numberToken, hTaken, hDropped, hKept hWhole, hSome hWhole, Nat.lt_irrefl, hExponent, Bool.false_eq_true, if_false]
    rfl
  | @pointed whole fraction rest e hWhole hFraction hFractionSome hRest =>
    have hEnds : ∀ c ∈ ('.' :: (fraction ++ rest)).head?, c.isDigit = false := by
      intro c hc
      cases hc
      rfl
    have hTaken := takeWhile_digits hWhole.digits hEnds
    have hDropped := dropWhile_digits hWhole.digits hEnds
    simp only [numberToken, hTaken, hDropped, hKept hWhole, hSome hWhole, Nat.lt_irrefl, takeWhile_digits hFraction hRest.not_isDigit,
      dropWhile_digits hFraction hRest.not_isDigit, hRest.exponent?_eq, List.isEmpty_eq_false_iff.mpr hFractionSome,
      Bool.false_eq_true, if_false]

theorem isWordChar_exponentText {e : Int} {c : Char} (h : c ∈ exponentText e) : isWordChar c = true := by
  rw [exponentText_eq, List.mem_cons, List.mem_cons, zeroPadded, List.mem_append] at h
  rcases h with rfl | rfl | h | h
  · decide
  · split <;> decide
  · exact isWordChar_of_isDigit (Numeral.isDigit_of_mem_zeros h)
  · exact isWordChar_of_isDigit (isDigit_digitsOf h)

/-- A numeral is one word. -/
theorem isWordChar_of_isNumeral {s : List Char} {x : Numeral.Scientific} (h : IsNumeral s x) : ∀ c ∈ s, isWordChar c = true := by
  intro c hc
  cases h with
  | whole hWhole e =>
    rcases List.mem_append.mp hc with hc | hc
    · exact isWordChar_of_isDigit (hWhole.digits c hc)
    · exact isWordChar_exponentText hc
  | pointed hWhole hFraction _ hRest =>
    rcases List.mem_append.mp hc with hc | hc
    · exact isWordChar_of_isDigit (hWhole.digits c hc)
    · rcases List.mem_cons.mp hc with rfl | hc
      · decide
      · rcases List.mem_append.mp hc with hc | hc
        · exact isWordChar_of_isDigit (hFraction c hc)
        · cases hRest with
          | none => cases hc
          | exponent e => exact isWordChar_exponentText hc

theorem exists_digit_of_isNumeral {s : List Char} {x : Numeral.Scientific} (h : IsNumeral s x) :
    ∃ c w, s = c :: w ∧ c.isDigit = true := by
  have hFront {whole : List Char} (hWhole : IsWhole whole) (rest : List Char) : ∃ c w, whole ++ rest = c :: w ∧ c.isDigit = true := by
    obtain ⟨c, w, rfl⟩ := List.exists_cons_of_ne_nil hWhole.ne_nil
    exact ⟨c, w ++ rest, rfl, hWhole.digits c (List.mem_cons_self ..)⟩
  cases h with
  | whole hWhole e => exact hFront hWhole _
  | pointed hWhole => exact hFront hWhole _

/-- A numeral with a sign is a number. -/
theorem wordToken_of_isNumeral {s : List Char} {x : Numeral.Scientific} (h : IsNumeral s x) (negative : Bool) :
    wordToken ((if negative then ['-'] else []) ++ s) = .scalar (.float (x.value negative)) := by
  obtain ⟨c, w, hFirst, hDigit⟩ := exists_digit_of_isNumeral h
  have hMem : c ∈ s := hFirst ▸ List.mem_cons_self ..
  cases negative with
  | true => exact (wordToken_minus hMem hDigit).trans (numberToken_of_isNumeral h true)
  | false =>
    have hNotMinus : s.head? ≠ some '-' := by
      rw [hFirst, List.head?_cons, ne_eq, Option.some.injEq]
      rintro rfl
      cases hDigit
    exact (wordToken_of_digit hMem hDigit hNotMinus).trans (numberToken_of_isNumeral h false)

/-! ## Numbers -/

/-- The written form of a number in its one form is read as the number. -/
theorem Style.readsFloat_of_isProper {style : Style} (hWords : style.numbers = numberWords) {x : Binary64} (h : x.IsProper) :
    style.ReadsFloat x := by
  suffices hWord : (∀ c ∈ (x.written numberWords).toList, isWordChar c = true) ∧
      wordToken (x.written numberWords).toList = .scalar (.float x) from
    ⟨hWords ▸ hWord.1, hWords ▸ hWord.2⟩
  cases x with
  | nan => exact ⟨List.all_eq_true.mp (by decide), rfl⟩
  | infinite negative =>
    cases negative with
    | true => exact ⟨List.all_eq_true.mp (by decide), rfl⟩
    | false => exact ⟨List.all_eq_true.mp (by decide), rfl⟩
  | finite negative m e =>
    cases m with
    | zero =>
      obtain rfl : e = Binary64.minExponent := h.2.2.2.resolve_left (by decide)
      cases negative with
      | true => exact ⟨List.all_eq_true.mp (by decide), rfl⟩
      | false => exact ⟨List.all_eq_true.mp (by decide), rfl⟩
    | succ m =>
      have hNearest := isNearest_shortest e m.succ_pos h.1
      obtain ⟨x, hNumeral, hStands⟩ := exists_isNumeral hNearest.pos (show numberWords.exponentPlaces = 2 from rfl) rfl
      have hWritten : ((Binary64.finite negative (m + 1) e).written numberWords).toList =
          (if negative then ['-'] else []) ++ (shortest (m + 1) e).written numberWords := String.toList_ofList
      rw [hWritten, wordToken_of_isNumeral hNumeral, hStands.value_eq negative h m.succ_pos hNearest]
      refine ⟨fun c hc => ?_, rfl⟩
      rcases List.mem_append.mp hc with hc | hc
      · cases negative with
        | true => exact List.mem_singleton.mp hc ▸ by decide
        | false => cases hc
      · exact isWordChar_of_isNumeral hNumeral c hc

end Json

end RanConsole

import RanConsole.Proofs.Number.Digits
import RanConsole.Text.LetterCase

/-!
# Numerals that are read

Characters that count as digits are neither white space nor changed by lower case. A text of them is read as an integer if and only if
all are decimal and they are not too many (`isOk_integer_iff`), and what is read as an integer is read as a floating point number too
(`isSome_number?_of_integer`).
-/

namespace RanConsole

namespace Text

/-! ## Characters that count as digits -/

/-- Whether two tables of ranges have no code point in common. -/
def areApart (ranges ranges' : List (Nat × Nat)) : Bool :=
  ranges.all fun r => ranges'.all fun r' => Nat.blt r.2 r'.1 || Nat.blt r'.2 r.1

theorem inRanges_of_areApart {ranges ranges' : List (Nat × Nat)} (h : areApart ranges ranges' = true) {c : Char}
    (hc : inRanges ranges c = true) : inRanges ranges' c = false := by
  obtain ⟨r, hr, hIn⟩ := List.any_eq_true.mp hc
  rw [inRanges, List.any_eq_false]
  intro r' hr' hIn'
  have hApart := List.all_eq_true.mp (List.all_eq_true.mp h r hr) r' hr'
  simp only [Bool.or_eq_true, Nat.blt_eq] at hApart
  simp only [Bool.and_eq_true, decide_eq_true_eq] at hIn hIn'
  omega

/-- The ranges of the characters that count as digits. -/
def digitRanges : List (Nat × Nat) := (zeroDigits.map fun z => (z, z + 9)) ++ otherDigitRanges

theorem inRanges_digitRanges {c : Char} (h : isDigitLike c = true) : inRanges digitRanges c = true := by
  rw [digitRanges, inRanges, List.any_append, Bool.or_eq_true]
  refine ((Bool.or_eq_true ..).mp h).imp_left fun hDecimal => ?_
  obtain ⟨d, hd⟩ := Option.isSome_iff_exists.mp hDecimal
  rw [decimalDigit?] at hd
  simp only [List.any_map, List.any_eq_true, Function.comp_apply, Bool.and_eq_true, decide_eq_true_eq]
  split at hd
  · split at hd
    · rename_i hRange
      exact ⟨'0'.toNat, by decide, hRange⟩
    · cases hd
  · obtain ⟨z, hFind, -⟩ := Option.map_eq_some_iff.mp hd
    exact ⟨z, List.mem_of_find?_eq_some hFind, by simpa using List.find?_some hFind⟩

theorem isDigitLike_of_allDigits {digits : List Char} (h : allDigits digits = true) : ∀ c ∈ digits, isDigitLike c = true :=
  List.all_eq_true.mp ((Bool.and_eq_true ..).mp h).2

theorem not_isBlank_of_isDigitLike {c : Char} (h : isDigitLike c = true) : isBlank c = false :=
  inRanges_of_areApart (by decide) (inRanges_digitRanges h)

/-- The ranges of the characters that a table of images may change. -/
def caseRanges (runs : List CaseRun) (expansions : List (Nat × List Nat)) : List (Nat × Nat) :=
  (runs.map fun r => (r.first, r.last)) ++ expansions.map fun e => (e.1, e.1)

theorem mapCase_of_notInRanges {runs : List CaseRun} {expansions : List (Nat × List Nat)} {c : Char}
    (h : inRanges (caseRanges runs expansions) c = false) : mapCase runs expansions c = [c] := by
  rw [caseRanges, inRanges, List.any_append, Bool.or_eq_false_iff, List.any_map, List.any_map] at h
  have hExpansion : expansions.lookup c.toNat = none := by
    rw [List.lookup_eq_none_iff]
    intro e he
    have hApart := List.any_eq_false.mp h.2 e he
    simp only [Function.comp_apply, Bool.and_eq_true, decide_eq_true_eq] at hApart
    simp only [bne_iff_ne, ne_eq]
    omega
  have hRun : (runs.find? fun r => r.first ≤ c.toNat && c.toNat ≤ r.last && (c.toNat - r.first) % r.step == 0) = none := by
    rw [List.find?_eq_none]
    intro r hr hIn
    exact List.any_eq_false.mp h.1 r hr ((Bool.and_eq_true ..).mp hIn).1
  rw [mapCase, hExpansion, hRun]

theorem lowerIn_of_isDigitLike {c : Char} (h : isDigitLike c = true) (preceding following : List Char) :
    lowerIn preceding c following = [c] := by
  have hSigma : c ≠ 'Σ' := by
    rintro rfl
    exact absurd h (by decide)
  rw [lowerIn, if_neg hSigma]
  exact mapCase_of_notInRanges (inRanges_of_areApart (by decide +kernel) (inRanges_digitRanges h))

end Text

namespace Numeral

/-! ## Integers -/

theorem not_isSpace_of_isDigitLike {c : Char} (h : Text.isDigitLike c = true) : isSpace c = false := by
  rw [isSpace, Text.not_isBlank_of_isDigitLike h, Bool.false_and]

/-- A sign does not count as a digit. -/
theorem signed_of_allDigits {digits : List Char} (h : Text.allDigits digits = true) : signed digits = (false, digits) := by
  cases digits with
  | nil => rfl
  | cons c digits =>
    have hc := Text.isDigitLike_of_allDigits h c (List.mem_cons_self ..)
    refine signed_cons ?_ ?_ digits
    · rintro rfl
      exact absurd hc (by decide)
    · rintro rfl
      exact absurd hc (by decide)

/-- A decimal digit of any script. -/
def isDecimal (c : Char) : Bool := (Text.decimalDigit? c).isSome

/-- In a text without underscores a run of digits ends where the decimal digits do. -/
theorem digitRun_eq {s : List Char} (h : '_' ∉ s) (afterDigit : Bool) :
    digitRun afterDigit s =
      ((s.takeWhile isDecimal).map fun c => (Text.decimalDigit? c).getD 0, s.dropWhile isDecimal) := by
  induction s generalizing afterDigit with
  | nil => rfl
  | cons c s ih =>
    rw [List.mem_cons, not_or] at h
    rw [digitRun, List.takeWhile_cons, List.dropWhile_cons]
    cases hc : Text.decimalDigit? c with
    | some d =>
      have hDecimal : isDecimal c = true := by rw [isDecimal, hc]; rfl
      simp only [ih h.2 true, hDecimal, if_true, List.map_cons, hc, Option.getD_some]
    | none =>
      have hDecimal : isDecimal c = false := by rw [isDecimal, hc]; rfl
      have hUnderscore : (c == '_') = false := beq_eq_false_iff_ne.mpr (Ne.symm h.1)
      simp [hDecimal, hUnderscore]

/-- A text of digits behind a sign is read if and only if all of them are decimal and they are not too many. -/
theorem isOk_integer_iff {s digits : List Char} {negative : Bool} (hStripped : stripped s = s) (hSigned : signed s = (negative, digits))
    (hDigits : Text.allDigits digits = true) :
    (∃ i, integer s = .ok i) ↔ (∀ c ∈ digits, isDecimal c = true) ∧ digits.length ≤ maxDigits := by
  rw [Text.allDigits, Bool.and_eq_true, Bool.not_eq_true', List.isEmpty_eq_false_iff, List.all_eq_true] at hDigits
  have hUnderscore : '_' ∉ digits := fun hMem => absurd (hDigits.2 _ hMem) (by decide)
  simp only [integer, hStripped, hSigned, digitRun_eq hUnderscore]
  by_cases hAll : ∀ c ∈ digits, isDecimal c = true
  · have hTaken : digits.takeWhile isDecimal = digits := List.takeWhile_eq_self_iff.mpr hAll
    have hDropped : digits.dropWhile isDecimal = [] := List.dropWhile_eq_nil_iff.mpr hAll
    have hSome : (digits.map fun c => (Text.decimalDigit? c).getD 0).isEmpty = false := by
      rw [List.isEmpty_map, List.isEmpty_eq_false_iff]
      exact hDigits.1
    rw [hTaken, hDropped, hSome, List.length_map]
    by_cases hLong : maxDigits < digits.length
    · simp [hLong]
    · simpa [hLong, Nat.not_lt.mp hLong] using hAll
  · have hLeft : digits.dropWhile isDecimal ≠ [] := fun hNil => hAll (List.dropWhile_eq_nil_iff.mp hNil)
    have hLeftSome : (digits.dropWhile isDecimal).isEmpty = false := List.isEmpty_eq_false_iff.mpr hLeft
    rw [hLeftSome]
    refine iff_of_false ?_ fun hOk => hAll hOk.1
    rintro ⟨i, hi⟩
    split at hi
    · cases hi
    · split at hi
      · cases hi
      · cases hi

/-! ## Integers as floating point numbers -/

theorem isDigit_asciiDigit {c : Char} {d : Nat} (h : Text.decimalDigit? c = some d) : (asciiDigit c).isDigit = true := by
  have hAscii : ∀ d < 10, (Char.ofNat ('0'.toNat + d)).isDigit = true := by decide
  rw [asciiDigit, h]
  exact hAscii d (decimalDigit?_lt h)

theorem joined?_cons {c : Char} (h : c ≠ '_') (previous : Option Char) (s : List Char) :
    joined? previous (c :: s) = (joined? (some c) s).map (c :: ·) := by
  rw [joined?]
  exact h

/-- A run of digits to the end of a text is joined to as many digits. -/
theorem joined?_of_digitRun {s : List Char} {afterDigit : Bool} {values : List Nat} (h : digitRun afterDigit s = (values, []))
    (previous : Option Char) (hPrevious : afterDigit = true → (previous.map Char.isDigit).getD false = true) :
    ∃ t, joined? previous (s.map asciiDigit) = some t ∧ (∀ c ∈ t, c.isDigit = true) ∧ t.length = values.length := by
  induction s generalizing afterDigit values previous with
  | nil =>
    cases h
    exact ⟨[], rfl, fun c hc => absurd hc List.not_mem_nil, rfl⟩
  | cons c s ih =>
    rw [digitRun] at h
    cases hc : Text.decimalDigit? c with
    | some d =>
      simp only [hc, Prod.mk.injEq] at h
      obtain ⟨rfl, hRest⟩ := h
      have hDigit := isDigit_asciiDigit hc
      have hRun : digitRun true s = ((digitRun true s).1, []) := Prod.ext rfl hRest
      obtain ⟨t, hJoined, hDigits, hLength⟩ := ih hRun (some (asciiDigit c)) fun _ => hDigit
      have hUnderscore : asciiDigit c ≠ '_' := by
        intro hEq
        rw [hEq] at hDigit
        cases hDigit
      refine ⟨asciiDigit c :: t, ?_, List.forall_mem_cons.mpr ⟨hDigit, hDigits⟩, congrArg (· + 1) hLength⟩
      rw [List.map_cons, joined?_cons hUnderscore, hJoined]
      rfl
    | none =>
      simp only [hc] at h
      split at h
      · -- an underscore between two digits
        rename_i hBetween
        simp only [Bool.and_eq_true, beq_iff_eq] at hBetween
        obtain ⟨⟨hAfter, rfl⟩, hBefore⟩ := hBetween
        obtain ⟨t, hJoined, hDigits, hLength⟩ := ih h (some '_') fun hFalse => absurd hFalse (by decide)
        have hNext : ((s.map asciiDigit).head?.map Char.isDigit).getD false = true := by
          cases s with
          | nil => cases hBefore
          | cons e s =>
            obtain ⟨d, hd⟩ := Option.isSome_iff_exists.mp hBefore
            exact isDigit_asciiDigit hd
        refine ⟨t, ?_, hDigits, hLength⟩
        have hUnderscore : asciiDigit '_' = '_' := by decide
        rw [List.map_cons, hUnderscore, joined?, hPrevious hAfter, hNext]
        exact hJoined
      · cases h

theorem isSome_unsignedNumber? {s : List Char} (h : ∀ c ∈ s, c.isDigit = true) (hSome : s ≠ []) (negative : Bool) :
    (unsignedNumber? negative s).isSome = true := by
  have hScientific : scientific? s = some ⟨s, [], 0⟩ := by
    have hTaken : s.takeWhile Char.isDigit = s := List.takeWhile_eq_self_iff.mpr h
    have hDropped : s.dropWhile Char.isDigit = [] := List.dropWhile_eq_nil_iff.mpr h
    simp [scientific?, hTaken, hDropped, hSome, exponent?]
  simp only [unsignedNumber?, hScientific]
  split
  · rfl
  · split <;> rfl

/-- What is read as an integer is read as a floating point number too. -/
theorem isSome_number?_of_integer {s : List Char} {i : Int} (h : integer s = .ok i) : (number? s).isSome = true := by
  obtain ⟨values, hRun, hValues⟩ : ∃ values, digitRun false (signed (stripped s)).2 = (values, []) ∧ values ≠ [] := by
    simp only [integer] at h
    split at h
    · cases h
    · rename_i hSome
      split at h
      · cases h
      · split at h
        · rename_i hRest
          simp only [Bool.or_eq_true, not_or] at hSome
          exact ⟨_, Prod.ext rfl (List.isEmpty_iff.mp hRest), fun hNil => hSome.1 (List.isEmpty_iff.mpr hNil)⟩
        · cases h
  have hJoins (previous : Option Char) := joined?_of_digitRun hRun previous fun hFalse => absurd hFalse (by decide)
  have hMinus : asciiDigit '-' = '-' := by decide
  have hPlus : asciiDigit '+' = '+' := by decide
  have hNonempty {t : List Char} (hLength : t.length = values.length) : t ≠ [] := by
    rintro rfl
    exact hValues (List.eq_nil_of_length_eq_zero hLength.symm)
  rw [number?]
  cases hBody : stripped s with
  | nil =>
    rw [hBody] at hRun
    cases hRun
    exact absurd rfl hValues
  | cons c body =>
    rw [hBody] at hJoins
    by_cases hMinusFirst : c = '-'
    · subst hMinusFirst
      obtain ⟨t, hJoined, hDigits, hLength⟩ := hJoins (some '-')
      rw [List.map_cons, hMinus, joined?_cons (by decide)]
      simp only [signed] at hJoined
      rw [hJoined]
      exact isSome_unsignedNumber? hDigits (hNonempty hLength) true
    · by_cases hPlusFirst : c = '+'
      · subst hPlusFirst
        obtain ⟨t, hJoined, hDigits, hLength⟩ := hJoins (some '+')
        rw [List.map_cons, hPlus, joined?_cons (by decide)]
        simp only [signed] at hJoined
        rw [hJoined]
        exact isSome_unsignedNumber? hDigits (hNonempty hLength) false
      · obtain ⟨t, hJoined, hDigits, hLength⟩ := hJoins none
        rw [signed_cons hMinusFirst hPlusFirst] at hJoined
        rw [hJoined]
        cases t with
        | nil => exact absurd rfl (hNonempty hLength)
        | cons d t =>
          have hFirst := hDigits d (List.mem_cons_self ..)
          have hSigned : signed (d :: t) = (false, d :: t) :=
            signed_cons (by rintro rfl; cases hFirst) (by rintro rfl; cases hFirst) t
          simp only [Option.bind_some, Option.bind_eq_bind, hSigned]
          exact isSome_unsignedNumber? hDigits (List.cons_ne_nil d t) false

end Numeral

end RanConsole

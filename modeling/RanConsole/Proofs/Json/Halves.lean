import RanConsole.Json.Halves
import RanConsole.Proofs.Json.Scalars

/-!
# Texts with halves of pairs

A text that was read with spelled halves and is written in ASCII shows each of its units as the unit is escaped, once the spellings are
undone: a half by its own escape, everything else as it is printed (`unspelled_printText`). No unit is lost, and no other text is taken for
a spelling.
-/

namespace RanConsole.Json

/-- How a unit of a text is written in ASCII: a half by its escape, everything else as it is printed. -/
def writtenUnit (n : Nat) : List Char := if isHigh n || isLow n then unitEscape n else escaped true (Char.ofNat n)

/-- The value of the last four digits of a unit is the unit. -/
theorem unitOf?_hexDigits {n : Nat} (h : n < 0x10000) : unitOf? (Text.hexDigits 4 n) = some n := by
  have hValue : 16 * (16 * (16 * (16 * 0 + n / 16 / 16 / 16 % 16) + n / 16 / 16 % 16) + n / 16 % 16) + n % 16 = n := by omega
  have hLt (k : Nat) : k % 16 < 16 := Nat.mod_lt k (by decide)
  rw [hexDigits_four, unitOf?]
  simp only [List.mapM_cons, List.mapM_nil, hexValue?_hexDigit (hLt _), Option.pure_def, Option.bind_eq_bind, Option.bind_some,
    Option.map_some, List.foldl_cons, List.foldl_nil, hValue]

/-! ## What is left as it is -/

theorem unspelled_cons {c : Char} (h : c ≠ '\\') (s : List Char) : unspelled (c :: s) = c :: unspelled s := by
  rw [unspelled]
  · rintro s' rfl
    exact fun _ => h rfl
  · rintro a b c d s' rfl
    exact fun _ => h rfl

/-- Characters that start no escape are left as they are. -/
theorem unspelled_append {front : List Char} (h : ∀ c ∈ front, c ≠ '\\') (s : List Char) :
    unspelled (front ++ s) = front ++ unspelled s := by
  induction front with
  | nil => rfl
  | cons c front ih =>
    rw [List.cons_append, unspelled_cons (h c (List.mem_cons_self ..)), ih fun d hd => h d (List.mem_cons_of_mem _ hd), List.cons_append]

/-- The escape of one letter is left as it is. -/
theorem unspelled_letter {c : Char} (hu : c ≠ 'u') (s : List Char) : unspelled ('\\' :: c :: s) = '\\' :: c :: unspelled s := by
  by_cases h : c = '\\'
  · subst h
    rw [unspelled]
  · rw [unspelled, unspelled_cons h]
    · intro s' _ hEq
      exact h (List.cons.inj hEq).1
    · intro a b c d s' _ hEq
      exact hu (List.cons.inj hEq).1

theorem hexDigits_ne {n : Nat} {c : Char} (width : Nat) (h : c ∈ Text.hexDigits width n) : c ≠ '\\' := by
  have hDigit : ∀ k < 16, Text.hexDigit k ≠ '\\' := by decide
  induction width generalizing n with
  | zero => cases h
  | succ width ih =>
    rw [Text.hexDigits, List.mem_append, List.mem_singleton] at h
    rcases h with h | rfl
    · exact ih h
    · exact hDigit _ (Nat.mod_lt n (by decide))

/-- The escape of a unit that is no mark is left as it is. -/
theorem unspelled_unitEscape {n : Nat} (h : n < 0x10000) (hMark : n ≠ spellingMark.toNat) (s : List Char) :
    unspelled (unitEscape n ++ s) = unitEscape n ++ unspelled s := by
  have hDigits : unspelled ('u' :: (Text.hexDigits 4 n ++ s)) = 'u' :: (Text.hexDigits 4 n ++ unspelled s) := by
    rw [unspelled_cons (by decide), unspelled_append fun c => hexDigits_ne 4]
  rw [unitEscape, List.cons_append, List.cons_append, unspelled, hDigits]
  · rfl
  · intro s' _ hEq
    exact absurd (List.cons.inj hEq).1 (by decide)
  · intro a b c d s' _ hEq
    have hFour : Text.hexDigits 4 n = ['d', '7', 'f', 'f'] := List.append_inj_left (List.cons.inj hEq).2 rfl
    have hValue := unitOf?_hexDigits h
    rw [hFour] at hValue
    exact hMark (Option.some.inj hValue).symm

/-- What is printed for a character that is no mark is left as it is. -/
theorem unspelled_escaped {c : Char} (hMark : c ≠ spellingMark) (s : List Char) :
    unspelled (escaped true c ++ s) = escaped true c ++ unspelled s := by
  by_cases hLetter : c ∈ ['"', '\\', '\n', '\r', '\t', '\x08', '\x0C']
  · simp only [List.mem_cons, List.not_mem_nil, or_false] at hLetter
    -- each of these characters has a letter of its own
    rcases hLetter with rfl | rfl | rfl | rfl | rfl | rfl | rfl <;> exact unspelled_letter (by decide) s
  · simp only [List.mem_cons, List.not_mem_nil, or_false, not_or] at hLetter
    obtain ⟨hQuote, hEscape, hFeed, hReturn, hTab, hBack, hForm⟩ := hLetter
    have hNe : c.toNat ≠ spellingMark.toNat := fun h => hMark (Char.toNat_inj.mp h)
    rw [escaped, if_neg hQuote, if_neg hEscape, if_neg hFeed, if_neg hReturn, if_neg hTab, if_neg hBack, if_neg hForm]
    split
    · exact unspelled_unitEscape (by omega) hNe s
    split
    · exact unspelled_cons hEscape s
    split
    · exact unspelled_unitEscape ‹_› hNe s
    · have hValid := toNat_lt c
      have hMarkValue : spellingMark.toNat = 0xD7FF := rfl
      rw [List.append_assoc, unspelled_unitEscape (by omega) (by omega), unspelled_unitEscape (by omega) (by omega), List.append_assoc]

/-! ## Spellings -/

/-- A character behind the printable ones is written by the escapes of its units. -/
theorem escaped_of_le {c : Char} (h : 0x7F ≤ c.toNat) :
    escaped true c =
      if c.toNat < 0x10000 then unitEscape c.toNat
      else unitEscape (0xD800 + (c.toNat - 0x10000) / 0x400) ++ unitEscape (0xDC00 + (c.toNat - 0x10000) % 0x400) := by
  have hNe (d : Char) (hd : d.toNat < 0x7F) : c ≠ d := by
    rintro rfl
    omega
  rw [escaped, if_neg (hNe _ (by decide)), if_neg (hNe _ (by decide)), if_neg (hNe _ (by decide)), if_neg (hNe _ (by decide)),
    if_neg (hNe _ (by decide)), if_neg (hNe _ (by decide)), if_neg (hNe _ (by decide)), if_neg (by omega), if_neg]
  simpa using h

/-- A spelling is replaced by the escape of what it spells. -/
theorem unspelled_spelling {c : Char} (hBehind : 0x7F ≤ c.toNat) (h : c.toNat < 0x10000) (s : List Char) :
    unspelled ([spellingMark, c].flatMap (escaped true) ++ s) = spelledEscape c.toNat ++ unspelled s := by
  have hMark : escaped true spellingMark = ['\\', 'u', 'd', '7', 'f', 'f'] := by decide
  have hUnit := unitOf?_hexDigits h
  rw [hexDigits_four] at hUnit
  rw [List.flatMap_cons, List.flatMap_singleton, hMark, escaped_of_le hBehind, if_pos h, unitEscape, hexDigits_four]
  simp only [List.cons_append, List.nil_append]
  rw [unspelled, hUnit]
  rfl

theorem toNat_ofNat_of_isValidChar {n : Nat} (h : n.isValidChar) : (Char.ofNat n).toNat = n := by
  rw [Char.ofNat, dif_pos h]
  rfl

/-- A unit that stands alone is written as what it is. -/
theorem unspelled_single {n : Nat} (h : n < 0x110000) (s : List Char) :
    unspelled ((Halves.spelled.single n).flatMap (escaped true) ++ s) = writtenUnit n ++ unspelled s := by
  have hMarkValue : spellingMark.toNat = 0xD7FF := rfl
  rw [Halves.single, writtenUnit]
  by_cases hHalf : (isHigh n || isLow n) = true
  · rw [if_pos hHalf, if_pos hHalf]
    simp only [isHigh, isLow, Bool.or_eq_true, Bool.and_eq_true, decide_eq_true_eq] at hHalf
    have hValue : (Char.ofNat (n + spellingShift)).toNat = n + spellingShift :=
      toNat_ofNat_of_isValidChar (by rw [Nat.isValidChar, spellingShift]; omega)
    have hNe : n + spellingShift ≠ spellingMark.toNat := by
      rw [hMarkValue, spellingShift]
      omega
    rw [unspelled_spelling (by rw [hValue, spellingShift]; omega) (by rw [hValue, spellingShift]; omega), hValue, spelledEscape,
      if_neg hNe, Nat.add_sub_cancel]
  rw [if_neg hHalf, if_neg hHalf]
  by_cases hMark : n = spellingMark.toNat
  · rw [if_pos hMark, unspelled_spelling (by decide) (by decide), spelledEscape, if_pos rfl, hMark, Char.ofNat_toNat,
      escaped_of_le (by decide), if_pos (by decide)]
  · simp only [isHigh, isLow, Bool.or_eq_true, Bool.and_eq_true, decide_eq_true_eq] at hHalf
    have hValue : (Char.ofNat n).toNat = n := toNat_ofNat_of_isValidChar (by rw [Nat.isValidChar]; omega)
    have hNe : Char.ofNat n ≠ spellingMark := by
      intro hEq
      rw [hEq] at hValue
      exact hMark hValue.symm
    rw [if_neg hMark, List.flatMap_singleton, unspelled_escaped hNe]

/-- Two halves that belong together are written as one character, by the escapes of both. -/
theorem unspelled_pair {n m : Nat} (hHigh : isHigh n = true) (hLow : isLow m = true) (s : List Char) :
    unspelled (escaped true (Char.ofNat (0x10000 + (n - 0xD800) * 0x400 + (m - 0xDC00))) ++ s) =
      writtenUnit n ++ (writtenUnit m ++ unspelled s) := by
  have hWritten : writtenUnit n = unitEscape n ∧ writtenUnit m = unitEscape m := by simp [writtenUnit, hHigh, hLow]
  simp only [isHigh, isLow, Bool.and_eq_true, decide_eq_true_eq] at hHigh hLow
  generalize hCode : 0x10000 + (n - 0xD800) * 0x400 + (m - 0xDC00) = code
  have hValue : (Char.ofNat code).toNat = code := toNat_ofNat_of_isValidChar (by rw [Nat.isValidChar]; omega)
  have hNe : Char.ofNat code ≠ spellingMark := by
    intro hEq
    have hMarkValue : spellingMark.toNat = 0xD7FF := rfl
    rw [hEq] at hValue
    omega
  have hFirst : 0xD800 + (code - 0x10000) / 0x400 = n := by omega
  have hSecond : 0xDC00 + (code - 0x10000) % 0x400 = m := by omega
  rw [unspelled_escaped hNe, escaped_of_le (by omega), hValue, if_neg (by omega), hFirst, hSecond, hWritten.1, hWritten.2,
    List.append_assoc]

/-- The units of a text are written one by one. -/
theorem unspelled_ofUnits {units : List Nat} (h : ∀ n ∈ units, n < 0x110000) (s : List Char) :
    unspelled ((ofUnits .spelled units).flatMap (escaped true) ++ s) = units.flatMap writtenUnit ++ unspelled s := by
  induction units using ofUnits.induct with
  | case1 => rfl
  | case2 n => rw [ofUnits, unspelled_single (h n (List.mem_cons_self ..)), List.flatMap_singleton]
  | case3 n m rest hPair ih =>
    have hHalves := Bool.and_eq_true_iff.mp hPair
    rw [ofUnits, if_pos hPair, List.flatMap_cons, List.append_assoc, unspelled_pair hHalves.1 hHalves.2,
      ih fun k hk => h k (List.mem_cons_of_mem _ (List.mem_cons_of_mem _ hk)), List.flatMap_cons, List.flatMap_cons, List.append_assoc,
      List.append_assoc]
  | case4 n m rest hPair ih =>
    rw [ofUnits, if_neg hPair, List.flatMap_append, List.append_assoc, unspelled_single (h n (List.mem_cons_self ..)),
      ih fun k hk => h k (List.mem_cons_of_mem _ hk), ← List.append_assoc, ← List.flatMap_cons]

/-- A text in ASCII that was read with spelled halves shows each unit as it is written, whatever follows. -/
theorem unspelled_printText {style : Style} (hStyle : style.asciiOnly = true) {units : List Nat} (h : ∀ n ∈ units, n < 0x110000)
    (s : List Char) :
    unspelled (printText style (String.ofList (ofUnits .spelled units)) ++ s) =
      '"' :: (units.flatMap writtenUnit ++ '"' :: unspelled s) := by
  rw [printText, hStyle, String.toList_ofList, List.cons_append, List.append_assoc, unspelled_cons (by decide), unspelled_ofUnits h,
    List.singleton_append, unspelled_cons (by decide)]

end RanConsole.Json

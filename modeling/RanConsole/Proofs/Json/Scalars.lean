import RanConsole.Json.Printer
import RanConsole.Json.Token
import RanConsole.Proofs.Number.Digits

/-!
# The tokens of printed scalars

A printed text is one token whatever follows it (`scan_printText`): each character is printed as units that the scan gathers again. A
printed integer is one token where no further character of a word follows (`scan_integerText`).
-/

namespace RanConsole.Json

open Decimal

variable {halves : Halves}

/-! ## Between tokens -/

/-- The characters that follow do not continue a word. -/
def EndsWord (s : List Char) : Prop := ∀ c ∈ s.head?, isWordChar c = false

theorem endsWord_nil : EndsWord [] := by
  intro c hc
  cases hc

theorem endsWord_cons {c : Char} (s : List Char) (h : isWordChar c = false) : EndsWord (c :: s) := by
  intro d hd
  cases hd
  exact h

theorem not_isWordChar_of_isSpace {c : Char} (h : isSpace c = true) : isWordChar c = false := by
  simp only [isSpace, Bool.or_eq_true, beq_iff_eq] at h
  rcases h with ((rfl | rfl) | rfl) | rfl <;> decide

theorem endsWord_spaces {ws s : List Char} (h : ∀ c ∈ ws, isSpace c = true) (hs : EndsWord s) : EndsWord (ws ++ s) := by
  cases ws with
  | nil => exact hs
  | cons c ws => exact endsWord_cons _ (not_isWordChar_of_isSpace (h c (List.mem_cons_self ..)))

/-! ## One character at a time -/

theorem scan_nil : scan halves .between [] = [] := rfl

theorem scan_word_nil (read : List Char) : scan halves (.word read) [] = [wordToken read.reverse] := rfl

theorem scan_between_cons (c : Char) (s : List Char) : scan halves .between (c :: s) = (opening c).1 ++ scan halves (opening c).2 s := rfl

theorem scan_word_cons (read : List Char) (c : Char) (s : List Char) :
    scan halves (.word read) (c :: s) =
      if isWordChar c then scan halves (.word (c :: read)) s
      else wordToken read.reverse :: ((opening c).1 ++ scan halves (opening c).2 s) := rfl

theorem scan_text_cons (read : List Nat) (c : Char) (s : List Char) :
    scan halves (.text read) (c :: s) =
      if c = '"' then textToken halves read :: scan halves .between s
      else if c = '\\' then scan halves (.escape read) s
      else if c.toNat < 0x20 then [.broken .malformed]
      else scan halves (.text (c.toNat :: read)) s := rfl

theorem scan_escape_cons (read : List Nat) (c : Char) (s : List Char) :
    scan halves (.escape read) (c :: s) =
      if c = 'u' then scan halves (.unit read 0 4) s
      else
        match escapeLetter? c with
        | some e => scan halves (.text (e.toNat :: read)) s
        | none => [.broken .malformed] := rfl

theorem scan_unit_cons (read : List Nat) (value digits : Nat) (c : Char) (s : List Char) :
    scan halves (.unit read value digits) (c :: s) =
      match hexValue? c with
      | some d =>
        if digits ≤ 1 then scan halves (.text ((16 * value + d) :: read)) s else scan halves (.unit read (16 * value + d) (digits - 1)) s
      | none => [.broken .malformed] := rfl

/-! ## Spaces and words -/

theorem opening_space {c : Char} (h : isSpace c = true) : opening c = ([], .between) := by
  simp [opening, h]

theorem scan_spaces {ws : List Char} (h : ∀ c ∈ ws, isSpace c = true) (s : List Char) :
    scan halves .between (ws ++ s) = scan halves .between s := by
  induction ws with
  | nil => rfl
  | cons c ws ih =>
    rw [List.cons_append, scan_between_cons, opening_space (h c (List.mem_cons_self ..)), List.nil_append]
    exact ih fun d hd => h d (List.mem_cons_of_mem _ hd)

theorem opening_word {c : Char} (h : isWordChar c = true) : opening c = ([], .word [c]) := by
  have hSpace : isSpace c = false := by
    rw [Bool.eq_false_iff]
    intro hSpace
    rw [not_isWordChar_of_isSpace hSpace] at h
    exact Bool.noConfusion h
  have hQuote : c ≠ '"' := by
    rintro rfl
    exact absurd h (by decide)
  simp [opening, hSpace, hQuote, h]

theorem scan_word {w : List Char} (h : ∀ c ∈ w, isWordChar c = true) (read s : List Char) :
    scan halves (.word read) (w ++ s) = scan halves (.word (w.reverse ++ read)) s := by
  induction w generalizing read with
  | nil => rfl
  | cons c w ih =>
    rw [List.cons_append, scan_word_cons, if_pos (h c (List.mem_cons_self ..)), ih (fun d hd => h d (List.mem_cons_of_mem _ hd)),
      List.reverse_cons, List.append_assoc, List.singleton_append]

theorem scan_word_of_endsWord {s : List Char} (hs : EndsWord s) (read : List Char) :
    scan halves (.word read) s = wordToken read.reverse :: scan halves .between s := by
  cases s with
  | nil => rw [scan_word_nil, scan_nil]
  | cons c s =>
    have hc : ¬ isWordChar c = true := Bool.eq_false_iff.mp (hs c rfl)
    rw [scan_word_cons, if_neg hc, scan_between_cons]

/-- A word is one token where it ends. -/
theorem scan_between_word {w s : List Char} (hne : w ≠ []) (h : ∀ c ∈ w, isWordChar c = true) (hs : EndsWord s) :
    scan halves .between (w ++ s) = wordToken w :: scan halves .between s := by
  cases w with
  | nil => exact absurd rfl hne
  | cons c w =>
    rw [List.cons_append, scan_between_cons, opening_word (h c (List.mem_cons_self ..)), List.nil_append,
      scan_word (fun d hd => h d (List.mem_cons_of_mem _ hd)), scan_word_of_endsWord hs]
    simp

/-! ## Texts -/

/-- The units by which a character is printed: two halves for one that is escaped and does not fit in one. -/
def unitsOf (asciiOnly : Bool) (c : Char) : List Nat :=
  if asciiOnly && 0x10000 ≤ c.toNat then [0xD800 + (c.toNat - 0x10000) / 0x400, 0xDC00 + (c.toNat - 0x10000) % 0x400]
  else [c.toNat]

theorem hexValue?_hexDigit {n : Nat} (h : n < 16) : hexValue? (Text.hexDigit n) = some n := by
  have hAll : ∀ k < 16, hexValue? (Text.hexDigit k) = some k := by decide
  exact hAll n h

theorem scan_hexDigit {n : Nat} (h : n < 16) (read : List Nat) (value digits : Nat) (s : List Char) :
    scan halves (.unit read value digits) (Text.hexDigit n :: s) =
      if digits ≤ 1 then scan halves (.text ((16 * value + n) :: read)) s
      else scan halves (.unit read (16 * value + n) (digits - 1)) s := by
  rw [scan_unit_cons, hexValue?_hexDigit h]

theorem hexDigits_four (n : Nat) :
    Text.hexDigits 4 n = [Text.hexDigit (n / 16 / 16 / 16 % 16), Text.hexDigit (n / 16 / 16 % 16), Text.hexDigit (n / 16 % 16),
      Text.hexDigit (n % 16)] := rfl

/-- An escaped unit is gathered whole. -/
theorem scan_unitEscape {n : Nat} (h : n < 0x10000) (read : List Nat) (s : List Char) :
    scan halves (.text read) (unitEscape n ++ s) = scan halves (.text (n :: read)) s := by
  have hValue : 16 * (16 * (16 * (16 * 0 + n / 16 / 16 / 16 % 16) + n / 16 / 16 % 16) + n / 16 % 16) + n % 16 = n := by omega
  rw [unitEscape, hexDigits_four]
  simp only [List.cons_append, List.nil_append]
  rw [scan_text_cons, if_neg (by decide), if_pos rfl, scan_escape_cons, if_pos rfl, scan_hexDigit (Nat.mod_lt _ (by decide)),
    if_neg (by decide), scan_hexDigit (Nat.mod_lt _ (by decide)), if_neg (by decide),
    scan_hexDigit (Nat.mod_lt _ (by decide)), if_neg (by decide), scan_hexDigit (Nat.mod_lt _ (by decide)),
    if_pos (by decide), hValue]

theorem scan_escape {c e : Char} (hu : c ≠ 'u') (h : escapeLetter? c = some e) (read : List Nat) (s : List Char) :
    scan halves (.text read) ('\\' :: c :: s) = scan halves (.text (e.toNat :: read)) s := by
  rw [scan_text_cons, if_neg (by decide), if_pos rfl, scan_escape_cons, if_neg hu, h]

theorem scan_plainChar {c : Char} (hQuote : c ≠ '"') (hEscape : c ≠ '\\') (hControl : ¬ c.toNat < 0x20) (read : List Nat)
    (s : List Char) : scan halves (.text read) (c :: s) = scan halves (.text (c.toNat :: read)) s := by
  rw [scan_text_cons, if_neg hQuote, if_neg hEscape, if_neg hControl]

theorem toNat_lt (c : Char) : c.toNat < 0x110000 := by
  have hValid := c.valid
  simp only [UInt32.isValidChar, Nat.isValidChar] at hValid
  simp only [Char.toNat]
  omega

theorem unitsOf_of_lt (asciiOnly : Bool) {c : Char} (h : c.toNat < 0x10000) : unitsOf asciiOnly c = [c.toNat] := by
  simp [unitsOf, Nat.not_le.mpr h]

/-- A printed character is gathered as its units. -/
theorem scan_escaped (asciiOnly : Bool) (c : Char) (read : List Nat) (s : List Char) :
    scan halves (.text read) (escaped asciiOnly c ++ s) = scan halves (.text ((unitsOf asciiOnly c).reverse ++ read)) s := by
  by_cases hLetter : c ∈ ['"', '\\', '\n', '\r', '\t', '\x08', '\x0C']
  · simp only [List.mem_cons, List.not_mem_nil, or_false] at hLetter
    -- each of these characters has a letter of its own
    rcases hLetter with rfl | rfl | rfl | rfl | rfl | rfl | rfl <;>
      · rw [unitsOf_of_lt asciiOnly (by decide)]
        exact scan_escape (by decide) (by decide) read s
  · simp only [List.mem_cons, List.not_mem_nil, or_false, not_or] at hLetter
    obtain ⟨hQuote, hEscape, hFeed, hReturn, hTab, hBack, hForm⟩ := hLetter
    rw [escaped, if_neg hQuote, if_neg hEscape, if_neg hFeed, if_neg hReturn, if_neg hTab, if_neg hBack, if_neg hForm]
    by_cases hControl : c.toNat < 0x20
    · rw [if_pos hControl, unitsOf_of_lt asciiOnly (by omega)]
      exact scan_unitEscape (by omega) read s
    rw [if_neg hControl]
    by_cases hPlain : (decide (c.toNat < 0x7F) || !asciiOnly) = true
    · have hUnits : unitsOf asciiOnly c = [c.toNat] := by
        rcases Bool.or_eq_true_iff.mp hPlain with hAscii | hAny
        · exact unitsOf_of_lt asciiOnly (by have := of_decide_eq_true hAscii; omega)
        · simp only [Bool.not_eq_true'] at hAny
          simp [unitsOf, hAny]
      rw [if_pos hPlain, hUnits]
      exact scan_plainChar hQuote hEscape hControl read s
    rw [if_neg hPlain]
    by_cases hUnit : c.toNat < 0x10000
    · rw [if_pos hUnit, unitsOf_of_lt asciiOnly hUnit]
      exact scan_unitEscape hUnit read s
    · have hAscii : asciiOnly = true := by
        simp only [Bool.or_eq_true, not_or, Bool.not_eq_true', Bool.not_eq_false] at hPlain
        exact hPlain.2
      have hValid := toNat_lt c
      rw [if_neg hUnit, List.append_assoc, scan_unitEscape (by omega), scan_unitEscape (by omega)]
      simp [unitsOf, hAscii, Nat.not_lt.mp hUnit]

/-- A character is no half of a pair. -/
theorem not_half (c : Char) : isHigh c.toNat = false ∧ isLow c.toNat = false := by
  have hValid := c.valid
  simp only [UInt32.isValidChar, Nat.isValidChar] at hValid
  simp only [isHigh, isLow, Bool.and_eq_false_iff, decide_eq_false_iff_not, Char.toNat]
  omega

theorem ofUnits_cons_of_not_half {n : Nat} (hHigh : isHigh n = false) (hLow : isLow n = false) (standIn : Char) (rest : List Nat) :
    ofUnits (.standIn standIn) (n :: rest) = Char.ofNat n :: ofUnits (.standIn standIn) rest := by
  cases rest with
  | nil => simp [ofUnits, Halves.single, hHigh, hLow]
  | cons m rest => simp [ofUnits, Halves.single, hHigh, hLow]

/-- The units of a character make that character again, whatever stands for halves. -/
theorem ofUnits_unitsOf (standIn : Char) (asciiOnly : Bool) (c : Char) (rest : List Nat) :
    ofUnits (.standIn standIn) (unitsOf asciiOnly c ++ rest) = c :: ofUnits (.standIn standIn) rest := by
  rw [unitsOf]
  split
  · rename_i h
    simp only [Bool.and_eq_true, decide_eq_true_eq] at h
    have hValid := toNat_lt c
    have hHigh : isHigh (0xD800 + (c.toNat - 0x10000) / 0x400) = true := by
      simp only [isHigh, Bool.and_eq_true, decide_eq_true_eq]
      omega
    have hLow : isLow (0xDC00 + (c.toNat - 0x10000) % 0x400) = true := by
      simp only [isLow, Bool.and_eq_true, decide_eq_true_eq]
      omega
    have hValue : 0x10000 + (0xD800 + (c.toNat - 0x10000) / 0x400 - 0xD800) * 0x400 +
        (0xDC00 + (c.toNat - 0x10000) % 0x400 - 0xDC00) = c.toNat := by omega
    simp only [List.cons_append, List.nil_append]
    rw [ofUnits, hHigh, hLow, hValue, Char.ofNat_toNat]
    rfl
  · obtain ⟨hHigh, hLow⟩ := not_half c
    rw [List.singleton_append, ofUnits_cons_of_not_half hHigh hLow, Char.ofNat_toNat]

theorem scan_escapedText (asciiOnly : Bool) (text s : List Char) (read : List Nat) :
    scan halves (.text read) (text.flatMap (escaped asciiOnly) ++ s) =
      scan halves (.text ((text.flatMap (unitsOf asciiOnly)).reverse ++ read)) s := by
  induction text generalizing read with
  | nil => rfl
  | cons c text ih =>
    rw [List.flatMap_cons, List.append_assoc, scan_escaped, ih, List.flatMap_cons, List.reverse_append, List.append_assoc]

theorem ofUnits_text (standIn : Char) (asciiOnly : Bool) (text : List Char) :
    ofUnits (.standIn standIn) (text.flatMap (unitsOf asciiOnly)) = text := by
  induction text with
  | nil => rfl
  | cons c text ih => rw [List.flatMap_cons, ofUnits_unitsOf, ih]

/-- A printed text is one token, whatever stands for halves. -/
theorem scan_printText (standIn : Char) (style : Style) (text : String) (s : List Char) :
    scan (.standIn standIn) .between (printText style text ++ s) = .scalar (.str text) :: scan (.standIn standIn) .between s := by
  have hOpening : opening '"' = ([], .text []) := rfl
  rw [printText, List.cons_append, scan_between_cons, hOpening, List.nil_append, List.append_assoc, scan_escapedText, List.append_nil,
    List.singleton_append, scan, if_pos rfl, textToken, List.reverse_reverse, ofUnits_text, String.ofList_toList]

/-! ## Integers -/

theorem isWordChar_of_isDigit {c : Char} (h : c.isDigit = true) : isWordChar c = true := by
  simp [isWordChar, Char.isAlphanum, h]

theorem isWordChar_integerText {i : Int} {c : Char} (h : c ∈ integerText i) : isWordChar c = true := by
  rcases mem_integerText h with rfl | hDigit
  · decide
  · exact isWordChar_of_isDigit hDigit

/-- Digits of a number are an integer. -/
theorem numberToken_digitsOf (n : Nat) (negative : Bool) :
    numberToken negative (digitsOf n) = integerToken negative (digitsOf n) := by
  have hAll : ∀ c ∈ digitsOf n, c.isDigit = true := fun c hc => isDigit_digitsOf hc
  have hWhole : (if (digitsOf n).head? == some '0' then ['0'] else digitsOf n) = digitsOf n := by
    split
    · rename_i hZero
      exact (digitsOf_of_zero_first (eq_of_beq hZero)).symm
    · rfl
  have hEmpty : (digitsOf n).isEmpty = false := by
    rw [List.isEmpty_eq_false_iff]
    exact Nat.toDigits_ne_nil
  have hTaken : (digitsOf n).takeWhile Char.isDigit = digitsOf n := by
    rw [← List.append_nil (digitsOf n), List.takeWhile_append_of_pos hAll]
    simp
  have hDropped : (digitsOf n).dropWhile Char.isDigit = [] := by
    rw [← List.append_nil (digitsOf n), List.dropWhile_append_of_pos hAll]
    rfl
  simp only [numberToken, hTaken, hDropped, hWhole, hEmpty, Nat.lt_irrefl, if_false, Bool.false_eq_true]

/-- A word that holds a digit is none of the words without digits. -/
theorem ofList_ne_of_digit {w : List Char} {d : Char} (hMem : d ∈ w) (hDigit : d.isDigit = true) {word : String}
    (hWord : word.toList.all (!Char.isDigit ·) = true) : String.ofList w ≠ word := by
  rintro rfl
  rw [String.toList_ofList, List.all_eq_true] at hWord
  have hNot := hWord d hMem
  rw [hDigit] at hNot
  exact Bool.noConfusion hNot

/-- A word that holds a digit is a number. -/
theorem wordToken_of_digit {w : List Char} {d : Char} (hMem : d ∈ w) (hDigit : d.isDigit = true) (hFirst : w.head? ≠ some '-') :
    wordToken w = numberToken false w := by
  have hNe (word : String) (hWord : word.toList.all (!Char.isDigit ·) = true) : String.ofList w ≠ word :=
    ofList_ne_of_digit hMem hDigit hWord
  simp only [wordToken, if_neg (hNe "null" (by decide)), if_neg (hNe "true" (by decide)),
    if_neg (hNe "false" (by decide)), if_neg (hNe "NaN" (by decide)),
    if_neg (hNe "Infinity" (by decide)), if_neg (hNe "-Infinity" (by decide))]
  split
  · exact absurd rfl hFirst
  · rfl

/-- A word that holds a digit behind a minus is a negative number. -/
theorem wordToken_minus {w : List Char} {d : Char} (hMem : d ∈ w) (hDigit : d.isDigit = true) :
    wordToken ('-' :: w) = numberToken true w := by
  have hNe (word : String) (hWord : word.toList.all (!Char.isDigit ·) = true) : String.ofList ('-' :: w) ≠ word :=
    ofList_ne_of_digit (List.mem_cons_of_mem _ hMem) hDigit hWord
  simp only [wordToken, if_neg (hNe "null" (by decide)), if_neg (hNe "true" (by decide)),
    if_neg (hNe "false" (by decide)), if_neg (hNe "NaN" (by decide)),
    if_neg (hNe "Infinity" (by decide)), if_neg (hNe "-Infinity" (by decide))]

/-- A printed integer is the token of its sign and its digits. -/
theorem wordToken_integerText (i : Int) :
    wordToken (integerText i) = integerToken (decide (i < 0)) (digitsOf i.natAbs) := by
  obtain ⟨d, w, hDigits, hDigit⟩ := exists_digitsOf i.natAbs
  have hMem : d ∈ digitsOf i.natAbs := hDigits ▸ List.mem_cons_self ..
  rw [integerText]
  split
  · rename_i hSign
    rw [wordToken_minus hMem hDigit, numberToken_digitsOf, decide_eq_true hSign]
  · rename_i hSign
    have hFirst : (digitsOf i.natAbs).head? ≠ some '-' := by
      rw [hDigits, List.head?_cons, ne_eq, Option.some.injEq]
      rintro rfl
      exact absurd hDigit (by decide)
    rw [wordToken_of_digit hMem hDigit hFirst, numberToken_digitsOf, decide_eq_false hSign]

/-- A printed integer that is short is a number. -/
theorem wordToken_integerText_of_isShort {i : Int} (h : isShort i = true) : wordToken (integerText i) = .scalar (.int i) := by
  rw [wordToken_integerText, integerToken, if_neg (Nat.not_lt.mpr (of_decide_eq_true h)), digitsValue_digitsOf]
  by_cases hSign : i < 0
  · simp only [hSign, decide_true, if_true, Int.ofNat_eq_natCast, Token.scalar.injEq, Json.int.injEq]
    omega
  · simp only [hSign, decide_false, if_false, Bool.false_eq_true, Int.ofNat_eq_natCast, Token.scalar.injEq, Json.int.injEq]
    omega

/-- A printed integer that is not short is no token. -/
theorem wordToken_integerText_of_not_isShort {i : Int} (h : isShort i = false) :
    wordToken (integerText i) = .broken (.tooManyDigits (digitsOf i.natAbs).length) := by
  rw [wordToken_integerText, integerToken, if_pos (Nat.lt_of_not_le (of_decide_eq_false h))]

/-- A printed integer is one token where its word ends. -/
theorem scan_integerText (i : Int) {s : List Char} (hs : EndsWord s) :
    scan halves .between (integerText i ++ s) = wordToken (integerText i) :: scan halves .between s :=
  scan_between_word (integerText_ne_nil i) (fun _ hc => isWordChar_integerText hc) hs

end RanConsole.Json

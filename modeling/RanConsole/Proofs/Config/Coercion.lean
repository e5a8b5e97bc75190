import RanConsole.Config.Value
import RanConsole.Proofs.Mapping
import RanConsole.Proofs.Number.Reading

/-!
# What a typed value means

Every text means one scalar (`existsUnique_means`): a word for a truth value or null, an integer or a floating point number if it is a
numeral, else itself. A text is taken for what it means, unless it looks like an integer that cannot be read: a digit of it is no decimal
digit, or there are too many (`coerce_eq_ok_iff`). Then it is refused.
-/

namespace RanConsole.Config

/-! ## Texts that look like integers -/

theorem looksInteger_iff (s : List Char) :
    looksInteger s = true ↔ ∃ digits, Text.allDigits digits = true ∧ (s = digits ∨ s = '-' :: digits) := by
  have hMinus (digits : List Char) : Text.allDigits ('-' :: digits) = false := by
    have hDigit : Text.isDigitLike '-' = false := by decide
    rw [Text.allDigits, List.all_cons, hDigit, Bool.false_and, Bool.and_false]
  constructor
  · intro h
    unfold looksInteger at h
    split at h
    · exact ⟨_, h, Or.inr rfl⟩
    · exact ⟨_, h, Or.inl rfl⟩
  · rintro ⟨digits, hDigits, rfl | rfl⟩
    · rw [looksInteger]
      · exact hDigits
      · rintro body rfl
        rw [hMinus] at hDigits
        cases hDigits
    · exact hDigits

theorem isOk_readInteger_iff {text : String} {digits : List Char} (hDigits : Text.allDigits digits = true)
    (h : text.toList = digits ∨ text.toList = '-' :: digits) :
    (∃ i, readInteger text = .ok i) ↔ (∀ c ∈ digits, Numeral.isDecimal c = true) ∧ digits.length ≤ 4300 := by
  have hSpace : ∀ c ∈ digits, Numeral.isSpace c = false :=
    fun c hc => Numeral.not_isSpace_of_isDigitLike (Text.isDigitLike_of_allDigits hDigits c hc)
  rcases h with h | h
  · rw [readInteger, h]
    exact Numeral.isOk_integer_iff (Text.dropEndWhile_dropWhile_of_forall_not hSpace) (Numeral.signed_of_allDigits hDigits) hDigits
  · have hSpace' : ∀ c ∈ '-' :: digits, Numeral.isSpace c = false := List.forall_mem_cons.mpr ⟨by decide, hSpace⟩
    rw [readInteger, h]
    exact Numeral.isOk_integer_iff (Text.dropEndWhile_dropWhile_of_forall_not hSpace') rfl hDigits

/-- No word looks like an integer. -/
theorem notMem_words_of_looksInteger {text : String} (h : looksInteger text.toList = true) :
    lowerCase text ∉ Mapping.keys words := by
  have hFirst : ∃ c s, (lowerCase text).toList = c :: s ∧ (Text.isDigitLike c = true ∨ c = '-') := by
    rw [lowerCase, String.toList_ofList]
    obtain ⟨digits, hDigits, hText | hText⟩ := (looksInteger_iff _).mp h
    · rw [hText]
      cases digits with
      | nil => cases hDigits
      | cons c s =>
        have hc := Text.isDigitLike_of_allDigits hDigits c (List.mem_cons_self ..)
        rw [Text.lowerFrom, Text.lowerIn_of_isDigitLike hc]
        exact ⟨c, _, rfl, Or.inl hc⟩
    · have hMinus : Text.lowerIn [] '-' digits = ['-'] := by
        rw [Text.lowerIn, if_neg (by decide)]
        decide
      rw [hText, Text.lowerFrom, hMinus]
      exact ⟨'-', _, rfl, Or.inr rfl⟩
  obtain ⟨c, s, hLower, hc⟩ := hFirst
  have hWords : ∀ word ∈ Mapping.keys words,
      (word.toList.head?.map fun c => Text.isDigitLike c || c == '-').getD false = false := by decide
  intro hWord
  have hNot := hWords _ hWord
  rw [hLower] at hNot
  rcases hc with hc | rfl
  · simp [hc] at hNot
  · simp at hNot

/-! ## Meanings -/

/-- What a text means. -/
inductive Means (text : String) : Yaml.Scalar → Prop where
  /-- One of the words in any letter case. -/
  | word {x : Yaml.Scalar} (h : (lowerCase text, x) ∈ words) : Means text x
  /-- Digits after at most a minus that are read as an integer. -/
  | integer {i : Int} (hLooks : looksInteger text.toList = true) (h : readInteger text = .ok i) : Means text (.int i)
  /-- Another text that is read as a floating point number. -/
  | number {x : Binary64} (hWord : lowerCase text ∉ Mapping.keys words)
      (hInteger : looksInteger text.toList = true → ∀ i, readInteger text ≠ .ok i) (h : readNumber? text = some x) :
      Means text (.float x)
  /-- Any other text, which is no numeral. -/
  | itself (hWord : lowerCase text ∉ Mapping.keys words) (hInteger : ∀ i, readInteger text ≠ .ok i)
      (hNumber : readNumber? text = none) : Means text (.str text)

theorem mem_words_iff (word : String) (x : Yaml.Scalar) : (word, x) ∈ words ↔ words.lookup word = some x := by
  have hDistinct : Mapping.Distinct words := by
    unfold Mapping.Distinct
    decide
  rw [Mapping.lookup_eq_get?]
  exact ⟨Mapping.get?_of_mem hDistinct, Mapping.mem_of_get?⟩

theorem lookup_words_eq_none_iff (word : String) : words.lookup word = none ↔ word ∉ Mapping.keys words := by
  rw [List.lookup_eq_none_iff, Mapping.keys, List.mem_map, not_exists]
  exact forall_congr' fun entry => by rw [not_and, bne_iff_ne, ne_comm]

theorem readInteger_of_readNumber?_eq_none {text : String} (h : readNumber? text = none) (i : Int) : readInteger text ≠ .ok i := by
  intro hInteger
  have hNumber := Numeral.isSome_number?_of_integer hInteger
  rw [readNumber?] at h
  rw [h] at hNumber
  cases hNumber

/-- A text means one scalar and no other one. -/
theorem existsUnique_means (text : String) : ∃! x, Means text x := by
  by_cases hWord : lowerCase text ∈ Mapping.keys words
  · obtain ⟨⟨-, x⟩, hMem, rfl⟩ := List.mem_map.mp hWord
    refine ⟨x, .word hMem, fun y hy => ?_⟩
    cases hy with
    | word h => exact Option.some.inj (((mem_words_iff _ _).mp h).symm.trans ((mem_words_iff _ _).mp hMem))
    | integer hLooks _ => exact absurd hWord (notMem_words_of_looksInteger hLooks)
    | number hNot | itself hNot => exact absurd hWord hNot
  · have hNotWord {x : Yaml.Scalar} (h : (lowerCase text, x) ∈ words) : False := hWord (List.mem_map_of_mem h)
    by_cases hInteger : looksInteger text.toList = true ∧ ∃ i, readInteger text = .ok i
    · obtain ⟨hLooks, i, hi⟩ := hInteger
      refine ⟨.int i, .integer hLooks hi, fun y hy => ?_⟩
      cases hy with
      | word h => exact (hNotWord h).elim
      | integer _ h => rw [Except.ok.inj (h.symm.trans hi)]
      | number _ hNone _ => exact absurd hi (hNone hLooks i)
      | itself _ hNone _ => exact absurd hi (hNone i)
    · have hNone : looksInteger text.toList = true → ∀ i, readInteger text ≠ .ok i :=
        fun hLooks i hi => hInteger ⟨hLooks, i, hi⟩
      cases hNumber : readNumber? text with
      | some x =>
        refine ⟨.float x, .number hWord hNone hNumber, fun y hy => ?_⟩
        cases hy with
        | word h => exact (hNotWord h).elim
        | integer hLooks h => exact absurd h (hNone hLooks _)
        | number _ _ h => rw [Option.some.inj (h.symm.trans hNumber)]
        | itself _ _ h => cases h.symm.trans hNumber
      | none =>
        refine ⟨.str text, .itself hWord (readInteger_of_readNumber?_eq_none hNumber) hNumber, fun y hy => ?_⟩
        cases hy with
        | word h => exact (hNotWord h).elim
        | integer hLooks h => exact absurd h (hNone hLooks _)
        | number _ _ h => cases h.symm.trans hNumber
        | itself => rfl

/-! ## Texts that are refused -/

/-- A text that looks like an integer but cannot be read as one: it has a digit that is no decimal digit, or too many digits. -/
def IsRefused (text : String) : Prop :=
  ∃ digits, Text.allDigits digits = true ∧ (text.toList = digits ∨ text.toList = '-' :: digits) ∧
    ((∃ c ∈ digits, Text.decimalDigit? c = none) ∨ 4300 < digits.length)

theorem isRefused_iff (text : String) : IsRefused text ↔ looksInteger text.toList = true ∧ ∀ i, readInteger text ≠ .ok i := by
  have hBad {digits : List Char} (hDigits : Text.allDigits digits = true) (hText : text.toList = digits ∨ text.toList = '-' :: digits) :
      ((∃ c ∈ digits, Text.decimalDigit? c = none) ∨ 4300 < digits.length) ↔ ∀ i, readInteger text ≠ .ok i := by
    have hIff := not_congr (isOk_readInteger_iff hDigits hText)
    simpa [Numeral.isDecimal, imp_iff_not_or] using hIff.symm
  constructor
  · rintro ⟨digits, hDigits, hText, h⟩
    exact ⟨(looksInteger_iff _).mpr ⟨digits, hDigits, hText⟩, (hBad hDigits hText).mp h⟩
  · rintro ⟨hLooks, h⟩
    obtain ⟨digits, hDigits, hText⟩ := (looksInteger_iff _).mp hLooks
    exact ⟨digits, hDigits, hText, (hBad hDigits hText).mpr h⟩

/-- A text is taken for what it means, unless it is refused. -/
theorem coerce_eq_ok_iff (text : String) (x : Yaml.Scalar) : coerce text = .ok x ↔ Means text x ∧ ¬ IsRefused text := by
  rw [isRefused_iff]
  constructor
  · intro h
    rw [coerce] at h
    cases hWord : words.lookup (lowerCase text) with
    | some y =>
      simp only [hWord, Except.ok.injEq] at h
      subst h
      have hMem := (mem_words_iff _ _).mpr hWord
      exact ⟨.word hMem, fun hRefused => notMem_words_of_looksInteger hRefused.1 (List.mem_map_of_mem hMem)⟩
    | none =>
      have hNotWord := (lookup_words_eq_none_iff _).mp hWord
      simp only [hWord] at h
      split at h
      · rename_i hLooks
        cases hInteger : readInteger text with
        | error e => simp [hInteger, Except.map] at h
        | ok i =>
          simp only [hInteger, Except.map, Except.ok.injEq] at h
          subst h
          exact ⟨.integer hLooks hInteger, fun hRefused => hRefused.2 i rfl⟩
      · rename_i hLooks
        refine ⟨?_, fun hRefused => hLooks hRefused.1⟩
        cases hNumber : readNumber? text with
        | some y =>
          simp only [hNumber, Except.ok.injEq] at h
          subst h
          exact .number hNotWord (fun h => absurd h hLooks) hNumber
        | none =>
          simp only [hNumber, Except.ok.injEq] at h
          subst h
          exact .itself hNotWord (readInteger_of_readNumber?_eq_none hNumber) hNumber
  · rintro ⟨hMeans, hRefused⟩
    rw [coerce]
    cases hMeans with
    | word h => rw [(mem_words_iff _ _).mp h]
    | integer hLooks h =>
      rw [(lookup_words_eq_none_iff _).mpr (notMem_words_of_looksInteger hLooks), if_pos hLooks, h]
      rfl
    | number hWord hInteger h =>
      have hLooks : ¬ looksInteger text.toList = true := fun hLooks => hRefused ⟨hLooks, hInteger hLooks⟩
      rw [(lookup_words_eq_none_iff _).mpr hWord, if_neg hLooks, h]
    | itself hWord hInteger h =>
      have hLooks : ¬ looksInteger text.toList = true := fun hLooks => hRefused ⟨hLooks, hInteger⟩
      rw [(lookup_words_eq_none_iff _).mpr hWord, if_neg hLooks, h]

/-- A refused text fails as an integer. -/
theorem coerce_of_isRefused {text : String} (h : IsRefused text) : ∃ e, readInteger text = .error e ∧ coerce text = .error e := by
  obtain ⟨hLooks, hNone⟩ := (isRefused_iff text).mp h
  cases hInteger : readInteger text with
  | ok i => exact absurd hInteger (hNone i)
  | error e =>
    refine ⟨e, rfl, ?_⟩
    rw [coerce, (lookup_words_eq_none_iff _).mpr (notMem_words_of_looksInteger hLooks), if_pos hLooks, hInteger]
    rfl

/-- A superscript counts as a digit of a text and is none of an integer. -/
theorem exists_coerce_superscript_false : ¬ ∀ text, ∃ x, coerce text = .ok x ∧ Means text x := by
  intro h
  obtain ⟨x, hx, -⟩ := h "1²"
  have hError : (coerce "1²").toOption = none := by decide
  rw [hx] at hError
  cases hError

end RanConsole.Config

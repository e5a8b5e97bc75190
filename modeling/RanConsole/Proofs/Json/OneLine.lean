import RanConsole.Proofs.Json.Characters
import RanConsole.Proofs.Results

/-!
# Values on a line

A style that breaks no line and escapes no more than it has to writes a value on one line, unless a text in the value holds a character
that ends a line and is not escaped (`any_isLineEnd_print`). A line that is cut at such a character is no value (`exists_error_of_cut`),
and no line with an integer that is too long is one (`exists_error_of_not_hasShortIntegers`). So a value is read from its line if and
only if it fits on a line (`fitsLine`).
-/

namespace RanConsole.Json

/-! ## Values that fit on a line -/

/-- A character that ends a line and is written as it is. -/
def isBareEnd (c : Char) : Bool := Text.isLineEnd c && 0x20 ≤ c.toNat

/-- Whether no text in a value breaks the line. -/
def isUnbroken (v : Json) : Bool := !v.characters.any isBareEnd

/-- Whether a value is read from the line on which it is written. -/
def fitsLine (v : Json) : Bool := v.isUnbroken && v.hasShortIntegers

mutual

/-- A plain value with short integers can be read exactly. -/
theorem isExact_of_hasShortIntegers : ∀ {v : Json}, v.IsPlain → v.hasShortIntegers = true → v.IsExact
  | .null, _, _ | .bool _, _, _ | .str _, _, _ => trivial
  | .int _, _, hShort => hShort
  | .arr _, h, hShort => itemsExact_of_itemsShort h hShort
  | .obj _, h, hShort => ⟨h.1, membersExact_of_membersShort h.2 hShort⟩

theorem itemsExact_of_itemsShort : ∀ {items : List Json}, ItemsPlain items → itemsShort items = true → ItemsExact items
  | [], _, _ => trivial
  | _ :: _, h, hShort =>
    have hBoth := Bool.and_eq_true_iff.mp hShort
    ⟨isExact_of_hasShortIntegers h.1 hBoth.1, itemsExact_of_itemsShort h.2 hBoth.2⟩

theorem membersExact_of_membersShort :
    ∀ {members : List (String × Json)}, MembersPlain members → membersShort members = true → MembersExact members
  | [], _, _ => trivial
  | _ :: _, h, hShort =>
    have hBoth := Bool.and_eq_true_iff.mp hShort
    ⟨isExact_of_hasShortIntegers h.1 hBoth.1, membersExact_of_membersShort h.2 hBoth.2⟩

end

/-! ## Line ends in what is written -/

/-- A style that breaks no line and leaves every character as it is that it does not have to escape. -/
structure Style.IsOneLine (style : Style) : Prop where
  spaced : style.IsSpaced
  indent : style.indent = none
  items : style.itemSeparator.toList.any Text.isLineEnd = false
  keys : style.keySeparator.toList.any Text.isLineEnd = false
  bare : style.asciiOnly = false

theorem Style.compact_isOneLine : Style.compact.IsOneLine :=
  ⟨Style.compact_isSpaced, rfl, by decide, by decide, rfl⟩

theorem not_isLineEnd_of_isWordChar {c : Char} (h : isWordChar c = true) : Text.isLineEnd c = false :=
  not_isLineEnd_of_isBare (isBare_of_isWordChar h)

/-- A character is written as it is, unless neither it nor what is written for it ends a line. -/
theorem escaped_cases (c : Char) :
    escaped false c = [c] ∧ 0x20 ≤ c.toNat ∨ (escaped false c).any Text.isLineEnd = false ∧ isBareEnd c = false := by
  by_cases hLetter : c ∈ ['"', '\\', '\n', '\r', '\t', '\x08', '\x0C']
  · refine Or.inr ?_
    simp only [List.mem_cons, List.not_mem_nil, or_false] at hLetter
    rcases hLetter with rfl | rfl | rfl | rfl | rfl | rfl | rfl <;> decide
  · simp only [List.mem_cons, List.not_mem_nil, or_false, not_or] at hLetter
    obtain ⟨hQuote, hEscape, hFeed, hReturn, hTab, hBack, hForm⟩ := hLetter
    rw [escaped, if_neg hQuote, if_neg hEscape, if_neg hFeed, if_neg hReturn, if_neg hTab, if_neg hBack, if_neg hForm, isBareEnd]
    by_cases hControl : c.toNat < 0x20
    · have hDigits : ∀ n < 0x20, (unitEscape n).any Text.isLineEnd = false := by decide
      rw [if_pos hControl, decide_eq_false (Nat.not_le.mpr hControl), Bool.and_false]
      exact Or.inr ⟨hDigits _ hControl, rfl⟩
    · rw [if_neg hControl, if_pos (by simp)]
      exact Or.inl ⟨rfl, Nat.not_lt.mp hControl⟩

/-- A character is written with a line end if it is one and is written as it is. -/
theorem any_isLineEnd_escaped (c : Char) : (escaped false c).any Text.isLineEnd = isBareEnd c := by
  rcases escaped_cases c with ⟨hSame, hCode⟩ | ⟨hEscaped, hBare⟩
  · rw [hSame, isBareEnd, decide_eq_true hCode, Bool.and_true, List.any_cons, List.any_nil, Bool.or_false]
  · rw [hEscaped, hBare]

/-- A line end in what is written for a character is written as it is. -/
theorem isBareEnd_of_mem_escaped {c d : Char} (hd : d ∈ escaped false c) (hEnd : Text.isLineEnd d = true) : isBareEnd d = true := by
  rcases escaped_cases c with ⟨hSame, hCode⟩ | ⟨hEscaped, -⟩
  · rw [hSame, List.mem_singleton] at hd
    rw [isBareEnd, hEnd, hd, decide_eq_true hCode, Bool.and_true]
  · exact absurd hEnd (List.any_eq_false.mp hEscaped d hd)

/-- On one line the line ends of some kind come from the texts. -/
theorem Style.IsOneLine.avoids {style : Style} (h : style.IsOneLine) {p : Char → Bool} (hp : ∀ c, p c = true → Text.isLineEnd c = true) :
    style.Avoids p where
  indent := h.indent
  items := any_eq_false_of_imp hp h.items
  keys := any_eq_false_of_imp hp h.keys
  marks := any_eq_false_of_imp hp (by decide)
  words := fun c hc => Bool.eq_false_iff.mpr fun hpc => absurd (hp c hpc) (by rw [not_isLineEnd_of_isWordChar hc]; decide)

section

variable {style : Style} (hStyle : style.IsOneLine) {v : Json} (hPlain : v.IsPlain)
include hStyle hPlain

/-- A plain value is written on one line if no text in it breaks the line. -/
theorem any_isLineEnd_print (level : Nat) : (v.print style level).any Text.isLineEnd = !v.isUnbroken := by
  rw [any_print (hStyle.avoids fun _ h => h) v hPlain.isFormed, hStyle.bare, isUnbroken, Bool.not_not]
  simp only [any_isLineEnd_escaped]

/-- A line end in a plain value is written as it is. -/
theorem isBareEnd_of_mem_print {level : Nat} {c : Char} (hc : c ∈ v.print style level) (hEnd : Text.isLineEnd c = true) :
    isBareEnd c = true := by
  have hNone : (v.print style level).any (fun c => Text.isLineEnd c && !isBareEnd c) = false := by
    rw [any_print (hStyle.avoids fun _ h => (Bool.and_eq_true_iff.mp h).1) v hPlain.isFormed, hStyle.bare, List.any_eq_false]
    intro d _ hEscaped
    obtain ⟨e, he, hBoth⟩ := List.any_eq_true.mp hEscaped
    rw [Bool.and_eq_true_iff] at hBoth
    rw [isBareEnd_of_mem_escaped he hBoth.1] at hBoth
    exact absurd hBoth.2 (by decide)
  simpa [hEnd] using List.any_eq_false.mp hNone c hc

end

/-! ## Texts that are no values -/

theorem step_broken (limit : Nat) (state : State) (e : ReadError) : step limit state (.broken e) = .error e := by
  cases state with
  | complete v around => cases around with
    | nil => rfl
    | cons pending around => cases pending <;> rfl
  | _ => rfl

/-- No reader gets past a place where no token is possible. -/
theorem exists_error_steps {ts : List Token} {e : ReadError} (h : .broken e ∈ ts) (limit : Nat) (state : State) :
    ∃ fault, steps limit state ts = .error fault := by
  induction ts generalizing state with
  | nil => cases h
  | cons t ts ih =>
    rw [steps]
    cases hStep : step limit state t with
    | error fault => exact ⟨fault, rfl⟩
    | ok next =>
      rcases List.mem_cons.mp h with rfl | h
      · rw [step_broken] at hStep
        cases hStep
      · exact ih h next

theorem exists_error_of_broken {s : List Char} {e : ReadError} {how : Reading} (h : .broken e ∈ tokens how.halves s) :
    ∃ fault, readChars s how = .error fault := by
  obtain ⟨fault, hSteps⟩ := exists_error_steps h how.limit (.value [])
  refine ⟨fault, ?_⟩
  rw [readChars, ofTokens, hSteps]
  rfl

/-- Where no token is possible at a character, either the front of it ends inside a token, or the scan of the whole stops there. -/
theorem broken_of_cut {halves : Halves} {c : Char} (hOpening : opening c = ([.broken .malformed], .between)) (hWord : isWordChar c = false)
    (front back : List Char) :
    ∀ state : Scan, .broken .malformed ∈ scan halves state front ∨ .broken .malformed ∈ scan halves state (front ++ c :: back) := by
  induction front with
  | nil =>
    intro state
    cases state with
    | between =>
      refine Or.inr ?_
      rw [List.nil_append, scan_between_cons, hOpening]
      exact List.mem_cons_self ..
    | word read =>
      refine Or.inr ?_
      rw [List.nil_append, scan_word_of_endsWord (endsWord_cons back hWord), scan_between_cons, hOpening]
      exact List.mem_cons_of_mem _ (List.mem_cons_self ..)
    | text | escape | unit => exact Or.inl (List.mem_cons_self ..)
  | cons d front ih =>
    intro state
    cases state with
    | between =>
      rw [List.cons_append, scan_between_cons, scan_between_cons]
      exact (ih _).imp (List.mem_append_right _) (List.mem_append_right _)
    | word read =>
      rw [List.cons_append, scan_word_cons, scan_word_cons]
      split
      · exact ih _
      · exact (ih _).imp (fun h => List.mem_cons_of_mem _ (List.mem_append_right _ h)) fun h =>
          List.mem_cons_of_mem _ (List.mem_append_right _ h)
    | text read =>
      rw [List.cons_append, scan_text_cons, scan_text_cons]
      split
      · exact (ih _).imp (List.mem_cons_of_mem _) (List.mem_cons_of_mem _)
      · split
        · exact ih _
        · split
          · exact Or.inl (List.mem_cons_self ..)
          · exact ih _
    | escape read =>
      rw [List.cons_append, scan_escape_cons, scan_escape_cons]
      split
      · exact ih _
      · split
        · exact ih _
        · exact Or.inl (List.mem_cons_self ..)
    | unit read value digits =>
      rw [List.cons_append, scan_unit_cons, scan_unit_cons]
      split
      · split <;> exact ih _
      · exact Or.inl (List.mem_cons_self ..)

theorem opening_of_isBareEnd {c : Char} (h : isBareEnd c = true) :
    opening c = ([.broken .malformed], .between) ∧ isWordChar c = false := by
  simp only [isBareEnd, Text.isLineEnd, Bool.and_eq_true, Bool.or_eq_true, decide_eq_true_eq, beq_iff_eq] at h
  have hCases : c.toNat = 0x85 ∨ c.toNat = 0x2028 ∨ c.toNat = 0x2029 := by omega
  rw [← Char.ofNat_toNat c]
  rcases hCases with h | h | h <;> rw [h] <;> exact ⟨rfl, by decide⟩

/-! ## Tokens of plain values -/

theorem wordToken_integerText_ne_malformed (i : Int) : wordToken (integerText i) ≠ .broken .malformed := by
  cases hShort : isShort i with
  | true =>
    rw [wordToken_integerText_of_isShort hShort]
    exact nofun
  | false =>
    rw [wordToken_integerText_of_not_isShort hShort]
    exact nofun

mutual

/-- Nothing in a value breaks the syntax. -/
theorem malformed_notMem_valueTokens : ∀ (v : Json), .broken .malformed ∉ valueTokens v
  | .null | .bool _ | .float _ | .str _ => by simp [valueTokens]
  | .int i => by
    rw [valueTokens, List.mem_singleton]
    exact fun h => wordToken_integerText_ne_malformed i h.symm
  | .arr items => by
    have hItems := malformed_notMem_itemTokens items
    simp [valueTokens, hItems]
  | .obj members => by
    have hMembers := malformed_notMem_memberTokens members
    simp [valueTokens, hMembers]

theorem malformed_notMem_itemTokens : ∀ (items : List Json), .broken .malformed ∉ itemTokens items
  | [] => List.not_mem_nil
  | v :: rest => by
    have hValue := malformed_notMem_valueTokens v
    have hRest := malformed_notMem_itemTokens rest
    cases rest <;> simp_all [itemTokens]

theorem malformed_notMem_memberTokens : ∀ (members : List (String × Json)), .broken .malformed ∉ memberTokens members
  | [] => List.not_mem_nil
  | (_, v) :: rest => by
    have hValue := malformed_notMem_valueTokens v
    have hRest := malformed_notMem_memberTokens rest
    cases rest <;> simp_all [memberTokens]

end

mutual

/-- An integer that is not short is no token. -/
theorem exists_broken_of_not_hasShortIntegers : ∀ {v : Json}, v.hasShortIntegers = false → ∃ e, .broken e ∈ valueTokens v
  | .int i, h => by
    rw [valueTokens, wordToken_integerText_of_not_isShort h]
    exact ⟨_, List.mem_cons_self ..⟩
  | .arr items, h => by
    have hItems : itemsShort items = false := h
    obtain ⟨e, he⟩ := exists_broken_of_not_itemsShort hItems
    exact ⟨e, by simp [valueTokens, he]⟩
  | .obj members, h => by
    have hMembers : membersShort members = false := h
    obtain ⟨e, he⟩ := exists_broken_of_not_membersShort hMembers
    exact ⟨e, by simp [valueTokens, he]⟩

theorem exists_broken_of_not_itemsShort : ∀ {items : List Json}, itemsShort items = false → ∃ e, .broken e ∈ itemTokens items
  | v :: rest, h => by
    rw [itemsShort, Bool.and_eq_false_iff] at h
    rcases h with h | h
    · obtain ⟨e, he⟩ := exists_broken_of_not_hasShortIntegers h
      exact ⟨e, by simp [itemTokens, he]⟩
    · obtain ⟨e, he⟩ := exists_broken_of_not_itemsShort h
      exact ⟨e, by simp [itemTokens, he]⟩

theorem exists_broken_of_not_membersShort :
    ∀ {members : List (String × Json)}, membersShort members = false → ∃ e, .broken e ∈ memberTokens members
  | (_, v) :: rest, h => by
    rw [membersShort, Bool.and_eq_false_iff] at h
    rcases h with h | h
    · obtain ⟨e, he⟩ := exists_broken_of_not_hasShortIntegers h
      exact ⟨e, by simp [memberTokens, he]⟩
    · obtain ⟨e, he⟩ := exists_broken_of_not_membersShort h
      exact ⟨e, by simp [memberTokens, he]⟩

end

/-! ## Lines of values -/

theorem tokens_print {style : Style} (hStyle : style.IsSpaced) {v : Json} (hFormed : v.IsFormed style.ReadsFloat) (standIn : Char)
    (level : Nat) : tokens (.standIn standIn) (v.print style level) = valueTokens v := by
  have hTokens := scan_print standIn hStyle v hFormed level [] endsWord_nil
  rwa [List.append_nil, scan_nil, List.append_nil] at hTokens

/-- The line of a value that is cut at the end of a line is no value, for whatever reader. -/
theorem exists_error_of_cut {style : Style} (hStyle : style.IsOneLine) {v : Json} (hPlain : v.IsPlain) {level : Nat}
    {front back : List Char} {c : Char} (h : v.print style level = front ++ c :: back) (hEnd : isBareEnd c = true) (limit : Nat)
    (standIn : Char) : ∃ fault, readChars front { limit, halves := .standIn standIn } = .error fault := by
  obtain ⟨hOpening, hWord⟩ := opening_of_isBareEnd hEnd
  rcases broken_of_cut hOpening hWord front back .between with hFront | hWhole
  · exact exists_error_of_broken hFront
  · rw [← h] at hWhole
    have hTokens : .broken .malformed ∈ valueTokens v := tokens_print hStyle.spaced hPlain.isFormed standIn level ▸ hWhole
    exact absurd hTokens (malformed_notMem_valueTokens v)

/-- What is written for a value with an integer that is not short is no value, for whatever reader. -/
theorem exists_error_of_not_hasShortIntegers {style : Style} (hStyle : style.IsSpaced) {v : Json} (hFormed : v.IsFormed style.ReadsFloat)
    (hShort : v.hasShortIntegers = false) (level limit : Nat) (standIn : Char) :
    ∃ fault, readChars (v.print style level) { limit, halves := .standIn standIn } = .error fault := by
  obtain ⟨e, he⟩ := exists_broken_of_not_hasShortIntegers hShort
  exact exists_error_of_broken (tokens_print hStyle hFormed standIn level ▸ he)

end RanConsole.Json

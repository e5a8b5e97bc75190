import Mathlib.Data.List.DropRight
import RanConsole.Text.Blank

/-!
# Trimming

`trim` takes off the blanks at the two ends of a text and nothing else: blanks written around a text do not show after trimming,
and what stands between two characters that are not blank is kept as it is.
-/

namespace RanConsole.Text

theorem isBlankText_iff (s : List Char) : isBlankText s = true ↔ ∀ c ∈ s, isBlank c = true := by
  simp [isBlankText]

/-- Taking off at both ends leaves a text as it is when none of its characters is one to take off. -/
theorem dropEndWhile_dropWhile_of_forall_not {p : Char → Bool} {s : List Char} (h : ∀ c ∈ s, p c = false) :
    dropEndWhile p (s.dropWhile p) = s := by
  have hFront : ∀ t : List Char, (∀ c ∈ t, p c = false) → t.dropWhile p = t := by
    intro t ht
    cases t with
    | nil => rfl
    | cons c t => rw [List.dropWhile_cons, ht c (List.mem_cons_self ..), if_neg (by decide)]
  rw [dropEndWhile, hFront s h, hFront s.reverse fun c hc => h c (List.mem_reverse.mp hc), List.reverse_reverse]

/-! ## The beginning -/

/-- Leading characters are dropped up to one that has to stay. -/
theorem dropWhile_append_cons {p : Char → Bool} {c : Char} (hc : p c = false) (s t : List Char) :
    (s ++ c :: t).dropWhile p = s.dropWhile p ++ c :: t := by
  induction s with
  | nil => simp [hc]
  | cons a s ih =>
    rw [List.cons_append, List.dropWhile_cons, List.dropWhile_cons]
    split
    · exact ih
    · rfl

/-- Blanks in front of a text are trimmed away. -/
theorem trim_blanks_append {w : List Char} (hw : isBlankText w = true) (s : List Char) : trim (w ++ s) = trim s := by
  rw [trim, trim, List.dropWhile_append_of_pos ((isBlankText_iff w).1 hw)]

theorem trim_dropWhile (s : List Char) : trim (s.dropWhile isBlank) = trim s := by
  rw [trim, trim, List.dropWhile_idempotent]

/-! ## The end -/

/-- What is taken off the end reaches down to a character that has to stay. -/
theorem dropEndWhile_append_cons {p : Char → Bool} {c : Char} (hc : p c = false) (s : List Char) {w : List Char}
    (hw : ∀ d ∈ w, p d = true) : dropEndWhile p (s ++ c :: w) = s ++ [c] := by
  have hBehind : ∀ d ∈ w.reverse, p d = true := fun d hd => hw d (List.mem_reverse.mp hd)
  have hReverse : (s ++ c :: w).reverse = w.reverse ++ c :: s.reverse := by simp
  rw [dropEndWhile, hReverse, List.dropWhile_append_of_pos hBehind, List.dropWhile_cons, hc, if_neg (by decide)]
  simp

theorem trimEnd_prefix_self (s : List Char) : trimEnd s <+: s :=
  List.rdropWhile_prefix isBlank s

/-- Blanks behind a text are trimmed away. -/
theorem trimEnd_append_blanks {w : List Char} (hw : isBlankText w = true) (s : List Char) :
    trimEnd (s ++ w) = trimEnd s := by
  have h : ∀ c ∈ w.reverse, isBlank c = true := fun c hc => (isBlankText_iff w).1 hw c (List.mem_reverse.1 hc)
  rw [trimEnd, dropEndWhile, List.reverse_append, List.dropWhile_append_of_pos h]
  rfl

/-- Trimming the end goes no further than to a character that is not blank. -/
theorem trimEnd_append_cons {c : Char} (hc : isBlank c = false) (s t : List Char) :
    trimEnd (s ++ c :: t) = s ++ c :: trimEnd t := by
  have hr : (s ++ c :: t).reverse = t.reverse ++ c :: s.reverse := by simp
  rw [trimEnd, dropEndWhile, hr, dropWhile_append_cons hc]
  simp [trimEnd, dropEndWhile]

theorem trimEnd_of_isBlankText {s : List Char} (h : isBlankText s = true) : trimEnd s = [] := by
  have := trimEnd_append_blanks h []
  simpa [trimEnd, dropEndWhile] using this

/-- A text is blank, or it has a last character that is not. -/
theorem isBlankText_or_last (s : List Char) :
    isBlankText s = true ∨ ∃ a c w, s = a ++ c :: w ∧ isBlank c = false ∧ isBlankText w = true := by
  induction s with
  | nil => exact Or.inl rfl
  | cons x s ih =>
    rcases ih with hs | ⟨a, c, w, rfl, hc, hw⟩
    · cases hx : isBlank x with
      | true => exact Or.inl (by simpa [isBlankText, hx] using hs)
      | false => exact Or.inr ⟨[], x, s, rfl, hx, hs⟩
    · exact Or.inr ⟨x :: a, c, w, rfl, hc, hw⟩

/-- Trimming the end of two texts is trimming the second one, if that is not blank. -/
theorem trimEnd_append {t : List Char} (ht : isBlankText t = false) (s : List Char) : trimEnd (s ++ t) = s ++ trimEnd t := by
  rcases isBlankText_or_last t with h | ⟨a, c, w, rfl, hc, -⟩
  · rw [ht] at h
    cases h
  · rw [← List.append_assoc, trimEnd_append_cons hc, trimEnd_append_cons hc, List.append_assoc]

theorem trimEnd_trimEnd (s : List Char) : trimEnd (trimEnd s) = trimEnd s :=
  List.rdropWhile_idempotent isBlank s

/-- What trimming takes off the end of a text is blank. -/
theorem exists_blanks_behind (s : List Char) : ∃ w, isBlankText w = true ∧ s = trimEnd s ++ w := by
  rcases isBlankText_or_last s with hs | ⟨a, c, w, rfl, hc, hw⟩
  · exact ⟨s, hs, by rw [trimEnd_of_isBlankText hs, List.nil_append]⟩
  · refine ⟨w, hw, ?_⟩
    rw [trimEnd_append_cons hc, trimEnd_of_isBlankText hw, List.append_assoc]
    rfl

/-- The two ends are trimmed independently of one another. -/
theorem trim_trimEnd (s : List Char) : trim (trimEnd s) = trim s := by
  rcases isBlankText_or_last s with hs | ⟨a, c, w, rfl, hc, hw⟩
  · have h0 : s.dropWhile isBlank = [] := by simpa [List.dropWhile_eq_nil_iff] using (isBlankText_iff s).1 hs
    rw [trimEnd_of_isBlankText hs, trim, trim, h0]
    rfl
  · rw [trimEnd_append_cons hc, trimEnd_of_isBlankText hw, trim, trim, dropWhile_append_cons hc,
      dropWhile_append_cons hc, trimEnd_append_cons hc, trimEnd_append_cons hc, trimEnd_of_isBlankText hw]
    rfl

/-! ## Both ends -/

/-- What stands in front of a character that is not blank is trimmed at its beginning only, what stands behind it at its end. -/
theorem trim_append_cons {c : Char} (hc : isBlank c = false) (s t : List Char) :
    trim (s ++ c :: t) = s.dropWhile isBlank ++ c :: trimEnd t := by
  rw [trim, dropWhile_append_cons hc, trimEnd_append_cons hc]

theorem trim_append_blanks {w : List Char} (hw : isBlankText w = true) (s : List Char) : trim (s ++ w) = trim s := by
  rw [← trim_trimEnd (s ++ w), trimEnd_append_blanks hw, trim_trimEnd]

/-- What trimming takes off a text is blank and stands at its two ends. -/
theorem exists_blanks_around (s : List Char) :
    ∃ w w', isBlankText w = true ∧ isBlankText w' = true ∧ s = w ++ trim s ++ w' := by
  obtain ⟨w', hw', h⟩ := exists_blanks_behind (s.dropWhile isBlank)
  refine ⟨s.takeWhile isBlank, w', (isBlankText_iff _).2 fun c hc => List.mem_takeWhile_imp hc, hw', ?_⟩
  rw [trim, List.append_assoc, ← h, List.takeWhile_append_dropWhile]

theorem trim_infix_self (s : List Char) : trim s <:+: s := by
  obtain ⟨w, w', -, -, h⟩ := exists_blanks_around s
  exact ⟨w, w', h.symm⟩

theorem trim_of_forall_not_isBlank {s : List Char} (h : ∀ c ∈ s, isBlank c = false) : trim s = s :=
  dropEndWhile_dropWhile_of_forall_not h

theorem length_trim_le (s : List Char) : (trim s).length ≤ s.length := by
  obtain ⟨w, w', -, -, h⟩ := exists_blanks_around s
  have := congrArg List.length h
  simp only [List.length_append] at this
  omega

theorem trim_trim (s : List Char) : trim (trim s) = trim s := by
  obtain ⟨w, w', hw, hw', h⟩ := exists_blanks_around s
  conv_rhs => rw [h, trim_append_blanks hw', trim_blanks_append hw]

/-- A text that trimming leaves as it is does not end in blanks. -/
theorem eq_nil_of_trim_append_eq_self {s w : List Char} (hw : isBlankText w = true) (h : trim (s ++ w) = s ++ w) :
    w = [] := by
  have hlen := length_trim_le s
  rw [← trim_append_blanks hw, h, List.length_append] at hlen
  exact List.eq_nil_of_length_eq_zero (by omega)

/-- A text that trimming leaves as it is does not begin with a blank. -/
theorem not_isBlank_of_trim_eq_self {c : Char} {s : List Char} (h : trim (c :: s) = c :: s) : isBlank c = false := by
  cases hc : isBlank c with
  | false => rfl
  | true =>
    have h1 : trim (c :: s) = trim s := trim_blanks_append (w := [c]) (by simp [isBlankText, hc]) s
    have h2 := length_trim_le s
    rw [← h1, h, List.length_cons] at h2
    omega

/-- A blank text is nothing when it is trimmed. -/
theorem trim_eq_nil_iff (s : List Char) : trim s = [] ↔ isBlankText s = true := by
  constructor
  · intro h
    obtain ⟨w, w', hw, hw', hs⟩ := exists_blanks_around s
    rw [hs, h, List.append_nil, isBlankText, List.all_append, Bool.and_eq_true]
    exact ⟨hw, hw'⟩
  · intro h
    simpa [trim, trimEnd, dropEndWhile] using trim_append_blanks h []

end RanConsole.Text

namespace RanConsole

theorem trimmed_ofList_trim (s : List Char) : trimmed (String.ofList (Text.trim s)) = String.ofList (Text.trim s) := by
  rw [trimmed, String.toList_ofList, Text.trim_trim]

end RanConsole

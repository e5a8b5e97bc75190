import RanConsole.Proofs.Json.RoundTrip
import RanConsole.Text.Lines

/-!
# The characters of what is written

What is written on one line is made of marks, separators, words, and the characters of texts as they are escaped. So characters of a
kind that none of the others holds come from the texts (`any_print`). A style that escapes all that is not ASCII writes no other
characters and none that controls anything (`isBare_of_mem_print`).
-/

namespace RanConsole.Json

mutual

/-- The characters of the texts in a value, the keys among them. -/
def characters : Json → List Char
  | .str s => s.toList
  | .arr items => itemCharacters items
  | .obj members => memberCharacters members
  | .null | .bool _ | .int _ | .float _ => []

/-- The characters of the texts in items. -/
def itemCharacters : List Json → List Char
  | [] => []
  | v :: rest => v.characters ++ itemCharacters rest

/-- The characters of the keys of members and of the texts in their values. -/
def memberCharacters : List (String × Json) → List Char
  | [] => []
  | (key, v) :: rest => key.toList ++ v.characters ++ memberCharacters rest

end

/-! ## Characters of a kind -/

theorem any_eq_false_of_imp {p q : Char → Bool} (hp : ∀ c, p c = true → q c = true) {s : List Char} (h : s.any q = false) :
    s.any p = false := by
  rw [List.any_eq_false] at h ⊢
  exact fun c hc hpc => h c hc (hp c hpc)

/-- A style that writes on one line and no character of a kind, but for those in texts. -/
structure Style.Avoids (style : Style) (p : Char → Bool) : Prop where
  indent : style.indent = none
  items : style.itemSeparator.toList.any p = false
  keys : style.keySeparator.toList.any p = false
  marks : ['[', ']', '{', '}', '"'].any p = false
  words : ∀ c, isWordChar c = true → p c = false

section

variable {style : Style} {p : Char → Bool} (h : style.Avoids p)
include h

theorem Style.Avoids.mark {c : Char} (hc : c ∈ ['[', ']', '{', '}', '"']) : p c = false :=
  Bool.eq_false_iff.mpr (List.any_eq_false.mp h.marks c hc)

theorem any_word {w : List Char} (hw : ∀ c ∈ w, isWordChar c = true) : w.any p = false :=
  List.any_eq_false.mpr fun c hc => Bool.eq_false_iff.mp (h.words c (hw c hc))

theorem any_printText (s : String) : (printText style s).any p = s.toList.any fun c => (escaped style.asciiOnly c).any p := by
  rw [printText, List.any_cons, h.mark (by decide), Bool.false_or, List.any_append, List.any_cons, h.mark (by decide), List.any_nil,
    Bool.or_self, Bool.or_false, List.any_flatMap]

theorem any_joinWith (pieces : List (List Char)) :
    (Text.joinWith style.itemSeparator.toList pieces).any p = pieces.any (·.any p) := by
  induction pieces with
  | nil => rfl
  | cons piece pieces ih =>
    cases pieces with
    | nil => rw [Text.joinWith, List.any_cons, List.any_nil, Bool.or_false]
    | cons next pieces =>
      rw [Text.joinWith, List.any_append, List.any_append, h.items, Bool.or_false, ih, List.any_cons (a := piece)]

theorem any_bracketed (level : Nat) {opening closing : Char} (hOpening : p opening = false) (hClosing : p closing = false)
    (pieces : List (List Char)) : (bracketed style level opening closing pieces).any p = pieces.any (·.any p) := by
  have hBreak (level : Nat) : lineBreak style level = [] := by
    rw [lineBreak, h.indent]
  cases pieces with
  | nil => simp [bracketed, hOpening, hClosing]
  | cons piece pieces =>
    rw [bracketed]
    · simp only [hBreak, List.nil_append, List.append_nil, List.any_cons (a := opening), hOpening, hClosing, Bool.false_or, List.any_append,
        any_joinWith h, List.any_nil, List.any_cons (a := closing), Bool.or_false]
    · exact List.cons_ne_nil piece pieces

end

mutual

/-- The characters of the kind in what is written are those of the texts. -/
theorem any_print {style : Style} {p : Char → Bool} (h : style.Avoids p) :
    ∀ (v : Json), v.IsFormed style.ReadsFloat → ∀ level,
      (v.print style level).any p = v.characters.any fun c => (escaped style.asciiOnly c).any p
  | .null, _, _ => any_word h (w := "null".toList) (List.all_eq_true.mp (by decide))
  | .bool true, _, _ => any_word h (w := "true".toList) (List.all_eq_true.mp (by decide))
  | .bool false, _, _ => any_word h (w := "false".toList) (List.all_eq_true.mp (by decide))
  | .int i, _, _ => any_word h fun _ hc => isWordChar_integerText hc
  | .float _, hFormed, _ => any_word h hFormed.isWord
  | .str s, _, _ => any_printText h s
  | .arr items, hFormed, level => by
    rw [print, any_bracketed h level (h.mark (by decide)) (h.mark (by decide)), any_printItems h items hFormed, characters]
  | .obj members, hFormed, level => by
    rw [print, any_bracketed h level (h.mark (by decide)) (h.mark (by decide)), any_printMembers h members hFormed.2, characters]

theorem any_printItems {style : Style} {p : Char → Bool} (h : style.Avoids p) :
    ∀ (items : List Json), ItemsFormed style.ReadsFloat items → ∀ level,
      (printItems style level items).any (·.any p) = (itemCharacters items).any fun c => (escaped style.asciiOnly c).any p
  | [], _, _ => rfl
  | v :: rest, hFormed, level => by
    rw [printItems, List.any_cons, any_print h v hFormed.1, any_printItems h rest hFormed.2, itemCharacters, List.any_append]

theorem any_printMembers {style : Style} {p : Char → Bool} (h : style.Avoids p) :
    ∀ (members : List (String × Json)), MembersFormed style.ReadsFloat members → ∀ level,
      (printMembers style level members).any (·.any p) = (memberCharacters members).any fun c => (escaped style.asciiOnly c).any p
  | [], _, _ => rfl
  | (key, v) :: rest, hFormed, level => by
    rw [printMembers, List.any_cons, List.any_append, List.any_append, any_printText h, h.keys, Bool.or_false, any_print h v hFormed.1,
      any_printMembers h rest hFormed.2, memberCharacters, List.any_append, List.any_append]

end

/-! ## ASCII -/

/-- A character that stands in ASCII text as it is. -/
def isBare (c : Char) : Bool := 0x20 ≤ c.toNat && c.toNat < 0x7F

theorem not_isLineEnd_of_isBare {c : Char} (h : isBare c = true) : Text.isLineEnd c = false := by
  simp only [isBare, Bool.and_eq_true, decide_eq_true_eq] at h
  simp only [Text.isLineEnd, Bool.or_eq_false_iff, Bool.and_eq_false_iff, decide_eq_false_iff_not, beq_eq_false_iff_ne]
  omega

theorem isBare_of_isWordChar {c : Char} (h : isWordChar c = true) : isBare c = true := by
  have hRange (low high : Char) (hLow : 0x20 ≤ low.toNat) (hHigh : high.toNat < 0x7F) (hc : low.val ≤ c.val ∧ c.val ≤ high.val) :
      isBare c = true := by
    obtain ⟨hFrom, hTo⟩ := hc
    rw [UInt32.le_iff_toNat_le] at hFrom hTo
    simp only [isBare, Bool.and_eq_true, decide_eq_true_eq]
    exact ⟨Nat.le_trans hLow hFrom, Nat.lt_of_le_of_lt hTo hHigh⟩
  have hWord : ((decide (c.val ≥ 'A'.val ∧ c.val ≤ 'Z'.val) || (decide (c.val ≥ 'a'.val) && decide (c.val ≤ 'z'.val)) ||
      (decide (c.val ≥ '0'.val) && decide (c.val ≤ '9'.val))) || c == '-' || c == '+' || c == '.') = true := h
  simp only [Bool.or_eq_true, Bool.and_eq_true, decide_eq_true_eq, beq_iff_eq] at hWord
  rcases hWord with ((((hUpper | hLower) | hDigit) | rfl) | rfl) | rfl
  · exact hRange 'A' 'Z' (by decide) (by decide) hUpper
  · exact hRange 'a' 'z' (by decide) (by decide) hLower
  · exact hRange '0' '9' (by decide) (by decide) hDigit
  all_goals rfl

theorem isBare_of_mem_unitEscape {n : Nat} {c : Char} (h : c ∈ unitEscape n) : isBare c = true := by
  have hDigit : ∀ k < 16, isBare (Text.hexDigit k) = true := by decide
  have hDigits : Text.hexDigits 4 n = [Text.hexDigit (n / 16 / 16 / 16 % 16), Text.hexDigit (n / 16 / 16 % 16),
      Text.hexDigit (n / 16 % 16), Text.hexDigit (n % 16)] := rfl
  rw [unitEscape, hDigits] at h
  simp only [List.mem_cons, List.not_mem_nil, or_false] at h
  rcases h with rfl | rfl | rfl | rfl | rfl | rfl
  · rfl
  · rfl
  all_goals exact hDigit _ (Nat.mod_lt _ (by decide))

/-- Where all that is not ASCII is escaped, a character is written with bare characters. -/
theorem isBare_of_mem_escaped {c d : Char} (h : d ∈ escaped true c) : isBare d = true := by
  by_cases hLetter : c ∈ ['"', '\\', '\n', '\r', '\t', '\x08', '\x0C']
  · have hLetters : (['"', '\\', '\n', '\r', '\t', '\x08', '\x0C'].all fun e => (escaped true e).all isBare) = true := by decide
    exact List.all_eq_true.mp (List.all_eq_true.mp hLetters c hLetter) d h
  · simp only [List.mem_cons, List.not_mem_nil, or_false, not_or] at hLetter
    obtain ⟨hQuote, hEscape, hFeed, hReturn, hTab, hBack, hForm⟩ := hLetter
    rw [escaped, if_neg hQuote, if_neg hEscape, if_neg hFeed, if_neg hReturn, if_neg hTab, if_neg hBack, if_neg hForm] at h
    split at h
    · exact isBare_of_mem_unitEscape h
    · rename_i hControl
      split at h
      · rename_i hAscii
        simp only [Bool.not_true, Bool.or_false, decide_eq_true_eq] at hAscii
        rw [List.mem_singleton.mp h, isBare, decide_eq_true (Nat.not_lt.mp hControl), decide_eq_true hAscii]
        rfl
      · split at h
        · exact isBare_of_mem_unitEscape h
        · exact (List.mem_append.mp h).elim isBare_of_mem_unitEscape isBare_of_mem_unitEscape

theorem Style.line_avoids : Style.line.Avoids fun c => !isBare c :=
  ⟨rfl, by decide, by decide, by decide, fun c hc => by rw [isBare_of_isWordChar hc]; rfl⟩

/-- A value is written with bare characters on its line. -/
theorem isBare_of_mem_print {v : Json} (hFormed : v.IsFormed Style.line.ReadsFloat) {level : Nat} {c : Char}
    (hc : c ∈ v.print .line level) : isBare c = true := by
  have hNone : (v.print .line level).any (fun c => !isBare c) = false := by
    rw [any_print Style.line_avoids v hFormed, List.any_eq_false]
    intro d _ hEscaped
    obtain ⟨e, he, hNot⟩ := List.any_eq_true.mp hEscaped
    rw [isBare_of_mem_escaped he] at hNot
    cases hNot
  simpa using List.any_eq_false.mp hNone c hc

end RanConsole.Json

import Mathlib.Data.List.Basic
import RanConsole.Text.Utf8

/-!
# Octets that are UTF-8

The octets of a text are decoded as that text (`decodeFrom_encode`): the first octet of a character says how many follow and bounds the
next one, and each of those that follow is inside the bounds.
-/

namespace RanConsole.Text.Utf8

/-! ## Steps of the decoding -/

theorem decodeFrom_single {b : Nat} (h : first b = .single) (s : List Nat) :
    decodeFrom none (b :: s) = some (Char.ofNat b) :: decodeFrom none s := by
  rw [decodeFrom, h]

theorem decodeFrom_begins {b : Nat} {next : Begun} (h : first b = .begins next) (s : List Nat) :
    decodeFrom none (b :: s) = decodeFrom (some next) s := by
  rw [decodeFrom, h]

/-- An octet inside the bounds that is the last of its character. -/
theorem decodeFrom_last {value low high b : Nat} (h : low ≤ b ∧ b ≤ high) (s : List Nat) :
    decodeFrom (some { owed := 1, value, low, high }) (b :: s) =
      some (Char.ofNat (value * 0x40 + (b - 0x80))) :: decodeFrom none s := by
  simp only [decodeFrom, if_pos h, Nat.le_refl, if_true]

/-- An octet inside the bounds that is not the last of its character. -/
theorem decodeFrom_next {owed value low high b : Nat} (hOwed : 1 ≤ owed) (h : low ≤ b ∧ b ≤ high) (s : List Nat) :
    decodeFrom (some { owed := owed + 1, value, low, high }) (b :: s) =
      decodeFrom (some { owed, value := value * 0x40 + (b - 0x80) }) s := by
  have hMore : ¬ owed + 1 ≤ 1 := by omega
  simp only [decodeFrom, if_pos h, if_neg hMore, Nat.add_sub_cancel]

/-! ## First octets -/

theorem first_of_two {b : Nat} (h : 0xC2 ≤ b ∧ b ≤ 0xDF) : first b = .begins { owed := 1, value := b - 0xC0 } := by
  rw [first, if_neg (by omega), if_pos h]

/-- The first octet of a character of three octets. The bounds of the next one leave out what needs fewer octets and what is no
character. -/
theorem first_of_three {b : Nat} (h : 0xE0 ≤ b ∧ b ≤ 0xEF) :
    first b = .begins { owed := 2, value := b - 0xE0, low := if b = 0xE0 then 0xA0 else 0x80, high := if b = 0xED then 0x9F else 0xBF } := by
  rw [first, if_neg (by omega), if_neg (by omega)]
  by_cases hLow : b = 0xE0
  · subst hLow
    rfl
  · by_cases hHigh : b = 0xED
    · subst hHigh
      rfl
    · rw [if_neg hLow, if_neg hHigh, if_pos (by omega), if_neg hLow, if_neg hHigh]

/-- The first octet of a character of four octets. -/
theorem first_of_four {b : Nat} (h : 0xF0 ≤ b ∧ b ≤ 0xF4) :
    first b = .begins { owed := 3, value := b - 0xF0, low := if b = 0xF0 then 0x90 else 0x80, high := if b = 0xF4 then 0x8F else 0xBF } := by
  obtain rfl | rfl | rfl | rfl | rfl : b = 0xF0 ∨ b = 0xF1 ∨ b = 0xF2 ∨ b = 0xF3 ∨ b = 0xF4 := by omega
  all_goals rfl

/-! ## Characters and texts -/

/-- The octets of a character are decoded as that character. -/
theorem decodeFrom_encodeChar (c : Char) (s : List Nat) : decodeFrom none (encodeChar c ++ s) = some c :: decodeFrom none s := by
  have hValid : c.toNat < 0xD800 ∨ 0xDFFF < c.toNat ∧ c.toNat < 0x110000 := c.valid
  have hChar : c = Char.ofNat c.toNat := (Char.ofNat_toNat c).symm
  simp only [encodeChar]
  generalize c.toNat = n at hValid hChar ⊢
  subst hChar
  by_cases hOne : n < 0x80
  · rw [if_pos hOne]
    exact decodeFrom_single (by rw [first, if_pos (by omega)]) s
  rw [if_neg hOne]
  by_cases hTwo : n < 0x800
  · have hValue : (0xC0 + n / 0x40 - 0xC0) * 0x40 + (0x80 + n % 0x40 - 0x80) = n := by omega
    rw [if_pos hTwo]
    simp only [List.cons_append, List.nil_append]
    rw [decodeFrom_begins (first_of_two (by omega)), decodeFrom_last (by omega), hValue]
  rw [if_neg hTwo]
  by_cases hThree : n < 0x10000
  · have hValue : ((0xE0 + n / 0x1000 - 0xE0) * 0x40 + (0x80 + n / 0x40 % 0x40 - 0x80)) * 0x40 + (0x80 + n % 0x40 - 0x80) = n := by
      omega
    rw [if_pos hThree]
    simp only [List.cons_append, List.nil_append]
    rw [decodeFrom_begins (first_of_three (by omega)), decodeFrom_next (by omega) (by split <;> split <;> omega),
      decodeFrom_last (by omega), hValue]
  · have hValue : (((0xF0 + n / 0x40000 - 0xF0) * 0x40 + (0x80 + n / 0x1000 % 0x40 - 0x80)) * 0x40 +
        (0x80 + n / 0x40 % 0x40 - 0x80)) * 0x40 + (0x80 + n % 0x40 - 0x80) = n := by
      omega
    rw [if_neg hThree]
    simp only [List.cons_append, List.nil_append]
    rw [decodeFrom_begins (first_of_four (by omega)), decodeFrom_next (by omega) (by split <;> split <;> omega),
      decodeFrom_next (by omega) (by omega), decodeFrom_last (by omega), hValue]

/-- The octets of a text are decoded as that text. -/
theorem decodeFrom_encode (s : List Char) : decodeFrom none (encode s) = s.map some := by
  induction s with
  | nil => rfl
  | cons c s ih =>
    rw [encode, List.flatMap_cons, decodeFrom_encodeChar, List.map_cons, ← ih, encode]

end RanConsole.Text.Utf8

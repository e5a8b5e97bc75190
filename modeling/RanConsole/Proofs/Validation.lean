import RanConsole.Proofs.Json.Reading
import RanConsole.Proofs.Results
import RanConsole.Validation.Record

/-!
# What checks let through

A field that is found under one of its names is read from there (`required_of_finds`, `optional_of_finds`), and a field that is read comes
from a member of the record, or it is the default (`exists_of_required`, `exists_of_optional`). So it is with the items of lists. An
integer that is read from a value is short if the integers in the value are, whichever way it is written there
(`isShort_of_checkInteger`).
-/

namespace RanConsole.Validation

variable {α : Type} {members : List (String × Json)} {field : FieldName} {v : Json} {default a : α} {check : Json → Checked α}

/-! ## Fields -/

/-- The value of a field is found in a record, under one of its names. -/
def Finds (members : List (String × Json)) (field : FieldName) (v : Json) : Prop := ∃ name, field.find? members = some (name, v)

/-- A field is found under the name that messages use. -/
theorem finds_of_get? (h : Mapping.get? field.display members = some v) : Finds members field v := by
  obtain ⟨own, shared⟩ := field
  cases shared <;> simp_all [Finds, FieldName.find?, FieldName.display]

theorem optional_of_finds (h : Finds members field v) (hCheck : check v = .ok a) : optional members field default check = .ok a := by
  obtain ⟨name, h⟩ := h
  rw [Validation.optional, h]
  change (check v).under _ = _
  rw [hCheck]
  rfl

theorem required_of_finds (h : Finds members field v) (hCheck : check v = .ok a) : required members field check = .ok a := by
  obtain ⟨name, h⟩ := h
  rw [required, h]
  change (check v).under _ = _
  rw [hCheck]
  rfl

/-- A field is found under a name that stands in the record. -/
theorem get?_of_find? {name : String} (h : field.find? members = some (name, v)) : Mapping.get? name members = some v := by
  rw [FieldName.find?] at h
  split at h
  · rename_i found hShared
    cases h
    obtain ⟨shared, -, hFound⟩ := Option.bind_eq_some_iff.mp hShared
    obtain ⟨w, hGet, hSame⟩ := Option.map_eq_some_iff.mp hFound
    cases hSame
    exact hGet
  · obtain ⟨w, hGet, hSame⟩ := Option.map_eq_some_iff.mp h
    cases hSame
    exact hGet

theorem exists_of_required (h : required members field check = .ok a) :
    ∃ name v, Mapping.get? name members = some v ∧ check v = .ok a := by
  rw [required] at h
  split at h
  · rename_i name v hFind
    exact ⟨name, v, get?_of_find? hFind, ok_under h⟩
  · cases h

theorem exists_of_optional (h : optional members field default check = .ok a) :
    a = default ∨ ∃ name v, Mapping.get? name members = some v ∧ check v = .ok a := by
  rw [Validation.optional] at h
  split at h
  · rename_i name v hFind
    exact .inr ⟨name, v, get?_of_find? hFind, ok_under h⟩
  · exact .inl (Except.ok.inj h).symm

/-! ## Fields of two records -/

section

variable {members' : List (String × Json)} {name : String} {R : α → α → Prop} {T : Json → Json → Prop}

/-- A field is found alike in records that have the same under its names. -/
theorem find?_congr (hOwn : Mapping.get? field.own members = Mapping.get? field.own members')
    (hShared : ∀ name, field.shared = some name → Mapping.get? name members = Mapping.get? name members') :
    field.find? members = field.find? members' := by
  rw [FieldName.find?, FieldName.find?, hOwn]
  cases hName : field.shared with
  | none => rfl
  | some name => rw [Option.bind_some, Option.bind_some, hShared name hName]

theorem agree_required (h : Option.Rel T (Mapping.get? name members) (Mapping.get? name members'))
    (hCheck : ∀ v v', T v v' → Agree R (check v) (check v')) :
    Agree R (required members { own := name } check) (required members' { own := name } check) := by
  simp only [required, FieldName.find?, Option.bind_none]
  generalize Mapping.get? name members = found, Mapping.get? name members' = found' at h ⊢
  cases h with
  | none => exact .error ..
  | some h => exact (hCheck _ _ h).mapError

theorem agree_optional (h : Option.Rel T (Mapping.get? name members) (Mapping.get? name members'))
    (hCheck : ∀ v v', T v v' → Agree R (check v) (check v')) (hDefault : R default default) :
    Agree R (optional members { own := name } default check) (optional members' { own := name } default check) := by
  simp only [Validation.optional, FieldName.find?, Option.bind_none]
  generalize Mapping.get? name members = found, Mapping.get? name members' = found' at h ⊢
  cases h with
  | none => exact .ok hDefault
  | some h => exact (hCheck _ _ h).mapError

end

/-! ## Lists -/

theorem forall₂_of_all_itemsFrom {position : Nat} {items : List Json} {as : List α}
    (h : Checked.all (itemsFrom check position items) = .ok as) : List.Forall₂ (fun v a => check v = .ok a) items as := by
  induction items generalizing position as with
  | nil =>
    cases h
    exact .nil
  | cons v items ih =>
    rw [itemsFrom, Checked.all] at h
    obtain ⟨f, rest, hFirst, hRest, rfl⟩ := ok_ap h
    obtain ⟨a, ha, rfl⟩ := ok_map hFirst
    exact .cons (ok_under ha) (ih hRest)

theorem exists_of_list {as : List α} (h : list check v = .ok as) :
    ∃ items, v = .arr items ∧ List.Forall₂ (fun v a => check v = .ok a) items as := by
  cases v with
  | arr items => exact ⟨items, rfl, forall₂_of_all_itemsFrom h⟩
  | _ => cases h

/-- Items that are written one by one are read one by one. -/
theorem all_itemsFrom_map {f : α → Json} (h : ∀ a, check (f a) = .ok a) (position : Nat) (items : List α) :
    Checked.all (itemsFrom check position (items.map f)) = .ok items := by
  induction items generalizing position with
  | nil => rfl
  | cons a items ih =>
    rw [List.map_cons, itemsFrom, Checked.all, ih, h a]
    rfl

theorem list_texts (items : List String) : list (simple checkText) (.texts items) = .ok items :=
  all_itemsFrom_map (f := .str) (fun _ => rfl) 0 items

theorem list_integers (items : List Int) : list (simple checkInteger) (.arr (items.map .int)) = .ok items :=
  all_itemsFrom_map (f := .int) (fun _ => rfl) 0 items

theorem checkUnsigned_int (n : Nat) : simple checkUnsigned (.int n) = .ok n := by
  have hSign : ¬ (n : Int) < 0 := by omega
  change (if (n : Int) < 0 then Checked.fault .negative else .ok (n : Int).toNat) = _
  rw [if_neg hSign, Int.toNat_natCast]

/-! ## Short integers -/

theorem isDigit_of_strictDigits? {s : List Char} {negative : Bool} {digits : List Char} (h : strictDigits? s = some (negative, digits)) :
    ∀ c ∈ digits, c.isDigit = true := by
  simp only [strictDigits?] at h
  split at h
  · cases h
  · rename_i hDigits
    cases h
    simp only [Bool.or_eq_true, not_or, Bool.not_eq_true', Bool.not_eq_false] at hDigits
    exact List.all_eq_true.mp hDigits.1.2

/-- An integer that is read from a text has no more digits than are read. -/
theorem isShort_of_integerOfText {s : List Char} {i : Int} (h : integerOfText s = .ok i) : isShort i = true := by
  rw [integerOfText] at h
  split at h
  · rename_i negative digits hStrict
    split at h
    · cases h
    · rename_i hLength
      cases h
      exact Numeral.isShort_of_digitsValue (isDigit_of_strictDigits? hStrict) hLength negative
  · split at h
    · rename_i negative digits hClean
      obtain ⟨cleaned, -, hStrict⟩ := Option.bind_eq_some_iff.mp hClean
      split at h
      · cases h
      · rename_i hLength
        cases h
        exact Numeral.isShort_of_digitsValue (isDigit_of_strictDigits? hStrict) hLength negative
    · cases h

/-- An integer in a word is short. -/
theorem isShort_of_isWord {i : Int} (h : isWord i = true) : isShort i = true := by
  simp only [isWord, Bool.and_eq_true, decide_eq_true_eq] at h
  have hWord : i.natAbs < 10 ^ 19 := by omega
  exact (isShort_iff i).mpr (Nat.lt_of_lt_of_le hWord (Nat.pow_le_pow_right (by decide) (by decide)))

theorem isShort_of_wordOf? {x : Binary64} {i : Int} (h : wordOf? x = some i) : isShort i = true := by
  rw [wordOf?] at h
  split at h
  · obtain ⟨-, hWord⟩ := Option.filter_eq_some_iff.mp h
    simp only [Bool.and_eq_true] at hWord
    exact isShort_of_isWord hWord.1
  · cases h

/-- An integer that is read from a value with short integers is short. -/
theorem isShort_of_checkInteger {i : Int} (hShort : v.AllShort) (h : simple checkInteger v = .ok i) : isShort i = true := by
  cases v with
  | null => cases h
  | bool b =>
    cases h
    cases b <;> decide
  | int j =>
    cases h
    exact hShort i .here
  | float x =>
    change checkInteger (.float x) = .ok i at h
    rw [checkInteger] at h
    split at h
    · cases h
    · split at h
      · cases h
      · split at h
        · rename_i j hWord
          cases h
          exact isShort_of_wordOf? hWord
        · cases h
  | str s => exact isShort_of_integerOfText h
  | arr items => cases h
  | obj members => cases h

theorem isShort_of_checkUnsigned {n : Nat} (hShort : v.AllShort) (h : simple checkUnsigned v = .ok n) : isShort n = true := by
  obtain ⟨i, hInteger, h⟩ := ok_bind h
  split at h
  · cases h
  · rename_i hSign
    cases h
    rw [Int.toNat_of_nonneg (Int.not_lt.mp hSign)]
    exact isShort_of_checkInteger hShort hInteger

end RanConsole.Validation

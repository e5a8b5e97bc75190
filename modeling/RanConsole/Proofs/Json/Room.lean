import RanConsole.Json.Room
import RanConsole.Proofs.Json.RoundTrip

/-!
# Room to write values

A value with short integers is written in a JSON format if and only if there is room for its depth (`renderFault?_of_hasShortIntegers`), and
no other value is written (`renderFault?_eq_none_iff`).
-/

namespace RanConsole.Json

/-- Of two values that are side by side the deeper one decides whether there is room. -/
theorem tooDeep_or (m n room : Nat) :
    Option.or (if m ≤ room then none else some WriteError.tooDeep) (if n ≤ room then none else some .tooDeep) =
      if max m n ≤ room then none else some .tooDeep := by
  by_cases hFirst : m ≤ room
  · rw [if_pos hFirst, Option.none_or]
    simp only [Nat.max_le, hFirst, true_and]
  · rw [if_neg hFirst, Option.some_or, if_neg fun h => hFirst (Nat.max_le.mp h).1]

mutual

theorem fault?_of_hasShortIntegers :
    ∀ (v : Json) (room : Nat), v.hasShortIntegers = true → v.fault? false room = if v.depth ≤ room then none else some .tooDeep
  | .null, _, _ | .bool _, _, _ | .float _, _, _ | .str _, _, _ => by simp [fault?, depth]
  | .int i, _, hShort => by
    have hInteger : isShort i = true := hShort
    simp [fault?, depth, hInteger]
  | .arr _, 0, _ | .obj _, 0, _ => by simp [fault?, depth]
  | .arr items, room + 1, hShort => by
    have hItems := itemsFault?_of_itemsShort items room hShort
    simp [fault?, depth, hItems]
  | .obj members, room + 1, hShort => by
    have hMembers := membersFault?_of_membersShort members room hShort
    simp [fault?, depth, hMembers]

theorem itemsFault?_of_itemsShort :
    ∀ (items : List Json) (room : Nat), itemsShort items = true →
      itemsFault? false items room = if itemsDepth items ≤ room then none else some .tooDeep
  | [], _, _ => by simp [itemsFault?, itemsDepth]
  | v :: rest, room, hShort => by
    have hBoth := Bool.and_eq_true_iff.mp hShort
    have hValue := fault?_of_hasShortIntegers v room hBoth.1
    have hRest := itemsFault?_of_itemsShort rest room hBoth.2
    rw [itemsFault?, hValue, hRest, itemsDepth, tooDeep_or]

theorem membersFault?_of_membersShort :
    ∀ (members : List (String × Json)) (room : Nat), membersShort members = true →
      membersFault? false members room = if membersDepth members ≤ room then none else some .tooDeep
  | [], _, _ => by simp [membersFault?, membersDepth]
  | (_, v) :: rest, room, hShort => by
    have hBoth := Bool.and_eq_true_iff.mp hShort
    have hValue := fault?_of_hasShortIntegers v room hBoth.1
    have hRest := membersFault?_of_membersShort rest room hBoth.2
    rw [membersFault?, hValue, hRest, membersDepth, tooDeep_or]

end

mutual

theorem hasShortIntegers_of_fault?_eq_none {scalars : Bool} :
    ∀ (v : Json) (room : Nat), v.fault? scalars room = none → v.hasShortIntegers = true
  | .null, _, _ | .bool _, _, _ | .float _, _, _ | .str _, _, _ => rfl
  | .int i, room, h => by
    rw [fault?] at h
    split at h
    · cases h
    · rw [hasShortIntegers]
      simpa using h
  | .arr items, room + 1, h => itemsShort_of_itemsFault?_eq_none items room h
  | .obj members, room + 1, h => membersShort_of_membersFault?_eq_none members room h

theorem itemsShort_of_itemsFault?_eq_none {scalars : Bool} :
    ∀ (items : List Json) (room : Nat), itemsFault? scalars items room = none → itemsShort items = true
  | [], _, _ => rfl
  | v :: rest, room, h => by
    have hBoth := Option.or_eq_none_iff.mp h
    exact Bool.and_eq_true_iff.mpr
      ⟨hasShortIntegers_of_fault?_eq_none v room hBoth.1, itemsShort_of_itemsFault?_eq_none rest room hBoth.2⟩

theorem membersShort_of_membersFault?_eq_none {scalars : Bool} :
    ∀ (members : List (String × Json)) (room : Nat), membersFault? scalars members room = none → membersShort members = true
  | [], _, _ => rfl
  | (_, v) :: rest, room, h => by
    have hBoth := Option.or_eq_none_iff.mp h
    exact Bool.and_eq_true_iff.mpr
      ⟨hasShortIntegers_of_fault?_eq_none v room hBoth.1, membersShort_of_membersFault?_eq_none rest room hBoth.2⟩

end

/-- What keeps a value with short integers from being written is a want of room for its depth. -/
theorem renderFault?_of_hasShortIntegers {v : Json} (h : v.hasShortIntegers = true) (room : Nat) :
    v.renderFault? room = if v.depth ≤ room then none else some .tooDeep := fault?_of_hasShortIntegers v room h

/-- A value is written if and only if there is room for its depth and its integers are short. -/
theorem renderFault?_eq_none_iff {v : Json} {room : Nat} :
    v.renderFault? room = none ↔ v.depth ≤ room ∧ v.hasShortIntegers = true := by
  constructor
  · intro h
    have hShort := hasShortIntegers_of_fault?_eq_none v room h
    rw [renderFault?_of_hasShortIntegers hShort] at h
    exact ⟨by simpa using h, hShort⟩
  · rintro ⟨hDepth, hShort⟩
    rw [renderFault?_of_hasShortIntegers hShort, if_pos hDepth]

/-- A value is written in a style if and only if nothing keeps it from being written. -/
theorem renderWithin_eq_ok_iff {room : Nat} {style : Style} {v : Json} {line : String} :
    renderWithin room style v = .ok line ↔ v.renderFault? room = none ∧ v.render style = line := by
  rw [renderWithin]
  cases v.renderFault? room <;> simp

/-- What is shown in a cell or a message has short integers, so nothing is shown there that is kept from a JSON format by its integers. -/
theorem hasShortIntegers_of_textFault?_eq_none {v : Json} {room : Nat} (h : v.textFault? room = none) : v.hasShortIntegers = true := by
  cases v with
  | str s => rfl
  | null | bool | int | float | arr | obj => exact hasShortIntegers_of_fault?_eq_none _ room h

end RanConsole.Json

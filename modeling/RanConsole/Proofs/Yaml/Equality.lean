import RanConsole.Yaml.Basic

/-!
# Equality of YAML values

Two YAML values are compared part by part, and their keys as they were written (`isSame_iff`), so equality of documents can be decided.
-/

namespace RanConsole.Yaml

deriving instance DecidableEq for Key

mutual

/-- Whether two values are equal. -/
def isSame : Yaml → Yaml → Bool
  | .scalar a, .scalar b => a == b
  | .list items, .list items' => itemsSame items items'
  | .map entries, .map entries' => entriesSame entries entries'
  | .set members, .set members' => decide (members = members')
  | .pair first second, .pair first' second' => isSame first first' && isSame second second'
  | .shared part, .shared part' => part == part'
  | _, _ => false

/-- Whether two lists of values are equal. -/
def itemsSame : List Yaml → List Yaml → Bool
  | [], [] => true
  | v :: rest, v' :: rest' => isSame v v' && itemsSame rest rest'
  | _, _ => false

/-- Whether two mappings are equal, their order counted in. -/
def entriesSame : List (Key × Yaml) → List (Key × Yaml) → Bool
  | [], [] => true
  | (key, v) :: rest, (key', v') :: rest' => decide (key = key') && isSame v v' && entriesSame rest rest'
  | _, _ => false

end

mutual

theorem isSame_iff : ∀ v w : Yaml, isSame v w = true ↔ v = w
  | .scalar a, w => by cases w <;> simp [isSame]
  | .list items, w => by cases w <;> simp [isSame, itemsSame_iff]
  | .map entries, w => by cases w <;> simp [isSame, entriesSame_iff]
  | .set members, w => by cases w <;> simp [isSame]
  | .pair first second, w => by cases w <;> simp [isSame, isSame_iff]
  | .shared part, w => by cases w <;> simp [isSame]

theorem itemsSame_iff : ∀ items items' : List Yaml, itemsSame items items' = true ↔ items = items'
  | [], items' => by cases items' <;> simp [itemsSame]
  | v :: rest, items' => by cases items' <;> simp [itemsSame, isSame_iff v, itemsSame_iff rest]

theorem entriesSame_iff : ∀ entries entries' : List (Key × Yaml), entriesSame entries entries' = true ↔ entries = entries'
  | [], entries' => by cases entries' <;> simp [entriesSame]
  | (key, v) :: rest, entries' => by
    cases entries' with
    | nil => simp [entriesSame]
    | cons entry rest' => obtain ⟨key', v'⟩ := entry; simp [entriesSame, isSame_iff v, entriesSame_iff rest, and_assoc]

end

instance : DecidableEq Yaml := fun v w => decidable_of_iff _ (isSame_iff v w)

deriving instance DecidableEq for Document

end RanConsole.Yaml

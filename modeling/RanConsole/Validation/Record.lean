import RanConsole.Validation.Plain

/-!
# Reading records from JSON objects

A field of a record is looked for under its public name first, if it has one, and then under its own name. Members that no field
takes are passed over.
-/

namespace RanConsole.Validation

/-- The names of a field. -/
structure FieldName where
  own : String
  shared : Option String := none

/-- The name that stands for a field that is not there. -/
def FieldName.display (f : FieldName) : String := f.shared.getD f.own

/-- The value of a field with the name it was found under. -/
def FieldName.find? (f : FieldName) (members : List (String × Json)) : Option (String × Json) :=
  match f.shared.bind fun name => (Mapping.get? name members).map fun v => (name, v) with
  | some found => some found
  | none => (Mapping.get? f.own members).map fun v => (f.own, v)

/-- A field that has to be there. -/
def required {α : Type} (members : List (String × Json)) (f : FieldName) (check : Json → Checked α) : Checked α :=
  match f.find? members with
  | some (name, v) => (check v).under name
  | none => (Checked.fault .missing).under f.display

/-- A field with a value for the case that it is not there. -/
def optional {α : Type} (members : List (String × Json)) (f : FieldName) (default : α) (check : Json → Checked α) :
    Checked α :=
  match f.find? members with
  | some (name, v) => (check v).under name
  | none => .ok default

/-- A record, which comes as an object. -/
def record {α : Type} (check : List (String × Json) → Checked α) : Json → Checked α
  | .obj members => check members
  | _ => .fault .notAnObject

/-- A simple value. -/
def simple {α : Type} (check : Plain → Checked α) (v : Json) : Checked α := check (.ofJson v)

/-- The items of a list from the given position on, each under its position. -/
def itemsFrom {α : Type} (check : Json → Checked α) : (position : Nat) → List Json → List (Checked α)
  | _, [] => []
  | n, v :: rest => (check v).under (toString n) :: itemsFrom check (n + 1) rest

/-- A list. -/
def list {α : Type} (check : Json → Checked α) : Json → Checked (List α)
  | .arr items => Checked.all (itemsFrom check 0 items)
  | _ => .fault .notAList

/-- A mapping from texts. -/
def mapping {α : Type} (check : Json → Checked α) : Json → Checked (List (String × α))
  | .obj members => Checked.all (members.map fun (key, v) => ((check v).map fun a => (key, a)).under key)
  | _ => .fault .notAMapping

end RanConsole.Validation

import RanConsole.Validation.Record

/-!
# Events

A message of a stream says what has happened to the thing it carries.
-/

namespace RanConsole

/-- What has happened. -/
inductive EventType where
  | none
  | added
  | updated
  | removed
  deriving DecidableEq, Repr

/-- The words for what has happened. -/
def EventType.words : List (String × EventType) :=
  [("NONE", .none), ("ADDED", .added), ("UPDATED", .updated), ("REMOVED", .removed)]

/-- The word for what has happened. -/
def EventType.word : EventType → String
  | .none => "NONE"
  | .added => "ADDED"
  | .updated => "UPDATED"
  | .removed => "REMOVED"

/-- The field of a message that says what has happened. -/
def EventType.field (members : List (String × Json)) : Validation.Checked EventType :=
  Validation.optional members { own := "type" } .none (Validation.simple (Validation.checkChoice EventType.words))

end RanConsole

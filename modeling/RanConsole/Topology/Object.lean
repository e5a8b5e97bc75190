import RanConsole.Event
import RanConsole.Listing.Table
import RanConsole.Query.Compile

/-!
# Objects of the topology

Entities, relations between two entities, and the kinds of both, each with labels. In listings the labels of an object stand in
the order of their keys.
-/

namespace RanConsole.Topology

open Validation

/-- What an object is. -/
inductive ObjectClass where
  | entity
  | relation
  | kind
  deriving DecidableEq, Repr

/-- The words for what an object is. -/
def ObjectClass.words : List (String × ObjectClass) :=
  [("ENTITY", .entity), ("RELATION", .relation), ("KIND", .kind)]

/-- The type that a query for objects of the class asks for. -/
def ObjectClass.queryType : ObjectClass → Query.ObjectType
  | .entity => .entity
  | .relation => .relation
  | .kind => .kind

/-- The word for what an object is. -/
def ObjectClass.word (c : ObjectClass) : String := c.queryType.name

/-- An object of the topology. -/
structure Object where
  id : String
  type : ObjectClass := .entity
  labels : List (String × String) := []
  kindId : String := ""
  srcEntityId : String := ""
  tgtEntityId : String := ""
  name : String := ""
  deriving DecidableEq, Repr

/-- What has happened to an object. -/
structure ObjectEvent where
  type : EventType := .none
  object : Object
  deriving DecidableEq, Repr

namespace Object

/-- A text field that may be missing. -/
def textField (members : List (String × Json)) (f : FieldName) : Checked String :=
  optional members f "" (simple checkText)

/-- The object that a JSON value describes. -/
def ofJson : Json → Checked Object :=
  record fun members =>
    let id := required members { own := "id" } (simple checkText)
    let type := optional members { own := "type" } .entity (simple (checkChoice ObjectClass.words))
    let labels := optional members { own := "labels" } [] (mapping (simple checkText))
    let kindId := textField members { own := "kind_id", shared := some "kindId" }
    let source := textField members { own := "src_entity_id", shared := some "srcEntityId" }
    let target := textField members { own := "tgt_entity_id", shared := some "tgtEntityId" }
    let name := textField members { own := "name" }
    ((((((id.map Object.mk).ap type).ap labels).ap kindId).ap source).ap target).ap name

/-- The fields of an object with the labels as given. -/
def members (o : Object) (labels : Json) : Listing.Row :=
  [("id", .str o.id), ("type", .str o.type.word), ("labels", labels), ("kind_id", .str o.kindId),
   ("src_entity_id", .str o.srcEntityId), ("tgt_entity_id", .str o.tgtEntityId), ("name", .str o.name)]

/-- An object under its own field names. -/
def toJson (o : Object) : Json :=
  .obj (o.members (.obj (o.labels.map fun (k, v) => (k, .str v))))

/-- Whether a label comes before another one: by the keys, and of equal keys by the values. -/
def labelBefore (a b : String × String) : Bool :=
  if a.1 = b.1 then a.2 ≤ b.2 else a.1 ≤ b.1

/-- The labels in the order of their keys. -/
def sortedLabels (o : Object) : List (String × String) :=
  o.labels.mergeSort labelBefore

/-- The labels in one text. -/
def labelText (o : Object) : String :=
  Listing.commaJoined (o.sortedLabels.map fun (k, v) => k ++ "=" ++ v)

/-- The row of an object in a listing with the given columns. -/
def row (o : Object) (columns : Listing.Columns) : Listing.Row :=
  columns.map fun (c, _) => (c, (Mapping.get? c (o.members (.str o.labelText))).getD (.str ""))

end Object

/-- The event that a JSON value describes. -/
def ObjectEvent.ofJson : Json → Checked ObjectEvent :=
  record fun members =>
    ((EventType.field members).map ObjectEvent.mk).ap (required members { own := "object" } Object.ofJson)

/-- An event under its own field names. -/
def ObjectEvent.toJson (e : ObjectEvent) : Json :=
  .obj [("type", .str e.type.word), ("object", e.object.toJson)]

/-- The columns of a listing of objects. -/
def ObjectClass.columns : ObjectClass → Listing.Columns
  | .entity => [("id", 32), ("kind_id", 24), ("labels", 0)]
  | .relation => [("id", 32), ("kind_id", 16), ("src_entity_id", 24), ("tgt_entity_id", 24), ("labels", 0)]
  | .kind => [("id", 24), ("name", 24), ("labels", 0)]

/-- The columns of a stream of events. -/
def ObjectClass.eventColumns (c : ObjectClass) : Listing.Columns := ("event", 8) :: c.columns

/-- The row of an event in a stream. -/
def ObjectEvent.row (e : ObjectEvent) (columns : Listing.Columns) : Listing.Row :=
  ("event", .str e.type.word) :: e.object.row columns

end RanConsole.Topology

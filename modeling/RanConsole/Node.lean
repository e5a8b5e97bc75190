import RanConsole.Event
import RanConsole.Listing.Table

/-!
# Simulated nodes

A node of the simulated radio network with its number, its status, the service models it supports, the controllers it is
connected to and its cells. Messages use public names for some of the fields; both names are read, and either can be written.
-/

namespace RanConsole

open Validation

/-- A simulated node. -/
structure Node where
  enbid : Nat
  status : String := ""
  serviceModels : List String := []
  controllers : List String := []
  cellEcgis : List Int := []
  deriving DecidableEq, Repr

/-- What has happened to a node. -/
structure NodeEvent where
  type : EventType := .none
  node : Node
  deriving DecidableEq, Repr

namespace Node

/-- The field of the service models. -/
def serviceModelsField : FieldName := { own := "service_models", shared := some "serviceModels" }

/-- The field of the cells. -/
def cellsField : FieldName := { own := "cell_ecgis", shared := some "cellECGIs" }

/-- The node that a JSON value describes. -/
def ofJson : Json → Checked Node :=
  record fun members =>
    let enbid := required members { own := "enbid" } (simple checkUnsigned)
    let status := optional members { own := "status" } "" (simple checkText)
    let serviceModels := optional members serviceModelsField [] (list (simple checkText))
    let controllers := optional members { own := "controllers" } [] (list (simple checkText))
    let cells := optional members cellsField [] (list (simple checkInteger))
    ((((enbid.map Node.mk).ap status).ap serviceModels).ap controllers).ap cells

/-- A node under its own field names. -/
def toJson (n : Node) : Json :=
  .obj [("enbid", .int n.enbid), ("status", .str n.status), ("service_models", .texts n.serviceModels),
    ("controllers", .texts n.controllers), ("cell_ecgis", .arr (n.cellEcgis.map .int))]

/-- A node under the names that messages use. -/
def toMessage (n : Node) : Json :=
  .obj [("enbid", .int n.enbid), ("status", .str n.status), ("serviceModels", .texts n.serviceModels),
    ("controllers", .texts n.controllers), ("cellECGIs", .arr (n.cellEcgis.map .int))]

/-- The cells of a node in one text. -/
def cellText (n : Node) : String :=
  Listing.commaJoined (n.cellEcgis.map fun i => String.ofList (integerText i))

/-- The row of a node in a listing. -/
def row (n : Node) : Listing.Row :=
  [("enbid", .int n.enbid), ("status", .str n.status), ("service_models", .str (Listing.commaJoined n.serviceModels)),
   ("e2t_controllers", .str (Listing.commaJoined n.controllers)), ("cell_ecgis", .str n.cellText)]

/-- The record of a single node. -/
def details (n : Node) : Listing.Row :=
  [("enbid", .int n.enbid), ("status", .str n.status), ("service_models", .str (Listing.commaJoined n.serviceModels)),
   ("controllers", .str (Listing.commaJoined n.controllers)), ("cell_ecgis", .str n.cellText)]

/-- The columns of a listing of nodes. -/
def columns : Listing.Columns :=
  [("enbid", 16), ("status", 8), ("service_models", 16), ("e2t_controllers", 20), ("cell_ecgis", 0)]

end Node

/-- The event that a JSON value describes. -/
def NodeEvent.ofJson : Json → Checked NodeEvent :=
  record fun members =>
    ((EventType.field members).map NodeEvent.mk).ap (required members { own := "node" } Node.ofJson)

/-- An event under its own field names. -/
def NodeEvent.toJson (e : NodeEvent) : Json :=
  .obj [("type", .str e.type.word), ("node", e.node.toJson)]

end RanConsole

import RanConsole.Client.Connection
import RanConsole.Topology.Object

/-!
# The service of the topology

Listing and watching the objects that a query asks for.
-/

namespace RanConsole.Client.TopologyService

open Http

variable {σ α : Type}

/-- The path of the service. -/
def path : String := "/api/topo/v1"

/-- The members that say what a query asks for. -/
def queryMembers (type : Query.ObjectType) (filters : Query.Filters) : List (String × Json) :=
  ("filters", filters.toJson) :: (if type = .unspecified then [] else [("type", .str type.name)])

/-- The items of a value that can be gone through: a list, the keys of an object, or the characters of a text. -/
def itemsOf : Json → Except CallError (List Json)
  | .arr items => .ok items
  | .obj members => .ok ((Mapping.keys members).map .str)
  | .str s => .ok (s.toList.map fun c => .str c.toString)
  | _ => .error .wrongKind

/-- The objects that an answer holds; an answer without any is an empty list. -/
def objectsOf : Json → Except CallError (List Topology.Object)
  | .obj members => do
    let items ← itemsOf ((Mapping.get? "objects" members).getD (.arr []))
    items.mapM (accepted Topology.Object.ofJson)
  | _ => .error .notAnObject

/-- The objects of a query. -/
def list (server : Server σ) (c : Connection) (type : Query.ObjectType) (filters : Query.Filters) (x : Talk σ)
    (how : Json.Reading := {}) : Except CallError (List Topology.Object) × Talk σ :=
  let (answer, x) := call server c .post "/objects/list" (some (.obj (queryMembers type filters))) x how
  (answer.bind objectsOf, x)

/-- The lines that tell what happens to the objects of a query. -/
def watchLines (server : Server σ) (c : Connection) (type : Query.ObjectType) (filters : Query.Filters) (noReplay : Bool)
    (read : List Char → Except CallError α) (limit : Option Nat) (x : Talk σ) : (List α × Option CallError) × Talk σ :=
  stream server c .post "/objects/watch" none (some (.obj (queryMembers type filters ++ [("noReplay", .bool noReplay)]))) read limit x

/-- What happens to the objects of a query. -/
def watch (server : Server σ) (c : Connection) (type : Query.ObjectType) (filters : Query.Filters) (noReplay : Bool)
    (limit : Option Nat) (x : Talk σ) (how : Json.Reading := {}) : (List Topology.ObjectEvent × Option CallError) × Talk σ :=
  watchLines server c type filters noReplay (fun line => readLine Topology.ObjectEvent.ofJson line how) limit x

end RanConsole.Client.TopologyService

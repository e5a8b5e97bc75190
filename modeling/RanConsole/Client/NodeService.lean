import RanConsole.Client.Connection
import RanConsole.Node

/-!
# The service of the simulated nodes

The calls of the simulator: its network, the listing and watching of its nodes, and what can be done with a single node.
-/

namespace RanConsole.Client.NodeService

open Http

variable {σ α : Type}

/-- The path of the service. -/
def path : String := "/api/ransim/v1"

/-- The path of a node. -/
def nodePath (enbid : Int) : String := "/nodes/" ++ toString enbid

/-- The value as an integer, where texts, truth values and numbers with a fraction count too. -/
def integerOf : Json → Except CallError Int
  | .int i => .ok i
  | .bool b => .ok (if b then 1 else 0)
  | .float .nan => .error .notANumber
  | .float x =>
    match x.truncated? with
    | some i => .ok i
    | none => .error .infinite
  | .str s => (readInteger s).mapError .numeral
  | .null | .arr _ | .obj _ => .error .wrongKind

/-- A member that an answer has to have. -/
def memberOf (key : String) : Json → Except CallError Json
  | .obj members =>
    match Mapping.get? key members with
    | some v => .ok v
    | none => .error (.missingMember key)
  | _ => .error .wrongKind

/-- The node that an answer holds. -/
def nodeOf (v : Json) : Except CallError Node :=
  (memberOf "node" v).bind (accepted Node.ofJson)

/-- The identifier of the network. -/
def plmnId (server : Server σ) (c : Connection) (x : Talk σ) : Except CallError Int × Talk σ :=
  let (answer, x) := call server c .get "/plmnid" none x
  ((answer.bind (memberOf "plmnId")).bind integerOf, x)

/-- The lines that tell the nodes. -/
def listLines (server : Server σ) (c : Connection) (read : List Char → Except CallError α) (limit : Option Nat) (x : Talk σ) :
    (List α × Option CallError) × Talk σ :=
  stream server c .get "/nodes" none none read limit x

/-- The nodes, as the events of a stream tell them. -/
def list (server : Server σ) (c : Connection) (limit : Option Nat) (x : Talk σ) (how : Json.Reading := {}) :
    (List Node × Option CallError) × Talk σ :=
  let ((events, failure), x) := listLines server c (fun line => readLine NodeEvent.ofJson line how) limit x
  ((events.map NodeEvent.node, failure), x)

/-- The lines that tell what happens to the nodes. -/
def watchLines (server : Server σ) (c : Connection) (noReplay : Bool) (read : List Char → Except CallError α) (limit : Option Nat)
    (x : Talk σ) : (List α × Option CallError) × Talk σ :=
  stream server c .get "/nodes/watch" (some (if noReplay then "noReplay=true" else "noReplay=false")) none read limit x

/-- What happens to the nodes. -/
def watch (server : Server σ) (c : Connection) (noReplay : Bool) (limit : Option Nat) (x : Talk σ) (how : Json.Reading := {}) :
    (List NodeEvent × Option CallError) × Talk σ :=
  watchLines server c noReplay (fun line => readLine NodeEvent.ofJson line how) limit x

/-- The body of a request about a node. -/
def nodeBody (n : Node) : Json := .obj [("node", n.toMessage)]

/-- A new node. -/
def create (server : Server σ) (c : Connection) (n : Node) (x : Talk σ) : Except CallError Unit × Talk σ :=
  let (answer, x) := call server c .post "/nodes" (some (nodeBody n)) x
  (answer.map fun _ => (), x)

/-- A node by its number. -/
def get (server : Server σ) (c : Connection) (enbid : Int) (x : Talk σ) (how : Json.Reading := {}) :
    Except CallError Node × Talk σ :=
  let (answer, x) := call server c .get (nodePath enbid) none x how
  (answer.bind nodeOf, x)

/-- A node written over the one with its number. -/
def update (server : Server σ) (c : Connection) (n : Node) (x : Talk σ) : Except CallError Unit × Talk σ :=
  let (answer, x) := call server c .put (nodePath n.enbid) (some (nodeBody n)) x
  (answer.map fun _ => (), x)

/-- A node taken away. -/
def delete (server : Server σ) (c : Connection) (enbid : Int) (x : Talk σ) : Except CallError Unit × Talk σ :=
  let (answer, x) := call server c .delete (nodePath enbid) none x
  (answer.map fun _ => (), x)

/-- A command to the agent of a node. -/
def control (server : Server σ) (c : Connection) (enbid : Int) (command : String) (x : Talk σ)
    (how : Json.Reading := {}) : Except CallError Node × Talk σ :=
  let (answer, x) := call server c .post (nodePath enbid ++ "/agent") (some (.obj [("command", .str command)])) x how
  (answer.bind nodeOf, x)

end RanConsole.Client.NodeService

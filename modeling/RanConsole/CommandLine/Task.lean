import RanConsole.CommandLine.Switch
import RanConsole.Listing.Table
import RanConsole.Node
import RanConsole.Topology.Object

/-!
# Commands and tasks

The commands form a tree of groups. A command reads its arguments into a task, which says what is to be done. Values are checked in
the order of the options on the command line, then those of the arguments; arguments that are left over come last.
-/

namespace RanConsole.CommandLine

/-- The server and the token that are asked for. -/
structure Access where
  server : Option String := none
  token : Option String := none
  deriving DecidableEq, Repr

/-- The fields of a node that are given, and their values. -/
structure NodeEdits where
  cells : Option (List Int) := none
  serviceModels : Option (List String) := none
  controllers : Option (List String) := none
  deriving DecidableEq, Repr

/-- A node with the given fields replaced. -/
def NodeEdits.apply (e : NodeEdits) (n : Node) : Node :=
  { n with
    cellEcgis := e.cells.getD n.cellEcgis
    serviceModels := e.serviceModels.getD n.serviceModels
    controllers := e.controllers.getD n.controllers }

/-- A command to the agent of a node. -/
inductive AgentCommand where
  | start
  | stop
  deriving DecidableEq, Repr

/-- The word for a command to an agent. -/
def AgentCommand.word : AgentCommand → String
  | .start => "start"
  | .stop => "stop"

/-- A query for objects of the topology. -/
structure ObjectQuery where
  objects : Topology.ObjectClass
  label : String
  kind : String
  strict : Bool
  deriving DecidableEq, Repr

/-- What is to be done. -/
inductive Task where
  | plmnId (access : Access)
  | listNodes (watch : Bool) (style : Listing.Style) (access : Access)
  | createNode (enbid : Nat) (edits : NodeEdits) (quiet : Bool) (access : Access)
  | getNode (enbid : Nat) (format : Listing.Format) (access : Access)
  | updateNode (enbid : Nat) (edits : NodeEdits) (quiet : Bool) (access : Access)
  | deleteNode (enbid : Nat) (quiet : Bool) (access : Access)
  | controlNode (command : AgentCommand) (enbid : Nat) (access : Access)
  | getObjects (query : ObjectQuery) (watch : Bool) (style : Listing.Style) (access : Access)
  | showSettings
  | setSetting (key value : String)
  deriving DecidableEq, Repr

/-! ## Values -/

/-- The words for the forms of a listing. -/
def formatWords : List (String × Listing.Format) := [("table", .table), ("json", .json), ("csv", .csv)]

/-- The words for the forms of a single record. -/
def singleFormatWords : List (String × Listing.Format) := [("table", .table), ("json", .json)]

/-- The words for the levels of the log, as errors show them. -/
def levelWords : List String := ["debug", "info", "warning", "error"]

namespace Scanned

/-- The form asked for. -/
def format (words : List (String × Listing.Format)) (a : Scanned) : Except UsageError Listing.Format :=
  match a.value? .format with
  | none => .ok .table
  | some text =>
    match words.lookup text with
    | some f => .ok f
    | none => .error (.invalidValue Switch.format.display (.notAChoice text (words.map (·.1))))

/-- The level asked for, in any letter case. -/
def logLevel (a : Scanned) : Except UsageError (Option String) :=
  match a.value? .logLevel with
  | none => .ok none
  | some text =>
    if levelWords.contains (lowerCase text) then .ok (some (lowerCase text))
    else .error (.invalidValue Switch.logLevel.display (.notAChoice text levelWords))

/-- The cells given. -/
def cells (a : Scanned) : Except UsageError (Option (List Int)) :=
  match Options.unsignedList (a.values .cells) with
  | .ok numbers => .ok (if a.has .cells then some numbers else none)
  | .error e => .error (.invalidValue Switch.cells.display (.refused e))

/-- The items of an option that is given. -/
def items (s : Switch) (a : Scanned) : Option (List String) :=
  if a.has s then some (Options.list (a.values s)) else none

/-- The label query. -/
def label (a : Scanned) : Except UsageError String :=
  (Options.labelQuery (a.value? .label)).mapError fun e => .invalidValue Switch.label.display (.refused e)

/-- The fields of a node that are given. -/
def nodeEdits (a : Scanned) : Except UsageError NodeEdits := do
  return { cells := ← a.cells, serviceModels := a.items .serviceModels, controllers := a.items .controllers }

/-- The server and the token asked for. -/
def access (a : Scanned) : Access :=
  { server := a.value? .server, token := a.value? .token }

/-- The listing asked for. -/
def style (a : Scanned) : Except UsageError Listing.Style := do
  return { format := ← a.format formatWords, headers := !a.has .noHeaders }

/-- The check of the value of one option. -/
def checkSwitch (formats : List (String × Listing.Format)) (a : Scanned) : Switch → Except UsageError Unit
  | .format => (a.format formats).map fun _ => ()
  | .logLevel => a.logLevel.map fun _ => ()
  | .cells => a.cells.map fun _ => ()
  | .label => a.label.map fun _ => ()
  | _ => .ok ()

/-- The check of the options that are given, in their order. -/
def check (formats : List (String × Listing.Format)) (a : Scanned) : Except UsageError Unit :=
  a.given.forM fun (s, _) => a.checkSwitch formats s

end Scanned

/-- The number of a node. -/
def readEnbid (text : String) : Except UsageError Nat :=
  match readInteger text with
  | .error _ => .error (.invalidValue "'ENBID'" (.notAnInteger text))
  | .ok i => if i < 0 then .error (.invalidValue "'ENBID'" (.negative i)) else .ok i.toNat

/-- Nothing, where no argument is left. -/
def noMore : List String → Except UsageError Unit
  | [] => .ok ()
  | arguments => .error (.extraArguments arguments)

/-- A node's number as the only argument. -/
def enbidArgument : List String → Except UsageError Nat
  | [] => .error (.missingArgument "ENBID")
  | text :: rest => do
    let enbid ← readEnbid text
    noMore rest
    return enbid

/-! ## Commands -/

/-- The commands at the ends of the tree. -/
inductive Action where
  | plmnId
  | listNodes
  | createNode
  | getNode
  | updateNode
  | deleteNode
  | controlNode (command : AgentCommand)
  | getObjects (objects : Topology.ObjectClass)
  | showSettings
  | setSetting
  deriving DecidableEq, Repr

namespace Action

/-- The options of a command. -/
def switches : Action → List Switch
  | plmnId => [.server, .token, .help]
  | listNodes => [.noHeaders, .watch, .server, .token, .format, .help]
  | createNode | updateNode => [.cells, .serviceModels, .controllers, .server, .token, .quiet, .help]
  | getNode => [.server, .token, .format, .help]
  | deleteNode => [.server, .token, .quiet, .help]
  | controlNode _ => [.server, .token, .help]
  | getObjects _ => [.label, .kind, .strict, .noHeaders, .watch, .server, .token, .format, .help]
  | showSettings | setSetting => [.help]

/-- The arguments of a command. -/
def arguments : Action → List String
  | createNode | getNode | updateNode | deleteNode | controlNode _ => ["ENBID"]
  | setSetting => ["KEY", "VALUE"]
  | plmnId | listNodes | getObjects _ | showSettings => []

/-- The forms that a command can print. -/
def formats : Action → List (String × Listing.Format)
  | getNode => singleFormatWords
  | _ => formatWords

/-- The task of a command whose options have been checked. -/
def task (a : Scanned) : Action → Except UsageError Task
  | plmnId => do
    noMore a.arguments
    return .plmnId a.access
  | listNodes => do
    noMore a.arguments
    return .listNodes (a.has .watch) (← a.style) a.access
  | createNode => do
    let enbid ← enbidArgument a.arguments
    return .createNode enbid (← a.nodeEdits) (a.has .quiet) a.access
  | getNode => do
    let enbid ← enbidArgument a.arguments
    return .getNode enbid (← a.format singleFormatWords) a.access
  | updateNode => do
    let enbid ← enbidArgument a.arguments
    return .updateNode enbid (← a.nodeEdits) (a.has .quiet) a.access
  | deleteNode => do
    let enbid ← enbidArgument a.arguments
    return .deleteNode enbid (a.has .quiet) a.access
  | controlNode command => do
    let enbid ← enbidArgument a.arguments
    return .controlNode command enbid a.access
  | getObjects objects => do
    noMore a.arguments
    let label ← a.label
    let query : ObjectQuery := { objects, label, kind := (a.value? .kind).getD "", strict := a.has .strict }
    return .getObjects query (a.has .watch) (← a.style) a.access
  | showSettings => do
    noMore a.arguments
    return .showSettings
  | setSetting =>
    match a.arguments with
    | [] => .error (.missingArgument "KEY")
    | [_] => .error (.missingArgument "VALUE")
    | key :: value :: rest => do
      noMore rest
      return .setSetting key value

end Action

/-- A tree of commands. -/
inductive Command where
  | action (a : Action)
  | group (members : List (String × Command))

/-- The commands for the simulated nodes. -/
def nodeCommands : List (String × Command) :=
  [("plmnid", .action .plmnId), ("nodes", .action .listNodes),
   ("create", .group [("node", .action .createNode)]),
   ("get", .group [("node", .action .getNode)]),
   ("update", .group [("node", .action .updateNode)]),
   ("delete", .group [("node", .action .deleteNode)]),
   ("start", .action (.controlNode .start)), ("stop", .action (.controlNode .stop))]

/-- The word for objects of a class. -/
def objectsWord : Topology.ObjectClass → String
  | .entity => "entities"
  | .relation => "relations"
  | .kind => "kinds"

/-- The commands for the topology. -/
def topologyCommands : List (String × Command) :=
  [("get", .group (([.entity, .relation, .kind] : List Topology.ObjectClass).map fun c =>
    (objectsWord c, .action (.getObjects c))))]

/-- The commands for the settings. -/
def settingCommands : List (String × Command) :=
  [("show", .action .showSettings), ("set", .action .setSetting)]

/-- All commands. -/
def commands : List (String × Command) :=
  [("ransim", .group nodeCommands), ("topo", .group topologyCommands), ("config", .group settingCommands)]

/-- The name of the program. -/
def programName : String := "rancli"

/-- The place of the command that gets objects of a class. -/
def objectsPlace (c : Topology.ObjectClass) : Place := ⟨[programName, "topo", "get", objectsWord c], []⟩

/-! ## Reading -/

/-- Why reading the arguments ends without a task. -/
inductive Stop where
  | usage (place : Place) (e : UsageError)
  | help (place : Place)
  /-- A group without arguments. -/
  | noArguments (place : Place)
  | version
  deriving DecidableEq, Repr

/-- The place of a group. -/
def groupPlace (words : List String) : Place := ⟨words, ["COMMAND", "[ARGS]..."]⟩

/-- The options that come before all others. -/
def firstOf (place : Place) (a : Scanned) : Except Stop Unit :=
  match a.given.find? fun (s, _) => s = .help ∨ s = .version with
  | some (.version, _) => .error .version
  | some _ => .error (.help place)
  | none => .ok ()

/-- The arguments at a place with their options checked. -/
def scanAt (place : Place) (known : List Switch) (formats : List (String × Listing.Format)) (ofGroup : Bool)
    (arguments : List String) : Except Stop Scanned := do
  let a ← (scan known ofGroup arguments).mapError (.usage place)
  firstOf place a
  (a.check formats).mapError (.usage place)
  return a

/-- The options of a group, the word for the member that is meant, and what follows it. -/
def readGroup (words : List String) (known : List Switch) (arguments : List String) :
    Except Stop (Scanned × String × List String) := do
  let place := groupPlace words
  if arguments.isEmpty then .error (.noArguments place)
  let a ← scanAt place known [] true arguments
  match a.arguments with
  | [] => .error (.usage place .missingCommand)
  | word :: rest => return (a, word, rest)

/-- The error about a word that is no member of a group. A word with a dash in front is read as an option then. -/
def noMember (words : List String) (known : List Switch) (word : String) (rest : List String) : Stop :=
  let place := groupPlace words
  match scanAt place known [] true (word :: rest) with
  | .error stop => stop
  | .ok _ => .usage place (.noSuchCommand word)

mutual

/-- The task of a command at a place in the tree. -/
def readCommand (words : List String) : Command → List String → Except Stop Task
  | .action action, arguments => do
    let place : Place := ⟨words, action.arguments⟩
    let a ← scanAt place action.switches action.formats false arguments
    (action.task a).mapError (.usage place)
  | .group members, arguments => do
    let (_, word, rest) ← readGroup words [.help] arguments
    readMember words word rest members

/-- The task of a member of a group. -/
def readMember (words : List String) (word : String) (rest : List String) : List (String × Command) → Except Stop Task
  | [] => .error (noMember words [.help] word rest)
  | (name, command) :: others =>
    if name = word then readCommand (words ++ [name]) command rest else readMember words word rest others

end

/-- The options of the program itself. -/
def programSwitches : List Switch := [.version, .logLevel, .logJson, .help]

/-- What the options of the program ask of the log. -/
structure LogOptions where
  level : Option String
  json : Bool
  deriving DecidableEq, Repr

/-- The options of the program, and the command that is meant with the word for it and its arguments. -/
def readProgram (arguments : List String) : Except Stop (LogOptions × String × Command × List String) := do
  let (a, word, rest) ← readGroup [programName] programSwitches arguments
  match commands.lookup word with
  | none => .error (noMember [programName] programSwitches word rest)
  | some command =>
    let level ← a.logLevel.mapError (.usage (groupPlace [programName]))
    return ({ level, json := a.has .logJson }, word, command, rest)

end RanConsole.CommandLine

import RanConsole.Client.NodeService
import RanConsole.Client.TopologyService
import RanConsole.CommandLine.Shown
import RanConsole.CommandLine.Task
import RanConsole.Config.Store
import RanConsole.Console
import RanConsole.Log.Setup

/-!
# Runs

A run reads its arguments, the settings and, once the log is set up, the arguments of the command; then it does its task. It ends
with an exit code, or with an error that nobody takes care of. What a call is to blame the server or the connection for is told to
the user; what has been received of a stream by then has been printed, and so has what stands in front of a message that cannot be encoded.
-/

namespace RanConsole.CommandLine

open Config

variable {σ α : Type}

/-- An error that nobody takes care of. -/
inductive Crash where
  | settings (e : LoadError)
  | call (e : CallError)
  | numeral (e : NumeralError)
  | write (e : Yaml.WriteError)
  deriving Repr

/-- How a run ends. -/
inductive Ending where
  | exit (code : Nat)
  | crash (c : Crash)
  deriving Repr

/-- What a run has printed and how it ends. -/
structure Report where
  out : String := ""
  err : String := ""
  ending : Ending := .exit 0
  deriving Repr

namespace Report

/-- Messages printed on the standard output. -/
def printed (messages : List String) : Report := { out := Console.lines messages }

/-- Messages printed on the error output, and an exit code. -/
def failed (code : Nat) (messages : List String) : Report := { err := Console.lines messages, ending := .exit code }

/-- An error that nobody takes care of. -/
def crashed (c : Crash) : Report := { ending := .crash c }

end Report

/-- The exit code of a run that has failed. -/
def failureCode : Nat := 1

/-- The exit code of a run whose arguments are wrong. -/
def usageCode : Nat := 2

/-- The version of the program. -/
def versionText : String := programName ++ ", version 0.1.0"

/-- The report of a run whose arguments hold no task. -/
def Stop.report : Stop → Report
  | .usage place e => .failed usageCode (e.complaint place)
  | .help place => .printed [place.usage]
  | .noArguments place => .failed usageCode [place.usage]
  | .version => .printed [versionText]

/-- The report of a run without settings. -/
def loadReport (e : LoadError) : Report :=
  match e.failure? with
  | some f => .failed failureCode ["Error: " ++ f.text]
  | none => .crashed (.settings e)

/-! ## Calls -/

/-- The variable that holds the address of the server. -/
def serverVariable : String := "RANCLI_SERVER_URL"

/-- The variable that holds the token. -/
def tokenVariable : String := "RANCLI_TOKEN"

/-- What holds for the calls of a run. -/
structure Surroundings where
  clock : Log.Clock
  log : Log.Setup
  settings : Settings
  environment : Environment

namespace Surroundings

/-- The value of a variable, if it is not empty. -/
def value? (s : Surroundings) (name : String) : Option String :=
  (Mapping.get? name s.environment).filter (· ≠ "")

/-- The address of the server: as asked for, else from the environment, else from the settings. -/
def server (s : Surroundings) (a : Access) : String :=
  (a.server <|> s.value? serverVariable).getD s.settings.server.url

/-- The token: as asked for, else from the environment, else from the settings. -/
def token (s : Surroundings) (a : Access) : Option String :=
  a.token <|> s.value? tokenVariable <|> s.settings.server.token

/-- The connection to a service. -/
def connection (s : Surroundings) (a : Access) (service : String) : Client.Connection :=
  { baseUrl := s.server a, token := s.token a, timeout := .exact s.settings.server.timeout
    maxRetries := s.settings.server.maxRetries, service }

/-- What the log shows of records. -/
def logged (s : Surroundings) (records : List Log.Record) : String := s.log.emitAll s.clock records

/-- The record of a call that a problem has ended. -/
def callRecord (server : String) (p : Problem) : Log.Record :=
  { level := Log.debugLevel, logger := "rancli.cli.utils", message := "API call to " ++ server ++ " failed"
    problem := some p }

/-- The report on a call: what the log shows, what has been printed, and how the call has failed, if it has. Some commands take an
interruption for their end. -/
def report (s : Surroundings) (a : Access) (endsWhenInterrupted : Bool) (records : List Log.Record) (messages : List String)
    (failure : Option CallError) : Report :=
  let soFar : Report := { out := Console.lines messages, err := s.logged records }
  match failure with
  | none => soFar
  | some .interrupted =>
    if endsWhenInterrupted then soFar
    else { soFar with err := soFar.err ++ "\nAborted!\n", ending := .exit failureCode }
  | some e =>
    match e.reported? with
    | some p =>
      let complaint := Console.line (p.complaint (s.server a))
      { soFar with
        err := soFar.err ++ complaint ++ s.logged [callRecord (s.server a) p], ending := .exit failureCode }
    | none => { soFar with ending := .crash (.call e) }

/-- The report on a single call, of which only a result is printed. -/
def reportResult (s : Surroundings) (a : Access) (endsWhenInterrupted : Bool) (records : List Log.Record)
    (lines : α → List String) : Except CallError α → Report
  | .ok v => s.report a endsWhenInterrupted records (lines v) none
  | .error e => s.report a endsWhenInterrupted records [] (some e)

/-- The report on what is shown of the texts in a result. -/
def reportShown (s : Surroundings) (a : Access) (endsWhenInterrupted : Bool) (records : List Log.Record) (format : Listing.Format)
    (lines : α → List String) (result : Json.Reading → Except CallError α) : Report :=
  let (messages, failure) := shown format lines result
  s.report a endsWhenInterrupted records messages failure

/-! ## Tasks -/

/-- The calls of a task on a server and the report on them. -/
structure Performed (σ : Type) where
  report : Report
  talk : Client.Talk σ

/-- A single call of the node service performed, and what is printed of its result. -/
def nodeCall (s : Surroundings) (a : Access) (call : Client.Connection → Client.Talk σ → Except CallError α × Client.Talk σ)
    (lines : α → List String) (x : Client.Talk σ) : Performed σ :=
  let (result, x) := call (s.connection a Client.NodeService.path) x
  ⟨s.reportResult a false x.log lines result, x⟩

/-- A node with some fields replaced: read, changed and written back. A half in a field that is left as it was cannot be sent. -/
def editNode (server : Http.Server σ) (enbid : Nat) (edits : NodeEdits) (c : Client.Connection) (x : Client.Talk σ) :
    Except CallError Unit × Client.Talk σ :=
  match Client.NodeService.get server c enbid x below with
  | (.error e, x) => (.error e, x)
  | (.ok n, y) =>
    if (Client.NodeService.get server c enbid x above).1.toOption.map edits.apply = some (edits.apply n) then
      Client.NodeService.update server c (edits.apply n) y
    else (.error .unencodable, y)

/-- A single node as it is printed. -/
def nodeLines (format : Listing.Format) (n : Node) : List String := Listing.printSingle format n.details

/-- A call of the node service for a single node performed and the node shown. -/
def showNode (s : Surroundings) (a : Access) (format : Listing.Format)
    (call : Client.Connection → Json.Reading → Client.Talk σ → Except CallError Node × Client.Talk σ) (x : Client.Talk σ) :
    Performed σ :=
  let result (how : Json.Reading) := call (s.connection a Client.NodeService.path) how x
  let y := (result below).2
  ⟨s.reportShown a false y.log format (nodeLines format) fun how => (result how).1, y⟩

/-- What is printed about a node that has been changed. -/
def changed (quiet : Bool) (enbid : Nat) (what : String) (_ : Unit) : List String :=
  Listing.printSuccess quiet ("Node " ++ toString enbid ++ " " ++ what)

/-- What is shown of a line that tells of a node. -/
def nodeMessages (style : Listing.Style) : List Char → Except CallError (List String) :=
  lineMessages style.format NodeEvent.ofJson fun e => Listing.streamRow style e.node.row Node.columns

/-- The listing of the nodes, or of what happens to them. -/
def listNodes (s : Surroundings) (server : Http.Server σ) (watch : Bool) (style : Listing.Style) (a : Access)
    (x : Client.Talk σ) : Performed σ :=
  let c := s.connection a Client.NodeService.path
  let ((rows, failure), x) :=
    if watch then Client.NodeService.watchLines server c false (nodeMessages style) none x
    else Client.NodeService.listLines server c (nodeMessages style) none x
  ⟨s.report a true x.log (Listing.streamHeader style Node.columns ++ rows.flatten) failure, x⟩

/-- The listing of objects. -/
def listObjects (s : Surroundings) (server : Http.Server σ) (objects : Topology.ObjectClass) (filters : Query.Filters)
    (records : List Log.Record) (style : Listing.Style) (a : Access) (x : Client.Talk σ) : Performed σ :=
  let c := s.connection a Client.TopologyService.path
  let result (how : Json.Reading) := Client.TopologyService.list server c objects.queryType filters x how
  let columns := objects.columns
  let table (found : List Topology.Object) : List String :=
    Listing.printTable style (found.map (·.row columns)) (some (Mapping.keys columns))
  let y := (result below).2
  ⟨s.reportShown a true (records ++ y.log) style.format table fun how => (result how).1, y⟩

/-- What is shown of a line that tells of an object. -/
def objectMessages (style : Listing.Style) (objects : Topology.ObjectClass) : List Char → Except CallError (List String) :=
  lineMessages style.format Topology.ObjectEvent.ofJson fun e => Listing.streamRow style (e.row objects.columns) objects.eventColumns

/-- The listing of what happens to objects. -/
def watchObjects (s : Surroundings) (server : Http.Server σ) (objects : Topology.ObjectClass) (filters : Query.Filters)
    (records : List Log.Record) (style : Listing.Style) (a : Access) (x : Client.Talk σ) : Performed σ :=
  let c := s.connection a Client.TopologyService.path
  let ((rows, failure), x) :=
    Client.TopologyService.watchLines server c objects.queryType filters false (objectMessages style objects) none x
  ⟨s.report a true (records ++ x.log) (Listing.streamHeader style objects.eventColumns ++ rows.flatten) failure, x⟩

/-- The objects of a query, or what happens to them. Nothing is sent for a query that is refused. -/
def getObjects (s : Surroundings) (server : Http.Server σ) (q : ObjectQuery) (watch : Bool) (style : Listing.Style) (a : Access)
    (x : Client.Talk σ) : Performed σ :=
  match Query.compile q.objects.queryType q.label q.kind q.strict with
  | .error e =>
    ⟨(Stop.usage (objectsPlace q.objects) (.invalidValue (quoted Switch.label.name) (.filter e))).report, x⟩
  | .ok (filters, records) =>
    if watch then s.watchObjects server q.objects filters records style a x
    else s.listObjects server q.objects filters records style a x

end Surroundings

/-- The current settings as they are printed, which are kept from then on. -/
def showSettings (store : Store) : Report × Store :=
  match store.reload with
  | (.ok settings, store) => (.printed [settings.display], store)
  | (.error e, store) => (loadReport e, store)

/-- A setting written to the configuration file. -/
def setSetting (store : Store) (key value : String) : Report × Store :=
  let (result, store) := store.set key value
  let report :=
    match result with
    | .ok written =>
      .printed ["Set " ++ key ++ " = " ++ display written.value, "Config saved to: " ++ written.path]
    | .error (.load e) => loadReport e
    | .error (.blocked k) => .failed failureCode ["Error: Cannot set nested key under non-dict value at '" ++ k ++ "'"]
    | .error (.numeral e) => .crashed (.numeral e)
    | .error (.write e) => .crashed (.write e)
  (report, store)

/-- What a run leaves behind: its report, the configuration, and what has happened between it and the server. -/
structure Done (σ : Type) where
  report : Report
  store : Store
  talk : Client.Talk σ

/-- A task done. -/
def perform (server : Http.Server σ) (s : Surroundings) (store : Store) (x : Client.Talk σ) (task : Task) : Done σ :=
  let call (p : Surroundings.Performed σ) : Done σ := ⟨p.report, store, p.talk⟩
  match task with
  | .plmnId a => call (s.nodeCall a (Client.NodeService.plmnId server) (fun i => [toString i]) x)
  | .listNodes watch style a => call (s.listNodes server watch style a x)
  | .createNode enbid edits quiet a =>
    call (s.nodeCall a (fun c => Client.NodeService.create server c (edits.apply { enbid }))
      (Surroundings.changed quiet enbid "created") x)
  | .getNode enbid format a =>
    call (s.showNode a format (fun c how x => Client.NodeService.get server c enbid x how) x)
  | .updateNode enbid edits quiet a =>
    call (s.nodeCall a (Surroundings.editNode server enbid edits) (Surroundings.changed quiet enbid "updated") x)
  | .deleteNode enbid quiet a =>
    call (s.nodeCall a (fun c => Client.NodeService.delete server c enbid) (Surroundings.changed quiet enbid "deleted") x)
  | .controlNode command enbid a =>
    call (s.showNode a .table (fun c how x => Client.NodeService.control server c enbid command.word x how) x)
  | .getObjects query watch style a => call (s.getObjects server query watch style a x)
  | .showSettings => let (report, store) := showSettings store; ⟨report, store, x⟩
  | .setSetting key value => let (report, store) := setSetting store key value; ⟨report, store, x⟩

/-- The log as the options of the program and the settings ask for it. -/
def logSetup (options : LogOptions) (settings : LogSettings) : Log.Setup :=
  let start : Log.Setup := {}
  match start.configure (options.level.getD settings.level.word) (options.json || settings.jsonFormat) with
  | .ok log => log
  | .error _ => start

/-- A run with the given arguments. -/
def run (server : Http.Server σ) (clock : Log.Clock) (arguments : List String) (store : Store) (start : σ) : Done σ :=
  let x : Client.Talk σ := .start start
  match readProgram arguments with
  | .error stop => ⟨stop.report, store, x⟩
  | .ok (options, word, command, rest) =>
    match store.settings with
    | (.error e, store) => ⟨loadReport e, store, x⟩
    | (.ok settings, store) =>
      match readCommand [programName, word] command rest with
      | .error stop => ⟨stop.report, store, x⟩
      | .ok task =>
        let surroundings : Surroundings :=
          { clock, log := logSetup options settings.log, settings, environment := store.environment }
        perform server surroundings store x task

end RanConsole.CommandLine

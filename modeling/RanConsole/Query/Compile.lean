import RanConsole.Log.Record
import RanConsole.Query.Clause
import RanConsole.Text.Quoted

/-!
# Compiling queries

A query compiles to the filters of its clauses, in their order. A clause without an operator is dropped, or refused when the
query is strict; a list that is empty or not closed is always refused. A kind query gives no filters, and a warning says that it
is ignored. A query that is refused leaves no trace in the log.
-/

namespace RanConsole.Query

/-- What a query compiles to. -/
structure Compilation where
  filters : List Filter := []
  /-- The clauses without an operator, in their order; empty clauses are not counted. -/
  dropped : List String := []
  supported : Bool := true
  deriving DecidableEq, Repr

/-- A clause put in front of a compilation. -/
def Compilation.add (clause : String) (filter : Option Filter) (c : Compilation) : Compilation :=
  match filter with
  | some f => { c with filters := f :: c.filters }
  | none => if clause = "" then c else { c with dropped := clause :: c.dropped }

/-- The compilation of a list of clauses. The first clause that is refused counts. -/
def compileClauses (compile : String → Except FilterError (Option Filter)) : List String → Except FilterError Compilation
  | [] => .ok {}
  | clause :: rest => do
    let filter ← compile clause
    return (← compileClauses compile rest).add clause filter

/-- The compilation of a label query. -/
def labelResult (query : String) : Except FilterError Compilation :=
  compileClauses compileLabel (splitClauses query)

/-- The compilation of a kind query, which drops every clause. -/
def kindResult (query : String) : Compilation :=
  { filters := (splitClauses query).filterMap compileKind
    dropped := (splitClauses query).filter fun clause => (compileKind clause).isNone && clause ≠ ""
    supported := false }

/-- The logger of the query compiler. -/
def loggerName : String := "rancli.cli.filter_parser"

/-- The record of a dropped clause. -/
def droppedRecord (clause : String) : Log.Record :=
  { level := Log.debugLevel, logger := loggerName
    message := "Dropping unrecognized label filter clause " ++ quoted clause }

/-- The filters of a label query and what the log says about it. -/
def compileLabels (query : String) (strict : Bool) : Except FilterError (List Filter × List Log.Record) := do
  let result ← labelResult query
  match strict, result.dropped with
  | true, clause :: _ => .error (.unrecognized clause)
  | _, dropped => .ok (result.filters, dropped.map droppedRecord)

/-- The filters of a kind query. -/
def compileKinds (query : String) : List Filter := (kindResult query).filters

/-- What a query asks for. -/
inductive ObjectType where
  | unspecified
  | entity
  | relation
  | kind
  deriving DecidableEq, Repr

/-- The name of the type in messages to the server. -/
def ObjectType.name : ObjectType → String
  | .unspecified => "UNSPECIFIED"
  | .entity => "ENTITY"
  | .relation => "RELATION"
  | .kind => "KIND"

/-- Whether objects of the type have kinds that could be asked for. -/
def ObjectType.takesKinds : ObjectType → Bool
  | .relation | .kind => true
  | .unspecified | .entity => false

/-- The warning about a kind query, if it says anything. -/
def kindWarning (type : ObjectType) (query : String) : List Log.Record :=
  let record (text : String) : Log.Record :=
    { level := Log.warningLevel, logger := loggerName, message := text ++ quoted query }
  if type.takesKinds then
    if (kindResult query).dropped.isEmpty then [] else [record "Kind filters are not supported yet; ignoring "]
  else if trimmed query = "" then []
  else [record "Kind filters only apply to relations and kinds; ignoring "]

/-- The filters of a query for objects of a type and what the log says about them. -/
def compile (type : ObjectType) (label kind : String) (strict : Bool) : Except FilterError (Filters × List Log.Record) := do
  let (labels, records) ← compileLabels label strict
  let kinds := if type.takesKinds then compileKinds kind else []
  return (⟨labels, kinds⟩, records ++ kindWarning type kind)

end RanConsole.Query

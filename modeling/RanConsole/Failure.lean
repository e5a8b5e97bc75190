import RanConsole.Json.Display

/-!
# Failures

The failures that the program itself reports: a filter that cannot be compiled, a configuration that cannot be read, and an
answer of the server that is an error. Each has a message, may name a context, and carries details that its text lists. What a
failure is about (the clause, the path, the status and the endpoint) is one of its details.
-/

namespace RanConsole

/-- What every failure says. -/
structure Report where
  message : String
  context : Option String := none
  details : List (String × Json) := []
  deriving BEq, Repr

/-- What kind of error the server answered with. -/
inductive ApiFailure where
  | general
  | notFound
  | unavailable
  deriving DecidableEq, Repr

/-- A failure that the program reports. -/
inductive Failure where
  | general (report : Report)
  | filter (report : Report) (clause : Option String)
  | configuration (report : Report) (path : Option String)
  | api (kind : ApiFailure) (report : Report) (status : Option Int) (endpoint : Option String)
  deriving BEq, Repr

namespace Failure

/-- The message of a resource that is not there. -/
def notFoundMessage : String := "The requested resource was not found"

/-- The status of a resource that is not there. -/
def notFoundStatus : Int := 404

/-- What the failure says. -/
def report : Failure → Report
  | .general report | .filter report _ | .configuration report _ | .api _ report _ _ => report

/-- The message alone. -/
def message (f : Failure) : String := f.report.message

/-- A detail for a text that is there and not empty. -/
def textDetail (key : String) (text : Option String) : List (String × Json) :=
  (text.filter (· ≠ "")).toList.map fun t => (key, .str t)

/-- What the failure is about. An empty path or endpoint and the status zero count as absent, an empty clause does not. -/
def subject : Failure → List (String × Json)
  | .general _ => []
  | .filter _ clause => clause.toList.map fun c => ("clause", .str c)
  | .configuration _ path => textDetail "path" path
  | .api _ _ status endpoint =>
    ((status.filter (· ≠ 0)).toList.map fun s => ("status_code", .int s)) ++ textDetail "endpoint" endpoint

/-- The details with the subject written over those given. -/
def details (f : Failure) : List (String × Json) :=
  Mapping.putAll f.report.details f.subject

/-- The details as the text lists them. -/
def detailText (details : List (String × Json)) : String :=
  ", ".intercalate (details.map fun (key, v) => key ++ "=" ++ v.quotedText)

/-- The message, the context and the details, as far as there are any. -/
def text (f : Failure) : String :=
  ". ".intercalate ([f.message] ++
    ((f.report.context.filter (· ≠ "")).toList.map ("Context: " ++ ·)) ++
    (if f.details.isEmpty then [] else ["Details: " ++ detailText f.details]))

/-- The name under which logs mention the failure. -/
def name : Failure → String
  | .general _ => "rancli.exceptions.RanCliError"
  | .filter .. => "rancli.exceptions.FilterSyntaxError"
  | .configuration .. => "rancli.exceptions.ConfigurationError"
  | .api .general .. => "rancli.exceptions.APIError"
  | .api .notFound .. => "rancli.exceptions.NotFoundError"
  | .api .unavailable .. => "rancli.exceptions.ServiceUnavailableError"

end Failure

end RanConsole

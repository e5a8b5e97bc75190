import RanConsole.Failure
import RanConsole.Http.Link

/-!
# Problems

A problem is what a log line or a message to the user can be about: a failure of the program, a failure of the connection, or
something foreign that is known by its name and its text only.
-/

namespace RanConsole

/-- Something that went wrong and is reported. -/
inductive Problem where
  | failure (f : Failure)
  | link (l : Http.LinkFailure)
  | foreign (name text : String)
  deriving BEq, Repr

namespace Problem

/-- The name under which logs mention the problem. -/
def name : Problem → String
  | .failure f => f.name
  | .link l => "httpx." ++ l.fault.label
  | .foreign name _ => name

/-- The text of the problem. -/
def text : Problem → String
  | .failure f => f.text
  | .link l => l.message
  | .foreign _ text => text

/-- Name and text as a log line shows them; a problem without a text is shown by its name. -/
def summary (p : Problem) : String :=
  if p.text = "" then p.name else p.name ++ ": " ++ p.text

/-- What the user is told about a problem with a server. -/
def complaint (server : String) (p : Problem) : String :=
  let general := "Error: " ++ p.text
  match p with
  | .link l =>
    if l.fault.isTimeout then "Error: Request timed out connecting to server"
    else if l.fault = .connect then "Error: Cannot connect to server at " ++ server ++ ": " ++ l.message
    else general
  | .failure (.api .notFound report _ _) => "Error: Not found: " ++ report.message
  | .failure (.api _ report (some status) _) =>
    if status = 0 then general else "Error: HTTP error " ++ toString status ++ ": " ++ report.message
  | _ => general

end Problem

end RanConsole

import RanConsole.Http.Message

/-!
# Scripted servers

A scripted server has a list of outcomes for each method and path and gives them one after another. Where it has none, or none
that is left, it answers that nothing was found.
-/

namespace RanConsole.Http

/-- The outcomes left for a method and a path. -/
structure Route where
  method : String
  path : String
  outcomes : List Outcome
  deriving DecidableEq, Repr

/-- The answer to a request that the script does not know. -/
def unscripted : Outcome :=
  .response { status := notFound, body := Text.Utf8.encode "not found".toList }

/-- Whether the route is that of the request. -/
def Route.takes (route : Route) (r : Request) : Bool :=
  route.method == r.method.word && route.path == r.url.readablePath

/-- The outcome of a request and the script that is left. -/
def scripted (r : Request) : List Route → Outcome × List Route
  | [] => (unscripted, [])
  | route :: rest =>
    if route.takes r then
      match route.outcomes with
      | [] => (unscripted, route :: rest)
      | outcome :: later => (outcome, { route with outcomes := later } :: rest)
    else
      let (outcome, rest) := scripted r rest
      (outcome, route :: rest)

/-- A server that follows a script. -/
def scriptServer : Server (List Route) := ⟨fun routes r => scripted r routes⟩

end RanConsole.Http

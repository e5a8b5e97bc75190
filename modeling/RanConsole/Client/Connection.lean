import RanConsole.Client.Pause
import RanConsole.Client.Retry
import RanConsole.Json.Printer
import RanConsole.Text.Base64
import RanConsole.Text.Lines
import RanConsole.Validation.Record

/-!
# Connections

A connection knows the address of a service, the token that is sent with each request, and how often a request is tried. It sends
single requests, whose answers are JSON values, and opens streams, whose answers are one JSON value a line. A stream is not tried
again, because the server would start it from the beginning.
-/

namespace RanConsole.Client

open Http

variable {σ α : Type}

/-- How a service is reached. -/
structure Connection where
  baseUrl : String := "http://localhost:5150"
  token : Option String := none
  /-- The time a request may take, in seconds. -/
  timeout : Pause := .exact (.ofInt 30)
  maxRetries : Int := 3
  backoff : Pause := .second
  /-- The path of the service below the base. -/
  service : String
  deriving DecidableEq, Repr

/-- What happens on a connection, with pauses in seconds. -/
abbrev Talk (σ : Type) := Exchange σ Pause

namespace Connection

/-- The base without slashes at its end. -/
def base (c : Connection) : String :=
  String.ofList (Text.dropEndWhile (· = '/') c.baseUrl.toList)

/-- The address of the service. -/
def apiBase (c : Connection) : String := c.base ++ c.service

/-- The authorization that requests carry; an empty token counts as none. -/
def authorization (c : Connection) : Option String :=
  (c.token.filter (· ≠ "")).map ("Bearer " ++ ·)

/-- The headers of every request. -/
def headers (c : Connection) : List (String × String) :=
  ("Content-Type", requestContentType) :: c.authorization.toList.map fun a => ("Authorization", a)

/-- The base of all addresses, unless the address of the service is none or the headers cannot be sent. -/
def opened (c : Connection) : Except CallError Url := do
  let base ← ((Url.parse c.apiBase).bind Url.asBase).mapError .badAddress
  if c.authorization.all fun a => a.toList.all fun ch => ch.toNat < 0x80 then return base else throw .tokenNotAscii

/-- Whether the connection can be opened. -/
def canOpen (c : Connection) : Bool := c.opened.toBool

/-- The authorization that the credentials of an address make, if there is anything in them. -/
def credentialsOf (u : Url) : Option String :=
  let (name, password) := u.nameAndPassword
  if name.isEmpty && password.isEmpty then none
  else some ("Basic " ++ String.ofList (Text.Base64.encode (Text.Utf8.encode (name ++ ':' :: password))))

/-- How requests are tried again. -/
def policy (c : Connection) : Policy Pause :=
  { attempts := (c.maxRetries + 1).toNat, pause := c.backoff.doubled, pauseText := Pause.rounded }

/-- A request on the connection. Credentials in the address go before the token. -/
def requestTo (c : Connection) (method : Method) (path : String) (query : Option String) (body : Option Json) :
    Except CallError Request := do
  let url ← ((← c.opened).below path query).mapError .badAddress
  return {
    method, url
    authorization := credentialsOf url <|> c.authorization
    body := (body.map (Json.render .compact)).getD "" }

end Connection

/-- The JSON value of octets. -/
def readBody (octets : List Nat) (how : Json.Reading := {}) : Except CallError Json :=
  match Charset.jsonText? octets with
  | none => .error .undecodable
  | some s => (Json.readChars s how).mapError .unreadable

/-- A value that a check accepts. -/
def accepted (check : Json → Validation.Checked α) (v : Json) : Except CallError α :=
  (check v).mapError .invalid

/-- A single request and the JSON value of its answer. An answer without a body is an empty object. -/
def call (server : Server σ) (c : Connection) (method : Method) (path : String) (body : Option Json) (x : Talk σ)
    (how : Json.Reading := {}) : Except CallError Json × Talk σ :=
  match c.requestTo method path none body with
  | .error e => (.error e, x)
  | .ok r =>
    let (result, x) := request server c.policy path r x
    (result.bind fun r => if r.status = noContent ∨ r.body.isEmpty then .ok (.obj []) else readBody r.body how, x)

/-- The value of a line that a check accepts. -/
def readLine (check : Json → Validation.Checked α) (line : List Char) (how : Json.Reading := {}) : Except CallError α :=
  ((Json.readChars line how).mapError .unreadable).bind (accepted check)

/-- What the lines of a stream give, at most `limit` times, and the failure that ended it. Lines of blanks alone are passed over. -/
def readLines (read : List Char → Except CallError α) (limit : Option Nat) : List (List Char) → List α × Option CallError
  | [] => ([], none)
  | line :: rest =>
    if limit = some 0 then ([], none)
    else if Text.isBlankText line then readLines read limit rest
    else
      match read line with
      | .error e => ([], some e)
      | .ok v =>
        let (values, failure) := readLines read (limit.map (· - 1)) rest
        (v :: values, failure)

/-- A stream: what its lines give, at most `limit` times, and the failure that ended it. A stream of which nothing is wanted is not
opened. -/
def stream (server : Server σ) (c : Connection) (method : Method) (path : String) (query : Option String)
    (body : Option Json) (read : List Char → Except CallError α) (limit : Option Nat) (x : Talk σ) :
    (List α × Option CallError) × Talk σ :=
  if limit = some 0 then (([], none), x)
  else
    match c.requestTo method path query body with
    | .error e => (([], some e), x)
    | .ok r =>
      let (outcome, x) := x.ask server r
      match outcome with
      | .error e => (([], some e), x)
      | .ok .interrupted => (([], some .interrupted), x)
      | .ok (.failed l) => (([], some (.link l)), x)
      | .ok (.response response) =>
        match responseFailure (endpoint r) response, response.text? with
        | some e, _ => (([], some e), x)
        | none, none => (([], some .unmarkedText), x)
        | none, some text => (readLines read limit (Text.lines text), x)

end RanConsole.Client

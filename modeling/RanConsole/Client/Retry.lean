import RanConsole.Client.CallError
import RanConsole.Http.Message
import RanConsole.Log.Record

/-!
# Requests with retries

A request is sent again after a failure of the transport and after a status that says that the server is out of order for the
moment, with a pause before each further attempt. What happens is kept in an exchange: the state of the server, the requests sent,
the pauses made and the log.
-/

namespace RanConsole.Client

open Http

variable {σ δ : Type}

/-- What has happened between the program and a server. -/
structure Exchange (σ δ : Type) where
  server : σ
  requests : List Request := []
  pauses : List δ := []
  log : List Log.Record := []
  deriving Repr

/-- An exchange with a server in the given state, before anything has happened. -/
def Exchange.start (server : σ) : Exchange σ δ := { server }

/-- A request sent. -/
def Exchange.send (server : Server σ) (x : Exchange σ δ) (r : Request) : Outcome × Exchange σ δ :=
  let (outcome, next) := server.answer x.server r
  (outcome, { x with server := next, requests := x.requests ++ [r] })

/-- A pause before a further attempt, and why it is made. -/
def Exchange.wait (x : Exchange σ δ) (why : Log.Record) (pause : δ) : Exchange σ δ :=
  { x with pauses := x.pauses ++ [pause], log := x.log ++ [why] }

/-- What a response with an unpacked body comes to before its status is looked at. The address of the request has to be of some kind,
and a response that sends the program elsewhere has to name an address. -/
def settledUnpacked (r : Request) (response : Response) : Except CallError Outcome :=
  if !r.url.isTyped then .error (.untypedAddress r.url.text)
  else
    match if isRedirect response.status then response.location else none with
    | none => .ok (.response response)
    | some location =>
      match Url.parse location with
      | .error f => .ok (.failed ⟨.remoteProtocol, "Invalid URL in location header: " ++ f.message ++ "."⟩)
      | .ok u => ((u.onHostOf r.url).mapError .badAddress).map fun _ => .response response

/-- What a response comes to before its status is looked at. A body that cannot be unpacked is a failure of the connection. -/
def settled (r : Request) (response : Response) : Except CallError Outcome :=
  match response.unpacked with
  | .error f => .ok (.failed ⟨.decoding, f.message⟩)
  | .ok response => settledUnpacked r response

/-- A request sent and what comes of it. -/
def Exchange.ask (server : Server σ) (x : Exchange σ δ) (r : Request) : Except CallError Outcome × Exchange σ δ :=
  let (outcome, x) := x.send server r
  match outcome with
  | .response response => (settled r response, x)
  | .failed _ | .interrupted => (.ok outcome, x)

/-- The endpoint of a request, as failures name it. -/
def endpoint (r : Request) : String := r.method.word ++ " " ++ r.url.readablePath

/-- How a call fails with a response that has an error status. -/
def responseFailure (endpoint : String) (r : Response) : Option CallError :=
  if !isError r.status then none
  else
    match r.text? with
    | none => some .unmarkedText
    | some text =>
      let body := Text.trim text
      let report : Report := { message := if body.isEmpty then reason r.status else String.ofList body }
      let kind : ApiFailure :=
        if r.status = notFound then .notFound else if isUnavailable r.status then .unavailable else .general
      some (.failure (.api kind report (some (Int.ofNat r.status)) (some endpoint)))

/-- When and how a request is sent again. -/
structure Policy (δ : Type) where
  /-- The greatest number of attempts. -/
  attempts : Nat
  /-- The pause after the attempt of the given number, counted from zero. -/
  pause : Nat → δ
  /-- The pause in words. -/
  pauseText : δ → String

/-- The logger of the client. -/
def loggerName : String := "rancli.client.client"

/-- What a warning says about an attempt and the pause after it. -/
def attemptText (policy : Policy δ) (path : String) (r : Request) (number : Nat) : String :=
  r.method.word ++ " " ++ path ++ " (attempt " ++ toString (number + 1) ++ "/" ++ toString policy.attempts ++
    "), retrying in " ++ policy.pauseText (policy.pause number) ++ "s"

/-- The warning about a failure of the transport. -/
def linkWarning (policy : Policy δ) (path : String) (r : Request) (number : Nat) (l : LinkFailure) : Log.Record :=
  { level := Log.warningLevel, logger := loggerName
    message := "Transport error on " ++ attemptText policy path r number ++ ": " ++ l.message }

/-- The warning about a status. -/
def statusWarning (policy : Policy δ) (path : String) (r : Request) (number status : Nat) : Log.Record :=
  { level := Log.warningLevel, logger := loggerName
    message := "HTTP " ++ toString status ++ " on " ++ attemptText policy path r number }

/-- The attempts from the given number on, of which `left` are left, after the failure of an earlier one. A status that is
neither success nor error uses up an attempt without a pause. -/
def attempts (server : Server σ) (policy : Policy δ) (path : String) (r : Request) (number : Nat)
    (earlier : Option CallError) : (left : Nat) → Exchange σ δ → Except CallError Response × Exchange σ δ
  | 0, x => (.error (earlier.getD .nothingHappened), x)
  | left + 1, x =>
    let (outcome, x) := x.ask server r
    match outcome with
    | .error e => (.error e, x)
    | .ok .interrupted => (.error .interrupted, x)
    | .ok (.failed l) =>
      if l.fault.isTransport then
        let x := if left = 0 then x else x.wait (linkWarning policy path r number l) (policy.pause number)
        attempts server policy path r (number + 1) (some (.link l)) left x
      else (.error (.link l), x)
    | .ok (.response response) =>
      if isSuccess response.status then (.ok response, x)
      else
        match responseFailure (endpoint r) response with
        | none => attempts server policy path r (number + 1) earlier left x
        | some e =>
          if isUnavailable response.status && left ≠ 0 then
            let x := x.wait (statusWarning policy path r number response.status) (policy.pause number)
            attempts server policy path r (number + 1) (some e) left x
          else (.error e, x)

/-- A request with all its attempts. -/
def request (server : Server σ) (policy : Policy δ) (path : String) (r : Request) (x : Exchange σ δ) :
    Except CallError Response × Exchange σ δ :=
  attempts server policy path r 0 none policy.attempts x

end RanConsole.Client

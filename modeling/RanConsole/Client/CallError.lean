import RanConsole.Http.Url
import RanConsole.Json.Reader
import RanConsole.Problem
import RanConsole.Validation.Checked

/-!
# Why a call ends without a result

A call to a server can end with a failure that the server or the connection is to blame for, which commands report to the user, or
with an answer that is not what was asked for.
-/

namespace RanConsole

/-- Why a call ends without a result. -/
inductive CallError where
  | failure (f : Failure)
  | link (l : Http.LinkFailure)
  /-- The user has interrupted the program. -/
  | interrupted
  /-- The answer is no JSON text. -/
  | unreadable (e : Json.ReadError)
  /-- The octets of the answer are no text. -/
  | undecodable
  /-- The octets of the answer make no text: a mark is missing that its character set asks for. -/
  | unmarkedText
  /-- The answer does not describe what was asked for. -/
  | invalid (violations : List Validation.Violation)
  /-- The answer lacks a member. -/
  | missingMember (key : String)
  /-- The answer, or a part of it, is a value of a kind that cannot be used as asked. -/
  | wrongKind
  /-- Members were asked for and the answer is no object. -/
  | notAnObject
  | numeral (e : NumeralError)
  /-- What is not a number has no integer. -/
  | notANumber
  /-- An infinity has no integer. -/
  | infinite
  /-- A text cannot be sent or printed as it is: the token has a character that is not ASCII, or a text holds a half of a pair alone. -/
  | unencodable
  | badAddress (fault : Http.UrlFault)
  /-- The address of the request does not say what kind of address it is. -/
  | untypedAddress (text : String)
  /-- No request was sent, or none had an outcome to report. -/
  | nothingHappened
  deriving BEq, Repr

namespace CallError

/-- A token that cannot be sent. -/
@[match_pattern] abbrev tokenNotAscii : CallError := .unencodable

/-- The problem that commands report to the user, if the server or the connection is to blame. -/
def reported? : CallError → Option Problem
  | .failure (.api kind report status endpoint) => some (.failure (.api kind report status endpoint))
  | .link l => some (.link l)
  | _ => none

end CallError

end RanConsole

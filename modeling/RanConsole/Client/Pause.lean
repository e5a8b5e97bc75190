import RanConsole.Json.Basic
import RanConsole.Number.Fixed

/-!
# Pauses

A pause is a number of seconds, whole or not. Each further attempt waits twice as long as the one before.
-/

namespace RanConsole.Client

/-- A number of seconds. -/
inductive Pause where
  | whole (seconds : Int)
  | exact (seconds : Binary64)
  deriving DecidableEq, Repr

/-- One second. -/
def Pause.second : Pause := .exact (.ofInt 1)

/-- The pause doubled a number of times. -/
def Pause.doubled (p : Pause) (times : Nat) : Pause :=
  match p with
  | .whole n => .whole (n * Nat.pow 2 times)
  | .exact x => .exact (x.doubled times)

/-- The pause as a number. -/
def Pause.toJson : Pause → Json
  | .whole n => .int n
  | .exact x => .float x

/-- The seconds with one place after the point. -/
def Pause.rounded : Pause → String
  | .whole n => (Binary64.ofInt n).fixedText 1
  | .exact x => x.fixedText 1

end RanConsole.Client

import RanConsole.Log.Layout
import RanConsole.Text.LetterCase

/-!
# Setting up the log

The log has a level below which records are passed over, and one layout once it has been set up. The loggers of the HTTP library
have levels of their own, which setting up raises to warnings. A level that is not known leaves everything as it was.
-/

namespace RanConsole.Log

/-- The state of the log. A level of zero at a logger of the HTTP library means that it has none of its own. -/
structure Setup where
  level : Int := warningLevel
  layout : Option Layout := none
  httpLevel : Int := 0
  coreLevel : Int := 0
  deriving DecidableEq, Repr

/-- Why a level is refused. -/
inductive LevelError where
  | unknown (name : String)
  /-- The name stands for a text that is no level. -/
  | notALevel (text : String)
  deriving DecidableEq, Repr

/-- The wording of the refusal. -/
def LevelError.message : LevelError → String
  | .unknown name => name
  | .notALevel text => "Unknown level: " ++ quoted text

/-- The levels by name. -/
def levels : List (String × Int) :=
  [("NOTSET", 0), ("DEBUG", 10), ("INFO", 20), ("WARN", 30), ("WARNING", 30), ("ERROR", 40), ("CRITICAL", 50),
   ("FATAL", 50)]

/-- The level of a name in any letter case. One name stands for the template of simple messages. -/
def readLevel (name : String) : Except LevelError Int :=
  let name := upperCase name
  match levels.lookup name with
  | some level => .ok level
  | none =>
    if name = "BASIC_FORMAT" then .error (.notALevel "%(levelname)s:%(name)s:%(message)s") else .error (.unknown name)

/-- The log set up with a level and a layout for an output that is no terminal. -/
def Setup.configure (s : Setup) (level : String) (json : Bool) : Except LevelError Setup := do
  let level ← readLevel level
  return { s with
    level := level, layout := some (if json then .json else .readable false)
    httpLevel := warningLevel, coreLevel := warningLevel }

/-- Whether a logger is the one of the given name or belongs to it. -/
def isUnder (parent name : String) : Bool :=
  name == parent || (parent ++ ".").toList.isPrefixOf name.toList

/-- The level that holds for a logger. -/
def Setup.levelOf (s : Setup) (logger : String) : Int :=
  let own := if isUnder "httpx" logger then s.httpLevel else if isUnder "httpcore" logger then s.coreLevel else 0
  if own = 0 then s.level else own

/-- Whether a record is logged. -/
def Setup.admits (s : Setup) (r : Record) : Bool :=
  0 < r.level && s.levelOf r.logger ≤ r.level

/-- What a record writes to the error output. -/
def Setup.emit (clock : Clock) (s : Setup) (r : Record) : String :=
  match s.layout with
  | some layout => if s.admits r then r.format clock layout ++ "\n" else ""
  | none => ""

/-- What records write to the error output. -/
def Setup.emitAll (clock : Clock) (s : Setup) (records : List Record) : String :=
  String.join (records.map (s.emit clock))

end RanConsole.Log

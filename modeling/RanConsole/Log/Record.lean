import RanConsole.Problem

/-!
# Log records

A record has a level, the name of the logger it was given to, a message, further attributes in the order in which they were
given, and may carry a problem.
-/

namespace RanConsole.Log

/-- The value of a further attribute: a JSON value, or something that JSON cannot hold and that is known by its text. -/
inductive Attribute where
  | json (v : Json)
  | foreign (text : String)
  deriving BEq, Repr

/-- A log record. -/
structure Record where
  level : Int
  logger : String
  message : String
  extras : List (String × Attribute) := []
  problem : Option Problem := none
  deriving BEq, Repr

/-- The level of messages for those who look for faults. -/
def debugLevel : Int := 10

/-- The level of warnings. -/
def warningLevel : Int := 30

/-- The levels with names. -/
def levelNames : List (Int × String) :=
  [(0, "NOTSET"), (10, "DEBUG"), (20, "INFO"), (30, "WARNING"), (40, "ERROR"), (50, "CRITICAL")]

/-- The name of a level; a level without a name is shown by its number. -/
def levelName (level : Int) : String :=
  (levelNames.lookup level).getD ("Level " ++ toString level)

end RanConsole.Log

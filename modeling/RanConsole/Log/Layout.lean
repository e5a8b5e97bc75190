import RanConsole.Json.Room
import RanConsole.Log.Record
import RanConsole.Text.Cut

/-!
# Layouts of log lines

A record is laid out as one JSON object on a line, or as a line for a person with the level in a column of its own, on request in
a colour. Attributes whose names belong to the record itself or start with an underscore are not shown. A line with attributes that
cannot be written in the room that is left is not made.
-/

namespace RanConsole.Log

/-- The time of a record: in full with its distance from universal time, and on the clock of the place to the second. -/
structure Clock where
  full : String
  wall : String
  deriving DecidableEq, Repr

/-- The layout of log lines. -/
inductive Layout where
  | json
  | readable (colors : Bool)
  deriving DecidableEq, Repr

/-- The attributes that every record has. -/
def recordAttributes : List String :=
  ["name", "msg", "args", "created", "filename", "funcName", "levelname", "levelno", "lineno", "module", "msecs",
   "pathname", "process", "processName", "relativeCreated", "stack_info", "exc_info", "exc_text", "thread",
   "threadName", "taskName", "message"]

/-- The further attributes that a line shows. -/
def shownExtras (extras : List (String × Attribute)) : List (String × Attribute) :=
  (Mapping.ofPairs extras).filter fun (key, _) => !recordAttributes.contains key && key.toList.head? != some '_'

/-- An attribute in a JSON line: what JSON cannot hold is shown by its text. -/
def Attribute.toJson : Attribute → Json
  | .json v => v
  | .foreign text => .str text

/-- An attribute in a line for a person. -/
def Attribute.text : Attribute → String
  | .json v => v.text
  | .foreign text => text

/-- The room that is left for values. -/
structure Room where
  /-- In a JSON line. -/
  json : Nat := Json.usualRoom
  /-- In messages and in lines for a person. -/
  text : Nat := Json.usualRoom
  deriving DecidableEq, Repr

/-- Why an attribute cannot be shown in a line for a person. -/
def Attribute.textFault? (room : Room) : Attribute → Option Json.WriteError
  | .json v => v.textFault? room.text
  | .foreign _ => none

/-- An attribute in a JSON line. What cannot be written for its long integers is shown by its text, which cannot be written either. -/
def Attribute.toJsonWithin (room : Room) : Attribute → Except Json.WriteError Json
  | .foreign text => .ok (.str text)
  | .json v =>
    match v.renderFault? room.json, v.textFault? room.text with
    | none, _ => .ok v
    | some .tooManyDigits, none => .ok (.str v.text)
    | some .tooManyDigits, some e => .error e
    | some .tooDeep, _ => .error .tooDeep

/-- What a line says. -/
structure Line where
  level : Attribute
  logger : Attribute
  message : String
  extras : List (String × Attribute)
  problem : Option String
  deriving BEq, Repr

/-- What the line of a record says. -/
def Record.line (r : Record) : Line :=
  { level := .json (.str (levelName r.level)), logger := .json (.str r.logger), message := r.message
    extras := shownExtras r.extras, problem := r.problem.map Problem.summary }

/-- The members of a JSON line that every line has, and what is said about a problem. -/
def Line.core (clock : Clock) (l : Line) : List (String × Json) :=
  [("timestamp", .str clock.full), ("level", l.level.toJson), ("logger", l.logger.toJson), ("message", .str l.message)] ++
    l.problem.toList.map fun p => ("exception", .str p)

/-- The members of a JSON line. Further attributes are written over the members of the same name. -/
def Line.members (clock : Clock) (l : Line) : List (String × Json) :=
  Mapping.putAll (l.core clock) (l.extras.map fun (key, v) => (key, v.toJson))

/-- A JSON line in the room that is left. -/
def Line.jsonWithin (clock : Clock) (room : Room) (l : Line) : Except Json.WriteError String := do
  let extras ← l.extras.mapM fun (key, v) => do return (key, ← v.toJsonWithin room)
  Json.renderWithin room.json .line (.obj (Mapping.putAll (l.core clock) extras))

/-- The colours of the levels. -/
def colors : List (String × String) :=
  [("DEBUG", "\x1b[36m"), ("INFO", "\x1b[32m"), ("WARNING", "\x1b[33m"), ("ERROR", "\x1b[31m"), ("CRITICAL", "\x1b[35m")]

/-- The sequence that ends a colour. -/
def colorEnd : String := "\x1b[0m"

/-- The width of the column of the levels. -/
def levelWidth : Nat := 8

/-- The level of a line for a person, in its column. A number stands on the right of the column, and what is neither a text nor a number
can only stand there in a colour. Lists and objects have no colour. -/
def levelColumn? (colored : Bool) (level : Attribute) : Option String :=
  let padded (s : String) : String := String.ofList (Text.padEnd levelWidth s.toList)
  let number (s : String) : String := String.ofList (List.replicate (levelWidth - s.length) ' ') ++ s
  match colored, level with
  | true, .json (.arr _) | true, .json (.obj _) => none
  | true, .json (.str s) => some (padded ((colors.lookup s).getD "" ++ s ++ colorEnd))
  | true, v => some (padded (v.text ++ colorEnd))
  | false, .json (.str s) => some (padded s)
  | false, .json (.bool b) => some (number (if b then "1" else "0"))
  | false, .json (.int i) => some (number (toString i))
  | false, .json (.float x) => some (number (Json.float x).text)
  | false, _ => none

/-- A line for a person, with the problem on a line of its own. -/
def Line.readable (clock : Clock) (colored : Bool) (l : Line) : String :=
  let extras := " ".intercalate (l.extras.map fun (key, v) => key ++ "=" ++ v.text)
  clock.wall ++ " " ++ (levelColumn? colored l.level).getD "" ++ " [" ++ l.logger.text ++ "] " ++ l.message ++
    (if extras = "" then "" else " " ++ extras) ++
    String.join (l.problem.toList.map ("\n" ++ ·))

/-- A line in a layout. -/
def Line.format (clock : Clock) (layout : Layout) (l : Line) : String :=
  match layout with
  | .json => Json.render .line (.obj (l.members clock))
  | .readable colored => l.readable clock colored

/-- A record in a layout. -/
def Record.format (clock : Clock) (layout : Layout) (r : Record) : String := r.line.format clock layout

end RanConsole.Log

import RanConsole.Log.Layout
import RanConsole.Log.Template

/-!
# Entries of the log

An entry is what is given to the log: a level, the name of a logger, a template with arguments, further attributes and perhaps a problem.
Further attributes with the names of parts of a record take the place of those parts. Such a part can make it impossible to show the
entry.
-/

namespace RanConsole.Log

/-- What is given to the log. -/
structure Entry where
  level : Int
  logger : String
  template : String
  arguments : List Json := []
  extras : List (String × Attribute) := []
  problem : Option Problem := none
  deriving BEq, Repr

/-- Why an entry cannot be shown. -/
inductive EntryError where
  | template (e : TemplateError)
  /-- A part is of a kind that cannot be used as what it stands for. -/
  | wrongKind
  /-- What stands for a problem is too short, as a list or as a text. -/
  | shortList
  | shortText
  /-- What stands for a problem lacks the given member. -/
  | missingMember (key : String)
  /-- What stands for a problem is none. -/
  | noProblem
  deriving DecidableEq, Repr

/-- A value cannot be written. -/
abbrev EntryError.unwritable (e : Json.WriteError) : EntryError := .template (.unwritable e)

namespace Entry

/-- The attribute of a name, if it is given. -/
def attribute? (e : Entry) (name : String) : Option Attribute := Mapping.get? name (Mapping.ofPairs e.extras)

/-- The level that is shown. -/
def shownLevel (e : Entry) : Attribute := (e.attribute? "levelname").getD (.json (.str (levelName e.level)))

/-- The name of the logger that is shown. -/
def shownLogger (e : Entry) : Attribute := (e.attribute? "name").getD (.json (.str e.logger))

/-- The message. -/
def message (room : Room) (e : Entry) : Except EntryError String :=
  let template := (e.attribute? "msg").elim e.template Attribute.text
  let filled :=
    match e.attribute? "args" with
    | none => fillTemplate room.text template e.arguments
    | some (.foreign text) => fillWith room.text template (.list [.str text])
    | some (.json v) => (Arguments.ofValue? v).elim (.ok template) (fillWith room.text template)
  if (e.attribute? "getMessage").isSome then .error .wrongKind else filled.mapError .template

/-- What is said about a problem that stands for itself as a list: its kind, the problem, and where it came up. -/
def problemOfList (items : List Json) : Except EntryError String :=
  match items with
  | _ :: .null :: .null :: _ => .ok "NoneType: None"
  | _ :: _ :: _ :: _ => .error .noProblem
  | _ => .error .shortList

/-- What is said about the problem, if there is one. -/
def problemText (e : Entry) : Except EntryError (Option String) :=
  match e.attribute? "exc_info" with
  | none => .ok (e.problem.map Problem.summary)
  | some (.foreign _) => .error .wrongKind
  | some (.json v) =>
    if (Arguments.ofValue? v).isNone then .ok none
    else
      match v with
      | .arr items => (problemOfList items).map some
      | .str s => .error (if s.length < 3 then .shortText else .noProblem)
      | .obj _ => .error (.missingMember "2")
      | _ => .error .wrongKind

/-- What the line of an entry says. -/
def line (room : Room) (e : Entry) : Except EntryError Line := do
  let message ← e.message room
  let problem ← e.problemText
  return { level := e.shownLevel, logger := e.shownLogger, message, problem, extras := shownExtras e.extras }

/-- Why a level has no column in a line for a person. -/
def levelFault? (room : Room) (colored : Bool) (level : Attribute) : Option EntryError :=
  if (levelColumn? colored level).isNone then some .wrongKind else (level.textFault? room).map .unwritable

/-- Why what stands around the message in a line for a person cannot be shown. A level gets its colour before the further attributes are
looked at, and its column after them. -/
def surroundingFault? (room : Room) (colored : Bool) (e : Entry) : Option EntryError :=
  let level := levelFault? room colored e.shownLevel
  let extras := ((shownExtras e.extras).findSome? fun (_, v) => v.textFault? room).map EntryError.unwritable
  let logger := (e.shownLogger.textFault? room).map EntryError.unwritable
  (if colored then level.or extras else extras.or level).or logger

/-- An entry in a layout. -/
def format (clock : Clock) (layout : Layout) (e : Entry) (room : Room := {}) : Except EntryError String :=
  match layout with
  | .json => do
    let line ← e.line room
    (line.jsonWithin clock room).mapError .unwritable
  | .readable colored =>
    match e.surroundingFault? room colored with
    | some fault => .error fault
    | none => (e.line room).map (Line.readable clock colored)

end Entry

end RanConsole.Log

import RanConsole.Json.Printer
import RanConsole.Text.LetterCase
import RanConsole.Validation.Plain
import RanConsole.Yaml.Basic

/-!
# Settings

The settings of the program: how the services are reached and what is logged. Each setting has a default, and settings are read from
a mapping with a section for each of the two. Entries that no setting has are passed over.
-/

namespace RanConsole.Config

open Validation

/-- How the services are reached. -/
structure ServerSettings where
  url : String := "http://localhost:5150"
  token : Option String := none
  /-- The time that a request may take, in seconds. -/
  timeout : Binary64 := .ofInt 30
  maxRetries : Nat := 3
  deriving DecidableEq, Repr

/-- The levels that the log can be set to. -/
inductive LogLevel where
  | debug
  | info
  | warning
  | error
  | critical
  deriving DecidableEq, Repr

/-- The words for the levels. -/
def LogLevel.words : List (String × LogLevel) :=
  [("DEBUG", .debug), ("INFO", .info), ("WARNING", .warning), ("ERROR", .error), ("CRITICAL", .critical)]

/-- The word for a level. -/
def LogLevel.word : LogLevel → String
  | .debug => "DEBUG"
  | .info => "INFO"
  | .warning => "WARNING"
  | .error => "ERROR"
  | .critical => "CRITICAL"

/-- What is logged, and how. -/
structure LogSettings where
  level : LogLevel := .warning
  jsonFormat : Bool := false
  deriving DecidableEq, Repr

/-- The settings of the program. -/
structure Settings where
  server : ServerSettings := {}
  log : LogSettings := {}
  deriving DecidableEq, Repr

/-! ## Reading -/

/-- A YAML value as the rules for simple fields see it. -/
def plainOf : Yaml → Plain
  | .scalar .null => .null
  | .scalar (.bool b) => .bool b
  | .scalar (.int i) => .int i
  | .scalar (.float x) => .float x
  | .scalar (.str s) => .text s
  | .scalar (.octets bs) => .octets bs
  | .scalar (.date _) | .scalar (.moment _) | .list _ | .map _ | .set _ | .pair .. | .shared _ => .other

/-- The setting of a name, its default if it is not there. -/
def setting {α : Type} (entries : Yaml.Entries) (name : String) (default : α) (check : Plain → Checked α) : Checked α :=
  match Mapping.get? (.text name) entries with
  | some v => (check (plainOf v)).under name
  | none => .ok default

/-- A text or null. -/
def checkOptionalText : Plain → Checked (Option String)
  | .null => .ok none
  | v => (checkText v).map some

/-- A level in any letter case. -/
def checkLevel : Plain → Checked LogLevel
  | .text s => checkChoice LogLevel.words (.text (upperCase s))
  | v => checkChoice LogLevel.words v

/-- The settings of the server in its section. -/
def ServerSettings.ofEntries (entries : Yaml.Entries) : Checked ServerSettings :=
  let defaults : ServerSettings := {}
  let url := setting entries "url" defaults.url checkText
  let token := setting entries "token" defaults.token checkOptionalText
  let timeout := setting entries "timeout" defaults.timeout checkNumber
  let maxRetries := setting entries "max_retries" defaults.maxRetries checkUnsigned
  (((url.map ServerSettings.mk).ap token).ap timeout).ap maxRetries

/-- The settings of the log in its section. -/
def LogSettings.ofEntries (entries : Yaml.Entries) : Checked LogSettings :=
  let defaults : LogSettings := {}
  let level := setting entries "level" defaults.level checkLevel
  let jsonFormat := setting entries "json_format" defaults.jsonFormat checkBool
  (level.map LogSettings.mk).ap jsonFormat

/-- The name of the section for the server. -/
def serverSection : String := "server"

/-- The name of the section for the log. -/
def logSection : String := "logging"

/-- The section of a name: the first whose name is the same but for its letter case, if that does not count. -/
def section? (exactCase : Bool) (name : String) (entries : Yaml.Entries) : Option Yaml :=
  (entries.find? fun (key, _) =>
    match key.scalar with
    | .str s => s == name || (!exactCase && lowerCase s == name)
    | _ => false).map (·.2)

/-- The settings of a section, their defaults if it is not there. -/
def readSection {α : Type} (entries : Yaml.Entries) (name : String) (default : α) (read : Yaml.Entries → Checked α) :
    Checked α :=
  match Mapping.get? (.text name) entries with
  | none => .ok default
  | some (.map inner) => (read inner).under name
  | some _ => (Checked.fault .notAnObject).under name

/-- The settings of a mapping with sections. -/
def Settings.ofEntries (entries : Yaml.Entries) : Checked Settings :=
  let server := readSection entries serverSection {} ServerSettings.ofEntries
  let log := readSection entries logSection {} LogSettings.ofEntries
  (server.map Settings.mk).ap log

/-! ## Writing -/

/-- All settings of the server by name. -/
def ServerSettings.entries (s : ServerSettings) : Yaml.Entries :=
  [(.text "url", .text s.url), (.text "token", s.token.elim .null .text),
   (.text "timeout", .scalar (.float s.timeout)), (.text "max_retries", .scalar (.int s.maxRetries))]

/-- All settings of the log by name. -/
def LogSettings.entries (s : LogSettings) : Yaml.Entries :=
  [(.text "level", .text s.level.word), (.text "json_format", .scalar (.bool s.jsonFormat))]

/-- Those entries whose keys another mapping has too. -/
def entriesIn (other entries : Yaml.Entries) : Yaml.Entries :=
  entries.filter fun (key, _) => Mapping.has key other

/-- The settings that a mapping with sections gives, in the form in which they were read. -/
def Settings.given (source : Yaml.Entries) (s : Settings) : Yaml.Entries :=
  let part (name : String) (entries : Yaml.Entries) : Yaml.Entries :=
    match Mapping.get? (.text name) source with
    | some (.map inner) => [(.text name, .map (entriesIn inner entries))]
    | _ => []
  part serverSection s.server.entries ++ part logSection s.log.entries

/-- The settings as JSON. -/
def Settings.toJson (s : Settings) : Json :=
  .obj
    [(serverSection, .obj
      [("url", .str s.server.url), ("token", s.server.token.elim .null .str), ("timeout", .float s.server.timeout),
       ("max_retries", .int s.server.maxRetries)]),
     (logSection, .obj [("level", .str s.log.level.word), ("json_format", .bool s.log.jsonFormat)])]

/-- How settings are shown: indented by two, with the characters as they are; numbers past the ends of the range are null. -/
def displayStyle : Json.Style :=
  { itemSeparator := ",", keySeparator := ": ", indent := some 2, asciiOnly := false
    numbers :=
      { positionalFrom := -5, positionalBelow := 16, exponentPlaces := 1, pointBeforeExponent := false
        infinity := "null", negativeInfinity := "null", notANumber := "null" } }

/-- The settings as they are shown. -/
def Settings.display (s : Settings) : String := s.toJson.render displayStyle

end RanConsole.Config

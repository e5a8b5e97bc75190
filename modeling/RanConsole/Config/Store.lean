import RanConsole.Config.Edit
import RanConsole.Config.Sources
import RanConsole.Config.Value
import RanConsole.Failure
import RanConsole.Text.Lines
import RanConsole.Yaml.Layout
import RanConsole.Yaml.Reader

/-!
# The store of the configuration

The configuration lies in the first of three files that is there. Its settings are those of the file with the environment laid over
them; they are read once and kept until they are asked for anew. Setting a value writes the file anew.
-/

namespace RanConsole.Config

/-- Why there are no settings. -/
inductive LoadError where
  /-- The file is no YAML text. -/
  | malformed (path : String)
  /-- The file holds something else than a mapping. -/
  | noMapping (path : String)
  /-- What should be a file is a directory. -/
  | isDirectory
  /-- The file holds a number or a time that cannot be held. -/
  | unreadable (e : Yaml.ReadError)
  /-- The other sources of settings cannot be read. -/
  | source (e : SourceError)
  /-- The file has a key that is no text. -/
  | keyNotText
  | invalid (violations : List Validation.Violation)
  deriving Repr

/-- The failure that is reported to the user, if it is one of the configuration file itself. -/
def LoadError.failure? : LoadError → Option Failure
  | .malformed path => some (.configuration { message := "Invalid YAML in config file" } (some path))
  | .noMapping path => some (.configuration { message := "Config file must contain a mapping" } (some path))
  | _ => none

/-- The document that the text of a file holds, whose outermost value is a mapping. -/
def readFile (half : Char) (path text : String) : Except LoadError Yaml.Document :=
  match Yaml.read text half with
  | .error .malformed => .error (.malformed path)
  | .error e => .error (.unreadable e)
  | .ok none => .ok (.ofEntries [])
  | .ok (some d) =>
    if isNothing d.root then .ok (.ofEntries [])
    else if d.entries?.isSome then .ok d
    else .error (.noMapping path)

/-- Whether all keys are texts. -/
def allTexts (entries : Yaml.Entries) : Bool :=
  entries.all fun (key, _) =>
    match key.scalar with
    | .str _ => true
    | _ => false

/-- The names of entries that no file can have. -/
def reservedNames : List String := ["__pydantic_self__"]

/-- The sections of a mapping laid over those of the other sources. A section is found whatever the letter case of its name, if that
does not count. -/
def sectionsOver (exactCase : Bool) (beneath entries : Yaml.Entries) : Yaml.Entries :=
  [serverSection, logSection].filterMap fun name =>
    let lower := Mapping.get? (.text name) beneath
    (match section? exactCase name entries with
    | some v => some (Yaml.layered lower v)
    | none => lower).map fun v => (.text name, v)

/-- The settings of a file and the environment. The environment is checked by itself first and laid over the file; what the file then
leaves open comes from the other sources that it names. -/
def Settings.layered (files : List (String × String)) (env : Environment) (file : Yaml.Entries) : Except LoadError Settings := do
  let sections ← env.sections.mapError (.source ∘ .badSection)
  let own ← (Settings.ofEntries sections).mapError .invalid
  let merged := Yaml.mergeEntries file (own.given sections)
  if !allTexts merged || reservedNames.any fun name => Mapping.has (.text name) merged then .error .keyNotText
  else
    let sources ← (Sources.ofEntries merged).mapError .source
    let beneath ← (sources.sections files env).mapError .source
    (Settings.ofEntries (sectionsOver sources.naming.exactCase beneath merged)).mapError .invalid

/-- The files and the environment that the configuration comes from, and the settings that are kept. -/
structure Store where
  files : List (String × String) := []
  environment : Environment := []
  /-- The home directory of the user. -/
  home : String := "home"
  kept : Option Settings := none
  /-- What stands for half of a pair in a text of a file. -/
  half : Char := Yaml.usualHalf
  deriving Repr

namespace Store

/-- The files that may hold the configuration, in the order in which they are looked for. -/
def paths (s : Store) : List String :=
  ["rancli.yaml", "config/rancli.yaml", s.home ++ "/.config/rancli/config.yaml"]

/-- The file that is written when there is none yet. -/
def defaultPath : String := "rancli.yaml"

/-- The file that holds the configuration. -/
def find? (s : Store) : Option String :=
  s.paths.find? fun path => placeOf s.files path != .nothing

/-- The store with a file. The lines of files end with line feeds. -/
def withFile (s : Store) (path text : String) : Store :=
  { s with files := Mapping.put (resolvedPath path) (String.ofList (Text.withLineFeeds text.toList)) s.files }

/-- The store without a file. -/
def withoutFile (s : Store) (path : String) : Store :=
  { s with files := s.files.filter (·.1 ≠ resolvedPath path) }

/-- The document of a file; a file that is not there has no entries. -/
def loadFrom (s : Store) (path : String) : Except LoadError Yaml.Document :=
  match placeOf s.files path with
  | .file text => readFile s.half (shownPath path) text
  | .directory => .error .isDirectory
  | .nothing => .ok (.ofEntries [])

/-- The document of the configuration file. -/
def load (s : Store) : Except LoadError Yaml.Document :=
  match s.find? with
  | some path => s.loadFrom path
  | none => .ok (.ofEntries [])

/-- The files of variables that the configuration file names. -/
def namedPaths (s : Store) : List String :=
  match s.load with
  | .ok d => (((Sources.ofEntries d.sections).toOption.map Sources.files).getD []).map resolvedPath
  | .error _ => []

/-- The settings that files and environment give now. -/
def current (s : Store) : Except LoadError Settings := do
  Settings.layered s.files s.environment (← s.load).sections

/-- The settings that are kept, else the current ones, which are kept from then on. -/
def settings (s : Store) : Except LoadError Settings × Store :=
  match s.kept with
  | some settings => (.ok settings, s)
  | none =>
    match s.current with
    | .ok settings => (.ok settings, { s with kept := some settings })
    | .error e => (.error e, s)

/-- The current settings, whatever was kept. -/
def reload (s : Store) : Except LoadError Settings × Store :=
  settings { s with kept := none }

/-- Why a value is not set. -/
inductive SetError where
  | load (e : LoadError)
  /-- The path leads through a value that is no mapping. -/
  | blocked (key : String)
  | numeral (e : NumeralError)
  /-- The file with the value cannot be written; it is empty then. -/
  | write (e : Yaml.WriteError)
  deriving Repr

/-- What was written: the path of the file and the value that was set. -/
structure Written where
  path : String
  value : Yaml.Scalar
  deriving Repr

/-- The configuration file with the value of a text at a dotted path. The way is looked at before the text. -/
def edited (s : Store) (path dotted text : String) : Except SetError (Yaml.Scalar × Yaml.Document) := do
  let d ← (s.loadFrom path).mapError .load
  let keys := pathOf dotted
  match blockedAt? d keys d.entries with
  | some key => .error (.blocked key)
  | none =>
    let value ← (coerce text).mapError .numeral
    return (value, setIn d keys (.scalar value))

/-- The value of a text set at a dotted path in the configuration file. -/
def set (s : Store) (dotted text : String) : Except SetError Written × Store :=
  let path := s.find?.getD defaultPath
  match s.edited path dotted text with
  | .error e => (.error e, s)
  | .ok (value, d) =>
    match d.written with
    | .ok t => (.ok ⟨path, value⟩, s.withFile path t)
    | .error e => (.error (.write e), s.withFile path "")

end Store

end RanConsole.Config

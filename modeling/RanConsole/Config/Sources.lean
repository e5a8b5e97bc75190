import RanConsole.Config.Environment
import RanConsole.Config.EnvironmentFile
import RanConsole.Config.Path

/-!
# Sources of settings

Entries of the configuration file whose names begin with `_` say where else settings come from: how variables are named, files of
variables, and directories in which a file holds a section as JSON. The environment wins over the files of variables, and those win
over the directories. An entry can also hold a command line, which would win over all others; it is not read here.
-/

namespace RanConsole.Config

/-- Why the sources cannot be read. -/
inductive SourceError where
  /-- A section is no JSON text. -/
  | badSection (e : Json.ReadError)
  /-- A directory of sections is a file, or names do not begin with a text. -/
  | badSource
  /-- An entry that names a source is of the wrong kind. -/
  | wrongKind
  deriving Repr

/-- Whether a value counts as none: null, false, zero, and all that is empty. -/
def isNothing : Yaml → Bool
  | .scalar .null | .scalar (.bool false) | .scalar (.str "") | .scalar (.octets []) | .list [] | .map [] | .set [] => true
  | .scalar (.int i) => i == 0
  | .scalar (.float x) => x.isZero
  | _ => false

/-- Where settings come from besides the configuration file. -/
structure Sources where
  naming : Naming := {}
  /-- Files of variables, those that win last. -/
  files : List String := []
  /-- Directories with a file for each section, those that win last. -/
  directories : List String := []
  deriving Repr

namespace Sources

/-- A text that an entry holds, none if it is null or not there. -/
def text? (entries : Yaml.Entries) (name : String) : Except SourceError (Option String) :=
  match Mapping.get? (.text name) entries with
  | none | some (.scalar .null) => .ok none
  | some (.scalar (.str s)) => .ok (some s)
  | some _ => .error .wrongKind

/-- Whether an entry is there that counts as something. -/
def isSet (entries : Yaml.Entries) (name : String) : Bool :=
  ((Mapping.get? (.text name) entries).map fun v => !isNothing v).getD false

/-- The paths that an entry holds: one, or a list of them. -/
def paths (entries : Yaml.Entries) (name : String) : Except SourceError (List String) :=
  match Mapping.get? (.text name) entries with
  | none | some (.scalar .null) => .ok []
  | some (.scalar (.str s)) => .ok [s]
  | some (.list items) =>
    items.mapM fun v =>
      match v with
      | .scalar (.str s) => .ok s
      | _ => .error .wrongKind
  | some _ => .error .wrongKind

/-- What stands between names. Another value than a text divides no name. -/
def nesting (entries : Yaml.Entries) : String :=
  let usual : Naming := {}
  match Mapping.get? (.text "_env_nested_delimiter") entries with
  | none | some (.scalar .null) => usual.nesting
  | some (.scalar (.str s)) => s
  | some _ => ""

/-- The greatest number of names after a section, if there is one. -/
def depth (entries : Yaml.Entries) : Option Nat :=
  match Mapping.get? (.text "_env_nested_max_split") entries with
  | some (.scalar s) => (s.integer?.map Int.toNat).filter (0 < ·)
  | _ => none

/-- Whether an entry holds a command line. -/
def holdsCommandLine (entries : Yaml.Entries) : Bool :=
  match Mapping.get? (.text "_cli_parse_args") entries with
  | none | some (.scalar .null) | some (.scalar (.bool false)) | some (.list []) => false
  | some (.scalar (.int i)) => i != 0
  | some (.scalar (.float x)) => !x.isZero
  | some _ => true

/-- The sources that entries name. A command line is refused, whatever it holds. -/
def ofEntries (entries : Yaml.Entries) : Except SourceError Sources := do
  let usual : Naming := {}
  let start ← (text? entries "_env_prefix").mapError fun _ => .badSource
  let nullWord := ((text? entries "_env_parse_none_str").toOption).join
  let naming : Naming :=
    { start := start.getD usual.start, nesting := nesting entries, exactCase := isSet entries "_case_sensitive"
      skipsEmpty := isSet entries "_env_ignore_empty", nullWord, depth := depth entries }
  if holdsCommandLine entries then throw .wrongKind
  return { naming, files := ← paths entries "_env_file", directories := ← paths entries "_secrets_dir" }

/-- The variables in the files of variables that are there. -/
def assigned (s : Sources) (files : List (String × String)) (env : Environment) : List (String × Option String) :=
  (s.files.filterMap fun path => Mapping.get? (resolvedPath path) files).foldl
    (fun found text => Mapping.putAll found (EnvironmentFile.read env.assigned text)) []

/-- The text of the section of a name in a directory, if it is there. -/
def directoryText? (s : Sources) (files : List (String × String)) (directory name : String) : Option String :=
  let wanted := s.naming.folded (s.naming.start ++ name)
  let start := resolvedPath directory ++ "/"
  (files.find? fun (path, _) =>
    start.toList.isPrefixOf path.toList && s.naming.folded (String.ofList (path.toList.drop start.length)) == wanted).map (·.2)

/-- The sections in directories. -/
def directorySections (s : Sources) (files : List (String × String)) : Except SourceError Yaml.Entries := do
  if s.directories.any fun d => Mapping.has (resolvedPath d) files then .error .badSource
  else
    let found ← [serverSection, logSection].mapM fun name =>
      match (s.directories.reverse.filterMap fun d => s.directoryText? files d name).head? with
      | some text => do return some (Yaml.Key.text name, Yaml.ofJson (← (Json.read (trimmed text)).mapError .badSection))
      | none => .ok none
    return found.filterMap id

/-- The sections in the environment, laid over those in files of variables, laid over those in directories. -/
def sections (s : Sources) (files : List (String × String)) (env : Environment) : Except SourceError Yaml.Entries := do
  let own ← (s.naming.sections env.assigned).mapError .badSection
  let fromFiles ← (s.naming.sections (s.assigned files env)).mapError .badSection
  let fromDirectories ← s.directorySections files
  return Yaml.mergeEntries (Yaml.mergeEntries fromDirectories fromFiles) own

end Sources

end RanConsole.Config

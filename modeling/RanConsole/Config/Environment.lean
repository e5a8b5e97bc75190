import RanConsole.Config.Settings
import RanConsole.Json.Reader
import RanConsole.Text.Cut
import RanConsole.Yaml.Merge

/-!
# Settings from the environment

A variable `RANCLI_SERVER` holds the section for the server as JSON, and `RANCLI_SERVER__URL` a single setting of it; likewise for the
log. The letter case of the names does not count, and single settings win over the section. How the variables are named may be
changed.
-/

namespace RanConsole.Config

/-- The variables of the environment. -/
abbrev Environment := List (String × String)

/-- Variables by the names under which they are looked for; some are null. -/
abbrev Variables := List (String × Option String)

/-- How variables are named and read. -/
structure Naming where
  /-- What all names begin with. -/
  start : String := "RANCLI_"
  /-- What stands between the names of a section and of a setting in it; nothing if there are no single settings. -/
  nesting : String := "__"
  /-- Whether the letter case of the names counts. -/
  exactCase : Bool := false
  /-- Whether empty variables are passed over. -/
  skipsEmpty : Bool := false
  /-- The word that means null. -/
  nullWord : Option String := none
  /-- The greatest number of names that a name is made of after the section. -/
  depth : Option Nat := none
  deriving Repr

namespace Naming

/-- A name as it is looked for. -/
def folded (n : Naming) (name : String) : String := if n.exactCase then name else lowerCase name

/-- The variables as they are looked for. -/
def wanted (n : Naming) (vars : List (String × Option String)) : Variables :=
  Mapping.ofPairs ((vars.filter fun (_, v) => !(n.skipsEmpty && v == some "")).map fun (name, v) =>
    (n.folded name, v.filter fun text => n.nullWord != some text))

/-- The names that a name after that of a section is made of. -/
def pathOf (n : Naming) (name : String) : List String :=
  let names := (Text.partsOf n.nesting.toList 0 name.toList).map String.ofList
  match n.depth with
  | some depth =>
    if names.length ≤ depth then names else names.take (depth - 1) ++ [n.nesting.intercalate (names.drop (depth - 1))]
  | none => names

end Naming

/-- A value put into nested mappings at the end of a path. Where a value on the way is no mapping nothing changes. -/
def plant : List String → Yaml → Yaml.Entries → Yaml.Entries
  | [], _, entries => entries
  | [key], v, entries => Mapping.put (.text key) v entries
  | key :: rest, v, entries =>
    match Mapping.get? (.text key) entries with
    | none => Mapping.put (.text key) (.map (plant rest v [])) entries
    | some (.map inner) => Mapping.put (.text key) (.map (plant rest v inner)) entries
    | some _ => entries

/-- The single settings of a section. -/
def nestedEntries (n : Naming) (vars : Variables) (name : String) : Yaml.Entries :=
  let start := n.folded (n.start ++ name) ++ n.nesting
  if n.nesting.isEmpty then []
  else
    vars.foldl
      (fun entries (key, value) =>
        if start.toList.isPrefixOf key.toList then
          plant (n.pathOf (String.ofList (key.toList.drop start.length))) (value.elim .null .text) entries
        else entries)
      []

/-- The entries with the names of settings in their own letter case. -/
def withSettingNames (names : List String) (entries : Yaml.Entries) : Yaml.Entries :=
  Mapping.ofPairs (entries.map fun (key, v) =>
    match key.scalar with
    | .str s => (.text ((names.find? fun name => name == lowerCase s).getD s), v)
    | _ => (key, v))

/-- A section in the variables, if there is one. A section that is null hides its single settings, and so does one that is no
mapping. -/
def variableSection (n : Naming) (vars : Variables) (name : String) (settingNames : List String) :
    Except Json.ReadError (Option Yaml) :=
  let nested := nestedEntries n vars name
  let named (entries : Yaml.Entries) : Yaml := .map (if n.exactCase then entries else withSettingNames settingNames entries)
  let single := if nested.isEmpty then none else some (named nested)
  match Mapping.get? (n.folded (n.start ++ name)) vars with
  | none => .ok single
  | some none => .ok (if n.nullWord.isSome then some .null else single)
  | some (some text) => do
    match Yaml.ofJson (← Json.read text) with
    | .scalar .null => return none
    | .map members => return some (named (Yaml.mergeEntries members nested))
    | v => return some v

/-- The names of the settings of the server. -/
def serverSettingNames : List String := ["url", "token", "timeout", "max_retries"]

/-- The names of the settings of the log. -/
def logSettingNames : List String := ["level", "json_format"]

/-- The sections in variables. -/
def Naming.sections (n : Naming) (vars : List (String × Option String)) : Except Json.ReadError Yaml.Entries := do
  let vars := n.wanted vars
  let server ← variableSection n vars serverSection serverSettingNames
  let log ← variableSection n vars logSection logSettingNames
  return (server.toList.map fun v => (.text serverSection, v)) ++ (log.toList.map fun v => (.text logSection, v))

/-- The variables of the environment, all of which have a value. -/
def Environment.assigned (env : Environment) : List (String × Option String) := env.map fun (name, v) => (name, some v)

/-- The sections in the environment. -/
def Environment.sections (env : Environment) : Except Json.ReadError Yaml.Entries :=
  let n : Naming := {}
  n.sections env.assigned

end RanConsole.Config

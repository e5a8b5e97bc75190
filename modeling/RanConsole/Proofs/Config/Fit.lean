import RanConsole.Proofs.Config.Reload
import RanConsole.Proofs.Results

/-!
# Which sections give settings

A section gives settings if it is a mapping in which every setting that is there passes its check (`sectionFits`). Without entries that
name other sources, a file gives settings if both of its sections do (`isOk_layered`).
-/

namespace RanConsole.Config

open Validation

/-! ## Checks side by side -/

@[simp] theorem isOk_map {α β : Type} (f : α → β) (c : Checked α) : (c.map f).isOk = c.isOk := by
  cases c <;> rfl

@[simp] theorem isOk_ap {α β : Type} (f : Checked (α → β)) (c : Checked α) : (f.ap c).isOk = (f.isOk && c.isOk) := by
  cases f <;> cases c <;> rfl

@[simp] theorem isOk_under {α : Type} (step : String) (c : Checked α) : (c.under step).isOk = c.isOk := by
  cases c <;> rfl

@[simp] theorem isOk_mapError {ε δ α : Type} (f : ε → δ) (c : Except ε α) : (c.mapError f).isOk = c.isOk := by
  cases c <;> rfl

/-! ## Settings of a section -/

/-- The settings of a section by name, each with what it accepts. -/
abbrev Checks := List (String × (Plain → Bool))

/-- What the settings of the server accept. -/
def serverChecks : Checks :=
  [("url", fun p => (checkText p).isOk), ("token", fun p => (checkOptionalText p).isOk),
   ("timeout", fun p => (checkNumber p).isOk), ("max_retries", fun p => (checkUnsigned p).isOk)]

/-- What the settings of the log accept. -/
def logChecks : Checks :=
  [("level", fun p => (checkLevel p).isOk), ("json_format", fun p => (checkBool p).isOk)]

/-- The sections by name, each with its settings. -/
def sectionChecks : List (String × Checks) := [(serverSection, serverChecks), (logSection, logChecks)]

/-- No setting accepts a list, a mapping or anything else that is not simple. -/
theorem not_accepts_other : ∀ part ∈ sectionChecks, ∀ check ∈ part.2, check.2 .other = false := by
  decide

/-- Whether every setting among entries is accepted. -/
def admits (checks : Checks) (entries : Yaml.Entries) : Bool :=
  checks.all fun (name, accepts) => ((Mapping.get? (.text name) entries).map fun v => accepts (plainOf v)).getD true

theorem isOk_setting {α : Type} (entries : Yaml.Entries) (name : String) (default : α) (check : Plain → Checked α) :
    (setting entries name default check).isOk =
      ((Mapping.get? (.text name) entries).map fun v => (check (plainOf v)).isOk).getD true := by
  rw [setting]
  cases Mapping.get? (.text name) entries with
  | none => rfl
  | some v => simp

theorem isOk_serverSettings (entries : Yaml.Entries) : (ServerSettings.ofEntries entries).isOk = admits serverChecks entries := by
  simp [ServerSettings.ofEntries, isOk_setting, admits, serverChecks, Bool.and_assoc]

theorem isOk_logSettings (entries : Yaml.Entries) : (LogSettings.ofEntries entries).isOk = admits logChecks entries := by
  simp [LogSettings.ofEntries, isOk_setting, admits, logChecks]

/-- Whether a section is not there or gives settings. -/
def sectionFits (checks : Checks) : Option Yaml → Bool
  | none => true
  | some (.map inner) => admits checks inner
  | some _ => false

theorem isOk_readValue {α : Type} (v : Option Yaml) (name : String) (default : α) {read : Yaml.Entries → Checked α}
    {checks : Checks} (hRead : ∀ entries, (read entries).isOk = admits checks entries) :
    (readValue v name default read).isOk = sectionFits checks v := by
  cases v with
  | none => rfl
  | some v =>
    cases v with
    | map inner => simp [readValue, Yaml.entries?, sectionFits, hRead]
    | _ => rfl

/-! ## Files that name no other sources -/

/-- The names of entries that say where else settings come from. -/
def sourceNames : List String :=
  ["_env_prefix", "_env_nested_delimiter", "_env_nested_max_split", "_case_sensitive", "_env_ignore_empty", "_env_parse_none_str",
   "_cli_parse_args", "_env_file", "_secrets_dir"]

/-- Whether a mapping has no entry with such a name. -/
def isOrdinary (entries : Yaml.Entries) : Bool := sourceNames.all fun name => (Mapping.get? (.text name) entries).isNone

theorem get?_of_isOrdinary {entries : Yaml.Entries} (h : isOrdinary entries = true) {name : String} (hName : name ∈ sourceNames) :
    Mapping.get? (.text name) entries = none := by
  have hNone := List.all_eq_true.mp h name hName
  rwa [Option.isNone_iff_eq_none] at hNone

theorem has_eq_isSome (name : String) (entries : Yaml.Entries) :
    Mapping.has (.text name) entries = (Mapping.get? (.text name) entries).isSome := by
  rw [Mapping.isSome_get?_iff, Mapping.has, Mapping.keys, List.any_map]
  rfl

/-- Mappings that are the same at the names of sources name the same sources. -/
theorem sources_eq_of_get? {a b : Yaml.Entries} (h : ∀ name ∈ sourceNames, Mapping.get? (.text name) a = Mapping.get? (.text name) b) :
    Sources.ofEntries a = Sources.ofEntries b := by
  have hText (name : String) (hName : name ∈ sourceNames) : Sources.text? a name = Sources.text? b name := by
    rw [Sources.text?, Sources.text?, h name hName]
  have hPaths (name : String) (hName : name ∈ sourceNames) : Sources.paths a name = Sources.paths b name := by
    rw [Sources.paths, Sources.paths, h name hName]
  have hSet (name : String) (hName : name ∈ sourceNames) : Sources.isSet a name = Sources.isSet b name := by
    rw [Sources.isSet, Sources.isSet, h name hName]
  have hNesting : Sources.nesting a = Sources.nesting b := by
    rw [Sources.nesting, Sources.nesting, h _ (by decide)]
  have hDepth : Sources.depth a = Sources.depth b := by
    rw [Sources.depth, Sources.depth, h _ (by decide)]
  have hCommandLine : Sources.holdsCommandLine a = Sources.holdsCommandLine b := by
    rw [Sources.holdsCommandLine, Sources.holdsCommandLine, h _ (by decide)]
  rw [Sources.ofEntries, Sources.ofEntries, hText "_env_prefix" (by decide), hText "_env_parse_none_str" (by decide),
    hPaths "_env_file" (by decide), hPaths "_secrets_dir" (by decide), hSet "_case_sensitive" (by decide),
    hSet "_env_ignore_empty" (by decide), hNesting, hDepth, hCommandLine]

theorem sources_of_isOrdinary {entries : Yaml.Entries} (h : isOrdinary entries = true) : Sources.ofEntries entries = .ok {} := by
  have hEmpty : Sources.ofEntries entries = Sources.ofEntries [] :=
    sources_eq_of_get? fun name hName => get?_of_isOrdinary h hName
  rw [hEmpty]
  rfl

/-- Without other sources only the sections of the environment lie beneath the file. -/
theorem sections_of_no_sources (files : List (String × String)) {env : Environment} {sections : Yaml.Entries}
    (hEnv : env.sections = .ok sections) : Sources.sections {} files env = .ok (Yaml.mergeEntries [] sections) := by
  have hOwn : Naming.sections {} env.assigned = .ok sections := hEnv
  have hFiles : Naming.sections {} (Sources.assigned {} files env) = .ok [] := by
    have hNone : hasNoVariables [] = true := rfl
    exact sections_of_hasNoVariables hNone
  have hDirectories : Sources.directorySections {} files = .ok [] := rfl
  rw [Sources.sections, hOwn, hFiles, hDirectories]
  simp only [bind, Except.bind, Except.mapError, Yaml.mergeEntries, pure, Except.pure]

theorem valueOver_nil (entries : Yaml.Entries) (name : String) : valueOver false [] entries name = section? false name entries := by
  rw [valueOver]
  cases section? false name entries with
  | none => rfl
  | some v =>
    cases v with
    | map inner => simp [layered_map]
    | _ => exact congrArg some (layered_of_entries?_eq_none _ rfl)

/-- Whether a mapping has an entry that no file can have. -/
def hasReserved (entries : Yaml.Entries) : Bool := reservedNames.any fun name => Mapping.has (.text name) entries

/-- The settings of a file that names no other sources. -/
theorem layered_of_isOrdinary (files : List (String × String)) {env : Environment} (hEnv : env.sections = .ok [])
    {entries : Yaml.Entries} (h : isOrdinary entries = true) :
    Settings.layered files env entries =
      if allTexts entries && !hasReserved entries then
        (Settings.ofEntries (sectionsOver false [] entries)).mapError .invalid
      else .error .keyNotText := by
  rw [layered_of_sections_nil files hEnv, sources_of_isOrdinary h, ← hasReserved]
  cases allTexts entries with
  | false => rfl
  | true =>
    cases hasReserved entries with
    | true => rfl
    | false =>
      simp only [Except.mapError, Except.bind, sections_of_no_sources files hEnv, Yaml.mergeEntries]
      rfl

/-- A file gives settings if all keys are texts, none of them is reserved and both sections give settings. -/
theorem isOk_layered (files : List (String × String)) {env : Environment} (hEnv : env.sections = .ok [])
    {entries : Yaml.Entries} (h : isOrdinary entries = true) :
    (Settings.layered files env entries).isOk =
      (allTexts entries && !hasReserved entries &&
        sectionChecks.all fun (name, checks) => sectionFits checks (section? false name entries)) := by
  rw [layered_of_isOrdinary files hEnv h]
  cases allTexts entries && !hasReserved entries with
  | false => rfl
  | true =>
    rw [if_pos rfl, isOk_mapError, ofEntries_sectionsOver, isOk_ap, isOk_map, isOk_readValue _ _ _ isOk_serverSettings,
      isOk_readValue _ _ _ isOk_logSettings, valueOver_nil, valueOver_nil]
    simp [sectionChecks]

end RanConsole.Config

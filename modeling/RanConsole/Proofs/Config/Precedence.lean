import RanConsole.Proofs.Config.Follows
import RanConsole.Proofs.Yaml.Equality

/-!
# Which source a setting comes from

A setting is read from its variable if that is set, else from the section of the file, else from the sources beneath the file, and has
its default if none of them has it (`Store.settings_follow`). The variable comes first only where the file has the section under its
name as that is written, or has no such section: one whose name is in another letter case is looked at before the variables, so that
the statement that a variable always wins is false (`Store.settings_capitalSection_false`).
-/

namespace RanConsole.Config

open Validation

/-! ## The environment over the file -/

/-- What a setting is read from in the environment: the text of its variable. -/
def inVariable (env : Environment) (part name : String) : Option Plain := (variableText? env part name).map .text

theorem entriesIn_cons (other : Yaml.Entries) (key : Yaml.Key) (v : Yaml) (entries : Yaml.Entries) :
    entriesIn other ((key, v) :: entries) =
      if Mapping.has key other then (key, v) :: entriesIn other entries else entriesIn other entries := by
  rw [entriesIn, List.filter_cons]
  rfl

theorem get?_entriesIn (other : Yaml.Entries) (name : String) (entries : Yaml.Entries) :
    Mapping.get? (.text name) (entriesIn other entries) =
      if (Mapping.get? (.text name) other).isSome then Mapping.get? (.text name) entries else none := by
  induction entries with
  | nil => exact (ite_self _).symm
  | cons entry entries ih =>
    obtain ⟨key, v⟩ := entry
    rw [entriesIn_cons, Mapping.get?_cons, Yaml.beq_text]
    by_cases hKey : key.scalar = .str name
    · have hHas : Mapping.has key other = (Mapping.get? (.text name) other).isSome := by
        rw [← has_eq_isSome, Mapping.has, Mapping.has]
        exact congrArg (fun s => other.any fun entry => entry.1.scalar.sameKey s) hKey
      rw [hHas, if_pos (beq_iff_eq.mpr hKey)]
      by_cases hSome : (Mapping.get? (.text name) other).isSome = true
      · rw [if_pos hSome, if_pos hSome, Mapping.get?_cons, Yaml.beq_text, if_pos (beq_iff_eq.mpr hKey)]
      · rw [if_neg hSome, if_neg hSome, ih, if_neg hSome]
    · have hNe : ¬ (key.scalar == .str name) = true := fun h => hKey (eq_of_beq h)
      rw [if_neg hNe, ← ih]
      by_cases hHas : Mapping.has key other = true
      · rw [if_pos hHas, Mapping.get?_cons, Yaml.beq_text, if_neg hNe]
      · rw [if_neg hHas]

/-- What the checked settings of the environment give of a section. -/
def givenSection (env : Environment) (part : String) (entries : Yaml.Entries) : Option Yaml :=
  (ownSection env part).map fun _ => .map (entriesIn (ownEntries env part) entries)

theorem isUpper_givenSection (env : Environment) (part : String) {entries : Yaml.Entries} (h : Mapping.Distinct entries) :
    IsUpper (givenSection env part entries) := by
  intro w hw
  obtain ⟨-, -, rfl⟩ := Option.map_eq_some_iff.mp hw
  exact ⟨_, rfl, h.sublist ((List.filter_sublist).map _)⟩

section

variable {env : Environment} (hOnly : holdsOnlySingle env = true) {part name : String} (hSetting : (part, name) ∈ settingNames)

include hOnly hSetting

theorem fieldOf_ownSection : fieldOf (ownSection env part) name = inVariable env part name := by
  have hOwn := get?_ownEntries hOnly hSetting
  rw [ownSection, inVariable]
  by_cases hEmpty : (ownEntries env part).isEmpty = true
  · rw [List.isEmpty_iff.mp hEmpty, Mapping.get?_nil, eq_comm, Option.map_eq_none_iff] at hOwn
    rw [if_pos hEmpty, hOwn]
    rfl
  · rw [if_neg hEmpty, fieldOf_map, hOwn, Option.map_map]
    rfl

theorem fieldOf_givenSection (entries : Yaml.Entries) :
    fieldOf (givenSection env part entries) name = shownOf (inVariable env part) entries name := by
  have hOwn := get?_ownEntries hOnly hSetting
  rw [givenSection, ownSection, shownOf, inVariable, Option.isSome_map]
  by_cases hEmpty : (ownEntries env part).isEmpty = true
  · rw [List.isEmpty_iff.mp hEmpty, Mapping.get?_nil, eq_comm, Option.map_eq_none_iff] at hOwn
    rw [if_pos hEmpty, hOwn]
    rfl
  · rw [if_neg hEmpty, Option.map_some, fieldOf_map, get?_entriesIn, hOwn, Option.isSome_map, fieldOf_map]
    exact apply_ite (Option.map plainOf) _ _ _

end

theorem get?_ownSections {env : Environment} (hOnly : holdsOnlySingle env = true) {sections : Yaml.Entries}
    (hSections : env.sections = .ok sections) {part : String} (hPart : part ∈ [serverSection, logSection]) :
    Mapping.get? (.text part) sections = ownSection env part := by
  rw [sections_of_holdsOnlySingle hOnly] at hSections
  rw [← Except.ok.inj hSections, get?_filterMap_names, if_pos hPart]

/-- A file with the checked settings of the environment laid over it. -/
def merged (env : Environment) (file : Yaml.Entries) (own : Settings) : Yaml.Entries :=
  laidOver (laidOver file serverSection (givenSection env serverSection own.server.entries)) logSection
    (givenSection env logSection own.log.entries)

theorem mergeEntries_given {env : Environment} (hOnly : holdsOnlySingle env = true) {sections : Yaml.Entries}
    (hSections : env.sections = .ok sections) (file : Yaml.Entries) (own : Settings) :
    Yaml.mergeEntries file (own.given sections) = merged env file own := by
  rw [Settings.given]
  dsimp only
  rw [get?_ownSections hOnly hSections (by decide), get?_ownSections hOnly hSections (by decide)]
  simp only [merged, givenSection, ownSection]
  by_cases hServer : (ownEntries env serverSection).isEmpty = true
  all_goals by_cases hLog : (ownEntries env logSection).isEmpty = true
  all_goals simp [hServer, hLog, laidOver, Yaml.mergeEntries]

theorem section?_merged_server (exactCase : Bool) (env : Environment) (file : Yaml.Entries) (own : Settings) :
    (section? exactCase serverSection (merged env file own)) =
      sectionWith exactCase serverSection file (givenSection env serverSection own.server.entries) := by
  rw [merged, section?_laidOver_other (by decide), section?_laidOver]

theorem section?_merged_log (exactCase : Bool) (env : Environment) (file : Yaml.Entries) (own : Settings) :
    (section? exactCase logSection (merged env file own)) =
      sectionWith exactCase logSection file (givenSection env logSection own.log.entries) := by
  rw [merged, section?_laidOver, sectionWith_laidOver_other (by decide)]

/-- What a setting is read from: its variable, else the section of the file, else the sources beneath the file. Where the file has the
section under another name than the one that is written, the variable does not count. -/
def decided (env : Environment) (exactCase : Bool) (beneath file : Yaml.Entries) (part name : String) : Option Plain :=
  firstOf (leads exactCase part file) (inVariable env part name) (fieldOf (section? exactCase part file) name)
    (fieldOf (Mapping.get? (.text part) beneath) name)

/-- What a setting is read from in the section of a file with the checked settings of the environment laid over it. -/
theorem fieldOf_merged {env : Environment} (hOnly : holdsOnlySingle env = true) {part name : String}
    (hSetting : (part, name) ∈ settingNames) {exactCase : Bool} {beneath file whole entries : Yaml.Entries}
    (hFile : ∀ entry ∈ file, entry.2.IsDistinct) (hEntries : Mapping.Distinct entries)
    (hWhole : section? exactCase part whole = sectionWith exactCase part file (givenSection env part entries))
    (hMap : ∀ v ∈ valueOver exactCase beneath whole part, v.entries?.isSome) :
    fieldOf (valueOver exactCase beneath whole part) name =
      firstOf (leads exactCase part file) (shownOf (inVariable env part) entries name) (fieldOf (section? exactCase part file) name)
        (fieldOf (Mapping.get? (.text part) beneath) name) := by
  have hUpper := isUpper_givenSection env part hEntries
  have hSection : ∀ v ∈ section? exactCase part file, v.IsDistinct := by
    intro v hv
    obtain ⟨key, hMem⟩ := mem_of_section? hv
    exact hFile (key, v) hMem
  rw [fieldOf_valueOver (hWhole ▸ isDistinct_sectionWith hUpper hSection) hMap, hWhole, fieldOf_sectionWith hUpper,
    fieldOf_givenSection hOnly hSetting]
  rfl

/-- The steps in which a file and the environment give settings. -/
theorem layered_eq_ok {files : List (String × String)} {env : Environment} {file : Yaml.Entries} {settings : Settings}
    (h : Settings.layered files env file = .ok settings) :
    ∃ sections own sources beneath, env.sections = .ok sections ∧ Settings.ofEntries sections = .ok own ∧
      Sources.ofEntries (Yaml.mergeEntries file (own.given sections)) = .ok sources ∧ sources.sections files env = .ok beneath ∧
      Settings.ofEntries (sectionsOver sources.naming.exactCase beneath (Yaml.mergeEntries file (own.given sections))) =
        .ok settings := by
  obtain ⟨sections, hSections, hRest⟩ := ok_bind h
  obtain ⟨own, hOwn, hRest⟩ := ok_bind hRest
  dsimp only at hRest
  split at hRest
  · cases hRest
  · obtain ⟨sources, hSources, hRest⟩ := ok_bind hRest
    obtain ⟨beneath, hBeneath, hRest⟩ := ok_bind hRest
    exact ⟨sections, own, sources, beneath, ok_mapError hSections, ok_mapError hOwn, ok_mapError hSources, ok_mapError hBeneath,
      ok_mapError hRest⟩

theorem distinct_serverEntries (s : ServerSettings) : Mapping.Distinct s.entries := by
  have hKeys : ([.text "url", .text "token", .text "timeout", .text "max_retries"] : List Yaml.Key).Pairwise
      fun k other => (k == other) = false := by
    decide
  exact hKeys

theorem distinct_logEntries (s : LogSettings) : Mapping.Distinct s.entries := by
  have hKeys : ([.text "level", .text "json_format"] : List Yaml.Key).Pairwise fun k other => (k == other) = false := by
    decide
  exact hKeys

/-- The settings that a file and the environment give follow what is decided for each of them. -/
theorem follows_decided {files : List (String × String)} {env : Environment} {file : Yaml.Entries} {settings : Settings}
    (hOnly : holdsOnlySingle env = true) (hFile : ∀ entry ∈ file, entry.2.IsDistinct)
    (h : Settings.layered files env file = .ok settings) :
    ∃ sources beneath, Sources.ofEntries file = .ok sources ∧ sources.sections files env = .ok beneath ∧
      settings.Follows (decided env sources.naming.exactCase beneath file) := by
  obtain ⟨sections, own, sources, beneath, hSections, hOwn, hSources, hBeneath, hSettings⟩ := layered_eq_ok h
  rw [mergeEntries_given hOnly hSections] at hSources hSettings
  refine ⟨sources, beneath, ?_, hBeneath, ?_⟩
  · rw [← hSources]
    refine (sources_eq_of_get? fun name hName => ?_).symm
    have hNe : ∀ name ∈ sourceNames, serverSection ≠ name ∧ logSection ≠ name := by
      decide
    rw [merged, get?_laidOver_of_ne (hNe name hName).2, get?_laidOver_of_ne (hNe name hName).1]
  obtain ⟨hServer, hLog⟩ := Settings.ofEntries_eq_ok hSettings
  obtain ⟨hOwnServer, hOwnLog⟩ := Settings.ofEntries_eq_ok hOwn
  rw [get?_sectionsOver _ _ _ (by decide)] at hServer hLog
  rw [get?_ownSections hOnly hSections (by decide)] at hOwnServer hOwnLog
  have hServerGiven : own.server.Follows (inVariable env serverSection) :=
    (ServerSettings.follows_readValue hOwnServer).congr fun name hName => fieldOf_ownSection hOnly (mem_settingNames_server hName)
  have hLogGiven : own.log.Follows (inVariable env logSection) :=
    (LogSettings.follows_readValue hOwnLog).congr fun name hName => fieldOf_ownSection hOnly (mem_settingNames_log hName)
  refine ⟨hServerGiven.of_shown ?_, hLogGiven.of_shown ?_⟩
  · exact (ServerSettings.follows_readValue hServer).congr fun name hName =>
      fieldOf_merged hOnly (mem_settingNames_server hName) hFile (distinct_serverEntries own.server) (section?_merged_server ..)
        (isSome_entries?_of_readValue hServer)
  · exact (LogSettings.follows_readValue hLog).congr fun name hName =>
      fieldOf_merged hOnly (mem_settingNames_log hName) hFile (distinct_logEntries own.log) (section?_merged_log ..)
        (isSome_entries?_of_readValue hLog)

/-! ## Files that name no other sources -/

/-- What lies beneath a file that names no other sources are the variables again. -/
theorem fieldOf_beneath {env : Environment} (hOnly : holdsOnlySingle env = true) {files : List (String × String)}
    {beneath : Yaml.Entries} (hBeneath : Sources.sections {} files env = .ok beneath) {part name : String}
    (hSetting : (part, name) ∈ settingNames) : fieldOf (Mapping.get? (.text part) beneath) name = inVariable env part name := by
  have hSections := sections_of_holdsOnlySingle hOnly
  rw [sections_of_no_sources files hSections, Except.ok.injEq] at hBeneath
  have hSame : beneath = [serverSection, logSection].filterMap fun part => (ownSection env part).map fun v => (.text part, v) := by
    rw [← hBeneath, List.filterMap_cons, List.filterMap_cons, List.filterMap_nil]
    simp only [ownSection]
    by_cases hServer : (ownEntries env serverSection).isEmpty = true
    all_goals by_cases hLog : (ownEntries env logSection).isEmpty = true
    all_goals simp [hServer, hLog, Yaml.mergeEntries, Yaml.layered, Mapping.put, Mapping.get?_cons, serverSection_ne_logSection]
  rw [hSame, get?_filterMap_names, if_pos (mem_sections_of_mem_settingNames hSetting), fieldOf_ownSection hOnly hSetting]

/-- What a setting is read from if the file names no other sources: its variable and then the file, or first the file if that has the
section under another name than the one that is written. -/
def preferred (env : Environment) (file : Yaml.Entries) (part name : String) : Option Plain :=
  let inFile := fieldOf (section? false part file) name
  if leadsTo part file part then (inVariable env part name).or inFile else inFile.or (inVariable env part name)

theorem follows_preferred {files : List (String × String)} {env : Environment} {file : Yaml.Entries} {settings : Settings}
    (hOnly : holdsOnlySingle env = true) (hFile : ∀ entry ∈ file, entry.2.IsDistinct) (hOrdinary : isOrdinary file = true)
    (h : Settings.layered files env file = .ok settings) : settings.Follows (preferred env file) := by
  obtain ⟨sources, beneath, hSources, hBeneath, hFollows⟩ := follows_decided hOnly hFile h
  obtain rfl : {} = sources := Except.ok.inj ((sources_of_isOrdinary hOrdinary).symm.trans hSources)
  refine hFollows.congr fun part name hSetting => ?_
  have hLeads : leads false part file = leadsTo part file part := Bool.false_or _
  rw [decided, preferred, fieldOf_beneath hOnly hBeneath hSetting, firstOf, hLeads]
  by_cases h : leadsTo part file part = true
  · -- the variable lies beneath the file too, where nothing is left for it to decide
    rw [if_pos h, if_pos h]
    cases inVariable env part name <;> cases fieldOf (section? false part file) name <;> rfl
  · rw [if_neg h, if_neg h]
    rfl

/-! ## Entries that no setting is read from -/

/-- A section without the entries that are under no name of a setting. -/
def knownIn (names : List String) : Yaml → Yaml
  | .map entries => .map (entries.filter fun (key, _) => names.any fun name => key.scalar == .str name)
  | v => v

/-- A file without the entries that are under no name of a section, and without those inside of sections that are under no name of a
setting. -/
def known (file : Yaml.Entries) : Yaml.Entries :=
  file.filterMap fun (key, v) =>
    if isSpellingKey serverSection key.scalar then some (key, knownIn serverSettingNames v)
    else if isSpellingKey logSection key.scalar then some (key, knownIn logSettingNames v)
    else none

theorem fieldOf_knownIn {names : List String} {name : String} (hName : name ∈ names) (v : Yaml) :
    fieldOf (some (knownIn names v)) name = fieldOf (some v) name := by
  cases v with
  | map entries =>
    rw [knownIn, fieldOf_map, fieldOf_map]
    refine congrArg (Option.map plainOf) ?_
    induction entries with
    | nil => rfl
    | cons entry entries ih =>
      obtain ⟨key, v⟩ := entry
      rw [List.filter_cons, Mapping.get?_cons, Yaml.beq_text]
      dsimp only
      by_cases hKey : (key.scalar == .str name) = true
      · rw [if_pos hKey, if_pos (List.any_eq_true.mpr ⟨name, hName, hKey⟩), Mapping.get?_cons, Yaml.beq_text, if_pos hKey]
      · rw [if_neg hKey, ← ih]
        split
        · rw [Mapping.get?_cons, Yaml.beq_text, if_neg hKey]
        · rfl
  | _ => rfl

/-- No text is a name of both sections. -/
theorem not_isSpelling_log {s : String} (h : isSpelling serverSection s = true) : isSpelling logSection s = false := by
  have hServer : lowerCase serverSection = serverSection := by decide
  have hLog : lowerCase logSection = logSection := by decide
  have hLower {name : String} (hName : lowerCase name = name) (hSpelling : isSpelling name s = true) : lowerCase s = name := by
    rw [isSpelling, Bool.or_eq_true, beq_iff_eq, beq_iff_eq] at hSpelling
    rcases hSpelling with rfl | hSpelling
    · exact hName
    · exact hSpelling
  rw [Bool.eq_false_iff]
  intro hSpelling
  exact serverSection_ne_logSection ((hLower hServer h).symm.trans (hLower hLog hSpelling))

theorem not_isSpellingKey_log {k : Yaml.Scalar} (h : isSpellingKey serverSection k = true) : isSpellingKey logSection k = false := by
  cases k with
  | str s => exact not_isSpelling_log h
  | _ => rfl

theorem known_cons (key : Yaml.Key) (v : Yaml) (file : Yaml.Entries) :
    known ((key, v) :: file) =
      if isSpellingKey serverSection key.scalar then (key, knownIn serverSettingNames v) :: known file
      else if isSpellingKey logSection key.scalar then (key, knownIn logSettingNames v) :: known file
      else known file := by
  rw [known, List.filterMap_cons]
  dsimp only
  by_cases hServer : isSpellingKey serverSection key.scalar = true
  · rw [if_pos hServer, if_pos hServer]
    rfl
  · rw [if_neg hServer, if_neg hServer]
    by_cases hLog : isSpellingKey logSection key.scalar = true
    · rw [if_pos hLog, if_pos hLog]
      rfl
    · rw [if_neg hLog, if_neg hLog]
      rfl

/-- The sections with the names of their settings. -/
def sectionNames : List (String × List String) := [(serverSection, serverSettingNames), (logSection, logSettingNames)]

/-- A file and what is known of it have the same sections, but for entries that no setting is read from, under the same names. -/
theorem section?_known {part : String} {names : List String} (h : (part, names) ∈ sectionNames) (file : Yaml.Entries) :
    (section? false part (known file)) = (section? false part file).map (knownIn names) ∧
      leadsTo part (known file) part = leadsTo part file part := by
  induction file with
  | nil => exact ⟨rfl, rfl⟩
  | cons entry file ih =>
    obtain ⟨key, v⟩ := entry
    rw [known_cons, section?_cons, leadsTo]
    simp only [sectionNames, List.mem_cons, Prod.mk.injEq, List.not_mem_nil, or_false] at h
    by_cases hServer : isSpellingKey serverSection key.scalar = true
    · rw [if_pos hServer, section?_cons, leadsTo]
      rcases h with ⟨rfl, rfl⟩ | ⟨rfl, rfl⟩
      · rw [if_pos hServer, if_pos hServer, if_pos hServer, if_pos hServer]
        exact ⟨rfl, rfl⟩
      · simp only [not_isSpellingKey_log hServer, Bool.false_eq_true, if_false]
        exact ih
    · rw [if_neg hServer]
      by_cases hLog : isSpellingKey logSection key.scalar = true
      · rw [if_pos hLog, section?_cons, leadsTo]
        rcases h with ⟨rfl, rfl⟩ | ⟨rfl, rfl⟩
        · rw [if_neg hServer, if_neg hServer, if_neg hServer, if_neg hServer]
          exact ih
        · rw [if_pos hLog, if_pos hLog, if_pos hLog, if_pos hLog]
          exact ⟨rfl, rfl⟩
      · rw [if_neg hLog]
        rcases h with ⟨rfl, rfl⟩ | ⟨rfl, rfl⟩
        · rw [if_neg hServer, if_neg hServer]
          exact ih
        · rw [if_neg hLog, if_neg hLog]
          exact ih

/-- Entries that no setting is read from do not change what settings are read from. -/
theorem preferred_known (env : Environment) (file : Yaml.Entries) {part name : String} (hSetting : (part, name) ∈ settingNames) :
    preferred env (known file) part name = preferred env file part name := by
  obtain ⟨names, hPart, hName⟩ : ∃ names, (part, names) ∈ sectionNames ∧ name ∈ names := by
    rw [settingNames, List.mem_append, List.mem_map, List.mem_map] at hSetting
    rcases hSetting with ⟨_, hName, hEq⟩ | ⟨_, hName, hEq⟩
    · cases hEq
      exact ⟨serverSettingNames, by decide, hName⟩
    · cases hEq
      exact ⟨logSettingNames, by decide, hName⟩
  obtain ⟨hSection, hLeads⟩ := section?_known hPart file
  have hField : fieldOf (section? false part (known file)) name = fieldOf (section? false part file) name := by
    rw [hSection]
    cases section? false part file with
    | none => rfl
    | some v => exact fieldOf_knownIn hName v
  rw [preferred, preferred, hField, hLeads]

/-! ## The settings of a store -/

namespace Store

/-- In the document of the configuration file each section has each of its keys once. -/
theorem isDistinct_of_load {s : Store} {d : Yaml.Document} (h : s.load = .ok d) : ∀ entry ∈ d.sections, entry.2.IsDistinct := by
  have hEmpty : ∀ entry ∈ (Yaml.Document.ofEntries []).sections, entry.2.IsDistinct := nofun
  rw [load_eq, loadFrom] at h
  split at h
  · rw [readFile] at h
    split at h
    · cases h
    · cases h
    · cases h
      exact hEmpty
    · rename_i hRead
      split at h
      · cases h
        exact hEmpty
      · split at h
        · cases h
          exact Yaml.isDistinct_of_mem_sections hRead
        · cases h
  · cases h
  · cases h
    exact hEmpty

/-- Settings that are not kept yet are those of the file and the environment. -/
theorem settings_eq_layered {s : Store} {d : Yaml.Document} (hKept : s.kept = none) (hLoad : s.load = .ok d) :
    s.settings.1 = Settings.layered s.files s.environment d.sections := by
  have hCurrent : s.current = Settings.layered s.files s.environment d.sections := by
    rw [current, hLoad]
    rfl
  rw [Store.settings, hKept, hCurrent]
  cases Settings.layered s.files s.environment d.sections <;> rfl

section

variable {s : Store} {d : Yaml.Document} {settings : Settings} (hKept : s.kept = none) (hLoad : s.load = .ok d)
  (hOnly : holdsOnlySingle s.environment = true) (hGiven : s.settings.1 = .ok settings)
include hKept hLoad hOnly hGiven

/-- Where the settings come from if the variables that count are those for single settings. Each is read from its variable, the file and
the sources that the file names; a file that names no other sources is preferred to the variables only in a section whose name is in
another letter case, and entries that no setting is read from change no setting. -/
theorem settings_follow :
    (∃ sources beneath, Sources.ofEntries d.sections = .ok sources ∧ sources.sections s.files s.environment = .ok beneath ∧
        settings.Follows (decided s.environment sources.naming.exactCase beneath d.sections)) ∧
      (isOrdinary d.sections = true → settings.Follows (preferred s.environment d.sections) ∧
        ∀ (s' : Store) (d' : Yaml.Document) (settings' : Settings), s'.kept = none → s'.load = .ok d' →
          s'.environment = s.environment → s'.settings.1 = .ok settings' → isOrdinary d'.sections = true →
          known d'.sections = known d.sections → settings' = settings) := by
  have hLayered := (settings_eq_layered hKept hLoad).symm.trans hGiven
  refine ⟨follows_decided hOnly (isDistinct_of_load hLoad) hLayered, fun hOrdinary => ?_⟩
  have hFollows := follows_preferred hOnly (isDistinct_of_load hLoad) hOrdinary hLayered
  refine ⟨hFollows, fun s' d' settings' hKept' hLoad' hEnv hGiven' hOrdinary' hKnown => ?_⟩
  have hLayered' := (settings_eq_layered hKept' hLoad').symm.trans hGiven'
  have hFollows' := follows_preferred (hEnv ▸ hOnly) (isDistinct_of_load hLoad') hOrdinary' hLayered'
  refine hFollows'.unique (hFollows.congr fun part name hSetting => ?_)
  rw [← preferred_known _ _ hSetting, ← hKnown, hEnv, preferred_known _ _ hSetting]

end

/-- A store whose file and environment both say how often a request is repeated. -/
def mixed : Store :=
  { files := [("rancli.yaml", "color: red\nserver:\n  max_retries: 5\n  token: abc\n")]
    environment := [("RANCLI_SERVER__MAX_RETRIES", "3")] }

/-- The settings of that store. -/
def mixedSettings : Settings := { server := { token := some "abc", maxRetries := 3 } }

/-- The same store without the entry that no setting is read from. -/
def unmixed : Store := mixed.withFile "rancli.yaml" "server:\n  max_retries: 5\n  token: abc\n"

/-- The variable wins over the file, though it holds the default, and the colour changes nothing. -/
theorem settings_follow_mixed :
    ∃ d, mixed.load = .ok d ∧ mixed.settings.1 = .ok mixedSettings ∧ mixedSettings.Follows (preferred mixed.environment d.sections) ∧
      ∀ settings, unmixed.settings.1 = .ok settings → settings = mixedSettings := by
  have hLoad : mixed.load = .ok (.ofEntries
      [(.text "color", .text "red"),
        (.text "server", .map [(.text "max_retries", .scalar (.int 5)), (.text "token", .text "abc")])]) :=
    ok_of_toOption (by decide +kernel)
  have hGiven : mixed.settings.1 = .ok mixedSettings :=
    (settings_eq_layered rfl hLoad).trans (ok_of_toOption (by decide +kernel))
  have hUnmixed : unmixed.load = .ok (.ofEntries
      [(.text "server", .map [(.text "max_retries", .scalar (.int 5)), (.text "token", .text "abc")])]) :=
    ok_of_toOption (by decide +kernel)
  obtain ⟨-, hOrdinary⟩ := settings_follow (s := mixed) rfl hLoad (by decide +kernel) hGiven
  obtain ⟨hFollows, hSame⟩ := hOrdinary (by decide)
  refine ⟨_, hLoad, hGiven, hFollows, fun settings hSettings => ?_⟩
  exact hSame unmixed _ settings rfl hUnmixed rfl hSettings (by decide) (by decide)

/-- That a variable always wins over the file is false: a section whose name begins with a capital letter is looked at first. -/
theorem settings_capitalSection_false :
    ¬ ∀ (s : Store) (settings : Settings) (url : String), s.kept = none → holdsOnlySingle s.environment = true →
      s.settings.1 = .ok settings → variableText? s.environment serverSection "url" = some url →
        checkText (.text url) = .ok settings.server.url := by
  intro h
  have hUrl := h
    { files := [("rancli.yaml", "Server:\n  url: http://file:5150\n")], environment := [("RANCLI_SERVER__URL", "http://env:5150")] }
    { server := { url := "http://file:5150" } } "http://env:5150" rfl (by decide) (ok_of_toOption (by decide +kernel)) (by decide)
  exact absurd (Except.ok.inj hUrl) (by decide)

end Store

end RanConsole.Config

import RanConsole.Proofs.Config.Fit

/-!
# Single settings in variables

A variable for a single setting puts its text under the name of the setting into the section. So where the environment has no other
variables for a section (`holdsOnlySingle`), the section holds the texts of those that are set (`get?_ownEntries`), and it is there if
any of them is (`sections_of_holdsOnlySingle`).
-/

namespace RanConsole.Config

/-- The settings, each by the names of its section and its own. -/
def settingNames : List (String × String) :=
  serverSettingNames.map (serverSection, ·) ++ logSettingNames.map (logSection, ·)

theorem serverSection_ne_logSection : serverSection ≠ logSection := by
  decide

theorem mem_sections_of_mem_settingNames {part name : String} (h : (part, name) ∈ settingNames) :
    part ∈ [serverSection, logSection] := by
  have hAll : ∀ setting ∈ settingNames, setting.1 ∈ [serverSection, logSection] := by
    decide
  exact hAll (part, name) h

/-- The name of the variable for a setting, in lower case. -/
def variableName (part name : String) : String := "rancli_" ++ part ++ "__" ++ name

/-- The text of the variable for a setting, if it is set: that of the last variable with this name in any letter case. -/
def variableText? (env : Environment) (part name : String) : Option String :=
  (env.reverse.find? fun (n, _) => lowerCase n == variableName part name).map (·.2)

/-- Whether a name in lower case is that of the variable for a setting, or begins otherwise than those for a section. -/
def isSingle (n : String) : Bool :=
  (settingNames.any fun (part, name) => n == variableName part name) ||
    !([serverSection, logSection].any fun part => ("rancli_" ++ part).toList.isPrefixOf n.toList)

/-- Whether all variables of the environment that count are those for single settings. -/
def holdsOnlySingle (env : Environment) : Bool := env.all fun (n, _) => isSingle (lowerCase n)

/-- The variables of the environment by the names under which they are looked for. -/
def wantedOf (env : Environment) : Variables := Naming.wanted {} env.assigned

/-- What the variables for single settings of a section hold. -/
def ownEntries (env : Environment) (part : String) : Yaml.Entries := nestedEntries {} (wantedOf env) part

/-- The section that the variables for single settings make, if any of them is set. -/
def ownSection (env : Environment) (part : String) : Option Yaml :=
  if (ownEntries env part).isEmpty then none else some (.map (ownEntries env part))

/-! ## Variables by name -/

theorem wantedOf_eq (env : Environment) : wantedOf env = Mapping.ofPairs (env.map fun (n, v) => (lowerCase n, some v)) := by
  rw [wantedOf, Naming.wanted, Environment.assigned, List.filter_eq_self.mpr, List.map_map]
  · rfl
  · intro pair _
    rfl

theorem get?_wantedOf (env : Environment) (part name : String) :
    Mapping.get? (variableName part name) (wantedOf env) = (variableText? env part name).map some := by
  rw [wantedOf_eq, Mapping.get?_ofPairs, ← List.map_reverse, List.find?_map, Option.map_map, variableText?, Option.map_map]
  rfl

theorem isSingle_of_mem_keys {env : Environment} (h : holdsOnlySingle env = true) :
    ∀ k ∈ Mapping.keys (wantedOf env), isSingle k = true := by
  intro k hk
  obtain ⟨n, hName, rfl⟩ := mem_keys_wanted hk
  simp only [Environment.assigned, Mapping.keys, List.map_map, List.mem_map] at hName
  obtain ⟨pair, hPair, rfl⟩ := hName
  exact List.all_eq_true.mp h pair hPair

/-! ## One variable -/

/-- The name of the variable for a whole section. -/
theorem folded_section : ∀ part ∈ [serverSection, logSection],
    ({} : Naming).folded (({} : Naming).start ++ part) = "rancli_" ++ part := by
  decide

/-- What the names of all variables for settings of a section begin with. -/
def sectionStart (part : String) : String := "rancli_" ++ part ++ "__"

theorem pathOf_variableName : ∀ setting ∈ settingNames,
    (sectionStart setting.1).toList.isPrefixOf (variableName setting.1 setting.2).toList = true ∧
      ({} : Naming).pathOf
        (String.ofList ((variableName setting.1 setting.2).toList.drop (sectionStart setting.1).length)) = [setting.2] := by
  decide

/-- The variable for a setting is of no other section. -/
theorem not_begins_of_ne : ∀ setting ∈ settingNames, ∀ part ∈ [serverSection, logSection], setting.1 ≠ part →
    (sectionStart part).toList.isPrefixOf (variableName setting.1 setting.2).toList = false := by
  decide

theorem variableName_inj {part name other : String} (h : variableName part name = variableName part other) : name = other := by
  rw [variableName, variableName] at h
  exact String.append_right_inj _ |>.mp h

/-- A variable that counts is that of a setting of the section, or of none. -/
theorem setting_of_isSingle {k part : String} (h : isSingle k = true) (hPart : part ∈ [serverSection, logSection]) :
    (∃ name, (part, name) ∈ settingNames ∧ k = variableName part name) ∨ (sectionStart part).toList.isPrefixOf k.toList = false := by
  rw [isSingle, Bool.or_eq_true] at h
  rcases h with h | h
  · obtain ⟨⟨other, name⟩, hSetting, hName⟩ := List.any_eq_true.mp h
    rw [beq_iff_eq] at hName
    by_cases hOther : other = part
    · subst hOther
      exact Or.inl ⟨name, hSetting, hName⟩
    · right
      rw [hName]
      exact not_begins_of_ne (other, name) hSetting part hPart hOther
  · right
    rw [Bool.not_eq_true', List.any_eq_false] at h
    rw [Bool.eq_false_iff]
    intro hBegins
    refine h part hPart ?_
    rw [List.isPrefixOf_iff_prefix] at hBegins ⊢
    rw [sectionStart, String.toList_append] at hBegins
    exact (List.prefix_append _ _).trans hBegins

/-- The entries of a section with those of one more variable. -/
def planted (part : String) (entries : Yaml.Entries) (entry : String × Option String) : Yaml.Entries :=
  if (sectionStart part).toList.isPrefixOf entry.1.toList then
    plant (({} : Naming).pathOf (String.ofList (entry.1.toList.drop (sectionStart part).length))) (entry.2.elim .null .text) entries
  else entries

theorem ownEntries_eq (env : Environment) {part : String} (hPart : part ∈ [serverSection, logSection]) :
    ownEntries env part = (wantedOf env).foldl (planted part) [] := by
  rw [ownEntries, nestedEntries, folded_section part hPart]
  rfl

/-- A variable that counts writes its setting, or nothing. -/
theorem planted_eq {k part : String} (h : isSingle k = true) (hPart : part ∈ [serverSection, logSection]) :
    (∃ name, (part, name) ∈ settingNames ∧ k = variableName part name ∧
      ∀ entries v, planted part entries (k, v) = Mapping.put (.text name) (v.elim .null .text) entries) ∨
    (∀ name, (part, name) ∈ settingNames → k ≠ variableName part name) ∧ ∀ entries v, planted part entries (k, v) = entries := by
  rcases setting_of_isSingle h hPart with ⟨name, hSetting, rfl⟩ | hBegins
  · obtain ⟨hStart, hPath⟩ := pathOf_variableName (part, name) hSetting
    refine Or.inl ⟨name, hSetting, rfl, fun entries v => ?_⟩
    rw [planted, if_pos hStart]
    exact congrArg (fun path => plant path (v.elim .null .text) entries) hPath
  · refine Or.inr ⟨fun name hSetting hName => ?_, fun entries v => ?_⟩
    · rw [hName, (pathOf_variableName (part, name) hSetting).1] at hBegins
      cases hBegins
    · rw [planted, if_neg (Bool.eq_false_iff.mp hBegins)]

/-! ## All variables -/

/-- The entries of a section have the names of its settings. -/
theorem mem_keys_foldl_planted {part : String} (hPart : part ∈ [serverSection, logSection]) {vars : Variables}
    (h : ∀ k ∈ Mapping.keys vars, isSingle k = true) :
    ∀ entries : Yaml.Entries, ∀ key ∈ Mapping.keys (vars.foldl (planted part) entries),
      key ∈ Mapping.keys entries ∨ ∃ name, (part, name) ∈ settingNames ∧ key = .text name := by
  induction vars with
  | nil =>
    intro entries key hKey
    exact Or.inl hKey
  | cons entry vars ih =>
    intro entries key hKey
    obtain ⟨k, v⟩ := entry
    rw [List.foldl_cons] at hKey
    rcases ih (fun k hk => h k (List.mem_cons_of_mem _ hk)) _ key hKey with hKey | hName
    · rcases planted_eq (h k (List.mem_cons_self ..)) hPart with ⟨name, hSetting, -, hWrites⟩ | ⟨-, hWrites⟩
      · rw [hWrites] at hKey
        rcases Mapping.mem_keys_put hKey with rfl | hKey
        · exact Or.inr ⟨name, hSetting, rfl⟩
        · exact Or.inl hKey
      · rw [hWrites] at hKey
        exact Or.inl hKey
    · exact Or.inr hName

theorem distinct_foldl_planted {part : String} (hPart : part ∈ [serverSection, logSection]) {vars : Variables}
    (h : ∀ k ∈ Mapping.keys vars, isSingle k = true) :
    ∀ entries : Yaml.Entries, Mapping.Distinct entries → Mapping.Distinct (vars.foldl (planted part) entries) := by
  induction vars with
  | nil =>
    intro entries hEntries
    exact hEntries
  | cons entry vars ih =>
    intro entries hEntries
    obtain ⟨k, v⟩ := entry
    rw [List.foldl_cons]
    refine ih (fun k hk => h k (List.mem_cons_of_mem _ hk)) _ ?_
    rcases planted_eq (h k (List.mem_cons_self ..)) hPart with ⟨name, -, -, hWrites⟩ | ⟨-, hWrites⟩
    · rw [hWrites]
      exact Mapping.distinct_put hEntries _ _
    · rw [hWrites]
      exact hEntries

/-- What a section has at the name of a setting: what its variable holds, else what was there. -/
theorem get?_foldl_planted {part name : String} (hSetting : (part, name) ∈ settingNames) {vars : Variables}
    (hDistinct : Mapping.Distinct vars) (h : ∀ k ∈ Mapping.keys vars, isSingle k = true) :
    ∀ entries : Yaml.Entries, Mapping.get? (.text name) (vars.foldl (planted part) entries) =
      ((Mapping.get? (variableName part name) vars).map fun v => v.elim .null .text).or (Mapping.get? (.text name) entries) := by
  have hPart := mem_sections_of_mem_settingNames hSetting
  induction vars with
  | nil =>
    intro entries
    rfl
  | cons entry vars ih =>
    intro entries
    obtain ⟨k, v⟩ := entry
    rw [List.foldl_cons, ih hDistinct.tail fun k hk => h k (List.mem_cons_of_mem _ hk), Mapping.get?_cons]
    by_cases hName : k = variableName part name
    · have hNone : Mapping.get? (variableName part name) vars = none := by
        rw [← hName]
        exact hDistinct.get?_tail fun other hOther => by rw [eq_of_beq hOther, beq_self_eq_true]
      rcases planted_eq (h k (List.mem_cons_self ..)) hPart with ⟨other, -, hOther, hWrites⟩ | ⟨hNot, -⟩
      · rw [hWrites, hNone, if_pos (beq_iff_eq.mpr hName), variableName_inj (hOther.symm.trans hName), Mapping.get?_put_self]
        rfl
      · exact absurd hName (hNot name hSetting)
    · rw [if_neg (by simpa using hName)]
      refine congrArg (Option.or _) ?_
      rcases planted_eq (h k (List.mem_cons_self ..)) hPart with ⟨other, -, rfl, hWrites⟩ | ⟨-, hWrites⟩
      · rw [hWrites, Yaml.get?_put_text, if_neg]
        rintro rfl
        exact hName rfl
      · rw [hWrites]

/-- The section of the environment has the texts of the variables for its settings. -/
theorem get?_ownEntries {env : Environment} (hOnly : holdsOnlySingle env = true) {part name : String}
    (hSetting : (part, name) ∈ settingNames) :
    Mapping.get? (.text name) (ownEntries env part) = (variableText? env part name).map .text := by
  have hDistinct : Mapping.Distinct (wantedOf env) := by
    rw [wantedOf_eq]
    exact Mapping.distinct_ofPairs _
  rw [ownEntries_eq env (mem_sections_of_mem_settingNames hSetting),
    get?_foldl_planted hSetting hDistinct (isSingle_of_mem_keys hOnly), get?_wantedOf, Option.map_map]
  exact Option.or_none

section

variable {env : Environment} (hOnly : holdsOnlySingle env = true) {part : String} (hPart : part ∈ [serverSection, logSection])

include hOnly hPart

theorem distinct_ownEntries : Mapping.Distinct (ownEntries env part) := by
  rw [ownEntries_eq env hPart]
  exact distinct_foldl_planted hPart (isSingle_of_mem_keys hOnly) [] List.Pairwise.nil

theorem mem_keys_ownEntries {key : Yaml.Key} (h : key ∈ Mapping.keys (ownEntries env part)) :
    ∃ name, (part, name) ∈ settingNames ∧ key = .text name := by
  rw [ownEntries_eq env hPart] at h
  exact (mem_keys_foldl_planted hPart (isSingle_of_mem_keys hOnly) [] key h).resolve_left List.not_mem_nil

/-- There is no variable for the whole section. -/
theorem get?_section_wantedOf : Mapping.get? (({} : Naming).folded (({} : Naming).start ++ part)) (wantedOf env) = none := by
  rw [← Option.not_isSome_iff_eq_none, Mapping.isSome_get?_iff, Bool.not_eq_true, List.any_eq_false]
  intro k hk hName
  have hNotSingle : ∀ part ∈ [serverSection, logSection], isSingle ("rancli_" ++ part) = false := by
    decide
  have hSingle := isSingle_of_mem_keys hOnly k hk
  rw [eq_of_beq hName, folded_section part hPart, hNotSingle part hPart] at hSingle
  cases hSingle

end

/-- The names of the settings of a section are in their own letter case already. -/
theorem find?_settingName : ∀ setting ∈ settingNames, ∀ part ∈ [(serverSection, serverSettingNames), (logSection, logSettingNames)],
    setting.1 = part.1 → (part.2.find? fun name => name == lowerCase setting.2) = some setting.2 := by
  decide

/-- Entries with the names of settings keep them. -/
theorem withSettingNames_eq {names : List String} {entries : Yaml.Entries} (hDistinct : Mapping.Distinct entries)
    (h : ∀ key ∈ Mapping.keys entries, ∃ name, (names.find? fun n => n == lowerCase name) = some name ∧ key = .text name) :
    withSettingNames names entries = entries := by
  rw [withSettingNames]
  refine (congrArg Mapping.ofPairs ((List.map_congr_left fun entry hEntry => ?_).trans (List.map_id entries))).trans
    (Mapping.ofPairs_of_distinct hDistinct)
  obtain ⟨key, v⟩ := entry
  obtain ⟨name, hName, hKey⟩ := h key (List.mem_map_of_mem hEntry)
  obtain rfl : key = .text name := hKey
  simp only [Yaml.Key.text, hName, Option.getD_some, id]

/-- A section in variables for single settings. -/
theorem variableSection_single {env : Environment} (hOnly : holdsOnlySingle env = true) {part : String} {names : List String}
    (hPart : (part, names) ∈ [(serverSection, serverSettingNames), (logSection, logSettingNames)]) :
    variableSection {} (wantedOf env) part names = .ok (ownSection env part) := by
  have hMem : part ∈ [serverSection, logSection] := by
    simp only [List.mem_cons, Prod.mk.injEq, List.not_mem_nil, or_false] at hPart ⊢
    exact hPart.imp And.left And.left
  have hNames : withSettingNames names (ownEntries env part) = ownEntries env part := by
    refine withSettingNames_eq (distinct_ownEntries hOnly hMem) fun key hKey => ?_
    obtain ⟨name, hSetting, hKey⟩ := mem_keys_ownEntries hOnly hMem hKey
    exact ⟨name, find?_settingName (part, name) hSetting (part, names) hPart rfl, hKey⟩
  rw [variableSection, get?_section_wantedOf hOnly hMem]
  have hOwn : nestedEntries {} (wantedOf env) part = ownEntries env part := rfl
  simp only [hOwn, Bool.false_eq_true, if_false, hNames]
  rfl

/-- The sections of an environment with variables for single settings only. -/
theorem sections_of_holdsOnlySingle {env : Environment} (h : holdsOnlySingle env = true) :
    env.sections = .ok ([serverSection, logSection].filterMap fun part => (ownSection env part).map fun v => (.text part, v)) := by
  have hServer : variableSection {} (Naming.wanted {} env.assigned) serverSection serverSettingNames = _ :=
    variableSection_single h (by decide)
  have hLog : variableSection {} (Naming.wanted {} env.assigned) logSection logSettingNames = _ :=
    variableSection_single h (by decide)
  rw [Environment.sections, Naming.sections, hServer, hLog, List.filterMap_cons, List.filterMap_cons, List.filterMap_nil]
  cases ownSection env serverSection <;> cases ownSection env logSection <;> rfl

end RanConsole.Config

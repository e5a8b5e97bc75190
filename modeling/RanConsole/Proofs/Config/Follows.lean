import RanConsole.Proofs.Config.Overlay
import RanConsole.Proofs.Config.Variables

/-!
# What settings are read from

Settings follow the values that they are read from: each has the checked value, or its default if there is none (`Settings.Follows`),
and these values decide the settings (`Settings.Follows.unique`). Values that were checked already are the same when they are checked
once more, so settings that follow them follow what they were checked from (`ServerSettings.Follows.of_shown`).
-/

namespace RanConsole.Config

open Validation

/-! ## Values and settings -/

/-- A setting has the checked value that it is read from, or its default if there is none. -/
def Has {α : Type} (check : Plain → Checked α) (default : α) : Option Plain → α → Prop
  | some p, a => check p = .ok a
  | none, a => a = default

theorem Has.unique {α : Type} {check : Plain → Checked α} {default : α} {p : Option Plain} {a b : α} (ha : Has check default p a)
    (hb : Has check default p b) : a = b := by
  cases p with
  | none => exact ha.trans hb.symm
  | some p => exact Except.ok.inj (ha.symm.trans hb)

/-- The settings of the server have the values that they are read from. -/
structure ServerSettings.Follows (s : ServerSettings) (value : String → Option Plain) : Prop where
  url : Has checkText ({} : ServerSettings).url (value "url") s.url
  token : Has checkOptionalText ({} : ServerSettings).token (value "token") s.token
  timeout : Has checkNumber ({} : ServerSettings).timeout (value "timeout") s.timeout
  maxRetries : Has checkUnsigned ({} : ServerSettings).maxRetries (value "max_retries") s.maxRetries

/-- The settings of the log have the values that they are read from. -/
structure LogSettings.Follows (s : LogSettings) (value : String → Option Plain) : Prop where
  level : Has checkLevel ({} : LogSettings).level (value "level") s.level
  jsonFormat : Has checkBool ({} : LogSettings).jsonFormat (value "json_format") s.jsonFormat

/-- All settings have the values that they are read from, which are given by the names of section and setting. -/
structure Settings.Follows (s : Settings) (value : String → String → Option Plain) : Prop where
  server : s.server.Follows (value serverSection)
  log : s.log.Follows (value logSection)

/-- What the settings are read from decides them. -/
theorem Settings.Follows.unique {s t : Settings} {value : String → String → Option Plain} (hs : s.Follows value)
    (ht : t.Follows value) : s = t := by
  obtain ⟨⟨url, token, timeout, maxRetries⟩, ⟨level, jsonFormat⟩⟩ := s
  obtain ⟨⟨url', token', timeout', maxRetries'⟩, ⟨level', jsonFormat'⟩⟩ := t
  obtain rfl := hs.server.url.unique ht.server.url
  obtain rfl := hs.server.token.unique ht.server.token
  obtain rfl := hs.server.timeout.unique ht.server.timeout
  obtain rfl := hs.server.maxRetries.unique ht.server.maxRetries
  obtain rfl := hs.log.level.unique ht.log.level
  obtain rfl := hs.log.jsonFormat.unique ht.log.jsonFormat
  rfl

theorem ServerSettings.Follows.congr {s : ServerSettings} {value value' : String → Option Plain} (h : s.Follows value)
    (hSame : ∀ name ∈ serverSettingNames, value name = value' name) : s.Follows value' := by
  refine ⟨?_, ?_, ?_, ?_⟩
  · rw [← hSame "url" (by decide)]
    exact h.url
  · rw [← hSame "token" (by decide)]
    exact h.token
  · rw [← hSame "timeout" (by decide)]
    exact h.timeout
  · rw [← hSame "max_retries" (by decide)]
    exact h.maxRetries

theorem LogSettings.Follows.congr {s : LogSettings} {value value' : String → Option Plain} (h : s.Follows value)
    (hSame : ∀ name ∈ logSettingNames, value name = value' name) : s.Follows value' := by
  refine ⟨?_, ?_⟩
  · rw [← hSame "level" (by decide)]
    exact h.level
  · rw [← hSame "json_format" (by decide)]
    exact h.jsonFormat

theorem mem_settingNames_server {name : String} (h : name ∈ serverSettingNames) : (serverSection, name) ∈ settingNames :=
  List.mem_append_left _ (List.mem_map_of_mem h)

theorem mem_settingNames_log {name : String} (h : name ∈ logSettingNames) : (logSection, name) ∈ settingNames :=
  List.mem_append_right _ (List.mem_map_of_mem h)

/-- Only what the settings themselves are read from matters. -/
theorem Settings.Follows.congr {s : Settings} {value value' : String → String → Option Plain} (h : s.Follows value)
    (hSame : ∀ part name, (part, name) ∈ settingNames → value part name = value' part name) : s.Follows value' :=
  ⟨h.server.congr fun name hName => hSame serverSection name (mem_settingNames_server hName),
    h.log.congr fun name hName => hSame logSection name (mem_settingNames_log hName)⟩

/-! ## Settings of a section -/

theorem has_setting {α : Type} {entries : Yaml.Entries} {name : String} {default : α} {check : Plain → Checked α} {a : α}
    (h : setting entries name default check = .ok a) : Has check default ((Mapping.get? (.text name) entries).map plainOf) a := by
  rw [setting_eq] at h
  cases hValue : (Mapping.get? (.text name) entries).map plainOf with
  | none =>
    rw [hValue] at h
    exact (Except.ok.inj h).symm
  | some p =>
    rw [hValue] at h
    exact ok_under h

theorem ServerSettings.follows_ofEntries {entries : Yaml.Entries} {s : ServerSettings} (h : ServerSettings.ofEntries entries = .ok s) :
    s.Follows (fieldOf (some (.map entries))) := by
  obtain ⟨_, _, hThree, hRetries, rfl⟩ := ok_ap h
  obtain ⟨_, _, hTwo, hTimeout, rfl⟩ := ok_ap hThree
  obtain ⟨_, _, hOne, hToken, rfl⟩ := ok_ap hTwo
  obtain ⟨_, hUrl, rfl⟩ := ok_map hOne
  exact ⟨has_setting hUrl, has_setting hToken, has_setting hTimeout, has_setting hRetries⟩

theorem LogSettings.follows_ofEntries {entries : Yaml.Entries} {s : LogSettings} (h : LogSettings.ofEntries entries = .ok s) :
    s.Follows (fieldOf (some (.map entries))) := by
  obtain ⟨_, _, hOne, hFormat, rfl⟩ := ok_ap h
  obtain ⟨_, hLevel, rfl⟩ := ok_map hOne
  exact ⟨has_setting hLevel, has_setting hFormat⟩

/-- A section that gives settings is a mapping or is not there. -/
theorem eq_of_readValue {α : Type} {v : Option Yaml} {name : String} {default a : α} {read : Yaml.Entries → Checked α}
    (h : readValue v name default read = .ok a) :
    (v = none ∧ a = default) ∨ ∃ entries, v = some (.map entries) ∧ read entries = .ok a := by
  cases v with
  | none => exact Or.inl ⟨rfl, (Except.ok.inj h).symm⟩
  | some v =>
    cases v with
    | map entries => exact Or.inr ⟨entries, rfl, ok_under h⟩
    | _ => cases h

theorem isSome_entries?_of_readValue {α : Type} {v : Option Yaml} {name : String} {default a : α} {read : Yaml.Entries → Checked α}
    (h : readValue v name default read = .ok a) : ∀ w ∈ v, w.entries?.isSome := by
  rintro w rfl
  rcases eq_of_readValue h with ⟨hNone, -⟩ | ⟨entries, hMap, -⟩
  · cases hNone
  · rw [Option.some.inj hMap]
    rfl

theorem ServerSettings.follows_readValue {v : Option Yaml} {s : ServerSettings}
    (h : readValue v serverSection {} ServerSettings.ofEntries = .ok s) : s.Follows (fieldOf v) := by
  rcases eq_of_readValue h with ⟨rfl, rfl⟩ | ⟨entries, rfl, hRead⟩
  · exact ⟨rfl, rfl, rfl, rfl⟩
  · exact ServerSettings.follows_ofEntries hRead

theorem LogSettings.follows_readValue {v : Option Yaml} {s : LogSettings}
    (h : readValue v logSection {} LogSettings.ofEntries = .ok s) : s.Follows (fieldOf v) := by
  rcases eq_of_readValue h with ⟨rfl, rfl⟩ | ⟨entries, rfl, hRead⟩
  · exact ⟨rfl, rfl⟩
  · exact LogSettings.follows_ofEntries hRead

/-- Settings come from what a mapping has at the names of the two sections. -/
theorem Settings.ofEntries_eq_ok {entries : Yaml.Entries} {s : Settings} (h : Settings.ofEntries entries = .ok s) :
    readValue (Mapping.get? (.text serverSection) entries) serverSection {} ServerSettings.ofEntries = .ok s.server ∧
      readValue (Mapping.get? (.text logSection) entries) logSection {} LogSettings.ofEntries = .ok s.log := by
  rw [Settings.ofEntries, readSection_eq, readSection_eq] at h
  obtain ⟨_, _, hOne, hLog, rfl⟩ := ok_ap h
  obtain ⟨_, hServer, rfl⟩ := ok_map hOne
  exact ⟨hServer, hLog⟩

/-! ## Settings that are checked twice

What the environment gives is checked by itself first. The checked values are laid over the file and checked again, which leaves
them as they are. -/

theorem checkOptionalText_shown (token : Option String) : checkOptionalText (plainOf (token.elim .null .text)) = .ok token := by
  cases token <;> rfl

theorem checkUnsigned_shown (n : Nat) : checkUnsigned (.int n) = .ok n := by
  have hPos : ¬ (n : Int) < 0 := by omega
  simp only [checkUnsigned, checkInteger, bind, Except.bind, if_neg hPos, Int.toNat_natCast]

theorem checkLevel_shown (level : LogLevel) : checkLevel (.text level.word) = .ok level := by
  cases level <;> decide

/-- What is shown of the checked settings of a section, as far as they were given. -/
def shownOf (given : String → Option Plain) (entries : Yaml.Entries) (name : String) : Option Plain :=
  if (given name).isSome then fieldOf (some (.map entries)) name else none

/-- What is read from the first source, if that counts, else from the next ones. -/
def firstOf (counts : Bool) (first next last : Option Plain) : Option Plain := ((if counts then first else none).or next).or last

/-- A setting that was given has the value that was given. -/
theorem Has.of_shown {α : Type} {check : Plain → Checked α} {default own a : α} {shown : Plain} {given next last : Option Plain}
    {counts : Bool} (hShown : check shown = .ok own) (hOwn : Has check default given own)
    (h : Has check default (firstOf counts (if given.isSome then some shown else none) next last) a) :
    Has check default (firstOf counts given next last) a := by
  cases counts with
  | false => exact h
  | true =>
    cases given with
    | none => exact h
    | some p =>
      obtain rfl : own = a := Except.ok.inj (hShown.symm.trans h)
      exact hOwn

theorem ServerSettings.Follows.of_shown {own s : ServerSettings} {given next last : String → Option Plain} {counts : Bool}
    (hOwn : own.Follows given) (h : s.Follows fun name => firstOf counts (shownOf given own.entries name) (next name) (last name)) :
    s.Follows fun name => firstOf counts (given name) (next name) (last name) :=
  ⟨hOwn.url.of_shown rfl h.url, hOwn.token.of_shown (checkOptionalText_shown own.token) h.token,
    hOwn.timeout.of_shown rfl h.timeout, hOwn.maxRetries.of_shown (checkUnsigned_shown own.maxRetries) h.maxRetries⟩

theorem LogSettings.Follows.of_shown {own s : LogSettings} {given next last : String → Option Plain} {counts : Bool}
    (hOwn : own.Follows given) (h : s.Follows fun name => firstOf counts (shownOf given own.entries name) (next name) (last name)) :
    s.Follows fun name => firstOf counts (given name) (next name) (last name) :=
  ⟨hOwn.level.of_shown (checkLevel_shown own.level) h.level, hOwn.jsonFormat.of_shown rfl h.jsonFormat⟩

end RanConsole.Config

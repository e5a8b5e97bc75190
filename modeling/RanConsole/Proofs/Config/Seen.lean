import RanConsole.Config.Store
import RanConsole.Proofs.Mapping

/-!
# What settings see of a mapping

Settings look at the keys of a mapping, at what its values are as simple values, and at the items and entries of those (`Seen`).
Mappings in which they see the same give the same settings (`layered_congr`), so a document that is written and read again gives the
same settings even if its shared parts have other names then.
-/

namespace RanConsole.Config

open Validation

/-! ## Views -/

/-- What settings see of a value. -/
structure Seen where
  plain : Plain
  isNothing : Bool
  /-- The items of a list. -/
  items : Option (List Plain)
  /-- The entries of a mapping. -/
  entries : Option (List (Yaml.Scalar × Plain))
  deriving DecidableEq, Repr

/-- What settings see of the entries of a section. -/
def seenEntries (entries : Yaml.Entries) : List (Yaml.Scalar × Plain) := entries.map fun (key, v) => (key.scalar, plainOf v)

/-- What settings see of a value. -/
def seen (v : Yaml) : Seen :=
  { plain := plainOf v, isNothing := isNothing v
    items :=
      match v with
      | .list items => some (items.map plainOf)
      | _ => none
    entries := v.entries?.map seenEntries }

/-- What settings see of a mapping with sections. -/
def seenSections (entries : Yaml.Entries) : List (Yaml.Scalar × Seen) := entries.map fun (key, v) => (key.scalar, seen v)

/-- Looking up a text does not need more of a mapping than its scalars and what is seen of its values. -/
theorem get?_view {α : Type} (f : Yaml → α) (name : String) (entries : Yaml.Entries) :
    Mapping.get? (Yaml.Scalar.str name) (entries.map fun (key, v) => (key.scalar, f v)) =
      (Mapping.get? (.text name) entries).map f := by
  induction entries with
  | nil => rfl
  | cons entry entries ih =>
    obtain ⟨key, v⟩ := entry
    rw [List.map_cons, Mapping.get?_cons, Mapping.get?_cons, Yaml.beq_text]
    by_cases h : (key.scalar == Yaml.Scalar.str name) = true
    · rw [if_pos h, if_pos h, Option.map_some]
    · rw [if_neg h, if_neg h, ih]

/-- Mappings that look the same have at each text what looks the same. -/
theorem seen_get?_congr {a b : Yaml.Entries} (h : seenSections a = seenSections b) (name : String) :
    (Mapping.get? (.text name) a).map seen = (Mapping.get? (.text name) b).map seen := by
  rw [← get?_view, ← get?_view]
  exact congrArg (Mapping.get? (Yaml.Scalar.str name)) h

theorem plain_get?_congr {a b : Yaml.Entries} (h : seenEntries a = seenEntries b) (name : String) :
    (Mapping.get? (.text name) a).map plainOf = (Mapping.get? (.text name) b).map plainOf := by
  rw [← get?_view, ← get?_view]
  exact congrArg (Mapping.get? (Yaml.Scalar.str name)) h

/-! ## Names of entries -/

theorem allTexts_eq (entries : Yaml.Entries) :
    allTexts entries = (seenSections entries).all fun (s, _) =>
      match s with
      | .str _ => true
      | _ => false := by
  rw [seenSections, List.all_map]
  rfl

theorem has_eq (name : String) (entries : Yaml.Entries) :
    Mapping.has (.text name) entries = (seenSections entries).any fun (s, _) => s == .str name := by
  rw [Mapping.has, seenSections, List.any_map]
  simp only [Yaml.beq_text]
  rfl

/-! ## Sources -/

/-- The text of a value, none if it is null or not there. -/
theorem text?_eq (entries : Yaml.Entries) (name : String) :
    Sources.text? entries name =
      match ((Mapping.get? (.text name) entries).map seen).map Seen.plain with
      | none | some .null => .ok none
      | some (.text s) => .ok (some s)
      | some _ => .error .wrongKind := by
  rw [Sources.text?]
  cases Mapping.get? (.text name) entries with
  | none => rfl
  | some v =>
    cases v with
    | scalar s => cases s <;> rfl
    | _ => rfl

theorem isSet_eq (entries : Yaml.Entries) (name : String) :
    Sources.isSet entries name = (((Mapping.get? (.text name) entries).map seen).map fun v => !v.isNothing).getD false := by
  rw [Sources.isSet]
  cases Mapping.get? (.text name) entries <;> rfl

theorem nesting_eq (entries : Yaml.Entries) :
    Sources.nesting entries =
      match ((Mapping.get? (.text "_env_nested_delimiter") entries).map seen).map Seen.plain with
      | none | some .null => ({} : Naming).nesting
      | some (.text s) => s
      | some _ => "" := by
  rw [Sources.nesting]
  cases Mapping.get? (.text "_env_nested_delimiter") entries with
  | none => rfl
  | some v =>
    cases v with
    | scalar s => cases s <;> rfl
    | _ => rfl

theorem depth_eq (entries : Yaml.Entries) :
    Sources.depth entries =
      match ((Mapping.get? (.text "_env_nested_max_split") entries).map seen).map Seen.plain with
      | some (.bool b) => ((Yaml.Scalar.bool b).integer?.map Int.toNat).filter (0 < ·)
      | some (.int i) => ((Yaml.Scalar.int i).integer?.map Int.toNat).filter (0 < ·)
      | some (.float x) => ((Yaml.Scalar.float x).integer?.map Int.toNat).filter (0 < ·)
      | _ => none := by
  rw [Sources.depth]
  cases Mapping.get? (.text "_env_nested_max_split") entries with
  | none => rfl
  | some v =>
    cases v with
    | scalar s => cases s <;> rfl
    | _ => rfl

theorem paths_eq (entries : Yaml.Entries) (name : String) :
    Sources.paths entries name =
      match ((Mapping.get? (.text name) entries).map seen).map fun v => (v.plain, v.items) with
      | none | some (.null, _) => .ok []
      | some (.text s, _) => .ok [s]
      | some (_, some items) =>
        items.mapM fun v =>
          match v with
          | .text s => .ok s
          | _ => .error .wrongKind
      | some (_, none) => .error .wrongKind := by
  rw [Sources.paths]
  cases Mapping.get? (.text name) entries with
  | none => rfl
  | some v =>
    cases v with
    | scalar s => cases s <;> rfl
    | list items =>
      simp only [Option.map_some, seen, plainOf, List.mapM_map]
      refine congrArg (fun f => items.mapM f) (funext fun item => ?_)
      cases item with
      | scalar s => cases s <;> rfl
      | _ => rfl
    | _ => rfl

theorem holdsCommandLine_eq (entries : Yaml.Entries) :
    Sources.holdsCommandLine entries =
      match ((Mapping.get? (.text "_cli_parse_args") entries).map seen).map fun v => (v.plain, v.items) with
      | none | some (.null, _) | some (.bool false, _) | some (_, some []) => false
      | some (.int i, _) => i != 0
      | some (.float x, _) => !x.isZero
      | some _ => true := by
  rw [Sources.holdsCommandLine]
  cases Mapping.get? (.text "_cli_parse_args") entries with
  | none => rfl
  | some v =>
    cases v with
    | scalar s =>
      cases s with
      | bool b => cases b <;> rfl
      | _ => rfl
    | list items => cases items <;> rfl
    | _ => rfl

/-- Mappings that look the same name the same sources. -/
theorem sources_congr {a b : Yaml.Entries} (h : seenSections a = seenSections b) : Sources.ofEntries a = Sources.ofEntries b := by
  simp only [Sources.ofEntries, text?_eq, isSet_eq, nesting_eq, depth_eq, holdsCommandLine_eq, paths_eq, seen_get?_congr h]

/-! ## Sections -/

/-- A mapping laid over another value: the entries of the two together if that is a mapping too. -/
theorem layered_map (lower : Option Yaml) (upper : Yaml.Entries) :
    Yaml.layered lower (.map upper) =
      .map (match lower with
        | some (.map below) => Yaml.mergeEntries below upper
        | _ => upper) := by
  cases lower with
  | none => simp [Yaml.layered]
  | some below => cases below <;> simp [Yaml.layered]

/-- What is no mapping hides what is below it. -/
theorem layered_of_entries?_eq_none (lower : Option Yaml) {v : Yaml} (h : v.entries? = none) : Yaml.layered lower v = v := by
  cases v with
  | map upper => simp [Yaml.entries?] at h
  | _ => rw [Yaml.layered]; simp

@[simp] theorem plainOf_layered (lower : Option Yaml) (v : Yaml) : plainOf (Yaml.layered lower v) = plainOf v := by
  cases v with
  | map upper =>
    rw [layered_map]
    rfl
  | _ => rw [layered_of_entries?_eq_none lower rfl]

/-- What is seen at a text after entries were laid over others. -/
theorem plain_mergeEntries (name : String) (upper : Yaml.Entries) :
    ∀ lower : Yaml.Entries,
      (Mapping.get? (.text name) (Yaml.mergeEntries lower upper)).map plainOf =
        (seenEntries upper).foldl (fun found entry => if entry.1 = .str name then some entry.2 else found)
          ((Mapping.get? (.text name) lower).map plainOf) := by
  induction upper with
  | nil =>
    intro lower
    rw [Yaml.mergeEntries]
    rfl
  | cons entry upper ih =>
    intro lower
    obtain ⟨key, v⟩ := entry
    have hSeen : seenEntries ((key, v) :: upper) = (key.scalar, plainOf v) :: seenEntries upper := rfl
    rw [Yaml.mergeEntries, ih, Yaml.get?_put_key, hSeen, List.foldl_cons]
    refine congrArg (fun start => (seenEntries upper).foldl _ start) ?_
    by_cases h : key.scalar = .str name
    · rw [if_pos h, if_pos h, Option.map_some, plainOf_layered]
    · rw [if_neg h, if_neg h]

/-- Entries that look the same look the same over others. -/
theorem plain_mergeEntries_congr {a b : Yaml.Entries} (h : seenEntries a = seenEntries b) (lower : Yaml.Entries) (name : String) :
    (Mapping.get? (.text name) (Yaml.mergeEntries lower a)).map plainOf =
      (Mapping.get? (.text name) (Yaml.mergeEntries lower b)).map plainOf := by
  rw [plain_mergeEntries, plain_mergeEntries, h]

theorem setting_eq {α : Type} (entries : Yaml.Entries) (name : String) (default : α) (check : Plain → Checked α) :
    setting entries name default check =
      match (Mapping.get? (.text name) entries).map plainOf with
      | some p => (check p).under name
      | none => .ok default := by
  rw [setting]
  cases Mapping.get? (.text name) entries <;> rfl

theorem serverSettings_congr {a b : Yaml.Entries}
    (h : ∀ name, (Mapping.get? (.text name) a).map plainOf = (Mapping.get? (.text name) b).map plainOf) :
    ServerSettings.ofEntries a = ServerSettings.ofEntries b := by
  simp only [ServerSettings.ofEntries, setting_eq, h]

theorem logSettings_congr {a b : Yaml.Entries}
    (h : ∀ name, (Mapping.get? (.text name) a).map plainOf = (Mapping.get? (.text name) b).map plainOf) :
    LogSettings.ofEntries a = LogSettings.ofEntries b := by
  simp only [LogSettings.ofEntries, setting_eq, h]

/-- The settings of a section from its value, their defaults if it is not there. -/
def readValue {α : Type} (v : Option Yaml) (name : String) (default : α) (read : Yaml.Entries → Checked α) : Checked α :=
  match v.map Yaml.entries? with
  | none => .ok default
  | some (some inner) => (read inner).under name
  | some none => (Checked.fault .notAnObject).under name

theorem readSection_eq {α : Type} (entries : Yaml.Entries) (name : String) (default : α) (read : Yaml.Entries → Checked α) :
    readSection entries name default read = readValue (Mapping.get? (.text name) entries) name default read := by
  rw [readSection, readValue]
  cases Mapping.get? (.text name) entries with
  | none => rfl
  | some v => cases v <;> rfl

/-- The value of a section over the sections of other sources. -/
def valueOver (exactCase : Bool) (beneath entries : Yaml.Entries) (name : String) : Option Yaml :=
  match section? exactCase name entries with
  | some v => some (Yaml.layered (Mapping.get? (.text name) beneath) v)
  | none => Mapping.get? (.text name) beneath

/-- What a mapping made of values for names has at a name. -/
theorem get?_filterMap_names (values : String → Option Yaml) (name : String) (names : List String) :
    Mapping.get? (.text name) (names.filterMap fun n => (values n).map fun v => (Yaml.Key.text n, v)) =
      if name ∈ names then values name else none := by
  induction names with
  | nil => rfl
  | cons n names ih =>
    by_cases hName : n = name
    · subst hName
      cases hValue : values n with
      | none => simp [hValue, ih]
      | some v => simp [hValue, Mapping.get?_cons]
    · have hOther : ¬ name = n := fun h => hName h.symm
      cases hValue : values n with
      | none => simp [hValue, ih, hOther]
      | some v => simp [hValue, ih, hOther, Mapping.get?_cons, hName]

theorem get?_sectionsOver (exactCase : Bool) (beneath entries : Yaml.Entries) {name : String}
    (h : name ∈ [serverSection, logSection]) :
    Mapping.get? (.text name) (sectionsOver exactCase beneath entries) = valueOver exactCase beneath entries name := by
  have hEq : sectionsOver exactCase beneath entries =
      [serverSection, logSection].filterMap fun n => (valueOver exactCase beneath entries n).map fun v => (.text n, v) := rfl
  rw [hEq, get?_filterMap_names, if_pos h]

/-- The settings of sections over those of other sources. -/
theorem ofEntries_sectionsOver (exactCase : Bool) (beneath entries : Yaml.Entries) :
    Settings.ofEntries (sectionsOver exactCase beneath entries) =
      ((readValue (valueOver exactCase beneath entries serverSection) serverSection {} ServerSettings.ofEntries).map
        Settings.mk).ap (readValue (valueOver exactCase beneath entries logSection) logSection {} LogSettings.ofEntries) := by
  rw [Settings.ofEntries, readSection_eq, readSection_eq, get?_sectionsOver _ _ _ (by simp), get?_sectionsOver _ _ _ (by simp)]

/-- Looking for a section does not need more of a mapping than its scalars and what is seen of its values. -/
theorem section?_view {α : Type} (f : Yaml → α) (exactCase : Bool) (name : String) (entries : Yaml.Entries) :
    (section? exactCase name entries).map f =
      ((entries.map fun (key, v) => (key.scalar, f v)).find? fun (s, _) =>
        match s with
        | .str s => s == name || (!exactCase && lowerCase s == name)
        | _ => false).map (·.2) := by
  rw [section?, List.find?_map, Option.map_map, Option.map_map]
  rfl

/-- The settings of a section are the same for values that look the same, whatever they are laid over. -/
theorem readValue_layered_congr {α : Type} {v w : Yaml} (h : seen v = seen w) (lower : Option Yaml) (name : String) (default : α)
    {read : Yaml.Entries → Checked α}
    (hRead : ∀ c d : Yaml.Entries, (∀ n, (Mapping.get? (.text n) c).map plainOf = (Mapping.get? (.text n) d).map plainOf) →
      read c = read d) :
    readValue (some (Yaml.layered lower v)) name default read = readValue (some (Yaml.layered lower w)) name default read := by
  have hEntries : v.entries?.map seenEntries = w.entries?.map seenEntries := congrArg Seen.entries h
  cases hv : v.entries? with
  | none =>
    have hw : w.entries? = none := by simpa [hv] using hEntries.symm
    rw [layered_of_entries?_eq_none lower hv, layered_of_entries?_eq_none lower hw]
    simp [readValue, hv, hw]
  | some c =>
    obtain ⟨d, hw, hSeen⟩ : ∃ d, w.entries? = some d ∧ seenEntries d = seenEntries c := by simpa [hv] using hEntries.symm
    rw [Yaml.entries?_eq_some hv, Yaml.entries?_eq_some hw, layered_map, layered_map]
    refine congrArg (Checked.under name) (hRead _ _ fun n => ?_)
    match lower with
    | some (.map below) => exact plain_mergeEntries_congr hSeen.symm below n
    | some (.scalar _) | some (.list _) | some (.set _) | some (.pair _ _) | some (.shared _) | none =>
      exact plain_get?_congr hSeen.symm n

theorem readValue_valueOver_congr {α : Type} {a b : Yaml.Entries} (h : seenSections a = seenSections b) (exactCase : Bool)
    (beneath : Yaml.Entries) (name : String) (default : α) {read : Yaml.Entries → Checked α}
    (hRead : ∀ c d : Yaml.Entries, (∀ n, (Mapping.get? (.text n) c).map plainOf = (Mapping.get? (.text n) d).map plainOf) →
      read c = read d) :
    readValue (valueOver exactCase beneath a name) name default read =
      readValue (valueOver exactCase beneath b name) name default read := by
  have hSection : (section? exactCase name a).map seen = (section? exactCase name b).map seen := by
    rw [section?_view, section?_view]
    exact congrArg (fun l : List (Yaml.Scalar × Seen) => (l.find? _).map (·.2)) h
  rw [valueOver, valueOver]
  cases ha : section? exactCase name a with
  | none =>
    have hb : section? exactCase name b = none := by simpa [ha] using hSection.symm
    rw [hb]
  | some v =>
    obtain ⟨w, hb, hSeen⟩ : ∃ w, section? exactCase name b = some w ∧ seen w = seen v := by simpa [ha] using hSection.symm
    rw [hb]
    exact readValue_layered_congr hSeen.symm _ name default hRead

/-- Sections that look the same give the same settings, whatever they are laid over. -/
theorem ofEntries_sectionsOver_congr {a b : Yaml.Entries} (h : seenSections a = seenSections b) (exactCase : Bool)
    (beneath : Yaml.Entries) :
    Settings.ofEntries (sectionsOver exactCase beneath a) = Settings.ofEntries (sectionsOver exactCase beneath b) := by
  rw [ofEntries_sectionsOver, ofEntries_sectionsOver, readValue_valueOver_congr h _ _ _ _ fun _ _ => serverSettings_congr,
    readValue_valueOver_congr h _ _ _ _ fun _ _ => logSettings_congr]

/-! ## Settings without an environment -/

/-- The settings of a file, if the environment holds no section. -/
theorem layered_of_sections_nil (files : List (String × String)) {env : Environment} (hEnv : env.sections = .ok [])
    (file : Yaml.Entries) :
    Settings.layered files env file =
      if !allTexts file || reservedNames.any fun name => Mapping.has (.text name) file then .error .keyNotText
      else
        ((Sources.ofEntries file).mapError .source).bind fun sources =>
          ((sources.sections files env).mapError .source).bind fun beneath =>
            (Settings.ofEntries (sectionsOver sources.naming.exactCase beneath file)).mapError .invalid := by
  rw [Settings.layered, hEnv]
  rfl

/-- Files that look the same give the same settings. -/
theorem layered_congr (files : List (String × String)) {env : Environment} (hEnv : env.sections = .ok []) {a b : Yaml.Entries}
    (h : seenSections a = seenSections b) : Settings.layered files env a = Settings.layered files env b := by
  rw [layered_of_sections_nil files hEnv, layered_of_sections_nil files hEnv]
  simp only [allTexts_eq, has_eq, sources_congr h, ofEntries_sectionsOver_congr h, h]

end RanConsole.Config

import RanConsole.Proofs.Config.Landing

/-!
# Which values fit

A value that is set leaves settings only if the key that it writes in the outermost mapping is not reserved, and in each section in which
it lies it is at one setting, or at something that is no setting, and the setting accepts it (`fits`). A document that gives settings
gives settings with a value at keys if and only if the value fits there (`isOk_layered_setIn`).
-/

namespace RanConsole.Config

open Validation

/-! ## Values in a section -/

/-- Whether a value may be set at the keys inside a section: it does not replace the section, and if they lead to a setting, they end
there and the setting accepts the value. -/
def takes (checks : Checks) : List String → Yaml.Scalar → Bool
  | [], _ => false
  | field :: more, value =>
    checks.all fun (name, accepts) => name != field || (more.isEmpty && accepts (plainOf (.scalar value)))

theorem admits_of_sectionFits {checks : Checks} {v : Option Yaml} (h : sectionFits checks v = true) :
    admits checks (innerOf v) = true := by
  cases v with
  | none => simp [innerOf, admits]
  | some v =>
    cases v with
    | map inner => exact h
    | _ => cases h

/-- What a section with a value in it has at a name. -/
theorem get?_withValue (field : String) (more : List String) (v : Yaml) (whole : Option Yaml) (name : String) :
    Mapping.get? (.text name) (innerOf (some (withValue (field :: more) v whole))) =
      if field = name then some (withValue more v (Mapping.get? (.text field) (innerOf whole)))
      else Mapping.get? (.text name) (innerOf whole) := by
  have hEntries : innerOf (some (withValue (field :: more) v whole)) = setAt (field :: more) v (innerOf whole) := rfl
  rw [hEntries, setAt_cons, Yaml.get?_put_text]

/-- A section that gives settings gives settings with a value in it if and only if it takes the value. -/
theorem sectionFits_withValue {checks : Checks} (hOther : ∀ check ∈ checks, check.2 .other = false) {whole : Option Yaml}
    (h : sectionFits checks whole = true) (inside : List String) (value : Yaml.Scalar) :
    sectionFits checks (some (withValue inside (.scalar value) whole)) = takes checks inside value := by
  cases inside with
  | nil => rfl
  | cons field more =>
    have hFits : sectionFits checks (some (withValue (field :: more) (.scalar value) whole)) =
        admits checks (innerOf (some (withValue (field :: more) (.scalar value) whole))) := rfl
    -- at the setting stands the value, or a mapping that no setting accepts
    have hPlain (old : Option Yaml) :
        plainOf (withValue more (.scalar value) old) = if more.isEmpty then plainOf (.scalar value) else .other := by
      cases more <;> rfl
    rw [hFits, admits, takes, Bool.eq_iff_iff, List.all_eq_true, List.all_eq_true]
    refine forall₂_congr fun check hCheck => ?_
    have hOld := List.all_eq_true.mp (admits_of_sectionFits h) check hCheck
    obtain ⟨name, accepts⟩ := check
    have hNone : accepts .other = false := hOther _ hCheck
    simp only [get?_withValue]
    by_cases hName : field = name
    · rw [if_pos hName]
      cases more with
      | nil => simp [hPlain, hName]
      | cons next more => simp [hPlain, hName, hNone]
    · rw [if_neg hName]
      have hNe : (name != field) = true := by simpa using fun h => hName h.symm
      simp only [hNe, Bool.true_or, iff_true]
      exact hOld

/-! ## The keys of an edited document -/

/-- An edit of a document that names no other sources, at a key that names none either. -/
structure OrdinaryEdit (d : Yaml.Document) (keys : List String) : Prop where
  ordinary : isOrdinary d.sections = true
  head : ∀ head ∈ rootKey? d keys, head ∉ sourceNames

theorem get?_sections (d : Yaml.Document) (name : String) :
    Mapping.get? (.text name) d.sections = (Mapping.get? (.text name) d.entries).map d.opened :=
  Mapping.get?_map d.opened (.text name) d.entries

theorem allTexts_sections (d : Yaml.Document) : allTexts d.sections = allTexts d.entries := by
  rw [allTexts, Yaml.Document.sections, List.all_map, allTexts]
  rfl

theorem hasReserved_sections (d : Yaml.Document) : hasReserved d.sections = hasReserved d.entries := by
  simp only [hasReserved, has_eq_isSome, get?_sections, Option.isSome_map]

theorem isOrdinary_sections (d : Yaml.Document) : isOrdinary d.sections = isOrdinary d.entries := by
  simp only [isOrdinary, get?_sections, Option.isNone_map]

theorem allTexts_put (head : String) (v : Yaml) (entries : Yaml.Entries) :
    allTexts (Mapping.put (.text head) v entries) = allTexts entries := by
  induction entries with
  | nil => rfl
  | cons entry entries ih =>
    obtain ⟨key, old⟩ := entry
    rw [Mapping.put_cons]
    by_cases hKey : (key == Yaml.Key.text head) = true
    · rw [if_pos hKey]
      rfl
    · rw [if_neg hKey, allTexts, List.all_cons, allTexts, List.all_cons]
      rw [allTexts, allTexts] at ih
      rw [ih]

theorem isOrdinary_put {entries : Yaml.Entries} (h : isOrdinary entries = true) {head : String} (hHead : head ∉ sourceNames)
    (v : Yaml) : isOrdinary (Mapping.put (.text head) v entries) = true := by
  refine List.all_eq_true.mpr fun name hName => ?_
  have hNe : ¬ head = name := fun hEq => hHead (hEq ▸ hName)
  rw [Yaml.get?_put_text, if_neg hNe, get?_of_isOrdinary h hName]
  rfl

theorem hasReserved_put {entries : Yaml.Entries} (h : hasReserved entries = false) (head : String) (v : Yaml) :
    hasReserved (Mapping.put (.text head) v entries) = reservedNames.contains head := by
  rw [hasReserved, List.any_eq_false] at h
  rw [hasReserved, Bool.eq_iff_iff, List.any_eq_true, List.contains_iff_mem]
  constructor
  · rintro ⟨name, hName, hHas⟩
    rw [has_eq_isSome, Yaml.get?_put_text] at hHas
    by_cases hEq : head = name
    · rw [hEq]
      exact hName
    · rw [if_neg hEq, ← has_eq_isSome] at hHas
      exact absurd hHas (h name hName)
  · intro hHead
    refine ⟨head, hHead, ?_⟩
    rw [has_eq_isSome, Yaml.get?_put_text, if_pos rfl]
    rfl

section
variable {d : Yaml.Document} {keys : List String} (hKeys : keys ≠ []) (v : Yaml)
include hKeys

theorem allTexts_setIn : allTexts (setIn d keys v).sections = allTexts d.sections := by
  obtain ⟨w, hEntries⟩ := exists_entries_setIn d hKeys v
  rw [allTexts_sections, allTexts_sections, hEntries]
  cases rootKey? d keys with
  | none => rfl
  | some head => exact allTexts_put head w d.entries

theorem isOrdinary_setIn (hEdit : OrdinaryEdit d keys) : isOrdinary (setIn d keys v).sections = true := by
  obtain ⟨w, hEntries⟩ := exists_entries_setIn d hKeys v
  have hOrdinary := hEdit.ordinary
  rw [isOrdinary_sections] at hOrdinary ⊢
  rw [hEntries]
  cases hHead : rootKey? d keys with
  | none => exact hOrdinary
  | some head => exact isOrdinary_put hOrdinary (hEdit.head head hHead) w

theorem hasReserved_setIn (hReserved : hasReserved d.sections = false) :
    hasReserved (setIn d keys v).sections = (rootKey? d keys).any reservedNames.contains := by
  obtain ⟨w, hEntries⟩ := exists_entries_setIn d hKeys v
  rw [hasReserved_sections] at hReserved ⊢
  rw [hEntries]
  cases rootKey? d keys with
  | none => exact hReserved
  | some head => exact hasReserved_put hReserved head w

end

/-! ## Settings of an edited document -/

/-- Whether a value may be set at keys: the key that it writes in the outermost mapping is not reserved, and every section in which it
lies takes it. -/
def fits (d : Yaml.Document) (keys : List String) (value : Yaml.Scalar) : Bool :=
  !(rootKey? d keys).any reservedNames.contains &&
    sectionChecks.all fun (name, checks) => (insideOf d keys name).all fun inside => takes checks inside value

/-- A document that gives settings gives settings with a value at keys if and only if the value fits there. -/
theorem isOk_layered_setIn (files files' : List (String × String)) {env : Environment} (hEnv : env.sections = .ok [])
    {d : Yaml.Document} {keys : List String} (hKeys : keys ≠ []) (hEdit : OrdinaryEdit d keys)
    (hValid : (Settings.layered files env d.sections).isOk = true) (value : Yaml.Scalar) :
    (Settings.layered files' env (setIn d keys (.scalar value)).sections).isOk = fits d keys value := by
  rw [isOk_layered files hEnv hEdit.ordinary, Bool.and_eq_true, Bool.and_eq_true, Bool.not_eq_true', List.all_eq_true] at hValid
  obtain ⟨⟨hTexts, hReserved⟩, hSections⟩ := hValid
  rw [isOk_layered files' hEnv (isOrdinary_setIn hKeys _ hEdit), allTexts_setIn hKeys, hTexts, hasReserved_setIn hKeys _ hReserved,
    Bool.true_and, fits]
  refine congrArg (!(rootKey? d keys).any reservedNames.contains && ·) ?_
  rw [Bool.eq_iff_iff, List.all_eq_true, List.all_eq_true]
  refine forall₂_congr fun part hPart => ?_
  obtain ⟨name, checks⟩ := part
  have hFits := hSections _ hPart
  simp only [section?_setIn d hKeys]
  cases insideOf d keys name with
  | none => simpa using hFits
  | some inside => simp only [sectionFits_withValue (not_accepts_other _ hPart) hFits, Option.all_some]

/-- Whether a path leads into no section and the key that it writes in the outermost mapping is not reserved. -/
def LeadsElsewhere (d : Yaml.Document) (keys : List String) : Prop :=
  (∀ head ∈ rootKey? d keys, head ∉ reservedNames) ∧ ∀ part ∈ sectionChecks, insideOf d keys part.1 = none

/-- A value in no section leaves all settings as they are. -/
theorem layered_setIn_of_leadsElsewhere (files files' : List (String × String)) {env : Environment} (hEnv : env.sections = .ok [])
    {d : Yaml.Document} {keys : List String} (hKeys : keys ≠ []) (hEdit : OrdinaryEdit d keys)
    (hReserved : hasReserved d.sections = false) (hLeads : LeadsElsewhere d keys) (value : Yaml.Scalar) :
    Settings.layered files' env (setIn d keys (.scalar value)).sections = Settings.layered files env d.sections := by
  have hSame (part : String × Checks) (hPart : part ∈ sectionChecks) :
      (section? false part.1 (setIn d keys (.scalar value)).sections) = section? false part.1 d.sections := by
    rw [section?_setIn d hKeys, hLeads.2 part hPart]
  have hServer := hSame (serverSection, serverChecks) (by simp [sectionChecks])
  have hLog := hSame (logSection, logChecks) (by simp [sectionChecks])
  have hSections : sectionsOver false [] (setIn d keys (.scalar value)).sections = sectionsOver false [] d.sections := by
    simp only [sectionsOver, List.filterMap_cons, List.filterMap_nil, hServer, hLog]
  have hNone : (rootKey? d keys).any reservedNames.contains = false := by
    cases hHead : rootKey? d keys with
    | none => rfl
    | some head => simpa using hLeads.1 head hHead
  rw [layered_of_isOrdinary files' hEnv (isOrdinary_setIn hKeys _ hEdit), layered_of_isOrdinary files hEnv hEdit.ordinary,
    allTexts_setIn hKeys, hasReserved_setIn hKeys _ hReserved, hSections, hReserved, hNone]

end RanConsole.Config

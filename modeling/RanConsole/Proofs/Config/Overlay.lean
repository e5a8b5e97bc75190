import RanConsole.Proofs.Config.Landing
import RanConsole.Proofs.Yaml.Keys
import RanConsole.Proofs.Yaml.Merge

/-!
# Sections laid over one another

What a setting is read from in a section (`fieldOf`) when the section is laid over another: from the upper section if it has the
setting, else from the lower one (`fieldOf_layered`). And what a section of a mapping is when a section is laid over the mapping: the
two together if the mapping's own is found under the name of the section as it is written, else the mapping's own alone
(`section?_laidOver`).
-/

namespace RanConsole.Config

open Validation

/-! ## Settings in a section -/

/-- What a setting is read from in a section, if that is a mapping that has it. -/
def fieldOf (v : Option Yaml) (name : String) : Option Plain := (Mapping.get? (.text name) (innerOf v)).map plainOf

theorem fieldOf_map (entries : Yaml.Entries) (name : String) :
    fieldOf (some (.map entries)) name = (Mapping.get? (.text name) entries).map plainOf := rfl

@[simp] theorem fieldOf_none (name : String) : fieldOf none name = none := rfl

/-- Laid over a mapping, distinct entries hide what it has at their keys, and nothing else. -/
theorem plain_mergeEntries_of_distinct (name : String) {upper : Yaml.Entries} (h : Mapping.Distinct upper) (lower : Yaml.Entries) :
    (Mapping.get? (.text name) (Yaml.mergeEntries lower upper)).map plainOf =
      ((Mapping.get? (.text name) upper).map plainOf).or ((Mapping.get? (.text name) lower).map plainOf) := by
  rw [Yaml.get?_mergeEntries h]
  cases Mapping.get? (.text name) upper with
  | none => rfl
  | some v => exact congrArg some (plainOf_layered _ v)

theorem distinct_mergeEntries (upper : Yaml.Entries) :
    ∀ {lower : Yaml.Entries}, Mapping.Distinct lower → Mapping.Distinct (Yaml.mergeEntries lower upper) := by
  induction upper with
  | nil =>
    intro lower h
    rw [Yaml.mergeEntries]
    exact h
  | cons entry upper ih =>
    intro lower h
    rw [Yaml.mergeEntries]
    exact ih (Mapping.distinct_put h _ _)

/-- A setting is read from the upper section if that has it, else from the lower one. -/
theorem fieldOf_layered {upper : Yaml.Entries} (h : Mapping.Distinct upper) (lower : Option Yaml) (name : String) :
    fieldOf (some (Yaml.layered lower (.map upper))) name = (fieldOf (some (.map upper)) name).or (fieldOf lower name) := by
  rw [layered_map, fieldOf_map, fieldOf_map]
  match lower with
  | some (.map below) => exact plain_mergeEntries_of_distinct name h below
  | some (.scalar _) | some (.list _) | some (.set _) | some (.pair _ _) | some (.shared _) | none => exact Option.or_none.symm

theorem isDistinct_layered {lower : Option Yaml} {v : Yaml} (hLower : ∀ w ∈ lower, w.IsDistinct) (h : v.IsDistinct) :
    (Yaml.layered lower v).IsDistinct := by
  cases v with
  | map upper =>
    rw [layered_map]
    rintro entries hEntries
    obtain rfl := Yaml.map.inj hEntries
    match lower with
    | some (.map below) => exact distinct_mergeEntries upper (hLower _ rfl below rfl)
    | some (.scalar _) | some (.list _) | some (.set _) | some (.pair _ _) | some (.shared _) | none => exact h upper rfl
  | _ =>
    rw [layered_of_entries?_eq_none lower rfl]
    exact h

/-! ## Sections of a mapping -/

/-- Whether the name of a section, as it is written, is the key under which the section is found once it is there. -/
def leads (exactCase : Bool) (name : String) (entries : Yaml.Entries) : Bool := exactCase || leadsTo name entries name

theorem section?_true (name : String) (entries : Yaml.Entries) : section? true name entries = Mapping.get? (.text name) entries := by
  induction entries with
  | nil => rfl
  | cons entry entries ih =>
    obtain ⟨⟨scalar, part⟩, v⟩ := entry
    rw [Mapping.get?_cons, Yaml.beq_text, ← ih, section?, section?, List.find?_cons]
    cases scalar with
    | str s =>
      by_cases hName : s = name
      · simp [hName]
      · simp [hName, beq_eq_false_iff_ne.mpr hName]
    | _ => rfl

/-- The section is what the mapping has at its name, if that is the key under which it is found. -/
theorem get?_of_leads {exactCase : Bool} {name : String} {entries : Yaml.Entries} (h : leads exactCase name entries = true) :
    Mapping.get? (.text name) entries = section? exactCase name entries := by
  cases exactCase with
  | true => exact (section?_true name entries).symm
  | false => exact get?_of_leadsTo h

/-- What a section is after its name was written. -/
theorem section?_put_name (exactCase : Bool) (name : String) (v : Yaml) (entries : Yaml.Entries) :
    (section? exactCase name (Mapping.put (.text name) v entries)) =
      if leads exactCase name entries then some v else section? exactCase name entries := by
  cases exactCase with
  | true =>
    rw [section?_true, Mapping.get?_put_self]
    rfl
  | false => exact section?_put name name v entries

/-- A key that is no name of a section in any letter case leaves the section as it is. -/
theorem section?_put_other {name other : String} (h : isSpelling name other = false) (exactCase : Bool) (v : Yaml)
    (entries : Yaml.Entries) :
    (section? exactCase name (Mapping.put (.text other) v entries)) = section? exactCase name entries := by
  cases exactCase with
  | true =>
    rw [section?_true, section?_true, Yaml.get?_put_text, if_neg]
    rintro rfl
    simp [isSpelling] at h
  | false =>
    rw [section?_put, if_neg]
    intro hLeads
    rw [isSpelling_of_leadsTo hLeads] at h
    cases h

theorem leads_put_other {name other : String} (h : isSpelling name other = false) (exactCase : Bool) (v : Yaml)
    (entries : Yaml.Entries) : leads exactCase name (Mapping.put (.text other) v entries) = leads exactCase name entries := by
  rw [leads, leads]
  refine congrArg (exactCase || ·) ?_
  induction entries with
  | nil =>
    have hNot : isSpellingKey name (Yaml.Key.text other).scalar = false := h
    simp only [Mapping.put, leadsTo, hNot, Bool.false_eq_true, if_false]
  | cons entry entries ih =>
    obtain ⟨key, old⟩ := entry
    rw [Mapping.put_cons, leadsTo]
    by_cases hKey : (key == Yaml.Key.text other) = true
    · rw [if_pos hKey, leadsTo]
    · rw [if_neg hKey, leadsTo, ih]

/-- A mapping with a value laid over what it has at a name. -/
def laidOver (entries : Yaml.Entries) (name : String) (v : Option Yaml) : Yaml.Entries :=
  match v with
  | some v => Mapping.put (.text name) (Yaml.layered (Mapping.get? (.text name) entries) v) entries
  | none => entries

/-- A section with another one laid over it, if it is found under its name as that is written. -/
def sectionWith (exactCase : Bool) (name : String) (entries : Yaml.Entries) (v : Option Yaml) : Option Yaml :=
  match v with
  | some v =>
    if leads exactCase name entries then some (Yaml.layered (section? exactCase name entries) v) else section? exactCase name entries
  | none => section? exactCase name entries

theorem section?_laidOver (exactCase : Bool) (name : String) (entries : Yaml.Entries) (v : Option Yaml) :
    (section? exactCase name (laidOver entries name v)) = sectionWith exactCase name entries v := by
  cases v with
  | none => rfl
  | some v =>
    rw [laidOver, sectionWith, section?_put_name]
    by_cases hLeads : leads exactCase name entries = true
    · rw [if_pos hLeads, if_pos hLeads, get?_of_leads hLeads]
    · rw [if_neg hLeads, if_neg hLeads]

theorem get?_laidOver_of_ne {name other : String} (h : other ≠ name) (entries : Yaml.Entries) (v : Option Yaml) :
    Mapping.get? (.text name) (laidOver entries other v) = Mapping.get? (.text name) entries := by
  cases v with
  | none => rfl
  | some v => rw [laidOver, Yaml.get?_put_text, if_neg h]

theorem section?_laidOver_other {name other : String} (h : isSpelling name other = false) (exactCase : Bool) (entries : Yaml.Entries)
    (v : Option Yaml) : section? exactCase name (laidOver entries other v) = section? exactCase name entries := by
  cases v with
  | none => rfl
  | some v => exact section?_put_other h exactCase _ entries

theorem sectionWith_laidOver_other {name other : String} (h : isSpelling name other = false) (exactCase : Bool)
    (entries : Yaml.Entries) (v w : Option Yaml) :
    sectionWith exactCase name (laidOver entries other w) v = sectionWith exactCase name entries v := by
  have hLeads : leads exactCase name (laidOver entries other w) = leads exactCase name entries := by
    cases w with
    | none => rfl
    | some w => exact leads_put_other h exactCase _ entries
  cases v with
  | none => exact section?_laidOver_other h exactCase entries w
  | some v => simp only [sectionWith, hLeads, section?_laidOver_other h]

/-- A value that is a mapping with distinct keys wherever it is there. -/
def IsUpper (v : Option Yaml) : Prop := ∀ w ∈ v, ∃ entries, w = .map entries ∧ Mapping.Distinct entries

/-- What a setting is read from in a section with another one laid over it. -/
theorem fieldOf_sectionWith {v : Option Yaml} (h : IsUpper v) (exactCase : Bool) (part : String) (entries : Yaml.Entries)
    (name : String) :
    fieldOf (sectionWith exactCase part entries v) name =
      (if leads exactCase part entries then fieldOf v name else none).or (fieldOf (section? exactCase part entries) name) := by
  cases v with
  | none =>
    rw [fieldOf_none, ite_self]
    rfl
  | some v =>
    obtain ⟨upper, rfl, hDistinct⟩ := h v rfl
    rw [sectionWith]
    by_cases hLeads : leads exactCase part entries = true
    · rw [if_pos hLeads, if_pos hLeads, fieldOf_layered hDistinct]
    · rw [if_neg hLeads, if_neg hLeads]
      rfl

theorem isDistinct_sectionWith {v : Option Yaml} (h : IsUpper v) {exactCase : Bool} {part : String} {entries : Yaml.Entries}
    (hEntries : ∀ w ∈ section? exactCase part entries, w.IsDistinct) : ∀ w ∈ sectionWith exactCase part entries v, w.IsDistinct := by
  cases v with
  | none => exact hEntries
  | some v =>
    obtain ⟨upper, rfl, hDistinct⟩ := h v rfl
    rw [sectionWith]
    by_cases hLeads : leads exactCase part entries = true
    · rw [if_pos hLeads]
      rintro w hw
      rw [← Option.some.inj hw]
      refine isDistinct_layered hEntries fun inner hInner => ?_
      rw [← Yaml.map.inj hInner]
      exact hDistinct
    · rw [if_neg hLeads]
      exact hEntries

/-- A section of a mapping is one of its values. -/
theorem mem_of_section? {exactCase : Bool} {name : String} {entries : Yaml.Entries} {v : Yaml}
    (h : section? exactCase name entries = some v) : ∃ key, (key, v) ∈ entries := by
  rw [section?, Option.map_eq_some_iff] at h
  obtain ⟨entry, hEntry, rfl⟩ := h
  exact ⟨entry.1, List.mem_of_find?_eq_some hEntry⟩

/-- What a setting is read from in a section over those of other sources, if the section is a mapping wherever it is there. -/
theorem fieldOf_valueOver {exactCase : Bool} {beneath entries : Yaml.Entries} {part : String}
    (hDistinct : ∀ v ∈ section? exactCase part entries, v.IsDistinct)
    (hMap : ∀ v ∈ valueOver exactCase beneath entries part, v.entries?.isSome) (name : String) :
    fieldOf (valueOver exactCase beneath entries part) name =
      (fieldOf (section? exactCase part entries) name).or (fieldOf (Mapping.get? (.text part) beneath) name) := by
  rw [valueOver] at hMap ⊢
  cases hSection : section? exactCase part entries with
  | none => rfl
  | some v =>
    rw [hSection] at hMap hDistinct
    cases v with
    | map upper => exact fieldOf_layered (hDistinct _ rfl upper rfl) _ name
    | _ =>
      have hSome := hMap _ rfl
      rw [layered_of_entries?_eq_none _ rfl] at hSome
      cases hSome

end RanConsole.Config

import RanConsole.Proofs.Mapping
import RanConsole.Yaml.Layout

/-!
# Hollow documents

A hollow document has null in place of all scalars that can be written. It shares the same parts in the same places as the document, and it
is written if and only if the document is (`fault?_hollow`). So what a scalar is plays no part in whether a document can be written.
-/

namespace RanConsole.Yaml

mutual

/-- A value with null in place of the scalars that can be written. -/
def hollow : Yaml → Yaml
  | .scalar s => .scalar (if s.isTooLong then s else .null)
  | .list items => .list (hollowItems items)
  | .map entries => .map (hollowEntries entries)
  | .set members => .set members
  | .pair first second => .pair (hollow first) (hollow second)
  | .shared name => .shared name

/-- The items of a list, hollow. -/
def hollowItems : List Yaml → List Yaml
  | [] => []
  | v :: rest => hollow v :: hollowItems rest

/-- The entries of a mapping with hollow values. -/
def hollowEntries : Entries → Entries
  | [] => []
  | (key, v) :: rest => (key, hollow v) :: hollowEntries rest

end

/-- A document with hollow values. -/
def Document.hollow (d : Document) : Document :=
  { root := d.root.hollow, parts := d.parts.map fun (name, v) => (name, v.hollow) }

/-! ## What hollow values keep -/

theorem hollowEntries_eq_map (entries : Entries) : hollowEntries entries = entries.map fun (key, v) => (key, v.hollow) := by
  induction entries with
  | nil => rfl
  | cons entry rest ih =>
    obtain ⟨key, v⟩ := entry
    rw [hollowEntries, ih, List.map_cons]

theorem hollowEntries_put (key : Key) (v : Yaml) (entries : Entries) :
    hollowEntries (Mapping.put key v entries) = Mapping.put key v.hollow (hollowEntries entries) := by
  rw [hollowEntries_eq_map, hollowEntries_eq_map, Mapping.put_map]

mutual

theorem names_hollow : ∀ v : Yaml, names v.hollow = names v
  | .scalar _ | .shared _ | .set _ => rfl
  | .list items => itemNames_hollow items
  | .map entries => entryNames_hollow entries
  | .pair first second => by rw [hollow, names, names, names_hollow first, names_hollow second]

theorem itemNames_hollow : ∀ items : List Yaml, itemNames (hollowItems items) = itemNames items
  | [] => rfl
  | v :: rest => by rw [hollowItems, itemNames, itemNames, names_hollow v, itemNames_hollow rest]

theorem entryNames_hollow : ∀ entries : Entries, entryNames (hollowEntries entries) = entryNames entries
  | [] => rfl
  | (_, v) :: rest => by rw [hollowEntries, entryNames, entryNames, names_hollow v, entryNames_hollow rest]

end

mutual

theorem weight_hollow : ∀ v : Yaml, weight v.hollow = weight v
  | .scalar _ | .shared _ | .set _ => rfl
  | .list items => by rw [hollow, weight, weight, itemWeight_hollow items]
  | .map entries => by rw [hollow, weight, weight, entryWeight_hollow entries]
  | .pair first second => by rw [hollow, weight, weight, weight_hollow first, weight_hollow second]

theorem itemWeight_hollow : ∀ items : List Yaml, itemWeight (hollowItems items) = itemWeight items
  | [] => rfl
  | v :: rest => by rw [hollowItems, itemWeight, itemWeight, weight_hollow v, itemWeight_hollow rest]

theorem entryWeight_hollow : ∀ entries : Entries, entryWeight (hollowEntries entries) = entryWeight entries
  | [] => rfl
  | (_, v) :: rest => by rw [hollowEntries, entryWeight, entryWeight, weight_hollow v, entryWeight_hollow rest]

end

namespace Document

variable (d : Document)

theorem part_hollow (name : Nat) : d.hollow.part name = (d.part name).hollow := by
  rw [part, part, hollow, Mapping.lookup_eq_get?, Mapping.lookup_eq_get?, Mapping.get?_map]
  cases Mapping.get? name d.parts <;> rfl

theorem secondMeetings_hollow (fuel : Nat) (met again ahead : List Nat) :
    d.hollow.secondMeetings fuel met again ahead = d.secondMeetings fuel met again ahead := by
  induction fuel generalizing met again ahead with
  | zero => rfl
  | succ fuel ih =>
    cases ahead with
    | nil => rfl
    | cons name rest => simp only [secondMeetings, ih, part_hollow, names_hollow]

theorem labelled_hollow : d.hollow.labelled = d.labelled := by
  have hNames : names d.hollow.root = names d.root := names_hollow d.root
  have hFuel (start : Nat) :
      d.hollow.parts.foldl (fun n entry => n + (names entry.2).length) start =
        d.parts.foldl (fun n entry => n + (names entry.2).length) start := by
    rw [hollow, List.foldl_map]
    simp only [names_hollow]
  rw [labelled, labelled, hNames, hFuel, secondMeetings_hollow]

end Document

namespace Outline

/-! ## Outlines that fail alike -/

theorem fault?_withLabel (depth : Nat) (label : Option Nat) (o : Outline) : (o.withLabel label).fault? depth = o.fault? depth := by
  cases o <;> rfl

theorem fault?_hollow_scalar (depth : Nat) (s : Scalar) :
    fault? depth (.scalar none (if s.isTooLong then s else .null)) = fault? depth (.scalar none s) := by
  cases h : s.isTooLong with
  | true => rfl
  | false =>
    rw [fault?, fault?, h]
    rfl

/-- What is written, with the names that are met after it: two that cannot be written for the same reason, if they cannot. -/
structure FailAlike {α : Type} (faultOf : Nat → α → Option WriteError) (r r' : α × List Nat) : Prop where
  fault : ∀ depth, faultOf depth r.1 = faultOf depth r'.1
  met : r.2 = r'.2

/-- The outlines of a document and of the hollow one fail alike. -/
theorem failAlike_hollow (d : Document) (labels : List Nat) (fuel : Nat) :
    (∀ met v, FailAlike fault? (ofYaml d.hollow labels fuel met v.hollow) (ofYaml d labels fuel met v)) ∧
      (∀ met items, FailAlike itemsFault? (ofItems d.hollow labels fuel met (hollowItems items)) (ofItems d labels fuel met items)) ∧
        ∀ met entries, FailAlike entriesFault? (ofEntries d.hollow labels fuel met (hollowEntries entries))
          (ofEntries d labels fuel met entries) := by
  induction fuel with
  | zero =>
    exact ⟨fun _ _ => ⟨fun _ => rfl, rfl⟩, fun _ _ => ⟨fun _ => rfl, rfl⟩, fun _ _ => ⟨fun _ => rfl, rfl⟩⟩
  | succ fuel ih =>
    obtain ⟨ihValue, ihItems, ihEntries⟩ := ih
    refine ⟨fun met v => ?_, fun met items => ?_, fun met entries => ?_⟩
    · cases v with
      | scalar s => exact ⟨fun depth => fault?_hollow_scalar depth s, rfl⟩
      | list items =>
        obtain ⟨hFault, hMet⟩ := ihItems met items
        refine ⟨fun depth => ?_, hMet⟩
        simp only [hollow, ofYaml, fault?, hFault]
      | map entries =>
        obtain ⟨hFault, hMet⟩ := ihEntries met entries
        refine ⟨fun depth => ?_, hMet⟩
        simp only [hollow, ofYaml, fault?, hFault]
      | set members => exact ⟨fun _ => rfl, rfl⟩
      | pair first second =>
        obtain ⟨hFirst, hMet⟩ := ihValue met first
        obtain ⟨hSecond, hMet'⟩ := ihValue (ofYaml d labels fuel met first).2 second
        refine ⟨fun depth => ?_, ?_⟩
        · simp only [hollow, ofYaml, fault?, itemsFault?, hMet, hFirst, hSecond]
        · simp only [hollow, ofYaml, hMet, hMet']
      | shared name =>
        by_cases hAgain : met.contains name = true
        · have hBoth : ofYaml d.hollow labels (fuel + 1) met (.shared name) = ofYaml d labels (fuel + 1) met (.shared name) := by
            rw [ofYaml, ofYaml, if_pos hAgain, if_pos hAgain]
          exact ⟨fun depth => by rw [hollow, hBoth], by rw [hollow, hBoth]⟩
        · obtain ⟨hFault, hMet⟩ := ihValue (name :: met) (d.part name)
          rw [hollow, ofYaml, ofYaml, if_neg hAgain, if_neg hAgain, Document.part_hollow]
          exact ⟨fun depth => by simp only [fault?_withLabel, hFault], hMet⟩
    · cases items with
      | nil => exact ⟨fun _ => rfl, rfl⟩
      | cons v rest =>
        obtain ⟨hValue, hMet⟩ := ihValue met v
        obtain ⟨hRest, hMet'⟩ := ihItems (ofYaml d labels fuel met v).2 rest
        refine ⟨fun depth => ?_, ?_⟩
        · simp only [hollowItems, ofItems, itemsFault?, hMet, hValue, hRest]
        · simp only [hollowItems, ofItems, hMet, hMet']
    · cases entries with
      | nil => exact ⟨fun _ => rfl, rfl⟩
      | cons entry rest =>
        obtain ⟨key, v⟩ := entry
        obtain ⟨hValue, hMet⟩ := ihValue (ofKey labels met key).2 v
        obtain ⟨hRest, hMet'⟩ := ihEntries (ofYaml d labels fuel (ofKey labels met key).2 v).2 rest
        refine ⟨fun depth => ?_, ?_⟩
        · simp only [hollowEntries, ofEntries, entriesFault?, hMet, hValue, hRest]
        · simp only [hollowEntries, ofEntries, hMet, hMet']

/-- A hollow document cannot be written for the reason for which the document cannot. -/
theorem fault?_hollow (d : Document) (depth : Nat) : (ofDocument d.hollow).fault? depth = (ofDocument d).fault? depth := by
  have hWeight : weight d.hollow.root = weight d.root := weight_hollow d.root
  have hFuel (start : Nat) :
      d.hollow.parts.foldl (fun n entry => n + weight entry.2) start = d.parts.foldl (fun n entry => n + weight entry.2) start := by
    rw [Document.hollow, List.foldl_map]
    simp only [weight_hollow]
  rw [ofDocument, ofDocument, hWeight, hFuel, Document.labelled_hollow]
  exact ((failAlike_hollow d d.labelled _).1 [] d.root).fault depth

end Outline

end RanConsole.Yaml

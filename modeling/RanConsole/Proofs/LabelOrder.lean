import RanConsole.Proofs.Event

/-!
# The order of labels

Two objects that differ in the order of their labels look the same in listings, because the labels are sorted there
(`Object.Alike.row_eq`, `ObjectEvent.Alike.row_eq`). Values that describe objects with the same fields, with the labels in different
orders, are read as such objects, or neither is read (`Object.DescribedAlike.agree_ofJson`, `ObjectEvent.DescribedAlike.agree_ofJson`).
-/

namespace RanConsole.Topology

open Validation

/-! ## Sorted labels -/

namespace Object

theorem labelBefore_iff (a b : String × String) : labelBefore a b = true ↔ a.1 = b.1 ∧ a.2 ≤ b.2 ∨ a.1 ≠ b.1 ∧ a.1 ≤ b.1 := by
  rw [labelBefore]
  split <;> simp [*]

theorem labelBefore_total (a b : String × String) : (labelBefore a b || labelBefore b a) = true := by
  rw [Bool.or_eq_true, labelBefore_iff, labelBefore_iff]
  by_cases hKeys : a.1 = b.1
  · rcases String.le_total a.2 b.2 with h | h
    · exact .inl (.inl ⟨hKeys, h⟩)
    · exact .inr (.inl ⟨hKeys.symm, h⟩)
  · rcases String.le_total a.1 b.1 with h | h
    · exact .inl (.inr ⟨hKeys, h⟩)
    · exact .inr (.inr ⟨Ne.symm hKeys, h⟩)

theorem labelBefore_antisymm {a b : String × String} (h : labelBefore a b = true) (h' : labelBefore b a = true) : a = b := by
  rw [labelBefore_iff] at h h'
  rcases h with ⟨hKeys, h⟩ | ⟨hKeys, h⟩
  · exact Prod.ext hKeys (String.le_antisymm h (h'.resolve_right fun h' => h'.1 hKeys.symm).2)
  · exact absurd (String.le_antisymm h (h'.resolve_left fun h' => hKeys h'.1.symm).2) hKeys

theorem labelBefore_trans {a b c : String × String} (h : labelBefore a b = true) (h' : labelBefore b c = true) :
    labelBefore a c = true := by
  rw [labelBefore_iff] at h h' ⊢
  rcases h with ⟨hKeys, h⟩ | ⟨hKeys, h⟩
  · rw [hKeys]
    exact h'.imp_left fun ⟨hKeys', h'⟩ => ⟨hKeys', String.le_trans h h'⟩
  · rcases h' with ⟨hKeys', -⟩ | ⟨hKeys', h'⟩
    · rw [← hKeys']
      exact .inr ⟨hKeys, h⟩
    · refine .inr ⟨fun hSame => ?_, String.le_trans h h'⟩
      rw [← hSame] at h'
      exact hKeys (String.le_antisymm h h')

/-- Labels in whatever order are sorted in one way. -/
theorem mergeSort_labels_eq {labels labels' : List (String × String)} (h : labels.Perm labels') :
    labels.mergeSort labelBefore = labels'.mergeSort labelBefore := by
  have hSorted : ∀ labels : List (String × String), (labels.mergeSort labelBefore).Pairwise fun a b => labelBefore a b = true :=
    List.pairwise_mergeSort (fun _ _ _ => labelBefore_trans) labelBefore_total
  refine List.Perm.eq_of_pairwise (fun a b _ _ => labelBefore_antisymm) (hSorted labels) (hSorted labels') ?_
  exact ((labels.mergeSort_perm labelBefore).trans h).trans (labels'.mergeSort_perm labelBefore).symm

end Object

/-! ## Objects that are alike -/

/-- Two objects differ in the order of their labels at most. -/
def Object.Alike (o o' : Object) : Prop := ∃ labels, o.labels.Perm labels ∧ o' = { o with labels }

theorem Object.Alike.refl (o : Object) : o.Alike o := ⟨o.labels, .rfl, rfl⟩

/-- Objects that are alike have the same row in a listing. -/
theorem Object.Alike.row_eq {o o' : Object} (h : o.Alike o') (columns : Listing.Columns) : o.row columns = o'.row columns := by
  obtain ⟨labels, hPerm, rfl⟩ := h
  have hSorted : o.sortedLabels = { o with labels : Object }.sortedLabels := mergeSort_labels_eq hPerm
  simp only [Object.row, Object.labelText, hSorted, Object.members]

/-- Two events are the same but for the order of the labels of their objects. -/
structure ObjectEvent.Alike (e e' : ObjectEvent) : Prop where
  type : e.type = e'.type
  object : e.object.Alike e'.object

theorem ObjectEvent.Alike.refl (e : ObjectEvent) : e.Alike e := ⟨rfl, .refl e.object⟩

/-- Events that are alike have the same row in a stream. -/
theorem ObjectEvent.Alike.row_eq {e e' : ObjectEvent} (h : e.Alike e') (columns : Listing.Columns) : e.row columns = e'.row columns := by
  rw [ObjectEvent.row, ObjectEvent.row, h.type, h.object.row_eq]

/-! ## Checks of labels -/

variable {α : Type} {check : Json → Checked α}

/-- Checks made side by side in another order give the same values in that order, or they fail both times. -/
theorem agree_all_of_perm {cs cs' : List (Checked α)} (h : cs.Perm cs') : Agree List.Perm (Checked.all cs) (Checked.all cs') := by
  induction h with
  | nil => exact .ok .rfl
  | @cons c cs cs' _ ih =>
    rw [Checked.all, Checked.all]
    cases c with
    | error vs =>
      cases Checked.all cs <;> cases Checked.all cs' <;> exact .error ..
    | ok a =>
      generalize Checked.all cs = values, Checked.all cs' = values' at ih
      cases ih with
      | ok h => exact .ok (h.cons a)
      | error => exact .error ..
  | swap c d cs =>
    rw [Checked.all, Checked.all, Checked.all, Checked.all]
    cases c <;> cases d <;> cases Checked.all cs <;> constructor
    exact .swap ..
  | trans _ _ ih ih' => exact ih.trans (fun h h' => h.trans h') ih'

/-- Two values hold the same labels, in whatever order. -/
inductive LabelsAlike : Json → Json → Prop
  | same (v : Json) : LabelsAlike v v
  | reordered {labels labels' : List (String × Json)} (h : labels.Perm labels') : LabelsAlike (.obj labels) (.obj labels')

theorem LabelsAlike.symm {v v' : Json} (h : LabelsAlike v v') : LabelsAlike v' v := by
  cases h with
  | same => exact .same v
  | reordered h => exact .reordered h.symm

theorem LabelsAlike.agree_mapping {v v' : Json} (h : LabelsAlike v v') : Agree List.Perm (mapping check v) (mapping check v') := by
  cases h with
  | same => exact .refl (fun _ => .rfl) _
  | reordered h => exact agree_all_of_perm (h.map _)

/-! ## Values that describe objects -/

namespace Object

/-- The names under which the fields of an object stand, except for the labels. -/
def fieldNames : List String :=
  ["id", "type", "kindId", "kind_id", "srcEntityId", "src_entity_id", "tgtEntityId", "tgt_entity_id", "name"]

/-- Two records have the same fields of an object, and the same labels in whatever order. They may differ in the order of the fields and
in members that are no fields. -/
structure MembersAlike (members members' : List (String × Json)) : Prop where
  fields : ∀ name ∈ fieldNames, Mapping.get? name members = Mapping.get? name members'
  labels : Option.Rel LabelsAlike (Mapping.get? "labels" members) (Mapping.get? "labels" members')

/-- Two values describe objects that differ in the order of their labels at most. -/
inductive DescribedAlike : Json → Json → Prop
  | same (v : Json) : DescribedAlike v v
  | records {members members' : List (String × Json)} (h : MembersAlike members members') :
    DescribedAlike (.obj members) (.obj members')

theorem MembersAlike.symm {members members' : List (String × Json)} (h : MembersAlike members members') :
    MembersAlike members' members where
  fields name hName := (h.fields name hName).symm
  labels := by
    have hLabels := h.labels
    generalize Mapping.get? "labels" members = found, Mapping.get? "labels" members' = found' at hLabels ⊢
    cases hLabels with
    | none => exact .none
    | some hLabels => exact .some hLabels.symm

/-- From a record that is like another one an object is read that is like what is read from that one. -/
theorem IsReadFrom.exists_alike {o : Object} {members members' : List (String × Json)} (h : o.IsReadFrom members)
    (hAlike : MembersAlike members members') : ∃ o', IsReadFrom o' members' ∧ o.Alike o' := by
  have hFind : ∀ f : FieldName, f.own ∈ fieldNames → (∀ name, f.shared = some name → name ∈ fieldNames) →
      f.find? members = f.find? members' := fun f hOwn hShared =>
    find?_congr (hAlike.fields _ hOwn) fun name hName => hAlike.fields _ (hShared name hName)
  have hText : ∀ f : FieldName, f.own ∈ fieldNames → (∀ name, f.shared = some name → name ∈ fieldNames) →
      textField members f = textField members' f := fun f hOwn hShared => by
    rw [textField, textField, Validation.optional, Validation.optional, hFind f hOwn hShared]
  obtain ⟨labels, hLabels, hPerm⟩ :=
    (agree_optional hAlike.labels (fun _ _ => LabelsAlike.agree_mapping) .rfl).exists_ok h.labels
  refine ⟨{ o with labels }, ⟨?_, ?_, hLabels, ?_, ?_, ?_, ?_⟩, labels, hPerm, rfl⟩
  · rw [← h.id, required, required, hFind _ (by decide) (by simp)]
  · rw [← h.type, Validation.optional, Validation.optional, hFind _ (by decide) (by simp)]
  · rw [← h.kindId, hText _ (by decide) (by simp [fieldNames])]
  · rw [← h.srcEntityId, hText _ (by decide) (by simp [fieldNames])]
  · rw [← h.tgtEntityId, hText _ (by decide) (by simp [fieldNames])]
  · rw [← h.name, hText _ (by decide) (by simp)]

/-- Values that describe objects alike are read as such objects, or neither is read. -/
theorem DescribedAlike.agree_ofJson {v v' : Json} (h : DescribedAlike v v') : Agree Object.Alike (Object.ofJson v) (Object.ofJson v') := by
  cases h with
  | same => exact .refl Alike.refl _
  | @records members members' h =>
    refine .of_forall (fun o ho => ?_) fun o' ho' => ?_
    · obtain ⟨o', ho', hAlike⟩ := (ofJson_eq_ok_iff.mp ho).exists_alike h
      exact ⟨o', ofJson_eq_ok_iff.mpr ho', hAlike⟩
    · obtain ⟨o, ho, -⟩ := (ofJson_eq_ok_iff.mp ho').exists_alike h.symm
      exact ⟨o, ofJson_eq_ok_iff.mpr ho⟩

end Object

/-! ## Values that describe events -/

namespace ObjectEvent

/-- Two values describe events that are the same but for the order of the labels of their objects. They may differ in the order of the
fields and in members that are no fields. -/
inductive DescribedAlike : Json → Json → Prop
  | same (v : Json) : DescribedAlike v v
  | records {members members' : List (String × Json)} (hType : Mapping.get? "type" members = Mapping.get? "type" members')
    (hObject : Option.Rel Object.DescribedAlike (Mapping.get? "object" members) (Mapping.get? "object" members')) :
    DescribedAlike (.obj members) (.obj members')

/-- Values that describe events alike are read as such events, or neither is read. -/
theorem DescribedAlike.agree_ofJson {v v' : Json} (h : DescribedAlike v v') :
    Agree ObjectEvent.Alike (ObjectEvent.ofJson v) (ObjectEvent.ofJson v') := by
  cases h with
  | same => exact .refl Alike.refl _
  | @records members members' hType hObject =>
    have hSameType : EventType.field members = EventType.field members' := by
      rw [EventType.field, EventType.field, Validation.optional, Validation.optional, find?_congr hType (by simp)]
    have hObjects := agree_required hObject fun _ _ => Object.DescribedAlike.agree_ofJson
    rw [ObjectEvent.ofJson, record, record, hSameType]
    generalize required members { own := "object" } Object.ofJson = found,
      required members' { own := "object" } Object.ofJson = found' at hObjects ⊢
    cases EventType.field members' with
    | error vs => cases hObjects <;> exact .error ..
    | ok type =>
      cases hObjects with
      | ok h => exact .ok ⟨rfl, h⟩
      | error => exact .error ..

end ObjectEvent

end RanConsole.Topology

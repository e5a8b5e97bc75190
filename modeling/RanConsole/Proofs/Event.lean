import RanConsole.Proofs.Node
import RanConsole.Topology.Object

/-!
# Events in messages

A message describes an event by the word for what has happened and by the node or the object it has happened to, under the names that
messages use. Such a description is read as the event (`NodeEvent.ofJson_of_describes`, `Topology.ObjectEvent.ofJson_of_describes`).
Every event has a message that describes it, and is read from its own field names too.
-/

namespace RanConsole

open Validation

/-! ## What has happened -/

/-- A value says what has happened: by the word for it, or by no word if nothing has. -/
def EventType.IsSaid (t : EventType) (v : Json) : Prop :=
  v.member? "type" = some (.str t.word) ∨ v.member? "type" = Option.none ∧ t = EventType.none

theorem EventType.field_of_isSaid {t : EventType} {members : List (String × Json)} (h : t.IsSaid (.obj members)) :
    EventType.field members = .ok t := by
  rcases h with h | ⟨h, rfl⟩
  · exact optional_of_finds (finds_of_get? h) (by cases t <;> rfl)
  · have hMissing : Mapping.get? "type" members = Option.none := h
    rw [EventType.field, Validation.optional, FieldName.find?, hMissing]
    rfl

/-! ## Events of nodes -/

namespace NodeEvent

/-- A value describes an event of a node: it says what has happened, and it holds the node. -/
structure Describes (e : NodeEvent) (v : Json) : Prop where
  type : e.type.IsSaid v
  node : Node.Holds v e.node

/-- A record that says what has happened, with a member that is read as the node, is read as the event. -/
theorem ofJson_of_isSaid {e : NodeEvent} {members : List (String × Json)} {w : Json} (hType : e.type.IsSaid (.obj members))
    (hMember : Mapping.get? "node" members = some w) (hNode : Node.ofJson w = .ok e.node) :
    NodeEvent.ofJson (.obj members) = .ok e := by
  have hRead : required members { own := "node" } Node.ofJson = .ok e.node :=
    required_of_finds (finds_of_get? hMember) hNode
  rw [NodeEvent.ofJson, record, EventType.field_of_isSaid hType, hRead]
  rfl

/-- A description of an event is read as the event. -/
theorem ofJson_of_describes {e : NodeEvent} {v : Json} (h : e.Describes v) : NodeEvent.ofJson v = .ok e := by
  obtain ⟨hType, w, hNode, hDescribes⟩ := h
  obtain ⟨members, rfl⟩ := Node.exists_members_of_member? hNode
  exact ofJson_of_isSaid hType hNode (Node.ofJson_of_describes hDescribes)

/-- An event under its own field names is read as the event. -/
theorem ofJson_toJson (e : NodeEvent) : NodeEvent.ofJson e.toJson = .ok e :=
  ofJson_of_isSaid (.inl rfl) rfl e.node.ofJson_toJson

/-- An event as it is written in a message. -/
def toMessage (e : NodeEvent) : Json := .obj [("type", .str e.type.word), ("node", e.node.toMessage)]

theorem describes_toMessage (e : NodeEvent) : e.Describes e.toMessage :=
  ⟨.inl rfl, e.node.toMessage, rfl, e.node.describes_toMessage⟩

theorem isPlain_toMessage (e : NodeEvent) : e.toMessage.IsPlain := by
  simp [toMessage, Json.IsPlain, Json.MembersPlain, Mapping.keys, e.node.isPlain_toMessage]

theorem depth_toMessage_le (e : NodeEvent) : e.toMessage.depth ≤ 3 := by
  have hNode := e.node.depth_toMessage_le
  simp only [toMessage, Json.depth, Json.membersDepth]
  omega

end NodeEvent

/-! ## Events of objects -/

namespace Topology

/-- The labels of an object as they are written in a message. -/
def labelMembers (labels : List (String × String)) : List (String × Json) := labels.map fun (k, v) => (k, .str v)

theorem mapping_labelMembers (labels : List (String × String)) : mapping (simple checkText) (.obj (labelMembers labels)) = .ok labels := by
  rw [mapping]
  induction labels with
  | nil => rfl
  | cons label labels ih =>
    rw [labelMembers, List.map_cons, List.map_cons, Checked.all, ← labelMembers, ih]
    rfl

theorem isPlain_labelMembers {labels : List (String × String)} (h : (Mapping.keys labels).Nodup) :
    (Json.obj (labelMembers labels)).IsPlain := by
  have hMembers : ∀ labels : List (String × String), Json.MembersPlain (labelMembers labels) := by
    intro labels
    induction labels with
    | nil => trivial
    | cons label labels ih => exact ⟨trivial, ih⟩
  refine ⟨?_, hMembers labels⟩
  simpa [labelMembers, Mapping.keys, Function.comp_def] using h

theorem membersDepth_labelMembers (labels : List (String × String)) : Json.membersDepth (labelMembers labels) = 0 := by
  induction labels with
  | nil => rfl
  | cons label labels ih => simpa [labelMembers, Json.membersDepth, Json.depth] using ih

namespace Object

/-- A value describes an object: it has the fields of the object under the names that messages use. -/
structure Describes (o : Object) (v : Json) : Prop where
  id : v.member? "id" = some (.str o.id)
  type : v.member? "type" = some (.str o.type.word)
  labels : v.member? "labels" = some (.obj (labelMembers o.labels))
  kindId : v.member? "kindId" = some (.str o.kindId)
  srcEntityId : v.member? "srcEntityId" = some (.str o.srcEntityId)
  tgtEntityId : v.member? "tgtEntityId" = some (.str o.tgtEntityId)
  name : v.member? "name" = some (.str o.name)

/-- The fields of an object are found in a record. -/
structure IsFoundIn (o : Object) (members : List (String × Json)) : Prop where
  id : Finds members { own := "id" } (.str o.id)
  type : Finds members { own := "type" } (.str o.type.word)
  labels : Finds members { own := "labels" } (.obj (labelMembers o.labels))
  kindId : Finds members { own := "kind_id", shared := some "kindId" } (.str o.kindId)
  srcEntityId : Finds members { own := "src_entity_id", shared := some "srcEntityId" } (.str o.srcEntityId)
  tgtEntityId : Finds members { own := "tgt_entity_id", shared := some "tgtEntityId" } (.str o.tgtEntityId)
  name : Finds members { own := "name" } (.str o.name)

/-- The checks of a record find the fields of an object. -/
structure IsReadFrom (o : Object) (members : List (String × Json)) : Prop where
  id : required members { own := "id" } (simple checkText) = .ok o.id
  type : optional members { own := "type" } .entity (simple (checkChoice ObjectClass.words)) = .ok o.type
  labels : optional members { own := "labels" } [] (mapping (simple checkText)) = .ok o.labels
  kindId : textField members { own := "kind_id", shared := some "kindId" } = .ok o.kindId
  srcEntityId : textField members { own := "src_entity_id", shared := some "srcEntityId" } = .ok o.srcEntityId
  tgtEntityId : textField members { own := "tgt_entity_id", shared := some "tgtEntityId" } = .ok o.tgtEntityId
  name : textField members { own := "name" } = .ok o.name

/-- An object is read from a record if and only if each of its fields is. -/
theorem ofJson_eq_ok_iff {members : List (String × Json)} {o : Object} :
    Object.ofJson (.obj members) = .ok o ↔ o.IsReadFrom members := by
  constructor
  · intro h
    obtain ⟨f, name, hToName, hName, rfl⟩ := ok_ap h
    obtain ⟨f, target, hToTarget, hTarget, rfl⟩ := ok_ap hToName
    obtain ⟨f, source, hToSource, hSource, rfl⟩ := ok_ap hToTarget
    obtain ⟨f, kind, hToKind, hKind, rfl⟩ := ok_ap hToSource
    obtain ⟨f, labels, hToLabels, hLabels, rfl⟩ := ok_ap hToKind
    obtain ⟨f, type, hToType, hType, rfl⟩ := ok_ap hToLabels
    obtain ⟨id, hId, rfl⟩ := ok_map hToType
    exact ⟨hId, hType, hLabels, hKind, hSource, hTarget, hName⟩
  · intro h
    rw [Object.ofJson, record]
    simp only [h.id, h.type, h.labels, h.kindId, h.srcEntityId, h.tgtEntityId, h.name]
    rfl

/-- A record in which the fields of an object are found is read as the object. -/
theorem ofJson_of_isFoundIn {o : Object} {members : List (String × Json)} (h : o.IsFoundIn members) :
    Object.ofJson (.obj members) = .ok o :=
  ofJson_eq_ok_iff.mpr {
    id := required_of_finds h.id rfl
    type := optional_of_finds h.type (by cases o.type <;> rfl)
    labels := optional_of_finds h.labels (mapping_labelMembers o.labels)
    kindId := optional_of_finds h.kindId rfl
    srcEntityId := optional_of_finds h.srcEntityId rfl
    tgtEntityId := optional_of_finds h.tgtEntityId rfl
    name := optional_of_finds h.name rfl }

/-- A description of an object is read as the object. -/
theorem ofJson_of_describes {o : Object} {v : Json} (h : o.Describes v) : Object.ofJson v = .ok o := by
  obtain ⟨members, rfl⟩ := Node.exists_members_of_member? h.id
  exact ofJson_of_isFoundIn ⟨finds_of_get? h.id, finds_of_get? h.type, finds_of_get? h.labels, finds_of_get? h.kindId,
    finds_of_get? h.srcEntityId, finds_of_get? h.tgtEntityId, finds_of_get? h.name⟩

/-- An object under its own field names is read as the object. -/
theorem ofJson_toJson (o : Object) : Object.ofJson o.toJson = .ok o :=
  ofJson_of_isFoundIn ⟨⟨_, rfl⟩, ⟨_, rfl⟩, ⟨_, rfl⟩, ⟨_, rfl⟩, ⟨_, rfl⟩, ⟨_, rfl⟩, ⟨_, rfl⟩⟩

/-- An object as it is written in a message. -/
def toMessage (o : Object) : Json :=
  .obj [("id", .str o.id), ("type", .str o.type.word), ("labels", .obj (labelMembers o.labels)), ("kindId", .str o.kindId),
    ("srcEntityId", .str o.srcEntityId), ("tgtEntityId", .str o.tgtEntityId), ("name", .str o.name)]

/-- A message with labels under different keys is plain. -/
theorem isPlain_toMessage {o : Object} (h : (Mapping.keys o.labels).Nodup) : o.toMessage.IsPlain := by
  have hLabels : (Json.obj (labelMembers o.labels)).IsPlain := isPlain_labelMembers h
  simp [toMessage, Json.IsPlain, Json.MembersPlain, Mapping.keys] at hLabels ⊢
  exact hLabels

theorem depth_toMessage_le (o : Object) : o.toMessage.depth ≤ 2 := by
  have hLabels := membersDepth_labelMembers o.labels
  simp only [toMessage, Json.depth, Json.membersDepth]
  omega

theorem describes_toMessage (o : Object) : o.Describes o.toMessage := ⟨rfl, rfl, rfl, rfl, rfl, rfl, rfl⟩

end Object

namespace ObjectEvent

/-- A value describes an event of an object: it says what has happened, and it holds a description of the object. -/
structure Describes (e : ObjectEvent) (v : Json) : Prop where
  type : e.type.IsSaid v
  object : ∃ w, v.member? "object" = some w ∧ e.object.Describes w

/-- A record that says what has happened, with a member that is read as the object, is read as the event. -/
theorem ofJson_of_isSaid {e : ObjectEvent} {members : List (String × Json)} {w : Json} (hType : e.type.IsSaid (.obj members))
    (hMember : Mapping.get? "object" members = some w) (hObject : Object.ofJson w = .ok e.object) :
    ObjectEvent.ofJson (.obj members) = .ok e := by
  have hRead : required members { own := "object" } Object.ofJson = .ok e.object :=
    required_of_finds (finds_of_get? hMember) hObject
  rw [ObjectEvent.ofJson, record, EventType.field_of_isSaid hType, hRead]
  rfl

/-- A description of an event is read as the event. -/
theorem ofJson_of_describes {e : ObjectEvent} {v : Json} (h : e.Describes v) : ObjectEvent.ofJson v = .ok e := by
  obtain ⟨hType, w, hObject, hDescribes⟩ := h
  obtain ⟨members, rfl⟩ := Node.exists_members_of_member? hObject
  exact ofJson_of_isSaid hType hObject (Object.ofJson_of_describes hDescribes)

/-- An event under its own field names is read as the event. -/
theorem ofJson_toJson (e : ObjectEvent) : ObjectEvent.ofJson e.toJson = .ok e :=
  ofJson_of_isSaid (.inl rfl) rfl e.object.ofJson_toJson

/-- An event as it is written in a message. -/
def toMessage (e : ObjectEvent) : Json := .obj [("type", .str e.type.word), ("object", e.object.toMessage)]

theorem describes_toMessage (e : ObjectEvent) : e.Describes e.toMessage :=
  ⟨.inl rfl, e.object.toMessage, rfl, e.object.describes_toMessage⟩

theorem isPlain_toMessage {e : ObjectEvent} (h : (Mapping.keys e.object.labels).Nodup) : e.toMessage.IsPlain := by
  simp [toMessage, Json.IsPlain, Json.MembersPlain, Mapping.keys, Object.isPlain_toMessage h]

theorem depth_toMessage_le (e : ObjectEvent) : e.toMessage.depth ≤ 3 := by
  have hObject := e.object.depth_toMessage_le
  simp only [toMessage, Json.depth, Json.membersDepth]
  omega

end ObjectEvent

end Topology

end RanConsole

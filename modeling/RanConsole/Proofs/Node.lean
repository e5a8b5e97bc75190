import RanConsole.Client.NodeService
import RanConsole.Proofs.Json.RoundTrip
import RanConsole.Proofs.Validation

/-!
# Nodes in messages

A record in which the fields of a node are found, under whichever of their names, is read as the node (`ofJson_of_isFoundIn`). A message
describes a node by the names that messages use for its fields (`describes_toMessage`); such a description is read as the node too
(`ofJson_of_describes`). A message about a node whose integers are short reads back as it was written (`read_nodeBody`), and nodes that
were read from values with short integers have short integers (`isShort_of_ofJson`).
-/

namespace RanConsole

open Validation

namespace Node

/-- A value describes a node: it has the fields of the node under the names that messages use. -/
structure Describes (n : Node) (v : Json) : Prop where
  enbid : v.member? "enbid" = some (.int n.enbid)
  status : v.member? "status" = some (.str n.status)
  serviceModels : v.member? "serviceModels" = some (.texts n.serviceModels)
  controllers : v.member? "controllers" = some (.texts n.controllers)
  cells : v.member? "cellECGIs" = some (.arr (n.cellEcgis.map .int))

theorem describes_toMessage (n : Node) : n.Describes n.toMessage := ⟨rfl, rfl, rfl, rfl, rfl⟩

/-- A value holds a node: it has a member that describes it. -/
def Holds (v : Json) (n : Node) : Prop := ∃ w, v.member? "node" = some w ∧ n.Describes w

theorem holds_nodeBody (n : Node) : Holds (Client.NodeService.nodeBody n) n := ⟨n.toMessage, rfl, n.describes_toMessage⟩

theorem isPlain_toMessage (n : Node) : n.toMessage.IsPlain := by
  have hCells : Json.ItemsPlain (n.cellEcgis.map .int) := by
    rw [Json.itemsPlain_iff]
    intro v hv
    obtain ⟨i, -, rfl⟩ := List.mem_map.mp hv
    trivial
  simp [toMessage, Json.IsPlain, Json.MembersPlain, Mapping.keys, hCells, (Json.isExact_texts _).isPlain]

/-! ## Descriptions that are read -/

/-- A description is an object. -/
theorem exists_members_of_member? {v w : Json} {key : String} (h : v.member? key = some w) : ∃ members, v = .obj members := by
  cases v <;> first | exact ⟨_, rfl⟩ | cases h

/-- The fields of a node are found in a record. -/
structure IsFoundIn (n : Node) (members : List (String × Json)) : Prop where
  enbid : Finds members { own := "enbid" } (.int n.enbid)
  status : Finds members { own := "status" } (.str n.status)
  serviceModels : Finds members serviceModelsField (.texts n.serviceModels)
  controllers : Finds members { own := "controllers" } (.texts n.controllers)
  cells : Finds members cellsField (.arr (n.cellEcgis.map .int))

/-- A record in which the fields of a node are found is read as the node. -/
theorem ofJson_of_isFoundIn {n : Node} {members : List (String × Json)} (h : n.IsFoundIn members) :
    Node.ofJson (.obj members) = .ok n := by
  have hEnbid : required members { own := "enbid" } (simple checkUnsigned) = .ok n.enbid :=
    required_of_finds h.enbid (checkUnsigned_int n.enbid)
  have hStatus : optional members { own := "status" } "" (simple checkText) = .ok n.status := optional_of_finds h.status rfl
  have hModels : optional members serviceModelsField [] (list (simple checkText)) = .ok n.serviceModels :=
    optional_of_finds h.serviceModels (list_texts n.serviceModels)
  have hControllers : optional members { own := "controllers" } [] (list (simple checkText)) = .ok n.controllers :=
    optional_of_finds h.controllers (list_texts n.controllers)
  have hCells : optional members cellsField [] (list (simple checkInteger)) = .ok n.cellEcgis :=
    optional_of_finds h.cells (list_integers n.cellEcgis)
  rw [Node.ofJson, record]
  simp only [hEnbid, hStatus, hModels, hControllers, hCells]
  rfl

/-- A description of a node is read as the node. -/
theorem ofJson_of_describes {n : Node} {v : Json} (h : n.Describes v) : Node.ofJson v = .ok n := by
  obtain ⟨members, rfl⟩ := exists_members_of_member? h.enbid
  exact ofJson_of_isFoundIn ⟨finds_of_get? h.enbid, finds_of_get? h.status, finds_of_get? h.serviceModels, finds_of_get? h.controllers,
    finds_of_get? h.cells⟩

/-- A node under its own field names is read as the node. -/
theorem ofJson_toJson (n : Node) : Node.ofJson n.toJson = .ok n :=
  ofJson_of_isFoundIn ⟨⟨_, rfl⟩, ⟨_, rfl⟩, ⟨_, rfl⟩, ⟨_, rfl⟩, ⟨_, rfl⟩⟩

/-- The node of an answer is what its member is read as. -/
theorem nodeOf_eq_ok_iff (v : Json) (n : Node) :
    Client.NodeService.nodeOf v = .ok n ↔ ∃ w, v.member? "node" = some w ∧ Node.ofJson w = .ok n := by
  constructor
  · intro h
    obtain ⟨w, hMember, hNode⟩ := ok_bind h
    refine ⟨w, ?_, ok_mapError hNode⟩
    cases v with
    | obj members =>
      rw [Client.NodeService.memberOf] at hMember
      split at hMember
      · rename_i u hGet
        cases hMember
        exact hGet
      · cases hMember
    | _ => cases hMember
  · intro ⟨w, hMember, hNode⟩
    obtain ⟨members, rfl⟩ := exists_members_of_member? hMember
    have hGet : Mapping.get? "node" members = some w := hMember
    have hMemberOf : Client.NodeService.memberOf "node" (.obj members) = .ok w := by
      rw [Client.NodeService.memberOf, hGet]
    rw [Client.NodeService.nodeOf, hMemberOf]
    change (Node.ofJson w).mapError _ = _
    rw [hNode]
    rfl

/-- A message that holds a node is read as holding it. -/
theorem nodeOf_of_holds {v : Json} {n : Node} (h : Holds v n) : Client.NodeService.nodeOf v = .ok n := by
  obtain ⟨w, hMember, hDescribes⟩ := h
  exact (nodeOf_eq_ok_iff v n).mpr ⟨w, hMember, ofJson_of_describes hDescribes⟩

/-! ## Short integers -/

/-- The integers of a node are short enough to be written and read again. -/
def IsShort (n : Node) : Prop := isShort n.enbid = true ∧ ∀ i ∈ n.cellEcgis, isShort i = true

instance (n : Node) : Decidable n.IsShort := inferInstanceAs (Decidable (_ ∧ _))

theorem isExact_nodeBody {n : Node} (h : n.IsShort) : (Client.NodeService.nodeBody n).IsExact := by
  have hCells : Json.ItemsExact (n.cellEcgis.map .int) := by
    rw [Json.itemsExact_iff]
    intro v hv
    obtain ⟨i, hi, rfl⟩ := List.mem_map.mp hv
    exact h.2 i hi
  simp [Client.NodeService.nodeBody, toMessage, Json.IsExact, Json.MembersExact, Mapping.keys, h.1, hCells]

theorem depth_toMessage_le (n : Node) : n.toMessage.depth ≤ 2 := by
  have hModels := Json.depth_texts_le n.serviceModels
  have hControllers := Json.depth_texts_le n.controllers
  have hCells : Json.itemsDepth (n.cellEcgis.map .int) ≤ 0 := by
    refine Json.itemsDepth_le fun v hv => ?_
    obtain ⟨i, -, rfl⟩ := List.mem_map.mp hv
    exact Nat.le_refl 0
  simp only [toMessage, Json.depth, Json.membersDepth]
  omega

theorem depth_nodeBody_le (n : Node) : (Client.NodeService.nodeBody n).depth ≤ 3 := by
  have hNode := n.depth_toMessage_le
  simp only [Client.NodeService.nodeBody, Json.depth, Json.membersDepth]
  omega

/-- What is written about a node with short integers reads back. -/
theorem read_nodeBody {n : Node} (h : n.IsShort) (standIn : Char) :
    Json.read ((Client.NodeService.nodeBody n).render .compact) { halves := .standIn standIn } = .ok (Client.NodeService.nodeBody n) :=
  Json.read_render Json.Style.compact_isSpaced (isExact_nodeBody h) (Nat.le_trans (depth_nodeBody_le n) (by decide)) standIn

theorem allShort_of_member? {v w : Json} {key : String} (h : v.AllShort) (hMember : v.member? key = some w) : w.AllShort := by
  obtain ⟨members, rfl⟩ := exists_members_of_member? hMember
  intro i hi
  exact h i (.member (Mapping.mem_of_get? hMember) hi)

/-- A node that is read from a value with short integers has short integers. -/
theorem isShort_of_ofJson {v : Json} {n : Node} (hShort : v.AllShort) (h : Node.ofJson v = .ok n) : n.IsShort := by
  cases v with
  | obj members =>
    have hMember : ∀ {name w}, Mapping.get? name members = some w → w.AllShort := allShort_of_member? hShort
    obtain ⟨_, cells, hFour, hCells, rfl⟩ := ok_ap h
    obtain ⟨_, controllers, hThree, -, rfl⟩ := ok_ap hFour
    obtain ⟨_, serviceModels, hTwo, -, rfl⟩ := ok_ap hThree
    obtain ⟨_, status, hOne, -, rfl⟩ := ok_ap hTwo
    obtain ⟨enbid, hEnbid, rfl⟩ := ok_map hOne
    obtain ⟨_, w, hGet, hNumber⟩ := exists_of_required hEnbid
    refine ⟨isShort_of_checkUnsigned (hMember hGet) hNumber, fun i hi => ?_⟩
    rcases exists_of_optional hCells with rfl | ⟨_, w, hGet, hList⟩
    · cases hi
    · obtain ⟨items, rfl, hItems⟩ := exists_of_list hList
      obtain ⟨item, hItem, hInteger⟩ := exists_of_mem_right hItems hi
      exact isShort_of_checkInteger (fun j hj => hMember hGet j (.item hItem hj)) hInteger
  | _ => cases h

end Node

end RanConsole

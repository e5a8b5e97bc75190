import RanConsole.Proofs.Client.Keeping
import RanConsole.Proofs.Event

/-!
# What is read and sent back

What a check lets through is let through again, unchanged, when it is written and checked once more, in whichever of its forms the first
value had it. A node that a server has told, in an answer or on the lines of a stream, has integers that are short enough to be written
(`isShort_of_told`); when it is sent back, the body of the request is read as the same node (`checks_retract`).
-/

namespace RanConsole

/-- Checking undoes writing, and what has been checked once does not change when it is written and checked again. -/
structure Validation.Retracts {α : Type} (check : Json → Validation.Checked α) (write : α → Json) : Prop where
  /-- Everything that can be written is let through as it is. -/
  fixes : ∀ a, check (write a) = .ok a
  /-- What is let through, in whatever form, is let through unchanged when it is written and checked again. -/
  again : ∀ v a, check v = .ok a → check (write a) = .ok a

theorem Validation.Retracts.of_fixes {α : Type} {check : Json → Validation.Checked α} {write : α → Json}
    (h : ∀ a, check (write a) = .ok a) : Validation.Retracts check write := ⟨h, fun _ a _ => h a⟩

namespace Client.NodeService

open Http

/-! ## Nodes that are told -/

/-- A node that some server has told: as the answer to a call about one node, or in an event of a stream. -/
inductive Told : Node → Prop
  | got {σ : Type} {server : Server σ} {c : Connection} {enbid : Int} {x : Talk σ} {n : Node}
    (h : (get server c enbid x).1 = .ok n) : Told n
  | controlled {σ : Type} {server : Server σ} {c : Connection} {enbid : Int} {command : String} {x : Talk σ} {n : Node}
    (h : (control server c enbid command x).1 = .ok n) : Told n
  | listed {σ : Type} {server : Server σ} {c : Connection} {limit : Option Nat} {x : Talk σ} {n : Node}
    (h : n ∈ (list server c limit x).1.1) : Told n
  | watched {σ : Type} {server : Server σ} {c : Connection} {noReplay : Bool} {limit : Option Nat} {x : Talk σ} {e : NodeEvent}
    (h : e ∈ (watch server c noReplay limit x).1.1) : Told e.node

section

variable {σ : Type} {server : Server σ} {c : Connection} {method : Method} {path : String} {body : Option Json} {x : Talk σ}

/-- The node of an answer has short integers. -/
theorem isShort_of_answered {n : Node} (h : (call server c method path body x).1.bind nodeOf = .ok n) : n.IsShort := by
  obtain ⟨v, hAnswer, hNode⟩ := ok_bind h
  obtain ⟨rs, hCall⟩ := call_sends server c method path body x {}
  obtain ⟨r, raw, response, -, -, hValue⟩ := hCall.answered v hAnswer
  obtain ⟨w, hMember, hRead⟩ := (Node.nodeOf_eq_ok_iff v n).mp hNode
  exact Node.isShort_of_ofJson (Node.allShort_of_member? (allShort_of_answerOf hValue) hMember) hRead

/-- The node of an event in a stream has short integers. -/
theorem isShort_of_streamed {query : Option String} {limit : Option Nat} {e : NodeEvent}
    (h : e ∈ (stream server c method path query body (readLine NodeEvent.ofJson) limit x).1.1) : e.node.IsShort := by
  obtain ⟨line, hRead⟩ := exists_of_mem_stream h
  obtain ⟨v, hLine, hEvent⟩ := readLine_ok hRead
  cases v with
  | obj members =>
    obtain ⟨f, node, hType, hNode, rfl⟩ := ok_ap hEvent
    obtain ⟨type, -, rfl⟩ := ok_map hType
    obtain ⟨name, w, hMember, hRead⟩ := Validation.exists_of_required hNode
    exact Node.isShort_of_ofJson (Node.allShort_of_member? (Json.allShort_of_readChars hLine) hMember) hRead
  | _ => cases hEvent

end

/-- Nodes that are told have short integers. -/
theorem isShort_of_told {n : Node} (h : Told n) : n.IsShort := by
  cases h with
  | got h =>
    simp only [get_eq] at h
    exact isShort_of_answered h
  | controlled h =>
    simp only [control] at h
    exact isShort_of_answered h
  | listed h =>
    simp only [list, listLines] at h
    obtain ⟨e, he, rfl⟩ := List.mem_map.mp h
    exact isShort_of_streamed he
  | watched h =>
    rw [watch, watchLines] at h
    exact isShort_of_streamed h

/-! ## Nodes that are sent -/

/-- A request that sends a node: to create it, or to write it over the one with its number. -/
def SendsNode (n : Node) (r : Request) : Prop :=
  ∃ (σ : Type) (server : Server σ) (c : Connection) (start : σ),
    r ∈ (create server c n (.start start)).2.requests ∨ r ∈ (update server c n (.start start)).2.requests

theorem body_of_sendsNode {n : Node} {r : Request} (h : SendsNode n r) : r.body = (nodeBody n).render .compact := by
  obtain ⟨σ, server, c, start, hCreate | hUpdate⟩ := h
  · simp only [create_eq] at hCreate
    exact (requestTo_eq_ok (requestTo_of_call hCreate)).2.1
  · simp only [update_eq] at hUpdate
    exact (requestTo_eq_ok (requestTo_of_call hUpdate)).2.1

end Client.NodeService

open Validation Client

/-- Each record that is let through is the same when it is written under its own field names and checked again, and so is a node that is
written under the names of messages. A node that a server has told is the same node in the requests that send it back. -/
theorem checks_retract :
    (Retracts Node.ofJson Node.toJson ∧ Retracts Node.ofJson Node.toMessage ∧ Retracts NodeEvent.ofJson NodeEvent.toJson ∧
        Retracts Topology.Object.ofJson Topology.Object.toJson ∧ Retracts Topology.ObjectEvent.ofJson Topology.ObjectEvent.toJson) ∧
      ∀ n r, NodeService.Told n → NodeService.SendsNode n r → ∃ v, Json.read r.body = .ok v ∧ NodeService.nodeOf v = .ok n := by
  have hMessage : ∀ n : Node, Node.ofJson n.toMessage = .ok n := fun n => Node.ofJson_of_describes n.describes_toMessage
  refine ⟨⟨.of_fixes Node.ofJson_toJson, .of_fixes hMessage, .of_fixes NodeEvent.ofJson_toJson,
    .of_fixes Topology.Object.ofJson_toJson, .of_fixes Topology.ObjectEvent.ofJson_toJson⟩, ?_⟩
  intro n r hTold hSends
  rw [NodeService.body_of_sendsNode hSends]
  exact ⟨NodeService.nodeBody n, Node.read_nodeBody (NodeService.isShort_of_told hTold) _,
    Node.nodeOf_of_holds (Node.holds_nodeBody n)⟩

/-! ## A node in mixed forms -/

/-- A value that describes a node by both names of one field, and by a text, a truth value and a floating point number for integers. -/
def mixedNode : Json :=
  .obj [("enbid", .str " +1_0.0"), ("service_models", .texts ["rc"]), ("serviceModels", .texts ["kpm"]),
    ("cell_ecgis", .arr [.bool true, .float (.ofInt 2), .str "007"])]

/-- A server that answers everything with the value. -/
def mixedTeller : Http.Server Unit :=
  ⟨fun s _ => (.response { status := 200, body := Text.Utf8.encode ((Json.obj [("node", mixedNode)]).render .compact).toList }, s)⟩

/-- The value comes to a node with integers, which stays the same, and which is what is sent back. -/
theorem checks_retract_mixed :
    let n : Node := { enbid := 10, serviceModels := ["kpm"], cellEcgis := [1, 2, 7] }
    let c : Connection := { service := NodeService.path }
    (Node.ofJson mixedNode = .ok n ∧ Node.ofJson n.toJson = .ok n ∧ Node.ofJson n.toMessage = .ok n) ∧
      (NodeService.get mixedTeller c 10 (.start ())).1 = .ok n ∧ (NodeService.update mixedTeller c n (.start ())).2.requests ≠ [] ∧
      ∀ r ∈ (NodeService.update mixedTeller c n (.start ())).2.requests, ∃ v, Json.read r.body = .ok v ∧ NodeService.nodeOf v = .ok n := by
  intro n c
  obtain ⟨⟨hOwn, hMessage, -⟩, hSentBack⟩ := checks_retract
  have hRead : Node.ofJson mixedNode = .ok n := by decide +kernel
  have hGot : (NodeService.get mixedTeller c 10 (.start ())).1 = .ok n := ok_of_toOption (by decide +kernel)
  refine ⟨⟨hRead, hOwn.again mixedNode n hRead, hMessage.again mixedNode n hRead⟩, hGot, by decide +kernel, fun r hr => ?_⟩
  exact hSentBack n r (.got hGot) ⟨Unit, mixedTeller, c, (), .inr hr⟩

end RanConsole

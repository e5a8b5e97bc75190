import RanConsole.Client.TopologyService
import RanConsole.Proofs.Client.Stream
import RanConsole.Proofs.Event

/-!
# Calls that are streams

Listing nodes, watching nodes and watching objects are streams: one request, a check for the lines of its answer, and what the call gives
for the value of a line. A call that can be requested sends its request once (`run_of_request`).
-/

namespace RanConsole.Client

open Http

/-- The calls that are streams, by what a line tells and what the call gives for it. -/
inductive StreamCall : Type → Type → Type
  | listNodes : StreamCall NodeEvent Node
  | watchNodes (noReplay : Bool) : StreamCall NodeEvent NodeEvent
  | watchObjects (type : Query.ObjectType) (filters : Query.Filters) (noReplay : Bool) :
    StreamCall Topology.ObjectEvent Topology.ObjectEvent

namespace StreamCall

variable {σ α β : Type}

/-- What a call gives, with no limit, and the failure that ends it, with what has happened then. -/
def run (server : Server σ) (c : Connection) (x : Talk σ) (call : StreamCall α β) (how : Json.Reading := {}) :
    (List β × Option CallError) × Talk σ :=
  match call with
  | .listNodes => NodeService.list server c none x how
  | .watchNodes noReplay => NodeService.watch server c noReplay none x how
  | .watchObjects type filters noReplay => TopologyService.watch server c type filters noReplay none x how

/-- The request of a call. -/
def request (c : Connection) : StreamCall α β → Except CallError Request
  | .listNodes => c.requestTo .get "/nodes" none none
  | .watchNodes noReplay => c.requestTo .get "/nodes/watch" (some (if noReplay then "noReplay=true" else "noReplay=false")) none
  | .watchObjects type filters noReplay =>
    c.requestTo .post "/objects/watch" none
      (some (.obj (TopologyService.queryMembers type filters ++ [("noReplay", .bool noReplay)])))

/-- What a line of the answer has to tell. -/
def check : StreamCall α β → Json → Validation.Checked α
  | .listNodes | .watchNodes _ => NodeEvent.ofJson
  | .watchObjects .. => Topology.ObjectEvent.ofJson

/-- What is read of a line. -/
def read (call : StreamCall α β) (how : Json.Reading) (line : List Char) : Except CallError α := readLine call.check line how

/-- What a call gives for what a line tells. -/
def view : StreamCall α β → α → β
  | .listNodes => NodeEvent.node
  | .watchNodes _ | .watchObjects .. => id

/-- A value describes what a line of the answer tells. -/
def Describes : StreamCall α β → α → Json → Prop
  | .listNodes | .watchNodes _ => NodeEvent.Describes
  | .watchObjects .. => Topology.ObjectEvent.Describes

/-- A call that can be requested sends its request once, and gives what the lines of the answer tell. -/
theorem run_of_request {c : Connection} {call : StreamCall α β} {r : Request} (h : call.request c = .ok r) (server : Server σ)
    (x : Talk σ) (how : Json.Reading) :
    call.run server c x how =
      (((streamed (call.read how) r (resultAt server r x.server 0)).1.map call.view,
        (streamed (call.read how) r (resultAt server r x.server 0)).2), (x.send server r).2) := by
  cases call with
  | listNodes => rw [run, NodeService.list, NodeService.listLines, stream_of_requestTo h]; rfl
  | watchNodes noReplay => rw [run, NodeService.watch, NodeService.watchLines, stream_of_requestTo h, view, List.map_id]; rfl
  | watchObjects type filters noReplay =>
    rw [run, TopologyService.watch, TopologyService.watchLines, stream_of_requestTo h, view, List.map_id]; rfl

theorem check_of_describes {call : StreamCall α β} {a : α} {v : Json} (h : call.Describes a v) : call.check v = .ok a := by
  cases call with
  | listNodes | watchNodes => exact NodeEvent.ofJson_of_describes h
  | watchObjects => exact Topology.ObjectEvent.ofJson_of_describes h

/-- What tells something is an object. -/
theorem exists_members_of_describes {call : StreamCall α β} {a : α} {v : Json} (h : call.Describes a v) :
    ∃ members, v = .obj members := by
  cases call with
  | listNodes | watchNodes =>
    obtain ⟨w, hNode, -⟩ := NodeEvent.Describes.node h
    exact Node.exists_members_of_member? hNode
  | watchObjects =>
    obtain ⟨w, hObject, -⟩ := Topology.ObjectEvent.Describes.object h
    exact Node.exists_members_of_member? hObject

/-! ## Responses -/

/-- A failure tells the status of the response to a request. -/
def TellsStatus (r : Request) (status : Nat) (failure : Option CallError) : Prop :=
  ∃ kind report, failure = some (.failure (.api kind report (some (Int.ofNat status)) (some (endpoint r))))

/-- The body of a response can be unpacked and is a text. -/
def HasText (raw : Response) : Prop := ∃ response text, raw.unpacked = .ok response ∧ response.text? = some text

/-- What a call makes of a response, in which halves of pairs are read in some way. -/
structure Reads (call : StreamCall α β) (how : Json.Reading) (r : Request) (raw : Response)
    (delivered : List β × Option CallError) : Prop where
  /-- It is told as one without success, and gives no value, if and only if its status is one of an error and it has a text. -/
  told : delivered.1 = [] ∧ TellsStatus r raw.status delivered.2 ↔ isError raw.status = true ∧ HasText raw
  /-- A response with an error gives no value. -/
  error : isError raw.status = true → delivered.1 = [] ∧ delivered.2 ≠ none
  /-- The lines of any other one give values, unless it sends the program elsewhere. -/
  values : isError raw.status = false → isRedirect raw.status = false ∨ raw.location = none → ∀ response text,
    raw.unpacked = .ok response → response.text? = some text →
      delivered =
        ((readLines (call.read how) none (Text.lines text)).1.map call.view, (readLines (call.read how) none (Text.lines text)).2)

theorem reads_of_streamed {call : StreamCall α β} {how : Json.Reading} {r : Request} (hTyped : r.url.isTyped = true) {raw : Response}
    {delivered : List α × Option CallError} (h : Streamed (call.read how) r raw delivered) :
    Reads call how r raw (delivered.1.map call.view, delivered.2) := by
  cases h with
  | told hSettled hText hStatus =>
    have hHasText : HasText raw := ⟨_, _, unpacked_of_settled hSettled, hText⟩
    refine ⟨iff_of_true ⟨rfl, _, _, rfl⟩ ⟨hStatus, hHasText⟩, fun _ => ⟨rfl, nofun⟩, fun hNoError => ?_⟩
    rw [hStatus] at hNoError
    cases hNoError
  | @read response text hSettled hText hStatus =>
    refine ⟨iff_of_false (fun ⟨_, kind, report, hTells⟩ => ?_) (by rw [hStatus]; exact nofun), fun hError => ?_,
      fun _ _ response' text' hUnpacked hText' => ?_⟩
    · have hReported := ((blamesLines_readLine call.check how).of_readLines hTells).1
      cases hReported
    · rw [hStatus] at hError
      cases hError
    · rw [unpacked_of_settled hSettled] at hUnpacked
      cases hUnpacked
      rw [hText] at hText'
      cases hText'
      rfl
  | lost hLost hStatusless hInterrupted =>
    refine ⟨iff_of_false (fun ⟨_, kind, report, hTells⟩ => ?_) (fun ⟨hStatus, response, text, hUnpacked, hText⟩ => ?_),
      fun _ => ⟨rfl, nofun⟩, fun _ hLocation response text hUnpacked hText => ?_⟩
    · cases hTells
      cases hStatusless
    · exact hLost response text (settled_of_no_location hTyped (.inl (not_isRedirect_of_isError hStatus)) hUnpacked) hText
    · exact absurd hText (hLost response text (settled_of_no_location hTyped hLocation hUnpacked))

end StreamCall

end RanConsole.Client

import RanConsole.Proofs.Client.Transcript
import RanConsole.Proofs.CommandLine.Invocation
import RanConsole.Proofs.CommandLine.Report

/-!
# Changes that are told

The tasks that create, update and delete a node make one call, and all that they print is that it has succeeded. A run that invokes one
of them tells no success that the server has not (`run_tellsNoFalseSuccess`): what is printed and the exit code zero both rest on an
answer of success to the last request, the one that carries the change, and an update writes only what it has read before.
-/

namespace RanConsole.CommandLine

open Client Http

variable {σ : Type}

/-! ## Tasks that change a node -/

/-- What a task that changes a node consists of: its call, and what is said about it. -/
structure Change (σ : Type) where
  enbid : Nat
  quiet : Bool
  access : Access
  /-- The word for what has been done to the node. -/
  word : String
  call : Connection → Talk σ → Except CallError Unit × Talk σ

/-- A task is a change of a node. -/
inductive Changes (server : Server σ) : Task → Change σ → Prop
  | create (enbid : Nat) (edits : NodeEdits) (quiet : Bool) (access : Access) :
    Changes server (.createNode enbid edits quiet access)
      { enbid, quiet, access, word := "created", call := fun c => NodeService.create server c (edits.apply { enbid }) }
  | update (enbid : Nat) (edits : NodeEdits) (quiet : Bool) (access : Access) :
    Changes server (.updateNode enbid edits quiet access)
      { enbid, quiet, access, word := "updated", call := Surroundings.editNode server enbid edits }
  | delete (enbid : Nat) (quiet : Bool) (access : Access) :
    Changes server (.deleteNode enbid quiet access)
      { enbid, quiet, access, word := "deleted", call := fun c => NodeService.delete server c enbid }

theorem Changes.unique {server : Server σ} {task : Task} {ch ch' : Change σ} (h : Changes server task ch)
    (h' : Changes server task ch') : ch' = ch := by
  cases h <;> cases h' <;> rfl

/-- The connection of a change. -/
def Change.connection (ch : Change σ) (s : Surroundings) : Connection := s.connection ch.access NodeService.path

/-- The result of the call of a change and what has happened then. -/
def Change.result (ch : Change σ) (s : Surroundings) (x : Talk σ) : Except CallError Unit × Talk σ := ch.call (ch.connection s) x

/-- The report on a change once its call has been made. -/
def Change.done (ch : Change σ) (s : Surroundings) (store : Config.Store) (x : Talk σ) : Done σ :=
  ⟨s.reportResult ch.access false (ch.result s x).2.log (Surroundings.changed ch.quiet ch.enbid ch.word) (ch.result s x).1, store,
    (ch.result s x).2⟩

theorem perform_of_change {server : Server σ} {task : Task} {ch : Change σ} (h : Changes server task ch) (s : Surroundings)
    (store : Config.Store) (x : Talk σ) : perform server s store x task = ch.done s store x := by
  cases h <;> simp only [perform, nodeCall_eq, Change.done, Change.result, Change.connection]

/-- Whether an action changes a node. -/
def Action.changesNode : Action → Bool
  | .createNode | .updateNode | .deleteNode => true
  | _ => false

/-- The tasks of an action that changes a node are changes, which say nothing if they are asked to be quiet. -/
theorem exists_change_of_task (server : Server σ) {action : Action} {a : Scanned} {task : Task} (hAction : action.changesNode = true)
    (h : action.task a = .ok task) : ∃ ch, Changes server task ch ∧ ch.quiet = a.has .quiet := by
  match action, hAction with
  | .createNode, _ =>
    obtain ⟨enbid, -, h⟩ := ok_bind h
    obtain ⟨edits, -, h⟩ := ok_bind h
    cases h
    exact ⟨_, .create .., rfl⟩
  | .updateNode, _ =>
    obtain ⟨enbid, -, h⟩ := ok_bind h
    obtain ⟨edits, -, h⟩ := ok_bind h
    cases h
    exact ⟨_, .update .., rfl⟩
  | .deleteNode, _ =>
    obtain ⟨enbid, -, h⟩ := ok_bind h
    cases h
    exact ⟨_, .delete .., rfl⟩

/-- A change whose call has failed prints nothing; one that is asked to be quiet prints nothing at all. -/
theorem out_of_done {ch : Change σ} {s : Surroundings} {store : Config.Store} {x : Talk σ} (h : (ch.done s store x).report.out ≠ "") :
    (ch.result s x).1 = .ok () ∧ ch.quiet = false := by
  rw [Change.done, reportResult_eq, report_out] at h
  cases hResult : (ch.result s x).1 with
  | error e => exact absurd (by rw [hResult]; rfl) h
  | ok _ =>
    cases hQuiet : ch.quiet with
    | true => exact absurd (by rw [hResult, hQuiet]; rfl) h
    | false => exact ⟨rfl, rfl⟩

theorem ending_of_done (ch : Change σ) (s : Surroundings) (store : Config.Store) (x : Talk σ) :
    (ch.done s store x).report.ending = endingAfter false (failureIn (ch.result s x).1) := by
  rw [Change.done, reportResult_eq, report_ending]

theorem result_of_exit {ch : Change σ} {s : Surroundings} {store : Config.Store} {x : Talk σ}
    (h : (ch.done s store x).report.ending = .exit 0) : (ch.result s x).1 = .ok () := by
  rw [ending_of_done] at h
  have hNone := eq_none_of_endingAfter h
  cases hResult : (ch.result s x).1 with
  | error e =>
    rw [hResult] at hNone
    cases hNone
  | ok _ => rfl

/-! ## The requests of a change -/

/-- The request by which a task changes a node. An update writes a node with its edits to the place of that node. -/
inductive Carries (c : Connection) : Task → Request → Prop
  | create {enbid : Nat} {edits : NodeEdits} {quiet : Bool} {access : Access} {r : Request}
      (h : c.requestTo .post "/nodes" none (some (NodeService.nodeBody (edits.apply { enbid }))) = .ok r) :
      Carries c (.createNode enbid edits quiet access) r
  | update {enbid : Nat} {edits : NodeEdits} {quiet : Bool} {access : Access} {r : Request} (n : Node)
      (h : c.requestTo .put (NodeService.nodePath n.enbid) none (some (NodeService.nodeBody (edits.apply n))) = .ok r) :
      Carries c (.updateNode enbid edits quiet access) r
  | delete {enbid : Nat} {quiet : Bool} {access : Access} {r : Request}
      (h : c.requestTo .delete (NodeService.nodePath enbid) none none = .ok r) : Carries c (.deleteNode enbid quiet access) r

/-- A node is read among requests that have been answered: the request for it is answered with success, and the body of the answer
describes the node, with a character in place of halves of pairs. -/
def NodeRead (c : Connection) (enbid : Nat) (answered : List (Request × Outcome)) (n : Node) : Prop :=
  ∃ r raw response, c.requestTo .get (NodeService.nodePath enbid) none none = .ok r ∧ (r, .response raw) ∈ answered ∧
    isSuccess raw.status = true ∧ raw.unpacked = .ok response ∧ (readBody response.body below).bind NodeService.nodeOf = .ok n

theorem map_unit_eq_ok {α : Type} {answer : Except CallError α} (h : (answer.map fun _ => ()) = .ok ()) : ∃ v, answer = .ok v := by
  obtain ⟨v, hv, -⟩ := ok_map h
  exact ⟨v, hv⟩

/-- What an edit sends: requests for the node, and if they have it, requests that write it with the edits applied. -/
structure EditSends (server : Server σ) (c : Connection) (enbid : Nat) (edits : NodeEdits) (start : σ)
    (result : Except CallError Unit) (y : Talk σ) (reads writes : List Request) : Prop where
  requests : y.requests = reads ++ writes
  reads_same : ∀ r ∈ reads, c.requestTo .get (NodeService.nodePath enbid) none none = .ok r
  writes_same : ∀ w ∈ writes, ∃ n, NodeRead c enbid (transcript server start reads) n ∧
    c.requestTo .put (NodeService.nodePath n.enbid) none (some (NodeService.nodeBody (edits.apply n))) = .ok w
  answered : result = .ok () → ∃ n w raw response,
    c.requestTo .put (NodeService.nodePath n.enbid) none (some (NodeService.nodeBody (edits.apply n))) = .ok w ∧
      LastSucceeds server start (reads ++ writes) w raw response

/-- An answer from which a node is made has a body. -/
theorem body_of_nodeOf {response : Response} {how : Json.Reading} {v : Json} {n : Node} (hValue : answerOf response how = .ok v)
    (hNode : NodeService.nodeOf v = .ok n) : (readBody response.body how).bind NodeService.nodeOf = .ok n := by
  rw [answerOf] at hValue
  split at hValue
  · cases hValue
    cases hNode
  · rw [hValue]
    exact hNode

section

variable {server : Server σ} {c : Connection} {enbid : Nat} {edits : NodeEdits} {x y : Talk σ}

theorem editNode_of_error {e : CallError} (h : NodeService.get server c enbid x below = (.error e, y)) :
    Surroundings.editNode server enbid edits c x = (.error e, y) := by
  delta Surroundings.editNode
  rw [h]

/-- A node is written if what is written of it holds no half of a pair, so that it is the same whatever stands for halves. -/
theorem editNode_of_whole {n : Node} (h : NodeService.get server c enbid x below = (.ok n, y))
    (hAbove : (NodeService.get server c enbid x above).1.toOption.map edits.apply = some (edits.apply n)) :
    Surroundings.editNode server enbid edits c x = NodeService.update server c (edits.apply n) y := by
  delta Surroundings.editNode
  rw [h]
  exact if_pos hAbove

theorem editNode_of_torn {n : Node} (h : NodeService.get server c enbid x below = (.ok n, y))
    (hAbove : (NodeService.get server c enbid x above).1.toOption.map edits.apply ≠ some (edits.apply n)) :
    Surroundings.editNode server enbid edits c x = (.error .unencodable, y) := by
  delta Surroundings.editNode
  rw [h]
  exact if_neg hAbove

end

/-- An edit that ends with the reading of the node sends nothing else. -/
theorem editSends_of_read {server : Server σ} {c : Connection} {enbid : Nat} {edits : NodeEdits} {start : σ} {e : CallError}
    {y : Talk σ} {reads : List Request} (hSends : Sends server (.start start) reads y)
    (hSame : ∀ r ∈ reads, c.requestTo .get (NodeService.nodePath enbid) none none = .ok r) :
    EditSends server c enbid edits start (.error e) y reads [] where
  requests := by rw [List.append_nil, hSends.requests_start]
  reads_same := hSame
  writes_same := List.forall_mem_nil _
  answered := nofun

theorem editNode_sends (server : Server σ) (c : Connection) (enbid : Nat) (edits : NodeEdits) (start : σ) :
    ∃ reads writes, EditSends server c enbid edits start (Surroundings.editNode server enbid edits c (.start start)).1
      (Surroundings.editNode server enbid edits c (.start start)).2 reads writes := by
  obtain ⟨reads, hReads⟩ := call_sends server c .get (NodeService.nodePath enbid) none (.start start) below
  have hGet := NodeService.get_eq server c enbid (.start start) below
  generalize call server c .get (NodeService.nodePath enbid) none (.start start) below = read at hReads hGet
  obtain ⟨answer, y⟩ := read
  cases hNode : answer.bind NodeService.nodeOf with
  | error e =>
    rw [hNode] at hGet
    rw [editNode_of_error hGet]
    exact ⟨reads, [], editSends_of_read hReads.sends hReads.same⟩
  | ok n =>
    obtain ⟨v, hv, hn⟩ := ok_bind hNode
    obtain ⟨g, raw, response, hRequest, hLast, hValue⟩ := hReads.answered v hv
    have hRead : NodeRead c enbid (transcript server start reads) n :=
      ⟨g, raw, response, hRequest, List.mem_of_getLast? hLast.last, hLast.status, unpacked_of_settled hLast.settles,
        body_of_nodeOf hValue hn⟩
    rw [hNode] at hGet
    by_cases hAbove : (NodeService.get server c enbid (.start start) above).1.toOption.map edits.apply = some (edits.apply n)
    · rw [editNode_of_whole hGet hAbove, NodeService.update_eq]
      -- the write is made in the state that the reads have left
      obtain ⟨writes, hWrites⟩ := call_sends server c .put (NodeService.nodePath (edits.apply n).enbid)
        (some (NodeService.nodeBody (edits.apply n))) y {}
      generalize call server c .put (NodeService.nodePath (edits.apply n).enbid) (some (NodeService.nodeBody (edits.apply n))) y = write
        at hWrites ⊢
      have hSends := hReads.sends.trans hWrites.sends
      refine ⟨reads, writes, hSends.requests_start, hReads.same, fun w hw => ⟨n, hRead, hWrites.same w hw⟩, fun h => ?_⟩
      obtain ⟨v', hv'⟩ := map_unit_eq_ok h
      obtain ⟨w, raw', response', hWrite, hLast', -⟩ := hWrites.answered v' hv'
      rw [hReads.sends.server] at hLast'
      exact ⟨n, w, raw', response', hWrite, hLast'.after⟩
    · rw [editNode_of_torn hGet hAbove]
      exact ⟨reads, [], editSends_of_read hReads.sends hReads.same⟩

/-- A call that has succeeded has an answer of success to its last request. -/
theorem lastSucceeds_of_call {server : Server σ} {c : Connection} {method : Method} {path : String} {body : Option Json} {start : σ}
    {v : Json} (h : (call server c method path body (.start start)).1 = .ok v) :
    ∃ r raw response, c.requestTo method path none body = .ok r ∧
      LastSucceeds server start (call server c method path body (.start start)).2.requests r raw response := by
  obtain ⟨rs, hCall⟩ := call_sends server c method path body (.start start) {}
  obtain ⟨r, raw, response, hRequest, hLast, -⟩ := hCall.answered v h
  rw [hCall.sends.requests_start]
  exact ⟨r, raw, response, hRequest, hLast⟩

/-- A change that has succeeded is carried by the last request, which is answered with success. -/
theorem carries_of_result {server : Server σ} {task : Task} {ch : Change σ} (h : Changes server task ch) {s : Surroundings}
    {start : σ} (hResult : (ch.result s (.start start)).1 = .ok ()) :
    ∃ r raw response, Carries (ch.connection s) task r ∧
      LastSucceeds server start (ch.result s (.start start)).2.requests r raw response := by
  cases h with
  | create enbid edits quiet access =>
    simp only [Change.result, Change.connection, NodeService.create_eq] at hResult ⊢
    obtain ⟨v, hv⟩ := map_unit_eq_ok hResult
    obtain ⟨r, raw, response, hRequest, hLast⟩ := lastSucceeds_of_call hv
    exact ⟨r, raw, response, .create hRequest, hLast⟩
  | update enbid edits quiet access =>
    simp only [Change.result, Change.connection] at hResult ⊢
    obtain ⟨reads, writes, hEdit⟩ := editNode_sends server (s.connection access NodeService.path) enbid edits start
    obtain ⟨n, w, raw, response, hWrite, hLast⟩ := hEdit.answered hResult
    rw [← hEdit.requests] at hLast
    exact ⟨w, raw, response, .update n hWrite, hLast⟩
  | delete enbid quiet access =>
    simp only [Change.result, Change.connection, NodeService.delete_eq] at hResult ⊢
    obtain ⟨v, hv⟩ := map_unit_eq_ok hResult
    obtain ⟨r, raw, response, hRequest, hLast⟩ := lastSucceeds_of_call hv
    exact ⟨r, raw, response, .delete hRequest, hLast⟩

/-- An entry that is not in the front stands behind all of it. -/
theorem exists_of_append_eq {front back before after : List (Request × Outcome)} {entry : Request × Outcome}
    (h : front ++ back = before ++ entry :: after) (hEntry : entry ∉ front) : ∃ more, before = front ++ more := by
  rcases List.append_eq_append_iff.mp h with ⟨more, hBefore, -⟩ | ⟨more, hFront, hBack⟩
  · exact ⟨more, hBefore⟩
  · cases more with
    | nil => exact ⟨[], by simpa using hFront.symm⟩
    | cons e more =>
      obtain ⟨rfl, -⟩ := List.cons.inj hBack
      exact absurd (by simp [hFront]) hEntry

/-- Whatever is written has been read before. -/
theorem read_of_written {server : Server σ} {task : Task} {ch : Change σ} (h : Changes server task ch) {s : Surroundings}
    {start : σ} {before after : List (Request × Outcome)} {w : Request} {outcome : Outcome}
    (hSplit : transcript server start (ch.result s (.start start)).2.requests = before ++ (w, outcome) :: after)
    (hPut : w.method = .put) :
    ∃ enbid edits quiet access n, task = .updateNode enbid edits quiet access ∧
      NodeRead (s.connection access NodeService.path) enbid before n ∧
      (s.connection access NodeService.path).requestTo .put (NodeService.nodePath n.enbid) none
        (some (NodeService.nodeBody (edits.apply n))) = .ok w := by
  have hEntry : (w, outcome) ∈ transcript server start (ch.result s (.start start)).2.requests := by
    rw [hSplit]
    exact List.mem_append_right _ (List.mem_cons_self ..)
  have hSent := mem_of_mem_transcript hEntry
  cases h with
  | create enbid edits quiet access =>
    simp only [Change.result, Change.connection, NodeService.create_eq] at hSent
    rw [(requestTo_eq_ok (requestTo_of_call hSent)).1] at hPut
    cases hPut
  | delete enbid quiet access =>
    simp only [Change.result, Change.connection, NodeService.delete_eq] at hSent
    rw [(requestTo_eq_ok (requestTo_of_call hSent)).1] at hPut
    cases hPut
  | update enbid edits quiet access =>
    simp only [Change.result, Change.connection] at hSplit
    obtain ⟨reads, writes, hEdit⟩ := editNode_sends server (s.connection access NodeService.path) enbid edits start
    have hReads : ∀ outcome, (w, outcome) ∉ transcript server start reads := by
      intro outcome hMem
      have hGet := (requestTo_eq_ok (hEdit.reads_same w (mem_of_mem_transcript hMem))).1
      rw [hGet] at hPut
      cases hPut
    rw [hEdit.requests, transcript_append] at hSplit
    obtain ⟨more, hBefore⟩ := exists_of_append_eq hSplit (hReads outcome)
    have hEntry : (w, outcome) ∈ transcript server start reads ++ transcript server (stateAfter server start reads) writes := by
      rw [hSplit]
      exact List.mem_append_right _ (List.mem_cons_self ..)
    have hWritten : w ∈ writes := mem_of_mem_transcript ((List.mem_append.mp hEntry).resolve_left (hReads outcome))
    obtain ⟨n, ⟨r, raw, response, hRequest, hMem, hRest⟩, hWrite⟩ := hEdit.writes_same w hWritten
    refine ⟨enbid, edits, quiet, access, n, rfl, ⟨r, raw, response, hRequest, ?_, hRest⟩, hWrite⟩
    rw [hBefore]
    exact List.mem_append_left _ hMem

/-! ## Runs that change a node -/

/-- A run that invokes a change of a node tells no false success. -/
structure TellsNoFalseSuccess (server : Server σ) (clock : Log.Clock) (arguments : List String) (store : Config.Store) (start : σ)
    (action : Action) (rest : List String) (done : Done σ) : Prop where
  /-- Something is printed only with the exit code zero, and unless the run is asked to be quiet. -/
  printed : done.report.out ≠ "" →
    done.report.ending = .exit 0 ∧ ∃ a, scan action.switches false rest = .ok a ∧ a.has .quiet = false
  /-- The exit code is zero only if the last request is the one that carries the change, and its answer is one of success. -/
  succeeded : done.report.ending = .exit 0 → ∃ s left task ch r raw, Launches clock arguments store s left task ∧
    Changes server task ch ∧ Carries (ch.connection s) task r ∧
    (transcript server start done.talk.requests).getLast? = some (r, .response raw) ∧ isSuccess raw.status = true
  /-- A call that fails by an error of the server or the connection ends the run with a failure, and nothing is printed. -/
  failed : ∀ s left task ch e, Launches clock arguments store s left task → Changes server task ch →
    (ch.result s (.start start)).1 = .error e → e.reported?.isSome = true → done.report.ending = .exit 1 ∧ done.report.out = ""
  /-- A node is written only by an update, and after it was read with an answer of success that describes it. -/
  written : ∀ before w outcome after, transcript server start done.talk.requests = before ++ (w, outcome) :: after →
    w.method = .put → ∃ s left enbid edits quiet access n,
      Launches clock arguments store s left (.updateNode enbid edits quiet access) ∧
      NodeRead (s.connection access NodeService.path) enbid before n ∧
      (s.connection access NodeService.path).requestTo .put (NodeService.nodePath n.enbid) none
        (some (NodeService.nodeBody (edits.apply n))) = .ok w

/-- A run that comes to no task and neither prints anything nor ends with success tells no false success. -/
theorem tellsNoFalseSuccess_of_none {server : Server σ} {clock : Log.Clock} {arguments : List String} {store : Config.Store}
    {start : σ} {action : Action} {rest : List String} {report : Report} {left : Config.Store}
    (hOut : report.out = "") (hEnding : report.ending ≠ .exit 0)
    (hNone : ∀ s left task, ¬ Launches clock arguments store s left task) :
    TellsNoFalseSuccess server clock arguments store start action rest ⟨report, left, .start start⟩ where
  printed h := absurd hOut h
  succeeded h := absurd h hEnding
  failed s left task _ _ h := absurd h (hNone s left task)
  written before w outcome after h := by
    change [] = before ++ (w, outcome) :: after at h
    simp at h

/-- A run that invokes a change of a node, without asking for help, tells no false success. -/
theorem run_tellsNoFalseSuccess {arguments rest : List String} {options : LogOptions} {action : Action}
    (hInvokes : Invokes arguments options action rest) (hAction : action.changesNode = true)
    (hHelp : ∀ a, scan action.switches false rest = .ok a → a.has .help = false)
    (server : Server σ) (clock : Log.Clock) (store : Config.Store) (start : σ) :
    TellsNoFalseSuccess server clock arguments store start action rest (run server clock arguments store start) := by
  cases begins_of_invokes hInvokes hHelp clock store with
  | refused place e _ hNone hRun =>
    rw [hRun]
    exact tellsNoFalseSuccess_of_none rfl (by simp [usage_report_ending, usageCode]) hNone
  | unsettled _ hNone hRun =>
    rw [hRun]
    exact tellsNoFalseSuccess_of_none (loadReport_out _) (loadReport_ending _) hNone
  | launched _ hScan hTask hLaunches =>
    obtain ⟨ch, hChange, hQuiet⟩ := exists_change_of_task server hAction hTask
    rw [run_of_launches hLaunches, perform_of_change hChange]
    refine ⟨fun hOut => ?_, fun hExit => ?_, fun s left task ch' e hLaunches' hChange' hError hReported => ?_,
      fun before w outcome after hSplit hPut => ?_⟩
    · obtain ⟨hResult, hLoud⟩ := out_of_done hOut
      refine ⟨?_, _, hScan, hQuiet ▸ hLoud⟩
      rw [ending_of_done, hResult]
      rfl
    · obtain ⟨r, raw, response, hCarries, hLast⟩ := carries_of_result hChange (result_of_exit hExit)
      exact ⟨_, _, _, ch, r, raw, hLaunches, hChange, hCarries, hLast.last, hLast.status⟩
    · obtain ⟨rfl, rfl, rfl⟩ := launches_unique hLaunches hLaunches'
      obtain rfl := hChange.unique hChange'
      refine ⟨?_, ?_⟩
      · rw [ending_of_done, hError]
        exact endingAfter_of_reported false hReported
      · by_contra hOut
        rw [(out_of_done hOut).1] at hError
        cases hError
    · obtain ⟨enbid, edits, quiet, access, n, rfl, hRead, hWrite⟩ := read_of_written hChange hSplit hPut
      exact ⟨_, _, enbid, edits, quiet, access, n, hLaunches, hRead, hWrite⟩

/-- The arguments of a run that sets the cells of a node. -/
def cellsArguments : List String := ["ransim", "update", "node", "7", "--cells", "21,22"]

/-- A server that answers every request with the same node. -/
def sameNode : Server Unit :=
  always (.response { status := 200, body := Text.Utf8.encode "\x7B\"node\": \x7B\"enbid\": 7\x7D\x7D".toList })

/-- Setting the cells of a node reads and writes it, and says so. -/
theorem run_tellsNoFalseSuccess_cells :
    let done := run sameNode ⟨"", ""⟩ cellsArguments {} ()
    Invokes cellsArguments noLogOptions .updateNode ["7", "--cells", "21,22"] ∧ Action.updateNode.changesNode = true ∧
      (∀ a, scan Action.updateNode.switches false ["7", "--cells", "21,22"] = .ok a → a.has .help = false) ∧
      done.report.out ≠ "" ∧ done.talk.requests.map (·.method) = [.get, .put] ∧
      TellsNoFalseSuccess sameNode ⟨"", ""⟩ cellsArguments {} () .updateNode ["7", "--cells", "21,22"] done := by
  intro done
  have hInvokes : Invokes cellsArguments noLogOptions .updateNode ["7", "--cells", "21,22"] :=
    invokes_words _ (by decide) (by decide) rfl rfl rfl
  have hHelp : ∀ a, scan Action.updateNode.switches false ["7", "--cells", "21,22"] = .ok a → a.has .help = false := by
    intro a h
    have hScan : scan Action.updateNode.switches false ["7", "--cells", "21,22"] =
        .ok { given := [(.cells, some "21,22")], arguments := ["7"] } := by decide
    rw [hScan] at h
    cases h
    decide
  have hDone : done.report.out ≠ "" ∧ done.talk.requests.map (·.method) = [.get, .put] := by decide +kernel
  exact ⟨hInvokes, rfl, hHelp, hDone.1, hDone.2, run_tellsNoFalseSuccess hInvokes rfl hHelp _ _ _ _⟩

end RanConsole.CommandLine

import RanConsole.Proofs.Client.StreamCall
import RanConsole.Proofs.CommandLine.Streaming

/-!
# Streams of responses that are no success

A response with an error gives a stream nothing, and is told as such if it has a text. Every other response that is no success is read
like one: its lines give values, and a streaming command ends with success if they all do (`streamResponse_read`). So not every response
that is no success is told as one (`streamResponse_notModified_false`).
-/

namespace RanConsole.CommandLine

open Client Http

variable {σ α : Type}

/-- A response that ends a run of a feed with success: its status is not one of an error, and each line of its text that holds more than
blanks has a row that is shown. -/
def EndsWell (feed : Feed α) (r : Request) (raw : Response) : Prop :=
  isError raw.status = false ∧ ∃ response text, settled r raw = .ok (.response response) ∧ response.text? = some text ∧
    ∀ o ∈ lineResults feed.read (Text.lines text), o.isOk = true

/-- A failure that is no interruption does not end a run with success. -/
theorem endingAfter_ne_success {e : CallError} (h : e ≠ .interrupted) : endingAfter true (some e) ≠ .exit 0 := by
  by_cases hReported : e.reported?.isSome = true
  · rw [endingAfter_of_reported true hReported]
    exact nofun
  · rw [endingAfter_of_not_reported true (by simpa using hReported) h]
    exact nofun

theorem endingAfter_of_streamed {feed : Feed α} {r : Request} {raw : Response} {delivered : List (List String) × Option CallError}
    (h : Streamed feed.read r raw delivered) : endingAfter true delivered.2 = .exit 0 ↔ EndsWell feed r raw := by
  cases h with
  | told hSettled hText hStatus => exact iff_of_false (endingAfter_ne_success nofun) (by rw [EndsWell, hStatus]; exact nofun)
  | @read response text hSettled hText hStatus =>
    cases hFailure : (readLines feed.read none (Text.lines text)).2 with
    | none =>
      exact iff_of_true rfl ⟨hStatus, response, text, hSettled, hText, (readLines_eq_none_iff ..).mp hFailure⟩
    | some e =>
      have hInterrupted := ((blamesLines_lineMessages feed.format feed.check feed.row).of_readLines hFailure).2
      refine iff_of_false (endingAfter_ne_success hInterrupted) fun ⟨_, response', text', hSettled', hText', hAll⟩ => ?_
      rw [hSettled] at hSettled'
      cases hSettled'
      rw [hText] at hText'
      cases hText'
      rw [(readLines_eq_none_iff ..).mpr hAll] at hFailure
      cases hFailure
  | lost hLost hStatusless hInterrupted =>
    refine iff_of_false (endingAfter_ne_success hInterrupted) fun ⟨_, response, text, hSettled, hText, _⟩ => ?_
    exact hLost response text hSettled hText

/-- A response to a stream, in a call and in a run. The call tells it as one without success, and gives nothing, if and only if its status
is one of an error and it has a text; without an error the lines of the response give values, however halves of pairs are read in them.
The run ends with success if and only if the status is not one of an error and no line fails, be it for its value or for half of a pair
in its row. -/
theorem streamResponse_read (raw : Response) (server : Server σ) :
    (∀ {α β : Type} {call : StreamCall α β} {c : Connection} {r : Request} (x : Talk σ) (how : Json.Reading),
      call.request c = .ok r → r.url.isTyped = true → (server.answer x.server r).1 = .response raw →
      call.Reads how r raw (call.run server c x how).1) ∧
    ∀ {α : Type} {feed : Feed α} {task : Task} {clock : Log.Clock} {arguments : List String} {store left : Config.Store}
      {s : Surroundings} {r : Request} (start : σ), Launches clock arguments store s left task → Streams task feed →
      (feed.connection s).requestTo feed.method feed.path feed.query feed.body = .ok r →
      (server.answer start r).1 = .response raw →
      ((run server clock arguments store start).report.ending = .exit 0 ↔ EndsWell feed r raw) ∧
        ∀ line, feed.ShowsLine line (feed.read line) := by
  refine ⟨fun x how hRequest hTyped hAnswer => ?_, fun {_ feed} _ _ _ _ _ _ _ start hLaunches hStreams hRequest hAnswer => ⟨?_, ?_⟩⟩
  · rw [StreamCall.run_of_request hRequest, resultAt, answerAt, hAnswer]
    exact StreamCall.reads_of_streamed hTyped (streamed_cases _ _ raw)
  · rw [run_of_launches hLaunches server start, perform_of_streams hStreams server _ _ (.start start), feed_report_ending, Feed.result,
      stream_of_requestTo hRequest, resultAt, answerAt]
    change endingAfter true (streamed _ _ (resultOf _ (server.answer start _).1)).2 = .exit 0 ↔ _
    rw [hAnswer]
    exact endingAfter_of_streamed (streamed_cases _ _ raw)
  · exact showsLine_lineMessages feed.format feed.check feed.row

/-- A response that says that the nodes have been found elsewhere, and where. -/
def foundElsewhere : Response :=
  { status := 302, body := Text.Utf8.encode "\x7B\"node\": \x7B\"enbid\": 1\x7D\x7D\n".toList }

/-- The nodes that a response without success tells of are listed, and the command ends with success. -/
theorem streamResponse_read_found :
    isSuccess foundElsewhere.status = false ∧
      (NodeService.list (always (.response foundElsewhere)) (plainSurroundings.connection {} NodeService.path) none (.start ())).1 =
        ([{ enbid := 1 }], none) ∧
      (run (always (.response foundElsewhere)) ⟨"", ""⟩ ["ransim", "nodes"] {} ()).report.ending = .exit 0 := by
  obtain ⟨r, hRequest, hTyped⟩ := exists_request_nodes
  obtain ⟨hCalls, hRuns⟩ := streamResponse_read foundElsewhere (always (.response foundElsewhere))
  have hReads := @hCalls _ _ .listNodes _ r (.start ()) {} hRequest hTyped rfl
  have hEnding := (hRuns () launches_listNodes (.listNodes { format := .table } {}) hRequest rfl).1
  have hSettled : settled r foundElsewhere = .ok (.response foundElsewhere) := settled_of_no_location hTyped (.inr rfl) rfl
  refine ⟨rfl, ?_, hEnding.mpr ⟨rfl, _, _, hSettled, rfl, by decide +kernel⟩⟩
  exact hReads.values rfl (.inr rfl) _ _ rfl rfl

/-- Not every response that is no success ends a stream with a failure that tells it, and the command that lists nodes can succeed. -/
theorem streamResponse_notModified_false :
    ¬ (∃ e, (NodeService.list (always notModified) (plainSurroundings.connection {} NodeService.path) none (.start ())).1 =
        ([], some e) ∧ e.reported?.isSome = true) ∧
      ¬ ((run (always notModified) ⟨"", ""⟩ ["ransim", "nodes"] {} ()).report.ending.code? ≠ some 0) := by
  refine ⟨?_, by decide +kernel⟩
  rintro ⟨e, hEq, -⟩
  have hNone : (NodeService.list (always notModified) (plainSurroundings.connection {} NodeService.path) none (.start ())).1.2.isNone =
      true := by decide +kernel
  rw [hEq] at hNone
  cases hNone

end RanConsole.CommandLine

import RanConsole.Proofs.CommandLine.Invocation
import RanConsole.Proofs.CommandLine.Report
import RanConsole.Proofs.CommandLine.Shown

/-!
# Streaming commands

The tasks that list or watch nodes and watch objects are feeds: one request, a check for the lines of its answer, and a row for each
value. A run of a feed sends its request once and prints the rows of the lines in front of the first one that fails
(`run_delivers`). A line fails if it has no value that the check accepts, or if its row holds half of a pair, which only a JSON line shows
(`ShowsLine`). The exit code after an answer with an error is that of a failure, unless the text of the answer cannot be read
(`run_delivers_unmarkedError_false`).
-/

namespace RanConsole.CommandLine

open Client Http

variable {σ α : Type}

/-! ## Feeds -/

/-- What a task that streams consists of: its request, and how the lines of the answer are read and shown. -/
structure Feed (α : Type) where
  access : Access
  /-- The path of the service. -/
  service : String
  method : Method
  path : String
  query : Option String := none
  body : Option Json := none
  format : Listing.Format
  check : Json → Validation.Checked α
  /-- What the log says before the request. -/
  records : List Log.Record := []
  header : List String
  row : α → List String

/-- A task streams the values of a feed. -/
inductive Streams : Task → {α : Type} → Feed α → Prop
  | listNodes (style : Listing.Style) (access : Access) :
    Streams (.listNodes false style access)
      { access, service := NodeService.path, method := .get, path := "/nodes", format := style.format, check := NodeEvent.ofJson
        header := Listing.streamHeader style Node.columns
        row := fun event => Listing.streamRow style event.node.row Node.columns }
  | watchNodes (style : Listing.Style) (access : Access) :
    Streams (.listNodes true style access)
      { access, service := NodeService.path, method := .get, path := "/nodes/watch", query := some "noReplay=false"
        format := style.format, check := NodeEvent.ofJson
        header := Listing.streamHeader style Node.columns
        row := fun event => Listing.streamRow style event.node.row Node.columns }
  | watchObjects (q : ObjectQuery) (style : Listing.Style) (access : Access) {filters : Query.Filters} {records : List Log.Record}
      (h : Query.compile q.objects.queryType q.label q.kind q.strict = .ok (filters, records)) :
    Streams (.getObjects q true style access)
      { access, service := TopologyService.path, method := .post, path := "/objects/watch"
        body := some (.obj (TopologyService.queryMembers q.objects.queryType filters ++ [("noReplay", .bool false)]))
        format := style.format, check := Topology.ObjectEvent.ofJson, records
        header := Listing.streamHeader style q.objects.eventColumns
        row := fun event => Listing.streamRow style (event.row q.objects.columns) q.objects.eventColumns }

/-- The connection of a feed. -/
def Feed.connection (feed : Feed α) (s : Surroundings) : Connection := s.connection feed.access feed.service

/-- What is shown of a line. -/
def Feed.read (feed : Feed α) : List Char → Except CallError (List String) := lineMessages feed.format feed.check feed.row

/-- What a feed shows of its lines and the failure that ends it, with what has happened then. -/
def Feed.result (feed : Feed α) (server : Server σ) (s : Surroundings) (x : Talk σ) :
    (List (List String) × Option CallError) × Talk σ :=
  stream server (feed.connection s) feed.method feed.path feed.query feed.body feed.read none x

/-- The report on a feed: the header and the rows. -/
def Feed.report (feed : Feed α) (s : Surroundings) (delivered : List (List String) × Option CallError) (log : List Log.Record) :
    Report :=
  s.report feed.access true (feed.records ++ log) (feed.header ++ delivered.1.flatten) delivered.2

theorem perform_of_streams {task : Task} {feed : Feed α} (h : Streams task feed) (server : Server σ) (s : Surroundings)
    (store : Config.Store) (x : Talk σ) :
    perform server s store x task =
      ⟨feed.report s (feed.result server s x).1 (feed.result server s x).2.log, store, (feed.result server s x).2⟩ := by
  cases h with
  | listNodes style access =>
    simp only [perform, Surroundings.listNodes, Surroundings.nodeMessages, NodeService.listLines, Feed.report, Feed.result,
      Feed.connection, Feed.read, List.nil_append, Bool.false_eq_true, if_false]
  | watchNodes style access =>
    simp only [perform, Surroundings.listNodes, Surroundings.nodeMessages, NodeService.watchLines, Feed.report, Feed.result,
      Feed.connection, Feed.read, List.nil_append, Bool.false_eq_true, if_false, if_true]
  | watchObjects q style access hCompile =>
    simp only [perform, Surroundings.getObjects, hCompile, Surroundings.watchObjects, Surroundings.objectMessages,
      TopologyService.watchLines, Feed.report, Feed.result, Feed.connection, Feed.read, if_true]

/-- What a line of a feed comes to. -/
def Feed.ShowsLine (feed : Feed α) (line : List Char) : Except CallError (List String) → Prop :=
  CommandLine.ShowsLine feed.format feed.check feed.row line

/-! ## Runs of feeds -/

/-- What a run of a feed comes to with the answer to its request. -/
structure Delivers (feed : Feed α) (r : Request) (answer : Outcome) (report : Report) : Prop where
  /-- A response with status 200 and a text: the rows of the lines in front of the first one that fails, which is how the run ends. -/
  rows : ∀ raw response text, answer = .response raw → raw.status = 200 → r.url.isTyped = true → raw.unpacked = .ok response →
    response.text? = some text → ∃ rows failure, TakesGood (lineResults feed.read (Text.lines text)) rows failure ∧
      report.out = Console.lines (feed.header ++ rows.flatten) ∧
      report.ending = failure.elim (.exit 0) fun e => .crash (.call e)
  /-- A response with status 200 that is no text, which has no lines: no row. -/
  noText : ∀ raw response, answer = .response raw → raw.status = 200 → r.url.isTyped = true → raw.unpacked = .ok response →
    response.text? = none → report.out = Console.lines feed.header ∧ report.ending = .crash (.call .unmarkedText)
  /-- A response with an error: no row, and the exit code of a failure if and only if its text can be read. -/
  refused : ∀ raw response, answer = .response raw → 400 ≤ raw.status → r.url.isTyped = true → raw.unpacked = .ok response →
    report.out = Console.lines feed.header ∧
      report.ending = if response.text?.isSome then .exit 1 else .crash (.call .unmarkedText)
  /-- A response that cannot be unpacked, which is a failure of the connection: no row, and the exit code of a failure. -/
  packed : ∀ raw f, answer = .response raw → raw.unpacked = .error f →
    report.out = Console.lines feed.header ∧ report.ending = .exit 1
  /-- A failure of the connection: no row, and the exit code of a failure. -/
  failed : ∀ l, answer = .failed l → report.out = Console.lines feed.header ∧ report.ending = .exit 1

theorem feed_report_out (feed : Feed α) (s : Surroundings) (delivered : List (List String) × Option CallError) (log : List Log.Record) :
    (feed.report s delivered log).out = Console.lines (feed.header ++ delivered.1.flatten) :=
  report_out ..

theorem feed_report_ending (feed : Feed α) (s : Surroundings) (delivered : List (List String) × Option CallError) (log : List Log.Record) :
    (feed.report s delivered log).ending = endingAfter true delivered.2 :=
  report_ending ..

/-- The report on a feed without values, which a failure has ended. -/
theorem feed_report_failed (feed : Feed α) (s : Surroundings) (e : CallError) (log : List Log.Record) :
    (feed.report s ([], some e) log).out = Console.lines feed.header ∧
      (feed.report s ([], some e) log).ending = endingAfter true (some e) := by
  rw [feed_report_out, feed_report_ending, List.flatten_nil, List.append_nil]
  exact ⟨rfl, rfl⟩

/-- The report on what a feed has been told. -/
theorem delivers_report (feed : Feed α) (s : Surroundings) (r : Request) (answer : Outcome) (log : List Log.Record) :
    Delivers feed r answer (feed.report s (streamed feed.read r (resultOf r answer)) log) := by
  refine ⟨fun raw response text hAnswer hStatus hTyped hUnpacked hText => ?_,
    fun raw response hAnswer hStatus hTyped hUnpacked hText => ?_,
    fun raw response hAnswer hStatus hTyped hUnpacked => ?_, fun raw f hAnswer hUnpacked => ?_, fun l hAnswer => ?_⟩
  · have hSettled : resultOf r answer = .ok (.response response) := by
      rw [hAnswer, resultOf, settled_of_not_redirect hTyped (by rw [hStatus]; rfl), hUnpacked]
    have hNoError : isError response.status = false := by rw [status_of_unpacked hUnpacked, hStatus]; rfl
    have hTakes := readLines_takesGood feed.read (Text.lines text)
    rw [hSettled, streamed_of_text feed.read r hNoError hText, feed_report_out, feed_report_ending]
    generalize readLines feed.read none (Text.lines text) = delivered at hTakes
    obtain ⟨rows, failure⟩ := delivered
    refine ⟨rows, failure, hTakes, rfl, ?_⟩
    cases failure with
    | none => rfl
    | some e =>
      obtain ⟨hReported, hInterrupted⟩ := (blamesLines_lineMessages feed.format feed.check feed.row).of_takesGood hTakes
      exact endingAfter_of_not_reported true hReported hInterrupted
  · have hSettled : resultOf r answer = .ok (.response response) := by
      rw [hAnswer, resultOf, settled_of_not_redirect hTyped (by rw [hStatus]; rfl), hUnpacked]
    have hNoError : isError response.status = false := by rw [status_of_unpacked hUnpacked, hStatus]; rfl
    rw [hSettled, streamed_of_no_text feed.read r hNoError hText]
    exact feed_report_failed ..
  · have hError : isError raw.status = true := by simpa [isError] using hStatus
    have hSettled : resultOf r answer = .ok (.response response) := by
      rw [hAnswer, resultOf, settled_of_not_redirect hTyped (not_isRedirect_of_isError hError), hUnpacked]
    obtain ⟨e, hStreamed, hReported⟩ := streamed_of_isError feed.read r (by rw [status_of_unpacked hUnpacked, hError])
    rw [hSettled, hStreamed]
    obtain ⟨hOut, hEnding⟩ := feed_report_failed feed s e log
    refine ⟨hOut, ?_⟩
    rw [hEnding]
    split at hReported
    · rename_i hText
      rw [if_pos hText]
      exact endingAfter_of_reported true hReported
    · rename_i hText
      rw [if_neg hText, hReported]
      rfl
  · have hSettled : resultOf r answer = .ok (.failed ⟨.decoding, f.message⟩) := by
      rw [hAnswer, resultOf, settled, hUnpacked]
    rw [hSettled]
    exact feed_report_failed ..
  · rw [hAnswer]
    exact feed_report_failed ..

/-- What a run of a feed prints. -/
theorem run_out_of_streams {clock : Log.Clock} {arguments : List String} {store left : Config.Store} {s : Surroundings} {task : Task}
    {feed : Feed α} {r : Request} (hLaunches : Launches clock arguments store s left task) (hStreams : Streams task feed)
    (hRequest : (feed.connection s).requestTo feed.method feed.path feed.query feed.body = .ok r) (server : Server σ) (start : σ) :
    (run server clock arguments store start).report.out =
      Console.lines (feed.header ++ (streamed feed.read r (resultOf r (server.answer start r).1)).1.flatten) := by
  rw [run_of_launches hLaunches, perform_of_streams hStreams, Feed.result, stream_of_requestTo hRequest]
  exact feed_report_out ..

/-- A run of a feed sends its request once, makes no pause, and delivers what it is told on lines, each of which comes to a row or fails. -/
theorem run_delivers {clock : Log.Clock} {arguments : List String} {store left : Config.Store} {s : Surroundings} {task : Task}
    {feed : Feed α} {r : Request} (hLaunches : Launches clock arguments store s left task) (hStreams : Streams task feed)
    (hRequest : (feed.connection s).requestTo feed.method feed.path feed.query feed.body = .ok r) (server : Server σ) (start : σ) :
    let done := run server clock arguments store start
    done.talk.requests = [r] ∧ done.talk.pauses = [] ∧ Delivers feed r (server.answer start r).1 done.report ∧
      ∀ line, feed.ShowsLine line (feed.read line) := by
  intro done
  have hDone : done = _ := (run_of_launches hLaunches server start).trans (perform_of_streams hStreams server s left (.start start))
  rw [Feed.result, stream_of_requestTo hRequest] at hDone
  rw [hDone]
  exact ⟨rfl, rfl, delivers_report feed s r _ _, showsLine_lineMessages feed.format feed.check feed.row⟩

/-- The command that lists nodes is invoked by its words. -/
theorem invokes_listNodes (rest : List String) : Invokes ("ransim" :: "nodes" :: rest) noLogOptions .listNodes rest :=
  ⟨"ransim", .group nodeCommands, "nodes" :: rest, _, readProgram_word _ (by decide) (by decide) rfl,
    .member (readGroup_word _ _ _ (by decide) (by decide)) rfl (.here _ _ rest)⟩

/-- What holds for the calls of a run without a configuration. -/
def plainSurroundings : Surroundings := surroundingsOf ⟨"", ""⟩ noLogOptions {} { kept := some {} }

/-- Listing nodes without further arguments. -/
theorem launches_listNodes :
    Launches ⟨"", ""⟩ ["ransim", "nodes"] {} plainSurroundings { kept := some {} } (.listNodes false { format := .table } {}) := by
  obtain ⟨word, command, left, place, hProgram, hLeads⟩ := invokes_listNodes []
  refine ⟨noLogOptions, word, command, left, {}, hProgram, settings_of_nothing, ?_, rfl⟩
  rw [readCommand_of_leads hLeads]
  rfl

/-- The request for the nodes can be made, to an address whose kind can be told. -/
theorem exists_request_nodes :
    ∃ r, (plainSurroundings.connection {} NodeService.path).requestTo .get "/nodes" none none = .ok r ∧ r.url.isTyped = true := by
  have hTyped : ((plainSurroundings.connection {} NodeService.path).requestTo .get "/nodes" none none).toOption.any
      (·.url.isTyped) = true := by
    decide +kernel
  cases hRequest : (plainSurroundings.connection {} NodeService.path).requestTo .get "/nodes" none none with
  | error e =>
    rw [hRequest] at hTyped
    cases hTyped
  | ok r =>
    rw [hRequest] at hTyped
    exact ⟨r, rfl, hTyped⟩

/-- Lines that tell of one node, then of something else, then of another node. -/
def brokenLines : List Char :=
  "\x7B\"node\": \x7B\"enbid\": 1\x7D\x7D\n \n\x7B\x7D\n\x7B\"node\": \x7B\"enbid\": 2\x7D\x7D\n".toList

/-- A server that answers with such lines. -/
def brokenStream : Server Unit := always (.response { status := 200, body := Text.Utf8.encode brokenLines })

/-- A stream with a line that describes no event is shown up to that line. -/
theorem run_delivers_brokenStream :
    let feed : Feed NodeEvent :=
      { access := {}, service := NodeService.path, method := .get, path := "/nodes", format := .table, check := NodeEvent.ofJson
        header := Listing.streamHeader { format := .table } Node.columns
        row := fun event => Listing.streamRow { format := .table } event.node.row Node.columns }
    let done := run brokenStream ⟨"", ""⟩ ["ransim", "nodes"] {} ()
    Launches ⟨"", ""⟩ ["ransim", "nodes"] {} plainSurroundings { kept := some {} } (.listNodes false { format := .table } {}) ∧
      Streams (.listNodes false { format := .table } {}) feed ∧
      done.report.out = Console.lines (feed.header ++ feed.row { node := { enbid := 1 } }) ∧
      ∃ r, (feed.connection plainSurroundings).requestTo .get "/nodes" none none = .ok r ∧ r.url.isTyped = true ∧
        done.talk.requests = [r] ∧ done.talk.pauses = [] ∧ Delivers feed r (brokenStream.answer () r).1 done.report ∧
        ∀ line, feed.ShowsLine line (feed.read line) := by
  intro feed done
  have hStreams : Streams (.listNodes false { format := .table } {}) feed := .listNodes { format := .table } {}
  obtain ⟨r, hRequest, hTyped⟩ := exists_request_nodes
  obtain ⟨hRequests, hPauses, hDelivers, hLines⟩ := run_delivers launches_listNodes hStreams hRequest brokenStream ()
  obtain ⟨rows, failure, hTakes, hOut, -⟩ := hDelivers.rows _ _ _ rfl rfl hTyped rfl (decode?_encode _)
  have hRows : (readLines feed.read none (Text.lines brokenLines)).1 = [feed.row { node := { enbid := 1 } }] := by decide +kernel
  rw [((readLines_takesGood ..).unique hTakes).1, hRows] at hOut
  exact ⟨launches_listNodes, hStreams, hOut, r, hRequest, hTyped, hRequests, hPauses, hDelivers, hLines⟩

/-- A response with an error whose text lacks the mark that its character set asks for. -/
def unmarkedFailure : Server Unit :=
  always (.response { status := 500, contentType := some "text/plain; charset=utf-16", body := Text.Utf8.encode "ab".toList })

/-- The exit code of a run, unless it ends with an error that nobody takes care of. -/
def Ending.code? : Ending → Option Nat
  | .exit code => some code
  | .crash _ => none

/-- Not every answer with an error ends a streaming command with the exit code of a failure. -/
theorem run_delivers_unmarkedError_false :
    ¬ ((run unmarkedFailure ⟨"", ""⟩ ["ransim", "nodes"] {} ()).report.ending.code? = some 1) := by
  decide +kernel

end RanConsole.CommandLine

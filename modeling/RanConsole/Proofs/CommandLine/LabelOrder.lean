import RanConsole.Proofs.Client.Alike
import RanConsole.Proofs.Client.Told
import RanConsole.Proofs.CommandLine.Objects
import RanConsole.Proofs.CommandLine.Streaming
import RanConsole.Proofs.Console

/-!
# Listings do not show the order of labels

A run that gets objects prints the same at two servers that answer alike (`run_out_eq`): what they tell of the objects differs in the order
of the labels and of the fields, and in members that are no fields. A text in such a member may end the line of its message, though
(`run_out_eq_lineSeparator_false`). So two streams of messages print the same if and only if the first message that does not fit on its line
has the same place in both (`run_out_eq_iff`).
-/

namespace RanConsole.CommandLine

open Client Http

variable {σ τ : Type} {server : Server σ} {server' : Server τ} {start : σ} {start' : τ}

/-! ## Tasks -/

theorem listObjects_out_eq (h : AnswerAlike false server start server' start') (s : Surroundings) (objects : Topology.ObjectClass)
    (filters : Query.Filters) (records : List Log.Record) (style : Listing.Style) (a : Access) :
    (s.listObjects server objects filters records style a (.start start)).report.out =
      (s.listObjects server' objects filters records style a (.start start')).report.out := by
  have hFound := TopologyService.agree_list h (s.connection a TopologyService.path) objects.queryType filters
  simp only [Surroundings.listObjects, reportShown_out]
  refine congrArg Console.lines (And.left (shown_alike (fun found found' hObjects => ?_) style.format hFound))
  have hRows := map_eq_map_of_forall₂ hObjects fun _ _ hObject => hObject.row_eq objects.columns
  rw [hRows]

theorem agreesOnAlike_objectMessages (style : Listing.Style) (objects : Topology.ObjectClass) :
    AgreesOnAlike Eq (Surroundings.objectMessages style objects) := by
  intro line line' hLine
  refine agree_lineMessages (fun event event' hEvent => ?_) hLine.agree_readLine
  rw [hEvent.row_eq]

theorem watchObjects_out_eq (h : AnswerAlike true server start server' start') (s : Surroundings) (objects : Topology.ObjectClass)
    (filters : Query.Filters) (records : List Log.Record) (style : Listing.Style) (a : Access) :
    (s.watchObjects server objects filters records style a (.start start)).report.out =
      (s.watchObjects server' objects filters records style a (.start start')).report.out := by
  have hRows := TopologyService.forall₂_watchLines (fun _ => rfl) (agreesOnAlike_objectMessages style objects) h
    (s.connection a TopologyService.path) objects.queryType filters false
  rw [List.forall₂_eq_eq_eq] at hRows
  simp only [Surroundings.watchObjects, report_out, hRows]

/-- A task that gets objects prints the same at servers that answer alike. -/
theorem getObjects_out_eq {watch : Bool} (h : AnswerAlike watch server start server' start') (s : Surroundings) (q : ObjectQuery)
    (style : Listing.Style) (a : Access) :
    (s.getObjects server q watch style a (.start start)).report.out =
      (s.getObjects server' q watch style a (.start start')).report.out := by
  cases hCompile : Query.compile q.objects.queryType q.label q.kind q.strict with
  | error e => simp only [Surroundings.getObjects, hCompile]
  | ok compiled =>
    obtain ⟨filters, records⟩ := compiled
    cases watch with
    | true =>
      simp only [Surroundings.getObjects, hCompile, if_true]
      exact watchObjects_out_eq h s q.objects filters records style a
    | false =>
      simp only [Surroundings.getObjects, hCompile, Bool.false_eq_true, if_false]
      exact listObjects_out_eq h s q.objects filters records style a

/-! ## Runs -/

/-- A run that gets objects prints the same at servers that answer alike, whatever the form of the listing. -/
theorem run_out_eq {arguments rest : List String} {options : LogOptions} {objects : Topology.ObjectClass} {watch : Bool}
    (hInvokes : Invokes arguments options (.getObjects objects) rest)
    (hWatch : ∀ a, scan (Action.getObjects objects).switches false rest = .ok a → a.has .watch = watch)
    (hAlike : AnswerAlike watch server start server' start') (clock : Log.Clock) (store : Config.Store) :
    (run server clock arguments store start).report.out = (run server' clock arguments store start').report.out := by
  rcases launches_of_invokes hInvokes clock store with ⟨a, task, s, left, hScan, hTask, hLaunches⟩ | ⟨report, hReport⟩
  · obtain ⟨kind, style, rfl⟩ := exists_query_of_task hTask
    rw [run_of_launches hLaunches, run_of_launches hLaunches, perform, perform]
    rw [← hWatch a hScan] at hAlike
    exact getObjects_out_eq hAlike s _ style a.access
  · rw [hReport, hReport]

/-- A server that always answers with the value, on a line of its own. -/
def telling (v : Json) : Server Unit :=
  always (.response { status := 200, body := Text.Utf8.encode (Text.fed [v.print .compact 0]) })

theorem answerAt_always (o : Outcome) (r : Request) (n : Nat) : answerAt (always o) r () n = o := by
  induction n with
  | zero => rfl
  | succ n ih => exact ih

/-- A list of one entity with two labels. -/
def entityList : Json :=
  .obj [("objects", .arr [.obj [("id", .str "1"), ("labels", .obj [("b", .str "2"), ("a", .str "1")])]])]

/-- The same list, with the labels and the fields in another order, and with further members. -/
def reorderedList : Json :=
  .obj [("next", .int 0), ("objects",
    .arr [.obj [("labels", .obj [("a", .str "1"), ("b", .str "2")]), ("note", .arr []), ("id", .str "1")]])]

/-- The two lists are listed alike. -/
theorem listedAlike_reorderedList : ListedAlike entityList reorderedList := by
  have hLabels : Topology.LabelsAlike (.obj [("b", .str "2"), ("a", .str "1")]) (.obj [("a", .str "1"), ("b", .str "2")]) :=
    .reordered (.swap ..)
  exact .records (.items (.cons (.records ⟨by simp [Topology.Object.fieldNames, Mapping.get?], .some hLabels⟩) .nil))

/-- Listing the entities prints the same for both lists. -/
theorem run_out_eq_reordered :
    let out (v : Json) : String := (run (telling v) ⟨"", ""⟩ ["topo", "get", "entities"] {} ()).report.out
    Invokes ["topo", "get", "entities"] noLogOptions (.getObjects .entity) [] ∧
      AnswerAlike false (telling entityList) () (telling reorderedList) () ∧ out entityList = out reorderedList := by
  intro out
  have hInvokes : Invokes ["topo", "get", "entities"] noLogOptions (.getObjects .entity) [] :=
    invokes_words _ (by decide) (by decide) rfl rfl rfl
  have hAlike : AnswerAlike false (telling entityList) () (telling reorderedList) () := by
    intro r n
    rw [telling, telling, answerAt_always, answerAt_always]
    refine .listed ⟨rfl, rfl, .ok fun halves => ?_⟩
    -- no text of the two lists holds a half
    cases halves <;> exact .ok listedAlike_reorderedList
  refine ⟨hInvokes, hAlike, run_out_eq hInvokes (fun a ha => ?_) hAlike ⟨"", ""⟩ {}⟩
  cases ha
  rfl

/-- An event of an entity whose object has further members. -/
def entityEvent (further : List (String × Json)) : Json :=
  .obj [("type", .str "ADDED"), ("object", .obj (("id", .str "1") :: further))]

/-- Not every member that is no field leaves what is printed as it is: a line separator in one ends the line of its message. -/
theorem run_out_eq_lineSeparator_false :
    let noted := entityEvent [("note", .str "x\u2028y")]
    let out (v : Json) : String :=
      (run (telling v) ⟨"", ""⟩ ["topo", "get", "entities", "--watch"] {} ()).report.out
    Topology.ObjectEvent.DescribedAlike (entityEvent []) noted ∧ out (entityEvent []) ≠ out noted := by
  intro noted out
  have hObject : Topology.Object.DescribedAlike (.obj [("id", .str "1")]) (.obj [("id", .str "1"), ("note", .str "x\u2028y")]) :=
    .records ⟨by simp [Topology.Object.fieldNames, Mapping.get?], .none⟩
  exact ⟨.records rfl (.some hObject), by decide +kernel⟩

/-! ## Streams of messages -/

/-- A message on its line is shown by its row. -/
theorem viewsLines_lineMessages {α : Type} {format : Listing.Format} {check : Json → Validation.Checked α} {row : α → List String} :
    ViewsLines check row (lineMessages format check row) where
  ok := lineMessages_of_whole
  error h := by
    obtain ⟨fault, hFault⟩ := h _
    exact ⟨fault, lineMessages_of_error (readLine_of_unreadable hFault)⟩

theorem streamRow_ne_nil (style : Listing.Style) (row : Listing.Row) (columns : Listing.Columns) :
    Listing.streamRow style row columns ≠ [] := by
  rw [Listing.streamRow]
  cases style.format <;> exact List.cons_ne_nil _ _

section

variable {clock : Log.Clock} {arguments : List String} {store left : Config.Store} {s : Surroundings} {q : ObjectQuery}
  {style : Listing.Style} {access : Access} {filters : Query.Filters} {records : List Log.Record} {r : Request}
  {messages messages' : List (Message Topology.ObjectEvent)} {raw raw' : Response} {rows rows' : List (List Char)}
  (hLaunches : Launches clock arguments store s left (.getObjects q true style access))
  (hCompile : Query.compile q.objects.queryType q.label q.kind q.strict = .ok (filters, records))
  (hRequest : (StreamCall.watchObjects q.objects.queryType filters false).request (s.connection access TopologyService.path) = .ok r)
  (hTyped : r.url.isTyped = true)
include hLaunches hCompile hRequest hTyped

/-- A run that watches objects and is told messages prints the rows of those in front of the first one that does not fit on its line. -/
theorem run_out_of_tells (hFor : ∀ m ∈ messages, m.IsFor (.watchObjects q.objects.queryType filters false))
    (hTells : TellsOf messages rows raw) (hAnswer : (server.answer start r).1 = .response raw) :
    (run server clock arguments store start).report.out =
      Console.lines (Listing.streamHeader style q.objects.eventColumns ++
        ((messages.map fun m => Listing.streamRow style (m.told.row q.objects.columns) q.objects.eventColumns).take
          (messages.takeWhile (·.value.fitsLine)).length).flatten) := by
  have hPasses : Passes (fun e => Listing.streamRow style (e.row q.objects.columns) q.objects.eventColumns) messages
      (streamed (Surroundings.objectMessages style q.objects) r (resultOf r (.response raw))) :=
    passes_streamed viewsLines_lineMessages hTells hFor hTyped
  have hTaken := List.prefix_iff_eq_take.mp (List.takeWhile_prefix (l := messages) (·.value.fitsLine))
  rw [run_out_of_streams hLaunches (.watchObjects q style access hCompile) hRequest server start, hAnswer, ← List.map_take, ← hTaken,
    ← hPasses.values]
  rfl

/-- Two runs that watch objects and are told messages of events that are alike print the same if and only if the first message that does
not fit on its line has the same place both times. -/
theorem run_out_eq_iff (hAlike : List.Forall₂ (fun m m' => m.told.Alike m'.told) messages messages')
    (hFor : ∀ m ∈ messages, m.IsFor (.watchObjects q.objects.queryType filters false))
    (hFor' : ∀ m ∈ messages', m.IsFor (.watchObjects q.objects.queryType filters false))
    (hTells : TellsOf messages rows raw) (hTells' : TellsOf messages' rows' raw')
    (hAnswer : (server.answer start r).1 = .response raw) (hAnswer' : (server'.answer start' r).1 = .response raw') :
    (run server clock arguments store start).report.out = (run server' clock arguments store start').report.out ↔
      (messages.takeWhile (·.value.fitsLine)).length = (messages'.takeWhile (·.value.fitsLine)).length := by
  have hRows : (messages.map fun m => Listing.streamRow style (m.told.row q.objects.columns) q.objects.eventColumns) =
      messages'.map fun m => Listing.streamRow style (m.told.row q.objects.columns) q.objects.eventColumns :=
    map_eq_map_of_forall₂ hAlike fun m m' h => by rw [h.row_eq]
  rw [run_out_of_tells hLaunches hCompile hRequest hTyped hFor hTells hAnswer,
    run_out_of_tells hLaunches hCompile hRequest hTyped hFor' hTells' hAnswer', hRows]
  constructor
  · intro h
    rw [Console.lines_append, Console.lines_append, String.append_right_inj] at h
    refine Console.take_inj_of_lines_eq (fun text hText => ?_) ?_ ?_ h
    · obtain ⟨m, -, rfl⟩ := List.mem_map.mp hText
      exact streamRow_ne_nil _ _ _
    · rw [List.length_map, ← hAlike.length_eq]
      exact (List.takeWhile_sublist _).length_le
    · rw [List.length_map]
      exact (List.takeWhile_sublist _).length_le
  · intro h
    rw [h]

end

end RanConsole.CommandLine

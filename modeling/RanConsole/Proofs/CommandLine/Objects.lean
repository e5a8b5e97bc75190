import RanConsole.Proofs.Client.Stream
import RanConsole.Proofs.CommandLine.Invocation
import RanConsole.Proofs.CommandLine.Report
import RanConsole.Proofs.Query.Agreement
import RanConsole.Proofs.Query.Wire

/-!
# Queries that are sent

A run that gets objects sends what was asked or nothing (`run_sendsAsked`): a query that is refused is told as a wrong argument before
anything is sent, and every request for another one holds its filters and the type of the objects, whatever the kind query says.
-/

namespace RanConsole.CommandLine

open Client Http

variable {σ : Type}

/-! ## The body of a request -/

/-- What a request for objects says: the filters and the type, and when it watches, that what is there is told again. -/
def queryBody (objects : Topology.ObjectClass) (filters : Query.Filters) (watch : Bool) : Json :=
  .obj ([("filters", filters.toJson), ("type", .str objects.word)] ++ if watch then [("noReplay", .bool false)] else [])

theorem queryMembers_eq (objects : Topology.ObjectClass) (filters : Query.Filters) :
    TopologyService.queryMembers objects.queryType filters = [("filters", filters.toJson), ("type", .str objects.word)] := by
  cases objects <;> rfl

/-- The body of a request for objects reads back as what it says. -/
theorem read_queryBody (objects : Topology.ObjectClass) {filters : Query.Filters} (watch : Bool)
    (hDepth : filters.toJson.depth ≤ 7) :
    Json.read ((queryBody objects filters watch).render .compact) = .ok (queryBody objects filters watch) := by
  have hFilters := filters.isExact_toJson
  refine Json.read_render Json.Style.compact_isSpaced ?_ ?_ _
  · cases watch <;> simp [queryBody, Json.IsExact, Json.MembersExact, Mapping.keys, hFilters]
  · cases watch <;> simp [queryBody, Json.depth, Json.membersDepth, Json.maxDepth] <;> omega

/-- A request asks for the objects with the filters: it is a post whose body says so. -/
def Asks (objects : Topology.ObjectClass) (filters : Query.Filters) (watch : Bool) (r : Request) : Prop :=
  r.method = .post ∧ Json.read r.body = .ok (queryBody objects filters watch)

theorem asks_of_requestTo {c : Connection} {path : String} {objects : Topology.ObjectClass} {filters : Query.Filters} {watch : Bool}
    {r : Request} (hDepth : filters.toJson.depth ≤ 7)
    (h : c.requestTo .post path none (some (queryBody objects filters watch)) = .ok r) : Asks objects filters watch r := by
  obtain ⟨hMethod, hBody, -⟩ := requestTo_eq_ok h
  refine ⟨hMethod, ?_⟩
  rw [hBody]
  exact read_queryBody objects watch hDepth

/-! ## Tasks that get objects -/

/-- A query that is refused is told as a wrong argument. -/
theorem getObjects_of_error {q : ObjectQuery} {e : Query.FilterError}
    (h : Query.compile q.objects.queryType q.label q.kind q.strict = .error e) (s : Surroundings) (server : Server σ) (watch : Bool)
    (style : Listing.Style) (a : Access) (x : Talk σ) :
    ∃ place fault, s.getObjects server q watch style a x = ⟨(Stop.usage place fault).report, x⟩ := by
  rw [Surroundings.getObjects, h]
  exact ⟨_, _, rfl⟩

theorem talk_of_listObjects (s : Surroundings) (server : Server σ) (objects : Topology.ObjectClass) (filters : Query.Filters)
    (records : List Log.Record) (style : Listing.Style) (a : Access) (x : Talk σ) :
    (s.listObjects server objects filters records style a x).talk =
      (call server (s.connection a TopologyService.path) .post "/objects/list" (some (queryBody objects filters false)) x below).2 := by
  simp only [Surroundings.listObjects, TopologyService.list, queryMembers_eq, queryBody, Bool.false_eq_true, if_false, List.append_nil]

theorem talk_of_watchObjects (s : Surroundings) (server : Server σ) (objects : Topology.ObjectClass) (filters : Query.Filters)
    (records : List Log.Record) (style : Listing.Style) (a : Access) (x : Talk σ) :
    (s.watchObjects server objects filters records style a x).talk =
      (stream server (s.connection a TopologyService.path) .post "/objects/watch" none (some (queryBody objects filters true))
        (Surroundings.objectMessages style objects) none x).2 := by
  simp only [Surroundings.watchObjects, TopologyService.watchLines, queryMembers_eq, queryBody, if_true]

/-- All requests for a query that is not refused ask for its objects with its filters. -/
theorem asks_of_getObjects {q : ObjectQuery} {filters : Query.Filters} {records : List Log.Record}
    (h : Query.compile q.objects.queryType q.label q.kind q.strict = .ok (filters, records)) (hDepth : filters.toJson.depth ≤ 7)
    (s : Surroundings) (server : Server σ) (watch : Bool) (style : Listing.Style) (a : Access) (start : σ) {r : Request}
    (hSent : r ∈ (s.getObjects server q watch style a (.start start)).talk.requests) : Asks q.objects filters watch r := by
  rw [Surroundings.getObjects, h] at hSent
  cases watch with
  | true =>
    simp only [if_true, talk_of_watchObjects] at hSent
    exact asks_of_requestTo hDepth (requestTo_of_stream hSent)
  | false =>
    simp only [Bool.false_eq_true, if_false, talk_of_listObjects] at hSent
    exact asks_of_requestTo hDepth (requestTo_of_call hSent)

/-- A label query that an option accepts is the one that is given, or empty. -/
theorem labelQuery_eq_ok {value : Option String} {label : String} (h : Options.labelQuery value = .ok label) :
    label = value.getD "" := by
  cases value with
  | none =>
    cases h
    rfl
  | some query => exact (Query.exists_of_labelQuery h).1

/-- The task of an action that gets objects has the label query, and what else is asked for, as they are given. -/
theorem exists_query_of_task {objects : Topology.ObjectClass} {a : Scanned} {task : Task}
    (h : (Action.getObjects objects).task a = .ok task) :
    ∃ kind style, task = .getObjects { objects, label := (a.value? .label).getD "", kind, strict := a.has .strict } (a.has .watch)
      style a.access := by
  obtain ⟨-, -, h⟩ := ok_bind h
  obtain ⟨label, hLabel, h⟩ := ok_bind h
  obtain ⟨style, -, h⟩ := ok_bind h
  cases h
  obtain rfl := labelQuery_eq_ok (ok_mapError hLabel)
  exact ⟨_, style, rfl⟩

/-! ## Runs -/

/-- A run that gets objects sends what was asked or nothing. -/
structure SendsAsked (objects : Topology.ObjectClass) (label : String) (strict watch : Bool) (done : Done σ) : Prop where
  /-- A query that is refused is told as a wrong argument; nothing is sent, and nothing is printed on the standard output. -/
  refused : Query.IsRefused label strict → done.report.ending = .exit 2 ∧ done.report.out = "" ∧ done.talk.requests = []
  /-- Every request for another query asks for the objects with its filters, which do not depend on the kind query. -/
  asked : ¬ Query.IsRefused label strict → ∃ filters,
    (∀ kind, ∃ records, Query.compile objects.queryType label kind strict = .ok (filters, records)) ∧
      ∀ r ∈ done.talk.requests, r.method = .post ∧ Json.read r.body = .ok (queryBody objects filters watch)

/-- A run without requests that tells of a wrong argument sends what was asked or nothing. -/
theorem sendsAsked_of_usage (objects : Topology.ObjectClass) (label : String) (strict watch : Bool) (place : Place) (e : UsageError)
    (left : Config.Store) (start : σ) :
    SendsAsked objects label strict watch ⟨(Stop.usage place e).report, left, .start start⟩ where
  refused _ := ⟨rfl, rfl, rfl⟩
  asked h := by
    obtain ⟨filters, hFilters, -⟩ := Query.exists_filters_of_not_isRefused h objects.queryType
    refine ⟨filters, hFilters, fun r hr => ?_⟩
    cases hr

/-- A task that gets objects sends what was asked or nothing. -/
theorem sendsAsked_of_getObjects (s : Surroundings) (store : Config.Store) (server : Server σ) (q : ObjectQuery) (watch : Bool)
    (style : Listing.Style) (a : Access) (start : σ) :
    SendsAsked q.objects q.label q.strict watch (perform server s store (.start start) (.getObjects q watch style a)) := by
  by_cases hRefused : Query.IsRefused q.label q.strict
  · obtain ⟨e, hCompile⟩ := Query.exists_error_of_isRefused hRefused q.objects.queryType q.kind
    obtain ⟨place, fault, hPerformed⟩ := getObjects_of_error hCompile s server watch style a (.start start)
    rw [perform, hPerformed]
    exact sendsAsked_of_usage ..
  · refine ⟨fun h => absurd h hRefused, fun _ => ?_⟩
    obtain ⟨filters, hFilters, hDepth⟩ := Query.exists_filters_of_not_isRefused hRefused q.objects.queryType
    obtain ⟨records, hCompile⟩ := hFilters q.kind
    exact ⟨filters, hFilters, fun r hr => asks_of_getObjects hCompile hDepth s server watch style a start hr⟩

/-- A run that invokes the action, without asking for help and with settings, sends what was asked or nothing. -/
theorem run_sendsAsked {arguments rest : List String} {options : LogOptions} {objects : Topology.ObjectClass} {a : Scanned}
    {store left : Config.Store} {settings : Config.Settings} (hInvokes : Invokes arguments options (.getObjects objects) rest)
    (hScan : scan (Action.getObjects objects).switches false rest = .ok a) (hHelp : a.has .help = false)
    (hSettings : store.settings = (.ok settings, left)) (server : Server σ) (clock : Log.Clock) (start : σ) :
    SendsAsked objects ((a.value? .label).getD "") (a.has .strict) (a.has .watch) (run server clock arguments store start) := by
  have hNoHelp : ∀ b, scan (Action.getObjects objects).switches false rest = .ok b → b.has .help = false := by
    intro b hb
    rw [hScan] at hb
    cases hb
    exact hHelp
  cases begins_of_invokes hInvokes hNoHelp clock store with
  | refused place e _ _ hRun =>
    rw [hRun]
    exact sendsAsked_of_usage ..
  | unsettled hUnsettled _ _ =>
    rw [hSettings] at hUnsettled
    cases hUnsettled
  | launched _ hScan' hTask hLaunches =>
    rw [hScan] at hScan'
    cases hScan'
    obtain ⟨kind, style, rfl⟩ := exists_query_of_task hTask
    rw [run_of_launches hLaunches]
    exact sendsAsked_of_getObjects _ _ server ⟨objects, _, kind, _⟩ _ style _ start

/-- The arguments of a run that watches the entities with a label. -/
def watchArguments : List String := ["topo", "get", "entities", "--label", "rack=7", "--watch"]

/-- A server that answers every request with an empty body. -/
def emptyAnswers : Server Unit := always (.response { status := 200, body := [] })

/-- Watching the entities with a label sends the filter of the label. -/
theorem run_sendsAsked_label :
    let a : Scanned := { given := [(.label, some "rack=7"), (.watch, none)] }
    let done := run emptyAnswers ⟨"", ""⟩ watchArguments {} ()
    Invokes watchArguments noLogOptions (.getObjects .entity) ["--label", "rack=7", "--watch"] ∧
      scan (Action.getObjects .entity).switches false ["--label", "rack=7", "--watch"] = .ok a ∧ a.has .help = false ∧
      ({} : Config.Store).settings = (.ok {}, { kept := some {} }) ∧
      done.talk.requests.map (·.body) = [(queryBody .entity ⟨[⟨"rack", .equal "7"⟩], []⟩ true).render .compact] ∧
      SendsAsked .entity "rack=7" false true done := by
  intro a done
  have hInvokes : Invokes watchArguments noLogOptions (.getObjects .entity) ["--label", "rack=7", "--watch"] :=
    invokes_words _ (by decide) (by decide) rfl rfl rfl
  have hScan : scan (Action.getObjects .entity).switches false ["--label", "rack=7", "--watch"] = .ok a := by decide
  have hBodies : done.talk.requests.map (·.body) = [(queryBody .entity ⟨[⟨"rack", .equal "7"⟩], []⟩ true).render .compact] := by
    decide +kernel
  exact ⟨hInvokes, hScan, rfl, settings_of_nothing, hBodies,
    run_sendsAsked hInvokes hScan rfl settings_of_nothing emptyAnswers ⟨"", ""⟩ ()⟩

end RanConsole.CommandLine

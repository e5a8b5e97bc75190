import RanConsole.Client.TopologyService
import RanConsole.Proofs.Client.Stream
import RanConsole.Proofs.Json.Determined
import RanConsole.Proofs.Query.Wire

/-!
# Filters in requests

The wire form of filters loses nothing: it is decoded as the filters, whatever negations stand inside one another, and the requests of
two queries have the same body only if their filters are the same (`wireForm_isFaithful`). The key of a filter stays as it is when the
member of its predicate is put beside it, since no predicate has a member of that name.
-/

namespace RanConsole.Client.TopologyService

open Http Query

/-- The body of a request for objects. A request to watch them also says whether what is there is told again. -/
def queryText (type : ObjectType) (filters : Filters) (noReplay : Option Bool) : String :=
  (Json.obj (queryMembers type filters ++ noReplay.toList.map fun b => ("noReplay", .bool b))).render .compact

/-! ## Keys beside predicates -/

/-- The wire form of a filter is its key with the member of the predicate put beside it. -/
theorem toJson_eq_put (f : Filter) : f.toJson = .obj (Mapping.put f.predicate.toMember.1 f.predicate.toMember.2 [("key", .str f.key)]) := by
  have hName : ¬ ("key" == f.predicate.toMember.1) = true := by
    intro h
    exact f.predicate.name_ne_key (eq_of_beq h).symm
  rw [Mapping.put_cons, if_neg hName]
  rfl

/-- Putting the member of the predicate there leaves the key of the filter as it is. -/
theorem member?_key_toJson (f : Filter) : f.toJson.member? "key" = some (.str f.key) := rfl

/-! ## The body of a request -/

theorem isExact_query (type : ObjectType) (filters : Filters) (noReplay : Option Bool) :
    (Json.obj (queryMembers type filters ++ noReplay.toList.map fun b => ("noReplay", .bool b))).IsExact := by
  have hFilters := filters.isExact_toJson
  by_cases hType : type = .unspecified
  · cases noReplay <;> simp [queryMembers, hType, Json.IsExact, Json.MembersExact, Mapping.keys, hFilters]
  · cases noReplay <;> simp [queryMembers, hType, Json.IsExact, Json.MembersExact, Mapping.keys, hFilters]

/-- The first member of a query holds its filters. -/
theorem filters_query (type : ObjectType) (filters : Filters) (noReplay : Option Bool) :
    (Json.obj (queryMembers type filters ++ noReplay.toList.map fun b => ("noReplay", .bool b))).member? "filters" =
      some filters.toJson := rfl

/-- Queries with the same body have the same filters. -/
theorem filters_of_queryText {type other : ObjectType} {f g : Filters} {a b : Option Bool}
    (h : queryText type f a = queryText other g b) : f = g := by
  have hBody := Json.render_inj Json.Style.compact_isSpaced (isExact_query type f a) (isExact_query other g b) h
  have hFirst := filters_query type f a
  rw [hBody, filters_query other g b] at hFirst
  have hWire : g.toJson = f.toJson := Option.some.inj hFirst
  have hDecoded := (Filters.ofJson?_eq_some_iff g.toJson f).mpr hWire.symm
  rw [(Filters.ofJson?_eq_some_iff g.toJson g).mpr rfl] at hDecoded
  exact (Option.some.inj hDecoded).symm

/-- A request is one for the objects of a query: it is sent to list them or to watch them. -/
def Requests (type : ObjectType) (filters : Filters) (r : Request) : Prop :=
  ∃ (σ : Type) (server : Server σ) (c : Connection) (start : σ),
    r ∈ (list server c type filters (.start start)).2.requests ∨
      ∃ noReplay limit, r ∈ (watch server c type filters noReplay limit (.start start)).2.requests

theorem exists_queryText_of_requests {type : ObjectType} {filters : Filters} {r : Request} (h : Requests type filters r) :
    ∃ noReplay, r.body = queryText type filters noReplay := by
  obtain ⟨σ, server, c, start, hList | ⟨noReplay, limit, hWatch⟩⟩ := h
  · simp only [list] at hList
    have hBody := (requestTo_eq_ok (requestTo_of_call hList)).2.1
    exact ⟨none, by rw [hBody, queryText, Option.toList_none, List.map_nil, List.append_nil]; rfl⟩
  · rw [watch] at hWatch
    exact ⟨some noReplay, (requestTo_eq_ok (requestTo_of_stream hWatch)).2.1⟩

/-! ## Nothing is lost -/

/-- Decoding a wire form gives the filter it was made of, and only wire forms are decoded; so it is for the filters of a query with
both of its lists. The key of a filter is kept beside the member of its predicate, and requests of queries with different filters
have different bodies. -/
theorem wireForm_isFaithful :
    (∀ (j : Json) (f : Filter), Filter.ofJson? j = some f ↔ f.toJson = j) ∧
      (∀ (j : Json) (f : Filters), Filters.ofJson? j = some f ↔ f.toJson = j) ∧
      (∀ f : Filter, f.toJson = .obj (Mapping.put f.predicate.toMember.1 f.predicate.toMember.2 [("key", .str f.key)]) ∧
        f.toJson.member? "key" = some (.str f.key)) ∧
      ∀ (type other : ObjectType) (f g : Filters) (r s : Request), Requests type f r → Requests other g s → f ≠ g → r.body ≠ s.body := by
  refine ⟨Filter.ofJson?_eq_some_iff, Filters.ofJson?_eq_some_iff, fun f => ⟨toJson_eq_put f, member?_key_toJson f⟩, ?_⟩
  intro type other f g r s hr hs hne hBody
  obtain ⟨a, ha⟩ := exists_queryText_of_requests hr
  obtain ⟨b, hb⟩ := exists_queryText_of_requests hs
  rw [ha, hb] at hBody
  exact hne (filters_of_queryText hBody)

/-- A server that never answers. -/
def silentServer : Server Unit := ⟨fun s _ => (.interrupted, s)⟩

/-- Negations inside one another, under keys that are names of members, and the requests for a filter and for its negation. -/
theorem wireForm_isFaithful_nested :
    let inner : Filter := ⟨"not", .negation "" (.among ["a,b", ""])⟩
    let outer : Filter := ⟨"in", .negation inner.key inner.predicate⟩
    let c : Connection := { service := path }
    Filter.ofJson? outer.toJson = some outer ∧
      (list silentServer c .entity { labels := [inner] } (.start ())).2.requests ≠ [] ∧
      (watch silentServer c .kind { labels := [outer] } true none (.start ())).2.requests ≠ [] ∧
      ∀ r ∈ (list silentServer c .entity { labels := [inner] } (.start ())).2.requests,
        ∀ s ∈ (watch silentServer c .kind { labels := [outer] } true none (.start ())).2.requests, r.body ≠ s.body := by
  intro inner outer c
  obtain ⟨hFilter, -, -, hBodies⟩ := wireForm_isFaithful
  refine ⟨(hFilter _ _).mpr rfl, by decide +kernel, by decide +kernel, fun r hr s hs => ?_⟩
  have hInner : Requests .entity { labels := [inner] } r := ⟨Unit, silentServer, c, (), .inl hr⟩
  have hOuter : Requests .kind { labels := [outer] } s := ⟨Unit, silentServer, c, (), .inr ⟨true, none, hs⟩⟩
  exact hBodies .entity .kind _ _ r s hInner hOuter (by decide)

end RanConsole.Client.TopologyService

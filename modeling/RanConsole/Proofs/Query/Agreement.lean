import RanConsole.Options
import RanConsole.Proofs.Query.Refusal

/-!
# Strict, lenient and vetted queries

A label query is compiled strictly or leniently, and the option that takes it compiles it once before that. The three agree
(`compile_agrees`): a list that cannot be read is reported by all of them, the first one in the query, even where a clause without an
operator stands in front of it. A clause without an operator is refused by a strict query alone, so a query that the option has taken
can fail for nothing else.
-/

namespace RanConsole.Query

/-! ## Clauses that are dropped -/

/-- What is dropped are the clauses that are not empty and have no operator, in their order. -/
theorem dropped_of_compileClauses {cs : List String} {result : Compilation} (h : compileClauses compileLabel cs = .ok result) :
    result.dropped = cs.filter fun c => c ≠ "" ∧ classify c = none := by
  induction cs generalizing result with
  | nil =>
    cases h
    rfl
  | cons c cs ih =>
    obtain ⟨filter, rest, hc, hcs, rfl⟩ := compileClauses_cons_eq_ok_iff.1 h
    have hrest := ih hcs
    cases filter with
    | some f =>
      have hop : classify c ≠ none := by
        intro hnone
        rw [(compileLabel_eq_none_iff c).2 hnone] at hc
        cases hc
      rw [List.filter_cons_of_neg (by simp [hop])]
      exact hrest
    | none =>
      have hop : classify c = none := (compileLabel_eq_none_iff c).1 hc
      by_cases hempty : c = ""
      · rw [List.filter_cons_of_neg (by simp [hempty]), Compilation.add, if_pos hempty]
        exact hrest
      · rw [List.filter_cons_of_pos (by simp [hempty, hop]), Compilation.add_none hempty, hrest]

/-! ## The option -/

/-- The option takes a query as it is if it compiles. The empty query, which it does not look at, compiles too. -/
theorem labelQuery_eq (query : String) :
    Options.labelQuery (some query) = ((labelResult query).map fun _ => query).mapError .filter := by
  rw [Options.labelQuery]
  by_cases hempty : query = ""
  · subst hempty
    rfl
  · rw [if_neg hempty]
    cases labelResult query <;> rfl

theorem labelQuery_eq_error_iff (query : String) (e : Options.OptionError) :
    Options.labelQuery (some query) = .error e ↔ ∃ e', e = .filter e' ∧ labelResult query = .error e' := by
  rw [labelQuery_eq]
  constructor
  · intro h
    obtain ⟨e', he', rfl⟩ := error_mapError h
    cases hresult : labelResult query with
    | error e'' =>
      rw [hresult] at he'
      cases he'
      exact ⟨e', rfl, rfl⟩
    | ok result =>
      rw [hresult] at he'
      cases he'
  · rintro ⟨e', rfl, hresult⟩
    rw [hresult]
    rfl

/-- What the option takes is the query itself, and it compiles. -/
theorem exists_of_labelQuery {query label : String} (h : Options.labelQuery (some query) = .ok label) :
    label = query ∧ ∃ result, labelResult query = .ok result := by
  rw [labelQuery_eq] at h
  obtain ⟨result, hresult, rfl⟩ := ok_map (ok_mapError h)
  exact ⟨rfl, result, hresult⟩

/-- A strict query that compiles is refused for nothing but a clause that is dropped. -/
theorem exists_unrecognized_of_compile {query : String} {result : Compilation} (h : labelResult query = .ok result)
    {type : ObjectType} {kind : String} {e : FilterError} (he : compile type query kind true = .error e) :
    ∃ clause, e = .unrecognized clause := by
  rw [compile_eq] at he
  cases hdropped : result.dropped with
  | nil =>
    rw [compileLabels_strict_of_dropped_nil h hdropped] at he
    cases he
  | cons clause rest =>
    rw [compileLabels_strict_of_dropped h hdropped] at he
    cases he
    exact ⟨clause, rfl⟩

/-! ## All three -/

/-- A query is told the same way by the option that takes it and when it is compiled, strictly or leniently. -/
structure Agrees (query : String) : Prop where
  /-- A strict query is accepted just when it compiles and drops nothing, with the filters that it compiles to. -/
  strict_iff : ∀ filters, (∃ records, compileLabels query true = .ok (filters, records)) ↔
    ∃ result, labelResult query = .ok result ∧ result.dropped = [] ∧ result.filters = filters
  /-- What a strict query is accepted with, it is accepted with leniently. -/
  lenient_of_strict : ∀ filters records, compileLabels query true = .ok (filters, records) →
    compileLabels query false = .ok (filters, records)
  /-- What the query cannot be compiled for is told by both. -/
  malformed : ∀ e, labelResult query = .error e → ∀ strict, compileLabels query strict = .error e
  /-- This is the first list that cannot be read, whatever other clauses stand in front of it. -/
  malformed_iff : ∀ e, labelResult query = .error e ↔
    ∃ earlier clause later, splitClauses query = earlier ++ clause :: later ∧ (∀ c ∈ earlier, ¬Malformed c) ∧
      HoldsList clause ∧ ListFault clause e
  /-- Where a clause is dropped, a strict query is refused for the first one and a lenient query has its filters. -/
  dropped : ∀ result clause rest, labelResult query = .ok result → result.dropped = clause :: rest →
    compileLabels query true = .error (.unrecognized clause) ∧
      compileLabels query false = .ok (result.filters, (clause :: rest).map droppedRecord)
  /-- The dropped clauses are those without an operator that are not empty. -/
  dropped_eq : ∀ result, labelResult query = .ok result →
    result.dropped = (splitClauses query).filter fun c => c ≠ "" ∧ classify c = none
  /-- The option refuses the queries that cannot be compiled. -/
  option_iff : ∀ e, Options.labelQuery (some query) = .error e ↔ ∃ e', e = .filter e' ∧ labelResult query = .error e'
  /-- A query that the option takes compiles leniently, and strictly unless it has a clause that is dropped. -/
  taken : ∀ label, Options.labelQuery (some query) = .ok label → label = query ∧ ∀ type kind,
    (∃ result, compile type label kind false = .ok result) ∧
      ∀ e, compile type label kind true = .error e → ∃ clause, e = .unrecognized clause
  /-- A query that the option refuses compiles neither way. -/
  refused : ∀ e, Options.labelQuery (some query) = .error e → ∀ type kind strict,
    ∃ e', e = .filter e' ∧ compile type query kind strict = .error e'

/-- Every query is told the same way by the option that takes it and when it is compiled, strictly or leniently. -/
theorem compile_agrees (query : String) : Agrees query where
  strict_iff filters := by
    constructor
    · rintro ⟨records, h⟩
      obtain ⟨result, hresult, hdropped, hfilters, -⟩ := exists_of_compileLabels_strict h
      exact ⟨result, hresult, hdropped, hfilters⟩
    · rintro ⟨result, hresult, hdropped, rfl⟩
      exact ⟨[], compileLabels_strict_of_dropped_nil hresult hdropped⟩
  lenient_of_strict filters records h := by
    obtain ⟨result, hresult, hdropped, rfl, rfl⟩ := exists_of_compileLabels_strict h
    rw [compileLabels_lenient hresult, hdropped]
    rfl
  malformed _ := compileLabels_of_error
  malformed_iff := labelResult_eq_error_iff query
  dropped result clause rest h hdropped := by
    refine ⟨compileLabels_strict_of_dropped h hdropped, ?_⟩
    rw [compileLabels_lenient h, hdropped]
  dropped_eq _ := dropped_of_compileClauses
  option_iff := labelQuery_eq_error_iff query
  taken label h := by
    obtain ⟨rfl, result, hresult⟩ := exists_of_labelQuery h
    refine ⟨rfl, fun type kind => ⟨?_, fun e => exists_unrecognized_of_compile hresult⟩⟩
    rw [compile_eq, compileLabels_lenient hresult]
    exact ⟨_, rfl⟩
  refused e h type kind strict := by
    obtain ⟨e', rfl, hresult⟩ := (labelQuery_eq_error_iff query e).1 h
    exact ⟨e', rfl, by rw [compile_eq, compileLabels_of_error hresult]; rfl⟩

/-- A list that cannot be read is reported in both ways although a clause without an operator stands in front of it. Where there is
none, a strict query is refused for the first such clause. -/
theorem compile_agrees_zone :
    (∀ strict, compileLabels "zone, a in ( ), b=1" strict = .error (.emptyList "a in ( )")) ∧
      compileLabels "b=1, , zone, role" true = .error (.unrecognized "zone") := by
  have hresult : labelResult "b=1, , zone, role" = .ok { filters := [⟨"b", .equal "1"⟩], dropped := ["zone", "role"] } := rfl
  obtain ⟨hstrict, -⟩ := (compile_agrees "b=1, , zone, role").dropped _ "zone" ["role"] hresult rfl
  exact ⟨(compile_agrees "zone, a in ( ), b=1").malformed _ rfl, hstrict⟩

end RanConsole.Query

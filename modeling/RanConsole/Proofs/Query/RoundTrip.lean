import RanConsole.Proofs.Query.Written
import RanConsole.Query.Compile

/-!
# Queries read back

A query that is put together from written clauses, with whatever blanks around their parts, compiles to the filters of the clauses
in their order. Nothing is dropped, so a strict query compiles to the same filters and the log stays empty.
-/

namespace RanConsole.Query

/-- Every written clause has a filter. -/
theorem Written.exists_filter (w : Written) : ∃ f, buildFilter w.operator w.key.text w.values = some f := by
  cases w with
  | equality isNegated key value => cases isNegated <;> exact ⟨_, rfl⟩
  | membership isNegated key values after => cases isNegated <;> exact ⟨_, rfl⟩

/-- The clauses of a query, trimmed and compiled one after another, give their filters in order. -/
theorem compileClauses_written {clauses : List Written} (h : ∀ w ∈ clauses, w.Proper) :
    ∃ filters : List Filter,
      clauses.map (fun w => buildFilter w.operator w.key.text w.values) = filters.map some ∧
        compileClauses compileLabel ((clauses.map Written.chars).map fun s => String.ofList (Text.trim s)) =
          .ok { filters } := by
  induction clauses with
  | nil => exact ⟨[], rfl, rfl⟩
  | cons w rest ih =>
    obtain ⟨filters, hbuilt, hcompiled⟩ := ih fun v hv => h v (List.mem_cons_of_mem w hv)
    obtain ⟨f, hf⟩ := w.exists_filter
    refine ⟨f :: filters, by rw [List.map_cons, List.map_cons, hbuilt, hf], ?_⟩
    rw [List.map_cons, List.map_cons, compileClauses, Written.compileLabel_chars (h w (List.mem_cons_self ..)), hf,
      hcompiled]
    rfl

/-- A query of written clauses is split into the clauses, trimmed; the empty query is one empty clause. -/
theorem splitClauses_writtenQuery {clauses : List Written} (h : ∀ w ∈ clauses, w.Proper) (hne : clauses ≠ []) :
    splitClauses (writtenQuery clauses) = (clauses.map Written.chars).map fun s => String.ofList (Text.trim s) := by
  rw [splitClauses, writtenQuery, String.toList_ofList, pieces_writtenQuery h hne]

/-- A strict query compiles like any other when it drops nothing. -/
theorem compileLabels_of_dropped_nil {query : String} {filters : List Filter}
    (h : labelResult query = .ok { filters }) (strict : Bool) : compileLabels query strict = .ok (filters, []) := by
  rw [compileLabels, h]
  cases strict <;> rfl

/-- A query of written clauses compiles to the filters that are built of their operators, keys and values, in their order, whatever
blanks stand around the parts. No clause is dropped, and a strict query compiles to the same. -/
theorem labelResult_writtenQuery (clauses : List Written) (h : ∀ w ∈ clauses, w.Proper) :
    ∃ filters : List Filter,
      clauses.map (fun w => buildFilter w.operator w.key.text w.values) = filters.map some ∧
        labelResult (writtenQuery clauses) = .ok { filters, dropped := [] } ∧
          ∀ strict, compileLabels (writtenQuery clauses) strict = .ok (filters, []) := by
  obtain ⟨filters, hbuilt, hcompiled⟩ := compileClauses_written h
  have hresult : labelResult (writtenQuery clauses) = .ok { filters } := by
    cases clauses with
    | nil =>
      obtain rfl : filters = [] := by simpa using hbuilt.symm
      decide
    | cons w rest => rw [labelResult, splitClauses_writtenQuery h (List.cons_ne_nil w rest), hcompiled]
  exact ⟨filters, hbuilt, hresult, compileLabels_of_dropped_nil hresult⟩

/-- Keys that end in a mark or are operators themselves, an empty value, and a list that holds equals signs and an empty text. -/
def sampleClauses : List Written :=
  [.equality true ⟨[' '], "zone!", ['\t']⟩ ⟨[], "a b", []⟩,
   .equality false ⟨[], "!in", []⟩ ⟨['\n'], "", []⟩,
   .membership true ⟨[], "x=1 in", [' ']⟩ [⟨[' '], "y!=2", []⟩, ⟨[], "", [' ']⟩] [' ']]

/-- The sample is read back. -/
theorem labelResult_sampleClauses :
    (∀ w ∈ sampleClauses, w.Proper) ∧ writtenQuery sampleClauses = " zone!\t!=a b,!in=\n,x=1 in  !in ( y!=2, ) " ∧
      labelResult (writtenQuery sampleClauses) =
        .ok { filters := [⟨"zone!", .negation "" (.equal "a b")⟩, ⟨"!in", .equal ""⟩,
          ⟨"x=1 in", .negation "" (.among ["y!=2", ""])⟩] } := by
  have hproper : ∀ w ∈ sampleClauses, w.Proper := by
    intro w hw
    simp only [sampleClauses, List.mem_cons, List.not_mem_nil, or_false] at hw
    rcases hw with rfl | rfl | rfl
    · exact ⟨⟨by decide, by decide, by decide, by decide, by decide, by decide⟩,
        ⟨by decide, by decide, by decide, by decide, by decide, by decide⟩, by decide, by decide, by decide⟩
    · exact ⟨⟨by decide, by decide, by decide, by decide, by decide, by decide⟩,
        ⟨by decide, by decide, by decide, by decide, by decide, by decide⟩, by decide, by decide, by decide⟩
    · refine ⟨⟨by decide, by decide, by decide, by decide, by decide, by decide⟩, ?_, by decide, by decide, by decide,
        by decide⟩
      intro v hv
      simp only [List.mem_cons, List.not_mem_nil, or_false] at hv
      rcases hv with rfl | rfl
      · exact ⟨by decide, by decide, by decide, by decide, by decide, by decide⟩
      · exact ⟨by decide, by decide, by decide, by decide, by decide, by decide⟩
  obtain ⟨filters, hbuilt, hresult, -⟩ := labelResult_writtenQuery sampleClauses hproper
  have hfilters : filters = [⟨"zone!", .negation "" (.equal "a b")⟩, ⟨"!in", .equal ""⟩,
      ⟨"x=1 in", .negation "" (.among ["y!=2", ""])⟩] := by
    refine List.map_injective_iff.2 (fun _ _ h => Option.some.inj h) (hbuilt.symm.trans ?_)
    rfl
  exact ⟨hproper, by decide, hfilters ▸ hresult⟩

end RanConsole.Query

import RanConsole.Proofs.Query.Refusal

/-!
# Queries put together

A query that ends outside all parentheses can be continued behind a comma: the clauses of the whole are those of its two parts, and
so it compiles to what the parts compile to (`compile_append_comma`). In a strict query a list that cannot be read is reported even
when a clause without an operator stands in front of it.
-/

namespace RanConsole.Query

theorem labelResult_append_comma {p : String} (h : depthThrough 0 p.toList = 0) (q : String) :
    labelResult (p ++ "," ++ q) = do
      let a ← labelResult p
      let b ← labelResult q
      return a.append b := by
  rw [labelResult, splitClauses_append_comma h, compileClauses_append]
  rfl

theorem kindResult_append_comma {p : String} (h : depthThrough 0 p.toList = 0) (q : String) :
    kindResult (p ++ "," ++ q) = (kindResult p).append (kindResult q) := by
  rw [kindResult, splitClauses_append_comma h, List.filterMap_append, List.filter_append]
  rfl

/-- A strict query of two parts is refused for a list that cannot be read, in the first part or else in the second, and otherwise for
the first clause that the first part drops, or else the second. -/
theorem compileLabels_strict_append_comma {p : String} (h : depthThrough 0 p.toList = 0) (q : String) :
    compileLabels (p ++ "," ++ q) true = (do
      let a ← labelResult p
      let b ← labelResult q
      strictOutcome (a.dropped.head?.or b.dropped.head?) (a.filters ++ b.filters)) := by
  rw [compileLabels_strict, labelResult_append_comma h]
  cases labelResult p with
  | error e => rfl
  | ok a =>
    cases labelResult q with
    | error e => rfl
    | ok b => simp only [bind, Except.bind, pure, Except.pure, Compilation.append, List.head?_append]

/-- A query that ends outside all parentheses, a comma and any other query: clauses, compilations and failures of the whole are those
of the first part and then those of the second, where the failures of compiling are those of lists and come before any clause that is
refused because it was dropped. -/
theorem compile_append_comma {p : String} (h : depthThrough 0 p.toList = 0) (q : String) :
    splitClauses (p ++ "," ++ q) = splitClauses p ++ splitClauses q ∧
      labelResult (p ++ "," ++ q) = (do
        let a ← labelResult p
        let b ← labelResult q
        return a.append b) ∧
      kindResult (p ++ "," ++ q) = (kindResult p).append (kindResult q) ∧
      compileLabels (p ++ "," ++ q) true = (do
        let a ← labelResult p
        let b ← labelResult q
        strictOutcome (a.dropped.head?.or b.dropped.head?) (a.filters ++ b.filters)) ∧
      ∀ query e, labelResult query = .error e → ∃ clause ∈ splitClauses query, HoldsList clause ∧ ListFault clause e :=
  ⟨splitClauses_append_comma h q, labelResult_append_comma h q, kindResult_append_comma h q,
    compileLabels_strict_append_comma h q, fun _ _ => exists_listFault_of_labelResult⟩

/-- A stray and a nested parenthesis in the first part, which drops a clause; the list in the second part is reported all the same. -/
theorem compile_append_comma_listBehindDropped :
    depthThrough 0 "x), a in ((1,2),3)".toList = 0 ∧
      splitClauses ("x), a in ((1,2),3)" ++ "," ++ "zone, b in (") = ["x)", "a in ((1,2),3)", "zone", "b in ("] ∧
      compileLabels ("x), a in ((1,2),3)" ++ "," ++ "zone, b in (") true = .error (.unclosedList "b in (") := by
  have h : depthThrough 0 "x), a in ((1,2),3)".toList = 0 := by decide
  obtain ⟨hclauses, -, -, hstrict, -⟩ := compile_append_comma h "zone, b in ("
  refine ⟨h, ?_, ?_⟩
  · rw [hclauses]
    decide
  · rw [hstrict]
    rfl

end RanConsole.Query

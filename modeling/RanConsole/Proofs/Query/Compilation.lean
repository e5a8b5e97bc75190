import RanConsole.Proofs.Query.Pieces
import RanConsole.Query.Compile

/-!
# Compiling clause after clause

The clauses of a query are compiled one after another and the first that is refused ends it: lists of clauses that are appended
compile to compilations that are appended (`compileClauses_append`). A strict query looks at the clauses that were dropped only when
all have been compiled (`compileLabels_strict`), and it is accepted just when every clause that is not empty has a filter
(`compileLabels_strict_eq_ok_iff`).
-/

namespace RanConsole.Query

section
variable {compile : String → Except FilterError (Option Filter)}

/-! ## One clause in front of others -/

theorem compileClauses_cons_eq_ok_iff {c : String} {cs : List String} {result : Compilation} :
    compileClauses compile (c :: cs) = .ok result ↔
      ∃ filter rest, compile c = .ok filter ∧ compileClauses compile cs = .ok rest ∧ rest.add c filter = result := by
  rw [compileClauses]
  cases compile c with
  | error e => simp [bind, Except.bind]
  | ok filter =>
    cases compileClauses compile cs with
    | error e => simp [bind, Except.bind]
    | ok rest => simp [bind, Except.bind, pure, Except.pure]

theorem compileClauses_cons_eq_error_iff {c : String} {cs : List String} {e : FilterError} :
    compileClauses compile (c :: cs) = .error e ↔
      compile c = .error e ∨ (∃ filter, compile c = .ok filter) ∧ compileClauses compile cs = .error e := by
  rw [compileClauses]
  cases compile c with
  | error e' => simp [bind, Except.bind]
  | ok filter =>
    cases compileClauses compile cs with
    | error e' => simp [bind, Except.bind]
    | ok rest => simp [bind, Except.bind, pure, Except.pure]

/-! ## Lists of clauses one after the other -/

/-- Two compilations one after the other. -/
def Compilation.append (a b : Compilation) : Compilation :=
  { filters := a.filters ++ b.filters
    dropped := a.dropped ++ b.dropped
    supported := a.supported && b.supported }

/-- A clause that gives no filter is dropped unless it is empty. -/
theorem Compilation.add_none {clause : String} (h : clause ≠ "") (c : Compilation) :
    c.add clause none = { c with dropped := clause :: c.dropped } :=
  if_neg h

theorem Compilation.add_append (clause : String) (filter : Option Filter) (a b : Compilation) :
    (a.append b).add clause filter = (a.add clause filter).append b := by
  cases filter with
  | some f => rfl
  | none =>
    by_cases h : clause = ""
    · simp [Compilation.add, h]
    · rw [add_none h, add_none h]
      rfl

/-- The clauses of two lists are compiled one after the other. -/
theorem compileClauses_append (cs ds : List String) :
    compileClauses compile (cs ++ ds) = do
      let a ← compileClauses compile cs
      let b ← compileClauses compile ds
      return a.append b := by
  induction cs with
  | nil =>
    rw [List.nil_append]
    cases compileClauses compile ds <;> rfl
  | cons c cs ih =>
    rw [List.cons_append, compileClauses, compileClauses, ih]
    cases compile c with
    | error e => rfl
    | ok filter =>
      cases compileClauses compile cs with
      | error e => rfl
      | ok a =>
        cases compileClauses compile ds with
        | error e => rfl
        | ok b => exact congrArg Except.ok (Compilation.add_append c filter a b)

/-! ## Clauses that are refused -/

/-- A list of clauses is refused for the first of them that is. -/
theorem compileClauses_eq_error_iff (cs : List String) (e : FilterError) :
    compileClauses compile cs = .error e ↔
      ∃ earlier c later, cs = earlier ++ c :: later ∧ (∀ d ∈ earlier, ∃ filter, compile d = .ok filter) ∧ compile c = .error e := by
  induction cs with
  | nil => simp [compileClauses]
  | cons c cs ih =>
    rw [compileClauses_cons_eq_error_iff, ih]
    constructor
    · rintro (hc | ⟨hc, earlier, d, later, rfl, hearlier, hd⟩)
      · exact ⟨[], c, cs, rfl, by simp, hc⟩
      · exact ⟨c :: earlier, d, later, rfl, List.forall_mem_cons.2 ⟨hc, hearlier⟩, hd⟩
    · rintro ⟨earlier, d, later, hcs, hearlier, hd⟩
      cases earlier with
      | nil =>
        obtain ⟨rfl, rfl⟩ := List.cons.inj hcs
        exact Or.inl hd
      | cons c' earlier =>
        obtain ⟨rfl, rfl⟩ := List.cons.inj hcs
        obtain ⟨hc, hearlier⟩ := List.forall_mem_cons.1 hearlier
        exact Or.inr ⟨hc, earlier, d, later, rfl, hearlier, hd⟩

/-- What a list of clauses is refused for is what one of them is refused for. -/
theorem exists_refused_of_compileClauses {cs : List String} {e : FilterError}
    (h : compileClauses compile cs = .error e) : ∃ c ∈ cs, compile c = .error e := by
  obtain ⟨earlier, c, later, rfl, -, hc⟩ := (compileClauses_eq_error_iff cs e).1 h
  exact ⟨c, List.mem_append_right _ (List.mem_cons_self ..), hc⟩

/-- A list of clauses is refused as soon as one of them is. -/
theorem compileClauses_isRefused_iff (cs : List String) :
    (∃ e, compileClauses compile cs = .error e) ↔ ∃ c ∈ cs, ∃ e, compile c = .error e := by
  constructor
  · rintro ⟨e, h⟩
    obtain ⟨c, hc, hce⟩ := exists_refused_of_compileClauses h
    exact ⟨c, hc, e, hce⟩
  · rintro ⟨c, hc, e, hce⟩
    obtain ⟨earlier, later, rfl⟩ := List.append_of_mem hc
    rw [compileClauses_append, compileClauses, hce]
    cases compileClauses compile earlier with
    | error e' => exact ⟨e', rfl⟩
    | ok a => exact ⟨e, rfl⟩

/-! ## Clauses that are dropped -/

/-- Only kind queries are unsupported. -/
theorem supported_of_compileClauses {cs : List String} {result : Compilation}
    (h : compileClauses compile cs = .ok result) : result.supported = true := by
  induction cs generalizing result with
  | nil =>
    cases h
    rfl
  | cons c cs ih =>
    obtain ⟨filter, rest, -, hcs, rfl⟩ := compileClauses_cons_eq_ok_iff.1 h
    have hrest := ih hcs
    cases filter with
    | some f => exact hrest
    | none =>
      rw [Compilation.add]
      split
      · exact hrest
      · exact hrest

end

theorem compileLabel_empty : compileLabel "" = .ok none :=
  rfl

/-- A list of clauses compiles to filters alone, with nothing dropped, just when these are the filters of the clauses that are not
empty. -/
theorem compileClauses_eq_filters_iff (cs : List String) (filters : List Filter) :
    compileClauses compileLabel cs = .ok { filters } ↔
      (cs.filter (· ≠ "")).map compileLabel = filters.map fun f => .ok (some f) := by
  induction cs generalizing filters with
  | nil => cases filters <;> simp [compileClauses]
  | cons c cs ih =>
    rw [compileClauses_cons_eq_ok_iff]
    by_cases hempty : c = ""
    · subst hempty
      rw [List.filter_cons_of_neg (by simp), ← ih]
      simp [compileLabel_empty, Compilation.add]
    · rw [List.filter_cons_of_pos (by simpa using hempty), List.map_cons]
      constructor
      · rintro ⟨filter, ⟨fs, dropped, supported⟩, hc, hcs, hadd⟩
        cases filter with
        | none =>
          rw [Compilation.add_none hempty] at hadd
          cases hadd
        | some f =>
          cases hadd
          rw [hc, (ih fs).1 hcs]
          rfl
      · intro h
        cases filters with
        | nil => cases h
        | cons f fs =>
          obtain ⟨hc, hcs⟩ := List.cons.inj h
          exact ⟨some f, { filters := fs }, hc, (ih fs).2 hcs, rfl⟩

/-! ## Strict and lenient queries -/

/-- What a strict query ends with once its clauses are compiled: it is refused for the first clause that was dropped, if there is one. -/
def strictOutcome (firstDropped : Option String) (filters : List Filter) : Except FilterError (List Filter × List Log.Record) :=
  match firstDropped with
  | some clause => .error (.unrecognized clause)
  | none => .ok (filters, [])

/-- A strict query looks at what was dropped only when all its clauses have been compiled. -/
theorem compileLabels_strict (query : String) :
    compileLabels query true = (do
      let result ← labelResult query
      strictOutcome result.dropped.head? result.filters) := by
  rw [compileLabels]
  cases labelResult query with
  | error e => rfl
  | ok result =>
    obtain ⟨filters, dropped, supported⟩ := result
    cases dropped <;> rfl

/-- A strict query is accepted just when each of its clauses that are not empty has a filter. Then these are its filters, and the
log stays empty. -/
theorem compileLabels_strict_eq_ok_iff (query : String) (filters : List Filter) (records : List Log.Record) :
    compileLabels query true = .ok (filters, records) ↔
      ((splitClauses query).filter (· ≠ "")).map compileLabel = filters.map (fun f => .ok (some f)) ∧ records = [] := by
  rw [compileLabels_strict, ← compileClauses_eq_filters_iff, ← labelResult]
  cases hresult : labelResult query with
  | error e => simp [bind, Except.bind]
  | ok result =>
    obtain ⟨fs, dropped, supported⟩ := result
    obtain rfl : supported = true := supported_of_compileClauses hresult
    cases dropped with
    | nil => simp [bind, Except.bind, strictOutcome, eq_comm]
    | cons clause dropped => simp [bind, Except.bind, strictOutcome]

/-- A query that cannot be compiled fails alike in both ways. -/
theorem compileLabels_of_error {query : String} {e : FilterError} (h : labelResult query = .error e) (strict : Bool) :
    compileLabels query strict = .error e := by
  rw [compileLabels, h]
  rfl

/-- A lenient query says in the log what it drops. -/
theorem compileLabels_lenient {query : String} {result : Compilation} (h : labelResult query = .ok result) :
    compileLabels query false = .ok (result.filters, result.dropped.map droppedRecord) := by
  rw [compileLabels, h]
  rfl

/-- A strict query is refused for the first clause that it drops. -/
theorem compileLabels_strict_of_dropped {query clause : String} {result : Compilation} {rest : List String}
    (h : labelResult query = .ok result) (hdropped : result.dropped = clause :: rest) :
    compileLabels query true = .error (.unrecognized clause) := by
  rw [compileLabels_strict, h]
  change strictOutcome result.dropped.head? result.filters = _
  rw [hdropped]
  rfl

/-- A strict query that drops nothing is accepted with its filters, and the log stays empty. -/
theorem compileLabels_strict_of_dropped_nil {query : String} {result : Compilation} (h : labelResult query = .ok result)
    (hdropped : result.dropped = []) : compileLabels query true = .ok (result.filters, []) := by
  rw [compileLabels_strict, h]
  change strictOutcome result.dropped.head? result.filters = _
  rw [hdropped]
  rfl

/-- A strict query that is accepted compiles and drops nothing. -/
theorem exists_of_compileLabels_strict {query : String} {filters : List Filter} {records : List Log.Record}
    (h : compileLabels query true = .ok (filters, records)) :
    ∃ result, labelResult query = .ok result ∧ result.dropped = [] ∧ result.filters = filters ∧ records = [] := by
  cases hresult : labelResult query with
  | error e =>
    rw [compileLabels_of_error hresult] at h
    cases h
  | ok result =>
    refine ⟨result, rfl, ?_⟩
    cases hdropped : result.dropped with
    | nil =>
      rw [compileLabels_strict_of_dropped_nil hresult hdropped] at h
      cases h
      exact ⟨rfl, rfl, rfl⟩
    | cons clause rest =>
      rw [compileLabels_strict_of_dropped hresult hdropped] at h
      cases h

/-! ## Queries with kinds -/

theorem compileKinds_eq_nil (kind : String) : compileKinds kind = [] := by
  rw [compileKinds, kindResult, List.filterMap_eq_nil_iff]
  intro clause _
  rfl

/-- What a query compiles to comes from its labels; kinds only add to the log. -/
theorem compile_eq (type : ObjectType) (label kind : String) (strict : Bool) :
    compile type label kind strict =
      (compileLabels label strict).map fun (labels, records) => (⟨labels, []⟩, records ++ kindWarning type kind) := by
  rw [compile]
  simp only [compileKinds_eq_nil, ite_self]
  cases compileLabels label strict <;> rfl

end RanConsole.Query

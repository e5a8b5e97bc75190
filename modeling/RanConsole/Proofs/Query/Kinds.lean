import RanConsole.Proofs.Query.Accounting

/-!
# What a kind query does

A kind query has no part in what a query compiles to and cannot make it fail; all it can do is to have a warning written
(`compile_ignoresKinds`). A query that is written down while it is compiled (`compileLogged`) leaves in the log what `compile` says about
it (`after_compileLogged`): one record for each clause that is dropped, in their order, then the warning if there is one, and nothing at
all if the query is refused.
-/

namespace RanConsole.Query

/-! ## Compiling with a log at hand -/

/-- Computations that write to a log while they run. What was written in front of a failure stays written. -/
abbrev Logging := ExceptT FilterError (StateM (List Log.Record))

namespace Logging

variable {α : Type}

/-- A record written behind those that are in the log. -/
def write (record : Log.Record) : Logging Unit := modify (· ++ [record])

/-- What comes of a computation, and the log behind it. -/
def after (log : List Log.Record) (c : Logging α) : Except FilterError α × List Log.Record := c.run.run log

theorem after_pure (log : List Log.Record) (a : α) : after log (pure a) = (.ok a, log) := rfl

theorem after_lift (log : List Log.Record) (c : Except FilterError α) : after log (liftM c : Logging α) = (c, log) := by
  cases c <;> rfl

theorem after_bind_of_ok {β : Type} {log log' : List Log.Record} {c : Logging α} {a : α} (h : after log c = (.ok a, log'))
    (f : α → Logging β) : after log (c >>= f) = after log' (f a) := by
  have hrun : c.run log = (.ok a, log') := h
  change (ExceptT.bindCont f (c.run log).1 (c.run log).2) = _
  rw [hrun]
  rfl

theorem after_bind_of_error {β : Type} {log log' : List Log.Record} {c : Logging α} {e : FilterError}
    (h : after log c = (.error e, log')) (f : α → Logging β) : after log (c >>= f) = (.error e, log') := by
  have hrun : c.run log = (.error e, log') := h
  change (ExceptT.bindCont f (c.run log).1 (c.run log).2) = _
  rw [hrun]
  rfl

end Logging

open Logging

/-- A clause that was dropped: a strict query is refused for it, a lenient one has it written down. -/
def dropLogged (strict : Bool) (clause : String) : Logging Unit :=
  if strict then throw (.unrecognized clause) else write (droppedRecord clause)

/-- The filters of a label query, its dropped clauses written down one after another. -/
def labelsLogged (query : String) (strict : Bool) : Logging (List Filter) := do
  let result ← liftM (labelResult query)
  forM result.dropped (dropLogged strict)
  return result.filters

/-- The filters of a kind query, with a warning written if there is something to warn of. -/
def kindsLogged (type : ObjectType) (kind : String) : Logging (List Filter) := do
  let warning (text : String) : Log.Record :=
    { level := Log.warningLevel, logger := loggerName, message := text ++ quoted kind }
  if type.takesKinds then
    let result := kindResult kind
    if !result.supported && !result.dropped.isEmpty then
      write (warning "Kind filters are not supported yet; ignoring ")
    return result.filters
  else
    if trimmed kind ≠ "" then
      write (warning "Kind filters only apply to relations and kinds; ignoring ")
    return []

/-- The filters of a query, written down while it is compiled: the labels first, then the kinds. -/
def compileLogged (type : ObjectType) (label kind : String) (strict : Bool) : Logging Filters := do
  let labels ← labelsLogged label strict
  let kinds ← kindsLogged type kind
  return ⟨labels, kinds⟩

theorem after_dropLogged_lenient (clause : String) (log : List Log.Record) :
    after log (dropLogged false clause) = (.ok (), log ++ [droppedRecord clause]) := rfl

theorem after_dropLogged_strict (clause : String) (log : List Log.Record) :
    after log (dropLogged true clause) = (.error (.unrecognized clause), log) := rfl

/-- A lenient query has a record written for each of its dropped clauses. -/
theorem after_forM_lenient (clauses : List String) (log : List Log.Record) :
    after log (forM clauses (dropLogged false)) = (.ok (), log ++ clauses.map droppedRecord) := by
  induction clauses generalizing log with
  | nil => exact congrArg (Prod.mk _) (List.append_nil log).symm
  | cons clause clauses ih =>
    rw [List.forM_cons, after_bind_of_ok (after_dropLogged_lenient clause log), ih, List.map_cons, List.append_assoc]
    rfl

/-- A strict query is refused for the first of them, with nothing written. -/
theorem after_forM_strict (clause : String) (rest : List String) (log : List Log.Record) :
    after log (forM (clause :: rest) (dropLogged true)) = (.error (.unrecognized clause), log) := by
  rw [List.forM_cons]
  exact after_bind_of_error (after_dropLogged_strict clause log) _

/-- What is written about a computation that comes to a result and some records, or fails. -/
def written {α : Type} (log : List Log.Record) : Except FilterError (α × List Log.Record) → Except FilterError α × List Log.Record
  | .ok (a, records) => (.ok a, log ++ records)
  | .error e => (.error e, log)

theorem after_labelsLogged (query : String) (strict : Bool) (log : List Log.Record) :
    after log (labelsLogged query strict) = written log (compileLabels query strict) := by
  rw [labelsLogged]
  cases hresult : labelResult query with
  | error e =>
    rw [after_bind_of_error (after_lift log _), compileLabels_of_error hresult]
    rfl
  | ok result =>
    rw [after_bind_of_ok (after_lift log _)]
    cases strict with
    | false =>
      rw [after_bind_of_ok (after_forM_lenient result.dropped log), compileLabels_lenient hresult]
      rfl
    | true =>
      cases hdropped : result.dropped with
      | nil =>
        rw [List.forM_nil, after_bind_of_ok (after_pure log ()), compileLabels_strict_of_dropped_nil hresult hdropped, written,
          List.append_nil]
        rfl
      | cons clause rest =>
        rw [after_bind_of_error (after_forM_strict clause rest log), compileLabels_strict_of_dropped hresult hdropped]
        rfl

theorem after_kindsLogged (type : ObjectType) (kind : String) (log : List Log.Record) :
    after log (kindsLogged type kind) = (.ok [], log ++ kindWarning type kind) := by
  have hkinds : (kindResult kind).filters = [] := compileKinds_eq_nil kind
  have hsupported : (kindResult kind).supported = false := rfl
  rw [kindsLogged, kindWarning]
  simp only [hkinds, hsupported, Bool.not_false, Bool.true_and]
  cases type.takesKinds with
  | true =>
    cases (kindResult kind).dropped.isEmpty with
    | true => exact congrArg (Prod.mk _) (List.append_nil log).symm
    | false => rfl
  | false =>
    by_cases hblank : trimmed kind = ""
    · rw [if_neg (by simp), if_neg (not_not_intro hblank), if_neg (by simp), if_pos hblank, List.append_nil]
      rfl
    · rw [if_neg (by simp), if_pos hblank, if_neg (by simp), if_neg hblank]
      rfl

/-- A query that is written down while it is compiled leaves in the log what is said about it. -/
theorem after_compileLogged (type : ObjectType) (label kind : String) (strict : Bool) (log : List Log.Record) :
    after log (compileLogged type label kind strict) = written log (compile type label kind strict) := by
  rw [compileLogged, compile_eq]
  have hlabels := after_labelsLogged label strict log
  cases hcompiled : compileLabels label strict with
  | error e =>
    rw [hcompiled] at hlabels
    exact after_bind_of_error hlabels _
  | ok compiled =>
    obtain ⟨filters, records⟩ := compiled
    rw [hcompiled] at hlabels
    rw [after_bind_of_ok hlabels, after_bind_of_ok (after_kindsLogged type kind _), List.append_assoc]
    rfl

/-! ## Any two kind queries -/

/-- The warning that a kind query has written, if it has one written. -/
inductive Warns (type : ObjectType) (kind : String) : List Log.Record → Prop where
  /-- Kinds and relations could have kinds asked for, and something is asked. -/
  | unsupported : type = .kind ∨ type = .relation → (∃ clause ∈ splitClauses kind, clause ≠ "") →
      Warns type kind [{ level := Log.warningLevel, logger := loggerName
                         message := "Kind filters are not supported yet; ignoring " ++ quoted kind }]
  | nothing : type = .kind ∨ type = .relation → (∀ clause ∈ splitClauses kind, clause = "") → Warns type kind []
  /-- For other objects a query need not be cut into clauses to be out of place. -/
  | misplaced : ¬(type = .kind ∨ type = .relation) → trimmed kind ≠ "" →
      Warns type kind [{ level := Log.warningLevel, logger := loggerName
                         message := "Kind filters only apply to relations and kinds; ignoring " ++ quoted kind }]
  | blank : ¬(type = .kind ∨ type = .relation) → trimmed kind = "" → Warns type kind []

theorem takesKinds_iff (type : ObjectType) : type.takesKinds = true ↔ type = .kind ∨ type = .relation := by
  cases type <;> decide

theorem warns_kindWarning (type : ObjectType) (kind : String) : Warns type kind (kindWarning type kind) := by
  rw [kindWarning, dropped_kindResult]
  by_cases htype : type.takesKinds = true
  · rw [if_pos htype]
    by_cases hempty : ∀ clause ∈ splitClauses kind, clause = ""
    · rw [if_pos (by simpa using hempty)]
      exact .nothing ((takesKinds_iff type).1 htype) hempty
    · rw [if_neg (by simpa using hempty)]
      exact .unsupported ((takesKinds_iff type).1 htype) (by simpa using hempty)
  · rw [if_neg htype]
    by_cases hblank : trimmed kind = ""
    · rw [if_pos hblank]
      exact .blank (mt (takesKinds_iff type).2 htype) hblank
    · rw [if_neg hblank]
      exact .misplaced (mt (takesKinds_iff type).2 htype) hblank

/-- Kind queries play no part in what a query compiles to, and the log says what was left out. -/
structure IgnoresKinds (type : ObjectType) (label : String) (strict : Bool) : Prop where
  /-- With any two kind queries there are the same filters or the same failure. -/
  same : ∀ kind kind', (compile type label kind strict).map Prod.fst = (compile type label kind' strict).map Prod.fst
  no_kinds : ∀ kind filters records, compile type label kind strict = .ok (filters, records) → filters.kinds = []
  /-- The query is refused for its labels alone. -/
  refused_iff : ∀ kind e, compile type label kind strict = .error e ↔ compileLabels label strict = .error e
  /-- The records are those of the dropped clauses, in their order, and the warning behind them. -/
  recorded : ∀ kind filters records, compile type label kind strict = .ok (filters, records) →
    ∃ result warning, labelResult label = .ok result ∧ Warns type kind warning ∧
      records = result.dropped.map droppedRecord ++ warning
  /-- These are what is written while the query is compiled. -/
  logged : ∀ kind filters records log, compile type label kind strict = .ok (filters, records) →
    after log (compileLogged type label kind strict) = (.ok filters, log ++ records)
  /-- Nothing is written about a query that is refused. -/
  silent : ∀ kind e log, compile type label kind strict = .error e → after log (compileLogged type label kind strict) = (.error e, log)

/-- What is recorded of labels that compile are the clauses that they drop. -/
theorem records_of_compileLabels {label : String} {strict : Bool} {filters : List Filter} {records : List Log.Record}
    (h : compileLabels label strict = .ok (filters, records)) :
    ∃ result, labelResult label = .ok result ∧ records = result.dropped.map droppedRecord := by
  cases hresult : labelResult label with
  | error e =>
    rw [compileLabels_of_error hresult] at h
    cases h
  | ok result =>
    refine ⟨result, rfl, ?_⟩
    cases strict with
    | false =>
      rw [compileLabels_lenient hresult] at h
      cases h
      rfl
    | true =>
      obtain ⟨result', hresult', hdropped, -, rfl⟩ := exists_of_compileLabels_strict h
      obtain rfl : result = result' := Except.ok.inj (hresult.symm.trans hresult')
      rw [hdropped]
      rfl

/-- The filters are those of the labels. -/
theorem map_fst_compile (type : ObjectType) (label kind : String) (strict : Bool) :
    (compile type label kind strict).map Prod.fst = (compileLabels label strict).map fun compiled => ⟨compiled.1, []⟩ := by
  rw [compile_eq]
  cases compileLabels label strict <;> simp only [Except.map]

/-- Whatever stands in a kind query, the filters and the failures are those of the labels, and the log tells all that is left out. -/
theorem compile_ignoresKinds (type : ObjectType) (label : String) (strict : Bool) : IgnoresKinds type label strict where
  same kind kind' := by rw [map_fst_compile, map_fst_compile]
  no_kinds kind filters records h := by
    rw [compile_eq] at h
    obtain ⟨labels, -, h⟩ := ok_map h
    cases h
    rfl
  refused_iff kind e := by
    rw [compile_eq]
    cases compileLabels label strict <;> simp [Except.map]
  recorded kind filters records h := by
    rw [compile_eq] at h
    obtain ⟨⟨labels, dropped⟩, hlabels, h⟩ := ok_map h
    cases h
    obtain ⟨result, hresult, rfl⟩ := records_of_compileLabels hlabels
    exact ⟨result, kindWarning type kind, hresult, warns_kindWarning type kind, rfl⟩
  logged kind filters records log h := by
    rw [after_compileLogged, h]
    rfl
  silent kind e log h := by
    rw [after_compileLogged, h]
    rfl

end RanConsole.Query

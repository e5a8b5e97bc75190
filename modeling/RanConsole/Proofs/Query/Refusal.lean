import RanConsole.Proofs.Query.Compilation
import RanConsole.Proofs.Query.Sides

/-!
# Lists that are refused

A clause is refused only for its list: it holds the token of a list operator, and behind its first opening parenthesis there is no
closing one, or only blanks stand in front of it (`compileLabel_eq_error_iff`). So these are the only failures of a label query that
is not strict (`labelResult_isRefused_iff`).
-/

namespace RanConsole.Query

/-- A clause with the token of a list operator somewhere in it. -/
def HoldsList (clause : String) : Prop :=
  ∃ op : Operator, op.takesList = true ∧ op.token <:+: clause.toList

/-- What can be wrong with the list of a clause, and how it is reported. -/
inductive ListFault (clause : String) : FilterError → Prop where
  | unclosed {k v : List Char} :
      clause.toList = k ++ '(' :: v → '(' ∉ k → ')' ∉ v → ListFault clause (.unclosedList clause)
  | empty {k body rest : List Char} :
      clause.toList = k ++ '(' :: (body ++ ')' :: rest) → '(' ∉ k → Text.isBlankText body = true →
        ListFault clause (.emptyList clause)

/-- A clause whose list cannot be read. -/
def Malformed (clause : String) : Prop :=
  HoldsList clause ∧ ∃ e, ListFault clause e

/-- The lists are looked for first, so a clause that holds the token of a list has a list operator. -/
theorem holdsList_iff (clause : String) :
    HoldsList clause ↔ ∃ op, classify clause = some op ∧ op.takesList = true := by
  constructor
  · rintro ⟨op, hlist, hin⟩
    cases hnot : Text.occursIn Operator.notAmong.token clause.toList with
    | true => exact ⟨.notAmong, (classify_eq_some_iff _ _).2 ⟨hnot, by simp [Operator.earlier]⟩, rfl⟩
    | false =>
      have hoc := (Text.occursIn_iff _ _).2 hin
      cases op with
      | notAmong => exact absurd hoc (by simp [hnot])
      | among => exact ⟨.among, (classify_eq_some_iff _ _).2 ⟨hoc, by simpa [Operator.earlier] using hnot⟩, rfl⟩
      | notEqual | equal => cases hlist
  · rintro ⟨op, hop, hlist⟩
    exact ⟨op, hlist, (Text.occursIn_iff _ _).1 ((classify_eq_some_iff _ _).1 hop).1⟩

/-- A clause that holds the token of a list has a first opening parenthesis. -/
theorem HoldsList.exists_paren {clause : String} (h : HoldsList clause) :
    ∃ k v, clause.toList = k ++ '(' :: v ∧ '(' ∉ k := by
  obtain ⟨op, hlist, hin⟩ := h
  have hmark : '(' ∈ op.token := by simp [op.token_eq, Operator.mark, hlist]
  exact List.eq_append_cons_of_mem (hin.subset hmark)

/-- Reading the values of a list fails just for the fault of the list. -/
theorem valuesOf_eq_error_iff {clause : String} (h : HoldsList clause) (e : FilterError) :
    valuesOf clause = .error e ↔ ListFault clause e := by
  constructor
  · intro hvalues
    obtain ⟨k, v, hshape, hk⟩ := h.exists_paren
    rw [valuesOf_of_toList_eq hshape hk] at hvalues
    cases hcut : Text.cut? [')'] v with
    | none =>
      obtain rfl : FilterError.unclosedList clause = e := by simpa [hcut] using hvalues
      exact .unclosed hshape hk ((Text.cut?_char_eq_none_iff ')' v).1 hcut)
    | some found =>
      obtain ⟨body, rest⟩ := found
      obtain ⟨rfl, -⟩ := (Text.cut?_char_eq_some_iff ')' v body rest).1 hcut
      cases hblank : Text.isBlankText body with
      | true =>
        obtain rfl : FilterError.emptyList clause = e := by simpa [hcut, hblank] using hvalues
        exact .empty hshape hk hblank
      | false => simp [hcut, hblank] at hvalues
  · intro hfault
    cases hfault with
    | unclosed hshape hk hv => rw [valuesOf_of_toList_eq hshape hk, (Text.cut?_char_eq_none_iff ')' _).2 hv]
    | @empty k body rest hshape hk hblank =>
      have hcut := (Text.cut?_char_eq_some_iff ')' _ body rest).2 ⟨rfl, (noParens_of_isBlankText hblank).2⟩
      simp [valuesOf_of_toList_eq hshape hk, hcut, hblank]

/-- A clause is refused just for the fault of its list. -/
theorem compileLabel_eq_error_iff (clause : String) (e : FilterError) :
    compileLabel clause = .error e ↔ HoldsList clause ∧ ListFault clause e := by
  constructor
  · intro h
    cases hop : classify clause with
    | none =>
      rw [compileLabel, hop] at h
      cases h
    | some op =>
      rw [compileLabel_of_classify hop, valuesFor] at h
      cases hlist : op.takesList with
      | false =>
        rw [hlist] at h
        cases h
      | true =>
        have hholds := (holdsList_iff clause).2 ⟨op, hop, hlist⟩
        refine ⟨hholds, (valuesOf_eq_error_iff hholds e).1 ?_⟩
        rw [hlist, if_pos rfl] at h
        cases hvalues : valuesOf clause with
        | error e' =>
          rw [hvalues] at h
          cases h
          rfl
        | ok values =>
          rw [hvalues] at h
          cases h
  · rintro ⟨hholds, hfault⟩
    obtain ⟨op, hop, hlist⟩ := (holdsList_iff clause).1 hholds
    rw [compileLabel_of_classify hop, valuesFor, if_pos hlist, (valuesOf_eq_error_iff hholds e).2 hfault]
    rfl

/-- A clause compiles just when it is not malformed. -/
theorem exists_compileLabel_iff (clause : String) : (∃ filter, compileLabel clause = .ok filter) ↔ ¬Malformed clause := by
  have herror : (∃ e, compileLabel clause = .error e) ↔ Malformed clause := by
    simp only [compileLabel_eq_error_iff, exists_and_left, Malformed]
  rw [← herror]
  cases compileLabel clause <;> simp

/-- A label query is refused for the first list in it that cannot be read, whatever other clauses stand in front of that. -/
theorem labelResult_eq_error_iff (query : String) (e : FilterError) :
    labelResult query = .error e ↔
      ∃ earlier clause later, splitClauses query = earlier ++ clause :: later ∧ (∀ c ∈ earlier, ¬Malformed c) ∧
        HoldsList clause ∧ ListFault clause e := by
  rw [labelResult, compileClauses_eq_error_iff]
  simp only [exists_compileLabel_iff, compileLabel_eq_error_iff]

/-- What a label query is refused for is the fault of a list in it. -/
theorem exists_listFault_of_labelResult {query : String} {e : FilterError} (h : labelResult query = .error e) :
    ∃ clause ∈ splitClauses query, HoldsList clause ∧ ListFault clause e := by
  obtain ⟨clause, hmem, hclause⟩ := exists_refused_of_compileClauses h
  exact ⟨clause, hmem, (compileLabel_eq_error_iff clause e).1 hclause⟩

/-- A label query is refused just when the list of one of its clauses cannot be read. -/
theorem labelResult_isRefused_iff (query : String) :
    (∃ e, labelResult query = .error e) ↔ ∃ clause ∈ splitClauses query, Malformed clause := by
  rw [labelResult, compileClauses_isRefused_iff]
  simp only [compileLabel_eq_error_iff, exists_and_left, Malformed]

end RanConsole.Query

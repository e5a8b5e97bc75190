import RanConsole.Proofs.Query.Agreement

/-!
# What becomes of the clauses of a query

A label query is refused for the first of its clauses whose list cannot be read, and for nothing else. If it is not refused, each of
its clauses that are not empty is compiled or dropped, and it is dropped just when it holds neither an equals sign nor the token of a
list (`labelResult_isAccountedFor`).
-/

namespace RanConsole.Query

/-! ## Clauses without an operator -/

theorem holdsList_iff_infix_token (clause : String) :
    HoldsList clause ↔ " in (".toList <:+: clause.toList ∨ " !in (".toList <:+: clause.toList := by
  constructor
  · rintro ⟨op, hlist, hin⟩
    cases op with
    | notAmong => exact Or.inr hin
    | among => exact Or.inl hin
    | notEqual | equal => cases hlist
  · rintro (hin | hin)
    · exact ⟨.among, rfl, hin⟩
    · exact ⟨.notAmong, rfl, hin⟩

instance (clause : String) : Decidable (HoldsList clause) :=
  decidable_of_iff _ (holdsList_iff_infix_token clause).symm

/-- A clause has no operator just when it holds no equals sign, which stands in `!=` as well, and no token of a list. -/
theorem classify_eq_none_iff (clause : String) : classify clause = none ↔ '=' ∉ clause.toList ∧ ¬HoldsList clause := by
  constructor
  · intro h
    have hnone : ∀ op : Operator, ¬op.token <:+: clause.toList := by
      intro op hin
      have hop : op ∈ Operator.inOrder := by cases op <;> decide
      exact List.find?_eq_none.1 h op hop ((Text.occursIn_iff _ _).2 hin)
    refine ⟨fun hmem => hnone .equal ((List.singleton_infix_iff _ _).2 hmem), ?_⟩
    rintro ⟨op, -, hin⟩
    exact hnone op hin
  · rintro ⟨hequal, hlist⟩
    refine List.find?_eq_none.2 fun op _ => ?_
    rw [Text.occursIn_iff]
    intro hin
    cases op with
    | notAmong => exact hlist ⟨.notAmong, rfl, hin⟩
    | among => exact hlist ⟨.among, rfl, hin⟩
    | notEqual | equal => exact hequal (hin.subset (by decide))

/-- The filters of a list of clauses are those of the clauses with an operator, in their order. -/
theorem filters_of_compileClauses {cs : List String} {result : Compilation} (h : compileClauses compileLabel cs = .ok result) :
    result.filters.map (fun f => .ok (some f)) = (cs.filter fun c => (classify c).isSome).map compileLabel := by
  induction cs generalizing result with
  | nil =>
    cases h
    rfl
  | cons c cs ih =>
    obtain ⟨filter, rest, hc, hcs, rfl⟩ := compileClauses_cons_eq_ok_iff.1 h
    cases filter with
    | some f =>
      have hop : (classify c).isSome = true := by
        obtain ⟨op, values, hop, -, -⟩ := exists_values_of_compileLabel hc
        rw [hop]
        rfl
      rw [List.filter_cons, if_pos hop, List.map_cons, hc, ← ih hcs]
      rfl
    | none =>
      have hop : classify c = none := (compileLabel_eq_none_iff c).1 hc
      rw [List.filter_cons_of_neg (by simp [hop]), ← ih hcs, Compilation.add]
      split <;> rfl

/-- Each clause that is not empty is compiled or dropped, and none is both. -/
theorem length_of_compileClauses {cs : List String} {result : Compilation} (h : compileClauses compileLabel cs = .ok result) :
    result.filters.length + result.dropped.length = (cs.filter (· ≠ "")).length := by
  have hfilters := congrArg List.length (filters_of_compileClauses h)
  rw [List.length_map, List.length_map] at hfilters
  have hcompiled : (cs.filter (· ≠ "")).filter (fun c => (classify c).isSome) = cs.filter fun c => (classify c).isSome := by
    rw [List.filter_filter]
    refine List.filter_congr fun c _ => ?_
    by_cases hempty : c = ""
    · subst hempty
      rfl
    · simp [hempty]
  have hdropped : (cs.filter (· ≠ "")).filter (fun c => !(classify c).isSome) = result.dropped := by
    rw [dropped_of_compileClauses h, List.filter_filter]
    refine List.filter_congr fun c _ => ?_
    cases classify c <;> simp
  calc result.filters.length + result.dropped.length
      = ((cs.filter (· ≠ "")).filter fun c => (classify c).isSome).length +
          ((cs.filter (· ≠ "")).filter fun c => !(classify c).isSome).length := by rw [hfilters, hcompiled, hdropped]
    _ = (cs.filter (· ≠ "")).length := (List.length_eq_length_filter_add _).symm

/-! ## Lists that cannot be read -/

/-- Behind the first opening parenthesis of a clause stands no closing one. -/
def LacksClosing (clause : String) : Prop :=
  ∃ front back, clause.toList = front ++ '(' :: back ∧ '(' ∉ front ∧ ')' ∉ back

/-- Between the first opening parenthesis of a clause and the first closing one behind it stand only blanks. -/
def HasBlankList (clause : String) : Prop :=
  ∃ front body back, clause.toList = front ++ '(' :: (body ++ ')' :: back) ∧ '(' ∉ front ∧ Text.isBlankText body = true

theorem malformed_iff (clause : String) : Malformed clause ↔ HoldsList clause ∧ (LacksClosing clause ∨ HasBlankList clause) := by
  refine and_congr_right fun _ => ?_
  constructor
  · rintro ⟨e, hfault⟩
    cases hfault with
    | unclosed hshape hfront hback => exact Or.inl ⟨_, _, hshape, hfront, hback⟩
    | empty hshape hfront hblank => exact Or.inr ⟨_, _, _, hshape, hfront, hblank⟩
  · rintro (⟨front, back, hshape, hfront, hback⟩ | ⟨front, body, back, hshape, hfront, hblank⟩)
    · exact ⟨_, .unclosed hshape hfront hback⟩
    · exact ⟨_, .empty hshape hfront hblank⟩

/-- A list that is not closed is not blank. -/
theorem not_hasBlankList_of_lacksClosing {clause : String} (h : LacksClosing clause) : ¬HasBlankList clause := by
  obtain ⟨front, back, hshape, hfront, hback⟩ := h
  rintro ⟨front', body, back', hshape', hfront', -⟩
  obtain ⟨-, rfl⟩ := Text.append_cons_inj_of_first hfront hfront' (hshape.symm.trans hshape')
  exact hback (by simp)

/-- The program reports of a clause what is wrong with its list. -/
structure Reports (clause : String) (f : Failure) : Prop where
  unclosed : LacksClosing clause → f = .filter { message := "Missing ')' in value list" } (some clause)
  blank : HasBlankList clause → f = .filter { message := "Empty value list" } (some clause)

theorem ListFault.reports {clause : String} {e : FilterError} (h : ListFault clause e) : Reports clause e.failure := by
  cases h with
  | unclosed hshape hfront hback =>
    have hlacks : LacksClosing clause := ⟨_, _, hshape, hfront, hback⟩
    exact ⟨fun _ => rfl, fun hblank => absurd hblank (not_hasBlankList_of_lacksClosing hlacks)⟩
  | empty hshape hfront hblank =>
    have hlist : HasBlankList clause := ⟨_, _, _, hshape, hfront, hblank⟩
    exact ⟨fun hlacks => absurd hlist (not_hasBlankList_of_lacksClosing hlacks), fun _ => rfl⟩

/-! ## All clauses -/

/-- A kind query drops all its clauses that are not empty. -/
theorem dropped_kindResult (query : String) : (kindResult query).dropped = (splitClauses query).filter (· ≠ "") := by
  refine List.filter_congr fun c _ => ?_
  simp [compileKind]

/-- What becomes of each clause of a label query. -/
structure IsAccountedFor (query : String) : Prop where
  /-- The query is refused just when the list of one of its clauses cannot be read. -/
  refused_iff : (∃ e, labelResult query = .error e) ↔
    ∃ clause ∈ splitClauses query, HoldsList clause ∧ (LacksClosing clause ∨ HasBlankList clause)
  /-- It is refused for the first such clause and for what is wrong with its list. -/
  refused : ∀ e, labelResult query = .error e → ∃ earlier clause later,
    splitClauses query = earlier ++ clause :: later ∧
      (∀ c ∈ earlier, ¬(HoldsList c ∧ (LacksClosing c ∨ HasBlankList c))) ∧
      (HoldsList clause ∧ (LacksClosing clause ∨ HasBlankList clause)) ∧ Reports clause e.failure
  /-- The filters are those of the clauses with an operator, in their order. -/
  compiled : ∀ result, labelResult query = .ok result →
    result.filters.map (fun f => .ok (some f)) = ((splitClauses query).filter fun c => (classify c).isSome).map compileLabel
  /-- The dropped clauses are, in their order, those that hold neither an equals sign nor the token of a list. -/
  dropped : ∀ result, labelResult query = .ok result →
    result.dropped = (splitClauses query).filter fun c => c ≠ "" ∧ '=' ∉ c.toList ∧ ¬HoldsList c
  /-- Together they are as many as the clauses that are not empty. -/
  counted : ∀ result, labelResult query = .ok result →
    result.filters.length + result.dropped.length = ((splitClauses query).filter (· ≠ "")).length
  /-- As a kind query it drops all clauses that are not empty, among them those that it drops as a label query. -/
  kinds : (kindResult query).dropped = (splitClauses query).filter (· ≠ "") ∧
    ∀ result, labelResult query = .ok result → result.dropped.Sublist (kindResult query).dropped

/-- Every label query accounts for each of its clauses: it is refused for the first one whose list cannot be read, or each that is not
empty is compiled or dropped. -/
theorem labelResult_isAccountedFor (query : String) : IsAccountedFor query where
  refused_iff := by simpa only [malformed_iff] using labelResult_isRefused_iff query
  refused e h := by
    obtain ⟨earlier, clause, later, hsplit, hearlier, hlist, hfault⟩ := (labelResult_eq_error_iff query e).1 h
    exact ⟨earlier, clause, later, hsplit, fun c hc => mt (malformed_iff c).2 (hearlier c hc),
      (malformed_iff clause).1 ⟨hlist, e, hfault⟩, hfault.reports⟩
  compiled _ := filters_of_compileClauses
  dropped result h := by
    rw [dropped_of_compileClauses h]
    simp only [classify_eq_none_iff]
  counted _ := length_of_compileClauses
  kinds := by
    refine ⟨dropped_kindResult query, fun result h => ?_⟩
    rw [dropped_of_compileClauses h, dropped_kindResult]
    refine List.monotone_filter_right _ fun c hc => ?_
    simp only [decide_eq_true_eq] at hc ⊢
    exact hc.1

example : labelResult "a=1, zone, b in ( ), c in (" = .error (.emptyList "b in ( )") := by decide

end RanConsole.Query

import RanConsole.Proofs.Query.Refusal

/-!
# What strict queries keep

A strict query has a filter for every clause that is not empty. Of a list clause the filter holds what stands up to the first closing
parenthesis; what stands behind that is neither read nor refused (`compileLabels_strict_lists`). So a strict query keeps all that was
typed only if its list clauses end with their lists.
-/

namespace RanConsole.Query

/-- The clause ends with the first closing parenthesis behind its first opening one. -/
def EndsWithList (clause : String) : Prop :=
  ∃ front body, clause.toList = front ++ '(' :: (body ++ [')']) ∧ '(' ∉ front ∧ ')' ∉ body

/-- How a list clause is read: up to the end of its list, with a rest behind it. -/
structure ListReading (clause : String) (op : Operator) (front body rest : List Char) : Prop where
  shape : clause.toList = front ++ '(' :: (body ++ ')' :: rest)
  first_open : '(' ∉ front
  first_closed : ')' ∉ body
  compiled : compileLabel clause =
    .ok (buildFilter op (keyOf op clause) ((body.splitOn ',').map fun v => String.ofList (Text.trim v)))
  /-- Where the token ends with the first opening parenthesis, the clause has the same filter without the rest. -/
  discarded : op.stem <:+ front →
    compileLabel (String.ofList (front ++ '(' :: (body ++ [')']))) = compileLabel clause

/-- The rest of a list clause is blank just when there is none. -/
theorem ListReading.isBlankText_rest_iff {clause : String} {op : Operator} {front body rest : List Char}
    (h : ListReading clause op front body rest) (htrim : Text.trim clause.toList = clause.toList) :
    Text.isBlankText rest = true ↔ EndsWithList clause := by
  constructor
  · intro hblank
    have hshape : clause.toList = (front ++ '(' :: (body ++ [')'])) ++ rest := by simp [h.shape]
    obtain rfl : rest = [] := Text.eq_nil_of_trim_append_eq_self hblank (hshape ▸ htrim)
    exact ⟨front, body, h.shape, h.first_open, h.first_closed⟩
  · rintro ⟨front', body', hshape, hopen, hclosed⟩
    obtain ⟨rfl, hlist⟩ := Text.append_cons_inj_of_first h.first_open hopen (h.shape.symm.trans hshape)
    obtain ⟨-, rfl⟩ := Text.append_cons_inj_of_first h.first_closed hclosed hlist
    rfl

/-- What stands behind a list has no part in its filter. -/
theorem compileLabel_without_rest {op : Operator} (hlist : op.takesList = true) {k body : List Char} (hk : '(' ∉ k)
    (hbody : ')' ∉ body) (hblank : Text.isBlankText body = false) {rest : List Char}
    (hop : classify (String.ofList (k ++ op.token ++ (body ++ ')' :: rest))) = some op) :
    compileLabel (String.ofList (k ++ op.token ++ (body ++ [')']))) =
      compileLabel (String.ofList (k ++ op.token ++ (body ++ ')' :: rest))) := by
  have hmark : op.mark ∉ k := by rwa [Operator.mark, if_pos hlist]
  have hshort : classify (String.ofList (k ++ op.token ++ (body ++ [')']))) = some op := by
    rw [classify_eq_some_iff] at hop ⊢
    rw [String.toList_ofList] at hop ⊢
    refine ⟨Operator.occursIn_self op k _, fun op' hop' => ?_⟩
    rw [← Bool.not_eq_true, Text.occursIn_iff]
    intro hin
    have hprefix : k ++ op.token ++ (body ++ [')']) <+: k ++ op.token ++ (body ++ ')' :: rest) := ⟨rest, by simp⟩
    have hlong := (Text.occursIn_iff _ _).2 (hin.trans hprefix.isInfix)
    rw [hop.2 op' hop'] at hlong
    cases hlong
  rw [compileLabel_of_classify hshort, compileLabel_of_classify hop, valuesFor, valuesFor, if_pos hlist, if_pos hlist,
    keyOf_token hmark, keyOf_token hmark, valuesOf_token hlist hmark hbody hblank, valuesOf_token hlist hmark hbody hblank]

/-- A list clause that compiles has a list that is closed. -/
theorem exists_listReading {clause : String} {op : Operator} {f : Filter} (hop : classify clause = some op)
    (hlist : op.takesList = true) (h : compileLabel clause = .ok (some f)) :
    ∃ front body rest, ListReading clause op front body rest := by
  obtain ⟨op', values, hop', hvalues, hbuilt⟩ := exists_values_of_compileLabel h
  obtain rfl : op = op' := Option.some.inj (hop.symm.trans hop')
  rw [valuesFor, if_pos hlist] at hvalues
  obtain ⟨front, v, hshape, hfront⟩ := ((holdsList_iff clause).2 ⟨op, hop, hlist⟩).exists_paren
  obtain ⟨body, rest, rfl, hbody, hblank, rfl⟩ := (valuesOf_eq_ok_iff hshape hfront values).1 hvalues
  refine ⟨front, body, rest,
    { shape := hshape, first_open := hfront, first_closed := hbody, compiled := by rw [h, hbuilt], discarded := ?_ }⟩
  rintro ⟨k, rfl⟩
  have htoken : ∀ t, (k ++ op.stem) ++ '(' :: t = k ++ op.token ++ t := by
    intro t
    simp [op.token_eq, Operator.mark, hlist]
  have hclause : clause = String.ofList (k ++ op.token ++ (body ++ ')' :: rest)) := by
    rw [← htoken, ← hshape, String.ofList_toList]
  rw [htoken, hclause]
  refine compileLabel_without_rest hlist (fun hm => hfront (List.mem_append_left _ hm)) hbody hblank ?_
  rw [← hclause, hop]

/-- A strict query that is accepted has one filter for each clause that is not empty, in their order. Of a list clause everything
behind the first closing parenthesis that follows its first opening one is left out, and this is nothing but blanks just when the
clause ends with that parenthesis. -/
theorem compileLabels_strict_lists {query : String} {filters : List Filter} {records : List Log.Record}
    (h : compileLabels query true = .ok (filters, records)) :
    ((splitClauses query).filter (· ≠ "")).map compileLabel = filters.map (fun f => .ok (some f)) ∧
      ∀ clause ∈ splitClauses query, ∀ op, classify clause = some op → op.takesList = true →
        ∃ front body rest, ListReading clause op front body rest ∧
          (Text.isBlankText rest = true ↔ EndsWithList clause) := by
  obtain ⟨hfilters, -⟩ := (compileLabels_strict_eq_ok_iff query filters records).1 h
  refine ⟨hfilters, ?_⟩
  intro clause hmem op hop hlist
  have hne : clause ≠ "" := by
    rintro rfl
    cases hop
  have hcompiled : compileLabel clause ∈ filters.map (fun f => Except.ok (some f)) := by
    rw [← hfilters]
    exact List.mem_map_of_mem (List.mem_filter.2 ⟨hmem, by simpa using hne⟩)
  obtain ⟨f, -, hf⟩ := List.mem_map.1 hcompiled
  obtain ⟨front, body, rest, hreading⟩ := exists_listReading hop hlist hf.symm
  exact ⟨front, body, rest, hreading, hreading.isBlankText_rest_iff (trim_clause hmem)⟩

/-- A forgotten comma: the second constraint is the rest of the first clause. The other list ends its clause. -/
theorem compileLabels_strict_lists_forgottenComma :
    compileLabels "a in (1) b=2, c !in (x, y)" true =
        .ok ([⟨"a", .among ["1"]⟩, ⟨"c", .negation "" (.among ["x", "y"])⟩], []) ∧
      ListReading "a in (1) b=2" .among "a in ".toList ['1'] " b=2".toList := by
  have h : compileLabels "a in (1) b=2, c !in (x, y)" true =
      .ok ([⟨"a", .among ["1"]⟩, ⟨"c", .negation "" (.among ["x", "y"])⟩], []) := rfl
  obtain ⟨-, hlists⟩ := compileLabels_strict_lists h
  obtain ⟨front, body, rest, hreading, -⟩ := hlists "a in (1) b=2" (by decide) .among (by decide) rfl
  have hshape : "a in (1) b=2".toList = "a in ".toList ++ '(' :: (['1'] ++ ')' :: " b=2".toList) := rfl
  obtain ⟨rfl, hlist⟩ :=
    Text.append_cons_inj_of_first hreading.first_open (by decide) (hreading.shape.symm.trans hshape)
  obtain ⟨rfl, rfl⟩ := Text.append_cons_inj_of_first hreading.first_closed (by decide) hlist
  exact ⟨h, hreading⟩

/-- A strict query is accepted although its one clause goes on behind the list. -/
theorem compileLabels_strict_lists_false :
    compileLabels "a in (1) b=2" true = .ok ([⟨"a", .among ["1"]⟩], []) ∧
      splitClauses "a in (1) b=2" = ["a in (1) b=2"] ∧
      ¬∀ front body rest : List Char, "a in (1) b=2".toList = front ++ '(' :: (body ++ ')' :: rest) → '(' ∉ front →
        ')' ∉ body → Text.isBlankText rest = true := by
  refine ⟨rfl, by decide, fun h => ?_⟩
  exact absurd (h "a in ".toList ['1'] " b=2".toList rfl (by decide) (by decide)) (by decide)

end RanConsole.Query

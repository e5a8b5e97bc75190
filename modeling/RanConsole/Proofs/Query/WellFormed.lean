import RanConsole.Proofs.Query.Accounting

/-!
# Filters that queries compile to

Every filter of a label query is well formed (`isWellFormed_of_labelResult`): it is an equality or a list, at most once negated, its
texts are trimmed, a list names a key and holds values, and the marks that were read as operators stand in none of its texts. That a
list names a key is due to the clause: it is trimmed, so that something has to stand in front of a token that begins with a space.
-/

namespace RanConsole.Query

/-- Values that can be read of a list. -/
structure IsValueList (values : List String) : Prop where
  ne_nil : values ≠ []
  ne_empty : values ≠ [""]
  trimmed_eq : ∀ v ∈ values, trimmed v = v
  plain : ∀ v ∈ values, ',' ∉ v.toList ∧ ')' ∉ v.toList

/-- A filter of one of the four forms of clauses. -/
inductive Filter.IsWellFormed : Filter → Prop where
  | equal {key value : String} (hKey : trimmed key = key) (hValue : trimmed value = value) (hEqual : '=' ∉ key.toList)
      (hNotKey : ¬['!', '='] <:+: key.toList) (hNotValue : ¬['!', '='] <:+: value.toList) : IsWellFormed ⟨key, .equal value⟩
  | notEqual {key value : String} (hKey : trimmed key = key) (hValue : trimmed value = value)
      (hNotKey : ¬['!', '='] <:+: key.toList) : IsWellFormed ⟨key, .negation "" (.equal value)⟩
  | among {key : String} {values : List String} (hKey : trimmed key = key) (hNonempty : key ≠ "") (hValues : IsValueList values) :
      IsWellFormed ⟨key, .among values⟩
  | notAmong {key : String} {values : List String} (hKey : trimmed key = key) (hNonempty : key ≠ "")
      (hValues : IsValueList values) : IsWellFormed ⟨key, .negation "" (.among values)⟩

/-! ## Keys -/

theorem trimmed_keyOf (op : Operator) (clause : String) : trimmed (keyOf op clause) = keyOf op clause :=
  trimmed_ofList_trim _

theorem trimmed_valueOf (clause : String) : trimmed (valueOf clause) = valueOf clause :=
  trimmed_ofList_trim _

/-- The token of the operator does not occur in the key. -/
theorem token_not_infix_keyOf {op : Operator} {clause : String} (h : classify clause = some op) :
    ¬op.token <:+: (keyOf op clause).toList := by
  obtain ⟨front, back, hcut⟩ := exists_cut_of_classify h
  rw [keyOf_of_cut? hcut, String.toList_ofList]
  intro hin
  exact Text.not_infix_of_cut? (by cases op <;> decide) hcut (hin.trans (Text.trim_infix_self front))

/-- The key is a part of the clause. -/
theorem keyOf_infix_clause {op : Operator} {clause : String} (h : classify clause = some op) :
    (keyOf op clause).toList <:+: clause.toList := by
  obtain ⟨front, back, hcut⟩ := exists_cut_of_classify h
  have hfront : front <:+: clause.toList := ⟨[], op.token ++ back, by rw [Text.eq_append_of_cut? hcut]; simp⟩
  rw [keyOf_of_cut? hcut, String.toList_ofList]
  exact (Text.trim_infix_self front).trans hfront

/-- In front of the token of a list in a trimmed clause stands something: the token begins with a space. -/
theorem keyOf_ne_empty {op : Operator} {clause : String} (h : classify clause = some op) (hlist : op.takesList = true)
    (htrim : Text.trim clause.toList = clause.toList) : keyOf op clause ≠ "" := by
  obtain ⟨front, back, hcut⟩ := exists_cut_of_classify h
  rw [keyOf_of_cut? hcut]
  intro hempty
  have hblank : Text.isBlankText front = true := (Text.trim_eq_nil_iff front).1 (String.ofList_eq_empty_iff.1 hempty)
  obtain ⟨rest, htoken⟩ : ∃ rest, op.token = ' ' :: rest := by
    cases op with
    | notAmong | among => exact ⟨_, rfl⟩
    | notEqual | equal => cases hlist
  have hclause := Text.eq_append_of_cut? hcut
  cases front with
  | nil =>
    rw [htoken, List.nil_append, List.cons_append] at hclause
    rw [hclause] at htrim
    exact absurd (Text.not_isBlank_of_trim_eq_self htrim) (by decide)
  | cons c front =>
    rw [List.cons_append, List.cons_append] at hclause
    rw [hclause] at htrim
    have hc := (Text.isBlankText_iff _).1 hblank c (List.mem_cons_self ..)
    exact absurd (Text.not_isBlank_of_trim_eq_self htrim) (by simp [hc])

/-! ## Values -/

/-- The value of an equality is a part of the clause. -/
theorem valueOf_infix_clause (clause : String) : (valueOf clause).toList <:+: clause.toList := by
  have hafter : Text.after ['='] clause.toList <:+: clause.toList := by
    rw [Text.after]
    cases hcut : Text.cut? ['='] clause.toList with
    | none => exact List.nil_infix
    | some found =>
      obtain ⟨front, back⟩ := found
      exact ⟨front ++ ['='], [], by rw [Text.eq_append_of_cut? hcut]; simp⟩
  rw [valueOf, String.toList_ofList]
  exact (Text.trim_infix_self _).trans hafter

/-- The values that are read of a list. -/
theorem isValueList_of_valuesOf {clause : String} (hlist : HoldsList clause) {values : List String}
    (h : valuesOf clause = .ok values) : IsValueList values := by
  obtain ⟨front, back, hshape, hfront⟩ := hlist.exists_paren
  obtain ⟨body, rest, rfl, hclosed, hblank, rfl⟩ := (valuesOf_eq_ok_iff hshape hfront values).1 h
  refine ⟨?_, ?_, ?_, ?_⟩
  · simp
  · -- one value that is empty is all of a body that is blank
    intro hone
    obtain ⟨piece, hpiece, hvalue⟩ := List.map_eq_singleton_iff.1 hone
    have hbody : piece = body := by
      have hjoined : List.intercalate [','] (body.splitOn ',') = body := List.intercalate_splitOn ','
      rwa [hpiece, List.intercalate_singleton] at hjoined
    rw [← hbody, (Text.trim_eq_nil_iff piece).1 (String.ofList_eq_empty_iff.1 hvalue)] at hblank
    cases hblank
  · intro v hv
    obtain ⟨piece, -, rfl⟩ := List.mem_map.1 hv
    exact trimmed_ofList_trim piece
  · intro v hv
    obtain ⟨piece, hpiece, rfl⟩ := List.mem_map.1 hv
    obtain ⟨hcomma, hsub⟩ := Text.of_mem_splitOn hpiece
    have htrim := (Text.trim_infix_self piece).subset
    rw [String.toList_ofList]
    exact ⟨fun hm => hcomma (htrim hm), fun hm => hclosed (hsub (htrim hm))⟩

/-! ## Filters -/

/-- A trimmed clause compiles to a filter that is well formed. -/
theorem isWellFormed_of_compileLabel {clause : String} (htrim : Text.trim clause.toList = clause.toList) {f : Filter}
    (h : compileLabel clause = .ok (some f)) : f.IsWellFormed := by
  obtain ⟨op, values, hop, hvalues, hbuilt⟩ := exists_values_of_compileLabel h
  have hkey := trimmed_keyOf op clause
  have htoken := token_not_infix_keyOf hop
  cases op with
  | equal =>
    obtain rfl : [valueOf clause] = values := Except.ok.inj hvalues
    obtain rfl := Option.some.inj hbuilt
    -- `!=` was looked for first, so it occurs nowhere in the clause
    have hnone : ¬['!', '='] <:+: clause.toList := by
      rw [← Text.occursIn_iff, Bool.not_eq_true]
      exact ((classify_eq_some_iff clause .equal).1 hop).2 .notEqual (by decide)
    refine .equal hkey (trimmed_valueOf clause) (fun hm => htoken ((List.singleton_infix_iff _ _).2 hm)) ?_ ?_
    · exact fun hin => hnone (hin.trans (keyOf_infix_clause hop))
    · exact fun hin => hnone (hin.trans (valueOf_infix_clause clause))
  | notEqual =>
    obtain rfl : [valueOf clause] = values := Except.ok.inj hvalues
    obtain rfl := Option.some.inj hbuilt
    exact .notEqual hkey (trimmed_valueOf clause) htoken
  | among =>
    obtain rfl := Option.some.inj hbuilt
    exact .among hkey (keyOf_ne_empty hop rfl htrim)
      (isValueList_of_valuesOf ((holdsList_iff clause).2 ⟨_, hop, rfl⟩) hvalues)
  | notAmong =>
    obtain rfl := Option.some.inj hbuilt
    exact .notAmong hkey (keyOf_ne_empty hop rfl htrim)
      (isValueList_of_valuesOf ((holdsList_iff clause).2 ⟨_, hop, rfl⟩) hvalues)

/-- The filters of a label query that compiles are well formed. -/
theorem isWellFormed_of_labelResult {query : String} {result : Compilation} (h : labelResult query = .ok result) :
    ∀ f ∈ result.filters, f.IsWellFormed := by
  intro f hf
  have hcompiled : Except.ok (some f) ∈ ((splitClauses query).filter fun c => (classify c).isSome).map compileLabel := by
    rw [← filters_of_compileClauses h]
    exact List.mem_map_of_mem hf
  obtain ⟨clause, hclause, hfilter⟩ := List.mem_map.1 hcompiled
  exact isWellFormed_of_compileLabel (trim_clause (List.mem_filter.1 hclause).1) hfilter

/-- Keys that look like operators, an empty value, and a list whose second value is empty and whose first one holds a parenthesis. -/
theorem isWellFormed_of_labelResult_odd :
    labelResult " in=, !in!==b ,k  in ( (1,) !=2" =
        .ok { filters := [⟨"in", .equal ""⟩, ⟨"!in", .negation "" (.equal "=b")⟩, ⟨"k", .among ["(1", ""]⟩] } ∧
      Filter.IsWellFormed ⟨"k", .among ["(1", ""]⟩ := by
  have h : labelResult " in=, !in!==b ,k  in ( (1,) !=2" =
      .ok { filters := [⟨"in", .equal ""⟩, ⟨"!in", .negation "" (.equal "=b")⟩, ⟨"k", .among ["(1", ""]⟩] } := rfl
  exact ⟨h, isWellFormed_of_labelResult h _ (by decide)⟩

end RanConsole.Query

import RanConsole.Proofs.Query.Pieces

/-!
# The cut at the outer commas

A query has one cut at the commas that stand outside parentheses, and its clauses are the trimmed pieces of this cut
(`splitClauses_isOnlyCut`). Blanks are neither commas nor parentheses, so the trimmed pieces are a cut of what they make up: clauses
that are joined by commas are split into the same clauses.
-/

namespace RanConsole.Query

/-- Trimming brings no comma outside parentheses. -/
theorem HasNoOuterComma.trim {s : List Char} (h : HasNoOuterComma 0 s) : HasNoOuterComma 0 (Text.trim s) := by
  intro front back hshape hdepth
  obtain ⟨w, w', hw, -, hs⟩ := Text.exists_blanks_around s
  refine h (w ++ front) (back ++ w') ?_ ?_
  · rw [hs, hshape]
    simp
  · rw [depthThrough_append, depthThrough_of_noParens (noParens_of_isBlankText hw), hdepth]

/-- The trimmed pieces of a cut are a cut of the text that they make up. -/
theorem IsCut.trim {s : List Char} {ps : List (List Char)} (h : IsCut s ps) :
    IsCut (Text.joinWith [','] (ps.map Text.trim)) (ps.map Text.trim) where
  ne_nil := by simpa using h.ne_nil
  joined := rfl
  no_comma := by
    intro t ht
    obtain ⟨p, hp, rfl⟩ := List.mem_map.1 ht
    exact (h.no_comma p hp).trim
  closed := by
    intro t ht
    rw [← List.map_dropLast] at ht
    obtain ⟨p, hp, rfl⟩ := List.mem_map.1 ht
    rw [depthThrough_trim, h.closed p hp]

theorem splitClauses_eq_of_isCut {query : String} {ps : List (List Char)} (h : IsCut query.toList ps) :
    splitClauses query = ps.map fun p => String.ofList (Text.trim p) := by
  rw [splitClauses, h.pieces_eq]

/-- A clause is one clause as a query. -/
theorem splitClauses_of_clause {query clause : String} (h : clause ∈ splitClauses query) : splitClauses clause = [clause] := by
  have htrim := trim_clause h
  obtain ⟨p, hp, rfl⟩ := List.mem_map.1 h
  rw [String.toList_ofList] at htrim
  have hpiece : IsPiece 0 (Text.trim p) := (isPiece_iff 0 _).2 ((isCut_pieces query.toList).no_comma p hp).trim
  have hcut : IsCut (String.ofList (Text.trim p)).toList [Text.trim p] := by
    rw [String.toList_ofList]
    exact .one hpiece
  rw [splitClauses_eq_of_isCut hcut, List.map_singleton, htrim]

/-- The clauses of a query, joined by commas, are split again. -/
theorem splitClauses_joined (query : String) : splitClauses (",".intercalate (splitClauses query)) = splitClauses query := by
  have hjoined : (",".intercalate (splitClauses query)).toList = Text.joinWith [','] ((pieces 0 query.toList).map Text.trim) := by
    rw [String.toList_intercalate, Text.joinWith_eq_intercalate, splitClauses, List.map_map]
    simp [Function.comp_def]
  have hcut := (isCut_pieces query.toList).trim
  rw [← hjoined] at hcut
  rw [splitClauses_eq_of_isCut hcut, splitClauses, List.map_map]
  refine List.map_congr_left fun p _ => ?_
  rw [Function.comp_apply, Text.trim_trim]

/-- A query has exactly one cut at its outer commas, whatever parentheses and blanks it holds, and its clauses are the trimmed pieces of
that cut. So a clause is one clause as a query, and the clauses joined by commas are split into the same clauses. -/
theorem splitClauses_isOnlyCut (query : String) :
    (∃ ps, IsCut query.toList ps ∧ (∀ ps', IsCut query.toList ps' → ps' = ps) ∧
        splitClauses query = ps.map fun p => String.ofList (Text.trim p)) ∧
      (∀ clause ∈ splitClauses query, splitClauses clause = [clause]) ∧
      splitClauses (",".intercalate (splitClauses query)) = splitClauses query := by
  have hcut := isCut_pieces query.toList
  refine ⟨⟨pieces 0 query.toList, hcut, fun ps hps => ?_, rfl⟩, fun clause hclause => splitClauses_of_clause hclause,
    splitClauses_joined query⟩
  exact hps.pieces_eq.symm

/-- A stray closing parenthesis, nested ones, and one that is never closed. -/
example : splitClauses " a) , b in ((1,2),3) ,(c, d " = ["a)", "b in ((1,2),3)", "(c, d"] := by decide

end RanConsole.Query

import RanConsole.Proofs.Query.Refusal

/-!
# Parentheses that are not closed

An opening parenthesis that is never closed stands in the last clause of a query and draws everything behind it into that clause. It
is reported only as far as the clause is a list that cannot be read (`labelResult_unclosed_iff`): in an equality it becomes part of
the key or the value (`labelResult_unclosed_false`), and a list ends with the first closing parenthesis, whichever was opened by then.
-/

namespace RanConsole.Query

/-- A query that ends inside parentheses ends so in its last clause, while all clauses before it end outside. It is refused just when a
list before the last clause cannot be read, or the last clause holds the token of a list and, behind its first opening parenthesis,
no closing one or only blanks in front of that. -/
theorem labelResult_unclosed_iff {query : String} (h : 0 < depthThrough 0 query.toList) :
    ∃ earlier last,
      splitClauses query = earlier ++ [last] ∧ (∀ clause ∈ earlier, depthThrough 0 clause.toList = 0) ∧
        0 < depthThrough 0 last.toList ∧
        ((∃ e, labelResult query = .error e) ↔ (∃ clause ∈ earlier, Malformed clause) ∨ Malformed last) := by
  obtain ⟨earlier, last, hsplit, hearlier, hlast⟩ := exists_last_clause query
  refine ⟨earlier, last, hsplit, hearlier, hlast ▸ h, ?_⟩
  rw [labelResult_isRefused_iff, hsplit]
  simp only [List.mem_append, List.mem_singleton, or_and_right, exists_or, exists_eq_left]

/-- The first closing parenthesis ends a list also where it belongs to an inner opening one. Then the list can be read, and nothing is
reported of the outer one. -/
theorem labelResult_unclosed_innerClosed :
    0 < depthThrough 0 "x=1, a in (b(1), c=d".toList ∧
      labelResult "x=1, a in (b(1), c=d" = .ok { filters := [⟨"x", .equal "1"⟩, ⟨"a", .among ["b(1"]⟩] } ∧
      ¬Malformed "a in (b(1), c=d" := by
  have h : 0 < depthThrough 0 "x=1, a in (b(1), c=d".toList := by decide
  have hresult : labelResult "x=1, a in (b(1), c=d" =
      .ok { filters := [⟨"x", .equal "1"⟩, ⟨"a", .among ["b(1"]⟩] } := rfl
  obtain ⟨earlier, last, hsplit, -, -, hiff⟩ := labelResult_unclosed_iff h
  have hclauses : splitClauses "x=1, a in (b(1), c=d" = ["x=1"] ++ ["a in (b(1), c=d"] := by decide
  obtain ⟨-, hlast⟩ := List.append_inj' (hsplit.symm.trans hclauses) rfl
  obtain rfl := List.singleton_inj.1 hlast
  refine ⟨h, hresult, fun hmalformed => ?_⟩
  obtain ⟨e, he⟩ := hiff.2 (Or.inr hmalformed)
  rw [hresult] at he
  cases he

/-- The value of an equality takes in an open parenthesis with all that stands behind it. -/
theorem labelResult_unclosed_false :
    0 < depthThrough 0 "a=(b,c=d".toList ∧ labelResult "a=(b,c=d" = .ok { filters := [⟨"a", .equal "(b,c=d"⟩] } ∧
      ¬∃ e, labelResult "a=(b,c=d" = .error e := by
  have h : labelResult "a=(b,c=d" = .ok { filters := [⟨"a", .equal "(b,c=d"⟩] } := rfl
  refine ⟨by decide, h, ?_⟩
  rintro ⟨e, he⟩
  rw [h] at he
  cases he

end RanConsole.Query

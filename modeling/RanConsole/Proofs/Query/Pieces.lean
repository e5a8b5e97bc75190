import Mathlib.Data.List.Basic
import RanConsole.Proofs.Text.Cut
import RanConsole.Proofs.Text.Trim
import RanConsole.Query.Clause

/-!
# Cutting a query into clauses

`pieces` walks over a query with the depth of parentheses it is in. What a part of the query does to the walk is the depth it
leaves behind (`depthThrough`), so the pieces of two queries with a comma between them are the pieces of the one and of the other
as soon as the first ends outside all parentheses. Every clause but the last ends outside all parentheses
(`exists_last_clause`).
-/

namespace RanConsole.Query

/-- The depth of parentheses behind a text that starts at the given depth. -/
def depthThrough (depth : Nat) (s : List Char) : Nat :=
  s.foldl depthAfter depth

@[simp] theorem depthThrough_nil (depth : Nat) : depthThrough depth [] = depth :=
  rfl

@[simp] theorem depthThrough_cons (depth : Nat) (c : Char) (s : List Char) :
    depthThrough depth (c :: s) = depthThrough (depthAfter depth c) s :=
  rfl

theorem depthThrough_append (depth : Nat) (s t : List Char) :
    depthThrough depth (s ++ t) = depthThrough (depthThrough depth s) t :=
  List.foldl_append

/-- A comma leaves the depth as it is. -/
@[simp] theorem depthAfter_comma (depth : Nat) : depthAfter depth ',' = depth :=
  rfl

/-- There is always a first piece. -/
theorem pieces_ne_nil (depth : Nat) (s : List Char) : pieces depth s ≠ [] := by
  cases s with
  | nil => simp [pieces]
  | cons c s =>
    rw [pieces]
    split
    · simp
    · split <;> simp

/-- A character that is no comma outside parentheses joins the first piece of what follows. -/
theorem pieces_cons {depth : Nat} {c : Char} {s piece : List Char} {rest : List (List Char)}
    (hc : ¬(c = ',' ∧ depth = 0)) (h : pieces (depthAfter depth c) s = piece :: rest) :
    pieces depth (c :: s) = (c :: piece) :: rest := by
  rw [pieces, if_neg hc, h]

/-- The pieces of two queries with a comma between them, where the first ends outside all parentheses. -/
theorem pieces_append_comma {depth : Nat} {p : List Char} (h : depthThrough depth p = 0) (q : List Char) :
    pieces depth (p ++ ',' :: q) = pieces depth p ++ pieces 0 q := by
  induction p generalizing depth with
  | nil =>
    rw [depthThrough_nil] at h
    simp [pieces, h]
  | cons c p ih =>
    rw [depthThrough_cons] at h
    rw [List.cons_append]
    by_cases hc : c = ',' ∧ depth = 0
    · obtain ⟨rfl, rfl⟩ := hc
      rw [depthAfter_comma] at h
      simp [pieces, ih h]
    · obtain ⟨piece, rest, hp⟩ := List.exists_cons_of_ne_nil (pieces_ne_nil (depthAfter depth c) p)
      have hpq := ih h
      rw [hp, List.cons_append] at hpq
      rw [pieces_cons hc hpq, pieces_cons hc hp, List.cons_append]

/-! ## Texts that are one piece -/

/-- A text is one piece at a depth when it holds no comma outside parentheses. -/
def IsPiece (depth : Nat) (s : List Char) : Prop :=
  pieces depth s = [s]

theorem IsPiece.cons {depth : Nat} {c : Char} {s : List Char} (hc : ¬(c = ',' ∧ depth = 0))
    (h : IsPiece (depthAfter depth c) s) : IsPiece depth (c :: s) :=
  pieces_cons hc h

/-- Texts that are one piece each, at the depths where they stand, are one piece together. -/
theorem IsPiece.append {depth : Nat} {s t : List Char} (hs : IsPiece depth s) (ht : IsPiece (depthThrough depth s) t) :
    IsPiece depth (s ++ t) := by
  induction s generalizing depth with
  | nil => exact ht
  | cons c s ih =>
    have hc : ¬(c = ',' ∧ depth = 0) := by
      rintro ⟨rfl, rfl⟩
      simp [IsPiece, pieces] at hs
    refine IsPiece.cons hc (ih ?_ ht)
    obtain ⟨piece, rest, hp⟩ := List.exists_cons_of_ne_nil (pieces_ne_nil (depthAfter depth c) s)
    have h := pieces_cons hc hp
    rw [hs] at h
    obtain ⟨h1, rfl⟩ := List.cons.inj h
    rw [IsPiece, hp, (List.cons.inj h1).2]

/-- A text without parentheses. -/
def NoParens (s : List Char) : Prop :=
  '(' ∉ s ∧ ')' ∉ s

theorem NoParens.append {s t : List Char} (hs : NoParens s) (ht : NoParens t) : NoParens (s ++ t) :=
  ⟨by simp [hs.1, ht.1], by simp [hs.2, ht.2]⟩

theorem noParens_cons (c : Char) (s : List Char) : NoParens (c :: s) ↔ c ≠ '(' ∧ c ≠ ')' ∧ NoParens s := by
  simp only [NoParens, List.mem_cons, not_or, ne_comm (a := c)]
  tauto

/-- A character that is no parenthesis leaves the depth as it is. -/
theorem depthAfter_of_ne {c : Char} (ho : c ≠ '(') (hc : c ≠ ')') (depth : Nat) : depthAfter depth c = depth := by
  rw [depthAfter, if_neg ho, if_neg hc]

/-- A text without parentheses leaves the depth as it is. -/
theorem depthThrough_of_noParens {s : List Char} (h : NoParens s) (depth : Nat) : depthThrough depth s = depth := by
  induction s with
  | nil => rfl
  | cons c s ih =>
    obtain ⟨ho, hc, hs⟩ := (noParens_cons c s).1 h
    rw [depthThrough_cons, depthAfter_of_ne ho hc, ih hs]

/-- A text without parentheses is one piece if it holds no comma, or if it stands inside parentheses. -/
theorem isPiece_of_noParens {s : List Char} (h : NoParens s) {depth : Nat} (hcomma : ',' ∉ s ∨ depth ≠ 0) :
    IsPiece depth s := by
  induction s with
  | nil => rfl
  | cons c s ih =>
    obtain ⟨ho, hc, hs⟩ := (noParens_cons c s).1 h
    have ih := ih hs (hcomma.imp_left fun hn hm => hn (List.mem_cons_of_mem c hm))
    refine IsPiece.cons ?_ ((depthAfter_of_ne ho hc depth).symm ▸ ih)
    rintro ⟨rfl, h0⟩
    rcases hcomma with hn | hn
    · exact hn (List.mem_cons_self ..)
    · exact hn h0

/-- Blanks are no parentheses. -/
theorem noParens_of_isBlankText {w : List Char} (h : Text.isBlankText w = true) : NoParens w :=
  ⟨fun hm => absurd ((Text.isBlankText_iff w).1 h _ hm) (by decide),
    fun hm => absurd ((Text.isBlankText_iff w).1 h _ hm) (by decide)⟩

/-- A text with one pair of parentheses, whatever commas stand inside them, is one piece and ends outside. -/
theorem isPiece_parenthesized {front body back : List Char} (hfront : NoParens front) (hfrontComma : ',' ∉ front)
    (hbody : NoParens body) (hback : NoParens back) (hbackComma : ',' ∉ back) :
    IsPiece 0 (front ++ '(' :: (body ++ ')' :: back)) ∧ depthThrough 0 (front ++ '(' :: (body ++ ')' :: back)) = 0 := by
  have hinside : depthThrough 1 body = 1 := depthThrough_of_noParens hbody 1
  constructor
  · refine (isPiece_of_noParens hfront (Or.inl hfrontComma)).append ?_
    rw [depthThrough_of_noParens hfront]
    refine IsPiece.cons (by decide) ?_
    refine (isPiece_of_noParens hbody (Or.inr (by decide))).append ?_
    refine IsPiece.cons (by simp) ?_
    exact isPiece_of_noParens hback (Or.inl hbackComma)
  · rw [depthThrough_append, depthThrough_of_noParens hfront, depthThrough_cons, depthThrough_append]
    change depthThrough (depthAfter (depthThrough 1 body) ')') back = 0
    rw [hinside]
    exact depthThrough_of_noParens hback 0

/-- Trimming leaves the depth behind a text as it is. -/
theorem depthThrough_trim (depth : Nat) (s : List Char) : depthThrough depth (Text.trim s) = depthThrough depth s := by
  obtain ⟨w, w', hw, hw', h⟩ := Text.exists_blanks_around s
  conv_rhs => rw [h, depthThrough_append, depthThrough_append, depthThrough_of_noParens (noParens_of_isBlankText hw),
    depthThrough_of_noParens (noParens_of_isBlankText hw')]

/-! ## All pieces of a query -/

/-- A text is one piece, or it has a first comma outside parentheses. -/
theorem isPiece_or_comma (depth : Nat) (s : List Char) :
    IsPiece depth s ∨ ∃ p q, s = p ++ ',' :: q ∧ IsPiece depth p ∧ depthThrough depth p = 0 := by
  induction s generalizing depth with
  | nil => exact Or.inl rfl
  | cons c s ih =>
    by_cases hc : c = ',' ∧ depth = 0
    · obtain ⟨rfl, rfl⟩ := hc
      exact Or.inr ⟨[], s, rfl, rfl, rfl⟩
    · rcases ih (depthAfter depth c) with hs | ⟨p, q, rfl, hp, hdepth⟩
      · exact Or.inl (IsPiece.cons hc hs)
      · exact Or.inr ⟨c :: p, q, rfl, IsPiece.cons hc hp, hdepth⟩

/-- A query is one piece, or a piece that ends outside all parentheses, a comma and a query. -/
theorem piecewise_induction {motive : List Char → Prop} (one : ∀ s, IsPiece 0 s → motive s)
    (more : ∀ p q, IsPiece 0 p → depthThrough 0 p = 0 → motive q → motive (p ++ ',' :: q)) (s : List Char) : motive s := by
  induction hn : s.length using Nat.strong_induction_on generalizing s with
  | _ n ih =>
    rcases isPiece_or_comma 0 s with hs | ⟨p, q, rfl, hp, hdepth⟩
    · exact one s hs
    · exact more p q hp hdepth (ih q.length (by simp [← hn]; omega) q rfl)

/-- Every piece but the last ends outside all parentheses, and the last ends at the depth of the whole query. -/
theorem exists_last_piece (s : List Char) :
    ∃ earlier last, pieces 0 s = earlier ++ [last] ∧ (∀ p ∈ earlier, depthThrough 0 p = 0) ∧
      depthThrough 0 last = depthThrough 0 s := by
  induction s using piecewise_induction with
  | one s hs => exact ⟨[], s, hs, by simp, rfl⟩
  | more p q hp hdepth ih =>
    obtain ⟨earlier, last, hq, hearlier, hlast⟩ := ih
    refine ⟨p :: earlier, last, ?_, ?_, ?_⟩
    · rw [pieces_append_comma hdepth, hp, hq]
      rfl
    · intro r hr
      rcases List.mem_cons.1 hr with rfl | hr
      · exact hdepth
      · exact hearlier r hr
    · rw [hlast, depthThrough_append, hdepth]
      rfl

/-! ## The one cut of a query -/

/-- No comma of a text that starts at the given depth stands outside parentheses. -/
def HasNoOuterComma (depth : Nat) (s : List Char) : Prop :=
  ∀ front back, s = front ++ ',' :: back → depthThrough depth front ≠ 0

theorem isPiece_iff (depth : Nat) (s : List Char) : IsPiece depth s ↔ HasNoOuterComma depth s := by
  constructor
  · rintro hs front back rfl hdepth
    rw [IsPiece, pieces_append_comma hdepth] at hs
    have hlength := congrArg List.length hs
    have hfront := List.length_pos_of_ne_nil (pieces_ne_nil depth front)
    have hback := List.length_pos_of_ne_nil (pieces_ne_nil 0 back)
    rw [List.length_append, List.length_singleton] at hlength
    omega
  · intro hs
    rcases isPiece_or_comma depth s with h | ⟨p, q, hshape, -, hdepth⟩
    · exact h
    · exact absurd hdepth (hs p q hshape)

/-- A cut of a query at commas: the pieces make up the query again, none of them has a comma left outside its parentheses, and all
but the last end outside their parentheses. -/
structure IsCut (s : List Char) (ps : List (List Char)) : Prop where
  ne_nil : ps ≠ []
  joined : Text.joinWith [','] ps = s
  no_comma : ∀ p ∈ ps, HasNoOuterComma 0 p
  closed : ∀ p ∈ ps.dropLast, depthThrough 0 p = 0

theorem IsCut.one {s : List Char} (h : IsPiece 0 s) : IsCut s [s] where
  ne_nil := List.cons_ne_nil s []
  joined := rfl
  no_comma := by simpa using (isPiece_iff 0 s).1 h
  closed := by simp

theorem IsCut.cons {p s : List Char} {ps : List (List Char)} (h : IsPiece 0 p) (hdepth : depthThrough 0 p = 0) (hs : IsCut s ps) :
    IsCut (p ++ ',' :: s) (p :: ps) := by
  obtain ⟨next, rest, rfl⟩ := List.exists_cons_of_ne_nil hs.ne_nil
  refine ⟨List.cons_ne_nil _ _, ?_, List.forall_mem_cons.2 ⟨(isPiece_iff 0 p).1 h, hs.no_comma⟩, ?_⟩
  · rw [Text.joinWith, hs.joined, List.append_assoc]
    rfl
  · rw [List.dropLast_cons_cons]
    exact List.forall_mem_cons.2 ⟨hdepth, hs.closed⟩

/-- The pieces of a query are a cut of it. -/
theorem isCut_pieces (s : List Char) : IsCut s (pieces 0 s) := by
  induction s using piecewise_induction with
  | one s hs =>
    rw [hs]
    exact .one hs
  | more p q hp hdepth ih =>
    rw [pieces_append_comma hdepth, hp]
    exact ih.cons hp hdepth

/-- There is no other cut of a query. -/
theorem IsCut.pieces_eq {s : List Char} {ps : List (List Char)} (h : IsCut s ps) : pieces 0 s = ps := by
  obtain ⟨hne, rfl, hpieces, hclosed⟩ := h
  induction ps with
  | nil => exact absurd rfl hne
  | cons p ps ih =>
    obtain ⟨hp, hrest⟩ := List.forall_mem_cons.1 hpieces
    cases ps with
    | nil => exact (isPiece_iff 0 p).2 hp
    | cons next rest =>
      rw [List.dropLast_cons_cons] at hclosed
      obtain ⟨hdepth, hclosed⟩ := List.forall_mem_cons.1 hclosed
      have hnext := ih (List.cons_ne_nil next rest) hrest hclosed
      rw [Text.joinWith, List.append_assoc, List.singleton_append, pieces_append_comma hdepth, (isPiece_iff 0 p).2 hp, hnext]
      rfl

/-! ## Clauses -/

/-- The clauses of two queries with a comma between them, where the first ends outside all parentheses. -/
theorem splitClauses_append_comma {p : String} (h : depthThrough 0 p.toList = 0) (q : String) :
    splitClauses (p ++ "," ++ q) = splitClauses p ++ splitClauses q := by
  have hchars : (p ++ "," ++ q).toList = p.toList ++ ',' :: q.toList := by simp
  rw [splitClauses, splitClauses, splitClauses, hchars, pieces_append_comma h, List.map_append]

/-- A clause has no blanks around it. -/
theorem trim_clause {query clause : String} (h : clause ∈ splitClauses query) :
    Text.trim clause.toList = clause.toList := by
  obtain ⟨piece, -, rfl⟩ := List.mem_map.1 h
  rw [String.toList_ofList, Text.trim_trim]

/-- Every clause but the last ends outside all parentheses, and the last ends at the depth of the whole query. -/
theorem exists_last_clause (query : String) :
    ∃ earlier last, splitClauses query = earlier ++ [last] ∧ (∀ clause ∈ earlier, depthThrough 0 clause.toList = 0) ∧
      depthThrough 0 last.toList = depthThrough 0 query.toList := by
  obtain ⟨earlier, last, hpieces, hearlier, hlast⟩ := exists_last_piece query.toList
  refine ⟨earlier.map fun piece => String.ofList (Text.trim piece), String.ofList (Text.trim last), ?_, ?_, ?_⟩
  · rw [splitClauses, hpieces, List.map_append]
    rfl
  · intro clause hmem
    obtain ⟨piece, hpiece, rfl⟩ := List.mem_map.1 hmem
    rw [String.toList_ofList, depthThrough_trim, hearlier piece hpiece]
  · rw [String.toList_ofList, depthThrough_trim, hlast]

end RanConsole.Query

import RanConsole.Proofs.Query.Accounting
import RanConsole.Proofs.Query.Written

/-!
# The gap in front of a list

The grammar of queries leaves it open which blanks stand between the keyword of a list and the list. The tokens of the list operators
do not: each ends with one space and the parenthesis. So a clause with any other gap, or with none, has no operator, and the query
drops it (`labelResult_gapped`).
-/

namespace RanConsole.Query

/-- A list clause with its keyword one space behind the key and any gap between the keyword and the list. -/
structure Gapped where
  isNegated : Bool
  key : String
  gap : List Char
  values : List String

/-- A text without blanks around it. -/
def Spaced.bare (s : String) : Spaced := ⟨[], s, []⟩

@[simp] theorem Spaced.chars_bare (s : String) : (Spaced.bare s).chars = s.toList := by
  simp [Spaced.bare, Spaced.chars]

namespace Gapped

/-- The operator that the keyword stands for. -/
def operator (c : Gapped) : Operator := if c.isNegated then .notAmong else .among

/-- The keyword with the space that parts it from the key. -/
def keyword (c : Gapped) : List Char := if c.isNegated then " !in".toList else " in".toList

/-- What stands in front of the parenthesis. -/
def front (c : Gapped) : List Char := c.key.toList ++ c.keyword ++ c.gap

/-- What stands inside the parentheses: the values with commas between them. -/
def body (c : Gapped) : List Char := Written.listed (c.values.map Spaced.bare)

/-- The clause as it is typed. -/
def text (c : Gapped) : String := String.ofList (c.front ++ '(' :: (c.body ++ [')']))

/-- The clause with one space for its gap. -/
def spaced (c : Gapped) : Gapped := { c with gap := [' '] }

/-- The filter that the grammar gives the clause. -/
def filter (c : Gapped) : Filter :=
  if c.isNegated then ⟨c.key, .negation "" (.among c.values)⟩ else ⟨c.key, .among c.values⟩

/-- A clause of the grammar: its key and its values are trimmed and hold none of the marks, the key is not empty, the list is neither
nothing nor the empty text alone, and the gap is blank. -/
structure Proper (c : Gapped) : Prop where
  key_proper : (Spaced.bare c.key).Proper
  key_no_equals : '=' ∉ c.key.toList
  key_ne : c.key ≠ ""
  values_proper : ∀ v ∈ c.values, (Spaced.bare v).Proper
  values_no_equals : ∀ v ∈ c.values, '=' ∉ v.toList
  values_ne : c.values ≠ []
  values_ne_blank : c.values ≠ [""]
  gap_blank : Text.isBlankText c.gap = true

theorem Proper.spaced {c : Gapped} (h : c.Proper) : c.spaced.Proper :=
  { h with gap_blank := rfl }

/-! ## The clause in a query -/

variable {c : Gapped}

theorem Proper.values_bare (h : c.Proper) : ∀ v ∈ c.values.map Spaced.bare, v.Proper := by
  intro v hv
  obtain ⟨s, hs, rfl⟩ := List.mem_map.1 hv
  exact h.values_proper s hs

theorem Proper.noParens_front (h : c.Proper) : NoParens c.front := by
  have hkey := h.key_proper.noParens_chars
  rw [Spaced.chars_bare] at hkey
  have hkeyword : NoParens c.keyword := by
    rw [keyword]
    split <;> exact ⟨by decide, by decide⟩
  exact (hkey.append hkeyword).append (noParens_of_isBlankText h.gap_blank)

theorem Proper.comma_notMem_front (h : c.Proper) : ',' ∉ c.front := by
  have hkey := h.key_proper.comma_notMem_chars
  rw [Spaced.chars_bare] at hkey
  have hkeyword : ',' ∉ c.keyword := by
    rw [keyword]
    split <;> decide
  have hgap : ',' ∉ c.gap := fun hm => absurd ((Text.isBlankText_iff _).1 h.gap_blank _ hm) (by decide)
  simp [front, hkey, hkeyword, hgap]

theorem Proper.noParens_body (h : c.Proper) : NoParens c.body := Written.noParens_listed h.values_bare

/-- Nothing around the clause is trimmed: it begins with its key and ends with the parenthesis. -/
theorem Proper.trim_text (h : c.Proper) : Text.trim c.text.toList = c.text.toList := by
  obtain ⟨x, k, hk⟩ := List.exists_cons_of_ne_nil (mt String.toList_eq_nil_iff.1 h.key_ne)
  have hx : Text.isBlank x = false := Text.not_isBlank_of_trim_eq_self (hk ▸ h.key_proper.trim_text)
  have hshape : c.text.toList = [] ++ x :: ((k ++ c.keyword ++ c.gap ++ '(' :: c.body) ++ ')' :: []) := by
    rw [text, String.toList_ofList, front, hk]
    simp
  rw [hshape, Text.trim_append_cons hx, Text.trimEnd_append_cons (by decide)]
  rfl

/-- A query that is the clause alone has it as its one clause. -/
theorem Proper.splitClauses_text (h : c.Proper) : splitClauses c.text = [c.text] := by
  have hpiece : IsPiece 0 c.text.toList := by
    rw [text, String.toList_ofList]
    have hback : NoParens [] := ⟨List.not_mem_nil, List.not_mem_nil⟩
    exact (isPiece_parenthesized h.noParens_front h.comma_notMem_front h.noParens_body hback List.not_mem_nil).1
  rw [splitClauses, hpiece, List.map_singleton, h.trim_text, String.ofList_toList]

/-! ## The operator of the clause -/

theorem takesList_operator (c : Gapped) : c.operator.takesList = true := by
  rw [operator]
  split <;> rfl

theorem token_operator (c : Gapped) : c.operator.token = c.keyword ++ [' ', '('] := by
  rw [operator, keyword]
  split <;> rfl

/-- With one space for its gap the clause is put together around the token of its operator. -/
theorem text_spaced (c : Gapped) : c.spaced.text = String.ofList (c.key.toList ++ c.operator.token ++ (c.body ++ [')'])) := by
  have hkeyword : c.spaced.keyword = c.keyword := rfl
  have hbody : c.spaced.body = c.body := rfl
  rw [text, front, hkeyword, hbody, token_operator]
  simp [spaced]

/-- The keyword and the stem of each list operator end alike, with a letter and then the space of the stem. -/
theorem exists_keyword_eq (c : Gapped) : ∃ k, c.keyword = k ++ ['n'] := by
  rw [keyword]
  split
  · exact ⟨" !i".toList, rfl⟩
  · exact ⟨" i".toList, rfl⟩

theorem exists_stem_eq {op : Operator} (h : op.takesList = true) : ∃ k, op.stem = k ++ ['n', ' '] := by
  cases op with
  | notAmong => exact ⟨" !i".toList, rfl⟩
  | among => exact ⟨" i".toList, rfl⟩
  | notEqual | equal => cases h

/-- A list operator is found only behind a gap of one space. -/
theorem gap_eq_of_stem_suffix {op : Operator} (hop : op.takesList = true) (hgap : Text.isBlankText c.gap = true)
    (h : op.stem <:+ c.front) : c.gap = [' '] := by
  obtain ⟨s, hs⟩ := h
  obtain ⟨k, hk⟩ := exists_stem_eq hop
  obtain ⟨k', hk'⟩ := c.exists_keyword_eq
  have hfront : (s ++ k) ++ 'n' :: [' '] = (c.key.toList ++ k') ++ 'n' :: c.gap := by
    calc (s ++ k) ++ 'n' :: [' '] = c.front := by rw [← hs, hk]; simp
      _ = (c.key.toList ++ k') ++ 'n' :: c.gap := by rw [front, hk']; simp
  -- the letter is the last character that is not blank, on either side
  have hlast := congrArg Text.trimEnd hfront
  rw [Text.trimEnd_append_cons (by decide), Text.trimEnd_append_cons (by decide), Text.trimEnd_of_isBlankText (by decide),
    Text.trimEnd_of_isBlankText hgap] at hlast
  obtain ⟨hfronts, -⟩ := List.append_inj' hlast rfl
  rw [hfronts, List.append_right_inj, List.cons_inj_right] at hfront
  exact hfront.symm

theorem Proper.holdsList_iff (h : c.Proper) : HoldsList c.text ↔ c.gap = [' '] := by
  constructor
  · rintro ⟨op, hop, hin⟩
    have hmark : op.mark = '(' := by rw [Operator.mark, if_pos hop]
    have hback : '(' ∉ c.body ++ [')'] := by simp [h.noParens_body.1]
    refine gap_eq_of_stem_suffix hop h.gap_blank ?_
    refine Operator.stem_suffix_of_occursIn (hmark ▸ h.noParens_front.1) (hmark ▸ hback) ((Text.occursIn_iff _ _).2 ?_)
    rwa [hmark, ← String.toList_ofList (l := c.front ++ _), ← text]
  · intro hgap
    have htext : c.text = c.spaced.text := by rw [Gapped.spaced, ← hgap]
    refine ⟨c.operator, c.takesList_operator, c.key.toList, c.body ++ [')'], ?_⟩
    rw [htext, text_spaced, String.toList_ofList]

/-- A clause with another gap has no operator. -/
theorem Proper.classify_eq_none (h : c.Proper) (hgap : c.gap ≠ [' ']) : classify c.text = none := by
  rw [classify_eq_none_iff, h.holdsList_iff]
  refine ⟨?_, hgap⟩
  have hkeyword : '=' ∉ c.keyword := by
    rw [keyword]
    split <;> decide
  have hblank : '=' ∉ c.gap := fun hm => absurd ((Text.isBlankText_iff _).1 h.gap_blank _ hm) (by decide)
  have hbody : '=' ∉ c.body := by
    intro hm
    rcases Text.mem_joinWith hm with hm | ⟨s, hs, hm⟩
    · exact absurd hm (by decide)
    · simp only [List.map_map, List.mem_map, Function.comp_apply, Spaced.chars_bare] at hs
      obtain ⟨v, hv, rfl⟩ := hs
      exact h.values_no_equals v hv hm
  simp [text, front, h.key_no_equals, hkeyword, hblank, hbody]

/-- A clause with one space for its gap compiles to its filter. -/
theorem Proper.compileLabel_spaced (h : c.Proper) : compileLabel c.spaced.text = .ok (some c.filter) := by
  let w : Written := .membership c.isNegated (.bare c.key) (c.values.map .bare) []
  have hvalues : c.values.map (Spaced.text ∘ Spaced.bare) = c.values := by simp [Function.comp_def, Spaced.bare]
  have hw : w.Proper :=
    ⟨h.key_proper, h.values_bare, rfl, h.key_ne, by simpa using h.values_ne, by simpa [hvalues] using h.values_ne_blank⟩
  have hoperator : w.operator = c.operator := rfl
  have hlist : w.values = c.values := by simpa [w, Written.values] using hvalues
  have htext : c.spaced.text = String.ofList w.chars := by simp [text_spaced, w, Written.chars, body, ← hoperator]
  have htrim := h.spaced.trim_text
  have hcompiled := Written.compileLabel_chars hw
  rw [htext, String.toList_ofList] at htrim
  rw [htrim, ← htext, hoperator, hlist] at hcompiled
  rw [hcompiled, operator, filter]
  split <;> rfl

theorem text_ne (c : Gapped) : c.text ≠ "" := by
  intro hempty
  have hchars := congrArg String.toList hempty
  simp [text] at hchars

end Gapped

/-! ## What becomes of the clause -/

/-- Of the clauses of the grammar with one list, those with one space in front of it compile to their filter, and any others are
dropped. -/
theorem labelResult_gapped {c : Gapped} (h : c.Proper) :
    labelResult c.spaced.text = .ok { filters := [c.filter] } ∧
      (c.gap ≠ [' '] → labelResult c.text = .ok { dropped := [c.text] }) ∧
      (labelResult c.text = labelResult c.spaced.text ↔ c.gap = [' ']) := by
  have hspaced : labelResult c.spaced.text = .ok { filters := [c.filter] } := by
    rw [labelResult, h.spaced.splitClauses_text, compileClauses, h.compileLabel_spaced]
    rfl
  have hdropped : c.gap ≠ [' '] → labelResult c.text = .ok { dropped := [c.text] } := by
    intro hgap
    rw [labelResult, h.splitClauses_text, compileClauses, (compileLabel_eq_none_iff _).2 (h.classify_eq_none hgap)]
    exact congrArg Except.ok (Compilation.add_none c.text_ne _)
  refine ⟨hspaced, hdropped, ?_, ?_⟩
  · intro hsame
    by_contra hgap
    rw [hdropped hgap, hspaced] at hsame
    cases hsame
  · intro hgap
    rw [Gapped.spaced, ← hgap]

/-- With two spaces in front of it a list is dropped. The key may hold keywords itself. -/
theorem labelResult_gapped_twoSpaces :
    (⟨true, "in !in", [' ', ' '], ["3", ""]⟩ : Gapped).Proper ∧
      labelResult "in !in !in (3,)" = .ok { filters := [⟨"in !in", .negation "" (.among ["3", ""])⟩] } ∧
      labelResult "in !in !in  (3,)" = .ok { dropped := ["in !in !in  (3,)"] } := by
  have hproper : (⟨true, "in !in", [' ', ' '], ["3", ""]⟩ : Gapped).Proper :=
    { key_proper := ⟨by decide, by decide, by decide, by decide, by decide, by decide⟩
      key_no_equals := by decide
      key_ne := by decide
      values_proper := by
        intro v hv
        simp only [List.mem_cons, List.not_mem_nil, or_false] at hv
        rcases hv with rfl | rfl
        · exact ⟨by decide, by decide, by decide, by decide, by decide, by decide⟩
        · exact ⟨by decide, by decide, by decide, by decide, by decide, by decide⟩
      values_no_equals := by decide
      values_ne := by decide
      values_ne_blank := by decide
      gap_blank := by decide }
  obtain ⟨hspaced, hdropped, -⟩ := labelResult_gapped hproper
  exact ⟨hproper, hspaced, hdropped (by decide)⟩

/-- The grammar takes a list right behind its keyword, the compiler drops it. -/
theorem labelResult_gapped_none_false :
    labelResult "a in(1)" = .ok { dropped := ["a in(1)"] } ∧
      ¬∀ c : Gapped, c.Proper → labelResult c.text = labelResult c.spaced.text := by
  refine ⟨by decide, fun h => ?_⟩
  have hproper : (⟨false, "a", [], ["1"]⟩ : Gapped).Proper :=
    { key_proper := ⟨by decide, by decide, by decide, by decide, by decide, by decide⟩
      key_no_equals := by decide
      key_ne := by decide
      values_proper := by
        intro v hv
        obtain rfl := List.mem_singleton.1 hv
        exact ⟨by decide, by decide, by decide, by decide, by decide, by decide⟩
      values_no_equals := by decide
      values_ne := by decide
      values_ne_blank := by decide
      gap_blank := by decide }
  exact absurd (h _ hproper) (by decide)

end RanConsole.Query

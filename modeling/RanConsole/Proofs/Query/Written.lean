import RanConsole.Proofs.Query.Operator
import RanConsole.Proofs.Query.Pieces
import RanConsole.Proofs.Text.Trim

/-!
# Clauses as they are written

A written clause is an operator with its key and its value or values and all the blanks that stand around them. The compiler reads
such a clause back (`compileLabel_chars`): it finds the operator, since the token of no other rule before it can occur, and it cuts
key and values at the very place where the token was written.
-/

namespace RanConsole.Query

/-- A text with the blanks that are written around it. -/
structure Spaced where
  before : List Char
  text : String
  after : List Char

/-- The characters of a text and the blanks around it. -/
def Spaced.chars (s : Spaced) : List Char := s.before ++ s.text.toList ++ s.after

/-- A text that can stand in a clause: it is trimmed, holds no comma and no parenthesis, and has only blanks around it. -/
structure Spaced.Proper (s : Spaced) : Prop where
  before_blank : Text.isBlankText s.before = true
  after_blank : Text.isBlankText s.after = true
  trimmed_eq : trimmed s.text = s.text
  no_comma : ',' ∉ s.text.toList
  no_parens : NoParens s.text.toList

/-- A clause as it is written. The blanks in front of the key and behind the value are those around the clause, the blanks behind
the key are those in front of the operator. -/
inductive Written where
  | equality (isNegated : Bool) (key value : Spaced)
  | membership (isNegated : Bool) (key : Spaced) (values : List Spaced) (after : List Char)

namespace Written

/-- The operator of a clause. -/
def operator : Written → Operator
  | equality isNegated _ _ => if isNegated then .notEqual else .equal
  | membership isNegated _ _ _ => if isNegated then .notAmong else .among

/-- The key of a clause. -/
def key : Written → Spaced
  | equality _ key _ | membership _ key _ _ => key

/-- The values of a clause; an equality has one. -/
def values : Written → List String
  | equality _ _ value => [value.text]
  | membership _ _ values _ => values.map Spaced.text

/-- The values of a list with commas between them. -/
def listed (values : List Spaced) : List Char := Text.joinWith [','] (values.map Spaced.chars)

/-- The characters of a clause. -/
def chars : Written → List Char
  | w@(equality _ key value) => key.chars ++ w.operator.token ++ value.chars
  | w@(membership _ key values after) => key.chars ++ w.operator.token ++ (listed values ++ ')' :: after)

/-- A clause that can be read back. The texts of an equality hold no `=`, and the key before a lone `=` does not end in the mark
that would make it `!=`; the key of a list is not empty, and its values are not nothing or the empty text alone. -/
def Proper : Written → Prop
  | equality isNegated key value =>
    key.Proper ∧ value.Proper ∧ '=' ∉ key.text.toList ∧ '=' ∉ value.text.toList ∧
      (isNegated = false → key.text.toList.getLast? ≠ some '!')
  | membership _ key values after =>
    key.Proper ∧ (∀ v ∈ values, v.Proper) ∧ Text.isBlankText after = true ∧ key.text ≠ "" ∧ values ≠ [] ∧
      values.map Spaced.text ≠ [""]

end Written

/-- The query of written clauses, with commas between them. -/
def writtenQuery (clauses : List Written) : String :=
  String.ofList (Text.joinWith [','] (clauses.map Written.chars))

/-! ## Texts with blanks around them -/

/-- A character that is not blank stands among the characters of a text with blanks only if it stands in the text. -/
theorem Spaced.Proper.mem_text {s : Spaced} (h : s.Proper) {c : Char} (hc : Text.isBlank c = false)
    (hm : c ∈ s.chars) : c ∈ s.text.toList := by
  have hb := (Text.isBlankText_iff _).1 h.before_blank
  have ha := (Text.isBlankText_iff _).1 h.after_blank
  simp only [Spaced.chars, List.mem_append] at hm
  rcases hm with (hm | hm) | hm
  · exact absurd (hb c hm) (by simp [hc])
  · exact hm
  · exact absurd (ha c hm) (by simp [hc])

theorem Spaced.Proper.trim_text {s : Spaced} (h : s.Proper) : Text.trim s.text.toList = s.text.toList := by
  have := congrArg String.toList h.trimmed_eq
  simpa [trimmed] using this

/-- Trimming gives back the text. -/
theorem Spaced.Proper.trim_chars {s : Spaced} (h : s.Proper) : Text.trim s.chars = s.text.toList := by
  rw [Spaced.chars, Text.trim_append_blanks h.after_blank, Text.trim_blanks_append h.before_blank, h.trim_text]

theorem Spaced.Proper.ofList_trim_chars {s : Spaced} (h : s.Proper) : String.ofList (Text.trim s.chars) = s.text := by
  rw [h.trim_chars, String.ofList_toList]

theorem Spaced.Proper.noParens_chars {s : Spaced} (h : s.Proper) : NoParens s.chars :=
  ⟨fun hm => h.no_parens.1 (h.mem_text (by decide) hm), fun hm => h.no_parens.2 (h.mem_text (by decide) hm)⟩

theorem Spaced.Proper.comma_notMem_chars {s : Spaced} (h : s.Proper) : ',' ∉ s.chars :=
  fun hm => h.no_comma (h.mem_text (by decide) hm)

/-! ## What the compiler finds in a written clause -/

namespace Written

/-- What stands in front of the token in a trimmed clause. -/
def front : Written → List Char
  | equality _ key _ => key.chars.dropWhile Text.isBlank
  | membership _ key _ _ => key.text.toList ++ key.after

/-- What stands behind the token in a trimmed clause. -/
def back : Written → List Char
  | equality _ _ value => Text.trimEnd value.chars
  | membership _ _ values _ => listed values ++ [')']

/-- Trimming keeps the token. In front of a list this is so only because the key, which is not empty, holds the blank back that the
token begins with. -/
theorem trim_chars {w : Written} (h : w.Proper) : Text.trim w.chars = w.front ++ w.operator.token ++ w.back := by
  cases w with
  | equality isNegated key value =>
    have hstem : ∀ b : Bool, ∃ stem, (if b then Operator.notEqual else .equal).token = stem ++ ['='] ∧
        (key.chars ++ stem).dropWhile Text.isBlank = key.chars.dropWhile Text.isBlank ++ stem := by
      intro b
      cases b with
      | false => exact ⟨[], rfl, by simp⟩
      | true => exact ⟨['!'], rfl, Text.dropWhile_append_cons (by decide) _ _⟩
    obtain ⟨stem, htoken, hdrop⟩ := hstem isNegated
    have hchars : (equality isNegated key value).chars = (key.chars ++ stem) ++ '=' :: value.chars := by
      simp [chars, operator, htoken]
    rw [hchars, Text.trim_append_cons (by decide), hdrop]
    simp [front, back, operator, htoken]
  | membership isNegated key values after =>
    obtain ⟨hkey, -, hafter, hne, -⟩ := h
    obtain ⟨c, k, hk⟩ := List.exists_cons_of_ne_nil (mt String.toList_eq_nil_iff.1 hne)
    have hc : Text.isBlank c = false := Text.not_isBlank_of_trim_eq_self (hk ▸ hkey.trim_text)
    generalize htoken : (membership isNegated key values after).operator.token = token
    have hchars : (membership isNegated key values after).chars =
        key.before ++ (([] ++ c :: (k ++ key.after ++ token ++ listed values ++ [')'])) ++ after) := by
      simp [chars, Spaced.chars, hk, htoken]
    rw [hchars, Text.trim_blanks_append hkey.before_blank, Text.trim_append_blanks hafter, Text.trim_append_cons hc,
      Text.trimEnd_append_cons (by decide)]
    simp [front, back, hk, Text.trimEnd, Text.dropEndWhile]

/-- What stands in front of the token is the key. -/
theorem ofList_trim_front {w : Written} (h : w.Proper) : String.ofList (Text.trim w.front) = w.key.text := by
  cases w with
  | equality isNegated key value => rw [front, Text.trim_dropWhile, h.1.ofList_trim_chars]; rfl
  | membership isNegated key values after =>
    rw [front, Text.trim_append_blanks h.1.after_blank, h.1.trim_text, String.ofList_toList]
    rfl

/-- The key does not hold the last character of the token. -/
theorem mark_notMem_front {w : Written} (h : w.Proper) : w.operator.mark ∉ w.front := by
  cases w with
  | equality isNegated key value =>
    intro hm
    have hmark : (equality isNegated key value).operator.mark = '=' := by cases isNegated <;> rfl
    rw [hmark] at hm
    exact h.2.2.1 (h.1.mem_text (by decide) ((List.dropWhile_sublist _).subset hm))
  | membership isNegated key values after =>
    intro hm
    have hmark : (membership isNegated key values after).operator.mark = '(' := by cases isNegated <;> rfl
    rw [hmark] at hm
    refine h.1.no_parens.1 (h.1.mem_text (by decide) ?_)
    rw [Spaced.chars, List.append_assoc]
    exact List.mem_append_right _ hm

/-- The texts of a list, joined by commas, hold no parenthesis. -/
theorem noParens_listed {values : List Spaced} (h : ∀ v ∈ values, v.Proper) : NoParens (listed values) := by
  have hmem : ∀ c ∈ listed values, c = ',' ∨ ∃ v ∈ values, c ∈ v.chars := by
    intro c hc
    simpa using Text.mem_joinWith hc
  constructor
  · intro hm
    obtain hcomma | ⟨v, hv, hc⟩ := hmem _ hm
    · exact absurd hcomma (by decide)
    · exact (h v hv).noParens_chars.1 hc
  · intro hm
    obtain hcomma | ⟨v, hv, hc⟩ := hmem _ hm
    · exact absurd hcomma (by decide)
    · exact (h v hv).noParens_chars.2 hc

/-- What stands behind the token does not hold its last character. -/
theorem mark_notMem_back {w : Written} (h : w.Proper) : w.operator.mark ∉ w.back := by
  cases w with
  | equality isNegated key value =>
    intro hm
    have hmark : (equality isNegated key value).operator.mark = '=' := by cases isNegated <;> rfl
    rw [hmark] at hm
    exact h.2.2.2.1 (h.2.1.mem_text (by decide) ((Text.trimEnd_prefix_self _).subset hm))
  | membership isNegated key values after =>
    have hmark : (membership isNegated key values after).operator.mark = '(' := by cases isNegated <;> rfl
    rw [hmark]
    simpa [back] using (noParens_listed h.2.1).1

/-- The key of an equality does not end in an exclamation mark, whatever blanks stand behind it. -/
theorem front_not_endsWith_bang {key value : Spaced} (h : (equality false key value).Proper) :
    ¬['!'] <:+ (equality false key value).front := by
  intro hsuffix
  have hlast : key.chars.getLast? = some '!' := by
    have h1 : ['!'] <:+ key.chars := hsuffix.trans (List.dropWhile_suffix _)
    obtain ⟨t, ht⟩ := h1
    rw [← ht]
    simp
  rw [Spaced.chars, List.getLast?_append] at hlast
  cases ha : key.after.getLast? with
  | some c =>
    have hblank := (Text.isBlankText_iff _).1 h.1.after_blank c (List.mem_of_getLast? ha)
    rw [ha] at hlast
    simp only [Option.some_or, Option.some.injEq] at hlast
    rw [hlast] at hblank
    exact absurd hblank (by decide)
  | none =>
    rw [ha, Option.none_or, List.getLast?_append] at hlast
    cases hk : key.text.toList.getLast? with
    | some c =>
      rw [hk, Option.some_or] at hlast
      exact h.2.2.2.2 rfl (hk.trans hlast)
    | none =>
      rw [hk, Option.none_or] at hlast
      have hblank := (Text.isBlankText_iff _).1 h.1.before_blank '!' (List.mem_of_getLast? hlast)
      exact absurd hblank (by decide)

/-- The compiler finds the operator with which a clause was written. -/
theorem classify_chars {w : Written} (h : w.Proper) :
    classify (String.ofList (w.front ++ w.operator.token ++ w.back)) = some w.operator := by
  have hf := mark_notMem_front h
  have hb := mark_notMem_back h
  cases w with
  | equality isNegated key value =>
    have hfront : '(' ∉ (equality isNegated key value).front :=
      fun hm => h.1.noParens_chars.1 ((List.dropWhile_sublist _).subset hm)
    have hback : '(' ∉ (equality isNegated key value).back :=
      fun hm => h.2.1.noParens_chars.1 ((Text.trimEnd_prefix_self _).subset hm)
    cases isNegated with
    | false => exact classify_equal hfront hback hf hb (front_not_endsWith_bang h)
    | true => exact classify_notEqual hfront hback
  | membership isNegated key values after =>
    cases isNegated with
    | false => exact classify_among hf hb
    | true => exact classify_notAmong _ _

/-- The values of a list, cut at the commas. -/
theorem splitOn_listed {values : List Spaced} (h : ∀ v ∈ values, v.Proper) (hne : values ≠ []) :
    (listed values).splitOn ',' = values.map Spaced.chars := by
  rw [listed, Text.joinWith_eq_intercalate]
  refine List.splitOn_intercalate ',' ?_ (by simpa using hne)
  intro s hs
  obtain ⟨v, hv, rfl⟩ := List.mem_map.1 hs
  exact (h v hv).comma_notMem_chars

/-- A list shows something: a comma, or the characters of its one value. -/
theorem isBlankText_listed {values : List Spaced} (h : ∀ v ∈ values, v.Proper) (hne : values ≠ [])
    (hone : values.map Spaced.text ≠ [""]) : Text.isBlankText (listed values) = false := by
  rw [← Bool.not_eq_true, Text.isBlankText_iff]
  intro hall
  match values, hne with
  | [v], _ =>
    have hv := h v (List.mem_singleton_self v)
    have hblank := (Text.isBlankText_iff v.chars).2 (by simpa [listed, Text.joinWith] using hall)
    have hempty := (Text.trim_eq_nil_iff v.chars).2 hblank
    rw [hv.trim_chars] at hempty
    exact hone (by simpa using String.toList_eq_nil_iff.1 hempty)
  | v :: w :: rest, _ =>
    have hcomma := hall ',' (by simp [listed, Text.joinWith])
    exact absurd hcomma (by decide)

/-- A written clause compiles to the filter of its operator, its key and its values. -/
theorem compileLabel_chars {w : Written} (h : w.Proper) :
    compileLabel (String.ofList (Text.trim w.chars)) = .ok (buildFilter w.operator w.key.text w.values) := by
  have hkey : keyOf w.operator (String.ofList (w.front ++ w.operator.token ++ w.back)) = w.key.text := by
    rw [keyOf_token (mark_notMem_front h), ofList_trim_front h]
  rw [trim_chars h, compileLabel, classify_chars h]
  simp only [hkey]
  have hf := mark_notMem_front h
  cases w with
  | equality isNegated key value =>
    have hop : (equality isNegated key value).operator.takesList = false := by cases isNegated <;> rfl
    have hvalue : String.ofList (Text.trim (equality isNegated key value).back) = value.text := by
      rw [back, Text.trim_trimEnd, h.2.1.ofList_trim_chars]
    rw [hop, valueOf_token hop hf, hvalue]
    rfl
  | membership isNegated key values after =>
    obtain ⟨-, hvalues, -, -, hne, hone⟩ := h
    have hop : (membership isNegated key values after).operator.takesList = true := by cases isNegated <;> rfl
    have htexts : (values.map Spaced.chars).map (fun v => String.ofList (Text.trim v)) = values.map Spaced.text := by
      rw [List.map_map]
      exact List.map_congr_left fun v hv => (hvalues v hv).ofList_trim_chars
    rw [hop, back, valuesOf_token hop hf (noParens_listed hvalues).2 (isBlankText_listed hvalues hne hone),
      splitOn_listed hvalues hne, htexts]
    rfl

/-! ## Written clauses in a query -/

/-- A written clause is one piece of a query, and it ends outside all parentheses. -/
theorem isPiece_chars {w : Written} (h : w.Proper) : IsPiece 0 w.chars ∧ depthThrough 0 w.chars = 0 := by
  cases w with
  | equality isNegated key value =>
    have hop : (equality isNegated key value).operator.takesList = false := by cases isNegated <;> rfl
    obtain ⟨ho, hc, htoken⟩ := Operator.token_plain hop
    have hparens : NoParens (equality isNegated key value).chars :=
      (h.1.noParens_chars.append ⟨ho, hc⟩).append h.2.1.noParens_chars
    have hcomma : ',' ∉ (equality isNegated key value).chars := by
      simp [chars, htoken, h.1.comma_notMem_chars, h.2.1.comma_notMem_chars]
    exact ⟨isPiece_of_noParens hparens (Or.inl hcomma), depthThrough_of_noParens hparens 0⟩
  | membership isNegated key values after =>
    obtain ⟨hkey, hvalues, hafter, -⟩ := h
    generalize hop : (membership isNegated key values after).operator = op
    have hlist : op.takesList = true := by rw [← hop]; cases isNegated <;> rfl
    obtain ⟨hopen, hclose, hcomma⟩ := op.stem_plain
    have hchars : (membership isNegated key values after).chars =
        (key.chars ++ op.stem) ++ '(' :: (listed values ++ ')' :: after) := by
      simp [chars, hop, op.token_eq, Operator.mark, hlist]
    have hfront : NoParens (key.chars ++ op.stem) := hkey.noParens_chars.append ⟨hopen, hclose⟩
    have hfrontComma : ',' ∉ key.chars ++ op.stem := by simp [hkey.comma_notMem_chars, hcomma]
    have hblank := (Text.isBlankText_iff _).1 hafter
    have hend : NoParens after := noParens_of_isBlankText hafter
    have hendComma : ',' ∉ after := fun hm => absurd (hblank _ hm) (by decide)
    rw [hchars]
    exact isPiece_parenthesized hfront hfrontComma (noParens_listed hvalues) hend hendComma

end Written

/-- A query of written clauses, of which there is at least one, is cut into these clauses. -/
theorem pieces_writtenQuery {clauses : List Written} (h : ∀ w ∈ clauses, w.Proper) (hne : clauses ≠ []) :
    pieces 0 (Text.joinWith [','] (clauses.map Written.chars)) = clauses.map Written.chars := by
  have hclauses : ∀ p ∈ clauses.map Written.chars, IsPiece 0 p ∧ depthThrough 0 p = 0 := by
    intro p hp
    obtain ⟨w, hw, rfl⟩ := List.mem_map.1 hp
    exact Written.isPiece_chars (h w hw)
  exact IsCut.pieces_eq {
    ne_nil := by simpa using hne
    joined := rfl
    no_comma := fun p hp => (isPiece_iff 0 p).1 (hclauses p hp).1
    closed := fun p hp => (hclauses p (List.mem_of_mem_dropLast hp)).2 }

end RanConsole.Query

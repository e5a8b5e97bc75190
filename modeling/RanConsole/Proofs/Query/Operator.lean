import RanConsole.Proofs.Text.Cut
import RanConsole.Query.Clause

/-!
# Operators and their tokens

Each token ends with a mark, an opening parenthesis or an equals sign, that stands nowhere else in it. So a token that occurs in a
text is found by its mark, and the operator of a clause is the first whose token occurs (`classify_eq_some_iff`).
-/

namespace RanConsole.Query

namespace Operator

/-- The operators that are looked for before this one. -/
def earlier : Operator → List Operator
  | .notAmong => []
  | .among => [.notAmong]
  | .notEqual => [.notAmong, .among]
  | .equal => [.notAmong, .among, .notEqual]

/-- The operators that are looked for after this one. -/
def later : Operator → List Operator
  | .notAmong => [.among, .notEqual, .equal]
  | .among => [.notEqual, .equal]
  | .notEqual => [.equal]
  | .equal => []

theorem inOrder_eq (op : Operator) : inOrder = op.earlier ++ op :: op.later := by
  cases op <;> rfl

theorem notMem_earlier (op : Operator) : op ∉ op.earlier := by
  cases op <;> decide

/-- The token of an operator without its last character. -/
def stem : Operator → List Char
  | .notAmong => " !in ".toList
  | .among => " in ".toList
  | .notEqual => ['!']
  | .equal => []

/-- The last character of the token of an operator. -/
def mark (op : Operator) : Char := if op.takesList then '(' else '='

theorem token_eq (op : Operator) : op.token = op.stem ++ [op.mark] := by
  cases op <;> rfl

theorem token_notEqual : Operator.notEqual.token = ['!', '='] :=
  rfl

theorem token_equal : Operator.equal.token = ['='] :=
  rfl

theorem mark_notMem_stem (op : Operator) : op.mark ∉ op.stem := by
  cases op <;> decide

/-- A stem holds no comma and no parenthesis. -/
theorem stem_plain (op : Operator) : '(' ∉ op.stem ∧ ')' ∉ op.stem ∧ ',' ∉ op.stem := by
  cases op <;> decide

/-- The token of an equality holds no comma and no parenthesis. -/
theorem token_plain {op : Operator} (hop : op.takesList = false) : '(' ∉ op.token ∧ ')' ∉ op.token ∧ ',' ∉ op.token := by
  cases op with
  | notAmong => cases hop
  | among => cases hop
  | notEqual => decide
  | equal => decide

/-- A token whose mark stands once in a text occurs in it only if its stem stands right before the mark. -/
theorem stem_suffix_of_occursIn {op : Operator} {b a : List Char} (hb : op.mark ∉ b) (ha : op.mark ∉ a)
    (h : Text.occursIn op.token (b ++ op.mark :: a) = true) : op.stem <:+ b := by
  obtain ⟨b', a', h'⟩ := (Text.occursIn_iff _ _).1 h
  have heq : b ++ op.mark :: a = (b' ++ op.stem) ++ op.mark :: a' := by
    rw [← h', op.token_eq]
    simp
  obtain ⟨rfl, -, -⟩ := (List.append_cons_inj_of_notMem hb ha).1 heq
  exact List.suffix_append _ _

/-- A token occurs only where its mark does. -/
theorem not_occursIn_of_mark_notMem {op : Operator} {s : List Char} (h : op.mark ∉ s) :
    Text.occursIn op.token s = false := by
  rw [← Bool.not_eq_true, Text.occursIn_iff]
  intro hin
  exact h (hin.subset (by simp [op.token_eq]))

/-- Without an opening parenthesis the token of no list operator occurs. -/
theorem not_occursIn_of_paren_notMem {op : Operator} (hop : op.takesList = true) {s : List Char} (h : '(' ∉ s) :
    Text.occursIn op.token s = false := by
  refine not_occursIn_of_mark_notMem ?_
  rw [mark, if_pos hop]
  exact h

/-- A text that is put together around a token holds it. -/
theorem occursIn_self (op : Operator) (b a : List Char) : Text.occursIn op.token (b ++ op.token ++ a) = true :=
  (Text.occursIn_iff _ _).2 ⟨b, a, rfl⟩

/-- What is found among the operators is the first in their order that a test accepts. -/
theorem find?_inOrder (p : Operator → Bool) (op : Operator) :
    inOrder.find? p = some op ↔ p op = true ∧ ∀ op' ∈ op.earlier, p op' = false := by
  rw [inOrder_eq op, List.find?_append]
  cases hEarlier : op.earlier.find? p with
  | some other =>
    have hMem := List.mem_of_find?_eq_some hEarlier
    have hOther := List.find?_some hEarlier
    constructor
    · intro h
      obtain rfl : other = op := Option.some.inj h
      exact absurd hMem other.notMem_earlier
    · rintro ⟨-, hNone⟩
      rw [hNone other hMem] at hOther
      exact Bool.noConfusion hOther
  | none =>
    constructor
    · intro h
      exact ⟨List.find?_some h, fun op' hMem => Bool.eq_false_iff.mpr (List.find?_eq_none.mp hEarlier op' hMem)⟩
    · rintro ⟨hOp, -⟩
      exact List.find?_cons_of_pos hOp

end Operator

/-- The operator of a clause is the one whose token occurs in it, while no token that is looked for before does. -/
theorem classify_eq_some_iff (clause : String) (op : Operator) :
    classify clause = some op ↔
      Text.occursIn op.token clause.toList = true ∧
        ∀ op' ∈ op.earlier, Text.occursIn op'.token clause.toList = false :=
  Operator.find?_inOrder _ op

/-! ## Clauses around one token -/

theorem classify_notAmong (b a : List Char) :
    classify (String.ofList (b ++ Operator.notAmong.token ++ a)) = some .notAmong := by
  rw [classify_eq_some_iff, String.toList_ofList]
  exact ⟨Operator.occursIn_self _ _ _, by simp [Operator.earlier]⟩

/-- With one opening parenthesis alone, the stem of `!in` would have to end where that of `in` does. -/
theorem classify_among {b a : List Char} (hb : '(' ∉ b) (ha : '(' ∉ a) :
    classify (String.ofList (b ++ Operator.among.token ++ a)) = some .among := by
  rw [classify_eq_some_iff, String.toList_ofList]
  refine ⟨Operator.occursIn_self _ _ _, ?_⟩
  intro op hop
  obtain rfl : op = .notAmong := by simpa [Operator.earlier] using hop
  have hshape : b ++ Operator.among.token ++ a = (b ++ Operator.among.stem) ++ '(' :: a := by
    simp [Operator.token_eq, Operator.mark, Operator.takesList]
  rw [hshape, ← Bool.not_eq_true]
  intro hoc
  have hfront : '(' ∉ b ++ Operator.among.stem := by
    rw [List.mem_append, not_or]
    exact ⟨hb, by decide⟩
  have hstem : Operator.notAmong.stem <:+ b ++ Operator.among.stem := Operator.stem_suffix_of_occursIn hfront ha hoc
  exact absurd (List.suffix_of_suffix_length_le (List.suffix_append _ _) hstem (by decide)) (by decide)

theorem classify_notEqual {b a : List Char} (hb : '(' ∉ b) (ha : '(' ∉ a) :
    classify (String.ofList (b ++ Operator.notEqual.token ++ a)) = some .notEqual := by
  rw [classify_eq_some_iff, String.toList_ofList]
  refine ⟨Operator.occursIn_self _ _ _, ?_⟩
  intro op hop
  have hlist : op.takesList = true := by
    obtain rfl | rfl : op = .notAmong ∨ op = .among := by simpa [Operator.earlier] using hop
    · rfl
    · rfl
  refine Operator.not_occursIn_of_paren_notMem hlist ?_
  simp [hb, ha, Operator.token_notEqual]

/-- An equals sign alone is the operator unless it stands behind an exclamation mark. -/
theorem classify_equal {b a : List Char} (hb : '(' ∉ b) (ha : '(' ∉ a) (hb' : '=' ∉ b) (ha' : '=' ∉ a)
    (hbang : ¬['!'] <:+ b) : classify (String.ofList (b ++ Operator.equal.token ++ a)) = some .equal := by
  rw [classify_eq_some_iff, String.toList_ofList]
  refine ⟨Operator.occursIn_self _ _ _, ?_⟩
  intro op hop
  have hparen : '(' ∉ b ++ Operator.equal.token ++ a := by simp [hb, ha, Operator.token_equal]
  obtain rfl | rfl | rfl : op = .notAmong ∨ op = .among ∨ op = .notEqual := by simpa [Operator.earlier] using hop
  · exact Operator.not_occursIn_of_paren_notMem rfl hparen
  · exact Operator.not_occursIn_of_paren_notMem rfl hparen
  · have hshape : b ++ Operator.equal.token ++ a = b ++ '=' :: a := by simp [Operator.token_equal]
    rw [hshape, ← Bool.not_eq_true]
    intro hoc
    exact hbang (Operator.stem_suffix_of_occursIn hb' ha' hoc)

/-! ## What is read behind the first mark -/

/-- The value of an equality stands behind the first equals sign. -/
theorem valueOf_of_toList_eq {clause : String} {k v : List Char} (h : clause.toList = k ++ '=' :: v) (hk : '=' ∉ k) :
    valueOf clause = String.ofList (Text.trim v) := by
  rw [valueOf, Text.after, (Text.cut?_char_eq_some_iff '=' _ k v).2 ⟨h, hk⟩]
  rfl

/-- What stands behind the first opening parenthesis decides on the values of a list. -/
theorem valuesOf_of_toList_eq {clause : String} {k v : List Char} (h : clause.toList = k ++ '(' :: v) (hk : '(' ∉ k) :
    valuesOf clause =
      match Text.cut? [')'] v with
      | none => .error (.unclosedList clause)
      | some (body, _) =>
        if Text.isBlankText body then .error (.emptyList clause)
        else .ok ((body.splitOn ',').map fun value => String.ofList (Text.trim value)) := by
  rw [valuesOf, Text.after, (Text.cut?_char_eq_some_iff '(' _ k v).2 ⟨h, hk⟩]
  rfl

/-! ## What is read around a token -/

/-- A token is found where its mark is first. -/
theorem cut?_token {op : Operator} {b : List Char} (hb : op.mark ∉ b) (a : List Char) :
    Text.cut? op.token (b ++ op.token ++ a) = some (b, a) := by
  have h := Text.cut?_at_mark op.mark_notMem_stem hb a
  rw [op.token_eq]
  simpa using h

/-- A token in front of which its mark does not stand ends with the first mark. -/
theorem toList_token (op : Operator) (b a : List Char) :
    (String.ofList (b ++ op.token ++ a)).toList = (b ++ op.stem) ++ op.mark :: a := by
  rw [String.toList_ofList, op.token_eq]
  simp

theorem mark_notMem_append_stem {op : Operator} {b : List Char} (hb : op.mark ∉ b) : op.mark ∉ b ++ op.stem := by
  simp [hb, op.mark_notMem_stem]

/-- The key is what stands in front of the token. -/
theorem keyOf_token {op : Operator} {b : List Char} (hb : op.mark ∉ b) (a : List Char) :
    keyOf op (String.ofList (b ++ op.token ++ a)) = String.ofList (Text.trim b) := by
  rw [keyOf, String.toList_ofList, Text.before, cut?_token hb]
  rfl

/-- The value of an equality is what stands behind the token. -/
theorem valueOf_token {op : Operator} (hop : op.takesList = false) {b : List Char} (hb : op.mark ∉ b) (a : List Char) :
    valueOf (String.ofList (b ++ op.token ++ a)) = String.ofList (Text.trim a) := by
  have hmark : op.mark = '=' := by rw [Operator.mark, hop]; rfl
  exact valueOf_of_toList_eq (hmark ▸ toList_token op b a) (hmark ▸ mark_notMem_append_stem hb)

/-- The values of a list are the pieces between the token and the first closing parenthesis behind it. -/
theorem valuesOf_token {op : Operator} (hop : op.takesList = true) {b : List Char} (hb : op.mark ∉ b) {body : List Char}
    (hbody : ')' ∉ body) (hne : Text.isBlankText body = false) (rest : List Char) :
    valuesOf (String.ofList (b ++ op.token ++ (body ++ ')' :: rest))) =
      .ok ((body.splitOn ',').map fun v => String.ofList (Text.trim v)) := by
  have hmark : op.mark = '(' := by rw [Operator.mark, hop]; rfl
  rw [valuesOf_of_toList_eq (hmark ▸ toList_token op b _) (hmark ▸ mark_notMem_append_stem hb),
    (Text.cut?_char_eq_some_iff ')' _ body rest).2 ⟨rfl, hbody⟩]
  simp only [hne]
  rfl

end RanConsole.Query

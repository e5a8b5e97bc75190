import RanConsole.Proofs.Query.Operator
import RanConsole.Proofs.Results
import RanConsole.Proofs.Text.Trim

/-!
# The two sides of an operator

The key of a clause stands in front of the first token of its operator. Its values are read behind the first mark of the operator,
the equals sign or the opening parenthesis that ends the token. These are the two sides of one token as long as no mark stands in
the key (`compileLabel_sides`). A lone `=` is its own mark, but `!=` and the lists can be preceded by marks, and then the values
begin inside the key (`compileLabel_sides_false`).
-/

namespace RanConsole.Query

/-- What an operator reads from a text: an equality one value, a list the values up to the first closing parenthesis. -/
inductive Operator.Reads : Operator → List Char → List String → Prop where
  | value {op : Operator} (text : List Char) :
      op.takesList = false → Reads op text [String.ofList (Text.trim text)]
  | list {op : Operator} (body rest : List Char) :
      op.takesList = true → ')' ∉ body →
        Reads op (body ++ ')' :: rest) ((body.splitOn ',').map fun v => String.ofList (Text.trim v))

/-- A list is read up to the first closing parenthesis, if that is not all blank. -/
theorem valuesOf_eq_ok_iff {clause : String} {k v : List Char} (h : clause.toList = k ++ '(' :: v) (hk : '(' ∉ k)
    (values : List String) :
    valuesOf clause = .ok values ↔
      ∃ body rest, v = body ++ ')' :: rest ∧ ')' ∉ body ∧ Text.isBlankText body = false ∧
        values = (body.splitOn ',').map fun value => String.ofList (Text.trim value) := by
  rw [valuesOf_of_toList_eq h hk]
  constructor
  · intro hv
    cases hcut : Text.cut? [')'] v with
    | none => simp [hcut] at hv
    | some found =>
      obtain ⟨body, rest⟩ := found
      obtain ⟨hshape, hbody⟩ := (Text.cut?_char_eq_some_iff ')' v body rest).1 hcut
      cases hblank : Text.isBlankText body with
      | true => simp [hcut, hblank] at hv
      | false => exact ⟨body, rest, hshape, hbody, hblank, by simpa [hcut, hblank] using hv.symm⟩
  · rintro ⟨body, rest, hshape, hbody, hblank, rfl⟩
    simp [(Text.cut?_char_eq_some_iff ')' v body rest).2 ⟨hshape, hbody⟩, hblank]

/-- The values of a clause with the operator. -/
def valuesFor (op : Operator) (clause : String) : Except FilterError (List String) :=
  if op.takesList then valuesOf clause else .ok [valueOf clause]

/-- The values are read behind the first mark of the operator. -/
theorem reads_of_valuesFor {op : Operator} {clause : String} {k v : List Char} (h : clause.toList = k ++ op.mark :: v)
    (hk : op.mark ∉ k) {values : List String} (hvalues : valuesFor op clause = .ok values) : op.Reads v values := by
  cases hop : op.takesList with
  | false =>
    rw [Operator.mark, hop] at h hk
    rw [valuesFor, hop] at hvalues
    obtain rfl : [valueOf clause] = values := Except.ok.inj hvalues
    rw [valueOf_of_toList_eq h hk]
    exact Operator.Reads.value v hop
  | true =>
    rw [Operator.mark, hop] at h hk
    rw [valuesFor, hop] at hvalues
    obtain ⟨body, rest, rfl, hbody, -, rfl⟩ := (valuesOf_eq_ok_iff h hk values).1 hvalues
    exact Operator.Reads.list body rest hop hbody

/-! ## Clauses with an operator -/

/-- A clause with an operator compiles to the filter of its key and its values. -/
theorem compileLabel_of_classify {clause : String} {op : Operator} (h : classify clause = some op) :
    compileLabel clause = (valuesFor op clause).map (buildFilter op (keyOf op clause)) := by
  rw [compileLabel, h, valuesFor]
  cases hop : op.takesList with
  | false =>
    simp only [hop]
    rfl
  | true =>
    simp only [hop]
    cases valuesOf clause <;> rfl

/-- A clause that compiles to a filter has an operator and values that can be read. -/
theorem exists_values_of_compileLabel {clause : String} {f : Filter} (h : compileLabel clause = .ok (some f)) :
    ∃ op values, classify clause = some op ∧ valuesFor op clause = .ok values ∧
      buildFilter op (keyOf op clause) values = some f := by
  cases hop : classify clause with
  | none =>
    rw [compileLabel, hop] at h
    cases h
  | some op =>
    rw [compileLabel_of_classify hop] at h
    cases hvalues : valuesFor op clause with
    | error e =>
      rw [hvalues] at h
      cases h
    | ok values =>
      rw [hvalues] at h
      exact ⟨op, values, rfl, hvalues, Except.ok.inj h⟩

/-- A clause compiles to no filter just when it has no operator. -/
theorem compileLabel_eq_none_iff (clause : String) : compileLabel clause = .ok none ↔ classify clause = none := by
  constructor
  · intro h
    cases hop : classify clause with
    | none => rfl
    | some op =>
      rw [compileLabel_of_classify hop] at h
      obtain ⟨values, hvalues, hbuilt⟩ := ok_map h
      cases op with
      | equal | notEqual =>
        obtain rfl : [valueOf clause] = values := Except.ok.inj hvalues
        cases hbuilt
      | among | notAmong => cases hbuilt
  · intro h
    rw [compileLabel, h]

/-- The key of a filter is the one it is built with. -/
theorem key_of_buildFilter {op : Operator} {key : String} {values : List String} {f : Filter}
    (h : buildFilter op key values = some f) : f.key = key := by
  cases op with
  | equal | notEqual =>
    obtain ⟨v, -, rfl⟩ := Option.map_eq_some_iff.1 h
    rfl
  | among | notAmong =>
    obtain rfl := Option.some.inj h
    rfl

/-- A clause is cut at the first token of its operator. -/
theorem exists_cut_of_classify {clause : String} {op : Operator} (h : classify clause = some op) :
    ∃ front back, Text.cut? op.token clause.toList = some (front, back) := by
  obtain ⟨⟨front, back⟩, hcut⟩ := Option.isSome_iff_exists.1 ((classify_eq_some_iff clause op).1 h).1
  exact ⟨front, back, hcut⟩

theorem keyOf_of_cut? {op : Operator} {clause : String} {front back : List Char}
    (h : Text.cut? op.token clause.toList = some (front, back)) : keyOf op clause = String.ofList (Text.trim front) := by
  rw [keyOf, Text.before, h]
  rfl

/-! ## Sides -/

/-- How the filter of a clause is read around the first token of its operator. -/
structure Sides (clause : String) (f : Filter) (op : Operator) (front back : List Char) (values : List String) : Prop where
  operator : classify clause = some op
  shape : clause.toList = front ++ op.token ++ back
  /-- The token occurs nowhere earlier. -/
  first : ∀ front' back', clause.toList = front' ++ op.token ++ back' → front.length ≤ front'.length
  key : f.key = String.ofList (Text.trim front)
  built : buildFilter op f.key values = some f
  /-- Without a mark in front of the token the values are read behind the token. -/
  behind : op.mark ∉ front → op.Reads back values
  /-- With a mark in front of the token they are read behind the first mark: the token itself is part of what they are read from. -/
  inside : ∀ k x, front = k ++ op.mark :: x → op.mark ∉ k → op.Reads (x ++ op.token ++ back) values
  /-- No mark stands in front of the first equals sign. -/
  equal : op = .equal → op.mark ∉ front

/-- The key of a filter is what stands in front of the first token of the operator. The values are read from what stands behind that
token alone as long as its mark does not occur in front of it, as is always the case for a lone `=`. -/
theorem compileLabel_sides {clause : String} {f : Filter} (h : compileLabel clause = .ok (some f)) :
    ∃ op front back values, Sides clause f op front back values := by
  obtain ⟨op, values, hop, hvalues, hbuilt⟩ := exists_values_of_compileLabel h
  obtain ⟨front, back, hcut⟩ := exists_cut_of_classify hop
  obtain ⟨hshape, hfirst⟩ := (Text.cut?_eq_some_iff _ _ _ _).1 hcut
  have hkey : f.key = keyOf op clause := key_of_buildFilter hbuilt
  refine ⟨op, front, back, values,
    { operator := hop, shape := hshape, first := hfirst, key := hkey.trans (keyOf_of_cut? hcut), built := hkey ▸ hbuilt,
      behind := ?_, inside := ?_, equal := ?_ }⟩
  · intro hfront
    refine reads_of_valuesFor (k := front ++ op.stem) ?_ (mark_notMem_append_stem hfront) hvalues
    rw [hshape, op.token_eq]
    simp
  · rintro k x rfl hk
    refine reads_of_valuesFor (k := k) ?_ hk hvalues
    rw [hshape]
    simp
  · rintro rfl
    exact ((Text.cut?_char_eq_some_iff '=' _ _ _).1 hcut).2

/-- A list whose key holds a parenthesis: its one value is read from the key. -/
theorem compileLabel_sides_parenthesisInKey :
    compileLabel "f(x) in (1)" = .ok (some ⟨"f(x)", .among ["x"]⟩) ∧
      ∃ op front back values, Sides "f(x) in (1)" ⟨"f(x)", .among ["x"]⟩ op front back values := by
  have h : compileLabel "f(x) in (1)" = .ok (some ⟨"f(x)", .among ["x"]⟩) := by decide
  exact ⟨h, compileLabel_sides h⟩

/-- Key and value of `a=b!=c` do not stand on the two sides of one `!=`: the value is read behind the equals sign in the key, so that
both of them hold the `b`. -/
theorem compileLabel_sides_false :
    compileLabel "a=b!=c" = .ok (some ⟨"a=b", .negation "" (.equal "b!=c")⟩) ∧
      ¬∃ op front back values,
        classify "a=b!=c" = some op ∧ "a=b!=c".toList = front ++ op.token ++ back ∧
          "a=b" = String.ofList (Text.trim front) ∧ op.Reads back values ∧
          buildFilter op "a=b" values = some ⟨"a=b", .negation "" (.equal "b!=c")⟩ := by
  refine ⟨by decide, ?_⟩
  rintro ⟨op, front, back, values, hop, hshape, hkey, hreads, hbuilt⟩
  have hclass : classify "a=b!=c" = some .notEqual := by decide
  obtain rfl : Operator.notEqual = op := Option.some.inj (hclass.symm.trans hop)
  cases hreads with
  | list body rest hlist => cases hlist
  | value text =>
    have hvalue : String.ofList (Text.trim back) = "b!=c" := by simpa [buildFilter] using hbuilt
    have hlen : ∀ (t : String) (s : List Char), t = String.ofList (Text.trim s) → t.toList.length ≤ s.length := by
      rintro _ s rfl
      rw [String.toList_ofList]
      exact Text.length_trim_le s
    -- the clause is too short for a key of three characters, the token and a value of four
    have hfront : 3 ≤ front.length := hlen "a=b" front hkey
    have hback : 4 ≤ back.length := hlen "b!=c" back hvalue.symm
    have hlength : 6 = front.length + 2 + back.length := by
      have := congrArg List.length hshape
      rwa [List.length_append, List.length_append] at this
    omega

end RanConsole.Query

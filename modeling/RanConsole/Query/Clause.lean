import RanConsole.Failure
import RanConsole.Query.Filter
import RanConsole.Text.Blank
import RanConsole.Text.Cut

/-!
# Clauses

A query is cut into clauses at the commas outside parentheses. A clause has the operator whose token it holds, where the tokens
are looked for in a fixed order; its key stands before the token and its value or its list of values after it.
-/

namespace RanConsole.Query

/-- The depth of parentheses after a character; a closing one without an opening one does not count. -/
def depthAfter (depth : Nat) (c : Char) : Nat :=
  if c = '(' then depth + 1 else if c = ')' then depth - 1 else depth

/-- The pieces of a text that starts at the given depth, cut at the commas of depth zero. There is at least one. -/
def pieces (depth : Nat) : List Char → List (List Char)
  | [] => [[]]
  | c :: s =>
    if c = ',' ∧ depth = 0 then [] :: pieces 0 s
    else
      match pieces (depthAfter depth c) s with
      | [] => [[c]]
      | piece :: rest => (c :: piece) :: rest

/-- The clauses of a query, without the blanks around them. -/
def splitClauses (query : String) : List String :=
  (pieces 0 query.toList).map fun piece => String.ofList (Text.trim piece)

/-- The operators of clauses. -/
inductive Operator where
  | notAmong
  | among
  | notEqual
  | equal
  deriving DecidableEq, Repr

/-- The text that a clause with the operator holds. -/
def Operator.token : Operator → List Char
  | .notAmong => " !in (".toList
  | .among => " in (".toList
  | .notEqual => "!=".toList
  | .equal => "=".toList

/-- Whether the operator takes a list of values. -/
def Operator.takesList : Operator → Bool
  | .notAmong | .among => true
  | .notEqual | .equal => false

/-- The operators in the order in which they are looked for: lists before equalities, and `!=` before the `=` it holds. -/
def Operator.inOrder : List Operator := [.notAmong, .among, .notEqual, .equal]

/-- The operator of a clause. -/
def classify (clause : String) : Option Operator :=
  Operator.inOrder.find? fun op => Text.occursIn op.token clause.toList

/-- The text before the first token of the operator. -/
def keyOf (op : Operator) (clause : String) : String :=
  String.ofList (Text.trim (Text.before op.token clause.toList))

/-- The text after the first `=`. -/
def valueOf (clause : String) : String :=
  String.ofList (Text.trim (Text.after ['='] clause.toList))

/-- Why a query cannot be compiled. -/
inductive FilterError where
  | unclosedList (clause : String)
  | emptyList (clause : String)
  | unrecognized (clause : String)
  deriving DecidableEq, Repr

/-- The clause that the failure is about. -/
def FilterError.clause : FilterError → String
  | .unclosedList clause | .emptyList clause | .unrecognized clause => clause

/-- The wording of the failure. -/
def FilterError.message : FilterError → String
  | .unclosedList _ => "Missing ')' in value list"
  | .emptyList _ => "Empty value list"
  | .unrecognized _ => "Unrecognized filter clause"

/-- The failure as the program reports it. -/
def FilterError.failure (e : FilterError) : Failure :=
  .filter { message := e.message } (some e.clause)

/-- The values between the first `(` and the first `)` after it. -/
def valuesOf (clause : String) : Except FilterError (List String) :=
  match Text.cut? [')'] (Text.after ['('] clause.toList) with
  | none => .error (.unclosedList clause)
  | some (body, _) =>
    if Text.isBlankText body then .error (.emptyList clause)
    else .ok ((body.splitOn ',').map fun value => String.ofList (Text.trim value))

/-- The filter of an operator, a key and its values; an equality needs one value. -/
def buildFilter (op : Operator) (key : String) (values : List String) : Option Filter :=
  match op with
  | .equal => values.head?.map fun v => ⟨key, .equal v⟩
  | .notEqual => values.head?.map fun v => ⟨key, .negation "" (.equal v)⟩
  | .among => some ⟨key, .among values⟩
  | .notAmong => some ⟨key, .negation "" (.among values)⟩

/-- The filter of a clause; none if the clause has no operator. -/
def compileLabel (clause : String) : Except FilterError (Option Filter) :=
  match classify clause with
  | none => .ok none
  | some op => do
    let values ← if op.takesList then valuesOf clause else .ok [valueOf clause]
    return buildFilter op (keyOf op clause) values

/-- Filters on kinds are not supported yet: no clause gives one. -/
def compileKind (_clause : String) : Option Filter := none

end RanConsole.Query

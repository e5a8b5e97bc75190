import RanConsole.Number.Numeral
import RanConsole.Query.Compile
import RanConsole.Text.Blank

/-!
# Option values

How the values of options are read: lists that may be given in pieces, lists of unsigned integers, and label queries.
-/

namespace RanConsole.Options

/-- Why the value of an option is refused. -/
inductive OptionError where
  | numeral (e : NumeralError)
  | negative
  | filter (e : Query.FilterError)
  deriving DecidableEq, Repr

/-- The wording of the refusal. -/
def OptionError.message : OptionError → String
  | .numeral e => "expected unsigned integers: " ++ e.message
  | .negative => "expected unsigned integers"
  | .filter e => "Invalid filter: " ++ e.failure.text

/-- The items of one value: what stands between its commas, without blanks around and without empty items. -/
def items (value : String) : List String :=
  ((value.toList.splitOn ',').map Text.trim).filterMap fun s => if s.isEmpty then none else some (String.ofList s)

/-- The items of all values of an option, in their order. -/
def list (values : List String) : List String :=
  values.flatMap items

/-- The items of all values of an option as unsigned integers. -/
def unsignedList (values : List String) : Except OptionError (List Int) := do
  let numbers ← ((list values).mapM readInteger).mapError .numeral
  if numbers.any (· < 0) then .error .negative else .ok numbers

/-- A label query that compiles, or the empty query when there is none. -/
def labelQuery (value : Option String) : Except OptionError String :=
  match value with
  | none => .ok ""
  | some query =>
    if query = "" then .ok ""
    else
      match Query.labelResult query with
      | .ok _ => .ok query
      | .error e => .error (.filter e)

end RanConsole.Options

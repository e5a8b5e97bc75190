import RanConsole.Mapping
import RanConsole.Number.Binary64

/-!
# JSON values

Integers and floating point numbers are kept apart, and an object remembers the order of its members.
-/

namespace RanConsole

/-- A JSON value. -/
inductive Json where
  | null
  | bool (b : Bool)
  | int (i : Int)
  | float (x : Binary64)
  | str (s : String)
  | arr (items : List Json)
  | obj (members : List (String × Json))
  deriving BEq, Repr, Inhabited

namespace Json

/-- The member of an object. -/
def member? (key : String) : Json → Option Json
  | .obj members => Mapping.get? key members
  | _ => none

/-- The list of texts. -/
def texts (items : List String) : Json := .arr (items.map .str)

end Json

end RanConsole

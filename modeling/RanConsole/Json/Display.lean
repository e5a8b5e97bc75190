import RanConsole.Json.Basic
import RanConsole.Number.Layout
import RanConsole.Text.Cut
import RanConsole.Text.Quoted

/-!
# Values in cells and messages

The display form shows a value to a person: a text as it is, `None`, `True` and `False` for null and the truth values, and lists
and objects in brackets with their texts in quotes.
-/

namespace RanConsole.Json

mutual

/-- A value inside brackets, where texts are quoted. -/
def shown : Json → List Char
  | .null => "None".toList
  | .bool true => "True".toList
  | .bool false => "False".toList
  | .int i => integerText i
  | .float x => x.text.toList
  | .str s => Text.quote s.toList
  | .arr items => '[' :: (Text.joinWith ", ".toList (shownItems items) ++ [']'])
  | .obj members => '\x7B' :: (Text.joinWith ", ".toList (shownMembers members) ++ ['\x7D'])

/-- The items of a list. -/
def shownItems : List Json → List (List Char)
  | [] => []
  | v :: rest => shown v :: shownItems rest

/-- The members of an object. -/
def shownMembers : List (String × Json) → List (List Char)
  | [] => []
  | (key, v) :: rest => (Text.quote key.toList ++ ": ".toList ++ shown v) :: shownMembers rest

end

/-- A value with its texts quoted. -/
def quotedText (v : Json) : String := String.ofList v.shown

/-- A value as a cell or a message shows it. -/
def text : Json → String
  | .str s => s
  | v => v.quotedText

end RanConsole.Json

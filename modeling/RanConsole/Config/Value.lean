import RanConsole.Json.Display
import RanConsole.Number.Numeral
import RanConsole.Text.LetterCase
import RanConsole.Yaml.Style

/-!
# Values typed on the command line

The text of a configuration value is taken for the scalar that it most likely means: a truth value, null, an integer, a floating
point number, or itself.
-/

namespace RanConsole.Config

/-- A scalar as a message shows it. -/
def display : Yaml.Scalar → String
  | .null => Json.null.text
  | .bool b => (Json.bool b).text
  | .int i => (Json.int i).text
  | .float x => x.text
  | .str s => s
  | .octets bs => String.ofList (Text.Base64.encode bs)
  | .date d => String.ofList d.text
  | .moment m => String.ofList (m.text ' ')

/-- The words that mean a truth value or null, in lower case. -/
def words : List (String × Yaml.Scalar) :=
  [("true", .bool true), ("yes", .bool true), ("on", .bool true), ("false", .bool false), ("no", .bool false),
   ("off", .bool false), ("null", .null), ("none", .null), ("~", .null)]

/-- Whether a text looks like an integer: digits of any kind after at most a minus. -/
def looksInteger : List Char → Bool
  | '-' :: s => Text.allDigits s
  | s => Text.allDigits s

/-- The scalar that a text most likely means. A text that looks like an integer has to be one. -/
def coerce (value : String) : Except NumeralError Yaml.Scalar :=
  match words.lookup (lowerCase value) with
  | some scalar => .ok scalar
  | none =>
    if looksInteger value.toList then (readInteger value).map .int
    else
      match readNumber? value with
      | some x => .ok (.float x)
      | none => .ok (.str value)

end RanConsole.Config

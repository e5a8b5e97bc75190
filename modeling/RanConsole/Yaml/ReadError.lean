import RanConsole.Number.Numeral

/-!
# Texts without a YAML value

A text may break the rules of YAML, or keep them and name a value that nothing can hold: a number without digits, a day that the
calendar does not have, a character past the last one.
-/

namespace RanConsole.Yaml

/-- Why a text has no YAML value that can be held. -/
inductive ReadError where
  | malformed
  | numeral (e : NumeralError)
  /-- The text of a number is empty, or a sign alone. -/
  | emptyNumeral
  | notANumber (text : String)
  /-- A number grows past the greatest one that can be held. -/
  | tooGreat
  | notATruthValue (word : String)
  /-- A date or a time that the calendar or the clock does not have. -/
  | noSuchTime (reason : String)
  | notATime
  /-- A mapping stands for a time. -/
  | mappingAsTime
  | noSuchCharacter
  /-- The code of a character does not fit into 31 bits. -/
  | characterCodeTooGreat
  /-- Lists and mappings lie inside one another past the limit. -/
  | tooDeep
  deriving DecidableEq, Repr

/-- The wording of the error. -/
def ReadError.message : ReadError → String
  | .malformed => "malformed YAML"
  | .numeral e => e.message
  | .emptyNumeral => "string index out of range"
  | .notANumber text => "could not convert string to float: " ++ quoted text
  | .tooGreat => "number too large"
  | .notATruthValue word => quoted word
  | .noSuchTime reason => reason
  | .notATime => "not a time"
  | .mappingAsTime => "a mapping is no time"
  | .noSuchCharacter => "chr() arg not in range(0x110000)"
  | .characterCodeTooGreat => "character code too large"
  | .tooDeep => "nested too deeply"

/-- The value of an option; its absence breaks the rules of YAML. -/
def required {α : Type} : Option α → Except ReadError α
  | some a => .ok a
  | none => .error .malformed

/-- What a text cannot be that breaks the rules of YAML. -/
def refused {α : Type} : Except ReadError α := .error .malformed

end RanConsole.Yaml

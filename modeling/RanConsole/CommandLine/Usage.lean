import RanConsole.Options
import RanConsole.Text.Quoted

/-!
# Usage errors

What can be wrong with the arguments of a run, and how the user is told.
-/

namespace RanConsole.CommandLine

/-- Why the value of an option or an argument is refused. -/
inductive ValueFault where
  | notAnInteger (text : String)
  | negative (number : Int)
  | notAChoice (text : String) (choices : List String)
  | refused (e : Options.OptionError)
  /-- The query has a clause that is not allowed. -/
  | filter (e : Query.FilterError)
  deriving DecidableEq, Repr

/-- The wording of the refusal. -/
def ValueFault.message : ValueFault → String
  | .notAnInteger text => quoted text ++ " is not a valid integer range."
  | .negative number => toString number ++ " is not in the range x>=0."
  | .notAChoice text choices => quoted text ++ " is not one of " ++ ", ".intercalate (choices.map quoted) ++ "."
  | .refused e => e.message
  | .filter e => e.failure.text

/-- What is wrong with the arguments of a run. -/
inductive UsageError where
  | noSuchOption (name : String)
  | noSuchCommand (name : String)
  | missingCommand
  | missingArgument (name : String)
  | extraArguments (arguments : List String)
  /-- A value of an option or an argument, which is named as the user knows it. -/
  | invalidValue (place : String) (fault : ValueFault)
  | valueMissing (option : String)
  | valueNotTaken (option : String)
  deriving DecidableEq, Repr

/-- The wording of the error. -/
def UsageError.message : UsageError → String
  | .noSuchOption name => "No such option " ++ quoted name ++ "."
  | .noSuchCommand name => "No such command " ++ quoted name ++ "."
  | .missingCommand => "Missing command."
  | .missingArgument name => "Missing argument '" ++ name ++ "'."
  | .extraArguments [argument] => "Got unexpected extra argument (" ++ argument ++ ")"
  | .extraArguments arguments => "Got unexpected extra arguments (" ++ " ".intercalate arguments ++ ")"
  | .invalidValue place fault => "Invalid value for " ++ place ++ ": " ++ fault.message
  | .valueMissing option => "Option " ++ quoted option ++ " requires an argument."
  | .valueNotTaken option => "Option " ++ quoted option ++ " does not take a value."

/-- Whether the error is told without the usage of the command. -/
def UsageError.standsAlone : UsageError → Bool
  | .valueMissing _ | .valueNotTaken _ => true
  | _ => false

/-- The place of a command: the words that lead to it and the arguments it takes, as its usage shows them. -/
structure Place where
  words : List String
  arguments : List String
  deriving DecidableEq, Repr

/-- The words that lead to a command. -/
def Place.path (p : Place) : String := " ".intercalate p.words

/-- The usage of a command. -/
def Place.usage (p : Place) : String :=
  " ".intercalate (["Usage:"] ++ p.words ++ ["[OPTIONS]"] ++ p.arguments)

/-- The messages about an error at a command. -/
def UsageError.complaint (p : Place) (e : UsageError) : List String :=
  let error := "Error: " ++ e.message
  if e.standsAlone then [error]
  else [p.usage, "Try '" ++ p.path ++ " --help' for help.\n", error]

end RanConsole.CommandLine

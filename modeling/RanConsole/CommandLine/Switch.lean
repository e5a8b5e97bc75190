import RanConsole.CommandLine.Usage

/-!
# Options on the command line

Options have a long name and some a letter; letters can be put together after one dash. The value of an option is attached to it or
is the next argument. After two dashes nothing is an option any more. A group of commands ends its options at the first argument
that is none.
-/

namespace RanConsole.CommandLine

/-- The options of all commands. -/
inductive Switch where
  | help
  | version
  | logLevel
  | logJson
  | server
  | token
  | format
  | quiet
  | noHeaders
  | watch
  | label
  | kind
  | strict
  | cells
  | serviceModels
  | controllers
  deriving DecidableEq, Repr

namespace Switch

/-- The long name of an option. -/
def name : Switch → String
  | help => "--help"
  | version => "--version"
  | logLevel => "--log-level"
  | logJson => "--log-json"
  | server => "--server"
  | token => "--token"
  | format => "--format"
  | quiet => "--quiet"
  | noHeaders => "--no-headers"
  | watch => "--watch"
  | label => "--label"
  | kind => "--kind"
  | strict => "--strict"
  | cells => "--cells"
  | serviceModels => "--service-models"
  | controllers => "--controllers"

/-- The letter of an option. -/
def letter? : Switch → Option Char
  | server => some 's'
  | format => some 'f'
  | quiet => some 'q'
  | watch => some 'w'
  | _ => none

/-- Whether an option has a value. -/
def takesValue : Switch → Bool
  | logLevel | server | token | format | label | kind | cells | serviceModels | controllers => true
  | help | version | logJson | quiet | noHeaders | watch | strict => false

/-- The option as errors name it. -/
def display (s : Switch) : String :=
  " / ".intercalate (quoted s.name :: s.letter?.toList.map fun c => quoted (String.ofList ['-', c]))

end Switch

/-- The options given and the other arguments, both in their order. -/
structure Scanned where
  given : List (Switch × Option String) := []
  arguments : List String := []
  deriving DecidableEq, Repr

namespace Scanned

/-- The values of an option. -/
def values (s : Switch) (a : Scanned) : List String :=
  a.given.filterMap fun (t, v) => if t = s then v else none

/-- The last value of an option. -/
def value? (s : Switch) (a : Scanned) : Option String := (a.values s).getLast?

/-- Whether an option is given. -/
def has (s : Switch) (a : Scanned) : Bool := a.given.any (·.1 = s)

/-- Options put in front. -/
def addAll (given : List (Switch × Option String)) (a : Scanned) : Scanned :=
  { a with given := given ++ a.given }

/-- An argument put in front. -/
def addArgument (argument : String) (a : Scanned) : Scanned :=
  { a with arguments := argument :: a.arguments }

end Scanned

/-- What an argument with options says: the options that are complete, and the one that has the next argument as its value, with the
name it is called by. -/
abbrev Reading := List (Switch × Option String) × Option (Switch × String)

/-- The options of letters after a dash. The letters after one that has a value are its value. -/
def readLetters (known : List Switch) : List Char → Except UsageError Reading
  | [] => .ok ([], none)
  | c :: rest =>
    let name := String.ofList ['-', c]
    match known.find? (·.letter? = some c) with
    | none => .error (.noSuchOption name)
    | some s =>
      if s.takesValue then
        .ok (if rest.isEmpty then ([], some (s, name)) else ([(s, some (String.ofList rest))], none))
      else do
        let (given, last) ← readLetters known rest
        return ((s, none) :: given, last)

/-- The name and the value of an argument that may have a value attached to it. -/
def attachedValue (argument : List Char) : List Char × Option String :=
  match argument.dropWhile (· ≠ '=') with
  | _ :: v => (argument.takeWhile (· ≠ '='), some (String.ofList v))
  | [] => (argument, none)

/-- The options of an argument that starts with a dash. -/
def readOption (known : List Switch) (argument : List Char) : Except UsageError Reading :=
  let (name, value) := attachedValue argument
  let name := String.ofList name
  match known.find? (·.name = name) with
  | some s =>
    match s.takesValue, value with
    | true, some v => .ok ([(s, some v)], none)
    | true, none => .ok ([], some (s, name))
    | false, some _ => .error (.valueNotTaken name)
    | false, none => .ok ([(s, none)], none)
  | none => if ['-', '-'].isPrefixOf argument then .error (.noSuchOption name) else readLetters known (argument.drop 1)

/-- Whether an argument is read as options: it starts with a dash and goes on. -/
def isOption (argument : List Char) : Bool :=
  argument.head? == some '-' && 1 < argument.length

/-- The arguments of a command or, where options end at the first other argument, of a group of commands. -/
def scan (known : List Switch) (ofGroup : Bool) : List String → Except UsageError Scanned
  | [] => .ok {}
  | argument :: rest =>
    if argument = "--" then .ok { arguments := rest }
    else if isOption argument.toList then
      match readOption known argument.toList with
      | .error e => .error e
      | .ok (given, none) => (scan known ofGroup rest).map (·.addAll given)
      | .ok (given, some (s, name)) =>
        match rest with
        | [] => .error (.valueMissing name)
        | v :: rest => (scan known ofGroup rest).map (·.addAll (given ++ [(s, some v)]))
    else if ofGroup then .ok { arguments := argument :: rest }
    else (scan known ofGroup rest).map (·.addArgument argument)

end RanConsole.CommandLine

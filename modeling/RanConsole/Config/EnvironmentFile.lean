import RanConsole.Mapping
import RanConsole.Text.Blank

/-!
# Files of variables

A file of variables has an assignment `NAME=value` on a line, with the word `export` in front of it if one likes, and comments after
a number sign. A value in quotes may go over several lines and hold escapes. A variable that is mentioned without a value is null.
In a value `${NAME}` stands for the value of another variable, and `${NAME:-text}` for a text where there is none. Lines that are no
assignment are passed over.
-/

namespace RanConsole.Config.EnvironmentFile

open Text

/-- A variable and its value, null if it has none. -/
abbrev Assignment := String × Option String

/-- White space inside a line. -/
def isGap (c : Char) : Bool := isBlank c && c != '\r' && c != '\n'

/-- A character of a line. -/
def isInLine (c : Char) : Bool := c != '\r' && c != '\n'

/-- The text behind the word in front of an assignment, if it is there. -/
def withoutExport (s : List Char) : List Char :=
  let word := "export".toList
  if word.isPrefixOf s && ((s.drop word.length).head?).any isGap then (s.drop word.length).dropWhile isGap else s

/-- A name and what follows it; a comment has none. Where there is no name the place of the failure is given. -/
def name (s : List Char) : Except (List Char) (Option String × List Char) :=
  match s with
  | '#' :: _ => .ok (none, s)
  | '\'' :: t =>
    match t.takeWhile (· ≠ '\''), t.dropWhile (· ≠ '\'') with
    | c :: word, _ :: rest => .ok (some (String.ofList (c :: word)), rest)
    | _, _ => .error s
  | _ =>
    let isNameChar (c : Char) : Bool := c != '=' && c != '#' && !isBlank c
    match s.takeWhile isNameChar with
    | [] => .error s
    | word => .ok (some (String.ofList word), s.dropWhile isNameChar)

/-- The characters between quotes, escapes included, and what follows the closing quote. A quote after a backslash closes nothing. -/
def quotedText (quote : Char) (afterBackslash : Bool) : List Char → Option (List Char × List Char)
  | [] => none
  | c :: s =>
    if c = quote && !afterBackslash then some ([], s)
    else (quotedText quote (c == '\\') s).map fun (text, rest) => (c :: text, rest)

/-- The characters that a letter after a backslash stands for, between each kind of quotes. -/
def escapes (quote : Char) : List (Char × Char) :=
  let both := [('\\', '\\'), ('\'', '\'')]
  if quote = '\'' then both
  else
    both ++ [('"', '"'), ('a', '\x07'), ('b', '\x08'), ('f', '\x0C'), ('n', '\n'), ('r', '\r'), ('t', '\t'), ('v', '\x0B')]

/-- The text that is meant by characters with escapes. -/
def unescaped (quote : Char) : List Char → List Char
  | [] => []
  | [c] => [c]
  | c :: d :: s =>
    match c, (escapes quote).lookup d with
    | '\\', some e => e :: unescaped quote s
    | _, _ => c :: unescaped quote (d :: s)

/-- A text up to the blanks in front of a comment. -/
def withoutComment : List Char → List Char
  | [] => []
  | c :: s => if isBlank c && (s.dropWhile isBlank).head? = some '#' then [] else c :: withoutComment s

/-- A value and what follows it. -/
def value (s : List Char) : Except (List Char) (List Char × List Char) :=
  match s with
  | [] => .ok ([], [])
  | c :: t =>
    if c = '\'' || c = '"' then
      match quotedText c false t with
      | some (text, rest) => .ok (unescaped c text, rest)
      | none => .error s
    else .ok (trimEnd (withoutComment (s.takeWhile isInLine)), s.dropWhile isInLine)

/-- What follows a comment and the end of a line. -/
def lineEnd (s : List Char) : Except (List Char) (List Char) :=
  let rest :=
    match s.dropWhile isGap with
    | '#' :: t => t.dropWhile isInLine
    | _ => s
  match rest.dropWhile isGap with
  | [] => .ok []
  | '\r' :: '\n' :: t => .ok t
  | c :: t => if isInLine c then .error rest else .ok t

/-- An assignment and what follows its line. -/
def assignment (s : List Char) : Except (List Char) (Option Assignment × List Char) := do
  let (name, rest) ← name (withoutExport s)
  match rest.dropWhile isGap with
  | '=' :: t =>
    let (text, rest) ← value (t.dropWhile isGap)
    return (name.map fun n => (n, some (String.ofList text)), ← lineEnd rest)
  | rest => return (name.map fun n => (n, none), ← lineEnd rest)

/-- The assignments of a text, at most the given number of them. -/
def assignments : (fuel : Nat) → List Char → List Assignment
  | 0, _ => []
  | fuel + 1, s =>
    match s.dropWhile isBlank with
    | [] => []
    | s =>
      match assignment s with
      | .ok (found, rest) => found.toList ++ assignments fuel rest
      | .error place => assignments fuel ((place.dropWhile isInLine).drop 1)

/-- A value with the variables that it mentions replaced by theirs. Each step takes at least one character. -/
def replaced (known : List Assignment) : (fuel : Nat) → List Char → List Char
  | 0, _ => []
  | _, [] => []
  | fuel + 1, '$' :: '\x7B' :: s =>
    let name := s.takeWhile fun c => c != '\x7D' && c != ':'
    let found (default : List Char) : List Char :=
      match Mapping.get? (String.ofList name) known with
      | some v => (v.getD "").toList
      | none => default
    match s.dropWhile fun c => c != '\x7D' && c != ':' with
    | '\x7D' :: rest => found [] ++ replaced known fuel rest
    | ':' :: '-' :: t =>
      match t.dropWhile (· ≠ '\x7D') with
      | _ :: rest => found (t.takeWhile (· ≠ '\x7D')) ++ replaced known fuel rest
      | [] => '$' :: replaced known fuel ('\x7B' :: s)
    | _ => '$' :: replaced known fuel ('\x7B' :: s)
  | fuel + 1, c :: s => c :: replaced known fuel s

/-- The variables of a file, which may mention those around them and those in front of them. -/
def read (surrounding : List Assignment) (text : String) : List Assignment :=
  let s := text.toList
  (assignments (s.length + 1) s).foldl
    (fun found (name, v) =>
      let known := Mapping.putAll surrounding found
      Mapping.put name (v.map fun t => String.ofList (replaced known (t.length + 1) t.toList)) found)
    []

end RanConsole.Config.EnvironmentFile

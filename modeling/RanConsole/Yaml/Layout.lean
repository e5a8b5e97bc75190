import RanConsole.Yaml.Outline
import RanConsole.Yaml.Style

/-!
# Writing YAML

Mappings and lists are laid out by indentation, two columns a level; the items of a list stand under the key of the list. Empty
ones are written in brackets. A key that is empty, long or goes over several lines stands after a question mark, its value after a
colon on a line of its own. A value with a label or a tag begins on the next line, unless it is a scalar or empty.
-/

namespace RanConsole.Yaml

/-- The length of the name of a scalar's type. -/
def Scalar.typeNameLength : Scalar → Nat
  | .str _ | .int _ => 5
  | .null | .bool _ => 6
  | .float _ => 7
  | .octets _ => 8
  | .date _ | .moment _ => 11

/-- The length, with that of the name of its type, that a key before a colon stays below. -/
def maxPlainKey : Nat := 128

/-- A line feed, or a character that some take for one. -/
def isWrittenBreak (c : Char) : Bool := isBreak c && c != '\r'

/-- Whether a key can stand before a colon on one line. -/
def Scalar.isSimpleKey (s : Scalar) : Bool :=
  !s.chars.isEmpty && !s.chars.any isWrittenBreak && decide (s.chars.length + s.typeNameLength < maxPlainKey)

/-- The text of a label. -/
def labelText (label : Nat) : List Char := 'i' :: 'd' :: paddedNumber 3 label

/-- The label and the tag in front of a value, each after a space. -/
def properties (label : Option Nat) (tag : Option String) : List Char :=
  label.elim [] (fun l => ' ' :: '&' :: labelText l) ++ tag.elim [] (fun t => ' ' :: t.toList)

/-- What a mark stands in front of. -/
inductive Mark where
  | item
  | value
  deriving DecidableEq, Repr

mutual

/-- A value after the key and the colon that end before a column, in a mapping of the given indentation. -/
def afterKey (indent column : Nat) : Outline → List Char
  | .alias label => ' ' :: '*' :: labelText label
  | .scalar label s =>
    let front := properties label none
    front ++ ' ' :: s.written ⟨true, indent + 2⟩ (column + front.length + 1)
  | .list label tag [] => properties label tag ++ " []".toList
  | .map label tag [] => properties label tag ++ " \x7B\x7D".toList
  | .list label tag (v :: rest) => properties label tag ++ newLine indent ++ itemLines indent (v :: rest)
  | .map label tag (entry :: rest) => properties label tag ++ newLine (indent + 2) ++ entryLines (indent + 2) (entry :: rest)

/-- A value after a mark at the given indentation. -/
def afterMark (mark : Mark) (indent : Nat) : Outline → List Char
  | .alias label => ' ' :: '*' :: labelText label
  | .scalar label s =>
    let front := properties label none
    front ++ ' ' :: s.written ⟨true, indent + 2⟩ (indent + 2 + front.length)
  | .list label tag [] => properties label tag ++ " []".toList
  | .map label tag [] => properties label tag ++ " \x7B\x7D".toList
  | .list label tag (v :: rest) =>
    let front := properties label tag
    if front.isEmpty then ' ' :: itemLines (indent + 2) (v :: rest)
    else
      let inside := if mark = .item then indent + 2 else indent
      front ++ newLine inside ++ itemLines inside (v :: rest)
  | .map label tag (entry :: rest) =>
    let front := properties label tag
    if front.isEmpty then ' ' :: entryLines (indent + 2) (entry :: rest)
    else front ++ newLine (indent + 2) ++ entryLines (indent + 2) (entry :: rest)

/-- The items of a list at an indentation. -/
def itemLines (indent : Nat) : List Outline → List Char
  | [] => []
  | [v] => '-' :: afterMark .item indent v
  | v :: rest => '-' :: afterMark .item indent v ++ newLine indent ++ itemLines indent rest

/-- An entry of a mapping at an indentation. -/
def entryLine (indent : Nat) : Outline × Outline → List Char
  | (key, v) =>
    let simple :=
      match key with
      | .alias label => some ('*' :: labelText label)
      | .scalar label s =>
        let front := label.elim [] fun l => '&' :: (labelText l ++ [' '])
        if s.isSimpleKey then some (front ++ s.written ⟨false, indent + 2⟩ (indent + front.length)) else none
      | _ => none
    match simple with
    | some text => text ++ ':' :: afterKey indent (indent + text.length + 1) v
    | none => '?' :: afterMark .value indent key ++ newLine indent ++ ':' :: afterMark .value indent v

/-- The entries of a mapping at an indentation. -/
def entryLines (indent : Nat) : List (Outline × Outline) → List Char
  | [] => []
  | [entry] => entryLine indent entry
  | entry :: rest => entryLine indent entry ++ newLine indent ++ entryLines indent rest

end

/-- The text of an outline. -/
def Outline.text : Outline → List Char
  | .map label tag (entry :: rest) =>
    match properties label tag with
    | [] => entryLines 0 (entry :: rest)
    | _ :: front => front ++ newLine 0 ++ entryLines 0 (entry :: rest)
  | .list label tag (v :: rest) =>
    match properties label tag with
    | [] => itemLines 0 (v :: rest)
    | _ :: front => front ++ newLine 0 ++ itemLines 0 (v :: rest)
  | o => (afterKey 0 0 o).tail

/-- Why a document cannot be written. -/
inductive WriteError where
  /-- An integer has too many digits to be written in decimal. -/
  | integerTooLong
  /-- Lists and mappings lie inside one another past the limit. -/
  | tooDeep
  deriving DecidableEq, Repr

/-- The wording of the error. -/
def WriteError.message : WriteError → String
  | .integerTooLong =>
    "Exceeds the limit (4300 digits) for integer string conversion; use sys.set_int_max_str_digits() to increase the limit"
  | .tooDeep => "nested too deeply"

/-- Whether a scalar cannot be written. -/
def Scalar.isTooLong : Scalar → Bool
  | .int i => Nat.pow 10 Numeral.maxDigits ≤ i.natAbs
  | _ => false

/-- How deep lists and mappings lie inside one another at most. -/
def maxWrittenDepth : Nat := 325

namespace Outline

mutual

/-- Why an outline cannot be written inside the given depth, if it cannot. -/
def fault? (depth : Nat) : Outline → Option WriteError
  | .alias _ => none
  | .scalar _ s => if s.isTooLong then some .integerTooLong else none
  | .list _ _ items => if depth = 0 then some .tooDeep else itemsFault? (depth - 1) items
  | .map _ _ entries => if depth = 0 then some .tooDeep else entriesFault? (depth - 1) entries

/-- Why the items of a list cannot be written. -/
def itemsFault? (depth : Nat) : List Outline → Option WriteError
  | [] => none
  | v :: rest => fault? depth v <|> itemsFault? depth rest

/-- Why the entries of a mapping cannot be written. -/
def entriesFault? (depth : Nat) : List (Outline × Outline) → Option WriteError
  | [] => none
  | (key, v) :: rest => fault? depth key <|> fault? depth v <|> entriesFault? depth rest

end

end Outline

/-- The text of a document whose outermost value is a list or a mapping. -/
def Document.render (d : Document) : String :=
  String.ofList ((Outline.ofDocument d).text ++ ['\n'])

/-- The text of a document, if it can be written. -/
def Document.written (d : Document) : Except WriteError String :=
  match (Outline.ofDocument d).fault? maxWrittenDepth with
  | some e => .error e
  | none => .ok d.render

end RanConsole.Yaml

/-!
# Comma-separated records

A record is its fields with commas between them and a carriage return and a line feed at its end. A field that holds a comma, a
double quote or a line break stands in double quotes, where a quote is written twice. A record of one empty field is written as
a quoted field, so that it differs from a record without fields.
-/

namespace RanConsole.Csv

/-- A character that a field without quotes cannot hold. -/
def isSpecial (c : Char) : Bool :=
  c == ',' || c == '"' || c == '\r' || c == '\n'

/-- A text in double quotes. -/
def quoteField (s : List Char) : List Char :=
  '"' :: (s.flatMap (fun c => if c = '"' then ['"', '"'] else [c]) ++ ['"'])

/-- A field of a record. -/
def field (s : List Char) : List Char :=
  if s.any isSpecial then quoteField s else s

/-- The fields with commas between them. -/
def fields : List (List Char) → List Char
  | [] => []
  | [s] => field s
  | s :: t :: rest => field s ++ ',' :: fields (t :: rest)

/-- A record without its end. -/
def recordBody : List (List Char) → List Char
  | [[]] => quoteField []
  | record => fields record

/-- The end of a record. -/
def recordEnd : List Char := ['\r', '\n']

/-- A record with its end. -/
def record (r : List (List Char)) : List Char :=
  recordBody r ++ recordEnd

end RanConsole.Csv

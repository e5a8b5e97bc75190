import RanConsole.Csv
import RanConsole.Json.Room
import RanConsole.Listing.Title
import RanConsole.Text.Blank

/-!
# Listings

A listing shows rows as a table, as JSON or as comma-separated records. A whole listing adapts the widths of its columns to the
cells, up to a limit past which cells are cut; a stream has fixed widths and prints each row when it comes. Each function gives
the messages that are printed, in their order.
-/

namespace RanConsole.Listing

/-- The form of a listing. -/
inductive Format where
  | table
  | json
  | csv
  deriving DecidableEq, Repr

/-- The form of a listing and whether it has headers. -/
structure Style where
  format : Format := .table
  headers : Bool := true
  deriving DecidableEq, Repr

/-- A row: the values of its columns. -/
abbrev Row := List (String × Json)

/-- The value of a column as a text, empty if the row has none. -/
def cell (row : Row) (column : String) : List Char :=
  ((Mapping.get? column row).map fun v => v.text.toList).getD []

/-- The value of a column as a field of a record; null is empty. -/
def csvCell (row : Row) (column : String) : List Char :=
  match Mapping.get? column row with
  | some .null => []
  | some v => v.text.toList
  | none => []

/-- Texts joined by commas. -/
def commaJoined (values : List String) : String := ",".intercalate values

/-- The greatest width of a column. -/
def maxWidth : Nat := 50

/-- The width of a column: that of its title and its longest cell, up to the limit. -/
def width (rows : List Row) (column : String) : Nat :=
  min maxWidth (rows.foldl (fun w row => max w (cell row column).length) (title column).length)

/-- A cell of the given width. A longer text is cut and ends in three dots. -/
def fitted (width : Nat) (s : List Char) : List Char :=
  Text.padEnd width (if width < s.length then s.take (width - 3) ++ ['.', '.', '.'] else s)

/-- The header of a table. -/
def headerLine (rows : List Row) (columns : List String) : List Char :=
  Text.joinWith [' ', ' '] (columns.map fun c => Text.padEnd (width rows c) (title c).toList)

/-- The line of a row. -/
def rowLine (rows : List Row) (columns : List String) (row : Row) : List Char :=
  Text.trimEnd (Text.joinWith [' ', ' '] (columns.map fun c => fitted (width rows c) (cell row c)))

/-- The lines of a table. -/
def tableLines (headers : Bool) (rows : List Row) (columns : List String) : List (List Char) :=
  let header := headerLine rows columns
  (if headers then [header, List.replicate header.length '-'] else []) ++ rows.map (rowLine rows columns)

/-- The records of a listing, without the blanks at their end. -/
def csvText (headers : Bool) (rows : List Row) (columns : List String) : List Char :=
  let records := (if headers then [columns.map String.toList] else []) ++ rows.map fun row => columns.map (csvCell row)
  Text.trimEnd (records.flatMap Csv.record)

/-- The columns of a listing: those asked for, else those of the first row. -/
def columnsOf (columns : Option (List String)) (rows : List Row) : List String :=
  columns.getD ((rows.head?.map Mapping.keys).getD [])

/-- A whole listing. -/
def printTable (style : Style) (rows : List Row) (columns : Option (List String)) : List String :=
  let columns := columnsOf columns rows
  match style.format with
  | .json => [Json.render .indented (.arr (rows.map .obj))]
  | .csv => [String.ofList (csvText style.headers rows columns)]
  | .table => if columns.isEmpty then [] else (tableLines style.headers rows columns).map String.ofList

/-- Columns of a stream with their widths. -/
abbrev Columns := List (String × Nat)

/-- The header of a stream; a stream of JSON values has none. -/
def streamHeader (style : Style) (columns : Columns) : List String :=
  if !style.headers then []
  else
    match style.format with
    | .json => []
    | .csv => [commaJoined (Mapping.keys columns)]
    | .table =>
      [String.ofList (Text.trimEnd (Text.joinWith [' '] (columns.map fun (c, w) => Text.padEnd w (title c).toList)))]

/-- A character that ends a line of records. -/
def isRecordEnd (c : Char) : Bool := c == '\r' || c == '\n'

/-- A row of a stream. -/
def streamRow (style : Style) (row : Row) (columns : Columns) : List String :=
  match style.format with
  | .json => [Json.render .line (.obj row)]
  | .csv => [String.ofList (Text.dropEndWhile isRecordEnd (Csv.record ((Mapping.keys columns).map (csvCell row))))]
  | .table => [String.ofList (Text.trimEnd (Text.joinWith [' '] (columns.map fun (c, w) => Text.padEnd w (cell row c))))]

/-- A single record: one line a member. -/
def printSingle (format : Format) (record : Row) : List String :=
  match format with
  | .json => [Json.render .indented (.obj record)]
  | _ => record.map fun (key, v) => title key ++ ": " ++ v.text

/-- A message of success, which a quiet command keeps back. -/
def printSuccess (quiet : Bool) (message : String) : List String :=
  if quiet then [] else [message]

end RanConsole.Listing

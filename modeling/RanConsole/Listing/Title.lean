import RanConsole.Text.Cut
import RanConsole.Text.LetterCase

/-!
# Column titles

The title of a column is its name with spaces for underscores and in title case, unless it has a title of its own.
-/

namespace RanConsole.Listing

/-- The columns whose titles do not follow from their names. -/
def ownTitles : List (String × String) :=
  [("id", "ID"), ("enbid", "EnbID"), ("cell_ecgis", "Cell ECGIs"), ("kind_id", "Kind ID"),
   ("src_entity_id", "Source ID"), ("tgt_entity_id", "Target ID")]

/-- The title of a column. -/
def title (column : String) : String :=
  match ownTitles.lookup column with
  | some t => t
  | none => titleCase (String.ofList (Text.replaceChar '_' ' ' column.toList))

end RanConsole.Listing

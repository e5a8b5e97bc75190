import RanConsole.Client.Connection
import RanConsole.Json.Halves
import RanConsole.Listing.Table

/-!
# What is shown of results

The texts of a server's answer can hold halves of pairs that stand alone. A JSON line shows such a half by its escape; no other message that
holds one can be encoded, and then the messages end in front of it. What is shown is found by reading the answer with one character for
every half and with another: messages that differ show a half.
-/

namespace RanConsole.CommandLine

variable {α : Type}

/-- Every half is the last character in front of the halves. -/
def below : Json.Reading := { halves := .standIn '\uD7FF' }

/-- Every half is the first character behind the halves. -/
def above : Json.Reading := { halves := .standIn '\uE000' }

/-- Every half is spelled. -/
def spelled : Json.Reading := { halves := .spelled }

/-- What two lists have in common at their front. -/
def commonFront [DecidableEq α] : List α → List α → List α
  | a :: rest, b :: others => if a = b then a :: commonFront rest others else []
  | _, _ => []

/-- What is shown of messages that show a half, and the failure that ends it. -/
def tornMessages (format : Listing.Format) (messages : Json.Reading → List String) : List String × Option CallError :=
  match format with
  | .json => ((messages spelled).map fun m => String.ofList (Json.unspelled m.toList), none)
  | .table | .csv => (commonFront (messages below) (messages above), some .unencodable)

/-- What is shown of a result, and the failure that ends it. Keys that differ in their halves alone are one key unless halves are spelled, so
a result that shows a half is looked at again. -/
def shown (format : Listing.Format) (lines : α → List String) (result : Json.Reading → Except CallError α) :
    List String × Option CallError :=
  let messages := fun how => ((result how).toOption.map lines).getD []
  match result below with
  | .error e => ([], some e)
  | .ok _ =>
    if messages below = messages above then (messages below, none)
    else
      match result spelled with
      | .error e => ([], some e)
      | .ok _ => tornMessages format messages

/-- The messages of a line of a stream, unless they cannot be shown. -/
def lineMessages (format : Listing.Format) (check : Json → Validation.Checked α) (row : α → List String) (line : List Char) :
    Except CallError (List String) :=
  match shown format row fun how => Client.readLine check line how with
  | (messages, none) => .ok messages
  | (_, some e) => .error e

end RanConsole.CommandLine

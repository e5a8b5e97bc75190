import RanConsole.Json.Display
import RanConsole.Json.Printer

/-!
# Values that cannot be written

Writing a value goes down into its lists and objects, and there is only so much room for that: how much depends on what is going on around
it, so the room is given. An integer with more digits than are read is not written either. The first place that cannot be written
decides.
-/

namespace RanConsole.Json

/-- Why a value cannot be written. -/
inductive WriteError where
  /-- There is no room for all lists and objects inside one another. -/
  | tooDeep
  /-- An integer with more digits than are written. -/
  | tooManyDigits
  deriving DecidableEq, Repr

/-- The usual room. -/
def usualRoom : Nat := 990

mutual

/-- Why a value cannot be written in the given room. Each list and each object takes room for what is in it; in some forms what is neither
takes room as well. -/
def fault? (scalars : Bool) : Json → (room : Nat) → Option WriteError
  | .arr items, room + 1 => itemsFault? scalars items room
  | .obj members, room + 1 => membersFault? scalars members room
  | .arr _, 0 | .obj _, 0 => some .tooDeep
  | .int i, room =>
    if scalars && room = 0 then some .tooDeep else if isShort i then none else some .tooManyDigits
  | .null, room | .bool _, room | .float _, room | .str _, room => if scalars && room = 0 then some .tooDeep else none

/-- Why one of the items cannot be written. -/
def itemsFault? (scalars : Bool) : List Json → (room : Nat) → Option WriteError
  | [], _ => none
  | v :: rest, room => (v.fault? scalars room).or (itemsFault? scalars rest room)

/-- Why one of the members cannot be written. -/
def membersFault? (scalars : Bool) : List (String × Json) → (room : Nat) → Option WriteError
  | [], _ => none
  | (_, v) :: rest, room => (v.fault? scalars room).or (membersFault? scalars rest room)

end

/-- Why a value cannot be written in a JSON format. -/
def renderFault? (room : Nat) (v : Json) : Option WriteError := v.fault? false room

/-- Why a value cannot be shown with its texts quoted. -/
def quotedFault? (room : Nat) (v : Json) : Option WriteError := v.fault? true room

/-- Why a value cannot be shown in a cell or a message. A text is there already. -/
def textFault? (room : Nat) : Json → Option WriteError
  | .str _ => none
  | v => v.quotedFault? room

/-- The value written in the style, in the given room. -/
def renderWithin (room : Nat) (style : Style) (v : Json) : Except WriteError String :=
  match v.renderFault? room with
  | some e => .error e
  | none => .ok (v.render style)

end RanConsole.Json

/-!
# Checked values

A check gives a value or the list of everything that is wrong with the data, each fault with its place. Checks of several parts
are combined so that the faults of all parts are listed, in the order of the parts.
-/

namespace RanConsole.Validation

/-- What can be wrong with a piece of data. -/
inductive Fault where
  | missing
  | notAnObject
  | notAText
  | notUtf8
  | notAList
  | notAMapping
  | notABool
  | unreadableBool
  | notAChoice
  | notAnInteger
  | unreadableInteger
  | integerTooLong
  | fractional
  | notFinite
  | negative
  | notANumber
  | unreadableNumber
  deriving DecidableEq, Repr

/-- A fault at a place; the place is the way to it from the outside. -/
structure Violation where
  fault : Fault
  place : List String
  deriving DecidableEq, Repr

/-- A value, or all that is wrong with the data. -/
abbrev Checked (α : Type) := Except (List Violation) α

namespace Checked

variable {α β : Type}

/-- A fault at the current place. -/
def fault (f : Fault) : Checked α := .error [⟨f, []⟩]

/-- A checked value under a function. -/
def map (f : α → β) (c : Checked α) : Checked β := Except.map f c

/-- The check of a part that is reached by one step. -/
def under (step : String) (c : Checked α) : Checked α :=
  c.mapError fun vs => vs.map fun v => { v with place := step :: v.place }

/-- A function and its argument checked side by side. -/
def ap (f : Checked (α → β)) (a : Checked α) : Checked β :=
  match f, a with
  | .ok f, .ok a => .ok (f a)
  | .error vs, .ok _ => .error vs
  | .ok _, .error vs => .error vs
  | .error vs, .error ws => .error (vs ++ ws)

/-- The parts of a list checked side by side. -/
def all : List (Checked α) → Checked (List α)
  | [] => .ok []
  | c :: rest => ap (c.map List.cons) (all rest)

end Checked

end RanConsole.Validation

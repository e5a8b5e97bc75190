import RanConsole.Json.Basic

/-!
# YAML values

Scalars, lists, mappings and sets whose keys are scalars in the order in which they were written, and pairs. Two keys are the same
key when they are equal as values: a truth value, an integer and a floating point number that are equal as numbers count as one.

A part that stands in several places of a document is kept once, beside the tree, and the tree names it: what is changed in one
place is changed in all of them, and a part may hold itself.
-/

namespace RanConsole

/-- A day of the calendar. -/
structure Date where
  year : Nat
  month : Nat
  day : Nat
  deriving DecidableEq, Repr

/-- The number of days in front of a day, from a day before the first year on. Years are counted from March. -/
def Date.number (d : Date) : Int :=
  let year : Int := if d.month ≤ 2 then Int.ofNat d.year - 1 else Int.ofNat d.year
  let month : Int := if d.month ≤ 2 then Int.ofNat d.month + 9 else Int.ofNat d.month - 3
  365 * year + year.fdiv 4 - year.fdiv 100 + year.fdiv 400 + (153 * month + 2).fdiv 5 + Int.ofNat d.day

/-- A time of a day, with its distance from universal time in seconds if that is told. -/
structure Moment where
  date : Date
  hour : Nat
  minute : Nat
  second : Nat
  microsecond : Nat
  offset : Option Int
  deriving DecidableEq, Repr

/-- The seconds in front of a time in universal time, if its distance from that is told. -/
def Moment.instant? (m : Moment) : Option Int :=
  m.offset.map fun offset =>
    86400 * m.date.number + Int.ofNat (3600 * m.hour + 60 * m.minute + m.second) - offset

namespace Yaml

/-- A value without parts. -/
inductive Scalar where
  | null
  | bool (b : Bool)
  | int (i : Int)
  | float (x : Binary64)
  | str (s : String)
  | octets (bs : List Nat)
  | date (d : Date)
  | moment (m : Moment)
  deriving DecidableEq, Repr, Inhabited

/-- The integer that a scalar equals as a number. -/
def Scalar.integer? : Scalar → Option Int
  | .bool b => some (if b then 1 else 0)
  | .int i => some i
  | .float x => if x.isIntegral then x.truncated? else none
  | _ => none

/-- The point in time that a scalar stands for wherever it is read. -/
def Scalar.instant? : Scalar → Option (Int × Nat)
  | .moment m => m.instant?.map fun seconds => (seconds, m.microsecond)
  | _ => none

/-- Whether two scalars are the same key. -/
def Scalar.sameKey (a b : Scalar) : Bool :=
  match a.integer?, b.integer? with
  | some i, some j => i == j
  | _, _ =>
    match a.instant?, b.instant? with
    | some i, some j => i == j
    | _, _ => a == b

/-- Scalars as keys of a mapping. -/
structure Key where
  scalar : Scalar
  /-- The name of the part of the document that the key is, if it stands in several places. -/
  part : Option Nat := none
  deriving Repr, Inhabited

instance : BEq Key := ⟨fun a b => a.scalar.sameKey b.scalar⟩

/-- A text as a key. -/
def Key.text (s : String) : Key := { scalar := .str s }

end Yaml

/-- A YAML value. -/
inductive Yaml where
  | scalar (s : Yaml.Scalar)
  | list (items : List Yaml)
  | map (entries : List (Yaml.Key × Yaml))
  | set (members : List Yaml.Key)
  | pair (first second : Yaml)
  /-- A part of the document that stands in several places, by its name. -/
  | shared (part : Nat)
  deriving Repr, Inhabited

/-- The entries of a mapping. -/
abbrev Yaml.Entries := List (Yaml.Key × Yaml)

namespace Yaml

/-- Null. -/
def null : Yaml := .scalar .null

/-- A text. -/
def text (s : String) : Yaml := .scalar (.str s)

/-- The entries of a mapping. -/
def entries? : Yaml → Option Entries
  | .map entries => some entries
  | _ => none

/-- A YAML value with the parts that stand in several places, by their names. -/
structure Document where
  root : Yaml
  parts : List (Nat × Yaml) := []
  deriving Repr

namespace Document

/-- A mapping in which nothing stands in several places. -/
def ofEntries (entries : Entries) : Document := { root := .map entries }

/-- What a name stands for. -/
def part (d : Document) (name : Nat) : Yaml := (d.parts.lookup name).getD .null

/-- A value of the document, with what its name stands for in place of the name. -/
def opened (d : Document) : Yaml → Yaml
  | .shared name => d.part name
  | v => v

/-- The entries of the document if it is a mapping. -/
def entries? (d : Document) : Option Entries := (d.opened d.root).entries?

/-- The entries of the document, none if it is no mapping. -/
def entries (d : Document) : Entries := d.entries?.getD []

/-- The entries of the document with their values opened. -/
def sections (d : Document) : Entries := d.entries.map fun (key, v) => (key, d.opened v)

end Document

mutual

/-- A JSON value as a YAML value. -/
def ofJson : Json → Yaml
  | .null => .scalar .null
  | .bool b => .scalar (.bool b)
  | .int i => .scalar (.int i)
  | .float x => .scalar (.float x)
  | .str s => .scalar (.str s)
  | .arr items => .list (ofJsonItems items)
  | .obj members => .map (ofJsonMembers members)

/-- The items of a JSON list. -/
def ofJsonItems : List Json → List Yaml
  | [] => []
  | v :: rest => ofJson v :: ofJsonItems rest

/-- The members of a JSON object. -/
def ofJsonMembers : List (String × Json) → Entries
  | [] => []
  | (key, v) :: rest => (.text key, ofJson v) :: ofJsonMembers rest

end

end Yaml

end RanConsole

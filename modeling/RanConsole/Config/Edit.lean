import RanConsole.Mapping
import RanConsole.Yaml.Basic

/-!
# Setting a value at a path

A path is a list of keys that leads through nested mappings. Mappings that are missing on the way are made; a value on the way that
is no mapping blocks the path. A mapping that stands in several places is changed in all of them.
-/

namespace RanConsole.Config

/-- The keys of a path that is written with dots. -/
def pathOf (dotted : String) : List String :=
  (dotted.toList.splitOn '.').map String.ofList

/-- The key at which the way is blocked, if it is. -/
def blockedAt? (d : Yaml.Document) : List String → Yaml.Entries → Option String
  | [], _ => none
  | [_], _ => none
  | key :: rest, entries =>
    match (Mapping.get? (.text key) entries).map d.opened with
    | none => none
    | some (.map inner) => blockedAt? d rest inner
    | some _ => some key

/-- The mapping below a key, empty if there is none. -/
def below (key : String) (entries : Yaml.Entries) : Yaml.Entries :=
  match Mapping.get? (.text key) entries with
  | some (.map inner) => inner
  | _ => []

/-- The entries with a value at the end of a path. -/
def setAt : List String → Yaml → Yaml.Entries → Yaml.Entries
  | [], _, entries => entries
  | [key], v, entries => Mapping.put (.text key) v entries
  | key :: rest, v, entries => Mapping.put (.text key) (.map (setAt rest v (below key entries))) entries

/-- Where a path ends: the last mapping on the way that stands in several places, if there is one, and the keys from there. -/
structure Landing where
  part : Option Nat
  keys : List String
  deriving DecidableEq, Repr

/-- Where a path ends that leads on from a landing through the given entries. -/
def landing (d : Yaml.Document) (last : Landing) : List String → Yaml.Entries → Landing
  | [], _ => last
  | [_], _ => last
  | key :: rest, entries =>
    match Mapping.get? (.text key) entries with
    | some (.map inner) => landing d last rest inner
    | some (.shared name) =>
      match d.part name with
      | .map inner => landing d ⟨some name, rest⟩ rest inner
      | _ => last
    | _ => last

/-- The name of the outermost value, if it stands in several places. -/
def rootPart : Yaml → Option Nat
  | .shared name => some name
  | _ => none

/-- The document with a value at the end of a path. -/
def setIn (d : Yaml.Document) (keys : List String) (v : Yaml) : Yaml.Document :=
  let change (inside : List String) (whole : Yaml) : Yaml := .map (setAt inside v (whole.entries?.getD []))
  match landing d ⟨rootPart d.root, keys⟩ keys d.entries with
  | ⟨none, inside⟩ => { d with root := change inside d.root }
  | ⟨some name, inside⟩ => { d with parts := Mapping.put name (change inside (d.part name)) d.parts }

end RanConsole.Config

import RanConsole.Yaml.Basic

/-!
# Outlines

A document as it is written: a value that is met a second time has a label from its first place on and stands there as an alias. The
labels are numbered in the order in which second places come. Sets are mappings to null, and pairs lists of two, each under a tag.
-/

namespace RanConsole.Yaml

/-- A value as it is written. -/
inductive Outline where
  | alias (label : Nat)
  | scalar (label : Option Nat) (s : Scalar)
  | list (label : Option Nat) (tag : Option String) (items : List Outline)
  | map (label : Option Nat) (tag : Option String) (entries : List (Outline × Outline))
  deriving Repr, Inhabited

mutual

/-- The names of shared parts in a value, in the order in which they are written. -/
def names : Yaml → List Nat
  | .scalar _ => []
  | .list items => itemNames items
  | .map entries => entryNames entries
  | .set members => members.flatMap fun key => key.part.toList
  | .pair first second => names first ++ names second
  | .shared name => [name]

/-- The names of shared parts in the items of a list. -/
def itemNames : List Yaml → List Nat
  | [] => []
  | v :: rest => names v ++ itemNames rest

/-- The names of shared parts in the entries of a mapping. -/
def entryNames : List (Key × Yaml) → List Nat
  | [] => []
  | (key, v) :: rest => key.part.toList ++ names v ++ entryNames rest

end

mutual

/-- The number of values in a value. -/
def weight : Yaml → Nat
  | .scalar _ | .shared _ | .set _ => 1
  | .list items => 1 + itemWeight items
  | .map entries => 1 + entryWeight entries
  | .pair first second => 1 + weight first + weight second

/-- The number of values in the items of a list. -/
def itemWeight : List Yaml → Nat
  | [] => 1
  | v :: rest => 1 + weight v + itemWeight rest

/-- The number of values in the entries of a mapping. -/
def entryWeight : List (Key × Yaml) → Nat
  | [] => 1
  | (_, v) :: rest => 1 + weight v + entryWeight rest

end

namespace Document

/-- The names that are met at least twice, in the order in which they are met the second time. The names inside a part come where it
is met first. -/
def secondMeetings (d : Document) : (fuel : Nat) → (met : List Nat) → (again : List Nat) → List Nat → List Nat
  | 0, _, again, _ => again.reverse
  | _, _, again, [] => again.reverse
  | fuel + 1, met, again, name :: rest =>
    if met.contains name then
      secondMeetings d fuel met (if again.contains name then again else name :: again) rest
    else secondMeetings d fuel (name :: met) again (names (d.part name) ++ rest)

/-- The names that get a label, in the order of their labels. -/
def labelled (d : Document) : List Nat :=
  let start := names d.root
  let fuel := d.parts.foldl (fun n (_, v) => n + (names v).length) (start.length + 1)
  d.secondMeetings fuel [] [] start

/-- The label of a name, if it gets one. -/
def label? (labels : List Nat) (name : Nat) : Option Nat :=
  if labels.contains name then some (labels.idxOf name + 1) else none

end Document

namespace Outline

/-- The outline under a label. -/
def withLabel (label : Option Nat) : Outline → Outline
  | .alias l => .alias l
  | .scalar _ s => .scalar label s
  | .list _ tag items => .list label tag items
  | .map _ tag entries => .map label tag entries

/-- The tag of a pair. -/
def pairTag : String := "!!python/tuple"

/-- The tag of a set. -/
def setTag : String := "!!set"

/-- A key, and the names that are met after it. -/
def ofKey (labels met : List Nat) (key : Key) : Outline × List Nat :=
  match key.part with
  | none => (.scalar none key.scalar, met)
  | some name =>
    if met.contains name then (.alias ((Document.label? labels name).getD 0), met)
    else (.scalar (Document.label? labels name) key.scalar, name :: met)

/-- The members of a set, and the names that are met after them. -/
def ofMembers (labels met : List Nat) : List Key → List (Outline × Outline) × List Nat
  | [] => ([], met)
  | key :: rest =>
    let (k, met) := ofKey labels met key
    let (entries, met) := ofMembers labels met rest
    ((k, .scalar none .null) :: entries, met)

mutual

/-- The outline of a value after the names that have been met, and those that are met after it. -/
def ofYaml (d : Document) (labels : List Nat) : (fuel : Nat) → (met : List Nat) → Yaml → Outline × List Nat
  | 0, met, _ => (.scalar none .null, met)
  | _ + 1, met, .scalar s => (.scalar none s, met)
  | fuel + 1, met, .list items =>
    let (items, met) := ofItems d labels fuel met items
    (.list none none items, met)
  | fuel + 1, met, .map entries =>
    let (entries, met) := ofEntries d labels fuel met entries
    (.map none none entries, met)
  | _ + 1, met, .set members =>
    let (entries, met) := ofMembers labels met members
    (.map none (some setTag) entries, met)
  | fuel + 1, met, .pair first second =>
    let (first, met) := ofYaml d labels fuel met first
    let (second, met) := ofYaml d labels fuel met second
    (.list none (some pairTag) [first, second], met)
  | fuel + 1, met, .shared name =>
    let label := Document.label? labels name
    if met.contains name then (.alias (label.getD 0), met)
    else
      let (o, met) := ofYaml d labels fuel (name :: met) (d.part name)
      (o.withLabel label, met)

/-- The outlines of the items of a list. -/
def ofItems (d : Document) (labels : List Nat) : (fuel : Nat) → (met : List Nat) → List Yaml → List Outline × List Nat
  | 0, met, _ => ([], met)
  | _, met, [] => ([], met)
  | fuel + 1, met, v :: rest =>
    let (o, met) := ofYaml d labels fuel met v
    let (os, met) := ofItems d labels fuel met rest
    (o :: os, met)

/-- The outlines of the entries of a mapping. -/
def ofEntries (d : Document) (labels : List Nat) :
    (fuel : Nat) → (met : List Nat) → List (Key × Yaml) → List (Outline × Outline) × List Nat
  | 0, met, _ => ([], met)
  | _, met, [] => ([], met)
  | fuel + 1, met, (key, v) :: rest =>
    let (k, met) := ofKey labels met key
    let (o, met) := ofYaml d labels fuel met v
    let (os, met) := ofEntries d labels fuel met rest
    ((k, o) :: os, met)

end

/-- The outline of a document. Its values and those of its parts are written once each. -/
def ofDocument (d : Document) : Outline :=
  let fuel := d.parts.foldl (fun n (_, v) => n + weight v) (weight d.root + 1)
  (ofYaml d d.labelled fuel [] d.root).1

end Outline

end RanConsole.Yaml

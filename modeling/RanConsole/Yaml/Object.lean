import RanConsole.Mapping
import RanConsole.Yaml.Node

/-!
# The values of nodes

Every node that is reached from the outermost one gets one value, however often it is named. Values that hold others are made empty
and filled later, those that were made first first, so a node may be a part of itself. A merge key takes in the entries of other
mappings that are not there yet, and keys are scalars; of several values for a key the last counts.
-/

namespace RanConsole.Yaml

/-- A value whose parts are given by their numbers. -/
inductive Object where
  | scalar (s : Scalar)
  | list (items : List Nat)
  | map (entries : List (Key × Nat))
  | set (members : List Key)
  | pair (first second : Nat)
  deriving Repr, Inhabited

/-- The nodes and the values that they have so far. -/
structure Construction where
  nodes : Array Node
  objects : Array Object := #[]
  /-- The values of the nodes that have one. -/
  values : Array (Option Nat) := Array.replicate nodes.size none
  /-- Nodes whose values are to be filled, in the order in which that is done. -/
  pending : List (Nat × Nat) := []

/-- A step that makes or fills values. -/
abbrev Construct := StateT Construction (Except ReadError)

namespace Construct

/-- The end of a text that breaks the rules. -/
def refuse {α : Type} : Construct α := throw .malformed

/-- The node of a number. -/
def nodeAt (number : Nat) : Construct Node := do
  match (← get).nodes[number]? with
  | some n => return n
  | none => refuse

/-- The node of a number with another content. -/
def setContent (number : Nat) (content : Content) : Construct Unit := do
  let n ← nodeAt number
  modify fun c => { c with nodes := c.nodes.setIfInBounds number { n with content } }

/-- The text of a node: its own, or that of the default value in a mapping. -/
def textOf : (fuel : Nat) → (number : Nat) → Construct (List Char)
  | 0, _ => throw .tooDeep
  | fuel + 1, number => do
    match (← nodeAt number).content with
    | .scalar text => return text
    | .list _ => refuse
    | .map entries =>
      let nodes := (← get).nodes
      match entries.find? fun (key, _) => (nodes[key]?.map (·.tag)) = some .default with
      | some (_, value) => textOf fuel value
      | none => refuse

/-- A new value. -/
def push (o : Object) : Construct Nat := do
  let number := (← get).objects.size
  modify fun c => { c with objects := c.objects.push o }
  return number

/-- A value that is filled later. -/
def pushPending (number : Nat) (start : Object) : Construct Nat := do
  let value ← push start
  modify fun c => { c with pending := c.pending ++ [(number, value)] }
  return value

/-- A new value for a node. -/
def newValue (number : Nat) : Construct Nat := do
  let n ← nodeAt number
  match n.tag with
  | .seq | .pairs => pushPending number (.list [])
  | .map => pushPending number (.map [])
  | .set => pushPending number (.set [])
  | .merge | .default | .unknown => refuse
  | tag =>
    let text ← textOf ((← get).nodes.size + 1) number
    match tag, n.content with
    | .timestamp, .map _ => throw .mappingAsTime
    | _, _ => push (.scalar (← Scalar.ofText tag text))

/-- The value of a node, made if it has none yet. -/
def valueOf (number : Nat) : Construct Nat := do
  match ((← get).values[number]?).join with
  | some value => return value
  | none =>
    let value ← newValue number
    modify fun c => { c with values := c.values.setIfInBounds number (some value) }
    return value

/-! ## Mappings -/

/-- The number of merge keys in mappings. -/
def mergeKeys (nodes : Array Node) : Nat :=
  nodes.foldl
    (fun n node =>
      match node.content with
      | .map entries => n + (entries.filter fun (key, _) => (nodes[key]?.map (·.tag)) = some .merge).length
      | _ => n)
    0

/-- The entries of a mapping. -/
def entriesOf (number : Nat) : Construct (List (Nat × Nat)) := do
  match (← nodeAt number).content with
  | .map entries => return entries
  | _ => refuse

/-- The mappings that a merge key names, in the order in which they are laid over one another. -/
def mergedNodes (value : Nat) : Construct (List Nat) := do
  match (← nodeAt value).content with
  | .map _ => return [value]
  | .list items => return items
  | .scalar _ => refuse

/-- The place of the next merge key among entries that begin at the given one, and its value. A key that names the default value is a
text from then on. -/
def nextMerge (index : Nat) : (rest : List (Nat × Nat)) → Construct (Option (Nat × Nat))
  | [] => return none
  | (key, value) :: rest => do
    let keyNode ← nodeAt key
    match keyNode.tag with
    | .merge => return some (index, value)
    | .default =>
      modify fun c => { c with nodes := c.nodes.setIfInBounds key { keyNode with tag := .str } }
      nextMerge (index + 1) rest
    | _ => nextMerge (index + 1) rest

/-- The entries that the merge keys of a mapping take in, of which the first `index` entries are looked through already. A merge key
is removed before the mappings that it names are looked at, so there are fewer of them each time. -/
def takenIn : (fuel : Nat) → (number index : Nat) → (rest : List (Nat × Nat)) → Construct (List (Nat × Nat))
  | _, _, _, [] => return []
  | 0, _, _, _ :: _ => throw .tooDeep
  | fuel + 1, number, index, entry :: rest => do
    match ← nextMerge index (entry :: rest) with
    | none => return []
    | some (index, value) =>
      setContent number (.map ((← entriesOf number).eraseIdx index))
      let parts ← (← mergedNodes value).mapM fun part => do
        let taken ← takenIn fuel part 0 (← entriesOf part)
        let own ← entriesOf part
        unless taken.isEmpty do setContent part (.map (taken ++ own))
        return taken ++ own
      let later ← takenIn fuel number index ((← entriesOf number).drop index)
      return parts.reverse.flatten ++ later

/-- Takes in the entries of the mappings that merge keys name, in front of those that are there. -/
def flatten (number : Nat) : Construct Unit := do
  match (← nodeAt number).content with
  | .map entries =>
    let taken ← takenIn (mergeKeys (← get).nodes + 1) number 0 entries
    unless taken.isEmpty do setContent number (.map (taken ++ (← entriesOf number)))
  | _ => return

/-- The key that a node is. -/
def keyOf (number : Nat) : Construct Key := do
  let value ← valueOf number
  match (← get).objects[value]? with
  | some (.scalar s) => return { scalar := s, part := some value }
  | _ => refuse

/-- The entries of a mapping with their values. -/
def mapEntries (number : Nat) : Construct (List (Key × Nat)) := do
  flatten number
  let pairs ← (← entriesOf number).mapM fun (key, value) => do return (← keyOf key, ← valueOf value)
  return Mapping.ofPairs pairs

/-! ## Filling -/

/-- The one entry of a mapping as a pair. -/
def pairOf (number : Nat) : Construct Nat := do
  match ← entriesOf number with
  | [(key, value)] => do push (.pair (← valueOf key) (← valueOf value))
  | _ => refuse

/-- The items of a list. -/
def itemsOf (number : Nat) : Construct (List Nat) := do
  match (← nodeAt number).content with
  | .list items => return items
  | _ => refuse

/-- The value of a node of a type that holds others, with its parts. -/
def filled (number : Nat) : Construct Object := do
  match (← nodeAt number).tag with
  | .seq => return .list (← (← itemsOf number).mapM valueOf)
  | .pairs => return .list (← (← itemsOf number).mapM pairOf)
  | .map => return .map (← mapEntries number)
  | .set => return .set (Mapping.keys (← mapEntries number))
  | _ => refuse

/-- Fills the values that wait for it, at most the given number of them. -/
def fillAll : (fuel : Nat) → Construct Unit
  | 0 => throw .tooDeep
  | fuel + 1 => do
    match (← get).pending with
    | [] => return
    | (number, value) :: rest =>
      modify fun c => { c with pending := rest }
      let o ← filled number
      modify fun c => { c with objects := c.objects.setIfInBounds value o }
      fillAll fuel

/-- The value of the outermost node. -/
def root (number : Nat) : Construct Nat := do
  let value ← valueOf number
  fillAll ((← get).nodes.size + 1)
  return value

end Construct

/-- The values of nodes and the number of that of the outermost one. -/
def constructed (nodes : Array Node) (number : Nat) : Except ReadError (Array Object × Nat) := do
  let (value, c) ← (Construct.root number).run { nodes }
  return (c.objects, value)

end RanConsole.Yaml

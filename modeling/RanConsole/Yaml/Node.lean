import RanConsole.Yaml.Resolve
import RanConsole.Yaml.Scan

/-!
# YAML nodes

The nodes that the tokens of a text describe, each with its type. Nodes have numbers, and a node that an alias names is a part of
several others, or of itself. A missing key or value is an empty plain scalar. A text holds at most one document.
-/

namespace RanConsole.Yaml

/-- What a node consists of; its parts are given by their numbers. -/
inductive Content where
  | scalar (text : List Char)
  | list (items : List Nat)
  | map (entries : List (Nat × Nat))
  deriving Repr, Inhabited

/-- A node of a YAML text. -/
structure Node where
  tag : Tag
  content : Content
  deriving Repr, Inhabited

/-- What is left of the tokens and what has been found so far. -/
structure Composition where
  tokens : List Token
  /-- What the handles of tags stand for. -/
  handles : List (String × String) := []
  nodes : Array Node := #[]
  /-- The nodes that have a name. -/
  anchors : List (String × Nat) := []

/-- A step that takes tokens and finds nodes. -/
abbrev Compose := StateT Composition (Except ReadError)

namespace Compose

/-- The end of a text that breaks the rules. -/
def refuse {α : Type} : Compose α := throw .malformed

/-- The next token, which is left in place. -/
def peek : Compose Token := do
  match (← get).tokens with
  | .failed e :: _ => throw e
  | t :: _ => return t
  | [] => refuse

/-- Takes a token. -/
def drop : Compose Unit := modify fun c => { c with tokens := c.tokens.tail }

/-- Takes the next token if it is the given one. -/
def takes (t : Token) : Compose Bool := do
  if (← peek) = t then
    drop
    return true
  else return false

/-- Takes the given token, which has to be there. -/
def expect (t : Token) : Compose Unit := do
  unless ← takes t do refuse

/-- A new node, under its name if it has one. A name is given once. -/
def place (anchor : Option String) (n : Node) : Compose Nat := do
  let c ← get
  let number := c.nodes.size
  let anchors ←
    match anchor with
    | some name => if (c.anchors.lookup name).isSome then refuse else pure ((name, number) :: c.anchors)
    | none => pure c.anchors
  modify fun c => { c with nodes := c.nodes.push n, anchors }
  return number

/-- The node where nothing is written. -/
def empty : Compose Nat := place none ⟨Tag.ofPlain [], .scalar []⟩

/-- The full name of a tag. -/
def fullName (handle : Option String) (name : String) : Compose String := do
  match handle with
  | none => return name
  | some handle =>
    match (← get).handles.lookup handle with
    | some start => return start ++ name
    | none => refuse

/-- The anchor and the full name of the tag in front of a node, in either order. -/
def properties : Compose (Option String × Option String) := do
  match ← peek with
  | .anchor a =>
    drop
    match ← peek with
    | .tag handle name => drop; return (some a, ← fullName handle name)
    | _ => return (some a, none)
  | .tag handle name =>
    drop
    match ← peek with
    | .anchor a => drop; return (some a, ← fullName handle name)
    | _ => return (none, ← fullName handle name)
  | _ => return (none, none)

/-- The tag that stands for none. -/
def noTag : String := "!"

/-- The type of a node under a tag, else the given one. -/
def typeOf (tag : Option String) (otherwise : Tag) : Tag :=
  match tag.filter (· ≠ noTag) with
  | some name => .ofName name
  | none => otherwise

/-- The type of a scalar. Under the tag that stands for none a quoted scalar counts as a plain one. -/
def scalarType (tag : Option String) (text : List Char) (isPlain : Bool) : Tag :=
  typeOf tag (if isPlain || tag.isSome then .ofPlain text else .str)

/-- What a step finds, again and again until it finds nothing. The step is told whether it is the first. -/
def repeated {α : Type} (step : Bool → Compose (Option α)) : (fuel : Nat) → (isFirst : Bool) → Compose (List α)
  | 0, _ => refuse
  | fuel + 1, isFirst => do
    match ← step isFirst with
    | some a => return a :: (← repeated step fuel false)
    | none => return []

/-- What a step that takes a token finds, again and again until it finds nothing. -/
def many {α : Type} (step : Bool → Compose (Option α)) : Compose (List α) := do
  repeated step ((← get).tokens.length + 1) true

/-- A node with parts, which has its number before they have theirs. -/
def collection (anchor : Option String) (tag : Tag) (start : Content) (parts : Compose Content) : Compose Nat := do
  let number ← place anchor ⟨tag, start⟩
  let content ← parts
  modify fun c => { c with nodes := c.nodes.setIfInBounds number ⟨tag, content⟩ }
  return number

/-- Whether a token ends an entry of a mapping that is laid out by indentation. -/
def endsEntry : Token → Bool
  | .key | .value | .blockEnd => true
  | _ => false

/-! ## Parts

Each of these is given how a node is found: whether it may be laid out by indentation, and whether its items may stand beside the
key in front of it. -/

variable (inner : (inBlock besideKey : Bool) → Compose Nat)

/-- An item of a list in its own indentation. -/
def blockItem (_ : Bool) : Compose (Option Nat) := do
  if ← takes .blockEnd then return none
  else
    expect .dash
    match ← peek with
    | .dash | .blockEnd => return some (← empty)
    | _ => return some (← inner true false)

/-- An item of a list in the indentation of the key before it. -/
def besideItem (_ : Bool) : Compose (Option Nat) := do
  if ← takes .dash then
    let t ← peek
    if t = .dash ∨ endsEntry t then return some (← empty) else return some (← inner true false)
  else return none

/-- A key or value of a mapping that is laid out by indentation. -/
def blockPart : Compose Nat := do
  if endsEntry (← peek) then empty else inner true true

/-- An entry of a mapping in its own indentation. -/
def blockEntry (_ : Bool) : Compose (Option (Nat × Nat)) := do
  if ← takes .blockEnd then return none
  else
    expect .key
    let key ← blockPart inner
    let value ← if ← takes .value then blockPart inner else empty
    return some (key, value)

/-- A key or value inside brackets or braces. -/
def flowPart (ends : List Token) : Compose Nat := do
  if ends.contains (← peek) then empty else inner false false

/-- Key and value of an entry inside brackets or braces, after the mark of the key. -/
def flowEntry (close : Token) : Compose (Nat × Nat) := do
  let key ← flowPart inner [.value, .comma, close]
  let value ← if ← takes .value then flowPart inner [.comma, close] else empty
  return (key, value)

/-- A part between brackets or braces: one with the mark of a key, or another one. -/
def flowItem {α : Type} (close : Token) (marked bare : Compose α) (isFirst : Bool) : Compose (Option α) := do
  if ← takes close then return none
  else
    unless isFirst do expect .comma
    if ← takes .key then return some (← marked)
    else if ← takes close then return none
    else return some (← bare)

/-- The items between brackets. An item with a key is a mapping of one entry. -/
def bracketItem : Bool → Compose (Option Nat) :=
  flowItem .bracketClose
    (collection none .map (.map []) do return .map [← flowEntry inner .bracketClose])
    (inner false false)

/-- The entries between braces. An item without a value is a key. -/
def braceEntry : Bool → Compose (Option (Nat × Nat)) :=
  flowItem .braceClose (flowEntry inner .braceClose) do
    let key ← inner false false
    return (key, ← empty)

/-! ## Documents -/

/-- A node. Lists and mappings lie inside one another to the given depth at most. -/
def node : (depth : Nat) → (inBlock besideKey : Bool) → Compose Nat
  | 0, _, _ => throw .tooDeep
  | depth + 1, inBlock, besideKey => do
    match ← peek with
    | .alias name =>
      drop
      match (← get).anchors.lookup name with
      | some number => return number
      | none => refuse
    | _ =>
      let (anchor, tag) ← properties
      let list (item : Bool → Compose (Option Nat)) : Compose Nat :=
        collection anchor (typeOf tag .seq) (.list []) do return .list (← many item)
      let map (entry : Bool → Compose (Option (Nat × Nat))) : Compose Nat :=
        collection anchor (typeOf tag .map) (.map []) do return .map (← many entry)
      match ← peek, inBlock, besideKey with
      | .scalar text isPlain, _, _ => drop; place anchor ⟨scalarType tag text isPlain, .scalar text⟩
      | .bracketOpen, _, _ => drop; list (bracketItem (node depth))
      | .braceOpen, _, _ => drop; map (braceEntry (node depth))
      | .dash, _, true => list (besideItem (node depth))
      | .listStart, true, _ => drop; list (blockItem (node depth))
      | .mapStart, true, _ => drop; map (blockEntry (node depth))
      | _, _, _ =>
        if anchor.isSome || tag.isSome then place anchor ⟨scalarType tag [] true, .scalar []⟩ else refuse

/-- How deep lists and mappings lie inside one another at most. -/
def maxDepth : Nat := 487

/-- The handles that are known without a directive. -/
def defaultHandles : List (String × String) := [("!", "!"), ("!!", typeNameStart)]

/-- The directives in front of a document: one version at most, and that of a known kind, and each handle once. -/
def directives : Compose Unit := do
  let step (_ : Bool) : Compose (Option Directive) := do
    match ← peek with
    | .directive d =>
      drop
      match d with
      | .version major => if major ≠ 1 then refuse
      | .handle name start =>
        if ((← get).handles.lookup name).isSome then refuse
        else modify fun c => { c with handles := (name, start) :: c.handles }
      | .other => pure ()
      return some d
    | _ => return none
  modify fun c => { c with handles := [] }
  let found ← many step
  let versions := found.filter fun d =>
    match d with
    | .version _ => true
    | _ => false
  if 1 < versions.length then refuse
  modify fun c => { c with handles := c.handles ++ defaultHandles }

/-- The node of a document that has a mark for its start. -/
def explicitDocument : Compose Nat := do
  directives
  expect .documentStart
  match ← peek with
  | .directive _ | .documentStart | .documentEnd | .streamEnd => empty
  | _ => node maxDepth true false

/-- The end of the text, after marks of the document's end. -/
def ending : Compose Unit := do
  let _ ← many fun _ => do return if ← takes .documentEnd then some () else none
  unless ← takes .streamEnd do
    directives
    refuse

/-- The one document of the tokens, if they hold any. -/
def document : Compose (Option Nat) := do
  match ← peek with
  | .streamEnd => return none
  | .directive _ | .documentStart =>
    let root ← explicitDocument
    ending
    return some root
  | _ =>
    modify fun c => { c with handles := defaultHandles }
    let root ← node maxDepth true false
    ending
    return some root

end Compose

/-- The nodes of a text and the number of the outermost one, if the text holds a document. -/
def composed (s : List Char) (half : Char := usualHalf) : Except ReadError (Array Node × Option Nat) := do
  let (root, c) ← Compose.document.run { tokens := tokens s half }
  return (c.nodes, root)

end RanConsole.Yaml

import RanConsole.Yaml.Object

/-!
# Reading YAML

The document that a text describes. A value that stands in one place only is a part of the tree; lists, mappings, sets, dates and
times that stand in several places are kept beside it. A text without a document has no value.
-/

namespace RanConsole.Yaml

/-- A character that a YAML text may hold. -/
def isAllowed (c : Char) : Bool :=
  let n := c.toNat
  n == 0x09 || n == 0x0A || n == 0x0D || (0x20 ≤ n && n ≤ 0x7E) || n == 0x85 || (0xA0 ≤ n && n ≤ 0xFFFD) || 0x10000 ≤ n

/-- The text with line feeds for all carriage returns and pairs of the two. -/
def plainLines : List Char → List Char
  | [] => []
  | '\r' :: '\n' :: s => '\n' :: plainLines s
  | c :: s => (if c = '\r' then '\n' else c) :: plainLines s

namespace Object

/-- The numbers of the parts of a value, keys in front of their values. -/
def parts : Object → List Nat
  | .scalar _ => []
  | .list items => items
  | .map entries => entries.flatMap fun (key, value) => key.part.toList ++ [value]
  | .set members => members.flatMap fun key => key.part.toList
  | .pair first second => [first, second]

/-- Whether a value that stands in several places is one and the same there. -/
def hasIdentity : Object → Bool
  | .scalar (.date _) | .scalar (.moment _) | .list _ | .map _ | .set _ | .pair .. => true
  | .scalar _ => false

/-- How often each value is met on the way through those that wait. The parts of a value count once, when it is first met. -/
def meetings (objects : Array Object) : (fuel : Nat) → (counts : Array Nat) → List Nat → Array Nat
  | 0, counts, _ => counts
  | _, counts, [] => counts
  | fuel + 1, counts, number :: rest =>
    let count := counts.getD number 0
    let counts := counts.setIfInBounds number (count + 1)
    let inside := if count = 0 then ((objects[number]?).map parts).getD [] else []
    meetings objects fuel counts (inside ++ rest)

/-- The values that stand in several places of the document, by their numbers. -/
def sharedNumbers (objects : Array Object) (root : Nat) : Array Bool :=
  let fuel := objects.foldl (fun n o => n + o.parts.length) 2
  let counts := meetings objects fuel (Array.replicate objects.size 0) [root]
  (counts.zip objects).map fun (count, o) => o.hasIdentity && decide (1 < count)

mutual

/-- What stands in the place of a value: its name, or the value itself. -/
def inPlace (objects : Array Object) (shared : Array Bool) : (fuel : Nat) → (number : Nat) → Yaml
  | 0, _ => .null
  | fuel + 1, number => if shared.getD number false then .shared number else whole objects shared fuel number

/-- A value with its parts. -/
def whole (objects : Array Object) (shared : Array Bool) : (fuel : Nat) → (number : Nat) → Yaml
  | 0, _ => .null
  | fuel + 1, number =>
    let key (k : Key) : Key := { k with part := k.part.filter fun n => shared.getD n false }
    match objects[number]? with
    | none => .null
    | some (.scalar s) => .scalar s
    | some (.list items) => .list (items.map (inPlace objects shared fuel))
    | some (.map entries) => .map (entries.map fun (k, value) => (key k, inPlace objects shared fuel value))
    | some (.set members) => .set (members.map key)
    | some (.pair first second) => .pair (inPlace objects shared fuel first) (inPlace objects shared fuel second)

end

/-- The document of values and the number of the outermost one. Without those that stand in several places the values lie inside one
another no deeper than there are values. -/
def document (objects : Array Object) (root : Nat) : Document :=
  let shared := sharedNumbers objects root
  let fuel := 2 * objects.size + 2
  let names := (List.range objects.size).filter fun n => shared.getD n false
  { root := inPlace objects shared fuel root, parts := names.map fun n => (n, whole objects shared fuel n) }

end Object

/-- The document of a text, if it holds any. Texts hold no halves of pairs, so a character stands for each that is escaped. -/
def read (text : String) (half : Char := usualHalf) : Except ReadError (Option Document) := do
  let s := plainLines text.toList
  if !s.all isAllowed then refused
  else
    let (nodes, root) ← composed s half
    match root with
    | none => return none
    | some number => do
      let (objects, root) ← constructed nodes number
      return some (Object.document objects root)

end RanConsole.Yaml

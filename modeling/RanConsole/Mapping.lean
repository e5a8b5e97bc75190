/-!
# Ordered mappings

A mapping is a list of pairs with distinct keys, in the order in which the keys came. Writing a key that is there replaces its
value and keeps its place; a new key comes last.
-/

namespace RanConsole.Mapping

variable {κ α : Type} [BEq κ]

/-- The mapping with the key set to the value. -/
def put (key : κ) (value : α) : List (κ × α) → List (κ × α)
  | [] => [(key, value)]
  | (k, v) :: rest => if k == key then (k, value) :: rest else (k, v) :: put key value rest

/-- The mapping that results from writing the pairs one after another. -/
def putAll (start : List (κ × α)) (pairs : List (κ × α)) : List (κ × α) :=
  pairs.foldl (fun m pair => put pair.1 pair.2 m) start

/-- The mapping of a list of pairs: of several values for a key the last one, at the place of the first. -/
def ofPairs (pairs : List (κ × α)) : List (κ × α) :=
  putAll [] pairs

/-- Whether the key is there. -/
def has (key : κ) (m : List (κ × α)) : Bool :=
  m.any (·.1 == key)

/-- The value of the key. -/
def get? (key : κ) : List (κ × α) → Option α
  | [] => none
  | (k, v) :: rest => if k == key then some v else get? key rest

/-- The keys in their order. -/
def keys (m : List (κ × α)) : List κ := m.map (·.1)

end RanConsole.Mapping

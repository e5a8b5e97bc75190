import RanConsole.Json.Basic

/-!
# Filters

A filter holds a predicate against the value of a key. A negation holds a filter of its own, with a key of its own. The wire
form of a filter is an object: the key first, then the one member that names the kind of the predicate.
-/

namespace RanConsole.Query

/-- A condition on the value of a key. -/
inductive Predicate where
  | equal (value : String)
  | among (values : List String)
  /-- The negation of a filter with the given key and predicate. -/
  | negation (key : String) (inner : Predicate)
  deriving DecidableEq, Repr, Inhabited

/-- A predicate with the key it applies to. -/
structure Filter where
  key : String
  predicate : Predicate
  deriving DecidableEq, Repr

/-- The member that a predicate adds to the wire form of its filter. -/
def Predicate.toMember : Predicate → String × Json
  | .equal value => ("equal", .obj [("value", .str value)])
  | .among values => ("in", .obj [("values", .texts values)])
  | .negation key inner => ("not", .obj [("inner", .obj [("key", .str key), inner.toMember])])

/-- The wire form of a filter. -/
def Filter.toJson (f : Filter) : Json :=
  .obj [("key", .str f.key), f.predicate.toMember]

/-- The texts of a list of JSON texts. -/
def textsOf? : List Json → Option (List String)
  | [] => some []
  | .str s :: rest => (textsOf? rest).map (s :: ·)
  | _ => none

/-- The predicate of a wire member. -/
def Predicate.ofMember? : String → Json → Option Predicate
  | "equal", .obj [("value", .str value)] => some (.equal value)
  | "in", .obj [("values", .arr items)] => (textsOf? items).map .among
  | "not", .obj [("inner", .obj [("key", .str key), (name, inner)])] => (ofMember? name inner).map (.negation key)
  | _, _ => none

/-- The filter of a wire form. -/
def Filter.ofJson? : Json → Option Filter
  | .obj [("key", .str key), (name, v)] => (Predicate.ofMember? name v).map (⟨key, ·⟩)
  | _ => none

/-- The filters of a query: on labels and on kinds. An object has to pass all of them. -/
structure Filters where
  labels : List Filter := []
  kinds : List Filter := []
  deriving DecidableEq, Repr

/-- The wire form of the filters of a query. -/
def Filters.toJson (f : Filters) : Json :=
  .obj [("labelFilters", .arr (f.labels.map Filter.toJson)), ("kindFilters", .arr (f.kinds.map Filter.toJson))]

/-- The filters of a wire form. -/
def Filters.ofJson? : Json → Option Filters
  | .obj [("labelFilters", .arr labels), ("kindFilters", .arr kinds)] => do
    return ⟨← labels.mapM Filter.ofJson?, ← kinds.mapM Filter.ofJson?⟩
  | _ => none

end RanConsole.Query

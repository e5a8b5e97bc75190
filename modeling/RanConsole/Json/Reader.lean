import RanConsole.Json.Token

/-!
# Reading JSON

The reader goes through the tokens with the open lists and objects around the current place, innermost first. It is defined by
one step a token, so that a value's tokens can be followed by any others. Of several members with one key the last counts. How far down
a reader goes depends on the room that it is given, so the limit is part of how a text is read.
-/

namespace RanConsole.Json

/-- A list or an object that is not closed yet, newest entry first. -/
inductive Pending where
  | list (items : List Json)
  /-- An object that waits for the value of a key. -/
  | object (members : List (String × Json)) (key : String)
  deriving Repr

/-- Where the reader stands. -/
inductive State where
  /-- A value has to come. -/
  | value (around : List Pending)
  /-- A list has just been opened. -/
  | firstItem (around : List Pending)
  /-- An object has just been opened. -/
  | firstKey (around : List Pending)
  /-- A key has to come. -/
  | key (members : List (String × Json)) (around : List Pending)
  /-- A colon has to come after the key. -/
  | colon (members : List (String × Json)) (key : String) (around : List Pending)
  /-- A value is complete. -/
  | complete (v : Json) (around : List Pending)
  deriving Repr

/-- The object of members given newest first. -/
def objectOf (members : List (String × Json)) : Json :=
  .obj (Mapping.ofPairs members.reverse)

/-- The usual limit for lists and objects inside one another. -/
def maxDepth : Nat := 975

/-- How a text is read. -/
structure Reading where
  /-- The greatest number of lists and objects inside one another. -/
  limit : Nat := maxDepth
  halves : Halves := .mended
  deriving DecidableEq, Repr

/-- A list or an object is opened inside others, unless there are too many of them. -/
def opened (limit : Nat) (around : List Pending) (s : State) : Except ReadError State :=
  if around.length < limit then .ok s else .error .tooDeep

/-- A token that starts a value. -/
def startValue (limit : Nat) (around : List Pending) : Token → Except ReadError State
  | .scalar v => .ok (.complete v around)
  | .listOpen => opened limit around (.firstItem around)
  | .objectOpen => opened limit around (.firstKey around)
  | .broken e => .error e
  | _ => .error .malformed

/-- A token where a key has to come. -/
def startKey (members : List (String × Json)) (around : List Pending) : Token → Except ReadError State
  | .scalar (.str key) => .ok (.colon members key around)
  | .broken e => .error e
  | _ => .error .malformed

/-- A token after a complete value. -/
def afterValue (v : Json) : List Pending → Token → Except ReadError State
  | _, .broken e => .error e
  | .list items :: around, .comma => .ok (.value (.list (v :: items) :: around))
  | .list items :: around, .listClose => .ok (.complete (.arr (v :: items).reverse) around)
  | .object members key :: around, .comma => .ok (.key ((key, v) :: members) around)
  | .object members key :: around, .objectClose => .ok (.complete (objectOf ((key, v) :: members)) around)
  | _, _ => .error .malformed

/-- One token. -/
def step (limit : Nat) : State → Token → Except ReadError State
  | .value around, t => startValue limit around t
  | .firstItem around, .listClose => .ok (.complete (.arr []) around)
  | .firstItem around, t => startValue limit (.list [] :: around) t
  | .firstKey around, .objectClose => .ok (.complete (.obj []) around)
  | .firstKey around, t => startKey [] around t
  | .key members around, t => startKey members around t
  | .colon members key around, .colon => .ok (.value (.object members key :: around))
  | .colon .., .broken e => .error e
  | .colon .., _ => .error .malformed
  | .complete v around, t => afterValue v around t

/-- The tokens from a place on. -/
def steps (limit : Nat) : State → List Token → Except ReadError State
  | state, [] => .ok state
  | state, t :: rest => do steps limit (← step limit state t) rest

/-- The value that the tokens make. -/
def ofTokens (limit : Nat) (tokens : List Token) : Except ReadError Json := do
  match ← steps limit (.value []) tokens with
  | .complete v [] => .ok v
  | _ => .error .malformed

/-- The value that a text is. -/
def readChars (s : List Char) (how : Reading := {}) : Except ReadError Json :=
  ofTokens how.limit (tokens how.halves s)

/-- The value that a text is. -/
def read (s : String) (how : Reading := {}) : Except ReadError Json :=
  readChars s.toList how

end RanConsole.Json

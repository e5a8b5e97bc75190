import RanConsole.Compression.Source

/-!
# Prefix codes

A prefix code gives a symbol a word of bits such that no word starts another one. It is known by the lengths of its words: the words of
one length are given to the symbols in their order, and shorter words come before longer ones.
-/

namespace RanConsole.Compression

/-- A prefix code: the number of words of each length from one on up to the greatest, and the symbols in the order of their words. -/
structure PrefixCode where
  counts : List Nat
  symbols : List Nat
  deriving DecidableEq, Repr

namespace PrefixCode

/-- The greatest length of a word. -/
def maxLength : Nat := 15

/-- The words of the greatest length that are left over when words have been given, if there were enough. -/
def leftOver? : List Nat → (room : Nat) → Option Nat
  | [], room => some room
  | count :: counts, room => if 2 * room < count then none else leftOver? counts (2 * room - count)

/-- The code whose words have the given lengths, one for each symbol from zero on; the length zero is for symbols without a word. -/
def ofLengths (lengths : List Nat) : PrefixCode :=
  let used := lengths.zipIdx.filter (·.1 ≠ 0)
  let greatest := (lengths.foldl max 0).max 1
  { counts := (List.range greatest).map fun i => (used.filter (·.1 = i + 1)).length
    symbols := ((List.range greatest).flatMap fun i => used.filter (·.1 = i + 1)).map (·.2) }

/-- Whether words of the given lengths make a code to which no word can be added. A code without any word counts too, and where
`single` is set a code of one word of one bit. -/
def isFull (single : Bool) (lengths : List Nat) : Bool :=
  let code := ofLengths lengths
  code.symbols.isEmpty ||
    match leftOver? code.counts 1 with
    | none => false
    | some room => room = 0 || (single && code.counts.length = 1)

/-- The symbol whose word the next bits are, where `word` has been read, `first` is the first word of that length, and `index` symbols
have shorter words. -/
def symbolFrom (symbols : List Nat) : (counts : List Nat) → (word first index : Nat) → Unpacking (Option Nat)
  | [], _, _, _ => return none
  | count :: counts, word, first, index => do
    let word := 2 * word + (← Unpacking.bit).toNat
    let first := 2 * first
    if word < first + count then return symbols[index + (word - first)]?
    else symbolFrom symbols counts word (first + count) (index + count)

/-- The symbol whose word the next bits are, if there is one. -/
def symbol? (c : PrefixCode) : Unpacking (Option Nat) := symbolFrom c.symbols c.counts 0 0 0

end PrefixCode

end RanConsole.Compression

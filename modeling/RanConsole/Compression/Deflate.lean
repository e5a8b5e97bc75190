import RanConsole.Compression.PrefixCode

/-!
# Deflate

Compressed octets come in blocks. A block holds octets as they are, or words of prefix codes for single octets and for repetitions of
what has been unpacked before. The codes of a block are fixed, or they stand in front of it.
-/

namespace RanConsole.Compression.Deflate

open Unpacking

/-- The least lengths of repetitions, and the numbers of bits that follow to make them longer. -/
def repetitionLengths : List (Nat × Nat) :=
  [(3, 0), (4, 0), (5, 0), (6, 0), (7, 0), (8, 0), (9, 0), (10, 0), (11, 1), (13, 1), (15, 1), (17, 1), (19, 2), (23, 2),
   (27, 2), (31, 2), (35, 3), (43, 3), (51, 3), (59, 3), (67, 4), (83, 4), (99, 4), (115, 4), (131, 5), (163, 5), (195, 5),
   (227, 5), (258, 0)]

/-- The least distances of repetitions, and the numbers of bits that follow to make them longer. -/
def repetitionDistances : List (Nat × Nat) :=
  [(1, 0), (2, 0), (3, 0), (4, 0), (5, 1), (7, 1), (9, 2), (13, 2), (17, 3), (25, 3), (33, 4), (49, 4), (65, 5), (97, 5),
   (129, 6), (193, 6), (257, 7), (385, 7), (513, 8), (769, 8), (1025, 9), (1537, 9), (2049, 10), (3073, 10), (4097, 11),
   (6145, 11), (8193, 12), (12289, 12), (16385, 13), (24577, 13)]

/-- The symbol that ends a block. -/
def endSymbol : Nat := 256

/-- The octets that stand at a distance, one after another. -/
def repeated (distance : Nat) : Nat → Unpacking Unit
  | 0 => return
  | count + 1 => do
    let out := (← get).unpacked
    put (out.getD (out.size - distance) 0)
    repeated distance count

/-- A repetition whose length a symbol starts to tell. -/
def repetition (distances : PrefixCode) (symbol : Nat) : Unpacking Unit := do
  match repetitionLengths[symbol - endSymbol - 1]? with
  | none => fail .badLiteral
  | some (least, extra) =>
    let length := least + (← number extra)
    match (← distances.symbol?).bind (repetitionDistances[·]?) with
    | none => fail .badDistance
    | some (least, extra) =>
      let distance := least + (← number extra)
      require (distance ≤ (← get).unpacked.size) .tooFarBack
      repeated distance length

/-- The words of a block up to its end. -/
def words (literals distances : PrefixCode) : (fuel : Nat) → Unpacking Unit
  | 0 => throw .ended
  | fuel + 1 => do
    match ← literals.symbol? with
    | none => fail .badLiteral
    | some symbol =>
      if symbol = endSymbol then return
      else
        if symbol < endSymbol then put symbol else repetition distances symbol
        words literals distances fuel

/-- The octets of a block that holds them as they are. -/
def copied : Nat → Unpacking Unit
  | 0 => return
  | count + 1 => do
    put (← number 8)
    copied count

/-- A block that holds octets as they are. Their number comes twice, the second time with all bits turned. -/
def stored : Unpacking Unit := do
  align
  let count ← number 16
  let check ← number 16
  require (count + check = 0xFFFF) .badStoredLength
  copied count

/-- The lengths of the words of the fixed code for octets and lengths. -/
def fixedLengths : List Nat :=
  List.replicate 144 8 ++ List.replicate 112 9 ++ List.replicate 24 7 ++ List.replicate 8 8

/-- The lengths of the words of the fixed code for distances. -/
def fixedDistances : List Nat := List.replicate 32 5

/-- The order in which the lengths of words for lengths come. -/
def lengthOrder : List Nat := [16, 17, 18, 0, 8, 7, 9, 6, 10, 5, 11, 4, 12, 3, 13, 2, 14, 1, 15]

/-- Numbers of three bits. -/
def smallNumbers : Nat → Unpacking (List Nat)
  | 0 => return []
  | count + 1 => do
    let n ← number 3
    return n :: (← smallNumbers count)

/-- The lengths of words after those that are known, the last of which comes first. They are told one by one, or as repetitions of the
last one or of zero. In a code without any word every bit tells a zero. -/
def wordLengths (code : PrefixCode) (total : Nat) : (fuel : Nat) → (known : List Nat) → Unpacking (List Nat)
  | 0, _ => throw .ended
  | fuel + 1, known => do
    if total ≤ known.length then return known.reverse
    let symbol := (← code.symbol?).getD 0
    if symbol < 16 then wordLengths code total fuel (symbol :: known)
    else
      let (least, extra) := if symbol = 16 then (3, 2) else if symbol = 17 then (3, 3) else (11, 7)
      let count := least + (← number extra)
      require (symbol ≠ 16 || !known.isEmpty) .badRepeat
      require (known.length + count ≤ total) .badRepeat
      let length := if symbol = 16 then known.headD 0 else 0
      wordLengths code total fuel (List.replicate count length ++ known)

/-- The codes that stand in front of a block. -/
def ownCodes : Unpacking (PrefixCode × PrefixCode) := do
  let literalCount := 257 + (← number 5)
  let distanceCount := 1 + (← number 5)
  let lengthCount := 4 + (← number 4)
  require (literalCount ≤ 286 && distanceCount ≤ 30) .tooManySymbols
  let given := lengthOrder.zip (← smallNumbers lengthCount)
  let lengths := (List.range 19).map fun i => (given.lookup i).getD 0
  require (PrefixCode.isFull false lengths) .badCodeLengths
  let all ← wordLengths (.ofLengths lengths) (literalCount + distanceCount) (literalCount + distanceCount + 1) []
  let literals := all.take literalCount
  let distances := all.drop literalCount
  require (literals.getD endSymbol 0 ≠ 0) .noEnd
  require (PrefixCode.isFull true literals) .badLiteralCode
  require (PrefixCode.isFull true distances) .badDistanceCode
  return (.ofLengths literals, .ofLengths distances)

/-- The blocks up to the last one. -/
def blocks : (fuel : Nat) → Unpacking Unit
  | 0 => throw .ended
  | fuel + 1 => do
    let isLast ← bit
    match ← number 2 with
    | 0 => stored
    | 1 => words (.ofLengths fixedLengths) (.ofLengths fixedDistances) (← bound)
    | 2 =>
      let (literals, distances) ← ownCodes
      words literals distances (← bound)
    | _ => fail .badBlock
    if isLast then return else blocks fuel

/-- Compressed octets. -/
def unpack : Unpacking Unit := do blocks (← bound)

end RanConsole.Compression.Deflate

/-!
# Reading compressed octets

Compressed octets are read bit by bit, the lowest bit of each octet first. Reading stops where the octets end, which is no fault, or
where they cannot be what they are said to be. What has been unpacked until then is kept.
-/

namespace RanConsole.Compression

/-- Why octets cannot be unpacked. -/
inductive Fault where
  | badHeader
  | unknownMethod
  | badWindow
  | needsDictionary
  | unknownFlags
  | headerMismatch
  | badBlock
  | badStoredLength
  | tooManySymbols
  | badCodeLengths
  | badRepeat
  | noEnd
  | badLiteralCode
  | badDistanceCode
  | badLiteral
  | badDistance
  | tooFarBack
  | dataMismatch
  | lengthMismatch
  deriving DecidableEq, Repr

/-- What is said about a fault of the octets. -/
def Fault.detail : Fault → Option String
  | .badHeader => some "incorrect header check"
  | .unknownMethod => some "unknown compression method"
  | .badWindow => some "invalid window size"
  | .needsDictionary => none
  | .unknownFlags => some "unknown header flags set"
  | .headerMismatch => some "header crc mismatch"
  | .badBlock => some "invalid block type"
  | .badStoredLength => some "invalid stored block lengths"
  | .tooManySymbols => some "too many length or distance symbols"
  | .badCodeLengths => some "invalid code lengths set"
  | .badRepeat => some "invalid bit length repeat"
  | .noEnd => some "invalid code -- missing end-of-block"
  | .badLiteralCode => some "invalid literal/lengths set"
  | .badDistanceCode => some "invalid distances set"
  | .badLiteral => some "invalid literal/length code"
  | .badDistance => some "invalid distance code"
  | .tooFarBack => some "invalid distance too far back"
  | .dataMismatch => some "incorrect data check"
  | .lengthMismatch => some "incorrect length check"

/-- The wording of a fault. -/
def Fault.message (f : Fault) : String :=
  match f.detail with
  | some detail => "Error -3 while decompressing data: " ++ detail
  | none => "Error 2 while decompressing data"

/-- Why reading stops. -/
inductive Stop where
  | ended
  | fault (f : Fault)
  deriving DecidableEq, Repr

/-- Where the reading stands: the bits that are left, the number of bits read, and what has been unpacked. -/
structure Source where
  bits : List Bool
  taken : Nat := 0
  unpacked : Array Nat := #[]
  deriving Repr

/-- A reading that unpacks octets. -/
abbrev Unpacking := EStateM Stop Source

/-- The bits of an octet, the lowest first. -/
def octetBits (octet : Nat) : List Bool :=
  (List.range 8).map fun i => octet.testBit i

/-- The start of octets. -/
def Source.ofOctets (octets : List Nat) : Source :=
  { bits := octets.flatMap octetBits }

namespace Unpacking

/-- A fault. -/
def fail {α : Type} (f : Fault) : Unpacking α := throw (.fault f)

/-- A fault unless something holds. -/
def require (holds : Bool) (f : Fault) : Unpacking Unit :=
  if holds then pure () else fail f

/-- The next bit. -/
def bit : Unpacking Bool := do
  let s ← get
  match s.bits with
  | [] => throw .ended
  | b :: rest =>
    modify fun s => { s with bits := rest, taken := s.taken + 1 }
    return b

/-- The number that the next bits make, the lowest first. -/
def number : Nat → Unpacking Nat
  | 0 => return 0
  | count + 1 => do
    let b ← bit
    return b.toNat + 2 * (← number count)

/-- The bits up to the end of an octet passed over. -/
def align : Unpacking Unit := do
  let _ ← number ((8 - (← get).taken % 8) % 8)

/-- Octets put to those that have been unpacked. -/
def put (octet : Nat) : Unpacking Unit :=
  modify fun s => { s with unpacked := s.unpacked.push octet }

/-- The next octets passed over. -/
def skip : Nat → Unpacking Unit
  | 0 => return
  | count + 1 => do
    let _ ← number 8
    skip count

/-- The octets up to the next zero passed over, and the zero with them. -/
def skipText : (fuel : Nat) → Unpacking Unit
  | 0 => throw .ended
  | fuel + 1 => do
    if (← number 8) = 0 then return else skipText fuel

/-- A bound for whatever is repeated and takes a bit each time. -/
def bound : Unpacking Nat := do return (← get).bits.length + 1

end Unpacking

end RanConsole.Compression

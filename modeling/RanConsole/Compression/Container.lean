import RanConsole.Compression.Checksum
import RanConsole.Compression.Deflate

/-!
# Containers of compressed octets

Compressed octets come with a header in front, which says how they are made, and with a checksum behind.
-/

namespace RanConsole.Compression

open Unpacking

/-- The octets that have been unpacked. -/
def unpackedOctets : Unpacking (List Nat) := do return (← get).unpacked.toList

/-- The number of the octets in the order of the wire, the highest first. -/
def turned (n : Nat) : Nat :=
  n % 0x100 * 0x1000000 + n / 0x100 % 0x100 * 0x10000 + n / 0x10000 % 0x100 * 0x100 + n / 0x1000000

/-- The zlib container: two octets in front and Adler-32 behind. -/
def zlib : Unpacking Unit := do
  let method ← number 8
  let flags ← number 8
  require ((0x100 * method + flags) % 31 = 0) .badHeader
  require (method % 16 = 8) .unknownMethod
  require (method / 16 ≤ 7) .badWindow
  if flags.testBit 5 then
    let _ ← number 32
    fail .needsDictionary
  Deflate.unpack
  align
  let check ← number 32
  require (turned check = adler32 (← unpackedOctets)) .dataMismatch

/-- The gzip container of the given octets: a header that may hold names, and CRC-32 and the length behind. -/
def gzip (octets : List Nat) : Unpacking Unit := do
  require ((← number 16) = 0x8B1F) .badHeader
  let method ← number 8
  let flags ← number 8
  require (method = 8) .unknownMethod
  require (flags < 0x20) .unknownFlags
  skip 6
  if flags.testBit 2 then skip (← number 16)
  if flags.testBit 3 then skipText (← bound)
  if flags.testBit 4 then skipText (← bound)
  if flags.testBit 1 then
    let size := (← get).taken / 8
    let check ← number 16
    require (check = crc32 (octets.take size) % 0x10000) .headerMismatch
  Deflate.unpack
  align
  let check ← number 32
  require (check = crc32 (← unpackedOctets)) .dataMismatch
  let length ← number 32
  require (length = (← unpackedOctets).length % 0x100000000) .lengthMismatch

/-- The octets that a reading unpacks. Where the compressed octets end too early, it is what has come until then. -/
def unpacked (reading : Unpacking Unit) (octets : List Nat) : Except Fault (List Nat) :=
  match reading.run (.ofOctets octets) with
  | .ok _ s | .error .ended s => .ok s.unpacked.toList
  | .error (.fault f) _ => .error f

/-- The octets of a gzip container. -/
def ungzip (octets : List Nat) : Except Fault (List Nat) := unpacked (gzip octets) octets

/-- The octets of a zlib container, or of compressed octets without a container. -/
def inflate (octets : List Nat) : Except Fault (List Nat) :=
  match unpacked zlib octets with
  | .ok s => .ok s
  | .error _ => unpacked Deflate.unpack octets

end RanConsole.Compression

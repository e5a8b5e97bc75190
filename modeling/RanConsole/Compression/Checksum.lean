/-!
# Checksums of octets

CRC-32 and Adler-32, which go with compressed octets so that damage shows.
-/

namespace RanConsole.Compression

/-- One bit of CRC-32 shifted out. -/
def crcShift (n : Nat) : Nat := if n % 2 = 1 then (n / 2).xor 0xEDB88320 else n / 2

/-- CRC-32 after one more octet. -/
def crcStep (n octet : Nat) : Nat :=
  (List.range 8).foldl (fun n _ => crcShift n) (n.xor octet)

/-- CRC-32. -/
def crc32 (octets : List Nat) : Nat :=
  (octets.foldl crcStep 0xFFFFFFFF).xor 0xFFFFFFFF

/-- Adler-32. -/
def adler32 (octets : List Nat) : Nat :=
  let (low, high) := octets.foldl (fun (low, high) b =>
    let low := (low + b) % 65521
    (low, (high + low) % 65521)) (1, 0)
  0x10000 * high + low

end RanConsole.Compression

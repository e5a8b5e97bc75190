import RanConsole.Compression.Container
import RanConsole.Text.Blank

/-!
# Content codings

A body may be packed in one coding or in several, one after another. Names of codings that are not known are passed over.
-/

namespace RanConsole.Http

/-- A coding of bodies. -/
inductive ContentCoding where
  | gzip
  | deflate
  deriving DecidableEq, Repr

namespace ContentCoding

/-- The names of the codings. -/
def names : List (String × ContentCoding) := [("gzip", .gzip), ("deflate", .deflate)]

/-- The codings that a header lists, in the order in which the body was packed. -/
def listed (header : String) : List ContentCoding :=
  (header.toList.splitOn ',').filterMap fun name => names.lookup (String.ofList ((Text.trim name).map Char.toLower))

/-- What was packed in the coding. -/
def unpack : ContentCoding → List Nat → Except Compression.Fault (List Nat)
  | .gzip => Compression.ungzip
  | .deflate => Compression.inflate

/-- What was packed in codings one after another. -/
def unpackAll (codings : List ContentCoding) (octets : List Nat) : Except Compression.Fault (List Nat) :=
  codings.foldrM unpack octets

end ContentCoding

end RanConsole.Http

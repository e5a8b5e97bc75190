import RanConsole.Http.Host
import RanConsole.Number.Numeral

/-!
# Addresses

An address is a scheme, an authority, a path, a query and a fragment. The authority is made of credentials, a host and a number. Scheme
and host are written in lower case, a number that the scheme implies is left out, steps of the path that stay or go back are taken,
and characters that an address cannot hold are written by their octets. Every part may be missing: an address without a scheme or a
host continues another one.
-/

namespace RanConsole.Http

/-- Why a text is no address. -/
inductive UrlFault where
  | tooLong
  | controlCharacter (c : Char) (position : Nat)
  | badHost (fault : HostFault)
  | badNumber (text : List Char)
  /-- A path behind an authority has to start with a slash. -/
  | pathWithoutSlash
  /-- A path alone cannot start with two slashes. -/
  | pathWithTwoSlashes
  /-- A path alone cannot start with a colon. -/
  | pathWithColon
  deriving DecidableEq, Repr

/-- The wording of the fault. -/
def UrlFault.message : UrlFault → String
  | .tooLong => "URL too long"
  | .controlCharacter c position =>
    "Invalid non-printable ASCII character in URL, " ++ quoted (String.singleton c) ++ " at position " ++ toString position ++ "."
  | .badHost fault => fault.message
  | .badNumber text => "Invalid port: " ++ quoted (String.ofList text)
  | .pathWithoutSlash => "For absolute URLs, path must be empty or begin with '/'"
  | .pathWithTwoSlashes => "Relative URLs cannot have a path starting with '//'"
  | .pathWithColon => "Relative URLs cannot have a path starting with ':'"

/-- An address, each part as it is written. -/
structure Url where
  scheme : List Char := []
  /-- Who asks: a name, and a password after a colon. -/
  credentials : List Char := []
  host : List Char := []
  number : Option Int := none
  path : List Char := []
  query : Option (List Char) := none
  fragment : Option (List Char) := none
  deriving DecidableEq, Repr

namespace Url

/-! ## The parts of a text -/

/-- The parts of an address as someone has typed them. -/
structure Parts where
  scheme : List Char := []
  authority : List Char := []
  path : List Char := []
  query : Option (List Char) := none
  fragment : Option (List Char) := none
  deriving DecidableEq, Repr

/-- The parts before and after the first place where the character stands. -/
def cutAt (c : Char) (s : List Char) : List Char × Option (List Char) :=
  match Text.cut? [c] s with
  | some (front, rest) => (front, some rest)
  | none => (s, none)

/-- The scheme in front of a text, which a colon ends, and what follows it. -/
def cutScheme (s : List Char) : List Char × List Char :=
  let isMark (c : Char) : Bool := c.isAlphanum || c = '+' || c = '.' || c = '-'
  match cutAt ':' s with
  | (scheme, some rest) =>
    if scheme.all isMark && (scheme.head?.map Char.isAlpha).getD true then (scheme, rest) else ([], s)
  | (_, none) => ([], s)

/-- The authority in front of a text, which two slashes announce, and what follows it. -/
def cutAuthority : List Char → List Char × List Char
  | '/' :: '/' :: s => (s.takeWhile (· ≠ '/'), s.dropWhile (· ≠ '/'))
  | s => ([], s)

/-- The parts of a text. -/
def Parts.ofText (s : List Char) : Parts :=
  let (s, fragment) := cutAt '#' s
  let (s, query) := cutAt '?' s
  let (scheme, s) := cutScheme s
  let (authority, path) := cutAuthority s
  { scheme, authority, path, query, fragment }

/-- The credentials, the host and the number of an authority. -/
def authorityParts (s : List Char) : List Char × List Char × List Char :=
  let behind := (s.reverse.takeWhile (· ≠ '@')).reverse
  let credentials := if s.contains '@' then s.take (s.length - behind.length - 1) else []
  let upToBracket := (behind.reverse.dropWhile (· ≠ ']')).reverse
  let host := if behind.head? == some '[' && !upToBracket.isEmpty then upToBracket else behind.takeWhile (· ≠ ':')
  let rest := behind.drop host.length
  (credentials, host, if rest.head? == some ':' then rest.tail else rest)

/-! ## Writing the parts -/

/-- The characters that an address cannot hold in any part. -/
def neverMarks : List Char := " \"<>".toList

/-- The characters that a path cannot hold as they are. -/
def pathBars : List Char := neverMarks ++ "#?`\x7B\x7D".toList

/-- The characters that credentials cannot hold as they are. -/
def credentialBars : List Char := pathBars ++ "/;=@[\\]^|".toList

/-- A printable ASCII character besides some. -/
def isPlainBut (bars : List Char) (c : Char) : Bool :=
  0x20 ≤ c.toNat && c.toNat < 0x7F && !bars.contains c

/-- The numbers that schemes imply. -/
def impliedNumbers : List (String × Int) :=
  [("ftp", 21), ("http", 80), ("https", 443), ("ws", 80), ("wss", 443)]

/-- The number that a text gives, unless the scheme implies it. The scheme implies one only as it is written in lower case. -/
def numberOf (scheme s : List Char) : Except UrlFault (Option Int) :=
  if s.isEmpty then .ok none
  else
    match Numeral.integer s with
    | .ok n => .ok (if impliedNumbers.lookup (String.ofList scheme) = some n then none else some n)
    | .error _ => .error (.badNumber s)

/-- The steps of a path without those that stay or go back. -/
def withoutDots (kept : List (List Char)) : List (List Char) → List (List Char)
  | [] => kept.reverse
  | step :: rest =>
    if step = ['.'] then withoutDots kept rest
    else if step = ['.', '.'] then withoutDots (if kept.isEmpty || kept == [[]] then kept else kept.tail) rest
    else withoutDots (step :: kept) rest

/-- A path without steps that stay or go back. -/
def normalPath (s : List Char) : List Char :=
  Text.joinWith ['/'] (withoutDots [] (s.splitOn '/'))

/-- A path that may stand where it does. A path alone is left as it is; others are without steps that stay or go back. -/
def placedPath (hasScheme hasAuthority : Bool) (s : List Char) : Except UrlFault (List Char) :=
  if hasAuthority && !s.isEmpty && s.head? != some '/' then .error .pathWithoutSlash
  else if hasScheme || hasAuthority then .ok (normalPath s)
  else if ['/', '/'].isPrefixOf s then .error .pathWithTwoSlashes
  else if s.head? == some ':' then .error .pathWithColon
  else .ok s

/-- The greatest number of characters of an address, and of each of its parts. -/
def maxLength : Nat := 65536

/-- The lengths of the parts. -/
def Parts.lengths (p : Parts) : List Nat :=
  [p.scheme.length, p.authority.length, p.path.length, (p.query.getD []).length, (p.fragment.getD []).length]

/-- The address that parts make. -/
def ofParts (p : Parts) : Except UrlFault Url := do
  if p.lengths.any (maxLength < ·) then throw .tooLong
  let (credentials, host, number) := authorityParts p.authority
  let credentials := Text.Percent.encode (isPlainBut credentialBars) credentials
  let host ← (Host.encode host).mapError .badHost
  let number ← numberOf p.scheme number
  let path ← placedPath (!p.scheme.isEmpty) (!credentials.isEmpty || !host.isEmpty || number.isSome) p.path
  return {
    scheme := p.scheme.map Char.toLower
    credentials, host, number
    path := Text.Percent.encode (isPlainBut pathBars) path
    query := p.query.map (Text.Percent.encode (isPlainBut (neverMarks ++ ['#'])))
    fragment := p.fragment.map (Text.Percent.encode (isPlainBut (neverMarks ++ ['`']))) }

/-- The address that a text is. -/
def parse (text : String) : Except UrlFault Url :=
  let s := text.toList
  if maxLength < s.length then .error .tooLong
  else
    match s.findIdx? fun c => c.toNat < 0x20 || c.toNat = 0x7F with
    | some i => .error (.controlCharacter (s.getD i ' ') i)
    | none => ofParts (Parts.ofText s)

/-! ## Addresses as texts -/

/-- The authority as a text. -/
def authority (u : Url) : List Char :=
  (if u.credentials.isEmpty then [] else u.credentials ++ ['@']) ++
    (if u.host.contains ':' then '[' :: u.host ++ [']'] else u.host) ++
    u.number.elim [] fun n => ':' :: (toString n).toList

/-- The address as a text. -/
def text (u : Url) : String :=
  let authority := u.authority
  String.ofList <|
    (if u.scheme.isEmpty then [] else u.scheme ++ [':']) ++ (if authority.isEmpty then [] else '/' :: '/' :: authority) ++
      u.path ++ u.query.elim [] ('?' :: ·) ++ u.fragment.elim [] ('#' :: ·)

/-- The path as requests name it: never empty. -/
def requestPath (u : Url) : List Char := if u.path.isEmpty then ['/'] else u.path

/-- The path for people to read. -/
def readablePath (u : Url) : String := String.ofList (Text.Percent.decode u.requestPath)

/-- The name and the password among the credentials. -/
def nameAndPassword (u : Url) : List Char × List Char :=
  let (name, password) := cutAt ':' u.credentials
  (Text.Percent.decode name, Text.Percent.decode (password.getD []))

/-- Whether a kind of address can be told from the text: something in front of the first colon, and no slash in it. What follows the
last `#` does not count. -/
def isTyped (u : Url) : Bool :=
  let s := u.text.toList
  let s := if s.contains '#' then ((s.reverse.dropWhile (· ≠ '#')).drop 1).reverse else s
  let front := s.takeWhile fun c => c ≠ '/' && c ≠ ':'
  !front.isEmpty && s[front.length]? == some ':'

/-! ## Addresses below others -/

/-- The parts of an address. -/
def parts (u : Url) : Parts :=
  { scheme := u.scheme, authority := u.authority, path := u.path, query := u.query, fragment := u.fragment }

/-- What a request asks of a host: the path, and the query behind it. -/
def target (u : Url) : List Char := u.requestPath ++ u.query.elim [] ('?' :: ·)

/-- The address with another path and query. -/
def withTarget (u : Url) (target : List Char) : Except UrlFault Url :=
  let (path, query) := cutAt '?' target
  ofParts { u.parts with path, query }

/-- The address as a base for others: what it asks for ends with a slash. -/
def asBase (u : Url) : Except UrlFault Url :=
  if u.target.getLast? == some '/' then .ok u else u.withTarget (u.target ++ ['/'])

/-- An address below a base, for a path that starts with a slash. A query that is asked for replaces that of the base. -/
def below (base : Url) (path : String) (query : Option String) : Except UrlFault Url := do
  let u ← base.withTarget (base.target ++ path.toList.dropWhile (· = '/'))
  match query with
  | none => return u
  | some q => ofParts { u.parts with query := some q.toList }

/-- An address on the host of another one, if it has a scheme and no host of its own. -/
def onHostOf (u other : Url) : Except UrlFault Url :=
  if u.scheme.isEmpty || !u.host.isEmpty then .ok u else ofParts (parts { u with host := other.host })

end Url

end RanConsole.Http

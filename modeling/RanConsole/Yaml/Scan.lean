import RanConsole.Yaml.Token

/-!
# The scan of a YAML text

The scan keeps the indentation of the open blocks and the places where a key may have begun. A colon after such a place makes what
stands there a key, and a key further to the right than the open block starts a new mapping. A key has to be followed by its colon
on its own line and within 1024 characters.
-/

namespace RanConsole.Yaml

/-- A place where a key may have begun. -/
structure PossibleKey where
  /-- The number of tokens before it. -/
  position : Nat
  /-- Whether nothing else than a key can stand there. -/
  required : Bool
  index : Nat
  line : Nat
  column : Nat
  deriving Repr

/-- The state of the scan. -/
structure Scanner where
  cursor : Cursor
  /-- The indentation of the innermost open block, -1 outside all. -/
  indent : Int := -1
  outer : List Int := []
  /-- The number of open brackets and braces. -/
  flow : Nat := 0
  keyAllowed : Bool := true
  /-- The place where a key may have begun, for each open bracket and for the block around all, innermost first. -/
  keys : List (Option PossibleKey) := [none]
  tokens : List Token := []
  finished : Bool := false
  /-- What stands for half of a pair. -/
  half : Char := usualHalf
  deriving Repr

/-- The greatest distance between the beginning of a key and its colon. -/
def maxKeyLength : Nat := 1024

namespace Scanner

/-- One more token. -/
def emit (s : Scanner) (t : Token) : Scanner := { s with tokens := s.tokens ++ [t] }

/-- A token put in at a position. -/
def insertAt (s : Scanner) (position : Nat) (t : Token) : Scanner :=
  { s with tokens := s.tokens.take position ++ t :: s.tokens.drop position }

/-- The scan after a number of characters. -/
def skip (n : Nat) (s : Scanner) : Scanner := { s with cursor := s.cursor.skip n }

/-- The scan without the place where the innermost key may have begun. -/
def dropKey (s : Scanner) : Except ReadError Scanner :=
  match s.keys with
  | some key :: rest => if key.required then refused else .ok { s with keys := none :: rest }
  | _ => .ok s

/-- The scan with the current place as one where a key may begin. -/
def markKey (s : Scanner) : Except ReadError Scanner :=
  if !s.keyAllowed then .ok s
  else do
    let s ← s.dropKey
    let c := s.cursor
    let key : PossibleKey :=
      { position := s.tokens.length, required := s.flow = 0 ∧ s.indent = c.column
        index := c.index, line := c.line, column := c.column }
    return { s with keys := some key :: s.keys.tail }

/-- Whether a key that began at the place can no longer be followed by its colon. -/
def isStale (s : Scanner) (key : PossibleKey) : Bool :=
  key.line ≠ s.cursor.line || maxKeyLength < s.cursor.index - key.index

/-- The scan without the places that are out of reach. -/
def dropStale (s : Scanner) : Except ReadError Scanner :=
  if s.keys.any fun k => k.any fun key => s.isStale key && key.required then refused
  else .ok { s with keys := s.keys.map fun k => k.filter fun key => !s.isStale key }

/-- The blocks that end before the column. -/
def closeBlocks (column : Int) (s : Scanner) : List Int → Scanner
  | [] => s
  | outer :: rest =>
    if column < s.indent then
      closeBlocks column { s with indent := outer, outer := rest, tokens := s.tokens ++ [.blockEnd] } rest
    else s

/-- The scan with the blocks closed that end before the column. -/
def unwind (column : Int) (s : Scanner) : Scanner :=
  if s.flow ≠ 0 then s else closeBlocks column s s.outer

/-- A block opened at a column, if it lies further to the right than the one that is open. -/
def openBlock (column position : Nat) (t : Token) (s : Scanner) : Scanner :=
  if s.indent < column then
    { s with indent := column, outer := s.indent :: s.outer }.insertAt position t
  else s

/-- What follows spaces, comments and line ends. -/
def toNextToken : List Char → List Char × Bool
  | [] => ([], false)
  | c :: s =>
    if c = ' ' then toNextToken s
    else if isBreak c then ((toNextToken s).1, true)
    else if c = '#' then comment s
    else (c :: s, false)
where
  /-- What follows a comment. -/
  comment : List Char → List Char × Bool
    | [] => ([], false)
    | c :: s => if isBreak c then ((toNextToken s).1, true) else comment s

/-- The scan at the next token. A key may begin on a new line. -/
def advance (s : Scanner) : Scanner :=
  let rest :=
    match s.cursor.rest with
    | c :: t => if s.cursor.index = 0 ∧ c = '\uFEFF' then t else c :: t
    | [] => []
  let (rest, newLine) := toNextToken rest
  { s with cursor := s.cursor.skipTo rest, keyAllowed := s.keyAllowed || (newLine && s.flow == 0) }

/-- The scan in front of a token of a document's frame, which ends all blocks. -/
def framed (s : Scanner) : Except ReadError Scanner := do
  return { ← (s.unwind (-1)).dropKey with keyAllowed := false }

/-- One more token, after which the text goes on with the rest. -/
def place (s : Scanner) (t : Token) (rest : List Char) : Scanner :=
  { s with cursor := s.cursor.skipTo rest }.emit t

/-- A bracket or brace opened. -/
def openFlow (s : Scanner) (t : Token) : Except ReadError Scanner := do
  let s ← s.markKey
  return ({ s with flow := s.flow + 1, keyAllowed := true, keys := none :: s.keys }.emit t).skip 1

/-- A bracket or brace closed. -/
def closeFlow (s : Scanner) (t : Token) : Except ReadError Scanner := do
  let s ← s.dropKey
  let keys := if s.flow = 0 then s.keys else s.keys.tail
  return ({ s with flow := s.flow - 1, keyAllowed := false, keys := keys }.emit t).skip 1

/-- A comma between the entries of a bracket or brace. -/
def entryEnd (s : Scanner) : Except ReadError Scanner := do
  let s ← s.dropKey
  return ({ s with keyAllowed := true }.emit .comma).skip 1

/-- The dash in front of a list item. -/
def dash (s : Scanner) : Except ReadError Scanner := do
  if s.flow = 0 && !s.keyAllowed then refused
  else
    let s := if s.flow = 0 then s.openBlock s.cursor.column s.tokens.length .listStart else s
    let s ← { s with keyAllowed := true }.dropKey
    return (s.emit .dash).skip 1

/-- The question mark in front of a key. -/
def explicitKey (s : Scanner) : Except ReadError Scanner := do
  if s.flow = 0 && !s.keyAllowed then refused
  else
    let s := if s.flow = 0 then s.openBlock s.cursor.column s.tokens.length .mapStart else s
    let s ← { s with keyAllowed := s.flow = 0 }.dropKey
    return (s.emit .key).skip 1

/-- The colon between a key and its value. -/
def colon (s : Scanner) : Except ReadError Scanner := do
  match s.keys with
  | some key :: rest =>
    let s := { s with keys := none :: rest, keyAllowed := false }.insertAt key.position .key
    let s := if s.flow = 0 then s.openBlock key.column key.position .mapStart else s
    return (s.emit .value).skip 1
  | _ =>
    if s.flow = 0 && !s.keyAllowed then refused
    else
      let s := if s.flow = 0 then s.openBlock s.cursor.column s.tokens.length .mapStart else s
      let s := { s with keyAllowed := s.flow = 0 }
      return (s.emit .value).skip 1

/-- The name of an anchor or alias and what follows it. -/
def name? (s : List Char) : Option (String × List Char) :=
  let name := s.takeWhile isNameChar
  let rest := s.dropWhile isNameChar
  if name.isEmpty then none
  else if isBlankHere rest || "?:,]\x7D%@`".toList.contains (rest.headD ' ') then some (String.ofList name, rest)
  else none

/-- The number at the front and what follows it. -/
def number (s : List Char) : Except ReadError (Nat × List Char) :=
  let digits := s.takeWhile Char.isDigit
  if digits.isEmpty then refused
  else if Numeral.maxDigits < digits.length then .error (.numeral (.tooManyDigits digits.length))
  else .ok (Numeral.digitsValue digits, s.dropWhile Char.isDigit)

/-- The version in a directive and what follows it. -/
def version (s : List Char) : Except ReadError (Directive × List Char) := do
  let (major, rest) ← number (s.dropWhile (· = ' '))
  match rest with
  | '.' :: rest => do
    let (_, rest) ← number rest
    if isLineGap rest then return (.version major, rest) else refused
  | _ => refused

/-- The handle and what it stands for in a directive, and what follows them. -/
def handle? (s : List Char) : Option (Directive × List Char) := do
  match s.dropWhile (· = ' ') with
  | '!' :: t => do
    let (name, rest) ← if t.head? = some ' ' then some ("!", t) else namedHandle? t
    if rest.head? != some ' ' then none
    else do
      let (start, rest) ← tagText? (rest.dropWhile (· = ' '))
      if isLineGap rest then some (.handle name start, rest) else none
  | _ => none

/-- A directive after its mark, and what follows the line. -/
def directive (s : List Char) : Except ReadError (Directive × List Char) := do
  let name := s.takeWhile isNameChar
  let rest := s.dropWhile isNameChar
  if name.isEmpty || !isLineGap rest then refused
  else do
    let (d, rest) ←
      if name = "YAML".toList then version rest
      else if name = "TAG".toList then required (handle? rest)
      else .ok (.other, rest.dropWhile fun c => !isBreak c)
    return (d, ← required (restOfLine rest))

/-- A block scalar, after which a key may begin. -/
def block (s : Scanner) (folded : Bool) (after : List Char) : Except ReadError Scanner := do
  let s ← s.dropKey
  let (text, rest) ← required (blockScalar folded s.indent after)
  return { s with keyAllowed := true }.place (.scalar text false) rest

/-- Whether a plain scalar can begin with the character. -/
def beginsPlain (flow : Nat) (c : Char) (following : List Char) : Bool :=
  !(isGap c || isBreak c || "-?:,[]\x7B\x7D#&*!|>'\"%@`".toList.contains c) ||
    (!isBlankHere following && (c == '-' || (flow == 0 && (c == '?' || c == ':'))))

/-- The scan after the next token. -/
def fetch (s : Scanner) : Except ReadError Scanner := do
  let s ← s.advance.dropStale
  let s := s.unwind s.cursor.column
  match s.cursor.rest with
  | [] =>
    let s ← s.framed
    return { s with finished := true }.emit .streamEnd
  | c :: t =>
    let atStart := s.cursor.column == 0
    if atStart && c == '%' then do
      let s ← s.framed
      let (d, rest) ← directive t
      return s.place (.directive d) rest
    else if atStart && isDocumentMark (c :: t) then do
      let s ← s.framed
      return s.place (if c = '-' then .documentStart else .documentEnd) (t.drop 2)
    else
      /- A token that a key may begin with. -/
      let content (scan : Except ReadError (Token × List Char)) (passedLines : Bool) : Except ReadError Scanner := do
        let s ← s.markKey
        let (token, rest) ← scan
        return { s with keyAllowed := passedLines }.place token rest
      match c with
      | '[' => s.openFlow .bracketOpen
      | ']' => s.closeFlow .bracketClose
      | '\x7B' => s.openFlow .braceOpen
      | '\x7D' => s.closeFlow .braceClose
      | ',' => s.entryEnd
      | '*' => content (required ((name? t).map fun (name, rest) => (.alias name, rest))) false
      | '&' => content (required ((name? t).map fun (name, rest) => (.anchor name, rest))) false
      | '!' => content (required (tag? t)) false
      | '\'' | '"' => content ((quotedScalar s.half c .no {} t).map fun (text, rest) => (.scalar text false, rest)) false
      | _ =>
        if c = '-' && isBlankHere t then s.dash
        else if c = '?' && (s.flow ≠ 0 || isBlankHere t) then s.explicitKey
        else if c = ':' && (s.flow ≠ 0 || isBlankHere t) then s.colon
        else if c = '|' && s.flow = 0 then s.block false t
        else if c = '>' && s.flow = 0 then s.block true t
        else if beginsPlain s.flow c t then
          let (text, rest, passedLines) := plainScalar (s.flow ≠ 0) (s.indent + 1).toNat {} (c :: t)
          content (.ok (.scalar text true, rest)) passedLines
        else refused

/-- The number of tokens that are settled: nothing that follows can make a key of what stands there. -/
def settled (s : Scanner) : Nat :=
  s.keys.foldl
    (fun least k =>
      match k with
      | some key => if s.isStale key then least else min least key.position
      | none => least)
    s.tokens.length

/-- The tokens after at most the given number of further steps. A failure stands behind the tokens that are settled. -/
def run : (fuel : Nat) → Scanner → List Token
  | 0, s => s.tokens ++ [.failed .malformed]
  | fuel + 1, s =>
    if s.finished then s.tokens
    else
      match s.fetch with
      | .ok next => run fuel next
      | .error e => s.tokens.take s.settled ++ [.failed e]

end Scanner

/-- The tokens of a text. Each step of the scan but the last takes at least one character. -/
def tokens (s : List Char) (half : Char := usualHalf) : List Token :=
  Scanner.run (s.length + 3) { cursor := { rest := s }, half }

end RanConsole.Yaml

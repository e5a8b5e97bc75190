import RanConsole.Text.Utf8
import RanConsole.Yaml.ReadError

/-!
# YAML tokens

The tokens of a YAML text and what surrounds their scan: characters that separate, the place in the text, and the scalars, which
may go over several lines. The scan of a scalar looks at each character once and gives the scalar and what follows it. Where the
scan fails stands a token of its own, so that the failure counts only once that token is looked at.
-/

namespace RanConsole.Yaml

/-- A line in front of a document that says how it is to be read. -/
inductive Directive where
  /-- The version of YAML, of which only the number before the point counts. -/
  | version (major : Nat)
  /-- A handle that tags may begin with, and what it stands for. -/
  | handle (name start : String)
  | other
  deriving DecidableEq, Repr

/-- A token of a YAML text. -/
inductive Token where
  | directive (d : Directive)
  | documentStart
  | documentEnd
  | streamEnd
  | listStart
  | mapStart
  /-- The end of a list or mapping that is laid out by indentation. -/
  | blockEnd
  | bracketOpen
  | bracketClose
  | braceOpen
  | braceClose
  | comma
  | dash
  | key
  | value
  | alias (name : String)
  | anchor (name : String)
  /-- A tag: its handle, unless it is written in full, and what follows the handle. -/
  | tag (handle : Option String) (name : String)
  | scalar (text : List Char) (isPlain : Bool)
  /-- The place at which the scan fails. -/
  | failed (e : ReadError)
  deriving DecidableEq, Repr

/-- A line end. -/
def isBreak (c : Char) : Bool :=
  c == '\n' || c == '\r' || c == '\u0085' || c == '\u2028' || c == '\u2029'

/-- A space or a tab. -/
def isGap (c : Char) : Bool := c == ' ' || c == '\t'

/-- Whether the text ends here or goes on with a space, a tab or a line end. -/
def isBlankHere : List Char → Bool
  | [] => true
  | c :: _ => isGap c || isBreak c

/-- Whether a mark of a document's start or end stands here. -/
def isDocumentMark : List Char → Bool
  | '-' :: '-' :: '-' :: s => isBlankHere s
  | '.' :: '.' :: '.' :: s => isBlankHere s
  | _ => false

/-- A line end inside a scalar. -/
def breakChar (c : Char) : Char :=
  if c = '\u2028' ∨ c = '\u2029' then c else '\n'

/-- A place in a text and what follows it. -/
structure Cursor where
  rest : List Char
  index : Nat := 0
  line : Nat := 0
  column : Nat := 0
  deriving Repr

/-- The place after one more character. -/
def Cursor.next (c : Cursor) : Cursor :=
  match c.rest with
  | [] => c
  | ch :: rest =>
    let atEnd := isBreak ch && !(ch == '\r' && rest.head? == some '\n')
    { rest, index := c.index + 1
      line := if atEnd then c.line + 1 else c.line
      column := if atEnd then 0 else if ch = '\uFEFF' then c.column else c.column + 1 }

/-- The place after a number of characters. -/
def Cursor.skip : Nat → Cursor → Cursor
  | 0, c => c
  | n + 1, c => Cursor.skip n c.next

/-- The place at which only the given text follows. -/
def Cursor.skipTo (c : Cursor) (rest : List Char) : Cursor :=
  Cursor.skip (c.rest.length - rest.length) c

/-! ## Scalars over several lines -/

/-- What has been read of a scalar, newest first: its text, and the blanks or the line ends after it that may belong to it. -/
structure Folding where
  text : List Char := []
  blanks : List Char := []
  /-- The line ends after the text: the first one, if it counts, and the others. -/
  breaks : Option (Option Char × List Char) := none
  /-- The number of spaces since the last line end. -/
  column : Nat := 0
  deriving Repr

namespace Folding

/-- The text with what is between it and the next character: blanks as they are, a single line end as a space, and of several
line ends all but the first. -/
def joined (f : Folding) : List Char :=
  match f.breaks with
  | none => f.blanks ++ f.text
  | some (none, others) => others ++ f.text
  | some (some first, others) =>
    if first ≠ '\n' then others ++ first :: f.text
    else if others.isEmpty then ' ' :: f.text
    else others ++ f.text

/-- One more character of the text. -/
def add (f : Folding) (c : Char) : Folding := { text := c :: f.joined }

/-- One more blank. -/
def blank (f : Folding) (c : Char) : Folding := { f with blanks := c :: f.blanks, column := f.column + 1 }

/-- One more line end. -/
def lineEnd (f : Folding) (c : Char) : Folding :=
  match f.breaks with
  | none => { f with blanks := [], breaks := some (some (breakChar c), []), column := 0 }
  | some (first, others) => { f with blanks := [], breaks := some (first, breakChar c :: others), column := 0 }

/-- Whether a line has just begun. -/
def atLineStart (f : Folding) : Bool := f.breaks.isSome && f.column == 0

end Folding

/-- Whether a plain scalar ends before a character. -/
def endsPlain (inFlow : Bool) (c : Char) (following : List Char) : Bool :=
  isGap c || isBreak c ||
    (c == ':' && (isBlankHere following || (inFlow && ",[]\x7B\x7D".toList.contains (following.headD ' ')))) ||
    (inFlow && ",?[]\x7B\x7D".toList.contains c)

/-- A plain scalar that is read up to here: the rest of it, what follows it, and whether line ends were passed. Lines that go on
with it are indented by at least `indent`. -/
def plainScalar (inFlow : Bool) (indent : Nat) (f : Folding) : List Char → List Char × List Char × Bool
  | [] => (f.text.reverse, [], f.breaks.isSome)
  | c :: s =>
    let done := (f.text.reverse, c :: s, f.breaks.isSome)
    if f.atLineStart && isDocumentMark (c :: s) then done
    else if c = ' ' then plainScalar inFlow indent (f.blank c) s
    else if isBreak c then
      if c = '\r' ∧ s.head? = some '\n' then plainScalar inFlow indent f s
      else plainScalar inFlow indent (f.lineEnd c) s
    else if c = '#' ∧ (f.text.isEmpty ∨ !f.blanks.isEmpty ∨ f.breaks.isSome) then done
    else if f.breaks.isSome && !inFlow && f.column < indent then done
    else if endsPlain inFlow c s then done
    else plainScalar inFlow indent (f.add c) s

/-- The characters that a letter after a backslash stands for. -/
def escapes : List (Char × Char) :=
  [('0', '\x00'), ('a', '\x07'), ('b', '\x08'), ('t', '\t'), ('\t', '\t'), ('n', '\n'), ('v', '\x0B'), ('f', '\x0C'),
   ('r', '\r'), ('e', '\x1B'), (' ', ' '), ('"', '"'), ('\\', '\\'), ('/', '/'), ('N', '\u0085'), ('_', '\u00A0'),
   ('L', '\u2028'), ('P', '\u2029')]

/-- The number of hexadecimal digits after a letter. -/
def escapeDigits : List (Char × Nat) := [('x', 2), ('u', 4), ('U', 8)]

/-- How far the scan has come inside an escape. -/
inductive Escaping where
  | no
  | started
  | code (value digits : Nat)
  deriving Repr

/-- The value of a hexadecimal digit. -/
def hexValue? (c : Char) : Option Nat :=
  if c.isDigit then some (c.toNat - '0'.toNat)
  else if 'a' ≤ c.toLower && c.toLower ≤ 'f' then some (c.toLower.toNat - 'a'.toNat + 10)
  else none

/-- The greatest code that is looked up at all. -/
def maxCode : Nat := 0x7FFFFFFF

/-- What usually stands for half of a pair, which is no character. -/
def usualHalf : Char := '\uFFFD'

/-- The character of a code point, or what stands for half of a pair. -/
def codePoint (half : Char) (n : Nat) : Except ReadError Char :=
  if maxCode < n then .error .characterCodeTooGreat
  else if 0x10FFFF < n then .error .noSuchCharacter
  else .ok (if 0xD800 ≤ n ∧ n ≤ 0xDFFF then half else Char.ofNat n)

/-- A quoted scalar that is read up to here: the rest of it and what follows its closing quote. -/
def quotedScalar (half quote : Char) : Escaping → Folding → List Char → Except ReadError (List Char × List Char)
  | _, _, [] => refused
  | .code value digits, f, c :: s =>
    match hexValue? c with
    | none => refused
    | some d =>
      if digits ≤ 1 then
        match codePoint half (16 * value + d) with
        | .ok ch => quotedScalar half quote .no (f.add ch) s
        | .error e => .error e
      else quotedScalar half quote (.code (16 * value + d) (digits - 1)) f s
  | .started, f, c :: s =>
    match escapes.lookup c, escapeDigits.lookup c with
    | some ch, _ => quotedScalar half quote .no (f.add ch) s
    | _, some n => quotedScalar half quote (.code 0 n) f s
    | none, none =>
      if isBreak c then quotedScalar half quote .no { text := f.joined, breaks := some (none, []) } s else refused
  | .no, f, c :: s =>
    if f.atLineStart && isDocumentMark (c :: s) then refused
    else if c = quote then
      if quote = '\'' ∧ s.head? = some '\'' then
        match s with
        | _ :: t => quotedScalar half quote .no (f.add '\'') t
        | [] => refused
      else .ok (f.joined.reverse, s)
    else if isGap c then quotedScalar half quote .no (f.blank c) s
    else if isBreak c then
      if c = '\r' ∧ s.head? = some '\n' then quotedScalar half quote .no f s
      else quotedScalar half quote .no (f.lineEnd c) s
    else if quote = '"' ∧ c = '\\' then quotedScalar half quote .started f s
    else quotedScalar half quote .no (f.add c) s

/-! ## Tags -/

/-- A character of a name. -/
def isNameChar (c : Char) : Bool := c.isAlphanum || c == '-' || c == '_'

/-- A character of a tag. -/
def isTagChar (c : Char) : Bool :=
  c.isAlphanum || "-;/?:@&=+$,_.!~*'()[]%".toList.contains c

/-- The characters of octets in front of those that follow. -/
def withOctets (octets : List Nat) (rest : List Char × List Char) : Option (List Char × List Char) :=
  (Text.Utf8.decode? octets.reverse).map fun chars => (chars ++ rest.1, rest.2)

/-- The characters of a tag and what follows them. Octets of a character are written in two hexadecimal digits after a percent
sign; those read so far are given newest first. -/
def tagChars (octets : List Nat) : List Char → Option (List Char × List Char)
  | [] => withOctets octets ([], [])
  | c :: s =>
    if c = '%' then
      match s with
      | a :: b :: s => do tagChars ((16 * (← hexValue? a) + (← hexValue? b)) :: octets) s
      | _ => none
    else if isTagChar c then do
      let (text, rest) ← tagChars [] s
      withOctets octets (c :: text, rest)
    else withOctets octets ([], c :: s)

/-- The characters of a tag, of which there has to be one, and what follows them. -/
def tagText? (s : List Char) : Option (String × List Char) := do
  let (text, rest) ← tagChars [] s
  if text.isEmpty then none else some (String.ofList text, rest)

/-- Whether a line goes on with a space or ends here. -/
def isLineGap : List Char → Bool
  | [] => true
  | c :: _ => c == ' ' || isBreak c

/-- A handle after its first mark, which has a second one behind its name, and what follows it. -/
def namedHandle? (s : List Char) : Option (String × List Char) :=
  match s.dropWhile isNameChar with
  | '!' :: rest => some (String.ofList ('!' :: (s.takeWhile isNameChar ++ ['!'])), rest)
  | _ => none

/-- A tag after its first mark and what follows it. A second mark in the same word ends a handle. -/
def tag? (s : List Char) : Option (Token × List Char) := do
  let (token, rest) ←
    match s with
    | '<' :: t => do
      let (text, rest) ← tagText? t
      match rest with
      | '>' :: rest => some (Token.tag none text, rest)
      | _ => none
    | _ =>
      if isBlankHere s then some (.tag none "!", s)
      else do
        let (handle, t) ← if (s.takeWhile fun c => c != ' ' && !isBreak c).contains '!' then namedHandle? s else some ("!", s)
        let (text, rest) ← tagText? t
        some (.tag (some handle) text, rest)
  if isLineGap rest then some (token, rest) else none

/-! ## Block scalars -/

/-- What happens to the line ends at the end of a block scalar. -/
inductive Chomp where
  | clip
  | strip
  | keep
  deriving DecidableEq, Repr

/-- What follows the blanks and the comment at the end of a line. -/
def restOfLine (s : List Char) : Option (List Char) :=
  match s.dropWhile (· = ' ') with
  | [] => some []
  | c :: t => if c = '#' then some (t.dropWhile fun e => !isBreak e) else if isBreak c then some (c :: t) else none

/-- The header of a block scalar: chomping, the indentation that is told, and what follows the line. -/
def blockHeader (chomp : Chomp) (told : Option Nat) : List Char → Option (Chomp × Option Nat × List Char)
  | [] => some (chomp, told, [])
  | c :: s =>
    if c = '+' ∧ chomp = .clip then blockHeader .keep told s
    else if c = '-' ∧ chomp = .clip then blockHeader .strip told s
    else if '1' ≤ c ∧ c ≤ '9' ∧ told.isNone then blockHeader chomp (some (c.toNat - '0'.toNat)) s
    else if c = ' ' ∨ isBreak c then (restOfLine (c :: s)).map fun rest => (chomp, told, rest)
    else none

/-- A text as its lines, each with its line end if it has one. -/
def linesWithEnds (line : List Char) : List Char → List (List Char × Option Char)
  | [] => if line.isEmpty then [] else [(line.reverse, none)]
  | c :: s =>
    if c = '\r' ∧ s.head? = some '\n' then linesWithEnds line s
    else if isBreak c then (line.reverse, some (breakChar c)) :: linesWithEnds [] s
    else linesWithEnds (c :: line) s

/-- The number of spaces in front of a line. -/
def indentOf (line : List Char) : Nat := (line.takeWhile (· = ' ')).length

/-- Whether a line holds nothing past an indentation. -/
def isEmptyAt (indent : Nat) (line : List Char) : Bool :=
  line.all (· = ' ') && line.length ≤ indent

/-- The content lines of a block scalar with the line ends of the empty lines in front of each, the line ends after the last, and
the number of lines taken. -/
def contentLines (indent : Nat) (breaks : List Char) (taken : Nat) :
    List (List Char × Option Char) → List (List Char × List Char × Option Char) × List Char × Nat
  | [] => ([], breaks, taken)
  | (line, ending) :: rest =>
    if isEmptyAt indent line then
      match ending with
      | some e => contentLines indent (breaks ++ [e]) (taken + 1) rest
      | none => ([], breaks, taken + 1)
    else if indentOf line < indent then ([], breaks, taken)
    else
      let (lines, last, n) := contentLines indent [] (taken + 1) rest
      ((breaks, line.drop indent, ending) :: lines, last, n)

/-- The text of content lines. In a folded scalar a line end between two lines that start with text becomes a space, or is left
out where empty lines follow. -/
def blockText (folded : Bool) : List (List Char × List Char × Option Char) → List Char
  | [] => []
  | [(breaks, line, _)] => breaks ++ line
  | (breaks, line, ending) :: (breaks', line', ending') :: rest =>
    let ending := ending.getD '\n'
    let between : List Char :=
      if folded && ending == '\n' && !isGap (line.headD 'x') && !isGap (line'.headD 'x') then
        if breaks'.isEmpty then [' '] else []
      else [ending]
    breaks ++ line ++ between ++ blockText folded ((breaks', line', ending') :: rest)

/-- A block scalar after its mark, inside a block of the given indentation: its text and what follows it. -/
def blockScalar (folded : Bool) (blockIndent : Int) (s : List Char) : Option (List Char × List Char) := do
  let (chomp, told, rest) ← blockHeader .clip none s
  let body := rest.drop 1
  let lines := linesWithEnds [] body
  let least := (max 1 (blockIndent + 1)).toNat
  let indent :=
    match told with
    | some n => least + n - 1
    | none =>
      let blank := lines.takeWhile fun (line, _) => line.all (· = ' ')
      let first := (lines.drop blank.length).head?
      let widths := blank.map (fun (line, _) => line.length) ++ first.toList.map fun (line, _) => indentOf line
      widths.foldl max least
  let (content, last, taken) := contentLines indent [] 0 lines
  let text := blockText folded content
  let final := ((content.getLast?).bind fun (_, _, ending) => ending).toList
  let tail :=
    match chomp with
    | .strip => []
    | .clip => final
    | .keep => final ++ last
  let consumed := (lines.take taken).foldl (fun n (line, ending) => n + line.length + (if ending.isSome then 1 else 0)) 0
  return (text ++ tail, body.drop consumed)

end RanConsole.Yaml

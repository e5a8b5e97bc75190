import RanConsole.Number.Layout
import RanConsole.Text.Quoted
import RanConsole.Yaml.Resolve
import RanConsole.Yaml.Token

/-!
# The written form of scalars

A text is written plain if it reads back as itself, else between apostrophes, and between double quotes with escapes where it holds
anything but printable ASCII characters and line feeds. Long texts are folded at single spaces once a line has passed the width.
Octets stand on lines of their own.
-/

namespace RanConsole

/-- A number with zeros in front up to a least length. -/
def paddedNumber (width n : Nat) : List Char :=
  Decimal.zeroPadded width (Decimal.digitsOf n)

/-- A date as year, month and day. -/
def Date.text (d : Date) : List Char :=
  paddedNumber 4 d.year ++ '-' :: (paddedNumber 2 d.month ++ '-' :: paddedNumber 2 d.day)

/-- A distance from universal time in hours and minutes. -/
def offsetText (seconds : Int) : List Char :=
  let minutes := seconds.natAbs / 60
  (if seconds < 0 then '-' else '+') :: (paddedNumber 2 (minutes / 60) ++ ':' :: paddedNumber 2 (minutes % 60))

/-- A date and a time with a mark between them. -/
def Moment.text (mark : Char) (m : Moment) : List Char :=
  m.date.text ++ mark :: (paddedNumber 2 m.hour ++ ':' :: (paddedNumber 2 m.minute ++ ':' :: paddedNumber 2 m.second)) ++
    (if m.microsecond = 0 then [] else '.' :: paddedNumber 6 m.microsecond) ++
    (m.offset.elim [] offsetText)

namespace Yaml

/-- Numbers in YAML: a number with an exponent has a point. -/
def numbers : NumberFormat :=
  { NumberFormat.plain with
    pointBeforeExponent := true, infinity := ".inf", negativeInfinity := "-.inf", notANumber := ".nan" }

/-- The characters of a scalar without quotes. -/
def Scalar.chars : Scalar → List Char
  | .null => "null".toList
  | .bool true => "true".toList
  | .bool false => "false".toList
  | .int i => integerText i
  | .float x => (x.written numbers).toList
  | .str s => s.toList
  | .octets bs => (Text.Base64.lines bs).flatMap (· ++ ['\n'])
  | .date d => d.text
  | .moment m => m.text ' '

/-! ## Styles -/

/-- How a scalar is quoted. -/
inductive Style where
  | plain
  | single
  | double
  deriving DecidableEq, Repr

/-- A character that ends a word in a written text. -/
def endsWord (c : Char) : Bool := c == '\x00' || isGap c || isBreak c

/-- Whether a word ends here. -/
def isWordEnd : List Char → Bool
  | [] => true
  | c :: _ => endsWord c

/-- Whether a mark stands behind the first character: a colon at the end of a word, or a number sign at the beginning of one. -/
def hasInnerMark (before : Char) : List Char → Bool
  | [] => false
  | c :: s => (c == ':' && isWordEnd s) || (c == '#' && endsWord before) || hasInnerMark c s

/-- Whether a text begins with a mark. -/
def hasLeadingMark : List Char → Bool
  | [] => false
  | c :: s =>
    ['#', ',', '[', ']', '\x7B', '\x7D', '&', '*', '!', '|', '>', '\'', '"', '%', '@', '\x60'].contains c ||
      (['?', ':', '-'].contains c && isWordEnd s)

/-- Whether a text has a mark of YAML in it. -/
def hasMark : List Char → Bool
  | [] => false
  | c :: s =>
    ['-', '-', '-'].isPrefixOf (c :: s) || ['.', '.', '.'].isPrefixOf (c :: s) || hasLeadingMark (c :: s) || hasInnerMark c s

/-- A character that needs no escape. -/
def isOrdinary (c : Char) : Bool := ' ' ≤ c && c ≤ '~'

/-- Whether two characters stand side by side in a text. -/
def hasPair (a b : Char) (s : List Char) : Bool :=
  (s.zip s.tail).contains (a, b)

/-- A space or a line feed. -/
def isPadding (c : Char) : Bool := c == ' ' || c == '\n'

/-- Whether a text can be written without quotes. -/
def fitsPlain (s : List Char) : Bool :=
  s.all isOrdinary && !hasMark s && !(s.head?).any isPadding && !(s.getLast?).any isPadding

/-- Whether a text can be written between apostrophes. -/
def fitsSingle (s : List Char) : Bool :=
  (s.all fun c => isOrdinary c || c == '\n') && !hasPair '\n' ' ' s && !hasPair ' ' '\n' s

/-- The style of a scalar. -/
def Scalar.style : Scalar → Style
  | .str s =>
    if Tag.ofPlain s.toList = .str ∧ fitsPlain s.toList then .plain
    else if fitsSingle s.toList then .single
    else .double
  | _ => .plain

/-! ## Folding -/

/-- The column past which a line is folded. -/
def width : Nat := 80

/-- A line feed and spaces. -/
def newLine (indent : Nat) : List Char := '\n' :: List.replicate indent ' '

/-- Where the lines of a scalar go on: whether it may be folded, and the indentation of its further lines. -/
structure Margin where
  folds : Bool
  indent : Nat
  deriving Repr

/-- A text without escapes from a column on. A single space past the width becomes a line end. -/
def flowed (m : Margin) (column : Nat) (inSpaces : Bool) : List Char → List Char
  | [] => []
  | c :: s =>
    if c = ' ' then
      if m.folds && !inSpaces && !s.isEmpty && s.head? != some ' ' && decide (width < column) then
        newLine m.indent ++ flowed m m.indent true s
      else ' ' :: flowed m (column + 1) true s
    else c :: flowed m (column + 1) false s

/-- A text between apostrophes from a column on. Apostrophes are doubled, and line feeds have an empty line more than they are. -/
def singleFlowed (m : Margin) (column : Nat) (inSpaces inBreaks : Bool) : List Char → List Char
  | [] => []
  | c :: s =>
    if c = ' ' then
      if m.folds && !inSpaces && !s.isEmpty && s.head? != some ' ' && decide (width < column) then
        newLine m.indent ++ singleFlowed m m.indent true false s
      else ' ' :: singleFlowed m (column + 1) true false s
    else if c = '\n' then
      (if inBreaks then ['\n'] else ['\n', '\n']) ++
        (if s.head? = some '\n' then [] else List.replicate m.indent ' ') ++ singleFlowed m m.indent false true s
    else if c = '\'' then '\'' :: '\'' :: singleFlowed m (column + 2) false false s
    else c :: singleFlowed m (column + 1) false false s

/-- The characters that have a letter of their own after a backslash. -/
def escapeLetters : List (Char × Char) :=
  [('\x00', '0'), ('\x07', 'a'), ('\x08', 'b'), ('\t', 't'), ('\n', 'n'), ('\x0B', 'v'), ('\x0C', 'f'), ('\r', 'r'),
   ('\x1B', 'e'), ('"', '"'), ('\\', '\\'), ('\u0085', 'N'), ('\u00A0', '_'), ('\u2028', 'L'), ('\u2029', 'P')]

/-- The escape of a character by its code point. -/
def codeEscape (c : Char) : List Char :=
  let (letter, digits) := if c.toNat < 0x100 then ('x', 2) else if c.toNat < 0x10000 then ('u', 4) else ('U', 8)
  '\\' :: letter :: (Text.hexDigits digits c.toNat).map Char.toUpper

/-- The escape of a character that needs one. -/
def escape? (c : Char) : Option (List Char) :=
  match escapeLetters.lookup c with
  | some letter => some ['\\', letter]
  | none => if isOrdinary c then none else some (codeEscape c)

/-- A text between double quotes from a column on. Past the width a line ends with a backslash, at a space or next to an escape; a
space at the beginning of a line has a backslash too. -/
def doubleFlowed (m : Margin) (column : Nat) (isFirst afterEscape : Bool) : List Char → List Char
  | [] => []
  | c :: s =>
    let mayFold := m.folds && !isFirst && !s.isEmpty
    match escape? c with
    | some e =>
      let column := column + e.length
      if mayFold && decide (width + 1 < column) then
        let mark := if s.head? = some ' ' then ['\\'] else []
        e ++ '\\' :: newLine m.indent ++ mark ++ doubleFlowed m (m.indent + mark.length) false true s
      else e ++ doubleFlowed m column false true s
    | none =>
      if mayFold && (c == ' ' || afterEscape) && decide (width < column) then
        let mark := if c = ' ' then ['\\'] else []
        '\\' :: newLine m.indent ++ mark ++ c :: doubleFlowed m (m.indent + mark.length + 1) false false s
      else c :: doubleFlowed m (column + 1) false false s

/-- Octets as lines of characters under their tag. -/
def octetLines (m : Margin) (octets : List Nat) : List Char :=
  "!!binary ".toList ++
    match Text.Base64.lines octets with
    | [] => "\"\"".toList
    | lines => '|' :: lines.flatMap fun line => newLine m.indent ++ line

/-- A scalar that begins at a column. -/
def Scalar.written (m : Margin) (column : Nat) : Scalar → List Char
  | .octets bs => octetLines m bs
  | s =>
    match s.style with
    | .plain => flowed m column true s.chars
    | .single => '\'' :: (singleFlowed m (column + 1) true false s.chars ++ ['\''])
    | .double => '"' :: (doubleFlowed m (column + 1) true true s.chars ++ ['"'])

end Yaml

end RanConsole

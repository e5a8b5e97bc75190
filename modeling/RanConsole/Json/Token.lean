import RanConsole.Json.Basic
import RanConsole.Number.Numeral

/-!
# JSON tokens

The tokens of a JSON text: brackets, separators, and complete scalars. The scan keeps what it has read of a text or a word and
looks at each character once; where no token can be, it leaves a mark, and the reader stops at the first mark it meets.
-/

namespace RanConsole.Json

/-- Why a text is no JSON value that can be held. -/
inductive ReadError where
  /-- The text breaks the syntax. -/
  | malformed
  /-- An integer with more digits than are read. -/
  | tooManyDigits (count : Nat)
  /-- More lists and objects inside one another than are read. -/
  | tooDeep
  deriving DecidableEq, Repr

/-- A token of a JSON text. -/
inductive Token where
  | listOpen
  | listClose
  | objectOpen
  | objectClose
  | comma
  | colon
  /-- A text, a number, or one of the words. -/
  | scalar (v : Json)
  /-- No token is possible here. -/
  | broken (e : ReadError)
  deriving BEq, Repr

/-- What the scan has read of the current token, newest character first. -/
inductive Scan where
  | between
  | word (read : List Char)
  /-- Inside a text, as the numbers of its characters and of its escaped units. -/
  | text (read : List Nat)
  | escape (read : List Nat)
  /-- Inside an escape that has `digits` more hexadecimal digits. -/
  | unit (read : List Nat) (value digits : Nat)
  deriving Repr

/-- White space between tokens. -/
def isSpace (c : Char) : Bool :=
  c == ' ' || c == '\t' || c == '\n' || c == '\r'

/-- A character of a number or of a word. -/
def isWordChar (c : Char) : Bool :=
  c.isAlphanum || c == '-' || c == '+' || c == '.'

/-- The high half of a pair of UTF-16 units. -/
def isHigh (n : Nat) : Bool := 0xD800 ≤ n && n < 0xDC00

/-- The low half of a pair of UTF-16 units. -/
def isLow (n : Nat) : Bool := 0xDC00 ≤ n && n < 0xE000

/-- How a half of a pair is read that stands alone. It is no character, and no text holds it. -/
inductive Halves where
  /-- One character stands for every half. -/
  | standIn (c : Char)
  /-- Every half has a spelling of its own, the character U+D7FF and another one behind it; U+D7FF itself is spelled twice. Spelled texts
  are ordered as the halves are. -/
  | spelled
  deriving DecidableEq, Repr

/-- The replacement character stands for halves. -/
def Halves.mended : Halves := .standIn '\uFFFD'

/-- The character that starts the spelling of a half. -/
def spellingMark : Char := '\uD7FF'

/-- The distance of the character behind the mark from the half. -/
def spellingShift : Nat := 0x800

/-- The characters of a code point that is no part of a pair. -/
def Halves.single (halves : Halves) (n : Nat) : List Char :=
  match halves with
  | .standIn c => [if isHigh n || isLow n then c else Char.ofNat n]
  | .spelled =>
    if isHigh n || isLow n then [spellingMark, Char.ofNat (n + spellingShift)]
    else if n = spellingMark.toNat then [spellingMark, spellingMark]
    else [Char.ofNat n]

/-- The characters of a list of code points and units: two halves that belong together make one character. -/
def ofUnits (halves : Halves) : List Nat → List Char
  | [] => []
  | [n] => halves.single n
  | n :: m :: rest =>
    if isHigh n && isLow m then Char.ofNat (0x10000 + (n - 0xD800) * 0x400 + (m - 0xDC00)) :: ofUnits halves rest
    else halves.single n ++ ofUnits halves (m :: rest)

/-- The text of the units, given newest first. -/
def textToken (halves : Halves) (read : List Nat) : Token :=
  .scalar (.str (String.ofList (ofUnits halves read.reverse)))

/-- The value of a hexadecimal digit. -/
def hexValue? (c : Char) : Option Nat :=
  if '0' ≤ c && c ≤ '9' then some (c.toNat - '0'.toNat)
  else if 'a' ≤ c && c ≤ 'f' then some (c.toNat - 'a'.toNat + 10)
  else if 'A' ≤ c && c ≤ 'F' then some (c.toNat - 'A'.toNat + 10)
  else none

/-- The character that a one-letter escape stands for. -/
def escapeLetter? (c : Char) : Option Char :=
  [('"', '"'), ('\\', '\\'), ('/', '/'), ('b', '\x08'), ('f', '\x0C'), ('n', '\n'), ('r', '\r'), ('t', '\t')].lookup c

/-- The integer of a sign and digits. -/
def integerToken (negative : Bool) (digits : List Char) : Token :=
  if Numeral.maxDigits < digits.length then .broken (.tooManyDigits digits.length)
  else
    let n : Int := Int.ofNat (Numeral.digitsValue digits)
    .scalar (.int (if negative then -n else n))

/-- Whether what follows the whole part of a number makes it a floating point number: digits behind a point or in an exponent. -/
def isFractional : List Char → Bool
  | '.' :: s => s.head?.any Char.isDigit
  | 'e' :: s | 'E' :: s => (Numeral.signed s).2.head?.any Char.isDigit
  | _ => false

/-- A number with something behind it that does not belong there. If it is an integer it is read first. -/
def brokenNumber (whole rest : List Char) : Token :=
  if !isFractional rest && Numeral.maxDigits < whole.length then .broken (.tooManyDigits whole.length) else .broken .malformed

/-- The number that a word without its minus is. A whole part has no zero in front; a point has digits on both sides. -/
def numberToken (negative : Bool) (word : List Char) : Token :=
  let whole := word.takeWhile Char.isDigit
  let rest := word.dropWhile Char.isDigit
  let whole := if whole.head? == some '0' then ['0'] else whole
  if whole.isEmpty then .broken .malformed
  else if whole.length < (word.takeWhile Char.isDigit).length then .broken .malformed
  else
    match rest with
    | [] => integerToken negative whole
    | '.' :: t =>
      let fraction := t.takeWhile Char.isDigit
      match Numeral.exponent? (t.dropWhile Char.isDigit) with
      | some e =>
        if fraction.isEmpty then brokenNumber whole rest
        else .scalar (.float ((⟨whole, fraction, e⟩ : Numeral.Scientific).value negative))
      | none => brokenNumber whole rest
    | _ =>
      match Numeral.exponent? rest with
      | some e => .scalar (.float ((⟨whole, [], e⟩ : Numeral.Scientific).value negative))
      | none => brokenNumber whole rest

/-- The value that a word is. -/
def wordToken (word : List Char) : Token :=
  let w := String.ofList word
  if w = "null" then .scalar .null
  else if w = "true" then .scalar (.bool true)
  else if w = "false" then .scalar (.bool false)
  else if w = "NaN" then .scalar (.float .nan)
  else if w = "Infinity" then .scalar (.float (.infinite false))
  else if w = "-Infinity" then .scalar (.float (.infinite true))
  else
    match word with
    | '-' :: rest => numberToken true rest
    | _ => numberToken false word

/-- What a character between tokens gives, and how the scan goes on. -/
def opening (c : Char) : List Token × Scan :=
  if isSpace c then ([], .between)
  else if c = '"' then ([], .text [])
  else if isWordChar c then ([], .word [c])
  else
    let token : Token :=
      match c with
      | '[' => .listOpen
      | ']' => .listClose
      | '\x7B' => .objectOpen
      | '\x7D' => .objectClose
      | ',' => .comma
      | ':' => .colon
      | _ => .broken .malformed
    ([token], .between)

/-- The tokens of the text that follows what has been read. -/
def scan (halves : Halves) : Scan → List Char → List Token
  | .between, [] => []
  | .word read, [] => [wordToken read.reverse]
  | _, [] => [.broken .malformed]
  | .between, c :: s =>
    let (tokens, next) := opening c
    tokens ++ scan halves next s
  | .word read, c :: s =>
    if isWordChar c then scan halves (.word (c :: read)) s
    else
      let (tokens, next) := opening c
      wordToken read.reverse :: (tokens ++ scan halves next s)
  | .text read, c :: s =>
    if c = '"' then textToken halves read :: scan halves .between s
    else if c = '\\' then scan halves (.escape read) s
    else if c.toNat < 0x20 then [.broken .malformed]
    else scan halves (.text (c.toNat :: read)) s
  | .escape read, c :: s =>
    if c = 'u' then scan halves (.unit read 0 4) s
    else
      match escapeLetter? c with
      | some e => scan halves (.text (e.toNat :: read)) s
      | none => [.broken .malformed]
  | .unit read value digits, c :: s =>
    match hexValue? c with
    | some d =>
      if digits ≤ 1 then scan halves (.text ((16 * value + d) :: read)) s
      else scan halves (.unit read (16 * value + d) (digits - 1)) s
    | none => [.broken .malformed]

/-- The tokens of a text. -/
def tokens (halves : Halves) (s : List Char) : List Token := scan halves .between s

end RanConsole.Json

import RanConsole.Number.Binary64
import RanConsole.Text.Blank
import RanConsole.Text.Digit
import RanConsole.Text.Quoted

/-!
# Numerals

Integers and floating point numbers as people type them: white space around, a sign, decimal digits of any script, single
underscores between digits. An integer may have at most 4300 digits.
-/

namespace RanConsole

/-- Why a text is no integer. -/
inductive NumeralError where
  | notAnInteger (text : String) (base : Nat := 10)
  | tooManyDigits (count : Nat)
  deriving DecidableEq, Repr

namespace Numeral

/-- The greatest number of digits of an integer that is read. -/
def maxDigits : Nat := 4300

/-- White space around a numeral: the blanks without the information separators. -/
def isSpace (c : Char) : Bool :=
  Text.isBlank c && !(0x1C ≤ c.toNat && c.toNat ≤ 0x1F)

/-- The text without the white space at its two ends. -/
def stripped (s : List Char) : List Char :=
  Text.dropEndWhile isSpace (s.dropWhile isSpace)

/-- The sign in front of a numeral, true for a minus, and what follows it. -/
def signed : List Char → Bool × List Char
  | '-' :: s => (true, s)
  | '+' :: s => (false, s)
  | s => (false, s)

/-- The digit values at the front of the text and what follows them. After a digit, a single underscore that a digit follows
is passed over. -/
def digitRun (afterDigit : Bool) : List Char → List Nat × List Char
  | [] => ([], [])
  | c :: s =>
    match Text.decimalDigit? c with
    | some d =>
      let (digits, rest) := digitRun true s
      (d :: digits, rest)
    | none =>
      if afterDigit && c == '_' && (s.head?.bind Text.decimalDigit?).isSome then digitRun false s else ([], c :: s)

/-- The number that digits of the given values make. -/
def valueOf (digits : List Nat) : Nat :=
  digits.foldl (fun n d => 10 * n + d) 0

/-- The integer that a text stands for. -/
def integer (s : List Char) : Except NumeralError Int :=
  let (negative, body) := signed (stripped s)
  let (digits, rest) := digitRun false body
  let invalid := .error (.notAnInteger (String.ofList s))
  if digits.isEmpty || rest.head? == some '_' then invalid
  else if maxDigits < digits.length then .error (.tooManyDigits digits.length)
  else if rest.isEmpty then
    let n : Int := Int.ofNat (valueOf digits)
    .ok (if negative then -n else n)
  else invalid

/-- The value of a digit of a base up to sixteen; the digits up to nine may be of any script. -/
def digitIn? (base : Nat) (c : Char) : Option Nat :=
  let value :=
    match Text.decimalDigit? c with
    | some d => some d
    | none =>
      if 'a' ≤ c.toLower && c.toLower ≤ 'f' then some (c.toLower.toNat - 'a'.toNat + 10) else none
  value.filter (· < base)

/-- The letters that mark a base after a zero. -/
def baseMarks : List (Nat × Char) := [(2, 'b'), (8, 'o'), (16, 'x')]

/-- The digits behind the mark of a base, if it is there. -/
def withoutBaseMark (base : Nat) : List Char → List Char
  | '0' :: mark :: s => if baseMarks.lookup base = some mark.toLower then s else '0' :: mark :: s
  | s => s

/-- The integer that a text without underscores stands for in a base that is a power of two. The mark of the base may stand in
front of the digits. -/
def integerIn (base : Nat) (s : List Char) : Except NumeralError Int :=
  let (negative, body) := signed (stripped s)
  match (withoutBaseMark base body).mapM (digitIn? base) with
  | some (d :: digits) =>
    let n : Int := Int.ofNat ((d :: digits).foldl (fun n d => base * n + d) 0)
    .ok (if negative then -n else n)
  | _ => .error (.notAnInteger (String.ofList s) base)

/-- A digit in the script of the computer: every decimal digit is taken to its ASCII form. -/
def asciiDigit (c : Char) : Char :=
  match Text.decimalDigit? c with
  | some d => Char.ofNat ('0'.toNat + d)
  | none => c

/-- The text without its underscores, each of which has to stand between two digits. -/
def joined? (previous : Option Char) : List Char → Option (List Char)
  | [] => some []
  | '_' :: s =>
    if (previous.map Char.isDigit).getD false && (s.head?.map Char.isDigit).getD false then joined? (some '_') s
    else none
  | c :: s => (joined? (some c) s).map (c :: ·)

/-- The value of a text of ASCII digits. -/
def digitsValue (s : List Char) : Nat :=
  s.foldl (fun n c => 10 * n + (c.toNat - '0'.toNat)) 0

/-- A decimal: the digits before and after the point and the exponent. -/
structure Scientific where
  whole : List Char
  fraction : List Char
  exponent : Int
  deriving DecidableEq, Repr

/-- The number nearest to a decimal. -/
def Scientific.value (x : Scientific) (negative : Bool) : Binary64 :=
  let digits := x.whole ++ x.fraction
  let significant := digits.dropWhile (· = '0')
  Binary64.ofDecimal negative (digitsValue significant) significant.length (x.exponent - x.fraction.length)

/-- The exponent that a text consists of: nothing, or a mark, a sign and at least one digit. -/
def exponent? : List Char → Option Int
  | [] => some 0
  | c :: s =>
    if c = 'e' ∨ c = 'E' then
      let (negative, digits) := signed s
      if !digits.isEmpty && digits.all Char.isDigit then
        let n : Int := Int.ofNat (digitsValue digits)
        some (if negative then -n else n)
      else none
    else none

/-- The decimal that a text without a sign consists of: at least one digit on either side of the point. -/
def scientific? (s : List Char) : Option Scientific :=
  let whole := s.takeWhile Char.isDigit
  let rest := s.dropWhile Char.isDigit
  let (fraction, rest) :=
    match rest with
    | '.' :: t => (t.takeWhile Char.isDigit, t.dropWhile Char.isDigit)
    | _ => ([], rest)
  if whole.isEmpty && fraction.isEmpty then none
  else (exponent? rest).map fun e => ⟨whole, fraction, e⟩

/-- A text without a sign as a number: a decimal, or a word for an infinity or for what is not a number. -/
def unsignedNumber? (negative : Bool) (s : List Char) : Option Binary64 :=
  let word := String.ofList (s.map Char.toLower)
  if word = "inf" ∨ word = "infinity" then some (.infinite negative)
  else if word = "nan" then some .nan
  else (scientific? s).map (·.value negative)

/-- The floating point number that a text stands for. -/
def number? (s : List Char) : Option Binary64 := do
  let s ← joined? none ((stripped s).map asciiDigit)
  let (negative, body) := signed s
  unsignedNumber? negative body

end Numeral

/-- The integer that a text stands for. -/
def readInteger (s : String) : Except NumeralError Int := Numeral.integer s.toList

/-- The floating point number that a text stands for. -/
def readNumber? (s : String) : Option Binary64 := Numeral.number? s.toList

/-- The wording of the failure. A long text is cut after 200 characters of its quoted form. -/
def NumeralError.message : NumeralError → String
  | .notAnInteger text base =>
    "invalid literal for int() with base " ++ toString base ++ ": " ++ String.ofList ((quoted text).toList.take 200)
  | .tooManyDigits count =>
    "Exceeds the limit (4300 digits) for integer string conversion: value has " ++ toString count ++
      " digits; use sys.set_int_max_str_digits() to increase the limit"

end RanConsole

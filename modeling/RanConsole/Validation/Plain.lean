import RanConsole.Json.Basic
import RanConsole.Number.Numeral
import RanConsole.Text.Utf8
import RanConsole.Validation.Checked

/-!
# Lenient reading of simple values

A field of a record takes more than values of its own type: an integer may come as a truth value, as a floating point number
without a fraction or as a text, and so on. The rules see a value only as far as it is simple.
-/

namespace RanConsole.Validation

/-- A value as the rules for simple fields see it. -/
inductive Plain where
  | null
  | bool (b : Bool)
  | int (i : Int)
  | float (x : Binary64)
  | text (s : String)
  | octets (bs : List Nat)
  /-- A list, a mapping, or a value of a kind that no simple field takes. -/
  | other
  deriving DecidableEq, Repr

/-- A JSON value as the rules for simple fields see it. -/
def Plain.ofJson : Json → Plain
  | .null => .null
  | .bool b => .bool b
  | .int i => .int i
  | .float x => .float x
  | .str s => .text s
  | .arr _ | .obj _ => .other

/-- A text field, which takes octets in UTF-8 too. -/
def checkText : Plain → Checked String
  | .text s => .ok s
  | .octets bs => ((Text.Utf8.decode? bs).map fun s => .ok (String.ofList s)).getD (.fault .notUtf8)
  | _ => .fault .notAText

/-- A whole number without the zeros in front of it; underscores between them are passed over. A fraction keeps the last zero. -/
def withoutLeadingZeros : List Char → Option (List Char)
  | '0' :: s =>
    match s.dropWhile (fun c => c = '0' ∨ c = '_') with
    | [] => some [(s.getLast?).getD '0']
    | '.' :: _ => some ((('0' :: s).takeWhile (· ≠ '.')).getLast?.toList ++ s.dropWhile (· ≠ '.'))
    | c :: rest => if c.isDigit || c == '-' then some (c :: rest) else none
  | c :: s => if c.isDigit || c == '-' then some (c :: s) else none
  | [] => none

/-- A number without a fraction that is made of zeros, of which there is at least one. -/
def withoutZeroFraction (s : List Char) : List Char :=
  match s.dropWhile (· ≠ '.') with
  | '.' :: fraction => if !fraction.isEmpty && fraction.all (· = '0') then s.takeWhile (· ≠ '.') else s
  | _ => s

/-- Whether two underscores stand side by side. -/
def hasDoubleUnderscore : List Char → Bool
  | '_' :: '_' :: _ => true
  | _ :: s => hasDoubleUnderscore s
  | [] => false

/-- The text without its underscores, if there are any and each stands alone inside it. -/
def withoutUnderscores? (s : List Char) : Option (List Char) :=
  if s.head? == some '_' || s.getLast? == some '_' || !s.contains '_' || hasDoubleUnderscore s then none
  else some (s.filter (· ≠ '_'))

/-- The minus in front of a number, if there is one, and what follows it. -/
def minusApart : List Char → List Char × List Char
  | '-' :: s => (['-'], s)
  | s => ([], s)

/-- The text of an integer, cleaned of everything that is allowed around and between its digits. -/
def cleanInteger? (s : List Char) : Option (List Char) := do
  let s := Numeral.stripped s
  let s ←
    match s with
    | '+' :: '-' :: _ => none
    | '+' :: rest => some rest
    | _ => some s
  let (minus, s) := minusApart s
  let s := withoutZeroFraction (← withoutLeadingZeros s)
  return minus ++ (withoutUnderscores? s).getD s

/-- The digits of an integer with at most a minus in front and no further zero before other digits. -/
def strictDigits? (s : List Char) : Option (Bool × List Char) :=
  let (minus, digits) := minusApart s
  if digits.isEmpty || !digits.all Char.isDigit || (digits.head? == some '0' && 1 < digits.length) then none
  else some (!minus.isEmpty, digits)

/-- An integer as a text: as it is in JSON, else cleaned first. One that has too many digits as it stands is told apart. -/
def integerOfText (s : List Char) : Checked Int :=
  let value : Bool × List Char → Int := fun (negative, digits) =>
    let n : Int := Int.ofNat (Numeral.digitsValue digits)
    if negative then -n else n
  match strictDigits? s with
  | some (negative, digits) =>
    if Numeral.maxDigits < digits.length then .fault .integerTooLong else .ok (value (negative, digits))
  | none =>
    match (cleanInteger? s).bind strictDigits? with
    | some (negative, digits) =>
      if Numeral.maxDigits < digits.length then .fault .unreadableInteger else .ok (value (negative, digits))
    | none => .fault .unreadableInteger

/-- The integers in a word of 64 bits. -/
def isWord (i : Int) : Bool := -0x8000000000000000 ≤ i && i < 0x8000000000000000

/-- The integer that a floating point number inside a word stands for, if it has no fraction. -/
def wordOf? (x : Binary64) : Option Int :=
  if x.isIntegral then x.truncated?.filter fun i => isWord i && i != -0x8000000000000000 else none

/-- An integer field. -/
def checkInteger : Plain → Checked Int
  | .int i => .ok i
  | .bool b => .ok (if b then 1 else 0)
  | .float x =>
    match x.truncated? with
    | none => .fault .notFinite
    | some _ =>
      if !x.isIntegral then .fault .fractional
      else
        match wordOf? x with
        | some i => .ok i
        | none => .fault .integerTooLong
  | .text s => integerOfText s.toList
  | .octets bs => ((Text.Utf8.decode? bs).map integerOfText).getD (.fault .unreadableInteger)
  | .null | .other => .fault .notAnInteger

/-- An integer field without negative values. -/
def checkUnsigned (v : Plain) : Checked Nat := do
  let i ← checkInteger v
  if i < 0 then .fault .negative else .ok i.toNat

/-- A number as a text with nothing around it. -/
def strictNumber? (s : List Char) : Option Binary64 :=
  let (negative, body) := Numeral.signed s
  Numeral.unsignedNumber? negative body

/-- A number as a text, with white space around it or underscores inside it. -/
def numberOfText (s : List Char) : Checked Binary64 :=
  match strictNumber? (Numeral.stripped s) <|> (withoutUnderscores? s).bind strictNumber? with
  | some x => .ok x
  | none => .fault .unreadableNumber

/-- A floating point field. -/
def checkNumber : Plain → Checked Binary64
  | .float x => .ok x
  | .int i =>
    match Binary64.ofInt i with
    | .infinite _ => .fault .notANumber
    | x => .ok x
  | .bool b => .ok (.ofInt (if b then 1 else 0))
  | .text s => numberOfText s.toList
  | .octets bs => ((Text.Utf8.decode? bs).map numberOfText).getD (.fault .unreadableNumber)
  | .null | .other => .fault .notANumber

/-- The words that mean a truth value, in lower case. -/
def boolWords : List (String × Bool) :=
  [("0", false), ("off", false), ("f", false), ("false", false), ("n", false), ("no", false),
   ("1", true), ("on", true), ("t", true), ("true", true), ("y", true), ("yes", true)]

/-- A truth value as a text. -/
def boolOfText (s : List Char) : Checked Bool :=
  match boolWords.lookup (String.ofList (s.map Char.toLower)) with
  | some b => .ok b
  | none => .fault .unreadableBool

/-- A truth value as an integer in a word. -/
def boolOfWord (i : Int) : Checked Bool :=
  if i = 0 then .ok false else if i = 1 then .ok true else .fault .unreadableBool

/-- A field for a truth value. Numbers that are no integers in a word are of the wrong kind. -/
def checkBool : Plain → Checked Bool
  | .bool b => .ok b
  | .int i => if isWord i then boolOfWord i else .fault .notABool
  | .float x => ((wordOf? x).map boolOfWord).getD (.fault .notABool)
  | .text s => boolOfText s.toList
  | .octets bs => ((Text.Utf8.decode? bs).map boolOfText).getD (.fault .unreadableBool)
  | .null | .other => .fault .notABool

/-- A field that takes one of several words. -/
def checkChoice {α : Type} (choices : List (String × α)) : Plain → Checked α
  | .text s =>
    match choices.lookup s with
    | some a => .ok a
    | none => .fault .notAChoice
  | _ => .fault .notAChoice

end RanConsole.Validation

import RanConsole.Text.Base64
import RanConsole.Text.LetterCase
import RanConsole.Yaml.Basic
import RanConsole.Yaml.ReadError

/-!
# The meaning of scalars

A scalar without quotes is a truth value, null, a number, a date or a time if it has the form of one, and a text otherwise.
Integers may be binary, octal, hexadecimal or in groups of sixty; a floating point number needs a point, and an exponent a sign.
A tag gives a scalar its type whatever its form is, and numbers under a tag are read more freely than plain ones.
-/

namespace RanConsole.Yaml

/-- The type of a node. -/
inductive Tag where
  | null
  | bool
  | int
  | float
  | timestamp
  | octets
  | str
  | seq
  | map
  | set
  /-- A list of mappings of one entry each, as a list of pairs. -/
  | pairs
  /-- The mark of a mapping that is merged into another one. -/
  | merge
  /-- The mark of a default value. -/
  | default
  /-- A type that no value has. -/
  | unknown
  deriving DecidableEq, Repr, Inhabited

/-- The types by their names. -/
def Tag.words : List (String × Tag) :=
  [("null", .null), ("bool", .bool), ("int", .int), ("float", .float), ("timestamp", .timestamp), ("binary", .octets),
   ("str", .str), ("seq", .seq), ("map", .map), ("set", .set), ("omap", .pairs), ("pairs", .pairs), ("merge", .merge),
   ("value", .default)]

/-- What the names of the types of YAML itself begin with. -/
def typeNameStart : String := "tag:yaml.org,2002:"

/-- The type of a full name. -/
def Tag.ofName (name : String) : Tag :=
  let start := typeNameStart.toList
  if start.isPrefixOf name.toList then (words.lookup (String.ofList (name.toList.drop start.length))).getD .unknown
  else .unknown

/-- The words for the truth values. -/
def boolWords : List (String × Bool) :=
  [("yes", true), ("Yes", true), ("YES", true), ("no", false), ("No", false), ("NO", false), ("true", true),
   ("True", true), ("TRUE", true), ("false", false), ("False", false), ("FALSE", false), ("on", true), ("On", true),
   ("ON", true), ("off", false), ("Off", false), ("OFF", false)]

/-- A digit or an underscore. -/
def isDigitOrMark (c : Char) : Bool := c.isDigit || c == '_'

/-- Whether the text is a digit of the given kind, with digits and underscores after it. -/
def isRun (first : Char → Bool) : List Char → Bool
  | [] => false
  | c :: s => first c && s.all isDigitOrMark

/-- Whether the text is one of the numbers below sixty, in one or two digits. -/
def isSixtieth : List Char → Bool
  | [c] => c.isDigit
  | [c, d] => '0' ≤ c && c ≤ '5' && d.isDigit
  | _ => false

/-- A digit past zero. -/
def isPositiveDigit (c : Char) : Bool := c.isDigit && c != '0'

/-- Whether a text without a sign has the form of an integer. -/
def isInteger : List Char → Bool
  | [] => false
  | ['0'] => true
  | '0' :: 'b' :: s => !s.isEmpty && s.all fun c => c == '0' || c == '1' || c == '_'
  | '0' :: 'x' :: s => !s.isEmpty && s.all fun c => isDigitOrMark c || ('a' ≤ c.toLower && c.toLower ≤ 'f')
  | '0' :: s => s.all fun c => ('0' ≤ c && c ≤ '7') || c == '_'
  | s =>
    match s.splitOn ':' with
    | [] => false
    | whole :: rest => isRun isPositiveDigit whole && rest.all isSixtieth

/-- Whether the text is empty or an exponent with a sign. -/
def isExponent : List Char → Bool
  | [] => true
  | c :: sign :: s =>
    (c == 'e' || c == 'E') && (sign == '+' || sign == '-') && !s.isEmpty && s.all Char.isDigit
  | _ => false

/-- Whether a text without a sign has the form of a decimal with a point. -/
def isDecimal (s : List Char) : Bool :=
  let whole := s.takeWhile (· ≠ '.')
  match s.dropWhile (· ≠ '.') with
  | '.' :: rest =>
    let exponent := rest.dropWhile isDigitOrMark
    match whole.splitOn ':' with
    | [whole] => isRun Char.isDigit whole && isExponent exponent
    | whole :: groups => isRun Char.isDigit whole && groups.all isSixtieth && exponent.isEmpty
    | [] => false
  | _ => false

/-- The text without a sign in front, and whether it was a minus. -/
def unsigned : List Char → Bool × List Char := Numeral.signed

/-- Whether the text has the form of a floating point number. -/
def isFloat (s : List Char) : Bool :=
  let (_, body) := unsigned s
  isDecimal body || [".inf", ".Inf", ".INF"].contains (String.ofList body) ||
    [".nan", ".NaN", ".NAN"].contains (String.ofList s) ||
    (match s with
    | '.' :: fraction =>
      isRun Char.isDigit (fraction.takeWhile isDigitOrMark) && isExponent (fraction.dropWhile isDigitOrMark)
    | _ => false)

/-! ## Dates and times -/

/-- The number that between `least` and `most` digits at the front make, and what follows. -/
def digits? (least most : Nat) (s : List Char) : Option (Nat × List Char) :=
  let ds := (s.take most).takeWhile Char.isDigit
  if ds.length < least then none else some (Numeral.digitsValue ds, s.drop ds.length)

/-- What follows a character at the front. -/
def char? (c : Char) : List Char → Option (List Char)
  | d :: s => if c = d then some s else none
  | [] => none

/-- The parts of a time as they are written. -/
structure WrittenTime where
  date : Date
  hour : Nat
  minute : Nat
  second : Nat
  fraction : List Char
  offset : Option Int
  deriving DecidableEq, Repr

/-- What a text with the form of a date or a time says. -/
inductive Written where
  | date (d : Date)
  | time (t : WrittenTime)
  deriving DecidableEq, Repr

/-- The distance from universal time at the end of a time. -/
def offset? (s : List Char) : Option (Option Int) :=
  match s.dropWhile fun c => c == ' ' || c == '\t' with
  | [] => if s.isEmpty then some none else none
  | ['Z'] => some (some 0)
  | c :: rest =>
    if c = '+' ∨ c = '-' then do
      let (hours, rest) ← digits? 1 2 rest
      let minutes ←
        match rest with
        | [] => some 0
        | ':' :: rest =>
          match digits? 2 2 rest with
          | some (m, []) => some m
          | _ => none
        | _ => none
      let seconds : Int := Int.ofNat (3600 * hours + 60 * minutes)
      return some (if c = '-' then -seconds else seconds)
    else none

/-- What a text says that has the form of a date or a time. -/
def written? (s : List Char) : Option Written := do
  let (year, s) ← digits? 4 4 s
  let s ← char? '-' s
  let (month, rest) ← digits? 1 2 s
  let s ← char? '-' rest
  let (day, rest) ← digits? 1 2 s
  let date : Date := ⟨year, month, day⟩
  match rest with
  | [] => some (.date date)
  | _ =>
    let s ←
      match rest with
      | 'T' :: s | 't' :: s => some s
      | c :: _ => if c = ' ' ∨ c = '\t' then some (rest.dropWhile fun c => c == ' ' || c == '\t') else none
      | [] => none
    let (hour, s) ← digits? 1 2 s
    let s ← char? ':' s
    let (minute, s) ← digits? 2 2 s
    let s ← char? ':' s
    let (second, s) ← digits? 2 2 s
    let (fraction, s) :=
      match s with
      | '.' :: s => (s.takeWhile Char.isDigit, s.dropWhile Char.isDigit)
      | _ => ([], s)
    let offset ← offset? s
    return .time { date, hour, minute, second, fraction, offset }

/-- Whether a text has the form of a date or a time. A date alone has two digits for month and day each. -/
def isTimestamp (s : List Char) : Bool :=
  match written? s with
  | some (.date _) => s.length == 10
  | some (.time _) => true
  | none => false

/-- A text without a single line feed at its end. -/
def withoutFinalBreak (s : List Char) : List Char :=
  if s.getLast? = some '\n' ∧ 1 < s.length then s.dropLast else s

/-- The type that a plain scalar has the form of. A line feed at the end does not count. -/
def Tag.ofPlain (s : List Char) : Tag :=
  let s := withoutFinalBreak s
  let word := String.ofList s
  if (boolWords.lookup word).isSome then .bool
  else if isFloat s then .float
  else if isInteger (unsigned s).2 then .int
  else if word = "<<" then .merge
  else if ["", "~", "null", "Null", "NULL"].contains word then .null
  else if isTimestamp s then .timestamp
  else if word = "=" then .default
  else if ["!", "&", "*"].contains word then .unknown
  else .str

/-! ## Values -/

/-- The text of a number without underscores and sign, and whether the sign is a minus. There has to be a character. -/
def numeralBody (s : List Char) : Except ReadError (Bool × List Char) :=
  match s.filter (· ≠ '_') with
  | [] => .error .emptyNumeral
  | c :: rest => .ok (unsigned (c :: rest))

/-- An integer in decimal digits. -/
def decimalInteger (s : List Char) : Except ReadError Int := (Numeral.integer s).mapError .numeral

/-- The integer of digits in groups of sixty. -/
def inSixties (digits : List Int) : Int := digits.foldl (fun n d => 60 * n + d) 0

/-- The integer that a text without a sign stands for. -/
def unsignedInteger (s : List Char) : Except ReadError Int :=
  match s with
  | [] => .error .emptyNumeral
  | ['0'] => .ok 0
  | '0' :: 'b' :: digits => (Numeral.integerIn 2 digits).mapError .numeral
  | '0' :: 'x' :: digits => (Numeral.integerIn 16 digits).mapError .numeral
  | '0' :: _ => (Numeral.integerIn 8 s).mapError .numeral
  | _ => if s.contains ':' then ((s.splitOn ':').mapM decimalInteger).map inSixties else decimalInteger s

/-- The integer that a text stands for. -/
def integerOf (s : List Char) : Except ReadError Int := do
  let (negative, body) ← numeralBody s
  let n ← unsignedInteger body
  return if negative then -n else n

/-- A floating point number in decimal digits. -/
def decimalNumber (s : List Char) : Except ReadError Binary64 :=
  match Numeral.number? s with
  | some x => .ok x
  | none => .error (.notANumber (String.ofList s))

/-- The sum of numbers, least first, each sixty times as heavy as the one before it. Every step is rounded. -/
def weighted (sum : Binary64) (weight : Nat) : List Binary64 → Except ReadError Binary64
  | [] => .ok sum
  | x :: rest =>
    match Binary64.ofInt weight with
    | .infinite _ => .error .tooGreat
    | w => weighted (sum.add (x.mul w)) (60 * weight) rest

/-- The floating point number that a text without a sign stands for. -/
def unsignedFloat (s : List Char) : Except ReadError Binary64 :=
  if s = ".inf".toList then .ok (.infinite false)
  else if s = ".nan".toList then .ok .nan
  else if s.contains ':' then do weighted (.zero false) 1 (← (s.splitOn ':').mapM decimalNumber).reverse
  else decimalNumber s

/-- The floating point number that a text stands for. -/
def floatOf (s : List Char) : Except ReadError Binary64 := do
  let (negative, body) ← numeralBody (lowerCase (String.ofList s)).toList
  let x ← unsignedFloat body
  return if negative then x.neg else x

/-- The number of days of a month. -/
def daysIn (year month : Nat) : Nat :=
  if month = 2 then if year % 4 = 0 ∧ (year % 100 ≠ 0 ∨ year % 400 = 0) then 29 else 28
  else if [4, 6, 9, 11].contains month then 30 else 31

/-- A date that the calendar has. -/
def checkDate (d : Date) : Except ReadError Date :=
  if d.year = 0 then .error (.noSuchTime "year 0 is out of range")
  else if d.month = 0 ∨ 12 < d.month then .error (.noSuchTime "month must be in 1..12")
  else if d.day = 0 ∨ daysIn d.year d.month < d.day then .error (.noSuchTime "day is out of range for month")
  else .ok d

/-- A span of time in days and seconds, as messages show it. -/
def spanText (seconds : Int) : String :=
  let days := seconds.fdiv 86400
  let rest := seconds.fmod 86400
  let parts :=
    (if days = 0 then [] else ["days=" ++ toString days]) ++ (if rest = 0 then [] else ["seconds=" ++ toString rest])
  "datetime.timedelta(" ++ (if parts.isEmpty then "0" else ", ".intercalate parts) ++ ")"

/-- A distance from universal time, which is less than a day. -/
def checkOffset (seconds : Int) : Except ReadError Int :=
  if seconds.natAbs < 86400 then .ok seconds
  else
    .error (.noSuchTime ("offset must be a timedelta strictly between -timedelta(hours=24) and timedelta(hours=24), not " ++
      spanText seconds ++ "."))

/-- A time that the clock has. -/
def checkTime (t : WrittenTime) : Except ReadError Moment := do
  let offset ← t.offset.mapM checkOffset
  let date ← checkDate t.date
  if 23 < t.hour then .error (.noSuchTime "hour must be in 0..23")
  else if 59 < t.minute then .error (.noSuchTime "minute must be in 0..59")
  else if 59 < t.second then .error (.noSuchTime "second must be in 0..59")
  else
    let micro := Numeral.digitsValue ((t.fraction ++ List.replicate 6 '0').take 6)
    return { date, hour := t.hour, minute := t.minute, second := t.second, microsecond := micro, offset }

/-- The date or the time that a text stands for. -/
def timeOf (s : List Char) : Except ReadError Scalar :=
  match written? (withoutFinalBreak s) with
  | some (.date d) => (checkDate d).map .date
  | some (.time t) => (checkTime t).map .moment
  | none => .error .notATime

/-- The truth value that a word stands for. -/
def truthOf (s : List Char) : Except ReadError Bool :=
  let word := lowerCase (String.ofList s)
  match boolWords.lookup word with
  | some b => .ok b
  | none => .error (.notATruthValue word)

/-- The value of a scalar of a type. -/
def Scalar.ofText (tag : Tag) (s : List Char) : Except ReadError Scalar :=
  match tag with
  | .null => .ok .null
  | .bool => (truthOf s).map .bool
  | .int => (integerOf s).map .int
  | .float => (floatOf s).map .float
  | .timestamp => timeOf s
  | .octets => (required (Text.Base64.decode? s)).map .octets
  | .str => .ok (.str (String.ofList s))
  | _ => refused

end RanConsole.Yaml

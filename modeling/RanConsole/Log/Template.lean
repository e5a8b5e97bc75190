import RanConsole.Json.Room
import RanConsole.Json.Token
import RanConsole.Number.Fixed

/-!
# Message templates

A template holds places for arguments, each with `%`, flags, a width, a precision and a letter that says how the argument is shown.
Arguments are taken in order, or by their keys from a single object. A template is filled from left to right, and the first
place that cannot be filled decides. An argument is shown in the room that is given.
-/

namespace RanConsole.Log

/-- A width or a precision. -/
inductive Measure where
  | fixed (n : Nat)
  /-- The next argument. -/
  | argument
  deriving DecidableEq, Repr

/-- How an argument is shown. -/
structure Spec where
  key : Option String := none
  left : Bool := false
  plus : Bool := false
  space : Bool := false
  alternate : Bool := false
  zero : Bool := false
  width : Measure := .fixed 0
  precision : Option Measure := none
  deriving DecidableEq, Repr

/-- Why a template cannot be filled. -/
inductive TemplateError where
  /-- The arguments are too few, too many, or of the wrong kind. -/
  | mismatch
  | incomplete
  | incompleteKey
  | unknownConversion (c : Char) (index : Nat)
  | missingKey (key : String)
  | notANumber
  | outOfRange
  | widthTooBig
  | precisionTooBig
  /-- The message would be too long to be held. -/
  | tooLong
  /-- An argument cannot be written. -/
  | unwritable (e : Json.WriteError)
  /-- A place asks for the character of a code that is half of a pair, which no text here can hold. -/
  | half
  deriving DecidableEq, Repr

/-- The wording of the failure, where it has one. -/
def TemplateError.message : TemplateError → String
  | .incomplete => "incomplete format"
  | .incompleteKey => "incomplete format key"
  | .unknownConversion c index =>
    "unsupported format character '" ++ (if 0x1F ≤ c.toNat ∧ c.toNat < 0x7F then c.toString else "?") ++ "' (0x" ++
      String.ofList (Nat.toDigits 16 c.toNat) ++ ") at index " ++ toString index
  | .missingKey key => key
  | .notANumber => "cannot convert float NaN to integer"
  | .widthTooBig => "width too big"
  | .precisionTooBig => "precision too big"
  | .unwritable .tooManyDigits =>
    "Exceeds the limit (4300 digits) for integer string conversion; use sys.set_int_max_str_digits() to increase the limit"
  | .mismatch | .outOfRange | .tooLong | .unwritable .tooDeep | .half => ""

/-- A part of a template. -/
inductive Piece where
  | char (c : Char)
  /-- A place; its conversion stands at the index, and is missing if the template ends before it. -/
  | place (spec : Spec) (conversion : Option Char) (index : Nat)
  /-- The template ends inside a key. -/
  | openKey
  deriving DecidableEq, Repr

/-- How far the scan of a place has come. -/
inductive Stage where
  | flags
  | width
  | widthDone
  | point
  | precision
  | precisionDone
  | modified
  deriving DecidableEq, Repr

/-- Where the scan of a template stands. -/
inductive TemplateScan where
  | outside
  /-- Just after a `%`. -/
  | start
  /-- Inside the key of a place, newest character first, with open parentheses. -/
  | key (read : List Char) (depth : Nat)
  | inside (spec : Spec) (stage : Stage)
  deriving Repr

/-- A width or precision with one more digit. -/
def Measure.digit (m : Measure) (c : Char) : Measure :=
  match m with
  | .fixed n => .fixed (10 * n + (c.toNat - '0'.toNat))
  | .argument => .argument

/-- A character inside a place: the place goes on, or the character is its conversion. -/
def Spec.next (spec : Spec) (stage : Stage) (c : Char) : Option (Spec × Stage) :=
  let flag : Option Spec :=
    match c with
    | '-' => some { spec with left := true }
    | '+' => some { spec with plus := true }
    | ' ' => some { spec with space := true }
    | '#' => some { spec with alternate := true }
    | '0' => some { spec with zero := true }
    | _ => none
  if stage = .flags && flag.isSome then flag.map (·, .flags)
  else if (stage = .flags || stage = .width) && c.isDigit then some ({ spec with width := spec.width.digit c }, .width)
  else if stage = .flags && c = '*' then some ({ spec with width := .argument }, .widthDone)
  else if (stage = .flags || stage = .width || stage = .widthDone) && c = '.' then
    some ({ spec with precision := some (.fixed 0) }, .point)
  else if stage = .point && c = '*' then some ({ spec with precision := some .argument }, .precisionDone)
  else if (stage = .point || stage = .precision) && c.isDigit then
    some ({ spec with precision := spec.precision.map (·.digit c) }, .precision)
  else if stage ≠ .modified && (c = 'h' || c = 'l' || c = 'L') then some (spec, .modified)
  else none

/-- The parts of a template from the position `index` on. -/
def templatePieces : TemplateScan → (index : Nat) → List Char → List Piece
  | .outside, _, [] => []
  | .start, i, [] => [.place {} none i]
  | .key _ _, _, [] => [.openKey]
  | .inside spec _, i, [] => [.place spec none i]
  | .outside, i, c :: s =>
    if c = '%' then templatePieces .start (i + 1) s else .char c :: templatePieces .outside (i + 1) s
  | .key read depth, i, c :: s =>
    if c = ')' ∧ depth = 0 then
      templatePieces (.inside { key := some (String.ofList read.reverse) } .flags) (i + 1) s
    else
      let depth := if c = '(' then depth + 1 else if c = ')' then depth - 1 else depth
      templatePieces (.key (c :: read) depth) (i + 1) s
  | .start, i, c :: s =>
    if c = '%' then .char c :: templatePieces .outside (i + 1) s
    else if c = '(' then templatePieces (.key [] 0) (i + 1) s
    else
      match Spec.next {} .flags c with
      | some (spec, stage) => templatePieces (.inside spec stage) (i + 1) s
      | none => .place {} (some c) i :: templatePieces .outside (i + 1) s
  | .inside spec stage, i, c :: s =>
    match spec.next stage c with
    | some (spec, stage) => templatePieces (.inside spec stage) (i + 1) s
    | none => .place spec (some c) i :: templatePieces .outside (i + 1) s

/-- The arguments of a template. -/
inductive Arguments where
  | list (values : List Json)
  | keyed (members : List (String × Json))
  /-- A list as the one argument. -/
  | whole (items : List Json)
  deriving Repr

/-- The arguments of a message: a single object that is not empty is looked up by keys. -/
def Arguments.of : List Json → Arguments
  | [.obj (m :: ms)] => .keyed (m :: ms)
  | values => .list values

/-- The arguments that a single value makes, if it counts as something. -/
def Arguments.ofValue? : Json → Option Arguments
  | .null | .bool false | .int 0 | .str "" | .arr [] | .obj [] => none
  | .float x => if x.isZero then none else some (.list [.float x])
  | .obj members => some (.keyed members)
  | .arr items => some (.whole items)
  | v => some (.list [v])

/-- The value that takes all places without a key and may go unused, if the arguments are one. -/
def Arguments.single? : Arguments → Option Json
  | .list _ => none
  | .keyed members => some (.obj members)
  | .whole items => some (.arr items)

/-- The values for the places without a key. -/
def Arguments.values : Arguments → List Json
  | .list values => values
  | a => a.single?.toList

/-- A text padded to a width. Zeros go between the sign of a number and its digits. -/
def Spec.padded (spec : Spec) (width : Nat) (left zeros : Bool) (sign body : List Char) : List Char :=
  let missing := width - (sign.length + body.length)
  if left then sign ++ body ++ List.replicate missing ' '
  else if zeros && spec.zero then sign ++ List.replicate missing '0' ++ body
  else List.replicate missing ' ' ++ sign ++ body

/-- The sign in front of a number. -/
def Spec.sign (spec : Spec) (negative : Bool) : List Char :=
  if negative then ['-'] else if spec.plus then ['+'] else if spec.space then [' '] else []

/-- A text in which every character past U+007F is escaped by its code point. -/
def asciiOnly (s : List Char) : List Char :=
  s.flatMap fun c =>
    if c.toNat < 0x80 then [c]
    else if c.toNat < 0x100 then '\\' :: 'x' :: Text.hexDigits 2 c.toNat
    else if c.toNat < 0x10000 then '\\' :: 'u' :: Text.hexDigits 4 c.toNat
    else '\\' :: 'U' :: Text.hexDigits 8 c.toNat

/-- An argument as an integer in decimal. -/
def decimalArgument : Json → Except TemplateError Int
  | .int i => .ok i
  | .bool b => .ok (if b then 1 else 0)
  | .float .nan => .error .notANumber
  | .float x => match x.truncated? with
    | some i => .ok i
    | none => .error .outOfRange
  | _ => .error .mismatch

/-- An argument as an integer in another base. -/
def wholeArgument : Json → Except TemplateError Int
  | .int i => .ok i
  | .bool b => .ok (if b then 1 else 0)
  | _ => .error .mismatch

/-- An argument as a floating point number. -/
def floatArgument : Json → Except TemplateError Binary64
  | .float x => .ok x
  | .int i =>
    match Binary64.ofInt i with
    | .infinite _ => .error .outOfRange
    | x => .ok x
  | .bool b => .ok (.ofInt (if b then 1 else 0))
  | _ => .error .mismatch

/-- An argument as a single character. -/
def charArgument : Json → Except TemplateError Char
  | .str s =>
    match s.toList with
    | [c] => .ok c
    | _ => .error .mismatch
  | .int i =>
    if i < 0 ∨ 0x110000 ≤ i then .error .outOfRange
    else if Json.isHigh i.toNat || Json.isLow i.toNat then .error .half
    else .ok (Char.ofNat i.toNat)
  | .bool b => .ok (if b then '\x01' else '\x00')
  | _ => .error .mismatch

/-- A finite magnitude by the conversion letter. -/
def floatDigits (conversion : Char) (precision : Nat) (alternate : Bool) (x : Binary64) : List Char :=
  let rule : Nat → Nat → List Char :=
    match conversion.toLower with
    | 'e' => Decimal.scientific alternate precision
    | 'g' => Decimal.general precision alternate
    | _ => Decimal.fixed alternate precision
  let digits := x.magnitudeText rule
  if conversion.isUpper then digits.map Char.toUpper else digits

/-- The greatest number of characters that a place is filled with. -/
def maxFilled : Nat := 100000000

/-- What a place shows before it is padded. -/
structure Filling where
  sign : List Char := []
  body : List Char
  /-- Whether zeros may stand between the sign and the body. -/
  takesZeros : Bool := false

/-- What a text fills a place with, unless it cannot be written. -/
def Filling.ofText (fault : Option Json.WriteError) (precision : Option Nat) (s : List Char) : Except TemplateError Filling :=
  match fault, precision with
  | some e, _ => .error (.unwritable e)
  | none, some n => .ok { body := s.take n }
  | none, none => .ok { body := s }

/-- What an integer fills a place with, by its digits and a mark for their base. -/
def Filling.ofInteger (spec : Spec) (precision : Option Nat) (digits : List Char) (i : Int) (mark : List Char) :
    Except TemplateError Filling :=
  if maxFilled < precision.getD 0 then .error .tooLong
  else
    .ok { sign := spec.sign (i < 0) ++ (if spec.alternate then mark else []), body := Decimal.zeroPadded (precision.getD 0) digits
          takesZeros := true }

/-- What an argument fills a place with whose conversion stands at the index. -/
def Spec.filling (spec : Spec) (room : Nat) (precision : Option Nat) (conversion : Char) (index : Nat) (v : Json) :
    Except TemplateError Filling :=
  match conversion with
  | 's' => Filling.ofText (v.textFault? room) precision v.text.toList
  | 'r' => Filling.ofText (v.quotedFault? room) precision v.quotedText.toList
  | 'a' => Filling.ofText (v.quotedFault? room) precision (asciiOnly v.quotedText.toList)
  | 'c' => do
    let c ← charArgument v
    return { body := [c] }
  | 'd' | 'i' | 'u' => do
    let i ← decimalArgument v
    if isShort i then Filling.ofInteger spec precision (Decimal.digitsOf i.natAbs) i [] else .error (.unwritable .tooManyDigits)
  | 'o' => do
    let i ← wholeArgument v
    Filling.ofInteger spec precision (Nat.toDigits 8 i.natAbs) i ['0', 'o']
  | 'x' => do
    let i ← wholeArgument v
    Filling.ofInteger spec precision (Nat.toDigits 16 i.natAbs) i ['0', 'x']
  | 'X' => do
    let i ← wholeArgument v
    Filling.ofInteger spec precision ((Nat.toDigits 16 i.natAbs).map Char.toUpper) i ['0', 'X']
  | 'e' | 'E' | 'f' | 'F' | 'g' | 'G' => do
    let x ← floatArgument v
    if maxFilled < precision.getD 0 then .error .tooLong
    else
      .ok { sign := spec.sign x.isNegative, body := floatDigits conversion (precision.getD 6) spec.alternate x, takesZeros := true }
  | c => .error (.unknownConversion c index)

/-- An argument as a place shows it whose conversion stands at the index. -/
def Spec.show (spec : Spec) (room width : Nat) (left : Bool) (precision : Option Nat) (conversion : Char) (index : Nat)
    (v : Json) : Except TemplateError (List Char) := do
  let filling ← spec.filling room precision conversion index v
  if maxFilled < width then .error .tooLong
  else .ok (spec.padded width left filling.takesZeros filling.sign filling.body)

/-- The next argument. -/
def nextArgument : List Json → Except TemplateError (Json × List Json)
  | [] => .error .mismatch
  | v :: rest => .ok (v, rest)

/-- The value of a measure below a bound, negative ones included, and the arguments left. A number that is written in the template
and reaches the bound is refused as such. -/
def Measure.value (m : Measure) (bound : Nat) (tooBig : TemplateError) (arguments : List Json) :
    Except TemplateError (Int × List Json) :=
  let inRange (i : Int) : Bool := -Int.ofNat bound ≤ i && i < Int.ofNat bound
  match m with
  | .fixed n => if n < bound then .ok (Int.ofNat n, arguments) else .error tooBig
  | .argument => do
    let (v, rest) ← nextArgument arguments
    match v with
    | .int i => if inRange i then .ok (i, rest) else .error .outOfRange
    | .bool b => .ok (if b then 1 else 0, rest)
    | _ => .error .mismatch

/-- The bound of widths. -/
def widthBound : Nat := 0x8000000000000000

/-- The bound of precisions. -/
def precisionBound : Nat := 0x80000000

/-- A place filled from a list of arguments, and those left. A negative width pads on the right. -/
def Spec.fill (spec : Spec) (room : Nat) (conversion : Option Char) (index : Nat) (arguments : List Json) :
    Except TemplateError (List Char × List Json) := do
  let (width, arguments) ← spec.width.value widthBound .widthTooBig arguments
  let (precision, arguments) ←
    match spec.precision with
    | none => .ok (none, arguments)
    | some m => do
      let (p, rest) ← m.value precisionBound .precisionTooBig arguments
      .ok (some p.toNat, rest)
  let left := spec.left || width < 0
  match conversion with
  | none => .error .incomplete
  | some c => do
    let (v, rest) ← nextArgument arguments
    .ok (← spec.show room width.natAbs left precision c index v, rest)

/-- The value under a key. -/
def underKey (key : String) : Json → Except TemplateError Json
  | .obj members =>
    match Mapping.get? key members with
    | some v => .ok v
    | none => .error (.missingKey key)
  | _ => .error .mismatch

/-- The parts of a template filled with the arguments that are left. Where the arguments are a single object or list, places without keys
take it as their one argument, and it may also go unused. -/
def fillPieces (room : Nat) (single : Option Json) : List Piece → List Json → Except TemplateError (List Char)
  | [], left => if single.isNone && !left.isEmpty then .error .mismatch else .ok []
  | .char c :: rest, arguments => do return c :: (← fillPieces room single rest arguments)
  | .openKey :: _, _ => .error (if single.isNone then .mismatch else .incompleteKey)
  | .place spec conversion index :: rest, arguments =>
    match spec.key with
    | none => do
      let (text, left) ← spec.fill room conversion index arguments
      return text ++ (← fillPieces room single rest left)
    | some key =>
      match single with
      | none => .error .mismatch
      | some v => do
        let (text, left) ← spec.fill room conversion index [← underKey key v]
        return text ++ (← fillPieces room single rest left)

/-- A template filled with arguments. -/
def fillWith (room : Nat) (template : String) (arguments : Arguments) : Except TemplateError String :=
  (fillPieces room arguments.single? (templatePieces .outside 0 template.toList) arguments.values).map String.ofList

/-- A message: the template as it is when there are no arguments, else the template filled with them. -/
def fillTemplate (room : Nat) (template : String) (arguments : List Json) : Except TemplateError String :=
  if arguments.isEmpty then .ok template else fillWith room template (.of arguments)

end RanConsole.Log

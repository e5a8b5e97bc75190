import RanConsole.Text.Blank
import RanConsole.Text.Cut
import RanConsole.Text.HostLetter
import RanConsole.Text.LetterCase
import RanConsole.Text.Percent
import RanConsole.Text.Punycode
import RanConsole.Text.Quoted

/-!
# Hosts

A host is a number in four parts, a number in eight parts that stands in brackets, or a name. Names are written in lower case; a
name with letters of other scripts is written part by part in ASCII characters.
-/

namespace RanConsole.Http

/-- Why a text is no host. -/
inductive HostFault where
  | badFourParts (text : List Char)
  | badEightParts (text : List Char)
  | badName (text : List Char)
  deriving DecidableEq, Repr

/-- The wording of the fault. -/
def HostFault.message : HostFault → String
  | .badFourParts s => "Invalid IPv4 address: " ++ quoted (String.ofList s)
  | .badEightParts s => "Invalid IPv6 address: " ++ quoted (String.ofList s)
  | .badName s => "Invalid IDNA hostname: " ++ quoted (String.ofList s)

namespace Host

/-- How far the look at a text has come: in which of four runs of digits it is, and whether the run has a digit yet. -/
structure Run where
  number : Nat
  hasDigit : Bool
  deriving DecidableEq

/-- Where the look can be after one more character. Between two runs stands a character of any kind. -/
def Run.next (c : Char) (r : Run) : List Run :=
  (if c.isDigit then [{ r with hasDigit := true }] else []) ++
    (if r.hasDigit && r.number < 3 then [{ number := r.number + 1, hasDigit := false }] else [])

/-- Whether a text is meant as a number in four parts: four runs of digits with one character between neighbours. -/
def isMeantAsFourParts (s : List Char) : Bool :=
  let ends := s.foldl (fun runs c => (runs.flatMap (Run.next c)).eraseDups) [{ number := 0, hasDigit := false }]
  ends.contains { number := 3, hasDigit := true }

/-- A part of four: up to 255, without zeros in front. -/
def isPart (s : List Char) : Bool :=
  !s.isEmpty && s.length ≤ 3 && s.all Char.isDigit && (s = ['0'] || s.head? != some '0') &&
    s.foldl (fun n c => 10 * n + (c.toNat - '0'.toNat)) 0 ≤ 255

/-- A number in four parts. -/
def isFourParts (s : List Char) : Bool :=
  let parts := s.splitOn '.'
  parts.length = 4 && parts.all isPart

/-- A part of eight: up to four hexadecimal digits. -/
def isHexPart (s : List Char) : Bool :=
  !s.isEmpty && s.length ≤ 4 && s.all fun c => (Text.Percent.digitValue? c).isSome

/-- The parts of a number in eight parts, where a last part that is itself a number in four parts stands for two. -/
def withoutFourParts (parts : List (List Char)) : Option (List (List Char)) :=
  match parts.getLast? with
  | none => none
  | some last =>
    if !last.contains '.' then some parts
    else if isFourParts last then some (parts.dropLast ++ [['0'], ['0']])
    else none

/-- Parts on one side of the place where zeros are left out. At the rim of the number nothing at all may stand. -/
def isSide (parts : List (List Char)) : Bool :=
  parts = [[]] || parts.all isHexPart

/-- A number in eight parts without a zone. A run of zeros may be left out once. -/
def isEightPartsOnly (s : List Char) : Bool :=
  let parts := s.splitOn ':'
  if parts.length < 3 then false
  else
    match withoutFourParts parts with
    | none => false
    | some parts =>
      let inner := (parts.drop 1).dropLast
      if 9 < parts.length then false
      else
        match inner.findIdx? List.isEmpty with
        | none => parts.length = 8 && parts.all isHexPart
        | some i =>
          let front := parts.take (i + 1)
          let back := parts.drop (i + 2)
          let given (side : List (List Char)) : Nat := if side = [[]] then 0 else side.length
          isSide front && isSide back && given front + given back < 8

/-- A number in eight parts. A zone may follow after a percent sign. -/
def isEightParts (s : List Char) : Bool :=
  match Text.cut? ['%'] s with
  | none => isEightPartsOnly s
  | some (number, zone) => isEightPartsOnly number && !zone.isEmpty && !zone.contains '%'

/-- The characters besides letters and digits that a name of ASCII characters holds as they are. -/
def nameMarks : List Char := "-._~!$&'()*+,;=\"`\x7B\x7D%|\\".toList

/-- A character that a name of ASCII characters holds as it is. -/
def isNameCharacter (c : Char) : Bool := c.isAlphanum || nameMarks.contains c

/-- A part of a name in the characters that parts are made of. A dot in the middle of its line stands between two `l` only. -/
def holdsLetters (preceding : Option Char) : List Char → Bool
  | [] => true
  | c :: s =>
    let fits :=
      if c.toNat < 0x80 then c.isLower || c.isDigit || c = '-'
      else Text.isHostLetter c || (c = '\u00B7' && preceding = some 'l' && s.head? = some 'l')
    fits && holdsLetters (some c) s

/-- Whether a part of a name that is not written in ASCII yet may be written so. -/
def isLabel (s : List Char) : Bool :=
  !s.isEmpty && s.head? != some '-' && s.getLast? != some '-' && (s.drop 2).take 2 ≠ ['-', '-'] && holdsLetters none s

/-- The mark in front of a part that stands for letters of other scripts. -/
def letterMark : List Char := "xn--".toList

/-- The greatest number of characters in a part of a name. -/
def maxLabel : Nat := 63

/-- The greatest number of characters in a name. -/
def maxName : Nat := 253

/-- A part of a name in ASCII characters. -/
def asciiLabel? (s : List Char) : Option (List Char) :=
  let written :=
    if !s.all (·.toNat < 0x80) then if isLabel s then some (letterMark ++ Text.Punycode.encode s) else none
    else if letterMark.isPrefixOf s then
      let body := s.drop letterMark.length
      if body.isEmpty || body.getLast? == some '-' then none else some s
    else if isLabel s then some s
    else none
  written.filter (·.length ≤ maxLabel)

/-- The characters that part a name. -/
def isDot (c : Char) : Bool := ['.', '\u3002', '\uFF0E', '\uFF61'].contains c

/-- A name with letters of other scripts in ASCII characters. -/
def asciiName? (s : List Char) : Option (List Char) := do
  let parts := s.splitOnP isDot
  let (parts, finalDot) := if parts.getLast? == some [] then (parts.dropLast, true) else (parts, false)
  let written ← parts.mapM asciiLabel?
  let name := Text.joinWith ['.'] (written ++ if finalDot then [[]] else [])
  if name.length ≤ maxName + (if finalDot then 1 else 0) then return name else none

/-- A host as it is written in an address, without brackets. -/
def encode (s : List Char) : Except HostFault (List Char) :=
  if s.isEmpty then .ok []
  else if isMeantAsFourParts s then if isFourParts s then .ok s else .error (.badFourParts s)
  else if s.head? == some '[' && s.getLast? == some ']' && 2 ≤ s.length then
    let inside := (s.drop 1).dropLast
    if isEightParts inside then .ok inside else .error (.badEightParts s)
  else
    let small := (lowerCase (String.ofList s)).toList
    if s.all (·.toNat < 0x80) then .ok (Text.Percent.encode isNameCharacter small)
    else
      match asciiName? small with
      | some name => .ok name
      | none => .error (.badName s)

end Host

end RanConsole.Http

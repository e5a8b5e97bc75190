import RanConsole.Text.CaseTable
import RanConsole.Text.Ranges

/-!
# Letter case

Lower, upper and title case of a text. A mapping may take several characters (`ß` becomes `SS`), and a capital sigma becomes
`ς` at the end of a word and `σ` elsewhere, where marks that carry no case of their own are passed over. Title case starts a
word at each character with a case that follows one without.
-/

namespace RanConsole.Text

/-- The image of a character under a table of runs and a table of longer images. -/
def mapCase (runs : List CaseRun) (expansions : List (Nat × List Nat)) (c : Char) : List Char :=
  match expansions.lookup c.toNat with
  | some image => image.map Char.ofNat
  | none =>
    match runs.find? fun r => r.first ≤ c.toNat && c.toNat ≤ r.last && (c.toNat - r.first) % r.step == 0 with
    | some r => [Char.ofNat (c.toNat + r.shift).toNat]
    | none => [c]

/-- A character with a case. -/
def isCased (c : Char) : Bool := inRanges casedRanges c

/-- A character that is passed over when the neighbours of a sigma are looked at. -/
def isCaseIgnorable (c : Char) : Bool := inRanges caseIgnorableRanges c

/-- Whether the next character that counts has a case. -/
def casedAhead (s : List Char) : Bool :=
  ((s.dropWhile isCaseIgnorable).head?.map isCased).getD false

/-- Lower case of one character between the text before it, nearest first, and the text after it. -/
def lowerIn (preceding : List Char) (c : Char) (following : List Char) : List Char :=
  if c = 'Σ' then
    if casedAhead preceding && !casedAhead following then ['ς'] else ['σ']
  else mapCase lowerRuns lowerExpansions c

/-- Lower case of a text that continues `preceding`, which is given nearest first. -/
def lowerFrom (preceding : List Char) : List Char → List Char
  | [] => []
  | c :: s => lowerIn preceding c s ++ lowerFrom (c :: preceding) s

/-- Title case of a text that continues `preceding`, which is given nearest first. -/
def titleFrom (preceding : List Char) : List Char → List Char
  | [] => []
  | c :: s =>
    (if (preceding.head?.map isCased).getD false then lowerIn preceding c s
     else mapCase titleRuns titleExpansions c) ++ titleFrom (c :: preceding) s

end RanConsole.Text

namespace RanConsole

/-- The text in lower case. -/
def lowerCase (s : String) : String :=
  String.ofList (Text.lowerFrom [] s.toList)

/-- The text in upper case. -/
def upperCase (s : String) : String :=
  String.ofList (s.toList.flatMap (Text.mapCase Text.upperRuns Text.upperExpansions))

/-- The text with each word in title case. -/
def titleCase (s : String) : String :=
  String.ofList (Text.titleFrom [] s.toList)

end RanConsole

/-!
# Cutting a text at a token

`cut? token s` looks for the first place where `token` stands in `s` and gives what is before it and what is after it, and
`partsOf token 0 s` gives what stands between all such places.
-/

namespace RanConsole.Text

/-- The parts of the text before and after the first occurrence of the token. -/
def cut? (token : List Char) : List Char → Option (List Char × List Char)
  | [] => if token.isEmpty then some ([], []) else none
  | c :: s =>
    if token.isPrefixOf (c :: s) then some ([], (c :: s).drop token.length)
    else (cut? token s).map fun (before, after) => (c :: before, after)

/-- Whether the token stands anywhere in the text. -/
def occursIn (token s : List Char) : Bool :=
  (cut? token s).isSome

/-- The part before the first occurrence of the token, or the whole text. -/
def before (token s : List Char) : List Char :=
  ((cut? token s).map (·.1)).getD s

/-- The part after the first occurrence of the token, or nothing. -/
def after (token s : List Char) : List Char :=
  ((cut? token s).map (·.2)).getD []

/-- The parts between the occurrences of the token, behind a number of characters that are passed over. -/
def partsOf (token : List Char) : (skipped : Nat) → List Char → List (List Char)
  | _, [] => [[]]
  | skipped + 1, _ :: s => partsOf token skipped s
  | 0, c :: s =>
    if token.isPrefixOf (c :: s) then [] :: partsOf token (token.length - 1) s
    else (partsOf token 0 s).modifyHead (c :: ·)

/-- Every occurrence of the character replaced. -/
def replaceChar (old new : Char) (s : List Char) : List Char :=
  s.map fun c => if c = old then new else c

/-- The text padded with spaces at its end to at least the width. -/
def padEnd (width : Nat) (s : List Char) : List Char :=
  s ++ List.replicate (width - s.length) ' '

/-- The texts with the separator between neighbours. -/
def joinWith (sep : List Char) : List (List Char) → List Char
  | [] => []
  | [s] => s
  | s :: t :: rest => s ++ sep ++ joinWith sep (t :: rest)

end RanConsole.Text

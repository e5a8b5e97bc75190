/-!
# What a run prints

A run of a command ends with an exit code and has printed texts on the standard output and the error output. Neither is a
terminal, so the control sequences that set colours are taken out of what is printed.
-/

namespace RanConsole.Console

/-- The character that starts a control sequence. -/
def escape : Char := '\x1B'

/-- The text without control sequences, where `pending` is the beginning of what may be one, newest first. A sequence is the
escape character, `[`, any number of digits, `;` and `?`, and a letter. -/
def plainFrom (pending : List Char) : List Char → List Char
  | [] => pending.reverse
  | c :: s =>
    let restart := pending.reverse ++ (if c = escape then plainFrom [c] s else c :: plainFrom [] s)
    match pending with
    | [] => restart
    | [_] => if c = '[' then plainFrom (c :: pending) s else restart
    | _ =>
      if c.isDigit || c == ';' || c == '?' then plainFrom (c :: pending) s
      else if c.isAlpha then plainFrom [] s
      else restart

/-- The text without control sequences. -/
def plain (s : String) : String :=
  String.ofList (plainFrom [] s.toList)

/-- A message as it is printed: without control sequences and with a line end. -/
def line (message : String) : String :=
  plain (message ++ "\n")

/-- Messages printed one after another. -/
def lines (messages : List String) : String :=
  String.join (messages.map line)

end RanConsole.Console

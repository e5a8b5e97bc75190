/-!
# Punycode

Letters of all scripts in names that allow ASCII letters, digits and hyphens only. The ASCII characters come first; the others follow
in the order of their code points, each as the number of places that are passed over before it has to be put in. The numbers are
written in base 36 with digits whose weights adapt to the numbers before.
-/

namespace RanConsole.Text.Punycode

/-- The digit of a value below 36. -/
def digit (n : Nat) : Char :=
  if n < 26 then Char.ofNat ('a'.toNat + n) else Char.ofNat ('0'.toNat + n - 26)

/-- The least value that a digit at a place has when another one follows. -/
def threshold (bias place : Nat) : Nat :=
  if place ≤ bias then 1 else if bias + 26 ≤ place then 26 else place - bias

/-- The digits of a number from the given place on. -/
def digits (bias : Nat) : (fuel place : Nat) → Nat → List Char
  | 0, _, _ => []
  | fuel + 1, place, n =>
    let t := threshold bias place
    if n < t then [digit n]
    else digit (t + (n - t) % (36 - t)) :: digits bias fuel (place + 36) ((n - t) / (36 - t))

/-- A number brought below the bound for which the weights are made, and the places that this takes. -/
def scaled : (fuel n places : Nat) → Nat × Nat
  | 0, n, places => (n, places)
  | fuel + 1, n, places => if 455 < n then scaled fuel (n / 35) (places + 36) else (n, places)

/-- The bias after a number. -/
def adapted (n written : Nat) (isFirst : Bool) : Nat :=
  let n := if isFirst then n / 700 else n / 2
  let n := n + n / written
  let (n, places) := scaled n n 0
  places + 36 * n / (n + 38)

/-- Where the writing stands: the code points below `next` are written, `written` characters in all, and `passed` places have been
passed over since the last. -/
structure State where
  next : Nat := 0x80
  written : Nat
  passed : Nat := 0
  bias : Nat := 72
  isFirst : Bool := true
  deriving Repr

/-- The characters of the given code point put in, one place of the text after another. -/
def putIn (code : Nat) : State → List Char → State × List Char
  | st, [] => (st, [])
  | st, c :: s =>
    if c.toNat < code then putIn code { st with passed := st.passed + 1 } s
    else if c.toNat = code then
      let written := digits st.bias (st.passed + 1) 36 st.passed
      let st :=
        { st with
          bias := adapted st.passed (st.written + 1) st.isFirst, written := st.written + 1, passed := 0, isFirst := false }
      let (st, rest) := putIn code st s
      (st, written ++ rest)
    else putIn code st s

/-- The code points of a text put in, which are given in ascending order. -/
def putInAll (s : List Char) : State → List Nat → List Char
  | _, [] => []
  | st, code :: codes =>
    let st := { st with passed := st.passed + (code - st.next) * (st.written + 1) }
    let (st, here) := putIn code st s
    here ++ putInAll s { st with passed := st.passed + 1, next := code + 1 } codes

/-- A text in ASCII characters. -/
def encode (s : List Char) : List Char :=
  let plain := s.filter (·.toNat < 0x80)
  let codes := (((s.map Char.toNat).filter (0x80 ≤ ·)).mergeSort (· ≤ ·)).eraseDups
  (if plain.isEmpty then [] else plain ++ ['-']) ++ putInAll s { written := plain.length } codes

end RanConsole.Text.Punycode

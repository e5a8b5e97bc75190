import RanConsole.Proofs.Config.Coercion
import RanConsole.Proofs.Config.Landing
import RanConsole.Proofs.Yaml.Hollow

/-!
# Values that can be written

A value that is set takes its place in the document whatever it is, and a typed one is never too long to be written (`isTooLong_of_coerce`).
So whether a document can be written with a typed value does not depend on that value (`fault?_setIn`).
-/

namespace RanConsole.Config

open Yaml

section

variable {v w : Yaml} (h : v.hollow = w.hollow)
include h

theorem hollowEntries_setAt (keys : List String) (entries : Entries) :
    hollowEntries (setAt keys v entries) = hollowEntries (setAt keys w entries) := by
  induction keys generalizing entries with
  | nil => rfl
  | cons key rest ih =>
    have hValue (whole : Option Yaml) : (withValue rest v whole).hollow = (withValue rest w whole).hollow := by
      rw [withValue, withValue]
      split
      · exact h
      · rw [hollow, hollow, ih]
    rw [setAt_cons, setAt_cons, hollowEntries_put, hollowEntries_put, hValue]

/-- Documents in which values that are alike when hollow are set are alike when hollow. -/
theorem hollow_setIn (d : Document) (keys : List String) : (setIn d keys v).hollow = (setIn d keys w).hollow := by
  have hChange (inside : List String) (whole : Yaml) :
      hollow (.map (setAt inside v (whole.entries?.getD []))) = hollow (.map (setAt inside w (whole.entries?.getD []))) := by
    rw [hollow, hollow, hollowEntries_setAt h]
  rw [setIn, setIn]
  split
  · simp only [Document.hollow, hChange]
  · simp only [Document.hollow, ← Mapping.put_map, hChange]

end

theorem isTooLong_int (i : Int) : (Scalar.int i).isTooLong = decide (10 ^ Numeral.maxDigits ≤ i.natAbs) := by
  have hPow (n : Nat) : 10 ^ n = Nat.pow 10 n := rfl
  rw [hPow]
  rfl

/-- A typed value is not too long to be written. -/
theorem isTooLong_of_coerce {text : String} {x : Scalar} (h : coerce text = .ok x) : x.isTooLong = false := by
  cases ((coerce_eq_ok_iff text x).mp h).1 with
  | word hWord =>
    have hWords : ∀ word ∈ words, word.2.isTooLong = false := by
      simp [words, Scalar.isTooLong]
    exact hWords _ hWord
  | integer _ hInteger =>
    have hShort := (isShort_iff _).mp (isShort_of_readInteger hInteger)
    rw [isTooLong_int, decide_eq_false_iff_not, Nat.not_le]
    exact hShort
  | number | itself => rfl

/-- Why a document with a typed value cannot be written does not depend on the value. -/
theorem fault?_setIn {text text' : String} {x y : Scalar} (hx : coerce text = .ok x) (hy : coerce text' = .ok y) (d : Document)
    (keys : List String) (depth : Nat) :
    (Outline.ofDocument (setIn d keys (.scalar x))).fault? depth = (Outline.ofDocument (setIn d keys (.scalar y))).fault? depth := by
  have hHollow : hollow (.scalar x) = hollow (.scalar y) := by
    rw [hollow, hollow, isTooLong_of_coerce hx, isTooLong_of_coerce hy]
    rfl
  rw [← Outline.fault?_hollow, hollow_setIn hHollow, Outline.fault?_hollow]

end RanConsole.Config

import RanConsole.CommandLine.Run

/-!
# What reports say

A report on a call prints its messages whatever becomes of the call, and how the run ends depends on how the call has failed alone
(`report_ending`). Reports on the arguments and on the settings print nothing on the standard output and do not end with success.
-/

namespace RanConsole.CommandLine

open Client

variable {σ α : Type}

/-! ## Calls -/

/-- How a run ends whose call has failed, if it has. -/
def endingAfter (endsWhenInterrupted : Bool) : Option CallError → Ending
  | none => .exit 0
  | some .interrupted => if endsWhenInterrupted then .exit 0 else .exit failureCode
  | some e => if e.reported?.isSome then .exit failureCode else .crash (.call e)

theorem report_out (s : Surroundings) (a : Access) (endsWhenInterrupted : Bool) (records : List Log.Record) (messages : List String)
    (failure : Option CallError) : (s.report a endsWhenInterrupted records messages failure).out = Console.lines messages := by
  unfold Surroundings.report
  split
  · rfl
  · split <;> rfl
  · split <;> rfl

theorem report_ending (s : Surroundings) (a : Access) (endsWhenInterrupted : Bool) (records : List Log.Record)
    (messages : List String) (failure : Option CallError) :
    (s.report a endsWhenInterrupted records messages failure).ending = endingAfter endsWhenInterrupted failure := by
  unfold Surroundings.report
  split
  · rfl
  · cases endsWhenInterrupted <;> rfl
  · rename_i e hInterrupted
    cases hReported : e.reported? with
    | none => simp [endingAfter, hReported]
    | some p => simp [endingAfter, hReported]

/-- A call that is reported ends the run with a failure. -/
theorem endingAfter_of_reported (endsWhenInterrupted : Bool) {e : CallError} (h : e.reported?.isSome = true) :
    endingAfter endsWhenInterrupted (some e) = .exit failureCode := by
  cases e <;> simp_all [endingAfter, CallError.reported?]

/-- A call that is not reported, and not an interruption, is the end of the run. -/
theorem endingAfter_of_not_reported (endsWhenInterrupted : Bool) {e : CallError} (h : e.reported? = none)
    (hInterrupted : e ≠ .interrupted) : endingAfter endsWhenInterrupted (some e) = .crash (.call e) := by
  cases e <;> simp_all [endingAfter]

/-- The run of a call that stops for no interruption succeeds only if the call does. -/
theorem eq_none_of_endingAfter {failure : Option CallError} (h : endingAfter false failure = .exit 0) : failure = none := by
  match failure, h with
  | none, _ => rfl
  | some e, h =>
    exfalso
    by_cases hReported : e.reported?.isSome = true
    · rw [endingAfter_of_reported false hReported] at h
      cases h
    · by_cases hInterrupted : e = .interrupted
      · subst hInterrupted
        cases h
      · rw [endingAfter_of_not_reported false (by simpa using hReported) hInterrupted] at h
        cases h

/-- The failure of a result, if it is one. -/
def failureIn : Except CallError α → Option CallError
  | .ok _ => none
  | .error e => some e

/-- The lines of a result, none for a failure. -/
def linesIn (lines : α → List String) : Except CallError α → List String
  | .ok v => lines v
  | .error _ => []

theorem reportResult_eq (s : Surroundings) (a : Access) (endsWhenInterrupted : Bool) (records : List Log.Record)
    (lines : α → List String) (result : Except CallError α) :
    s.reportResult a endsWhenInterrupted records lines result =
      s.report a endsWhenInterrupted records (linesIn lines result) (failureIn result) := by
  cases result <;> rfl

theorem reportShown_out (s : Surroundings) (a : Access) (endsWhenInterrupted : Bool) (records : List Log.Record)
    (format : Listing.Format) (lines : α → List String) (result : Json.Reading → Except CallError α) :
    (s.reportShown a endsWhenInterrupted records format lines result).out = Console.lines (shown format lines result).1 :=
  report_out ..

theorem nodeCall_eq (s : Surroundings) (a : Access) (call : Connection → Talk σ → Except CallError α × Talk σ)
    (lines : α → List String) (x : Talk σ) :
    s.nodeCall a call lines x =
      ⟨s.reportResult a false (call (s.connection a NodeService.path) x).2.log lines (call (s.connection a NodeService.path) x).1,
        (call (s.connection a NodeService.path) x).2⟩ :=
  rfl

/-! ## Settings and arguments -/

theorem loadReport_out (e : Config.LoadError) : (loadReport e).out = "" := by
  rw [loadReport]
  cases e.failure? <;> rfl

theorem loadReport_ending (e : Config.LoadError) : (loadReport e).ending ≠ .exit 0 := by
  rw [loadReport]
  cases e.failure? with
  | none => simp [Report.crashed]
  | some f => simp [Report.failed, failureCode]

theorem usage_report_ending (place : Place) (e : UsageError) : (Stop.usage place e).report.ending = .exit usageCode := rfl

end RanConsole.CommandLine

import Mathlib.Algebra.Ring.Rat
import RanConsole.Client.Connection
import RanConsole.Http.Script
import RanConsole.Proofs.Client.Attempts

/-!
# What a request with retries comes to

The last attempt of a request is the first one whose result is not transient, or the last one that the policy allows. A request with
responses of success or of an error sends the same request up to that attempt, makes one pause between each two, and ends with its
result, as `EndsWith` has it. The only exception is a response with an error whose text cannot be read: it is not reported with its
status.
-/

namespace RanConsole.Client

open Http

variable {σ δ : Type}

/-- How the rules let a request end with its last result: with a response of success, with a failure that tells the kind and the
status of a response with an error, or with what came instead of a response. -/
inductive EndsWith (r : Request) : Result → Except CallError Response → Prop
  | success (response : Response) (h : isSuccess response.status = true) :
    EndsWith r (.ok (.response response)) (.ok response)
  | failure (response : Response) (report : Report) (h : isError response.status = true) :
    EndsWith r (.ok (.response response))
      (.error (.failure (.api (failureKind response.status) report (some (Int.ofNat response.status)) (some (endpoint r)))))
  | link (l : LinkFailure) : EndsWith r (.ok (.failed l)) (.error (.link l))
  | interrupted : EndsWith r (.ok .interrupted) (.error .interrupted)
  | other (e : CallError) : EndsWith r (.error e) (.error e)

/-- Whether a result has nothing to read or a text that can be read. A response without an error is not read. -/
def isReadable : Result → Bool
  | .ok (.response response) => !isError response.status || response.text?.isSome
  | _ => true

/-- A request ends as the rules say with a result whose text, if it needs one, can be read. -/
theorem endsWith_ending_iff (r : Request) {o : Result} (h : isPassedOver o = false) :
    EndsWith r o (ending r o) ↔ isReadable o = true := by
  match o, h with
  | .error e, _ => exact iff_of_true (.other e) rfl
  | .ok .interrupted, _ => exact iff_of_true .interrupted rfl
  | .ok (.failed l), _ => exact iff_of_true (.link l) rfl
  | .ok (.response response), h =>
    by_cases hError : isError response.status = true
    · cases hText : response.text? with
      | none =>
        refine iff_of_false ?_ (by simp [isReadable, hError, hText])
        simp only [ending, hError, hText, if_true]
        intro hEnds
        cases hEnds
      | some text =>
        refine iff_of_true ?_ (by simp [isReadable, hText])
        simp only [ending, hError, hText, if_true]
        exact .failure response _ hError
    · have hSuccess : isSuccess response.status = true := by simpa [isPassedOver, hError] using h
      refine iff_of_true ?_ (by simp [isReadable, hError])
      simp only [ending, hError, if_false, Bool.false_eq_true]
      exact .success response hSuccess

/-- An error whose text cannot be read is no failure with a status. -/
theorem ending_of_not_isReadable (r : Request) {o : Result} (h : isReadable o = false) : ending r o = .error .unmarkedText := by
  match o, h with
  | .ok (.response response), h =>
    simp only [isReadable, Bool.or_eq_false_iff, Bool.not_eq_false', Option.isSome_eq_false_iff, Option.isNone_iff_eq_none] at h
    simp [ending, h.1, h.2]

/-! ## The last attempt -/

/-- The attempt after which no further one follows, counted from zero: the first one whose result is not transient, or the last one
with the given number of retries. -/
def lastAttempt (server : Server σ) (r : Request) (s : σ) (retries : Nat) : Nat :=
  lastOf (fun i => !isTransient (resultAt server r s i)) retries

theorem isTransient_of_lt_lastAttempt {server : Server σ} {r : Request} {s : σ} {retries i : Nat}
    (hi : i < lastAttempt server r s retries) : isTransient (resultAt server r s i) = true := by
  simpa using not_stops_of_lt_lastOf hi

theorem lastAttempt_eq_of_isTransient {server : Server σ} {r : Request} {s : σ} {retries : Nat}
    (h : isTransient (resultAt server r s (lastAttempt server r s retries)) = true) : lastAttempt server r s retries = retries := by
  refine Nat.le_antisymm (lastOf_le _ _) (Nat.not_lt.mp fun hlt => ?_)
  have hStops := stops_lastOf_of_lt hlt
  rw [← lastAttempt, h] at hStops
  exact Bool.noConfusion hStops

theorem pausesAfter_of_isTransient (policy : Policy δ) {results : Nat → Result} {n : Nat}
    (h : ∀ i < n, isTransient (results i) = true) : pausesAfter policy results 0 n = (List.range n).map policy.pause := by
  rw [pausesAfter, List.filter_eq_self.mpr fun i hi => h i (List.mem_range.mp hi)]
  simp

theorem lastAttempt_eq_lastOf_isDecisive {server : Server σ} {r : Request} {s : σ} {retries : Nat}
    (hRegular : ∀ i ≤ retries, isPassedOver (resultAt server r s i) = false) :
    lastOf (fun i => isDecisive (resultAt server r s i)) retries = lastAttempt server r s retries := by
  refine lastOf_congr fun i hi => ?_
  simp [isDecisive, hRegular i (Nat.le_of_lt hi)]

/-- A request ends with the result of its last attempt. -/
theorem request_lastAttempt (server : Server σ) (policy : Policy δ) (path : String) (r : Request) (retries : Nat)
    (x : Exchange σ δ) (hAttempts : policy.attempts = retries + 1)
    (hRegular : ∀ i ≤ retries, isPassedOver (resultAt server r x.server i) = false) :
    let last := lastAttempt server r x.server retries
    let run := request server policy path r x
    run.1 = ending r (resultAt server r x.server last) ∧
      run.2.requests = x.requests ++ List.replicate (last + 1) r ∧
      run.2.pauses = x.pauses ++ (List.range last).map policy.pause := by
  obtain ⟨hEnd, hSent, hPaused⟩ := request_lastOf server policy path r retries x hAttempts
  rw [lastAttempt_eq_lastOf_isDecisive hRegular] at hEnd hSent hPaused
  refine ⟨?_, hSent, ?_⟩
  · rw [hEnd]
    by_cases hTransient : isTransient (resultAt server r x.server (lastAttempt server r x.server retries)) = true
    · obtain ⟨e, hEnding⟩ := exists_ending_of_isTransient r hTransient
      rw [if_neg (by simp [isDecisive, hTransient])]
      have hLast := lastAttempt_eq_of_isTransient hTransient
      rw [hLast] at hTransient hEnding ⊢
      rw [remembered, hTransient, if_pos rfl, failureOf_of_ending hEnding, hEnding]
      rfl
    · have hLast : lastAttempt server r x.server retries ≤ retries := lastOf_le _ _
      rw [if_pos (by simp [isDecisive, hTransient, hRegular _ hLast])]
  · rw [hPaused, pausesAfter_of_isTransient policy fun i hi => isTransient_of_lt_lastAttempt hi]

/-! ## Pauses that double -/

/-- A policy with exact pauses, each of which is twice as long as the one before. -/
def doublingPolicy (retries : Nat) (backoff : ℚ) (words : ℚ → String) : Policy ℚ :=
  { attempts := retries + 1, pause := fun n => backoff * 2 ^ n, pauseText := words }

/-- What the rules say of a request with a number of retries: it ends with the result of the last attempt, up to which the same request
is sent, and a pause is made before each further attempt. An error whose text cannot be read is the only one that is not reported. -/
structure IsExact (server : Server σ) (r : Request) (retries : Nat) (pause : Nat → δ) (x : Exchange σ δ)
    (run : Except CallError Response × Exchange σ δ) : Prop where
  endsWith_iff : EndsWith r (resultAt server r x.server (lastAttempt server r x.server retries)) run.1 ↔
    isReadable (resultAt server r x.server (lastAttempt server r x.server retries)) = true
  unreadable : isReadable (resultAt server r x.server (lastAttempt server r x.server retries)) = false →
    run.1 = .error .unmarkedText
  requests : run.2.requests = x.requests ++ List.replicate (lastAttempt server r x.server retries + 1) r
  pauses : run.2.pauses = x.pauses ++ (List.range (lastAttempt server r x.server retries)).map pause

/-- Every request with such results is exact for the pauses of its policy. -/
theorem isExact_request (server : Server σ) (policy : Policy δ) (path : String) (r : Request) (retries : Nat)
    (x : Exchange σ δ) (hAttempts : policy.attempts = retries + 1)
    (hRegular : ∀ i ≤ retries, isPassedOver (resultAt server r x.server i) = false) :
    IsExact server r retries policy.pause x (request server policy path r x) := by
  obtain ⟨hEnd, hSent, hPaused⟩ := request_lastAttempt server policy path r retries x hAttempts hRegular
  refine ⟨?_, ?_, hSent, hPaused⟩
  · rw [hEnd]
    exact endsWith_ending_iff r (hRegular _ (lastOf_le _ _))
  · intro hUnreadable
    rw [hEnd]
    exact ending_of_not_isReadable r hUnreadable

/-- A connection doubles whole seconds exactly. -/
theorem connection_pause (c : Connection) (seconds : Int) :
    { c with backoff := .whole seconds : Connection }.policy.pause = fun n => Pause.whole (seconds * 2 ^ n) := by
  funext n
  simp only [Connection.policy, Pause.doubled, Pause.whole.injEq]
  rfl

/-- Every request is exact with responses of success or of an error and anything else instead of a response, for fractions of seconds
and, on a connection, for whole seconds. -/
theorem request_exact (server : Server σ) (path : String) (r : Request) (retries : Nat) :
    (∀ (backoff : ℚ) (words : ℚ → String) (x : Exchange σ ℚ),
      (∀ i ≤ retries, isPassedOver (resultAt server r x.server i) = false) →
      IsExact server r retries (fun n => backoff * 2 ^ n) x (request server (doublingPolicy retries backoff words) path r x)) ∧
    ∀ (c : Connection) (seconds : Int) (x : Talk σ),
      (∀ i ≤ retries, isPassedOver (resultAt server r x.server i) = false) →
      IsExact server r retries (fun n => .whole (seconds * 2 ^ n)) x
        (request server { c with maxRetries := retries, backoff := .whole seconds : Connection }.policy path r x) := by
  constructor
  · intro backoff words x hRegular
    exact isExact_request server (doublingPolicy retries backoff words) path r retries x rfl hRegular
  · intro c seconds x hRegular
    rw [← connection_pause { c with maxRetries := retries }]
    refine isExact_request server _ path r retries x ?_ hRegular
    simp only [Connection.policy]
    omega

/-- A server that gives outcomes one after another. -/
def inOrder : Server (List Outcome) :=
  ⟨fun outcomes _ =>
    match outcomes with
    | [] => (unscripted, [])
    | outcome :: later => (outcome, later)⟩

/-- Two attempts that fail, each in its own way, and one that succeeds. -/
def thirdSucceeds : List Outcome :=
  [.response { status := 503, body := [] }, .failed ⟨.connect, "refused"⟩, .response { status := 200, body := [49] }]

/-- With three retries the third attempt is the last one. -/
theorem request_exact_thirdSucceeds :
    let x : Exchange (List Outcome) ℚ := { server := thirdSucceeds }
    let talk : Talk (List Outcome) := { server := thirdSucceeds }
    let c : Connection := { service := "/api/ransim", maxRetries := 3, backoff := .whole 5 }
    lastAttempt inOrder sampleRequest thirdSucceeds 3 = 2 ∧
      IsExact inOrder sampleRequest 3 (fun n => 1 / 4 * 2 ^ n) x
        (request inOrder (doublingPolicy 3 (1 / 4) fun _ => "") "/plmnid" sampleRequest x) ∧
      IsExact inOrder sampleRequest 3 (fun n => .whole (5 * 2 ^ n)) talk (request inOrder c.policy "/plmnid" sampleRequest talk) := by
  have hRegular : ∀ i ≤ 3, isPassedOver (resultAt inOrder sampleRequest thirdSucceeds i) = false := by decide
  obtain ⟨hExact, hConnection⟩ := request_exact inOrder "/plmnid" sampleRequest 3
  exact ⟨by decide, hExact (1 / 4) (fun _ => "") _ hRegular, hConnection { service := "/api/ransim" } 5 _ hRegular⟩

/-- An error with a text that lacks the mark of its character set. -/
def unmarkedError : Outcome :=
  .response { status := 500, contentType := some "text/plain; charset=utf-16", body := [97, 98] }

/-- The rules do not hold of an error with a text that cannot be read. -/
theorem request_endsWith_unmarkedError_false :
    isPassedOver (resultAt inOrder sampleRequest [unmarkedError] 0) = false ∧
      ¬ EndsWith sampleRequest (resultAt inOrder sampleRequest [unmarkedError] 0)
        (request inOrder (doublingPolicy 0 1 fun _ => "") "/plmnid" sampleRequest (.start [unmarkedError])).1 := by
  have hEnd : (request inOrder (doublingPolicy 0 1 fun _ => "") "/plmnid" sampleRequest (.start [unmarkedError])).1 =
      .error .unmarkedText := by rfl
  refine ⟨by decide, ?_⟩
  rw [hEnd]
  intro hEnds
  cases hEnds

end RanConsole.Client

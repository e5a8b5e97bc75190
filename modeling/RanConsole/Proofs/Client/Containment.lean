import RanConsole.Proofs.Client.Attempts

/-!
# Which requests are contained

A request is contained if it ends with a response of success or with an error that commands report, and if no further request follows
a response that does not say that the server is out of order (`IsContained`). Not every request is: a response whose status is neither
one of success nor one of an error is passed over, and an error may have a text that cannot be read. `request_isContained_iff` tells
the contained requests by the answers of the server.
-/

namespace RanConsole.Client

open Http

variable {σ δ : Type}

/-! ## What containment asks for -/

/-- Whether a request ends with a response of success or with an error that commands report. -/
def isReported : Except CallError Response → Bool
  | .ok response => isSuccess response.status
  | .error e => e.reported?.isSome

/-- What containment asks of a run: how it ends, and that nothing is sent after a response with a status that does not say that the
server is out of order. -/
structure IsContained (server : Server σ) (r : Request) (x : Exchange σ δ) (run : Except CallError Response × Exchange σ δ) :
    Prop where
  reported : isReported run.1 = true
  final : ∀ n response, answerAt server r x.server n = .response response → isUnavailable response.status = false →
    run.2.requests.length ≤ x.requests.length + (n + 1)

/-! ## Results that may be contained -/

/-- Whether a request ends in a reported way with a result that is the last one. -/
def isReportable : Result → Bool
  | .ok (.response response) => isSuccess response.status || (isError response.status && response.text?.isSome)
  | .ok (.failed _) => true
  | .ok .interrupted => false
  | .error e => e.reported?.isSome

theorem isReported_ending (r : Request) {o : Result} (h : isPassedOver o = false) :
    isReported (ending r o) = isReportable o := by
  match o, h with
  | .error e, _ => rfl
  | .ok .interrupted, _ => rfl
  | .ok (.failed l), _ => rfl
  | .ok (.response response), h =>
    by_cases hError : isError response.status = true
    · cases hText : response.text? with
      | none => simp [ending, isReported, isReportable, hError, hText, not_isSuccess_of_isError hError, CallError.reported?]
      | some text => simp [ending, isReported, isReportable, hError, hText, CallError.reported?]
    · have hSuccess : isSuccess response.status = true := by simpa [isPassedOver, hError] using h
      simp [ending, isReported, isReportable, hError, hSuccess]

/-- Whether another attempt may follow the answer to an attempt: its result is transient, and a response says that the server is out of
order. -/
def isRepeatable (server : Server σ) (r : Request) (s : σ) (n : Nat) : Bool :=
  isTransient (resultAt server r s n) &&
    match answerAt server r s n with
    | .response response => isUnavailable response.status
    | _ => true

theorem isTransient_of_isRepeatable {server : Server σ} {r : Request} {s : σ} {n : Nat} (h : isRepeatable server r s n = true) :
    isTransient (resultAt server r s n) = true := by
  rw [isRepeatable, Bool.and_eq_true] at h
  exact h.1

theorem not_isDecisive_of_isTransient {o : Result} (h : isTransient o = true) : isDecisive o = false := by
  simp [isDecisive, h]

theorem isPassedOver_of_not {o : Result} (hTransient : isTransient o = false) (hDecisive : isDecisive o = false) :
    isPassedOver o = true := by
  simpa [isDecisive, hTransient] using hDecisive

theorem not_isPassedOver_of_isDecisive {o : Result} (h : isDecisive o = true) : isPassedOver o = false := by
  simp only [isDecisive, Bool.and_eq_true, Bool.not_eq_true'] at h
  exact h.2

theorem not_isPassedOver_of_isTransient {o : Result} (h : isTransient o = true) : isPassedOver o = false := by
  match o, h with
  | .ok (.failed _), _ => rfl
  | .ok (.response response), h =>
    have hError : isError response.status = true := isError_of_isUnavailable h
    simp [isPassedOver, hError]

/-! ## Settled responses keep their status -/

theorem status_of_unpacked {response unpacked : Response} (h : response.unpacked = .ok unpacked) :
    unpacked.status = response.status := by
  rw [Response.unpacked] at h
  cases hBody : ContentCoding.unpackAll response.codings response.body with
  | error f => simp [hBody, Except.map] at h
  | ok body =>
    simp only [hBody, Except.map, Except.ok.injEq] at h
    rw [← h]

theorem status_of_settledUnpacked {r : Request} {response response' : Response}
    (h : settledUnpacked r response = .ok (.response response')) : response'.status = response.status := by
  rw [settledUnpacked] at h
  split at h
  · cases h
  · split at h
    · cases h
      rfl
    · split at h
      · cases h
      · rename_i u _
        cases hHost : (u.onHostOf r.url).mapError CallError.badAddress with
        | error e => simp [hHost, Except.map] at h
        | ok u =>
          simp only [hHost, Except.map, Except.ok.injEq, Outcome.response.injEq] at h
          rw [h]

/-- A result with a response comes from an answer with a response of the same status. -/
theorem exists_answer_of_response {r : Request} {o : Outcome} {response : Response} (h : resultOf r o = .ok (.response response)) :
    ∃ raw, o = .response raw ∧ raw.status = response.status := by
  match o, h with
  | .response raw, h =>
    refine ⟨raw, rfl, ?_⟩
    rw [resultOf, settled] at h
    cases hUnpacked : raw.unpacked with
    | error f => simp [hUnpacked] at h
    | ok unpacked =>
      rw [hUnpacked] at h
      rw [status_of_settledUnpacked h, status_of_unpacked hUnpacked]

/-! ## The last attempt that may be made -/

/-- The attempt after which none may follow, counted from zero: the first one whose answer may not be followed by another attempt, or
the last one with the given number of retries. -/
def lastDue (server : Server σ) (r : Request) (s : σ) (retries : Nat) : Nat :=
  lastOf (fun i => !isRepeatable server r s i) retries

theorem isRepeatable_of_lt_lastDue {server : Server σ} {r : Request} {s : σ} {retries i : Nat}
    (hi : i < lastDue server r s retries) : isRepeatable server r s i = true := by
  simpa using not_stops_of_lt_lastOf hi

theorem not_isRepeatable_lastDue {server : Server σ} {r : Request} {s : σ} {retries : Nat}
    (h : lastDue server r s retries < retries) : isRepeatable server r s (lastDue server r s retries) = false := by
  have hStops := stops_lastOf_of_lt h
  simpa [lastDue] using hStops

/-- An answer that neither decides nor may be followed by another attempt is a response that does not say that the server is out of
order. -/
theorem exists_response_of_not_isRepeatable {server : Server σ} {r : Request} {s : σ} {n : Nat}
    (hDecisive : isDecisive (resultAt server r s n) = false) (hRepeatable : isRepeatable server r s n = false) :
    ∃ response, answerAt server r s n = .response response ∧ isUnavailable response.status = false := by
  by_cases hTransient : isTransient (resultAt server r s n) = true
  · rw [isRepeatable, hTransient, Bool.true_and] at hRepeatable
    cases hAnswer : answerAt server r s n with
    | response response => exact ⟨response, rfl, by simpa [hAnswer] using hRepeatable⟩
    | failed l => simp [hAnswer] at hRepeatable
    | interrupted => simp [hAnswer] at hRepeatable
  · have hPassed := isPassedOver_of_not (Bool.eq_false_iff.mpr hTransient) hDecisive
    match hResult : resultAt server r s n, hPassed with
    | .ok (.response response), hPassed =>
      obtain ⟨raw, hAnswer, hStatus⟩ := exists_answer_of_response hResult
      refine ⟨raw, hAnswer, ?_⟩
      rw [hStatus, Bool.eq_false_iff]
      intro hUnavailable
      simp [isPassedOver, isError_of_isUnavailable hUnavailable] at hPassed

/-- The attempts that are made go on at least to the last one that may be made. -/
theorem lastDue_le (server : Server σ) (r : Request) (s : σ) (retries : Nat) :
    lastDue server r s retries ≤ lastOf (fun i => isDecisive (resultAt server r s i)) retries := by
  refine Nat.not_lt.mp fun hlt => ?_
  have hRepeatable := isRepeatable_of_lt_lastDue hlt
  have hDecisive := stops_lastOf_of_lt (Nat.lt_of_lt_of_le hlt (lastOf_le _ _))
  rw [not_isDecisive_of_isTransient (isTransient_of_isRepeatable hRepeatable)] at hDecisive
  exact Bool.noConfusion hDecisive

/-- They stop there if no retry is left or the result decides. -/
theorem lastDue_eq_iff (server : Server σ) (r : Request) (s : σ) (retries : Nat) :
    lastDue server r s retries = lastOf (fun i => isDecisive (resultAt server r s i)) retries ↔
      lastDue server r s retries = retries ∨ isDecisive (resultAt server r s (lastDue server r s retries)) = true := by
  constructor
  · intro hEq
    rcases Nat.lt_or_eq_of_le (lastOf_le (fun i => isDecisive (resultAt server r s i)) retries) with hlt | hLast
    · right
      rw [hEq]
      exact stops_lastOf_of_lt hlt
    · left
      rw [hEq, hLast]
  · intro h
    refine Nat.le_antisymm (lastDue_le server r s retries) (Nat.not_lt.mp fun hlt => ?_)
    rcases h with hLast | hDecisive
    · rw [hLast] at hlt
      exact absurd (lastOf_le _ _) (Nat.not_le.mpr hlt)
    · rw [not_stops_of_lt_lastOf hlt] at hDecisive
      exact Bool.noConfusion hDecisive

/-- Nothing is sent after a response that does not say that the server is out of order, if and only if the attempts stop there. -/
theorem final_iff (server : Server σ) (r : Request) (s : σ) (retries : Nat) :
    (∀ n response, answerAt server r s n = .response response → isUnavailable response.status = false →
        lastOf (fun i => isDecisive (resultAt server r s i)) retries ≤ n) ↔
      lastDue server r s retries = lastOf (fun i => isDecisive (resultAt server r s i)) retries := by
  constructor
  · intro hFinal
    refine Nat.le_antisymm (lastDue_le server r s retries) (Nat.not_lt.mp fun hlt => ?_)
    obtain ⟨response, hAnswer, hStatus⟩ := exists_response_of_not_isRepeatable (not_stops_of_lt_lastOf hlt)
      (not_isRepeatable_lastDue (Nat.lt_of_lt_of_le hlt (lastOf_le _ _)))
    exact absurd (hFinal _ response hAnswer hStatus) (Nat.not_le.mpr hlt)
  · intro hEq n response hAnswer hStatus
    rw [← hEq]
    refine Nat.not_lt.mp fun hlt => ?_
    have hRepeatable := isRepeatable_of_lt_lastDue hlt
    simp [isRepeatable, hAnswer, hStatus] at hRepeatable

/-! ## Contained requests -/

/-- What is remembered of a transient result is reported as the result would be. -/
theorem isReported_failureOf (r : Request) {o : Result} (h : isTransient o = true) :
    isReported (.error ((failureOf r o).getD .nothingHappened)) = isReportable o := by
  obtain ⟨e, hEnding⟩ := exists_ending_of_isTransient r h
  rw [← isReported_ending r (not_isPassedOver_of_isTransient h), failureOf_of_ending hEnding, hEnding]
  rfl

/-- Whether a request ends in a reported way with the attempt of the given number. A response that is passed over leaves the error of the
attempt before, if there is one. -/
def isReportableAt (results : Nat → Result) (n : Nat) : Bool :=
  if isPassedOver (results n) then 0 < n && isReportable (results (n - 1)) else isReportable (results n)

/-- How a request ends whose attempts stop at the last one that may be made. -/
theorem isReported_request (server : Server σ) (policy : Policy δ) (path : String) (r : Request) (retries : Nat)
    (x : Exchange σ δ) (hAttempts : policy.attempts = retries + 1)
    (hStop : lastDue server r x.server retries = retries ∨
      isDecisive (resultAt server r x.server (lastDue server r x.server retries)) = true) :
    isReported (request server policy path r x).1 =
      isReportableAt (resultAt server r x.server) (lastDue server r x.server retries) := by
  have hEnd := (request_lastOf server policy path r retries x hAttempts).1
  rw [← (lastDue_eq_iff server r x.server retries).mpr hStop] at hEnd
  rw [hEnd]
  by_cases hDecisive : isDecisive (resultAt server r x.server (lastDue server r x.server retries)) = true
  · have hPassed := not_isPassedOver_of_isDecisive hDecisive
    rw [if_pos hDecisive, isReported_ending r hPassed, isReportableAt, hPassed]
    rfl
  · rw [if_neg hDecisive]
    -- all attempts were made, and every one but the last left an error to remember
    have hLast : lastDue server r x.server retries = retries := hStop.resolve_right hDecisive
    have hRepeatable : ∀ i < retries, isTransient (resultAt server r x.server i) = true := fun i hi =>
      isTransient_of_isRepeatable (isRepeatable_of_lt_lastDue (hLast.symm ▸ hi))
    rw [hLast] at hDecisive ⊢
    rw [remembered, isReportableAt]
    by_cases hTransient : isTransient (resultAt server r x.server retries) = true
    · rw [if_pos hTransient, isReported_failureOf r hTransient, not_isPassedOver_of_isTransient hTransient]
      rfl
    · rw [if_neg hTransient, isPassedOver_of_not (Bool.eq_false_iff.mpr hTransient) (Bool.eq_false_iff.mpr hDecisive)]
      cases retries with
      | zero => rfl
      | succ before =>
        have hBefore := hRepeatable before (Nat.lt_succ_self before)
        rw [remembered, if_pos hBefore, isReported_failureOf r hBefore]
        simp

/-- A request is contained if and only if its attempts stop at the last one that may be made, because no retry is left or because the
result decides, and it ends in a reported way there. -/
theorem request_isContained_iff (server : Server σ) (policy : Policy δ) (path : String) (r : Request) (retries : Nat)
    (x : Exchange σ δ) :
    IsContained server r x (request server { policy with attempts := retries + 1 } path r x) ↔
      (lastDue server r x.server retries = retries ∨
        isDecisive (resultAt server r x.server (lastDue server r x.server retries)) = true) ∧
      isReportableAt (resultAt server r x.server) (lastDue server r x.server retries) = true := by
  have hSent := (request_lastOf server { policy with attempts := retries + 1 } path r retries x rfl).2.1
  have hFinal : (∀ n response, answerAt server r x.server n = .response response → isUnavailable response.status = false →
      (request server { policy with attempts := retries + 1 } path r x).2.requests.length ≤ x.requests.length + (n + 1)) ↔
      lastDue server r x.server retries = retries ∨
        isDecisive (resultAt server r x.server (lastDue server r x.server retries)) = true := by
    rw [← lastDue_eq_iff, ← final_iff, hSent]
    simp only [List.length_append, List.length_replicate, Nat.add_le_add_iff_left, Nat.add_le_add_iff_right]
  constructor
  · intro hContained
    have hStop := hFinal.mp hContained.final
    refine ⟨hStop, ?_⟩
    rw [← isReported_request server { policy with attempts := retries + 1 } path r retries x rfl hStop]
    exact hContained.reported
  · rintro ⟨hStop, hReportable⟩
    refine ⟨?_, hFinal.mpr hStop⟩
    rw [isReported_request server { policy with attempts := retries + 1 } path r retries x rfl hStop]
    exact hReportable

/-- A server that always has the same answer. -/
def always (outcome : Outcome) : Server Unit := ⟨fun _ _ => (outcome, ())⟩

/-- A response that nothing has changed since. -/
def notModified : Outcome := .response { status := 304, body := [] }

/-- Not every request is contained: with a response that nothing has changed, nothing is left to report. -/
theorem request_isContained_notModified_false :
    ¬ IsContained (always notModified) sampleRequest (.start ())
      (request (always notModified) { attempts := 1, pause := fun n => n, pauseText := fun _ => "" } "/plmnid" sampleRequest
        (.start () : Exchange Unit Nat)) := by
  rintro ⟨hReported, -⟩
  have hEnd : isReported (request (always notModified) { attempts := 1, pause := fun n => n, pauseText := fun _ => "" } "/plmnid"
      sampleRequest (.start () : Exchange Unit Nat)).1 = false := by decide
  rw [hEnd] at hReported
  exact Bool.noConfusion hReported

end RanConsole.Client

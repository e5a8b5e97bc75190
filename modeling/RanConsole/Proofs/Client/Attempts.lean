import Mathlib.Data.List.Find
import RanConsole.Client.Retry

/-!
# The attempts of a request

The attempts of a request are told by the results that the server gives to it, one after another (`resultAt`). A result decides the
request, or it is transient and another attempt follows after a pause, or it is passed over and another attempt follows at once.
`attempts_decided` and `attempts_exhausted` say what all attempts come to: the first result that decides, or, without one, the last
transient result.
-/

namespace RanConsole.Client

open Http

variable {σ δ : Type}

/-! ## Results -/

/-- What a call can take for the outcome of one attempt: what becomes of a response before its status is looked at, or what came
instead of a response. -/
abbrev Result := Except CallError Outcome

/-- The result of an attempt with an outcome. -/
def resultOf (r : Request) : Outcome → Result
  | .response response => settled r response
  | .failed l => .ok (.failed l)
  | .interrupted => .ok .interrupted

/-- The answer that a server gives to a request that has been sent a number of times before. -/
def answerAt (server : Server σ) (r : Request) : σ → Nat → Outcome
  | s, 0 => (server.answer s r).1
  | s, n + 1 => answerAt server r (server.answer s r).2 n

/-- The result of the attempt of the given number, counted from zero. -/
def resultAt (server : Server σ) (r : Request) (s : σ) (n : Nat) : Result :=
  resultOf r (answerAt server r s n)

/-- A result after which the request is sent again after a pause: a failure of the transport, or a status that says that the server
is out of order for the moment. -/
def isTransient : Result → Bool
  | .ok (.failed l) => l.fault.isTransport
  | .ok (.response response) => isUnavailable response.status
  | _ => false

/-- A response that is passed over: its status is neither one of success nor one of an error. -/
def isPassedOver : Result → Bool
  | .ok (.response response) => !isSuccess response.status && !isError response.status
  | _ => false

/-- A result that decides the request. -/
def isDecisive (o : Result) : Bool := !isTransient o && !isPassedOver o

/-- The kind of failure that a status of an error means. -/
def failureKind (status : Nat) : ApiFailure :=
  if status = notFound then .notFound else if isUnavailable status then .unavailable else .general

/-- What is said about a response with an error status and a text: the text, or the phrase of the status. -/
def failureReport (status : Nat) (text : List Char) : Report :=
  { message := if (Text.trim text).isEmpty then reason status else String.ofList (Text.trim text) }

/-- What the request comes to with a result that is the last one. A response with an error status is reported with its status, unless
its text cannot be read. -/
def ending (r : Request) : Result → Except CallError Response
  | .error e => .error e
  | .ok .interrupted => .error .interrupted
  | .ok (.failed l) => .error (.link l)
  | .ok (.response response) =>
    if isError response.status then
      match response.text? with
      | none => .error .unmarkedText
      | some text =>
        .error (.failure (.api (failureKind response.status) (failureReport response.status text)
          (some (Int.ofNat response.status)) (some (endpoint r))))
    else .ok response

/-! ## Classes of status codes -/

theorem isError_of_isUnavailable {status : Nat} (h : isUnavailable status = true) : isError status = true := by
  simp only [isUnavailable, Bool.or_eq_true, beq_iff_eq] at h
  rcases h with (rfl | rfl) | rfl <;> decide

theorem not_isSuccess_of_isError {status : Nat} (h : isError status = true) : isSuccess status = false := by
  simp only [isError, decide_eq_true_eq] at h
  simp only [isSuccess, Bool.and_eq_false_iff, decide_eq_false_iff_not]
  omega

theorem responseFailure_eq_none {name : String} {response : Response} (h : isError response.status = false) :
    responseFailure name response = none := by
  simp [responseFailure, h]

theorem ending_response_of_isError (r : Request) {response : Response} (h : isError response.status = true) :
    ∃ e, responseFailure (endpoint r) response = some e ∧ ending r (.ok (.response response)) = .error e := by
  rw [responseFailure, ending, h]
  cases response.text? with
  | none => exact ⟨_, rfl, rfl⟩
  | some text => exact ⟨_, rfl, rfl⟩

/-- A transient result that is the last one ends the request with an error. -/
theorem exists_ending_of_isTransient (r : Request) {o : Result} (h : isTransient o = true) : ∃ e, ending r o = .error e := by
  match o, h with
  | .ok (.failed l), _ => exact ⟨.link l, rfl⟩
  | .ok (.response response), h =>
    obtain ⟨e, -, he⟩ := ending_response_of_isError r (isError_of_isUnavailable h)
    exact ⟨e, he⟩

/-! ## One attempt -/

@[simp] theorem send_pauses (server : Server σ) (x : Exchange σ δ) (r : Request) :
    (x.send server r).2.pauses = x.pauses :=
  rfl

@[simp] theorem wait_pauses (x : Exchange σ δ) (why : Log.Record) (pause : δ) :
    (x.wait why pause).pauses = x.pauses ++ [pause] :=
  rfl

theorem ask_eq (server : Server σ) (x : Exchange σ δ) (r : Request) :
    x.ask server r = (resultAt server r x.server 0, (x.send server r).2) := by
  simp only [Exchange.ask, Exchange.send, resultAt, answerAt, resultOf]
  cases (server.answer x.server r).1 <;> rfl

/-- The error that is remembered of a result, if it is one. -/
def failureOf (r : Request) (o : Result) : Option CallError :=
  match ending r o with
  | .error e => some e
  | .ok _ => none

theorem failureOf_of_ending {r : Request} {o : Result} {e : CallError} (h : ending r o = .error e) :
    failureOf r o = some e := by
  rw [failureOf, h]

/-- A result that decides the request is its end. -/
theorem attempts_of_isDecisive (server : Server σ) (policy : Policy δ) (path : String) (r : Request) (number : Nat)
    (earlier : Option CallError) (left : Nat) (x : Exchange σ δ) (h : isDecisive (resultAt server r x.server 0) = true) :
    attempts server policy path r number earlier (left + 1) x =
      (ending r (resultAt server r x.server 0), (x.send server r).2) := by
  rw [attempts, ask_eq]
  match hr : resultAt server r x.server 0, h with
  | .error e, _ => rfl
  | .ok .interrupted, _ => rfl
  | .ok (.failed l), h =>
    simp only [isDecisive, isTransient, isPassedOver, Bool.not_false, Bool.and_true, Bool.not_eq_true'] at h
    simp [h, ending]
  | .ok (.response response), h =>
    simp only [isDecisive, isTransient, isPassedOver, Bool.and_eq_true, Bool.not_eq_true', Bool.and_eq_false_iff,
      Bool.not_eq_false'] at h
    obtain ⟨hUnavailable, hClass⟩ := h
    by_cases hError : isError response.status = true
    · obtain ⟨e, hFailure, hEnding⟩ := ending_response_of_isError r hError
      simp [not_isSuccess_of_isError hError, hFailure, hUnavailable, hEnding]
    · have hSuccess : isSuccess response.status = true := hClass.resolve_right hError
      simp [hSuccess, ending, hError]

/-- After any other result the attempts go on: a transient one is remembered, and a pause follows if an attempt is left. -/
theorem attempts_of_not_isDecisive (server : Server σ) (policy : Policy δ) (path : String) (r : Request) (number : Nat)
    (earlier : Option CallError) (left : Nat) (x : Exchange σ δ) (h : isDecisive (resultAt server r x.server 0) = false) :
    ∃ y : Exchange σ δ,
      attempts server policy path r number earlier (left + 1) x =
          attempts server policy path r (number + 1)
            (if isTransient (resultAt server r x.server 0) then failureOf r (resultAt server r x.server 0) else earlier) left y ∧
        y.server = (server.answer x.server r).2 ∧ y.requests = x.requests ++ [r] ∧
        y.pauses = x.pauses ++
          if isTransient (resultAt server r x.server 0) ∧ left ≠ 0 then [policy.pause number] else [] := by
  rw [attempts, ask_eq]
  match hr : resultAt server r x.server 0, h with
  | .ok (.failed l), h =>
    have hTransport : l.fault.isTransport = true := by
      simpa [isDecisive, isTransient, isPassedOver] using h
    by_cases hLeft : left = 0
    · exact ⟨(x.send server r).2, by simp [hTransport, hLeft, isTransient, failureOf, ending], rfl, rfl, by simp [hLeft]⟩
    · exact ⟨(x.send server r).2.wait (linkWarning policy path r number l) (policy.pause number),
        by simp [hTransport, hLeft, isTransient, failureOf, ending], rfl, rfl, by simp [hLeft, isTransient, hTransport]⟩
  | .ok (.response response), h =>
    by_cases hUnavailable : isUnavailable response.status = true
    · have hError := isError_of_isUnavailable hUnavailable
      obtain ⟨e, hFailure, hEnding⟩ := ending_response_of_isError r hError
      by_cases hLeft : left = 0
      · refine ⟨(x.send server r).2, ?_, rfl, rfl, by simp [hLeft]⟩
        simp [not_isSuccess_of_isError hError, hFailure, hLeft, isTransient, hUnavailable, failureOf_of_ending hEnding, attempts]
      · refine ⟨(x.send server r).2.wait (statusWarning policy path r number response.status) (policy.pause number),
          ?_, rfl, rfl, by simp [hLeft, isTransient, hUnavailable]⟩
        simp [not_isSuccess_of_isError hError, hFailure, hLeft, isTransient, hUnavailable, failureOf_of_ending hEnding]
    · have hClass : isSuccess response.status = false ∧ isError response.status = false := by
        simpa [isDecisive, isTransient, isPassedOver, hUnavailable] using h
      refine ⟨(x.send server r).2, ?_, rfl, rfl, by simp [isTransient, hUnavailable]⟩
      simp [hClass.1, responseFailure_eq_none hClass.2, isTransient, hUnavailable]

/-! ## All attempts -/

/-- The error that is remembered after the first results, of which the last transient one counts. -/
def remembered (r : Request) (results : Nat → Result) (earlier : Option CallError) : Nat → Option CallError
  | 0 => earlier
  | n + 1 => if isTransient (results n) then failureOf r (results n) else remembered r results earlier n

/-- The pauses that the first results make, the first of which is the result of the attempt of the given number. -/
def pausesAfter (policy : Policy δ) (results : Nat → Result) (number n : Nat) : List δ :=
  ((List.range n).filter fun i => isTransient (results i)).map fun i => policy.pause (number + i)

theorem remembered_succ_first (r : Request) (results : Nat → Result) (earlier : Option CallError) (n : Nat) :
    remembered r results earlier (n + 1) =
      remembered r (fun i => results (i + 1))
        (if isTransient (results 0) then failureOf r (results 0) else earlier) n := by
  induction n with
  | zero => rfl
  | succ n ih =>
    rw [remembered, ih]
    rfl

@[simp] theorem pausesAfter_zero (policy : Policy δ) (results : Nat → Result) (number : Nat) :
    pausesAfter policy results number 0 = [] :=
  rfl

theorem pausesAfter_succ_first (policy : Policy δ) (results : Nat → Result) (number n : Nat) :
    pausesAfter policy results number (n + 1) =
      (if isTransient (results 0) then [policy.pause number] else []) ++
        pausesAfter policy (fun i => results (i + 1)) (number + 1) n := by
  have hLater : (fun i => policy.pause (number + i)) ∘ Nat.succ = fun i => policy.pause (number + 1 + i) := by
    funext i
    simp only [Function.comp_apply, Nat.succ_eq_add_one]
    congr 1
    omega
  rw [pausesAfter, pausesAfter, List.range_succ_eq_map, List.filter_cons, List.filter_map]
  by_cases h : isTransient (results 0) = true
  · simp only [h, if_true, List.map_cons, List.map_map, hLater, Nat.add_zero, List.singleton_append]
    rfl
  · simp only [h, if_false, List.map_map, hLater, List.nil_append, Bool.false_eq_true]
    rfl

/-- The first result that decides ends the request, if it comes in time. -/
theorem attempts_decided (server : Server σ) (policy : Policy δ) (path : String) (r : Request) :
    ∀ (j number : Nat) (earlier : Option CallError) (left : Nat) (x : Exchange σ δ), j < left →
      (∀ i < j, isDecisive (resultAt server r x.server i) = false) →
      isDecisive (resultAt server r x.server j) = true →
      let run := attempts server policy path r number earlier left x
      run.1 = ending r (resultAt server r x.server j) ∧
        run.2.requests = x.requests ++ List.replicate (j + 1) r ∧
        run.2.pauses = x.pauses ++ pausesAfter policy (resultAt server r x.server) number j := by
  intro j
  induction j with
  | zero =>
    intro number earlier left x hLeft _ hDecisive
    obtain ⟨left, rfl⟩ := Nat.exists_eq_add_one_of_ne_zero (Nat.ne_of_gt hLeft)
    rw [attempts_of_isDecisive _ _ _ _ _ _ _ _ hDecisive]
    exact ⟨rfl, rfl, by simp⟩
  | succ j ih =>
    intro number earlier left x hLeft hBefore hDecisive
    obtain ⟨left, rfl⟩ := Nat.exists_eq_add_one_of_ne_zero (Nat.ne_of_gt (Nat.lt_of_le_of_lt (Nat.zero_le _) hLeft))
    obtain ⟨y, hStep, hServer, hRequests, hPauses⟩ :=
      attempts_of_not_isDecisive server policy path r number earlier left x (hBefore 0 (Nat.succ_pos j))
    -- the attempts that follow see the same results, each under a number less
    have hShift : resultAt server r y.server = fun i => resultAt server r x.server (i + 1) := by
      rw [hServer]
      rfl
    obtain ⟨hEnd, hSent, hPaused⟩ := ih (number + 1)
      (if isTransient (resultAt server r x.server 0) then failureOf r (resultAt server r x.server 0) else earlier) left y
      (Nat.lt_of_succ_lt_succ hLeft)
      (fun i hi => by rw [hShift]; exact hBefore (i + 1) (Nat.succ_lt_succ hi))
      (by rw [hShift]; exact hDecisive)
    have hLeftPos : left ≠ 0 := by omega
    refine ⟨?_, ?_, ?_⟩
    · rw [hStep, hEnd, hShift]
    · rw [hStep, hSent, hRequests, List.replicate_succ (n := j + 1), List.append_assoc, List.singleton_append]
    · rw [hStep, hPaused, hPauses, hShift, pausesAfter_succ_first, List.append_assoc]
      simp [hLeftPos]

/-- Without a result that decides, the request ends with the last error that is remembered. -/
theorem attempts_exhausted (server : Server σ) (policy : Policy δ) (path : String) (r : Request) :
    ∀ (left number : Nat) (earlier : Option CallError) (x : Exchange σ δ),
      (∀ i < left, isDecisive (resultAt server r x.server i) = false) →
      let run := attempts server policy path r number earlier left x
      run.1 = .error ((remembered r (resultAt server r x.server) earlier left).getD .nothingHappened) ∧
        run.2.requests = x.requests ++ List.replicate left r ∧
        run.2.pauses = x.pauses ++ pausesAfter policy (resultAt server r x.server) number (left - 1) := by
  intro left
  induction left with
  | zero =>
    intro number earlier x _
    exact ⟨rfl, by simp [attempts], by simp [attempts]⟩
  | succ left ih =>
    intro number earlier x hNone
    obtain ⟨y, hStep, hServer, hRequests, hPauses⟩ :=
      attempts_of_not_isDecisive server policy path r number earlier left x (hNone 0 (Nat.succ_pos left))
    have hShift : resultAt server r y.server = fun i => resultAt server r x.server (i + 1) := by
      rw [hServer]
      rfl
    obtain ⟨hEnd, hSent, hPaused⟩ := ih (number + 1)
      (if isTransient (resultAt server r x.server 0) then failureOf r (resultAt server r x.server 0) else earlier) y
      (fun i hi => by rw [hShift]; exact hNone (i + 1) (Nat.succ_lt_succ hi))
    refine ⟨?_, ?_, ?_⟩
    · rw [hStep, hEnd, hShift, remembered_succ_first]
    · rw [hStep, hSent, hRequests, List.replicate_succ, List.append_assoc, List.singleton_append]
    · rw [hStep, hPaused, hPauses, hShift, Nat.add_sub_cancel]
      cases left with
      | zero => simp
      | succ left =>
        rw [Nat.add_sub_cancel, pausesAfter_succ_first, List.append_assoc]
        simp

/-! ## The last attempt -/

/-- The first number below the limit that stops, or the limit. -/
def lastOf (stops : Nat → Bool) (limit : Nat) : Nat := ((List.range limit).find? stops).getD limit

theorem lastOf_le (stops : Nat → Bool) (limit : Nat) : lastOf stops limit ≤ limit := by
  cases h : (List.range limit).find? stops with
  | none => simp [lastOf, h]
  | some i =>
    have hi : i < limit := List.mem_range.mp (List.find?_range_eq_some.mp h).2.1
    simpa [lastOf, h] using Nat.le_of_lt hi

theorem not_stops_of_lt_lastOf {stops : Nat → Bool} {limit i : Nat} (hi : i < lastOf stops limit) : stops i = false := by
  cases h : (List.range limit).find? stops with
  | none =>
    have hLimit : i < limit := by simpa [lastOf, h] using hi
    simpa using List.find?_range_eq_none.mp h i hLimit
  | some j =>
    have hj : i < j := by simpa [lastOf, h] using hi
    simpa using (List.find?_range_eq_some.mp h).2.2 i hj

theorem stops_lastOf_of_lt {stops : Nat → Bool} {limit : Nat} (h : lastOf stops limit < limit) :
    stops (lastOf stops limit) = true := by
  cases hFound : (List.range limit).find? stops with
  | none => simp [lastOf, hFound] at h
  | some j => simpa [lastOf, hFound] using (List.find?_range_eq_some.mp hFound).1

theorem lastOf_congr {stops stops' : Nat → Bool} {limit : Nat} (h : ∀ i < limit, stops i = stops' i) :
    lastOf stops limit = lastOf stops' limit := by
  rw [lastOf, lastOf, List.find?_congr fun i hi => h i (List.mem_range.mp hi)]

/-- A request ends with the first result that decides. Without one in time, all attempts are made, and the request ends with the last
error that is remembered. -/
theorem request_lastOf (server : Server σ) (policy : Policy δ) (path : String) (r : Request) (retries : Nat)
    (x : Exchange σ δ) (hAttempts : policy.attempts = retries + 1) :
    let results := resultAt server r x.server
    let last := lastOf (fun i => isDecisive (results i)) retries
    let run := request server policy path r x
    (run.1 = if isDecisive (results last) then ending r (results last)
      else .error ((remembered r results none (retries + 1)).getD .nothingHappened)) ∧
    run.2.requests = x.requests ++ List.replicate (last + 1) r ∧
      run.2.pauses = x.pauses ++ pausesAfter policy results 0 last := by
  intro results last
  have hBefore : ∀ i < last, isDecisive (results i) = false := fun i hi => not_stops_of_lt_lastOf hi
  rw [request, hAttempts]
  by_cases hDecisive : isDecisive (results last) = true
  · rw [if_pos hDecisive]
    exact attempts_decided server policy path r last 0 none (retries + 1) x (Nat.lt_succ_of_le (lastOf_le _ _)) hBefore hDecisive
  · have hLast : last = retries := by
      refine Nat.le_antisymm (lastOf_le _ _) (Nat.not_lt.mp fun hlt => hDecisive ?_)
      exact stops_lastOf_of_lt hlt
    rw [if_neg hDecisive]
    have hNone : ∀ i < retries + 1, isDecisive (results i) = false := by
      intro i hi
      rcases Nat.lt_succ_iff_lt_or_eq.mp hi with hlt | rfl
      · exact hBefore i (hLast ▸ hlt)
      · exact hLast ▸ Bool.eq_false_iff.mpr hDecisive
    rw [hLast]
    exact attempts_exhausted server policy path r (retries + 1) 0 none x hNone

/-- A request for the identifier of a network. -/
def sampleRequest : Request :=
  { method := .get
    url := { scheme := "http".toList, host := "localhost".toList, path := "/api/ransim/v1/plmnid".toList }
    authorization := none, body := "" }

end RanConsole.Client

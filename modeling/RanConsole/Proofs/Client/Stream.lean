import RanConsole.Client.Connection
import RanConsole.Proofs.Client.Transcript
import RanConsole.Proofs.Results
import RanConsole.Proofs.Text.Utf8

/-!
# What a stream delivers

A stream sends its request once. The values of its lines are those in front of the first line that fails, in their order, and that line
is its failure (`readLines_takesGood`). A stream whose request fails, or is answered with an error, delivers nothing.
-/

namespace RanConsole.Client

open Http

variable {σ α : Type}

/-! ## Results in front of a failure -/

/-- The values are those of the results in front of the first failure, and that failure is the given one, if there is any. -/
def TakesGood (results : List (Except CallError α)) (values : List α) (failure : Option CallError) : Prop :=
  ∃ rest, results = values.map .ok ++ rest ∧ rest.head? = failure.map .error

theorem TakesGood.nil : TakesGood ([] : List (Except CallError α)) [] none := ⟨[], rfl, rfl⟩

theorem TakesGood.failed (e : CallError) (rest : List (Except CallError α)) : TakesGood (.error e :: rest) [] (some e) :=
  ⟨.error e :: rest, rfl, rfl⟩

theorem TakesGood.cons (v : α) {results : List (Except CallError α)} {values : List α} {failure : Option CallError}
    (h : TakesGood results values failure) : TakesGood (.ok v :: results) (v :: values) failure := by
  obtain ⟨rest, hResults, hRest⟩ := h
  exact ⟨rest, by rw [hResults]; rfl, hRest⟩

/-- What comes behind the first failure does not matter. -/
theorem TakesGood.unique {results : List (Except CallError α)} {values values' : List α} {failure failure' : Option CallError}
    (h : TakesGood results values failure) (h' : TakesGood results values' failure') : values' = values ∧ failure' = failure := by
  obtain ⟨rest, rfl, hRest⟩ := h
  obtain ⟨rest', hResults, hRest'⟩ := h'
  induction values generalizing values' with
  | nil =>
    cases values' with
    | nil =>
      obtain rfl : rest = rest' := hResults
      rw [hRest] at hRest'
      cases failure <;> cases failure' <;> simp_all
    | cons v values' =>
      rw [List.map_nil, List.nil_append] at hResults
      rw [hResults] at hRest
      cases failure <;> simp at hRest
  | cons v values ih =>
    cases values' with
    | nil =>
      rw [List.map_nil, List.nil_append] at hResults
      rw [← hResults] at hRest'
      cases failure' <;> simp at hRest'
    | cons v' values' =>
      simp only [List.map_cons, List.cons_append, List.cons.injEq, Except.ok.injEq] at hResults
      obtain ⟨hValues, hFailure⟩ := ih hResults.2
      exact ⟨by rw [hResults.1, hValues], hFailure⟩

/-! ## Lines -/

/-- The results of the lines of a text that hold more than blanks. -/
def lineResults (read : List Char → Except CallError α) (lines : List (List Char)) : List (Except CallError α) :=
  (lines.filter fun line => !Text.isBlankText line).map read

section

variable {read : List Char → Except CallError α}

theorem readLines_of_blank (read : List Char → Except CallError α) {line : List Char} (rest : List (List Char))
    (h : Text.isBlankText line = true) : readLines read none (line :: rest) = readLines read none rest := by
  rw [readLines, if_neg (by simp), if_pos h]

theorem readLines_of_error {line : List Char} {e : CallError} (rest : List (List Char)) (hBlank : ¬ Text.isBlankText line = true)
    (h : read line = .error e) : readLines read none (line :: rest) = ([], some e) := by
  rw [readLines, if_neg (by simp), if_neg hBlank, h]

theorem readLines_of_ok {line : List Char} {v : α} (rest : List (List Char)) (hBlank : ¬ Text.isBlankText line = true)
    (h : read line = .ok v) :
    readLines read none (line :: rest) = (v :: (readLines read none rest).1, (readLines read none rest).2) := by
  rw [readLines, if_neg (by simp), if_neg hBlank, h]
  rfl

/-- Without a limit the values of the lines in front of the first one that fails are read. -/
theorem readLines_takesGood (read : List Char → Except CallError α) (lines : List (List Char)) :
    TakesGood (lineResults read lines) (readLines read none lines).1 (readLines read none lines).2 := by
  induction lines with
  | nil => exact .nil
  | cons line lines ih =>
    by_cases hBlank : Text.isBlankText line = true
    · rw [lineResults, List.filter_cons_of_neg (by simpa using hBlank), readLines_of_blank read lines hBlank]
      exact ih
    · rw [lineResults, List.filter_cons_of_pos (by simpa using hBlank), List.map_cons]
      cases hLine : read line with
      | error e =>
        rw [readLines_of_error lines hBlank hLine]
        exact .failed e _
      | ok v =>
        rw [readLines_of_ok lines hBlank hLine]
        exact ih.cons v

/-- However many values are wanted of lines, each is that of a line. -/
theorem exists_of_mem_readLines {limit : Option Nat} {lines : List (List Char)} {a : α} (h : a ∈ (readLines read limit lines).1) :
    ∃ line ∈ lines, read line = .ok a := by
  induction lines generalizing limit with
  | nil => cases h
  | cons line lines ih =>
    have hLater : ∀ {limit : Option Nat}, a ∈ (readLines read limit lines).1 → ∃ l ∈ line :: lines, read l = .ok a := by
      intro limit h
      obtain ⟨l, hl, hValue⟩ := ih h
      exact ⟨l, List.mem_cons_of_mem _ hl, hValue⟩
    rw [readLines] at h
    split at h
    · cases h
    · split at h
      · exact hLater h
      · split at h
        · cases h
        · rename_i b hLine
          rcases List.mem_cons.mp h with rfl | h
          · exact ⟨line, List.mem_cons_self .., hLine⟩
          · exact hLater h

/-- Lines give values alone if each of them does that holds more than blanks. -/
theorem readLines_eq_none_iff (read : List Char → Except CallError α) (lines : List (List Char)) :
    (readLines read none lines).2 = none ↔ ∀ o ∈ lineResults read lines, o.isOk = true := by
  obtain ⟨rest, hResults, hRest⟩ := readLines_takesGood read lines
  constructor
  · intro hNone o ho
    rw [hNone, Option.map_none, List.head?_eq_none_iff] at hRest
    rw [hResults, hRest, List.append_nil] at ho
    obtain ⟨v, -, rfl⟩ := List.mem_map.mp ho
    rfl
  · intro hAll
    cases hFailure : (readLines read none lines).2 with
    | none => rfl
    | some e =>
      rw [hFailure] at hRest
      have hError := hAll (.error e) (by rw [hResults]; exact List.mem_append_right _ (List.mem_of_head? hRest))
      cases hError

/-- What ends lines is a failure of one of them. -/
theorem exists_of_takesGood {lines : List (List Char)} {values : List α} {e : CallError}
    (h : TakesGood (lineResults read lines) values (some e)) : ∃ line ∈ lines, read line = .error e := by
  obtain ⟨rest, hResults, hRest⟩ := h
  have hMem : Except.error e ∈ lineResults read lines := by
    rw [hResults]
    exact List.mem_append_right _ (List.mem_of_head? hRest)
  obtain ⟨line, hLine, hError⟩ := List.mem_map.mp hMem
  exact ⟨line, List.mem_of_mem_filter hLine, hError⟩

end

/-- The lines are to blame for their failures: none of them is reported to the user, and none is an interruption. -/
def BlamesLines (read : List Char → Except CallError α) : Prop :=
  ∀ line e, read line = .error e → e.reported? = none ∧ e ≠ .interrupted

theorem BlamesLines.of_takesGood {read : List Char → Except CallError α} (h : BlamesLines read) {lines : List (List Char)}
    {values : List α} {e : CallError} (hTakes : TakesGood (lineResults read lines) values (some e)) :
    e.reported? = none ∧ e ≠ .interrupted := by
  obtain ⟨line, -, hLine⟩ := exists_of_takesGood hTakes
  exact h line e hLine

theorem BlamesLines.of_readLines {read : List Char → Except CallError α} (h : BlamesLines read) {lines : List (List Char)}
    {e : CallError} (hFailure : (readLines read none lines).2 = some e) : e.reported? = none ∧ e ≠ .interrupted := by
  have hTakes := readLines_takesGood read lines
  rw [hFailure] at hTakes
  exact h.of_takesGood hTakes

/-! ## Values of lines -/

variable {check : Json → Validation.Checked α} {line : List Char} {how : Json.Reading}

/-- A line with a value that is accepted. -/
theorem readLine_ok {a : α} (h : readLine check line how = .ok a) : ∃ v, Json.readChars line how = .ok v ∧ check v = .ok a := by
  obtain ⟨v, hText, hValue⟩ := ok_bind h
  exact ⟨v, ok_mapError hText, ok_mapError hValue⟩

/-- The failure of a line is one of its text or of its value. -/
theorem readLine_error {e : CallError} (h : readLine check line how = .error e) :
    (∃ fault, e = .unreadable fault) ∨ ∃ violations, e = .invalid violations := by
  rcases error_bind h with hText | ⟨v, -, hValue⟩
  · obtain ⟨fault, -, rfl⟩ := error_mapError hText
    exact .inl ⟨fault, rfl⟩
  · obtain ⟨violations, -, rfl⟩ := error_mapError hValue
    exact .inr ⟨violations, rfl⟩

theorem blamesLines_readLine (check : Json → Validation.Checked α) (how : Json.Reading) :
    BlamesLines fun line => readLine check line how := by
  intro line e h
  rcases readLine_error h with ⟨fault, rfl⟩ | ⟨violations, rfl⟩ <;> simp [CallError.reported?]

/-! ## Streams -/

/-- What a stream delivers with the result of its request. -/
def streamed (read : List Char → Except CallError α) (r : Request) : Result → List α × Option CallError
  | .error e => ([], some e)
  | .ok .interrupted => ([], some .interrupted)
  | .ok (.failed l) => ([], some (.link l))
  | .ok (.response response) =>
    match responseFailure (endpoint r) response, response.text? with
    | some e, _ => ([], some e)
    | none, none => ([], some .unmarkedText)
    | none, some text => readLines read none (Text.lines text)

/-- A stream that can be requested sends its request once, and makes no pause. -/
theorem stream_of_requestTo {server : Server σ} {c : Connection} {method : Method} {path : String} {query : Option String}
    {body : Option Json} {r : Request} (h : c.requestTo method path query body = .ok r) (read : List Char → Except CallError α)
    (x : Talk σ) :
    stream server c method path query body read none x =
      (streamed read r (resultAt server r x.server 0), (x.send server r).2) := by
  rw [stream, if_neg (by simp), h]
  simp only [ask_eq]
  match resultAt server r x.server 0 with
  | .error e => rfl
  | .ok .interrupted => rfl
  | .ok (.failed l) => rfl
  | .ok (.response response) =>
    simp only [streamed]
    cases responseFailure (endpoint r) response with
    | some e => rfl
    | none => cases response.text? <;> rfl

/-- All requests of a stream are the one that is asked for, however many of its values are wanted. -/
theorem requestTo_of_stream {server : Server σ} {c : Connection} {method : Method} {path : String} {query : Option String}
    {body : Option Json} {read : List Char → Except CallError α} {limit : Option Nat} {start : σ} {r : Request}
    (h : r ∈ (stream server c method path query body read limit (.start start)).2.requests) :
    c.requestTo method path query body = .ok r := by
  rw [stream] at h
  by_cases hLimit : limit = some 0
  · rw [if_pos hLimit] at h
    cases h
  · rw [if_neg hLimit] at h
    cases hRequest : c.requestTo method path query body with
    | error e =>
      rw [hRequest] at h
      cases h
    | ok r' =>
      have hSent : r ∈ ((Exchange.start start : Talk σ).send server r').2.requests := by
        rw [hRequest] at h
        simp only [ask_eq] at h
        repeat' split at h
        all_goals exact h
      rw [List.mem_singleton.mp hSent]

/-- What a stream delivers stands on lines. -/
theorem exists_of_mem_stream {server : Server σ} {c : Connection} {method : Method} {path : String} {query : Option String}
    {body : Option Json} {read : List Char → Except CallError α} {limit : Option Nat} {x : Talk σ} {a : α}
    (h : a ∈ (stream server c method path query body read limit x).1.1) :
    ∃ line, read line = .ok a := by
  rw [stream] at h
  split at h
  · cases h
  · split at h
    · cases h
    · simp only at h
      split at h
      · cases h
      · cases h
      · cases h
      · split at h
        · cases h
        · cases h
        · obtain ⟨line, -, hLine⟩ := exists_of_mem_readLines h
          exact ⟨line, hLine⟩

/-- The octets of a text are decoded as the text. -/
theorem decode?_encode (s : List Char) : Charset.utf8.decode? (Text.Utf8.encode s) = some s := by
  rw [Charset.decode?]
  cases hOctets : Text.Utf8.encode s with
  | nil =>
    have hDecoded := Text.Utf8.decodeFrom_encode s
    rw [hOctets] at hDecoded
    obtain rfl : s = [] := List.map_eq_nil_iff.mp hDecoded.symm
    rfl
  | cons b octets =>
    rw [← hOctets, if_neg (by rw [hOctets]; exact Bool.false_ne_true), Charset.characters?, Text.Utf8.decodeFrom_encode]
    simp [Function.comp_def]

theorem streamed_of_text (read : List Char → Except CallError α) (r : Request) {response : Response} {text : List Char}
    (hStatus : isError response.status = false) (hText : response.text? = some text) :
    streamed read r (.ok (.response response)) = readLines read none (Text.lines text) := by
  simp only [streamed, responseFailure_eq_none hStatus, hText]

theorem streamed_of_no_text (read : List Char → Except CallError α) (r : Request) {response : Response}
    (hStatus : isError response.status = false) (hText : response.text? = none) :
    streamed read r (.ok (.response response)) = ([], some .unmarkedText) := by
  simp only [streamed, responseFailure_eq_none hStatus, hText]

/-- A response with an error delivers nothing, and it is reported if its text can be read. -/
theorem streamed_of_isError (read : List Char → Except CallError α) (r : Request) {response : Response}
    (hStatus : isError response.status = true) :
    ∃ e, streamed read r (.ok (.response response)) = ([], some e) ∧
      if response.text?.isSome then e.reported?.isSome = true else e = .unmarkedText := by
  cases hText : response.text? with
  | none => exact ⟨.unmarkedText, by simp [streamed, responseFailure, hStatus, hText], rfl⟩
  | some text =>
    have hFailure : ∃ e, responseFailure (endpoint r) response = some e ∧ e.reported?.isSome = true := by
      simp [responseFailure, hStatus, hText, CallError.reported?]
    obtain ⟨e, hFailure, hReported⟩ := hFailure
    exact ⟨e, by rw [streamed, hFailure], hReported⟩

/-! ## Responses that are taken as they are -/

/-- A response that sends nowhere else is taken with its body unpacked, if the address of the request is of some kind. -/
theorem settled_of_not_redirect {r : Request} {raw : Response} (hTyped : r.url.isTyped = true)
    (hStatus : isRedirect raw.status = false) :
    settled r raw = match raw.unpacked with
      | .error f => .ok (.failed ⟨.decoding, f.message⟩)
      | .ok response => .ok (.response response) := by
  rw [settled]
  cases hUnpacked : raw.unpacked with
  | error f => rfl
  | ok response =>
    have hKept : isRedirect response.status = false := by rw [status_of_unpacked hUnpacked, hStatus]
    simp [settledUnpacked, hTyped, hKept]

theorem not_isRedirect_of_isSuccess {status : Nat} (h : isSuccess status = true) : isRedirect status = false := by
  simp only [isSuccess, Bool.and_eq_true, decide_eq_true_eq] at h
  simp only [isRedirect, List.contains_eq_mem, decide_eq_false_iff_not, List.mem_cons, List.not_mem_nil, or_false]
  omega

theorem not_isRedirect_of_isError {status : Nat} (h : isError status = true) : isRedirect status = false := by
  simp only [isError, decide_eq_true_eq] at h
  simp only [isRedirect, List.contains_eq_mem, decide_eq_false_iff_not, List.mem_cons, List.not_mem_nil, or_false]
  omega

/-- A response that sends nowhere else is taken with its body unpacked. -/
theorem settled_of_no_location {r : Request} {raw response : Response} (hTyped : r.url.isTyped = true)
    (h : isRedirect raw.status = false ∨ raw.location = none) (hUnpacked : raw.unpacked = .ok response) :
    settled r raw = .ok (.response response) := by
  rcases h with hStatus | hLocation
  · rw [settled_of_not_redirect hTyped hStatus, hUnpacked]
  · have hKept : response.location = none := by
      obtain ⟨body, -, rfl⟩ := ok_map hUnpacked
      exact hLocation
    simp [settled, hUnpacked, settledUnpacked, hTyped, hKept]

/-! ## What becomes of a response -/

/-- A failure that tells no status. -/
def isStatusless : CallError → Bool
  | .failure _ => false
  | _ => true

/-- A response that is not taken is a failure of the connection, or its address is refused. -/
theorem settled_cases (r : Request) (raw : Response) :
    (∃ response, settled r raw = .ok (.response response)) ∨ (∃ l, settled r raw = .ok (.failed l)) ∨
      ∃ e, settled r raw = .error e ∧ isStatusless e = true ∧ e ≠ .interrupted := by
  rw [settled]
  cases raw.unpacked with
  | error f => exact .inr (.inl ⟨_, rfl⟩)
  | ok response =>
    simp only [settledUnpacked]
    split
    · exact .inr (.inr ⟨_, rfl, rfl, by simp⟩)
    · split
      · exact .inl ⟨response, rfl⟩
      · rename_i location hLocation
        cases Url.parse location with
        | error f => exact .inr (.inl ⟨_, rfl⟩)
        | ok u =>
          simp only
          cases u.onHostOf r.url with
          | error f => exact .inr (.inr ⟨_, rfl, rfl, by simp⟩)
          | ok u => exact .inl ⟨response, rfl⟩

/-- What a stream delivers of a response to its request. -/
inductive Streamed (read : List Char → Except CallError α) (r : Request) (raw : Response) : List α × Option CallError → Prop
  /-- A response with an error and a text is told as one. -/
  | told {response : Response} {text : List Char} (hSettled : settled r raw = .ok (.response response))
    (hText : response.text? = some text) (hStatus : isError raw.status = true) :
    Streamed read r raw ([], some (.failure (.api (failureKind raw.status) (failureReport raw.status text)
      (some (Int.ofNat raw.status)) (some (endpoint r)))))
  /-- The lines of any other response with a text are read. -/
  | read {response : Response} {text : List Char} (hSettled : settled r raw = .ok (.response response))
    (hText : response.text? = some text) (hStatus : isError raw.status = false) :
    Streamed read r raw (readLines read none (Text.lines text))
  /-- A response without a text is lost. -/
  | lost {e : CallError} (hLost : ∀ response text, settled r raw = .ok (.response response) → response.text? ≠ some text)
    (hStatusless : isStatusless e = true) (hInterrupted : e ≠ .interrupted) : Streamed read r raw ([], some e)

theorem streamed_cases (read : List Char → Except CallError α) (r : Request) (raw : Response) :
    Streamed read r raw (streamed read r (settled r raw)) := by
  rcases settled_cases r raw with ⟨response, hSettled⟩ | ⟨l, hSettled⟩ | ⟨e, hSettled, hStatusless, hInterrupted⟩
  · have hSame := status_of_unpacked (unpacked_of_settled hSettled)
    rw [hSettled]
    cases hText : response.text? with
    | none =>
      have hLost : streamed read r (.ok (.response response)) = ([], some .unmarkedText) := by
        cases hStatus : isError response.status <;> simp [streamed, responseFailure, hStatus, hText]
      rw [hLost]
      refine .lost (fun response' text hSettled' => ?_) rfl (by simp)
      rw [hSettled] at hSettled'
      cases hSettled'
      rw [hText]
      exact Option.some_ne_none text |>.symm
    | some text =>
      cases hStatus : isError raw.status with
      | false =>
        rw [streamed_of_text read r (by rw [hSame, hStatus]) hText]
        exact .read hSettled hText hStatus
      | true =>
        simp only [streamed, responseFailure, hSame, hStatus, hText]
        exact .told hSettled hText hStatus
  · rw [hSettled]
    exact .lost (by simp [hSettled]) rfl (by simp)
  · rw [hSettled]
    exact .lost (by simp [hSettled]) hStatusless hInterrupted

end RanConsole.Client

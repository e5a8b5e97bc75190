import RanConsole.Client.TopologyService
import RanConsole.Proofs.Client.Stream
import RanConsole.Proofs.LabelOrder

/-!
# Calls to servers that answer alike

Two servers answer alike if they tell the same objects, or the same events, with the labels in different orders. What a call gives is alike
then: the objects of a listing, or none both times (`TopologyService.agree_list`), and what is read of the lines of a stream
(`TopologyService.forall₂_watchLines`).
-/

namespace RanConsole.Client

open Http RanConsole.Topology

variable {σ τ α β δ : Type}

/-! ## Values of listings -/

/-- Two values hold items that describe objects alike, in the same order. -/
inductive ItemsAlike : Json → Json → Prop
  | same (v : Json) : ItemsAlike v v
  | items {items items' : List Json} (h : List.Forall₂ Object.DescribedAlike items items') : ItemsAlike (.arr items) (.arr items')

/-- Two values list objects alike. They may differ in what else they hold. -/
inductive ListedAlike : Json → Json → Prop
  | same (v : Json) : ListedAlike v v
  | records {members members' : List (String × Json)}
    (h : ItemsAlike ((Mapping.get? "objects" members).getD (.arr [])) ((Mapping.get? "objects" members').getD (.arr []))) :
    ListedAlike (.obj members) (.obj members')

namespace TopologyService

theorem agree_itemsOf {v v' : Json} (h : ItemsAlike v v') :
    Agree (List.Forall₂ Object.DescribedAlike) (itemsOf v) (itemsOf v') := by
  cases h with
  | same => exact .refl (fun _ => List.forall₂_same.mpr fun item _ => .same item) _
  | items h => exact .ok h

/-- Values that list objects alike hold objects that are alike, or neither does. -/
theorem agree_objectsOf {v v' : Json} (h : ListedAlike v v') :
    Agree (List.Forall₂ Object.Alike) (objectsOf v) (objectsOf v') := by
  cases h with
  | same => exact .refl (fun _ => List.forall₂_same.mpr fun o _ => .refl o) _
  | records h =>
    exact (agree_itemsOf h).bind fun items items' hItems => .mapM (hItems.imp fun _ _ hItem => hItem.agree_ofJson.mapError)

end TopologyService

/-! ## Lines of streams -/

theorem TakesGood.of_cons_ok {v : α} {results : List (Except CallError α)} {values : List α} {failure : Option CallError}
    (h : TakesGood (.ok v :: results) values failure) : ∃ rest, values = v :: rest ∧ TakesGood results rest failure := by
  obtain ⟨left, hResults, hLeft⟩ := h
  cases values with
  | nil =>
    rw [List.map_nil, List.nil_append] at hResults
    rw [← hResults] at hLeft
    cases failure <;> cases hLeft
  | cons w values =>
    obtain ⟨hFirst, hRest⟩ := List.cons.inj hResults
    cases hFirst
    exact ⟨values, rfl, left, hRest, hLeft⟩

theorem TakesGood.of_cons_error {e : CallError} {results : List (Except CallError α)} {values : List α} {failure : Option CallError}
    (h : TakesGood (.error e :: results) values failure) : values = [] :=
  (h.unique (.failed e results)).1.symm

/-- The values in front of the first failure are related if all results agree. -/
theorem TakesGood.forall₂ {R : α → β → Prop} {results : List (Except CallError α)} {results' : List (Except CallError β)}
    (hAgree : List.Forall₂ (Agree R) results results') {values : List α} {values' : List β} {failure failure' : Option CallError}
    (h : TakesGood results values failure) (h' : TakesGood results' values' failure') : List.Forall₂ R values values' := by
  induction hAgree generalizing values values' with
  | nil =>
    obtain ⟨rfl, -⟩ := h.unique .nil
    obtain ⟨rfl, -⟩ := h'.unique .nil
    exact .nil
  | cons hHead _ ih =>
    cases hHead with
    | ok hFirst =>
      obtain ⟨rest, rfl, hRest⟩ := h.of_cons_ok
      obtain ⟨rest', rfl, hRest'⟩ := h'.of_cons_ok
      exact .cons hFirst (ih hRest hRest')
    | error =>
      rw [h.of_cons_error, h'.of_cons_error]
      exact .nil

/-- The lines of a text that hold more than blanks. -/
def toldLines (text : List Char) : List (List Char) := (Text.lines text).filter fun line => !Text.isBlankText line

/-- Two lines describe events alike, or neither can be read, however halves are read in them. -/
def LinesAlike (line line' : List Char) : Prop :=
  ∀ halves, Agree ObjectEvent.DescribedAlike (Json.readChars line { halves }) (Json.readChars line' { halves })

theorem LinesAlike.agree_readLine {line line' : List Char} (h : LinesAlike line line') (halves : Json.Halves) :
    Agree ObjectEvent.Alike (readLine ObjectEvent.ofJson line { halves }) (readLine ObjectEvent.ofJson line' { halves }) :=
  (h halves).mapError.bind fun _ _ hValue => hValue.agree_ofJson.mapError

/-- Two texts describe events alike on their lines, one after another. -/
def TextsAlike (text text' : List Char) : Prop := List.Forall₂ LinesAlike (toldLines text) (toldLines text')

/-- Readings of lines do not tell lines apart that describe events alike, but for what is related. -/
def AgreesOnAlike (R : α → α → Prop) (read : List Char → Except CallError α) : Prop :=
  ∀ line line', LinesAlike line line' → Agree R (read line) (read line')

theorem forall₂_readLines {R : α → α → Prop} {read : List Char → Except CallError α} (hRead : AgreesOnAlike R read)
    {text text' : List Char} (h : TextsAlike text text') :
    List.Forall₂ R (readLines read none (Text.lines text)).1 (readLines read none (Text.lines text')).1 := by
  refine TakesGood.forall₂ ?_ (readLines_takesGood _ _) (readLines_takesGood _ _)
  rw [lineResults, lineResults, List.forall₂_map_left_iff, List.forall₂_map_right_iff]
  exact h.imp hRead

/-! ## Responses -/

/-- Two unpacked responses have values that list objects alike, or neither has one, however halves are read in them. -/
def ValuesAlike (response response' : Response) : Prop :=
  ∀ halves, Agree ListedAlike (answerOf response { halves }) (answerOf response' { halves })

/-- Two responses of success list objects alike. -/
structure ListsAlike (raw raw' : Response) : Prop where
  success : isSuccess raw.status = true
  success' : isSuccess raw'.status = true
  values : Agree ValuesAlike raw.unpacked raw'.unpacked

/-- A response whose lines are told: it has no status of an error and sends the program nowhere else. -/
structure IsTold (raw : Response) : Prop where
  status : isError raw.status = false
  stays : isRedirect raw.status = false ∨ raw.location = none

/-- Two responses tell events alike. -/
structure TellsAlike (raw raw' : Response) : Prop where
  told : IsTold raw
  told' : IsTold raw'
  texts : Agree (fun response response' => Option.Rel TextsAlike response.text? response'.text?) raw.unpacked raw'.unpacked

/-- Two outcomes of a request are the same, or they are responses that list objects, or tell events, alike. -/
inductive OutcomesAlike : (watch : Bool) → Outcome → Outcome → Prop
  | same {watch : Bool} (o : Outcome) : OutcomesAlike watch o o
  | listed {raw raw' : Response} (h : ListsAlike raw raw') : OutcomesAlike false (.response raw) (.response raw')
  | told {raw raw' : Response} (h : TellsAlike raw raw') : OutcomesAlike true (.response raw) (.response raw')

/-- Two servers answer each request alike, however often it is sent. -/
def AnswerAlike (watch : Bool) (server : Server σ) (start : σ) (server' : Server τ) (start' : τ) : Prop :=
  ∀ r n, OutcomesAlike watch (answerAt server r start n) (answerAt server' r start' n)

/-- What becomes of a response that sends nowhere else. -/
theorem settled_of_stays (r : Request) {raw : Response} (h : isRedirect raw.status = false ∨ raw.location = none) :
    settled r raw = match raw.unpacked with
      | .error f => .ok (.failed ⟨.decoding, f.message⟩)
      | .ok response => if r.url.isTyped then .ok (.response response) else .error (.untypedAddress r.url.text) := by
  cases hUnpacked : raw.unpacked with
  | error f => rw [settled, hUnpacked]
  | ok response =>
    by_cases hTyped : r.url.isTyped = true
    · rw [settled_of_no_location hTyped h hUnpacked]
      exact (if_pos hTyped).symm
    · simp [settled, hUnpacked, settledUnpacked, hTyped]

/-! ## Calls -/

/-- Responses that list objects alike decide a request, which comes to values that are alike. -/
theorem ListsAlike.agree_ending {raw raw' : Response} (h : ListsAlike raw raw') (r : Request) :
    isDecisive (settled r raw) = true ∧ isDecisive (settled r raw') = true ∧
      Agree ValuesAlike (ending r (settled r raw)) (ending r (settled r raw')) := by
  have hValues := h.values
  rw [settled_of_stays r (.inl (not_isRedirect_of_isSuccess h.success)),
    settled_of_stays r (.inl (not_isRedirect_of_isSuccess h.success'))]
  cases hUnpacked : raw.unpacked <;> cases hUnpacked' : raw'.unpacked <;> rw [hUnpacked, hUnpacked'] at hValues <;> cases hValues
  · exact ⟨rfl, rfl, .error ..⟩
  · rename_i response response' hValues
    by_cases hTyped : r.url.isTyped = true
    · obtain ⟨hDecisive, hEnding⟩ := ending_of_isSuccess r (status_of_unpacked hUnpacked ▸ h.success)
      obtain ⟨hDecisive', hEnding'⟩ := ending_of_isSuccess r (status_of_unpacked hUnpacked' ▸ h.success')
      simp only [hTyped, if_true, hDecisive, hDecisive', hEnding, hEnding', true_and]
      exact .ok hValues
    · simp only [hTyped, if_false, Bool.false_eq_true]
      exact ⟨rfl, rfl, .error ..⟩

/-- Outcomes that list objects alike decide a request, which comes to values that are alike, or they are the same. -/
theorem decided_or_eq {o o' : Outcome} (h : OutcomesAlike false o o') (r : Request) :
    (isDecisive (resultOf r o) = true ∧ isDecisive (resultOf r o') = true ∧
      Agree ValuesAlike (ending r (resultOf r o)) (ending r (resultOf r o'))) ∨
      o' = o ∧ isDecisive (resultOf r o) = false := by
  cases h with
  | listed h => exact .inl (h.agree_ending r)
  | same =>
    cases hDecisive : isDecisive (resultOf r o) with
    | true => exact .inl ⟨rfl, rfl, .refl (fun _ _ => .refl ListedAlike.same _) _⟩
    | false => exact .inr ⟨rfl, rfl⟩

/-- The attempts of a request at servers that answer it alike come to values that are alike. -/
theorem agree_attempts {server : Server σ} {server' : Server τ} {policy : Policy δ} {path : String} {r : Request} {left number : Nat}
    {earlier : Option CallError} {x : Exchange σ δ} {y : Exchange τ δ}
    (h : ∀ n, OutcomesAlike false (answerAt server r x.server n) (answerAt server' r y.server n)) :
    Agree ValuesAlike (attempts server policy path r number earlier left x).1
      (attempts server' policy path r number earlier left y).1 := by
  induction left generalizing number earlier x y with
  | zero => exact .error ..
  | succ left ih =>
    rcases decided_or_eq (h 0) r with ⟨hDecisive, hDecisive', hEnding⟩ | ⟨hSame, hGoesOn⟩
    · rw [attempts_of_isDecisive _ _ _ _ _ _ _ _ hDecisive, attempts_of_isDecisive _ _ _ _ _ _ _ _ hDecisive']
      exact hEnding
    · have hResult : resultAt server' r y.server 0 = resultAt server r x.server 0 := congrArg (resultOf r) hSame
      obtain ⟨x', hStep, hServer, -⟩ := attempts_of_not_isDecisive server policy path r number earlier left x hGoesOn
      obtain ⟨y', hStep', hServer', -⟩ :=
        attempts_of_not_isDecisive server' policy path r number earlier left y (hResult ▸ hGoesOn)
      rw [hStep, hStep', hResult]
      -- the attempts that follow are answered alike, each under a number less
      exact ih fun n => by rw [hServer, hServer']; exact h (n + 1)

section

variable {R : α → α → Prop} (hRefl : ∀ a, R a a) {read : List Char → Except CallError α} (hRead : AgreesOnAlike R read)
include hRefl hRead

/-- A stream gives what is related for outcomes that are alike. -/
theorem forall₂_streamed (r : Request) {o o' : Outcome} (h : OutcomesAlike true o o') :
    List.Forall₂ R (streamed read r (resultOf r o)).1 (streamed read r (resultOf r o')).1 := by
  cases h with
  | same => exact List.forall₂_same.mpr fun a _ => hRefl a
  | @told raw raw' h =>
    have hTexts := h.texts
    rw [resultOf, resultOf, settled_of_stays r h.told.stays, settled_of_stays r h.told'.stays]
    cases hUnpacked : raw.unpacked <;> cases hUnpacked' : raw'.unpacked <;> rw [hUnpacked, hUnpacked'] at hTexts <;> cases hTexts
    · exact .nil
    · rename_i response response' hTexts
      by_cases hTyped : r.url.isTyped = true
      · have hStatus : isError response.status = false := by rw [status_of_unpacked hUnpacked, h.told.status]
        have hStatus' : isError response'.status = false := by rw [status_of_unpacked hUnpacked', h.told'.status]
        simp only [hTyped, if_true]
        cases hText : response.text? <;> cases hText' : response'.text? <;> rw [hText, hText'] at hTexts <;> cases hTexts
        · rw [streamed_of_no_text _ r hStatus hText, streamed_of_no_text _ r hStatus' hText']
          exact .nil
        · rw [streamed_of_text _ r hStatus hText, streamed_of_text _ r hStatus' hText']
          exact forall₂_readLines hRead ‹_›
      · simp only [hTyped, if_false, Bool.false_eq_true]
        exact .nil

/-- Servers that answer alike tell what is related. -/
theorem TopologyService.forall₂_watchLines {server : Server σ} {server' : Server τ} {start : σ} {start' : τ}
    (h : AnswerAlike true server start server' start') (c : Connection) (type : Query.ObjectType) (filters : Query.Filters)
    (noReplay : Bool) :
    List.Forall₂ R (watchLines server c type filters noReplay read none (.start start)).1.1
      (watchLines server' c type filters noReplay read none (.start start')).1.1 := by
  rw [watchLines, watchLines]
  cases hRequest : c.requestTo .post "/objects/watch" none
      (some (.obj (queryMembers type filters ++ [("noReplay", .bool noReplay)]))) with
  | error e =>
    rw [stream, stream, if_neg (by simp), if_neg (by simp), hRequest]
    exact .nil
  | ok r =>
    rw [stream_of_requestTo hRequest, stream_of_requestTo hRequest]
    exact forall₂_streamed hRefl hRead r (h r 0)

end

/-- Servers that answer alike list objects that are alike, or they list none both times. -/
theorem TopologyService.agree_list {server : Server σ} {server' : Server τ} {start : σ} {start' : τ}
    (h : AnswerAlike false server start server' start') (c : Connection) (type : Query.ObjectType) (filters : Query.Filters)
    (halves : Json.Halves) :
    Agree (List.Forall₂ Object.Alike) (list server c type filters (.start start) { halves }).1
      (list server' c type filters (.start start') { halves }).1 := by
  rw [list, list]
  cases hRequest : c.requestTo .post "/objects/list" none (some (.obj (queryMembers type filters))) with
  | error e =>
    rw [call_of_requestTo_error hRequest, call_of_requestTo_error hRequest]
    exact .error ..
  | ok r =>
    rw [call_of_requestTo hRequest, call_of_requestTo hRequest]
    have hAttempts : Agree ValuesAlike (request server c.policy "/objects/list" r (.start start)).1
        (request server' c.policy "/objects/list" r (.start start')).1 := agree_attempts (h r)
    exact (hAttempts.bind fun _ _ hValues => hValues halves).bind fun _ _ hListed => agree_objectsOf hListed

end RanConsole.Client

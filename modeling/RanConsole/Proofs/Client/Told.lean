import RanConsole.Proofs.Client.StreamCall
import RanConsole.Proofs.Json.OneLine
import RanConsole.Proofs.Text.Lines

/-!
# What a call is told on lines

A server tells a stream of messages, each on a line of its own. A call gives what the messages in front of the first one tell that does
not fit on its line, which ends it (`run_told`). So it gives all of them if and only if each fits on its line, which not every message
does (`run_told_lineSeparator_false`).
-/

namespace RanConsole.Client

open Http

variable {σ α β : Type}

/-! ## Messages -/

/-- A message: what it tells, and the value and the style in which it is written. -/
structure Message (α : Type) where
  told : α
  value : Json
  style : Json.Style := .compact

/-- The line of a message. -/
def Message.line (m : Message α) : List Char := m.value.print m.style 0

/-- A message tells something that a call asks for, on one line. -/
structure Message.IsFor (m : Message α) (call : StreamCall α β) : Prop where
  describes : call.Describes m.told m.value
  oneLine : m.style.IsOneLine
  plain : m.value.IsPlain
  depth : m.value.depth ≤ Json.maxDepth

/-- What is read of messages: those in front of the first one that does not fit on its line, which cannot be read. -/
structure Passes (view : α → β) (messages : List (Message α)) (delivered : List β × Option CallError) : Prop where
  values : delivered.1 = (messages.takeWhile (·.value.fitsLine)).map fun m => view m.told
  complete : delivered.2 = none ↔ ∀ m ∈ messages, m.value.fitsLine = true
  unreadable : ∀ e, delivered.2 = some e → ∃ fault, e = .unreadable fault

section

variable {view : α → β}

theorem Passes.nil : Passes view ([] : List (Message α)) ([], none) := ⟨rfl, by simp, nofun⟩

theorem Passes.cons {m : Message α} {messages : List (Message α)} {delivered : List β × Option CallError}
    (hFits : m.value.fitsLine = true) (h : Passes view messages delivered) :
    Passes view (m :: messages) (view m.told :: delivered.1, delivered.2) where
  values := by simp only [List.takeWhile_cons, hFits, if_true, List.map_cons, h.values]
  complete := by rw [h.complete, List.forall_mem_cons, and_iff_right hFits]
  unreadable := h.unreadable

theorem Passes.stopped {m : Message α} (messages : List (Message α)) (hFits : m.value.fitsLine = false) (fault : Json.ReadError) :
    Passes view (m :: messages) ([], some (.unreadable fault)) where
  values := by simp only [List.takeWhile_cons, hFits, Bool.false_eq_true, if_false, List.map_nil]
  complete := by simp [hFits]
  unreadable := fun _ he => ⟨fault, (Option.some.inj he).symm⟩

end

/-- A reading of lines gives a view of what a line tells whatever stands for halves, and fails on lines that are no values. -/
structure ViewsLines (check : Json → Validation.Checked α) (view : α → β) (read : List Char → Except CallError β) : Prop where
  ok : ∀ {line a}, (∀ standIn, readLine check line { halves := .standIn standIn } = .ok a) → read line = .ok (view a)
  error : ∀ {line}, (∀ standIn, ∃ fault, Json.readChars line { halves := .standIn standIn } = .error fault) →
    ∃ fault, read line = .error (.unreadable fault)

/-- No value is found on a line that is none. -/
theorem readLine_of_unreadable {check : Json → Validation.Checked α} {line : List Char} {how : Json.Reading} {fault : Json.ReadError}
    (h : Json.readChars line how = .error fault) : readLine check line how = .error (.unreadable fault) := by
  rw [readLine, h]
  rfl

theorem StreamCall.viewsLines_read (call : StreamCall α β) : ViewsLines call.check id (call.read {}) where
  ok h := h _
  error h := by
    obtain ⟨fault, hFault⟩ := h _
    exact ⟨fault, readLine_of_unreadable hFault⟩

/-! ## Lines of messages -/

section

variable {call : StreamCall α β} {m : Message α} (h : m.IsFor call)
include h

/-- The line of a message starts with a brace. -/
theorem exists_rest_line : ∃ rest, m.line = '\x7B' :: rest := by
  obtain ⟨members, hValue⟩ := StreamCall.exists_members_of_describes h.describes
  rw [Message.line, hValue, Json.print]
  cases Json.printMembers m.style (0 + 1) members <;> exact ⟨_, rfl⟩

/-- A front of a line is not blank, if what follows it is no brace. -/
theorem not_isBlankText_front {front back : List Char} (hLine : m.line = front ++ back) (hBack : back.head? ≠ some '\x7B') :
    Text.isBlankText front = false := by
  obtain ⟨rest, hRest⟩ := exists_rest_line h
  rw [hRest] at hLine
  cases front with
  | nil =>
    rw [List.nil_append] at hLine
    exact absurd (by rw [← hLine]; rfl) hBack
  | cons c front =>
    obtain rfl : '\x7B' = c := (List.cons.inj hLine).1
    rfl

theorem any_isLineEnd_line : m.line.any Text.isLineEnd = !m.value.isUnbroken := Json.any_isLineEnd_print h.oneLine h.plain 0

/-- The line of a message that fits on it is read as what the message tells. -/
theorem readLine_line (hFits : m.value.fitsLine = true) (standIn : Char) :
    readLine call.check m.line { halves := .standIn standIn } = .ok m.told := by
  have hShort := (Bool.and_eq_true_iff.mp hFits).2
  rw [readLine, Message.line, Json.readChars_print h.oneLine.spaced (Json.isExact_of_hasShortIntegers h.plain hShort) h.depth standIn 0]
  change (call.check m.value).mapError _ = _
  rw [StreamCall.check_of_describes h.describes]
  rfl

/-- The line of a message that does not fit on it is cut, or it cannot be read as a whole. -/
theorem exists_error_line (hFits : m.value.fitsLine = false) (s : List Char) :
    ∃ front, Text.lines (m.line ++ '\n' :: s) = front :: (Text.lines (m.line ++ '\n' :: s)).tail ∧
      Text.isBlankText front = false ∧ ∀ standIn, ∃ fault, Json.readChars front { halves := .standIn standIn } = .error fault := by
  rw [Json.fitsLine, Bool.and_eq_false_iff] at hFits
  have hEnds := any_isLineEnd_line h
  cases hUnbroken : m.value.isUnbroken with
  | true =>
    have hShort := hFits.resolve_left (by rw [hUnbroken]; exact nofun)
    rw [hUnbroken] at hEnds
    have hLines : Text.lines (m.line ++ '\n' :: s) = m.line :: Text.lines s := Text.lines_append_end hEnds (by decide) (by decide) s
    exact ⟨m.line, by rw [hLines]; rfl, not_isBlankText_front h (List.append_nil _).symm nofun, fun standIn =>
      Json.exists_error_of_not_hasShortIntegers h.oneLine.spaced h.plain.isFormed hShort 0 Json.maxDepth standIn⟩
  | false =>
    rw [hUnbroken] at hEnds
    obtain ⟨front, c, back, hLine, hFront, hEnd⟩ := Text.exists_first_end hEnds
    have hMem : c ∈ m.line := hLine ▸ List.mem_append_right _ (List.mem_cons_self ..)
    have hBare := Json.isBareEnd_of_mem_print h.oneLine h.plain hMem hEnd
    have hBrace : c ≠ '\x7B' := by rintro rfl; exact absurd hBare (by decide)
    have hReturn : c ≠ '\r' := by rintro rfl; exact absurd hBare (by decide)
    have hLines : Text.lines (m.line ++ '\n' :: s) = front :: Text.lines (back ++ '\n' :: s) := by
      rw [hLine, List.append_assoc, List.cons_append, Text.lines_append_end hFront hEnd hReturn]
    exact ⟨front, by rw [hLines]; rfl, not_isBlankText_front h hLine (by simpa using hBrace), fun standIn =>
      Json.exists_error_of_cut h.oneLine h.plain hLine hBare Json.maxDepth standIn⟩

end

/-- What is read of messages, each on a line of its own, with empty lines between them. -/
theorem readLines_fed {γ : Type} {call : StreamCall α β} {view : α → γ} {read : List Char → Except CallError γ}
    (hViews : ViewsLines call.check view read) {messages : List (Message α)} {rows : List (List Char)}
    (hRows : rows.filter (fun row => !row.isEmpty) = messages.map Message.line) (hFor : ∀ m ∈ messages, m.IsFor call) :
    Passes view messages (readLines read none (Text.lines (Text.fed rows))) := by
  induction rows generalizing messages with
  | nil =>
    obtain rfl : messages = [] := List.map_eq_nil_iff.mp hRows.symm
    exact .nil
  | cons row rows ih =>
    cases row with
    | nil =>
      rw [Text.lines_fed_cons rfl, readLines_of_blank _ _ rfl]
      exact ih hRows hFor
    | cons d row =>
      rw [List.filter_cons_of_pos rfl] at hRows
      obtain ⟨m, messages, rfl, hLine, hRest⟩ := List.map_eq_cons_iff.mp hRows.symm
      obtain ⟨hm, hMessages⟩ := List.forall_mem_cons.mp hFor
      rw [Text.fed_cons, ← hLine]
      cases hFits : m.value.fitsLine with
      | true =>
        have hUnbroken := (Bool.and_eq_true_iff.mp hFits).1
        have hEnds := any_isLineEnd_line hm
        rw [hUnbroken] at hEnds
        have hBlank := not_isBlankText_front hm (List.append_nil _).symm nofun
        rw [Text.lines_append_end hEnds (by decide) (by decide),
          readLines_of_ok _ (by rw [hBlank]; exact Bool.false_ne_true) (hViews.ok (readLine_line hm hFits))]
        exact (ih hRest.symm hMessages).cons hFits
      | false =>
        obtain ⟨front, hLines, hBlank, hUnreadable⟩ := exists_error_line hm hFits (Text.fed rows)
        obtain ⟨fault, hFault⟩ := hViews.error hUnreadable
        rw [hLines, readLines_of_error _ (by rw [hBlank]; exact Bool.false_ne_true) hFault]
        exact .stopped messages hFits fault

/-! ## Calls that are told messages -/

/-- A response that tells messages, each on a line of its own, with empty lines between them. -/
structure TellsOf (messages : List (Message α)) (rows : List (List Char)) (raw : Response) : Prop where
  lines : rows.filter (fun row => !row.isEmpty) = messages.map Message.line
  status : raw.status = 200
  charset : Charset.ofContentType raw.contentType = .utf8
  codings : raw.codings = []
  body : raw.body = Text.Utf8.encode (Text.fed rows)

/-- A response that tells messages is read as its lines. -/
theorem passes_streamed {γ : Type} {call : StreamCall α β} {view : α → γ} {read : List Char → Except CallError γ}
    (hViews : ViewsLines call.check view read) {messages : List (Message α)} {rows : List (List Char)} {raw : Response} {r : Request}
    (h : TellsOf messages rows raw) (hFor : ∀ m ∈ messages, m.IsFor call) (hTyped : r.url.isTyped = true) :
    Passes view messages (streamed read r (resultOf r (.response raw))) := by
  have hUnpacked : raw.unpacked = .ok raw := by
    obtain ⟨status, contentType, location, codings, body⟩ := raw
    obtain rfl : codings = [] := h.codings
    rfl
  have hSettled : resultOf r (.response raw) = .ok (.response raw) := by
    rw [resultOf, settled_of_not_redirect hTyped (by rw [h.status]; rfl), hUnpacked]
  have hText : raw.text? = some (Text.fed rows) := by
    rw [Response.text?, h.charset, h.body]
    exact decode?_encode _
  rw [hSettled, streamed_of_text _ _ (by rw [h.status]; rfl) hText]
  exact readLines_fed hViews h.lines hFor

/-- A call that is told messages sends its request once, and gives what the messages in front of the first one tell that does not fit on
its line. It gives all of them if and only if each fits; else a line that cannot be read ends the call. -/
theorem run_told {server : Server σ} {c : Connection} {call : StreamCall α β} {r : Request} {raw : Response}
    {messages : List (Message α)} {rows : List (List Char)} (hFor : ∀ m ∈ messages, m.IsFor call) (hRequest : call.request c = .ok r)
    (hTyped : r.url.isTyped = true) (x : Talk σ) (hAnswer : (server.answer x.server r).1 = .response raw)
    (hTells : TellsOf messages rows raw) :
    ∃ failure,
      call.run server c x =
        (((messages.takeWhile (·.value.fitsLine)).map fun m => call.view m.told, failure), (x.send server r).2) ∧
      (failure = none ↔ ∀ m ∈ messages, m.value.fitsLine = true) ∧ ∀ e, failure = some e → ∃ fault, e = .unreadable fault := by
  have hPasses := passes_streamed call.viewsLines_read hTells hFor hTyped
  refine ⟨_, ?_, hPasses.complete, hPasses.unreadable⟩
  rw [StreamCall.run_of_request hRequest, resultAt, answerAt, hAnswer, hPasses.values, List.map_map]
  rfl

/-- Events of objects as messages. -/
def objectMessages (events : List Topology.ObjectEvent) : List (Message Topology.ObjectEvent) :=
  events.map fun e => ⟨e, e.toMessage, .compact⟩

/-- Events of objects whose labels have different keys are messages for those who watch objects. -/
theorem isFor_objectMessages {events : List Topology.ObjectEvent} (h : ∀ e ∈ events, (Mapping.keys e.object.labels).Nodup)
    (type : Query.ObjectType) (filters : Query.Filters) (noReplay : Bool) :
    ∀ m ∈ objectMessages events, m.IsFor (.watchObjects type filters noReplay) := by
  intro m hm
  obtain ⟨e, he, rfl⟩ := List.mem_map.mp hm
  exact ⟨e.describes_toMessage, Json.Style.compact_isOneLine, Topology.ObjectEvent.isPlain_toMessage (h e he),
    Nat.le_trans e.depth_toMessage_le (by decide)⟩

/-- Two entities with labels. A label of the second one has a line separator in it. -/
def labelledEntities : List Topology.ObjectEvent :=
  [{ type := .added, object := { id := "1", labels := [("note", "said \"up\"\n\\"), ("ü", "✓")] } },
   { type := .added, object := { id := "2", labels := [("note", "a\u2028b")] } }]

/-- A response that tells of events of objects, with an empty line in front of each. -/
def objectResponse (events : List Topology.ObjectEvent) : Response :=
  { status := 200, body := Text.Utf8.encode (Text.fed ((objectMessages events).flatMap fun m => [[], m.line])) }

/-- Watching the two entities gives the first one and then fails. -/
theorem run_told_labels :
    let c : Connection := { service := TopologyService.path }
    let call : StreamCall Topology.ObjectEvent Topology.ObjectEvent := .watchObjects .entity {} false
    ∃ failure, (call.run (always (.response (objectResponse labelledEntities))) c (.start ())).1 =
      (labelledEntities.take 1, failure) ∧ failure ≠ none := by
  intro c call
  have hTyped : (call.request c).toOption.any (·.url.isTyped) = true := by decide +kernel
  cases hRequest : call.request c with
  | error e =>
    rw [hRequest] at hTyped
    cases hTyped
  | ok r =>
    rw [hRequest] at hTyped
    have hTells : TellsOf (objectMessages labelledEntities) ((objectMessages labelledEntities).flatMap fun m => [[], m.line])
        (objectResponse labelledEntities) := ⟨by decide +kernel, rfl, rfl, rfl, rfl⟩
    have hAnswer : ((always (.response (objectResponse labelledEntities))).answer () r).1 =
        .response (objectResponse labelledEntities) := rfl
    obtain ⟨failure, hRun, hComplete, -⟩ :=
      run_told (isFor_objectMessages (by decide) .entity {} false) hRequest hTyped (.start ()) hAnswer hTells
    have hTaken : ((objectMessages labelledEntities).takeWhile (·.value.fitsLine)).map (fun m => call.view m.told) =
        labelledEntities.take 1 := by decide +kernel
    have hLeft : ¬ ∀ m ∈ objectMessages labelledEntities, m.value.fitsLine = true := by decide +kernel
    rw [hTaken] at hRun
    exact ⟨failure, congrArg Prod.fst hRun, fun hNone => hLeft (hComplete.mp hNone)⟩

/-- Not every node that is told on a line is given: the first character that ends a line ends the line of its message too. -/
theorem run_told_lineSeparator_false :
    let n : Node := { enbid := 1, status := "a\u2028b" }
    let m : Message NodeEvent := ⟨{ node := n }, { node := n : NodeEvent }.toMessage, .compact⟩
    let raw : Response := { status := 200, body := Text.Utf8.encode (Text.fed [m.line]) }
    m.IsFor .listNodes ∧ TellsOf [m] [m.line] raw ∧
      (NodeService.list (always (.response raw)) { service := NodeService.path } none (.start ())).1.1 ≠ [n] := by
  intro n m raw
  have hEvent := NodeEvent.depth_toMessage_le { node := n }
  exact ⟨⟨NodeEvent.describes_toMessage _, Json.Style.compact_isOneLine, NodeEvent.isPlain_toMessage _,
    Nat.le_trans hEvent (by decide)⟩, ⟨by decide +kernel, rfl, rfl, rfl, rfl⟩, by decide +kernel⟩

end RanConsole.Client

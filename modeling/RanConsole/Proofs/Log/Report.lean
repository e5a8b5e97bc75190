import RanConsole.Log.Entry
import RanConsole.Proofs.Json.Floats
import RanConsole.Proofs.Json.Characters
import RanConsole.Proofs.Json.Room
import RanConsole.Proofs.Results

/-!
# What a JSON line reports

An entry with further attributes that can be given to the log is shown as the record of its message (`Entry.IsAccepted.format_eq`). A JSON
line of a record is read as its members (`Record.isObjectLine_format`): further attributes that are shown, and the parts of the record
whose names they leave free (`Record.get?_members`). The names `level`, `logger` and `exception` of such parts can be given to further
attributes, and so can the name of the function that makes the message; a line reports its own entry if and only if they are not used for
anything else (`Entry.reports_iff`).
-/

namespace RanConsole.Log

/-! ## Accepted entries -/

/-- The names that are refused for further attributes: those of the attributes of a record, though it may come without the name of its
task, and that of its time. -/
def refusedNames : List String := "asctime" :: recordAttributes.erase "taskName"

/-- An entry with further attributes that can be given to the log. -/
structure Entry.IsAccepted (e : Entry) : Prop where
  names : ∀ extra ∈ e.extras, extra.1 ∉ refusedNames
  values : ∀ extra ∈ e.extras, extra.2.toJson.IsFormed Binary64.IsProper
  /-- The message is a text: no argument puts half of a pair into it. -/
  whole : ∀ room, fillTemplate room e.template e.arguments ≠ .error .half

/-- The record of an entry with its message. -/
def Entry.record (e : Entry) (message : String) : Record :=
  { level := e.level, logger := e.logger, message, extras := e.extras, problem := e.problem }

theorem Entry.IsAccepted.attribute?_eq_none {e : Entry} (h : e.IsAccepted) (name : String) (hName : name ∈ refusedNames) :
    e.attribute? name = none := by
  cases hValue : e.attribute? name with
  | none => rfl
  | some v => exact absurd hName (h.names _ (Mapping.mem_ofPairs (Mapping.mem_of_get? hValue)))

theorem Entry.IsAccepted.message_eq {e : Entry} (h : e.IsAccepted) (room : Room) :
    e.message room =
      if (e.attribute? "getMessage").isSome then .error .wrongKind
      else (fillTemplate room.text e.template e.arguments).mapError .template := by
  rw [message, h.attribute?_eq_none "msg" (by decide), h.attribute?_eq_none "args" (by decide)]
  rfl

/-- The line of an entry says what the record of its message says, if a message can be made. -/
theorem Entry.IsAccepted.line_eq {e : Entry} (h : e.IsAccepted) (room : Room) :
    e.line room = (e.message room).map fun message => (e.record message).line := by
  have hProblem : e.problemText = .ok (e.problem.map Problem.summary) := by
    rw [problemText, h.attribute?_eq_none "exc_info" (by decide)]
  have hLevel : e.shownLevel = .json (.str (levelName e.level)) := by
    rw [shownLevel, h.attribute?_eq_none "levelname" (by decide), Option.getD_none]
  have hLogger : e.shownLogger = .json (.str e.logger) := by
    rw [shownLogger, h.attribute?_eq_none "name" (by decide), Option.getD_none]
  rw [line, hProblem, hLevel, hLogger]
  cases e.message room <;> rfl

/-- An entry has a JSON line if and only if a message can be made and its record has that line in the room that is left. -/
theorem Entry.IsAccepted.format_json_eq_ok_iff {e : Entry} (h : e.IsAccepted) (clock : Clock) (room : Room) (line : String) :
    e.format clock .json room = .ok line ↔
      ∃ message, fillTemplate room.text e.template e.arguments = .ok message ∧ e.attribute? "getMessage" = none ∧
        (e.record message).line.jsonWithin clock room = .ok line := by
  rw [format, h.line_eq, h.message_eq]
  cases e.attribute? "getMessage" with
  | some v => simp [Except.map, bind, Except.bind]
  | none =>
    cases fillTemplate room.text e.template e.arguments with
    | error fault => simp [Except.mapError, Except.map, bind, Except.bind]
    | ok message =>
      cases hLine : (e.record message).line.jsonWithin clock room <;>
        simp [Except.mapError, Except.map, bind, Except.bind, hLine]

/-! ## Members of a line -/

/-- The parts of a record as members of a JSON line. -/
def Record.parts (clock : Clock) (r : Record) : List (String × Json) :=
  [("timestamp", .str clock.full), ("level", .str (levelName r.level)), ("logger", .str r.logger), ("message", .str r.message)] ++
    r.problem.toList.map fun p => ("exception", .str p.summary)

/-- Whether a further attribute of the name is shown. -/
def isShownName (name : String) : Bool := !recordAttributes.contains name && name.toList.head? != some '_'

theorem get?_shownExtras (name : String) (extras : List (String × Attribute)) :
    Mapping.get? name (shownExtras extras) = if isShownName name then Mapping.get? name (Mapping.ofPairs extras) else none :=
  Mapping.get?_filter isShownName name _

/-- The shown further attributes as members of a JSON line. -/
def shownMembers (extras : List (String × Attribute)) : List (String × Json) :=
  (shownExtras extras).map fun (key, v) => (key, v.toJson)

theorem Record.members_eq (clock : Clock) (r : Record) :
    r.line.members clock = Mapping.putAll (r.parts clock) (shownMembers r.extras) := by
  rw [Line.members, parts, shownMembers, line]
  cases r.problem <;> rfl

theorem distinct_shownMembers (extras : List (String × Attribute)) : Mapping.Distinct (shownMembers extras) := by
  have hKeys : Mapping.keys (shownMembers extras) = Mapping.keys (shownExtras extras) := by
    rw [shownMembers, Mapping.keys, List.map_map]
    rfl
  rw [Mapping.Distinct, hKeys]
  exact (Mapping.distinct_ofPairs extras).sublist (List.filter_sublist.map _)

theorem distinct_parts (clock : Clock) (r : Record) : Mapping.Distinct (r.parts clock) := by
  rw [Record.parts]
  cases r.problem <;> simp [Mapping.Distinct, Mapping.keys]

/-- The members of a line: the further attributes that are shown, and the parts whose names they leave free. -/
theorem Record.get?_members (clock : Clock) (r : Record) (name : String) :
    Mapping.get? name (r.line.members clock) =
      (if isShownName name then (Mapping.get? name (Mapping.ofPairs r.extras)).map Attribute.toJson else none).or
        (Mapping.get? name (r.parts clock)) := by
  have hShown : Mapping.get? name (shownMembers r.extras) =
      if isShownName name then (Mapping.get? name (Mapping.ofPairs r.extras)).map Attribute.toJson else none := by
    rw [shownMembers, Mapping.get?_map, get?_shownExtras]
    split <;> rfl
  rw [members_eq, Mapping.get?_putAll name (distinct_shownMembers r.extras), hShown]

section

variable (clock : Clock) (r : Record)

/-- Every member of a line is a part of the record or a further attribute that is shown. -/
theorem mem_members {member : String × Json} (h : member ∈ r.line.members clock) :
    (∃ s, member.2 = .str s) ∨ member ∈ shownMembers r.extras := by
  rw [Record.members_eq] at h
  rcases Mapping.mem_putAll _ h with hPart | hExtra
  · rw [Record.parts] at hPart
    rcases List.mem_append.mp hPart with hPart | hPart
    · simp only [List.mem_cons, List.not_mem_nil, or_false] at hPart
      rcases hPart with rfl | rfl | rfl | rfl <;> exact .inl ⟨_, rfl⟩
    · obtain ⟨p, -, rfl⟩ := List.mem_map.mp hPart
      exact .inl ⟨_, rfl⟩
  · exact .inr hExtra

/-- What texts have all members of a line have if and only if the further attributes that are shown have it. -/
theorem forall_members_iff {P : Json → Prop} (hText : ∀ s, P (.str s)) :
    (∀ member ∈ r.line.members clock, P member.2) ↔ ∀ member ∈ shownMembers r.extras, P member.2 := by
  constructor
  · intro h member hMember
    have hDistinct := distinct_shownMembers r.extras
    have hGet : Mapping.get? member.1 (r.line.members clock) = some member.2 := by
      rw [Record.members_eq, Mapping.get?_putAll _ hDistinct, Mapping.get?_of_mem hDistinct hMember]
      rfl
    exact h _ (Mapping.mem_of_get? hGet)
  · intro h member hMember
    rcases mem_members clock r hMember with ⟨s, hs⟩ | hShown
    · rw [hs]
      exact hText s
    · exact h member hShown

theorem depth_members_le_iff (n : Nat) :
    (Json.obj (r.line.members clock)).depth ≤ n ↔ (Json.obj (shownMembers r.extras)).depth ≤ n := by
  rw [Json.depth_obj_le_iff, Json.depth_obj_le_iff]
  refine and_congr_right fun hRoom => ?_
  exact forall_members_iff clock r (P := fun v => v.depth < n) fun _ => hRoom

/-- Whether all further attributes that are shown have short integers. -/
def hasShortExtras (extras : List (String × Attribute)) : Bool := (Json.obj (shownMembers extras)).hasShortIntegers

theorem hasShortIntegers_members : (Json.obj (r.line.members clock)).hasShortIntegers = true ↔ hasShortExtras r.extras = true := by
  have hMembers := forall_members_iff clock r (P := fun v => v.hasShortIntegers = true) fun _ => rfl
  rwa [← Json.membersShort_iff, ← Json.membersShort_iff] at hMembers

/-! ## Lines that are written -/

/-- An attribute is written as the value it makes, if that can be written. -/
theorem Attribute.toJsonWithin_eq_ok_iff (a : Attribute) (room : Room) (v : Json) :
    a.toJsonWithin room = .ok v ↔ a.toJson.renderFault? room.json = none ∧ a.toJson = v := by
  cases a with
  | foreign text =>
    have hText : (Json.str text).renderFault? room.json = none := by
      simp [Json.renderFault?, Json.fault?]
    simp [toJsonWithin, toJson, hText]
  | json w =>
    rw [toJsonWithin, toJson]
    cases hFault : w.renderFault? room.json with
    | none => simp
    | some fault =>
      cases fault with
      | tooDeep => simp
      | tooManyDigits =>
        -- the text of the value is no way out, because it holds the same integers
        cases hText : w.textFault? room.text with
        | none =>
          rw [Json.renderFault?_of_hasShortIntegers (Json.hasShortIntegers_of_textFault?_eq_none hText)] at hFault
          split at hFault <;> cases hFault
        | some fault => simp

/-- Attributes are written as the members they make, if the values of all of them can be written. -/
theorem mapM_toJsonWithin_eq_ok_iff {room : Room} (extras : List (String × Attribute)) (members : List (String × Json)) :
    (extras.mapM fun (key, v) => do return (key, ← v.toJsonWithin room)) = Except.ok members ↔
      (∀ extra ∈ extras, extra.2.toJson.renderFault? room.json = none) ∧ (extras.map fun (key, v) => (key, v.toJson)) = members := by
  have hEach (extra : String × Attribute) (member : String × Json) :
      (do return (extra.1, ← extra.2.toJsonWithin room) : Except Json.WriteError (String × Json)) = .ok member ↔
        extra.2.toJson.renderFault? room.json = none ∧ (extra.1, extra.2.toJson) = member := by
    constructor
    · intro h
      obtain ⟨v, hv, hMember⟩ := ok_bind h
      obtain ⟨hNone, rfl⟩ := (extra.2.toJsonWithin_eq_ok_iff room v).mp hv
      exact ⟨hNone, Except.ok.inj hMember⟩
    · rintro ⟨hNone, rfl⟩
      rw [(extra.2.toJsonWithin_eq_ok_iff room _).mpr ⟨hNone, rfl⟩]
      rfl
  rw [mapM_eq_ok_iff]
  simp only [hEach]
  rw [List.forall₂_and_left, ← List.forall₂_map_left_iff, List.forall₂_eq_eq_eq]

/-- A record has a JSON line if and only if all further attributes that are shown have short integers and there is room for an object of
them. -/
theorem Record.jsonWithin_eq_ok_iff (room : Room) (line : String) :
    r.line.jsonWithin clock room = .ok line ↔
      hasShortExtras r.extras = true ∧ (Json.obj (shownMembers r.extras)).depth ≤ room.json ∧ r.format clock .json = line := by
  have hWhole : (Json.obj (r.line.members clock)).renderFault? room.json = none ↔
      hasShortExtras r.extras = true ∧ (Json.obj (shownMembers r.extras)).depth ≤ room.json := by
    rw [Json.renderFault?_eq_none_iff, depth_members_le_iff, hasShortIntegers_members, and_comm]
  constructor
  · intro h
    obtain ⟨members, hMembers, hLine⟩ := ok_bind h
    obtain ⟨-, rfl⟩ := (mapM_toJsonWithin_eq_ok_iff _ _).mp hMembers
    obtain ⟨hNone, hText⟩ := Json.renderWithin_eq_ok_iff.mp hLine
    obtain ⟨hShort, hDepth⟩ := hWhole.mp hNone
    exact ⟨hShort, hDepth, hText⟩
  · rintro ⟨hShort, hDepth, rfl⟩
    have hEach : ∀ extra ∈ r.line.extras, extra.2.toJson.renderFault? room.json = none := by
      intro extra hExtra
      have hMember : (extra.1, extra.2.toJson) ∈ shownMembers r.extras := List.mem_map.mpr ⟨extra, hExtra, rfl⟩
      have hValueDepth := ((Json.depth_obj_le_iff).mp hDepth).2 _ hMember
      exact Json.renderFault?_eq_none_iff.mpr ⟨Nat.le_of_lt hValueDepth, (Json.membersShort_iff _).mp hShort _ hMember⟩
    rw [Line.jsonWithin, (mapM_toJsonWithin_eq_ok_iff _ _).mpr ⟨hEach, rfl⟩]
    exact Json.renderWithin_eq_ok_iff.mpr ⟨hWhole.mpr ⟨hShort, hDepth⟩, rfl⟩

/-! ## Lines that are read -/

/-- A line of ASCII that every reader which goes down to the depth of an object reads as the object. -/
structure IsObjectLine (members : List (String × Json)) (line : String) : Prop where
  ascii : ∀ c ∈ line.toList, 0x20 ≤ c.toNat ∧ c.toNat < 0x7F
  reads : ∀ limit standIn, (Json.obj members).depth ≤ limit →
    Json.readChars line.toList { limit, halves := .standIn standIn } = .ok (.obj members)

/-- A line is read as one object. -/
theorem IsObjectLine.unique {members others : List (String × Json)} {line : String} (h : IsObjectLine members line)
    (h' : IsObjectLine others line) : members = others := by
  have hMembers := h.reads _ ' ' (Nat.le_max_left (Json.obj members).depth (Json.obj others).depth)
  rw [h'.reads _ ' ' (Nat.le_max_right ..)] at hMembers
  exact (Json.obj.inj (Except.ok.inj hMembers)).symm

theorem Record.toList_format : (r.format clock .json).toList = (Json.obj (r.line.members clock)).print .line 0 := String.toList_ofList

/-- The line of a record with short integers is read as its members. -/
theorem Record.isObjectLine_format (hValues : ∀ extra ∈ r.extras, extra.2.toJson.IsFormed Binary64.IsProper)
    (hShort : hasShortExtras r.extras = true) : IsObjectLine (r.line.members clock) (r.format clock .json) := by
  have hDistinct : Mapping.Distinct (r.line.members clock) := by
    rw [members_eq]
    exact Mapping.distinct_putAll _ (distinct_parts clock r)
  have hMembers : ∀ member ∈ r.line.members clock, member.2.IsFormed Json.Style.line.ReadsFloat := by
    refine (forall_members_iff clock r fun s => trivial).mpr fun member hMember => ?_
    obtain ⟨extra, hExtra, rfl⟩ := List.mem_map.mp hMember
    have hGiven : extra ∈ r.extras := Mapping.mem_ofPairs (List.mem_of_mem_filter hExtra)
    exact (hValues extra hGiven).imp fun _ => Json.Style.readsFloat_of_isProper rfl
  have hFormed : (Json.obj (r.line.members clock)).IsFormed Json.Style.line.ReadsFloat :=
    ⟨hDistinct.imp fun hNe => beq_eq_false_iff_ne.mp hNe, (Json.membersFormed_iff _ _).mpr hMembers⟩
  refine ⟨fun c hc => ?_, fun limit standIn hDepth => ?_⟩
  · rw [toList_format] at hc
    simpa [Json.isBare] using Json.isBare_of_mem_print hFormed hc
  · rw [toList_format]
    exact Json.readChars_print_of_isFormed Json.Style.line_isSpaced hFormed ((hasShortIntegers_members clock r).mpr hShort) hDepth
      standIn 0

end

/-! ## Reports -/

namespace Entry

/-- The members of a line report an entry. -/
structure IsReport (e : Entry) (room : Room) (members : List (String × Json)) : Prop where
  level : Mapping.get? "level" members = some (.str (levelName e.level))
  logger : Mapping.get? "logger" members = some (.str e.logger)
  /-- The message is the template filled with the arguments. -/
  message : ∃ message, fillTemplate room.text e.template e.arguments = .ok message ∧ Mapping.get? "message" members = some (.str message)
  /-- There is an exception if and only if the entry has a problem, and it is what is said about that problem. -/
  problem : Mapping.get? "exception" members = e.problem.map fun p => .str p.summary
  /-- A further attribute stands under its own name, unless a record has an attribute of that name or the name starts with an
  underscore. -/
  extras : ∀ name v, e.attribute? name = some v → name ∉ recordAttributes → name.toList.head? ≠ some '_' →
    Mapping.get? name members = some v.toJson

/-- No further attribute says anything else than a part under the name of the part. -/
def LeavesPart (e : Entry) (name : String) (part : Option Json) : Prop := ∀ v, e.attribute? name = some v → part = some v.toJson

/-- A line of an entry can report it: a message can be made, the further attributes can be written, and they leave the parts. -/
structure IsReportable (e : Entry) (room : Room) : Prop where
  message : ∃ message, fillTemplate room.text e.template e.arguments = .ok message
  callable : e.attribute? "getMessage" = none
  short : hasShortExtras e.extras = true
  /-- There is room for an object of the further attributes that are shown. -/
  fits : (Json.obj (shownMembers e.extras)).depth ≤ room.json
  level : e.LeavesPart "level" (some (.str (levelName e.level)))
  logger : e.LeavesPart "logger" (some (.str e.logger))
  problem : e.LeavesPart "exception" (e.problem.map fun p => .str p.summary)

variable {e : Entry} {room : Room}

/-- What a line of an entry has at a name. -/
theorem get?_members (clock : Clock) (message name : String) :
    Mapping.get? name ((e.record message).line.members clock) =
      (if isShownName name then (e.attribute? name).map Attribute.toJson else none).or
        (Mapping.get? name ((e.record message).parts clock)) :=
  Record.get?_members clock (e.record message) name

/-- A line has a part at a name that is shown if and only if the further attributes leave the part. -/
theorem get?_members_eq_iff (clock : Clock) (message name : String) (hShown : isShownName name = true) {part : Option Json}
    (hPart : Mapping.get? name ((e.record message).parts clock) = part) :
    Mapping.get? name ((e.record message).line.members clock) = part ↔ e.LeavesPart name part := by
  rw [get?_members, if_pos hShown, hPart, LeavesPart]
  cases e.attribute? name with
  | none => simp
  | some v => simp [eq_comm]

/-- The members of the record of a message report the entry if and only if the further attributes leave the parts. -/
theorem isReport_iff (clock : Clock) {message : String} (hMessage : fillTemplate room.text e.template e.arguments = .ok message) :
    e.IsReport room ((e.record message).line.members clock) ↔
      e.LeavesPart "level" (some (.str (levelName e.level))) ∧ e.LeavesPart "logger" (some (.str e.logger)) ∧
        e.LeavesPart "exception" (e.problem.map fun p => .str p.summary) := by
  have hProblem : Mapping.get? "exception" ((e.record message).parts clock) = e.problem.map fun p => Json.str p.summary := by
    rw [Record.parts, record]
    cases e.problem <;> rfl
  have hLevelIff := e.get?_members_eq_iff clock message "level" (by decide) rfl
  have hLoggerIff := e.get?_members_eq_iff clock message "logger" (by decide) rfl
  have hProblemIff := e.get?_members_eq_iff clock message "exception" (by decide) hProblem
  constructor
  · intro h
    exact ⟨hLevelIff.mp h.level, hLoggerIff.mp h.logger, hProblemIff.mp h.problem⟩
  · rintro ⟨hLevel, hLogger, hProblem⟩
    refine ⟨hLevelIff.mpr hLevel, hLoggerIff.mpr hLogger, ⟨message, hMessage, ?_⟩, hProblemIff.mpr hProblem,
      fun name v hv hName hFirst => ?_⟩
    · -- no further attribute of this name is shown
      have hHidden : isShownName "message" = false := by decide
      rw [get?_members, hHidden]
      rfl
    · have hShown : isShownName name = true := by simp [isShownName, hName, hFirst]
      rw [get?_members, if_pos hShown, hv]
      rfl

/-- A line reports the entry only if it can. -/
theorem isReportable_of_isReport (h : e.IsAccepted) {clock : Clock} {line : String} {members : List (String × Json)}
    (hFormat : e.format clock .json room = .ok line) (hLine : IsObjectLine members line) (hReport : e.IsReport room members) :
    e.IsReportable room := by
  obtain ⟨message, hMessage, hCallable, hWritten⟩ := (h.format_json_eq_ok_iff clock room line).mp hFormat
  obtain ⟨hShort, hFits, rfl⟩ := (Record.jsonWithin_eq_ok_iff clock (e.record message) room line).mp hWritten
  obtain rfl := hLine.unique (Record.isObjectLine_format clock (e.record message) h.values hShort)
  obtain ⟨hLevel, hLogger, hProblem⟩ := (isReport_iff clock hMessage).mp hReport
  exact ⟨⟨message, hMessage⟩, hCallable, hShort, hFits, hLevel, hLogger, hProblem⟩

/-- What a line of an entry is read as, if a message can be made and the further attributes can be written. -/
theorem exists_line (h : e.IsAccepted) (clock : Clock) {message : String}
    (hMessage : fillTemplate room.text e.template e.arguments = .ok message) (hCallable : e.attribute? "getMessage" = none)
    (hShort : hasShortExtras e.extras = true) (hFits : (Json.obj (shownMembers e.extras)).depth ≤ room.json) :
    ∃ line, e.format clock .json room = .ok line ∧ IsObjectLine ((e.record message).line.members clock) line := by
  have hWritten : (e.record message).line.jsonWithin clock room = .ok ((e.record message).format clock .json) :=
    (Record.jsonWithin_eq_ok_iff clock (e.record message) room _).mpr ⟨hShort, hFits, rfl⟩
  exact ⟨_, (h.format_json_eq_ok_iff clock room _).mpr ⟨message, hMessage, hCallable, hWritten⟩,
    Record.isObjectLine_format clock (e.record message) h.values hShort⟩

/-- Whatever room is left, the line of an accepted entry says what the record of its message says, with the further attributes that are
shown in front of the parts of the same name; and it reports the entry if and only if it can. -/
theorem reports_iff (h : e.IsAccepted) (clock : Clock) (room : Room) :
    (∀ message, fillTemplate room.text e.template e.arguments = .ok message → e.attribute? "getMessage" = none →
      hasShortExtras e.extras = true → (Json.obj (shownMembers e.extras)).depth ≤ room.json →
      ∃ line members, e.format clock .json room = .ok line ∧ IsObjectLine members line ∧
        ∀ name, Mapping.get? name members =
          (if isShownName name then (e.attribute? name).map Attribute.toJson else none).or
            (Mapping.get? name ((e.record message).parts clock))) ∧
      ((∃ line members, e.format clock .json room = .ok line ∧ IsObjectLine members line ∧ e.IsReport room members) ↔
        e.IsReportable room) := by
  refine ⟨fun message hMessage hCallable hShort hFits => ?_, ?_, fun hReportable => ?_⟩
  · obtain ⟨line, hFormat, hLine⟩ := exists_line h clock hMessage hCallable hShort hFits
    exact ⟨line, _, hFormat, hLine, fun name => get?_members clock message name⟩
  · rintro ⟨line, members, hFormat, hLine, hReport⟩
    exact isReportable_of_isReport h hFormat hLine hReport
  · obtain ⟨message, hMessage⟩ := hReportable.message
    obtain ⟨line, hFormat, hLine⟩ := exists_line h clock hMessage hReportable.callable hReportable.short hReportable.fits
    have hReport := (isReport_iff clock hMessage).mpr ⟨hReportable.level, hReportable.logger, hReportable.problem⟩
    exact ⟨line, _, hFormat, hLine, hReport⟩

/-- A time in the middle of January. -/
def winterClock : Clock := { full := "2024-01-15T10:30:00.123456+00:00", wall := "2024-01-15 10:30:00" }

/-- A warning about a problem, with further attributes of several kinds. One says again what the level is, and one is not shown. -/
def retryWarning : Entry :=
  { level := 30, logger := "rancli.client", template := "Retry %d of %s", arguments := [.int 2, .str "a\n\u2028"]
    extras :=
      [("wait", .json (.float (.finite false 0x10000000000000 (-53)))), ("query", .json (.obj [("a", .arr [.int (-5), .null])])),
        ("target", .foreign "<object object>"), ("level", .json (.str "WARNING")), ("_hidden", .json (.bool true))]
    problem := some (.foreign "ValueError" "boom") }

theorem fillTemplate_retryWarning (room : Nat) :
    fillTemplate room retryWarning.template retryWarning.arguments = .ok "Retry 2 of a\n\u2028" := by
  rfl

/-- The warning is reported by its line wherever there is room for the list in an object among its further attributes. -/
theorem reports_retryWarning :
    retryWarning.IsAccepted ∧
      (∃ line members, retryWarning.format winterClock .json = .ok line ∧ IsObjectLine members line ∧
        Mapping.get? "wait" members = some (.float (.finite false 0x10000000000000 (-53))) ∧ Mapping.get? "_hidden" members = none) ∧
      ∀ room : Room, (∃ line members, retryWarning.format winterClock .json room = .ok line ∧ IsObjectLine members line ∧
        retryWarning.IsReport room members) ↔ 3 ≤ room.json := by
  have hAccepted : retryWarning.IsAccepted := by
    have hWait : (Binary64.finite false 0x10000000000000 (-53)).IsProper := by decide
    refine ⟨by decide, ?_, fun room => ?_⟩
    · simp [retryWarning, Attribute.toJson, Json.IsFormed, Json.ItemsFormed, Json.MembersFormed, Mapping.keys, hWait]
    · intro hHalf
      rw [fillTemplate_retryWarning] at hHalf
      cases hHalf
  have hCallable : retryWarning.attribute? "getMessage" = none := by rfl
  have hShort : hasShortExtras retryWarning.extras = true := by
    decide +kernel
  have hDepth : (Json.obj (shownMembers retryWarning.extras)).depth = 3 := by
    decide +kernel
  refine ⟨hAccepted, ?_, fun room => (reports_iff hAccepted winterClock room).2.trans ⟨fun h => hDepth ▸ h.fits, fun hRoom => ?_⟩⟩
  · obtain ⟨line, members, hFormat, hReads, hMembers⟩ :=
      (reports_iff hAccepted winterClock {}).1 _ (fillTemplate_retryWarning _) hCallable hShort (by rw [hDepth]; decide)
    refine ⟨line, members, hFormat, hReads, ?_, ?_⟩ <;> rw [hMembers] <;> rfl
  · refine ⟨⟨_, fillTemplate_retryWarning _⟩, hCallable, hShort, hDepth ▸ hRoom, ?_, ?_, ?_⟩
    · intro v hv
      cases hv
      rfl
    · intro v hv
      cases hv
    · intro v hv
      cases hv

/-- A message with one further attribute. -/
def listingMessage (name : String) : Entry :=
  { level := 20, logger := "rancli.test", template := "Listing nodes", extras := [(name, .json (.str "X"))] }

/-- A further attribute can take the place of the level, and one with the name of the function that makes messages leaves no line. -/
theorem report_of_accepted_false :
    (listingMessage "level").IsAccepted ∧
      (listingMessage "level").format winterClock .json =
        .ok ("\x7B\"timestamp\": \"2024-01-15T10:30:00.123456+00:00\", \"level\": \"X\", " ++
          "\"logger\": \"rancli.test\", \"message\": \"Listing nodes\"\x7D") ∧
      (¬∃ line members, (listingMessage "level").format winterClock .json = .ok line ∧ IsObjectLine members line ∧
        (listingMessage "level").IsReport {} members) ∧
      (listingMessage "getMessage").IsAccepted ∧ (listingMessage "getMessage").format winterClock .json = .error .wrongKind := by
  have hAccepted (name : String) (hName : name ∉ refusedNames) : (listingMessage name).IsAccepted :=
    ⟨by simpa [listingMessage] using hName, by simp [listingMessage, Attribute.toJson, Json.IsFormed], fun _ => nofun⟩
  refine ⟨hAccepted "level" (by decide), ?_, ?_, hAccepted "getMessage" (by decide), rfl⟩
  · decide +kernel
  · rintro ⟨line, members, hFormat, hLine, hReport⟩
    have hLevel := (isReportable_of_isReport (hAccepted "level" (by decide)) hFormat hLine hReport).level _ rfl
    exact absurd (Json.str.inj (Option.some.inj hLevel)) (by decide)

end Entry

end RanConsole.Log

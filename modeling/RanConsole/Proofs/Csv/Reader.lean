import RanConsole.Csv
import RanConsole.Proofs.Text.Lines

/-!
# Reading comma-separated records

A reader goes over a text character by character. A field that begins with a double quote goes on to the next quote that is not
doubled, and any other field to the next comma or line end; a line end, of either kind or of both together, ends the record. An empty
line is a record without fields. What is written record by record is read back as it was (`after_ended`), whichever line end stands
behind the last record (`read_records`) or behind each of them (`read_lines`).
-/

namespace RanConsole.Csv

theorem fields_cons (f : List Char) {rest : List (List Char)} (h : rest ≠ []) : fields (f :: rest) = field f ++ ',' :: fields rest := by
  cases rest with
  | nil => exact absurd rfl h
  | cons g rest => rfl

theorem recordBody_eq_fields {record : List (List Char)} (h : record ≠ [[]]) : recordBody record = fields record := by
  rw [recordBody]
  exact h

/-! ## The reader -/

/-- Where a reader stands in a record. -/
inductive Place where
  | recordStart
  /-- Behind a carriage return that ended a record: a line feed here belongs to the same line end. -/
  | returned
  | fieldStart
  | text
  | quoted
  /-- Behind a quote inside quotes, which ends the field unless another one follows. -/
  | quote
  deriving DecidableEq, Repr

/-- A reader: the field and the record that it is reading, and the records that it has read. -/
structure Reader where
  place : Place := .recordStart
  field : List Char := []
  record : List (List Char) := []
  records : List (List (List Char)) := []
  deriving DecidableEq, Repr

/-- A character that ends a line. -/
def isLineEnd (c : Char) : Bool := c == '\r' || c == '\n'

theorem not_isLineEnd_of_not_isSpecial {c : Char} (h : isSpecial c = false) : isLineEnd c = false := by
  simp only [isSpecial, Bool.or_eq_false_iff] at h
  rw [isLineEnd, h.1.2, h.2]
  rfl

/-- A field that needs no quotes holds no line end. -/
theorem not_isLineEnd_of_mem {f : List Char} (h : ¬ f.any isSpecial = true) {c : Char} (hc : c ∈ f) : isLineEnd c = false := by
  have hNone := List.any_eq_false.mp (Bool.eq_false_iff.mpr h) c hc
  exact not_isLineEnd_of_not_isSpecial (Bool.eq_false_iff.mpr hNone)

namespace Reader

/-- Where the next record begins behind a line end. -/
def placeBehind (c : Char) : Place := if c = '\r' then .returned else .recordStart

/-- A character of a field outside quotes. -/
def readText (r : Reader) (c : Char) : Reader :=
  if c = ',' then { r with place := .fieldStart, field := [], record := r.record ++ [r.field] }
  else if isLineEnd c then { place := placeBehind c, records := r.records ++ [r.record ++ [r.field]] }
  else { r with place := .text, field := r.field ++ [c] }

/-- The first character of a field. -/
def readFirst (r : Reader) (c : Char) : Reader :=
  if c = '"' then { r with place := .quoted } else r.readText c

/-- The first character of a record. -/
def readStart (r : Reader) (c : Char) : Reader :=
  if isLineEnd c then { r with place := placeBehind c, records := r.records ++ [[]] } else r.readFirst c

/-- The reader behind a character. -/
def step (r : Reader) (c : Char) : Reader :=
  match r.place with
  | .recordStart => r.readStart c
  | .returned => if c = '\n' then { r with place := .recordStart } else r.readStart c
  | .fieldStart => r.readFirst c
  | .text => r.readText c
  | .quoted => if c = '"' then { r with place := .quote } else { r with field := r.field ++ [c] }
  | .quote => if c = '"' then { r with place := .quoted, field := r.field ++ ['"'] } else r.readText c

/-- The reader behind a text. -/
def after (r : Reader) (s : List Char) : Reader := s.foldl step r

/-- The records that were read when the text ends here. -/
def finish (r : Reader) : List (List (List Char)) :=
  match r.place with
  | .recordStart | .returned => r.records
  | _ => r.records ++ [r.record ++ [r.field]]

end Reader

/-- The records of a text. -/
def read (s : List Char) : List (List (List Char)) := (({} : Reader).after s).finish

namespace Reader

@[simp] theorem after_nil (r : Reader) : r.after [] = r := rfl

@[simp] theorem after_cons (r : Reader) (c : Char) (s : List Char) : r.after (c :: s) = (r.step c).after s := rfl

theorem after_append (r : Reader) (s t : List Char) : r.after (s ++ t) = (r.after s).after t := List.foldl_append

/-! ## Fields -/

/-- The reader stands behind the last field of a record as far as that goes. -/
structure HasRead (r : Reader) (records : List (List (List Char))) (record : List (List Char)) : Prop where
  place_eq : r.place = .fieldStart ∨ r.place = .text ∨ r.place = .quote
  records_eq : r.records = records
  record_eq : r.record ++ [r.field] = record

/-- What ends a field does so at each of the places behind it. -/
theorem HasRead.step_eq {r : Reader} {records : List (List (List Char))} {record : List (List Char)} (h : r.HasRead records record)
    {c : Char} (hc : c ≠ '"') : r.step c = r.readText c := by
  rcases h.place_eq with hPlace | hPlace | hPlace
  · rw [step, hPlace]
    exact if_neg hc
  · rw [step, hPlace]
  · rw [step, hPlace]
    exact if_neg hc

theorem HasRead.step_comma {r : Reader} {records : List (List (List Char))} {record : List (List Char)} (h : r.HasRead records record) :
    r.step ',' = { place := .fieldStart, record, records } := by
  rw [h.step_eq (by decide), readText, if_pos rfl, h.record_eq, h.records_eq]

theorem HasRead.step_lineEnd {r : Reader} {records : List (List (List Char))} {record : List (List Char)} (h : r.HasRead records record)
    {c : Char} (hc : isLineEnd c = true) : r.step c = { place := placeBehind c, records := records ++ [record] } := by
  have hQuote : c ≠ '"' := by rintro rfl; cases hc
  have hComma : c ≠ ',' := by rintro rfl; cases hc
  rw [h.step_eq hQuote, readText, if_neg hComma, if_pos hc, h.record_eq, h.records_eq]

/-- A text without quotes, commas and line ends belongs to the field. -/
theorem after_text {s : List Char} (h : s.any isSpecial = false) {r : Reader} (hPlace : r.place = .text) :
    r.after s = { r with field := r.field ++ s } := by
  induction s generalizing r with
  | nil => simp
  | cons c s ih =>
    rw [List.any_cons, Bool.or_eq_false_iff] at h
    have hComma : c ≠ ',' := by rintro rfl; exact absurd h.1 (by decide)
    have hEnd : isLineEnd c = false := not_isLineEnd_of_not_isSpecial h.1
    have hStep : r.step c = { r with field := r.field ++ [c] } := by
      rw [step, hPlace]
      simp [readText, hComma, hEnd, ← hPlace]
    rw [after_cons, hStep, ih h.2 (by exact hPlace)]
    simp

/-- Inside quotes every character belongs to the field, a quote by two. -/
theorem after_quoted {r : Reader} (hPlace : r.place = .quoted) (s : List Char) :
    r.after (s.flatMap fun c => if c = '"' then ['"', '"'] else [c]) = { r with field := r.field ++ s } := by
  induction s generalizing r with
  | nil => simp
  | cons c s ih =>
    have hChar : r.after (if c = '"' then ['"', '"'] else [c]) = { r with field := r.field ++ [c] } := by
      by_cases hc : c = '"'
      · subst hc
        simp [step, hPlace]
      · simp [step, hPlace, hc]
    rw [List.flatMap_cons, after_append, hChar, ih (by exact hPlace)]
    simp

/-- A quoted field is read back. -/
theorem hasRead_quoteField {r : Reader} (hPlace : r.place = .fieldStart) (hField : r.field = []) (s : List Char) :
    (r.after (quoteField s)).HasRead r.records (r.record ++ [s]) := by
  have hOpen : r.step '"' = { r with place := .quoted } := by
    rw [step, hPlace]
    rfl
  rw [quoteField, after_cons, hOpen, after_append, after_quoted rfl, hField, List.nil_append, after_cons, after_nil]
  exact ⟨Or.inr (Or.inr rfl), rfl, rfl⟩

/-- A field is read back as it was before it was written. -/
theorem hasRead_field {r : Reader} (hPlace : r.place = .fieldStart) (hField : r.field = []) (s : List Char) :
    (r.after (Csv.field s)).HasRead r.records (r.record ++ [s]) := by
  rw [Csv.field]
  by_cases hSpecial : s.any isSpecial = true
  · rw [if_pos hSpecial]
    exact hasRead_quoteField hPlace hField s
  · rw [if_neg hSpecial]
    cases s with
    | nil => exact ⟨Or.inl hPlace, rfl, by rw [after_nil, hField]⟩
    | cons c s =>
      have hNone : (c :: s).any isSpecial = false := Bool.eq_false_iff.mpr hSpecial
      -- the first character of a field could open quotes, and this one does not
      have hQuote : c ≠ '"' := by rintro rfl; exact absurd hNone (by simp [isSpecial])
      have hFirst : r.step c = ({ r with place := .text } : Reader).step c := by
        rw [step, hPlace]
        exact if_neg hQuote
      rw [after_cons, hFirst, ← after_cons, after_text hNone rfl, hField]
      exact ⟨Or.inr (Or.inl rfl), rfl, rfl⟩

theorem hasRead_fields {r : Reader} (hPlace : r.place = .fieldStart) (hField : r.field = []) (first : List Char)
    (rest : List (List Char)) : (r.after (fields (first :: rest))).HasRead r.records (r.record ++ first :: rest) := by
  induction rest generalizing r first with
  | nil => exact hasRead_field hPlace hField first
  | cons next rest ih =>
    have hFirst := hasRead_field hPlace hField first
    have hRest := ih (r := { place := .fieldStart, record := r.record ++ [first], records := r.records }) rfl rfl next
    rw [fields, after_append, after_cons, hFirst.step_comma]
    simpa using hRest

/-! ## Records -/

/-- At the beginning of a record a character that ends no line is the first one of a field. -/
theorem step_recordStart {c : Char} (hc : isLineEnd c = false) (records : List (List (List Char))) :
    ({ records } : Reader).step c = ({ place := .fieldStart, records } : Reader).step c := by
  rw [step, step]
  simp only [readStart, hc, Bool.false_eq_true, if_false]
  simp [readFirst, readText, hc]

/-- A record that has fields shows a character that ends no line. -/
theorem exists_recordBody_eq {record : List (List Char)} (h : record ≠ []) :
    ∃ c s, recordBody record = c :: s ∧ isLineEnd c = false := by
  have hField : ∀ (f rest : List Char), f ≠ [] → ∃ c s, Csv.field f ++ rest = c :: s ∧ isLineEnd c = false := by
    intro f rest hf
    rw [Csv.field]
    split
    · exact ⟨'"', _, rfl, rfl⟩
    · rename_i hSpecial
      obtain ⟨c, s, rfl⟩ := List.exists_cons_of_ne_nil hf
      exact ⟨c, _, rfl, not_isLineEnd_of_mem hSpecial (List.mem_cons_self ..)⟩
  match record, h with
  | [[]], _ => exact ⟨'"', _, rfl, rfl⟩
  | [c :: f], _ => simpa [recordBody, fields] using hField (c :: f) [] (List.cons_ne_nil _ _)
  | [] :: next :: rest, _ => exact ⟨',', _, rfl, rfl⟩
  | (c :: f) :: next :: rest, _ => exact hField (c :: f) _ (List.cons_ne_nil _ _)

/-- A record is read back. -/
theorem hasRead_recordBody (records : List (List (List Char))) {record : List (List Char)} (h : record ≠ []) :
    (({ records } : Reader).after (recordBody record)).HasRead records record := by
  obtain ⟨c, s, hBody, hc⟩ := exists_recordBody_eq h
  have hStart : ({ records } : Reader).after (recordBody record) =
      ({ place := .fieldStart, records } : Reader).after (recordBody record) := by
    rw [hBody, after_cons, after_cons, step_recordStart hc]
  rw [hStart]
  by_cases hEmpty : record = [[]]
  · rw [hEmpty]
    exact hasRead_quoteField rfl rfl []
  · obtain ⟨first, rest, rfl⟩ := List.exists_cons_of_ne_nil h
    rw [recordBody_eq_fields hEmpty]
    exact hasRead_fields rfl rfl first rest

/-- Records are read back one after another, whichever line end stands behind them. -/
theorem after_ended {ending : List Char} (hEnding : ending = recordEnd ∨ ending = ['\n']) (earlier : List (List (List Char)))
    {records : List (List (List Char))} (h : ∀ record ∈ records, record ≠ []) :
    ({ records := earlier } : Reader).after (records.flatMap fun record => recordBody record ++ ending) =
      { records := earlier ++ records } := by
  induction records generalizing earlier with
  | nil => simp
  | cons record records ih =>
    obtain ⟨hRecord, hRest⟩ := List.forall_mem_cons.mp h
    have hRead := hasRead_recordBody earlier hRecord
    have hEnd : ({ records := earlier } : Reader).after (recordBody record ++ ending) = { records := earlier ++ [record] } := by
      rcases hEnding with rfl | rfl
      · rw [after_append, recordEnd, after_cons, hRead.step_lineEnd (c := '\r') rfl]
        rfl
      · rw [after_append, after_cons, hRead.step_lineEnd (c := '\n') rfl]
        rfl
    rw [List.flatMap_cons, after_append, hEnd, ih _ hRest, List.append_assoc]
    rfl

theorem after_records (earlier : List (List (List Char))) {records : List (List (List Char))} (h : ∀ record ∈ records, record ≠ []) :
    ({ records := earlier } : Reader).after (records.flatMap Csv.record) = { records := earlier ++ records } :=
  after_ended (Or.inl rfl) earlier h

end Reader

/-- Records are read back also where a line feed alone stands behind the last one. -/
theorem read_records {earlier : List (List (List Char))} (hEarlier : ∀ record ∈ earlier, record ≠ []) {last : List (List Char)}
    (hLast : last ≠ []) : read (earlier.flatMap record ++ recordBody last ++ ['\n']) = earlier ++ [last] := by
  have hFeed := (Reader.hasRead_recordBody earlier hLast).step_lineEnd (c := '\n') rfl
  rw [read, Reader.after_append, Reader.after_append, Reader.after_records [] hEarlier, List.nil_append, Reader.after_cons, hFeed]
  rfl

/-- Records are read back from lines that end with line feeds. -/
theorem read_lines {records : List (List (List Char))} (h : ∀ record ∈ records, record ≠ []) :
    read (Text.fed (records.map recordBody)) = records := by
  rw [Text.fed, List.flatMap_map, read, Reader.after_ended (Or.inr rfl) [] h]
  rfl

example : read "a,\"b\r\n\"\"\"\r\n\r\n\"\"\n x ,".toList =
    [["a".toList, "b\r\n\"".toList], [], [[]], [" x ".toList, []]] := by decide

end RanConsole.Csv

import Mathlib.Data.List.Induction
import Mathlib.Data.List.ModifyLast
import RanConsole.Listing.Table
import RanConsole.Proofs.Console
import RanConsole.Proofs.Csv.Reader
import RanConsole.Proofs.Text.Trim

/-!
# Listings of records that are read back

A listing of comma-separated records is printed without the blanks at the end of its text. The line end of the last record is such a
blank, and so may be the end of its last field: quotes protect commas and line ends, but not a space. What a reader finds is
the records without these blanks (`read_printTable`), and it finds all that was listed exactly if the last field of the last record
stands in quotes or ends in no blank.
-/

namespace RanConsole.Csv

/-! ## Trimmed records -/

/-- A field at the end of a trimmed text. Quotes protect the blanks of the field. -/
def bareEnd (f : List Char) : List Char := if f.any isSpecial then f else Text.trimEnd f

/-- A record that trimming takes as a whole: nothing is left of its one field. An empty field alone stands in quotes. -/
def isUnseen : List (List Char) → Bool
  | [f] => !f.isEmpty && (bareEnd f).isEmpty
  | _ => false

/-- What is left of records when the blanks at the end of their text are taken off. A text of blanks alone leaves an empty line, which
is a record without fields. -/
def remaining (records : List (List (List Char))) : List (List (List Char)) :=
  match records.rdropWhile isUnseen with
  | [] => [[]]
  | first :: rest => (first :: rest).modifyLast (List.modifyLast bareEnd)

theorem remaining_concat_of_isUnseen {last : List (List Char)} (h : isUnseen last = true) (earlier : List (List (List Char))) :
    remaining (earlier ++ [last]) = remaining earlier := by
  rw [remaining, List.rdropWhile_concat_pos _ _ _ h, ← remaining]

theorem remaining_concat {fields : List (List Char)} {last : List Char} (h : isUnseen (fields ++ [last]) = false)
    (earlier : List (List (List Char))) :
    remaining (earlier ++ [fields ++ [last]]) = earlier ++ [fields ++ [bareEnd last]] := by
  have hKept : (earlier ++ [fields ++ [last]]).rdropWhile isUnseen = earlier ++ [fields ++ [last]] :=
    List.rdropWhile_concat_neg _ _ _ (by rw [h]; decide)
  rw [remaining, hKept]
  split
  · rename_i hNil
    simp at hNil
  · rename_i hCons
    rw [← hCons, List.modifyLast_concat, List.modifyLast_concat]

/-! ## The text of trimmed records -/

theorem any_isSpecial_trimEnd {f : List Char} (h : f.any isSpecial = false) : (Text.trimEnd f).any isSpecial = false := by
  rw [List.any_eq_false] at h ⊢
  exact fun c hc => h c ((Text.trimEnd_prefix_self f).subset hc)

theorem isBlankText_quoteField (f : List Char) : Text.isBlankText (quoteField f) = false := rfl

theorem trimEnd_quoteField (f : List Char) : Text.trimEnd (quoteField f) = quoteField f := by
  rw [quoteField, ← List.cons_append, Text.trimEnd_append_cons (by decide)]
  rfl

theorem trimEnd_field (f : List Char) : Text.trimEnd (field f) = field (bareEnd f) := by
  by_cases h : f.any isSpecial = true
  · rw [bareEnd, if_pos h, field, if_pos h, trimEnd_quoteField]
  · have hEnd := any_isSpecial_trimEnd (Bool.eq_false_iff.mpr h)
    rw [bareEnd, if_neg h, field, if_neg h, field, if_neg (by rw [hEnd]; decide)]

theorem trimEnd_fields (front : List (List Char)) (last : List Char) :
    Text.trimEnd (fields (front ++ [last])) = fields (front ++ [bareEnd last]) := by
  induction front with
  | nil => exact trimEnd_field last
  | cons f front ih =>
    rw [List.cons_append, List.cons_append, fields_cons f (by simp), fields_cons f (by simp), Text.trimEnd_append_cons (by decide), ih]

theorem bareEnd_bareEnd (f : List Char) : bareEnd (bareEnd f) = bareEnd f := by
  by_cases h : f.any isSpecial = true
  · have hBare : bareEnd f = f := if_pos h
    rw [hBare, hBare]
  · have hBare : bareEnd f = Text.trimEnd f := if_neg h
    have hEnd := any_isSpecial_trimEnd (Bool.eq_false_iff.mpr h)
    rw [hBare, bareEnd, if_neg (by rw [hEnd]; decide), Text.trimEnd_trimEnd]

/-- A record of trimmed texts is not taken. -/
theorem isUnseen_bareEnd (front : List (List Char)) (last : List Char) : isUnseen (front ++ [bareEnd last]) = false := by
  match front with
  | [] => rw [List.nil_append, isUnseen, bareEnd_bareEnd, Bool.not_and_self]
  | [_] => rfl
  | _ :: _ :: _ => rfl

/-- Nothing is left of a field exactly when its text is blank. -/
theorem isEmpty_bareEnd (f : List Char) : (bareEnd f).isEmpty = Text.isBlankText (field f) := by
  by_cases h : f.any isSpecial = true
  · rw [bareEnd, if_pos h, field, if_pos h, isBlankText_quoteField]
    cases f with
    | nil => cases h
    | cons c f => rfl
  · rw [bareEnd, if_neg h, field, if_neg h, Bool.eq_iff_iff, List.isEmpty_iff]
    constructor
    · intro hNil
      obtain ⟨w, hw, hText⟩ := Text.exists_blanks_behind f
      rwa [hText, hNil]
    · exact Text.trimEnd_of_isBlankText

/-- The records that trimming takes as a whole are those whose text is blank. -/
theorem isBlankText_recordBody {record : List (List Char)} (h : record ≠ []) :
    Text.isBlankText (recordBody record) = isUnseen record := by
  match record, h with
  | [[]], _ => rfl
  | [c :: f], _ => exact (isEmpty_bareEnd (c :: f)).symm
  | f :: g :: rest, _ =>
    have hComma : Text.isBlank ',' = false := by decide
    have hSeen : isUnseen (f :: g :: rest) = false := rfl
    rw [recordBody_eq_fields (by simp), fields_cons f (List.cons_ne_nil g rest), hSeen, Text.isBlankText, List.all_append, List.all_cons,
      hComma, Bool.false_and, Bool.and_false]

theorem trimEnd_recordBody {front : List (List Char)} {last : List Char} (h : isUnseen (front ++ [last]) = false) :
    Text.trimEnd (recordBody (front ++ [last])) = recordBody (front ++ [bareEnd last]) := by
  match front, last with
  | [], [] => rfl
  | [], c :: f =>
    have hLeft : bareEnd (c :: f) ≠ [] := by
      rw [List.nil_append, isUnseen, List.isEmpty_cons, Bool.not_false, Bool.true_and, List.isEmpty_eq_false_iff] at h
      exact h
    rw [recordBody_eq_fields (by simp), recordBody_eq_fields (by simpa using hLeft), trimEnd_fields]
  | f :: front, last =>
    rw [recordBody_eq_fields (by simp), recordBody_eq_fields (by simp), trimEnd_fields]

/-! ## Reading a trimmed text -/

/-- What is read of a trimmed text is what is left of its records. -/
theorem read_trimEnd_records {records : List (List (List Char))} (h : ∀ record ∈ records, record ≠ []) :
    read (Text.trimEnd (records.flatMap record) ++ ['\n']) = remaining records := by
  induction records using List.reverseRecOn with
  | nil => rfl
  | append_singleton earlier last ih =>
    have hEarlier : ∀ record ∈ earlier, record ≠ [] := fun record hm => h record (List.mem_append_left _ hm)
    have hLast : last ≠ [] := h last (by simp)
    have hEnd : Text.trimEnd ((earlier ++ [last]).flatMap record) = Text.trimEnd (earlier.flatMap record ++ recordBody last) := by
      rw [List.flatMap_append, List.flatMap_singleton, record, ← List.append_assoc, Text.trimEnd_append_blanks (by decide)]
    rw [hEnd]
    cases hUnseen : isUnseen last with
    | true =>
      rw [remaining_concat_of_isUnseen hUnseen, Text.trimEnd_append_blanks (by rw [isBlankText_recordBody hLast, hUnseen]), ih hEarlier]
    | false =>
      rw [Text.trimEnd_append (by rw [isBlankText_recordBody hLast, hUnseen])]
      obtain rfl | ⟨fields, field, rfl⟩ := List.eq_nil_or_concat' last
      · exact absurd rfl hLast
      · rw [remaining_concat hUnseen, trimEnd_recordBody hUnseen, read_records hEarlier (by simp)]

/-- The last record that is left is not one that trimming takes, and those before it are the first of all records. -/
theorem exists_remaining_eq {records : List (List (List Char))} (h : ∀ record ∈ records, record ≠ []) :
    ∃ earlier last, remaining records = earlier ++ [last] ∧ earlier <+: records ∧ isUnseen last = false := by
  induction records using List.reverseRecOn with
  | nil => exact ⟨[], [], rfl, List.nil_prefix, rfl⟩
  | append_singleton before record ih =>
    cases hUnseen : isUnseen record with
    | true =>
      obtain ⟨earlier, last, hLeft, hPrefix, hLast⟩ := ih fun record hm => h record (List.mem_append_left _ hm)
      exact ⟨earlier, last, by rw [remaining_concat_of_isUnseen hUnseen, hLeft], hPrefix.trans (List.prefix_append _ _), hLast⟩
    | false =>
      obtain rfl | ⟨fields, field, rfl⟩ := List.eq_nil_or_concat' record
      · exact absurd rfl (h [] (by simp))
      · exact ⟨before, _, remaining_concat hUnseen before, List.prefix_append _ _, isUnseen_bareEnd fields field⟩

/-- All records are left exactly if the last field of the last one stands in quotes or ends in no blank. -/
theorem remaining_eq_self_iff {records : List (List (List Char))} (h : ∀ record ∈ records, record ≠ []) :
    remaining records = records ↔
      ∃ earlier fields last, records = earlier ++ [fields ++ [last]] ∧ (last.any isSpecial = true ∨ Text.trimEnd last = last) := by
  constructor
  · intro hAll
    obtain ⟨earlier, record, hLeft, -, hUnseen⟩ := exists_remaining_eq h
    have hRecords : records = earlier ++ [record] := hAll ▸ hLeft
    obtain rfl | ⟨fields, last, rfl⟩ := List.eq_nil_or_concat' record
    · exact absurd rfl (h [] (by simp [hRecords]))
    · refine ⟨earlier, fields, last, hRecords, or_iff_not_imp_left.mpr fun hSpecial => ?_⟩
      rw [hRecords, remaining_concat hUnseen] at hAll
      have hBare : bareEnd last = last := by simpa using hAll
      rwa [bareEnd, if_neg hSpecial] at hBare
  · rintro ⟨earlier, fields, last, rfl, hLast⟩
    have hBare : bareEnd last = last := by
      rw [bareEnd, ite_eq_left_iff]
      exact fun hSpecial => hLast.resolve_left hSpecial
    have hUnseen := isUnseen_bareEnd fields last
    rw [hBare] at hUnseen
    rw [remaining_concat hUnseen, hBare]

/-! ## The characters of records -/

/-- A character that is not one of the marks is in the text of records only if it is in one of their fields. -/
theorem notMem_field {c : Char} (hc : isSpecial c = false) {f : List Char} (h : c ∉ f) : c ∉ field f := by
  have hQuote : c ≠ '"' := by rintro rfl; cases hc
  rw [field]
  split
  · intro hm
    simp only [quoteField, List.mem_cons, List.mem_append, List.mem_flatMap, List.not_mem_nil, or_false] at hm
    rcases hm with hm | ⟨d, hd, hm⟩ | hm
    · exact hQuote hm
    · have hcd : c = d := by
        split at hm
        · simp [hQuote] at hm
        · simpa using hm
      exact h (hcd ▸ hd)
    · exact hQuote hm
  · exact h

theorem notMem_fields {c : Char} (hc : isSpecial c = false) {record : List (List Char)} (h : ∀ f ∈ record, c ∉ f) :
    c ∉ fields record := by
  have hComma : c ≠ ',' := by rintro rfl; cases hc
  induction record with
  | nil => exact List.not_mem_nil
  | cons f rest ih =>
    obtain ⟨hFirst, hRest⟩ := List.forall_mem_cons.mp h
    by_cases hNil : rest = []
    · rw [hNil]
      exact notMem_field hc hFirst
    · simp [fields_cons f hNil, notMem_field hc hFirst, hComma, ih hRest]

theorem notMem_recordBody {c : Char} (hc : isSpecial c = false) {r : List (List Char)} (h : ∀ f ∈ r, c ∉ f) : c ∉ recordBody r := by
  by_cases hEmpty : r = [[]]
  · rw [hEmpty]
    have hQuote : c ≠ '"' := by rintro rfl; cases hc
    simp [recordBody, quoteField, hQuote]
  · rw [recordBody_eq_fields hEmpty]
    exact notMem_fields hc h

theorem notMem_record {c : Char} (hc : isSpecial c = false) {r : List (List Char)} (h : ∀ f ∈ r, c ∉ f) : c ∉ record r := by
  have hEnd : c ∉ recordEnd := by
    simp only [isSpecial, Bool.or_eq_false_iff, beq_eq_false_iff_ne] at hc
    simp [recordEnd, hc]
  simp [record, notMem_recordBody hc h, hEnd]

end RanConsole.Csv

namespace RanConsole.Listing

/-- The records of a listing: the names of its columns if it has headers, and one record for each row. -/
def recordsOf (headers : Bool) (rows : List Row) (columns : List String) : List (List (List Char)) :=
  (if headers then [columns.map String.toList] else []) ++ rows.map fun row => columns.map (csvCell row)

theorem csvText_eq (headers : Bool) (rows : List Row) (columns : List String) :
    csvText headers rows columns = Text.trimEnd ((recordsOf headers rows columns).flatMap Csv.record) := rfl

/-- A listing that has columns has no record without fields. -/
theorem ne_nil_of_mem_recordsOf {headers : Bool} {rows : List Row} {columns : List String} (hColumns : columns ≠ []) :
    ∀ record ∈ recordsOf headers rows columns, record ≠ [] := by
  intro record hm
  rw [recordsOf, List.mem_append, List.mem_map] at hm
  rcases hm with hm | ⟨row, -, rfl⟩
  · cases headers with
    | false => cases hm
    | true =>
      obtain rfl := List.mem_singleton.mp hm
      exact mt List.map_eq_nil_iff.mp hColumns
  · exact mt List.map_eq_nil_iff.mp hColumns

/-- What is printed of a listing whose fields hold no escape character is its text and a line end. -/
theorem lines_printTable {headers : Bool} {rows : List Row} {columns : List String}
    (hPlain : ∀ record ∈ recordsOf headers rows columns, ∀ f ∈ record, Console.escape ∉ f) :
    (Console.lines (printTable { format := .csv, headers } rows (some columns))).toList = csvText headers rows columns ++ ['\n'] := by
  have hText : Console.escape ∉ csvText headers rows columns := by
    intro hm
    rw [csvText_eq] at hm
    obtain ⟨record, hRecord, hm⟩ := List.mem_flatMap.mp ((Text.trimEnd_prefix_self _).subset hm)
    exact Csv.notMem_record (by decide) (hPlain record hRecord) hm
  have hMessage : printTable { format := .csv, headers } rows (some columns) = [String.ofList (csvText headers rows columns)] := rfl
  rw [hMessage, Console.toList_lines, List.map_singleton, String.toList_ofList, Text.fed, List.flatMap_singleton]
  intro m hm
  rwa [List.mem_singleton.mp hm, String.toList_ofList]

/-- A listing is read back. -/
theorem read_lines_printTable {headers : Bool} {rows : List Row} {columns : List String} (hColumns : columns ≠ [])
    (hPlain : ∀ record ∈ recordsOf headers rows columns, ∀ f ∈ record, Console.escape ∉ f) :
    Csv.read (Console.lines (printTable { format := .csv, headers } rows (some columns))).toList =
      Csv.remaining (recordsOf headers rows columns) := by
  rw [lines_printTable hPlain, csvText_eq, Csv.read_trimEnd_records (ne_nil_of_mem_recordsOf hColumns)]

/-- How the records that a reader finds compare with those that were listed. -/
structure IsReadOf (found listed : List (List (List Char))) : Prop where
  /-- What is missing are the blanks at the end of the text. -/
  found_eq : found = Csv.remaining listed
  /-- Only at the end is a record changed or lost. -/
  dropLast_prefix : found.dropLast <+: listed
  /-- Nothing is missing exactly if the last field of the last record stands in quotes or ends in no blank. -/
  eq_iff : found = listed ↔
    ∃ earlier fields last, listed = earlier ++ [fields ++ [last]] ∧ (last.any Csv.isSpecial = true ∨ Text.trimEnd last = last)

/-- A printed listing that has columns and holds no escape character is read back but for the blanks at its end. -/
theorem read_printTable {headers : Bool} {rows : List Row} {columns : List String} (hColumns : columns ≠ [])
    (hPlain : ∀ record ∈ recordsOf headers rows columns, ∀ f ∈ record, Console.escape ∉ f) :
    IsReadOf (Csv.read (Console.lines (printTable { format := .csv, headers } rows (some columns))).toList)
      (recordsOf headers rows columns) := by
  have hFields : ∀ record ∈ recordsOf headers rows columns, record ≠ [] := ne_nil_of_mem_recordsOf hColumns
  obtain ⟨earlier, last, hLeft, hPrefix, -⟩ := Csv.exists_remaining_eq hFields
  rw [read_lines_printTable hColumns hPlain]
  refine ⟨rfl, ?_, Csv.remaining_eq_self_iff hFields⟩
  rw [hLeft, List.dropLast_concat]
  exact hPrefix

/-- A comma puts a field in quotes, so the space behind it stays. The blank row behind is lost. -/
theorem read_printTable_blankRow :
    ["note"] ≠ [] ∧
      (∀ record ∈ recordsOf true [[("note", .str "a, ")], [("note", .str " ")]] ["note"], ∀ f ∈ record, Console.escape ∉ f) ∧
      Csv.read (Console.lines (printTable { format := .csv } [[("note", .str "a, ")], [("note", .str " ")]] (some ["note"]))).toList =
        [["note".toList], ["a, ".toList]] := by
  have hColumns : ["note"] ≠ [] := List.cons_ne_nil _ _
  have hPlain : ∀ record ∈ recordsOf true [[("note", .str "a, ")], [("note", .str " ")]] ["note"],
      ∀ f ∈ record, Console.escape ∉ f := by decide
  exact ⟨hColumns, hPlain, (read_printTable hColumns hPlain).found_eq⟩

/-- A space at the end of the last cell is not printed. -/
theorem read_printTable_spaceAtEnd_false :
    ¬∀ (headers : Bool) (rows : List Row) (columns : List String), columns ≠ [] →
      (∀ record ∈ recordsOf headers rows columns, ∀ f ∈ record, Console.escape ∉ f) →
        Csv.read (Console.lines (printTable { format := .csv, headers } rows (some columns))).toList =
          recordsOf headers rows columns := by
  intro h
  have hColumns : ["a"] ≠ [] := List.cons_ne_nil _ _
  have hPlain : ∀ record ∈ recordsOf true [[("a", .str "x ")]] ["a"], ∀ f ∈ record, Console.escape ∉ f := by decide
  have hAll := h true [[("a", .str "x ")]] ["a"] hColumns hPlain
  rw [read_lines_printTable hColumns hPlain] at hAll
  exact absurd hAll (by decide)

end RanConsole.Listing

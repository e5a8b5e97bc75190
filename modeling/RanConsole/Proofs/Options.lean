import RanConsole.Node
import RanConsole.Options
import RanConsole.Proofs.Number.Digits
import RanConsole.Proofs.Results

/-!
# Options that take up a listing

The items of an option, joined by commas, are its items again (`items_commaJoined`), and the numbers of an option are its numbers again
(`unsignedList_joinedIntegers`). So the cells that a listing of nodes shows can be given as the options that set the same fields
(`row_isTypedBack`).
-/

namespace RanConsole

/-- The text that a row shows in a column. -/
def Listing.shown (row : Listing.Row) (column : String) : String := String.ofList (Listing.cell row column)

namespace Options

/-! ## Items -/

/-- A text that can be an item of an option: something without a comma in it and without blanks around it. -/
structure IsItem (s : String) : Prop where
  ne_empty : s ≠ ""
  no_comma : ',' ∉ s.toList
  trimmed : trimmed s = s

/-- A written integer is an item. -/
theorem isItem_integerText (i : Int) : IsItem (String.ofList (integerText i)) := by
  have hBlank : ∀ c ∈ integerText i, Text.isBlank c = false := by
    intro c hc
    rcases mem_integerText hc with rfl | hDigit
    · decide
    · exact Decimal.not_isBlank_of_isDigit hDigit
  refine ⟨fun h => integerText_ne_nil i (String.ofList_eq_empty_iff.mp h), fun h => ?_, ?_⟩
  · rw [String.toList_ofList] at h
    rcases mem_integerText h with h | h <;> exact absurd h (by decide)
  · rw [trimmed, String.toList_ofList, Text.trim_of_forall_not_isBlank hBlank]

theorem list_singleton (value : String) : list [value] = items value := by
  rw [list, List.flatMap_cons, List.flatMap_nil, List.append_nil]

/-- Items that are joined by commas are told apart again. -/
theorem items_commaJoined {values : List String} (h : ∀ s ∈ values, IsItem s) : items (Listing.commaJoined values) = values := by
  by_cases hNone : values = []
  · -- no items make the empty text, in which there is one piece, and that is empty
    subst hNone
    decide
  · have hCommas : ∀ s ∈ values.map String.toList, ',' ∉ s := by
      intro s hs
      obtain ⟨value, hValue, rfl⟩ := List.mem_map.mp hs
      exact (h value hValue).no_comma
    have hPieces : (Listing.commaJoined values).toList.splitOn ',' = values.map String.toList := by
      rw [Listing.commaJoined, String.toList_intercalate]
      exact List.splitOn_intercalate ',' hCommas (mt List.map_eq_nil_iff.mp hNone)
    rw [items, hPieces, List.map_map, List.filterMap_map]
    refine (List.filterMap_congr fun s hs => ?_).trans (List.filterMap_some ..)
    have hTrim : Text.trim s.toList = s.toList := by
      have hTrimmed := congrArg String.toList (h s hs).trimmed
      rwa [trimmed, String.toList_ofList] at hTrimmed
    have hNonempty : s.toList.isEmpty = false := List.isEmpty_eq_false_iff.mpr (mt String.toList_eq_nil_iff.mp (h s hs).ne_empty)
    simp only [Function.comp_apply, hTrim, hNonempty, String.ofList_toList]
    rfl

/-! ## Unsigned integers -/

/-- An item of an option says an unsigned integer. -/
def Says (item : String) (i : Int) : Prop := 0 ≤ i ∧ readInteger item = .ok i

/-- Integers as a listing shows them in one cell. -/
def joinedIntegers (numbers : List Int) : String := Listing.commaJoined (numbers.map fun i => String.ofList (integerText i))

/-- The numbers of an option are what its items say, in their order. -/
theorem unsignedList_eq_ok_iff (values : List String) (numbers : List Int) :
    unsignedList values = .ok numbers ↔ List.Forall₂ Says (list values) numbers := by
  have hSays : List.Forall₂ Says (list values) numbers ↔ (∀ i ∈ numbers, 0 ≤ i) ∧ (list values).mapM readInteger = .ok numbers := by
    rw [mapM_eq_ok_iff]
    constructor
    · intro h
      obtain ⟨hUnsigned, hRead⟩ := (List.forall₂_and_left ..).mp (List.Forall₂.flip (R := flip Says) h)
      exact ⟨hUnsigned, hRead.flip⟩
    · intro ⟨hUnsigned, hRead⟩
      exact ((List.forall₂_and_left ..).mpr ⟨hUnsigned, List.Forall₂.flip (R := flip _) hRead⟩).flip
  rw [hSays]
  constructor
  · intro h
    obtain ⟨read, hRead, h⟩ := ok_bind h
    split at h
    · cases h
    · rename_i hNegative
      cases h
      exact ⟨by simpa using hNegative, ok_mapError hRead⟩
  · intro ⟨hUnsigned, hRead⟩
    have hNegative : ¬ numbers.any (· < 0) = true := by simpa using hUnsigned
    rw [unsignedList, hRead]
    exact if_neg hNegative

/-- The numbers of an option are unsigned and have no more digits than are read. -/
theorem isShort_of_unsignedList {values : List String} {numbers : List Int} (h : unsignedList values = .ok numbers) :
    ∀ i ∈ numbers, 0 ≤ i ∧ isShort i = true := by
  intro i hi
  obtain ⟨item, -, hUnsigned, hRead⟩ := exists_of_mem_right ((unsignedList_eq_ok_iff values numbers).mp h) hi
  exact ⟨hUnsigned, isShort_of_readInteger hRead⟩

/-- Short unsigned integers that are joined by commas are read back. -/
theorem unsignedList_joinedIntegers {numbers : List Int} (h : ∀ i ∈ numbers, 0 ≤ i ∧ isShort i = true) :
    unsignedList [joinedIntegers numbers] = .ok numbers := by
  have hItems : list [joinedIntegers numbers] = numbers.map fun i => String.ofList (integerText i) := by
    rw [list_singleton]
    refine items_commaJoined fun s hs => ?_
    obtain ⟨i, -, rfl⟩ := List.mem_map.mp hs
    exact isItem_integerText i
  rw [unsignedList_eq_ok_iff, hItems, List.forall₂_map_left_iff, List.forall₂_same]
  exact fun i hi => ⟨(h i hi).1, readInteger_integerText (h i hi).2⟩

/-- An option is refused as a list of unsigned integers because one of its items says none. -/
theorem exists_of_unsignedList_error {values : List String} {e : OptionError} (h : unsignedList values = .error e) :
    (e = .negative ∨ ∃ failure, e = .numeral failure) ∧ ∃ item ∈ list values, ∀ i, ¬ Says item i := by
  rcases error_bind h with hRead | ⟨read, hRead, h⟩
  · obtain ⟨failure, hFailure, rfl⟩ := error_mapError hRead
    obtain ⟨item, hItem, hNone⟩ := error_mapM hFailure
    refine ⟨.inr ⟨failure, rfl⟩, item, hItem, fun i hSays => ?_⟩
    rw [hSays.2] at hNone
    cases hNone
  · split at h
    · rename_i hNegative
      cases h
      obtain ⟨i, hi, hLess⟩ := List.any_eq_true.mp hNegative
      obtain ⟨item, hItem, hInteger⟩ := exists_of_mem_right (mapM_eq_ok_iff.mp (ok_mapError hRead)) hi
      refine ⟨.inl rfl, item, hItem, fun j hSays => ?_⟩
      have hSame : i = j := Except.ok.inj (hInteger.symm.trans hSays.2)
      exact absurd (hSame ▸ hSays.1) (Int.not_le.mpr (of_decide_eq_true hLess))
    · cases h

end Options

/-! ## What a listing of nodes shows -/

namespace Node

/-- A node that can be given by options: its texts are items, and its cells are short unsigned integers. -/
structure IsTypable (n : Node) : Prop where
  serviceModels : ∀ s ∈ n.serviceModels, Options.IsItem s
  controllers : ∀ s ∈ n.controllers, Options.IsItem s
  cells : ∀ i ∈ n.cellEcgis, 0 ≤ i ∧ i < (10 ^ Numeral.maxDigits : Nat)

/-- The cells of the row of a node, given as options, are the fields of the node again. And any option that is a list of unsigned
integers says one for each of its items, and says the same when it is given as a listing shows it; any other is refused for an item
that says none. -/
theorem row_isTypedBack :
    (∀ n : Node, n.IsTypable →
      Options.list [Listing.shown n.row "service_models"] = n.serviceModels ∧
        Options.list [Listing.shown n.row "e2t_controllers"] = n.controllers ∧
        Options.unsignedList [Listing.shown n.row "cell_ecgis"] = .ok n.cellEcgis) ∧
      ∀ values : List String,
        (∃ numbers, Options.unsignedList values = .ok numbers ∧ List.Forall₂ Options.Says (Options.list values) numbers ∧
            Options.unsignedList [Options.joinedIntegers numbers] = .ok numbers) ∨
          ∃ e, Options.unsignedList values = .error e ∧ (e = .negative ∨ ∃ failure, e = .numeral failure) ∧
            ∃ item ∈ Options.list values, ∀ i, ¬ Options.Says item i := by
  constructor
  · intro n hTypable
    have hModels : Listing.shown n.row "service_models" = Listing.commaJoined n.serviceModels := String.ofList_toList
    have hControllers : Listing.shown n.row "e2t_controllers" = Listing.commaJoined n.controllers := String.ofList_toList
    have hCells : Listing.shown n.row "cell_ecgis" = Options.joinedIntegers n.cellEcgis := String.ofList_toList
    rw [hModels, hControllers, hCells, Options.list_singleton, Options.list_singleton]
    refine ⟨Options.items_commaJoined hTypable.serviceModels, Options.items_commaJoined hTypable.controllers,
      Options.unsignedList_joinedIntegers fun i hi => ?_⟩
    obtain ⟨hUnsigned, hLess⟩ := hTypable.cells i hi
    exact ⟨hUnsigned, (isShort_iff i).mpr (by omega)⟩
  · intro values
    cases h : Options.unsignedList values with
    | ok numbers =>
      exact .inl ⟨numbers, rfl, (Options.unsignedList_eq_ok_iff values numbers).mp h,
        Options.unsignedList_joinedIntegers (Options.isShort_of_unsignedList h)⟩
    | error e => exact .inr ⟨e, rfl, Options.exists_of_unsignedList_error h⟩

/-- A node without controllers whose cells are zero and one more, and numbers that are written otherwise than a listing shows them. -/
theorem row_isTypedBack_signed :
    let n : Node := { enbid := 1, serviceModels := ["kpm", "r c"], cellEcgis := [0, 87893173159116801] }
    (Options.list [Listing.shown n.row "service_models"] = ["kpm", "r c"] ∧ Options.list [Listing.shown n.row "e2t_controllers"] = [] ∧
        Options.unsignedList [Listing.shown n.row "cell_ecgis"] = .ok [0, 87893173159116801]) ∧
      Options.list ["+1_0, ٣", "", " 007"] = ["+1_0", "٣", "007"] ∧ Options.unsignedList ["+1_0, ٣", "", " 007"] = .ok [10, 3, 7] ∧
      Options.unsignedList [Options.joinedIntegers [10, 3, 7]] = .ok [10, 3, 7] := by
  intro n
  obtain ⟨hRow, hValues⟩ := row_isTypedBack
  have hTypable : n.IsTypable := by
    refine ⟨?_, ?_, ?_⟩
    · simp only [n, List.forall_mem_cons]
      exact ⟨⟨by decide, by decide, by decide⟩, ⟨by decide, by decide, by decide⟩, List.forall_mem_nil _⟩
    · exact List.forall_mem_nil _
    · decide +kernel
  refine ⟨hRow n hTypable, by decide, ?_⟩
  have hRead : Options.unsignedList ["+1_0, ٣", "", " 007"] = .ok [10, 3, 7] := by decide
  rcases hValues ["+1_0, ٣", "", " 007"] with ⟨numbers, hNumbers, -, hAgain⟩ | ⟨e, hError, -⟩
  · obtain rfl : numbers = [10, 3, 7] := Except.ok.inj (hNumbers.symm.trans hRead)
    exact ⟨hRead, hAgain⟩
  · rw [hRead] at hError
    cases hError

end Node

end RanConsole

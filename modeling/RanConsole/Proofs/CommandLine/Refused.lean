import RanConsole.CommandLine.Run
import RanConsole.Proofs.Config.Reload
import RanConsole.Proofs.Config.Writable

/-!
# Values that end a command

The value that is to be set plays no part in how the command ends, unless the way to its place is open and the value is refused: then the
command ends in an error that nobody takes care of (`setSetting_endsAlike`).
-/

namespace RanConsole.CommandLine

open Config

/-- Whether the way to the place of a value is open: the file can be read, and the path leads through mappings alone. -/
def IsOpen (s : Store) (key : String) : Prop :=
  ∃ d, s.load = .ok d ∧ blockedAt? d (pathOf key) d.entries = none

/-- What becomes of a text that is to be set, where the value does not count for the ending. -/
structure EndsAlike (s : Store) (key : String) (ending : Ending) (text : String) : Prop where
  /-- The text means one scalar. -/
  means : ∃! x, Means text x
  /-- It is taken for what it means, unless it is refused. -/
  coerced : ∀ x, coerce text = .ok x ↔ Means text x ∧ ¬ IsRefused text
  accepted : ¬ IsRefused text → (setSetting s key text).1.ending = ending
  unreached : ¬ IsOpen s key → (setSetting s key text).1.ending = ending
  /-- A refused text crashes the command, and the file stays as it was. -/
  refused : IsRefused text → ∃ e, readInteger text = .error e ∧ coerce text = .error e ∧
    (IsOpen s key → setSetting s key text = (.crashed (.numeral e), s))

section

variable {s : Store} {key : String}

/-- Where the way is not open, all values end the command alike. -/
theorem exists_setSetting_of_not_isOpen (h : ¬ IsOpen s key) : ∃ report, ∀ text, setSetting s key text = (report, s) := by
  cases hLoad : s.load with
  | error e =>
    refine ⟨loadReport e, fun text => ?_⟩
    rw [setSetting, Store.set_of_unread hLoad]
  | ok d =>
    cases hBlocked : blockedAt? d (pathOf key) d.entries with
    | none => exact absurd ⟨d, hLoad, hBlocked⟩ h
    | some k =>
      refine ⟨.failed failureCode ["Error: Cannot set nested key under non-dict value at '" ++ k ++ "'"], fun text => ?_⟩
      rw [setSetting, Store.set_of_blocked hLoad hBlocked]

/-- Where the way is open, the command ends by whether the document can be written with a value, whatever value it is. -/
theorem exists_ending_of_isOpen (h : IsOpen s key) :
    ∃ ending, ∀ text x, coerce text = .ok x → (setSetting s key text).1.ending = ending := by
  obtain ⟨d, hLoad, hOpen⟩ := h
  have hNull : coerce "null" = .ok .null := by decide
  have hFault {text : String} {x : Yaml.Scalar} (hx : coerce text = .ok x) :=
    fault?_setIn hx hNull d (pathOf key) Yaml.maxWrittenDepth
  cases hNone : (Yaml.Outline.ofDocument (setIn d (pathOf key) (.scalar .null))).fault? Yaml.maxWrittenDepth with
  | none =>
    refine ⟨.exit 0, fun text x hx => ?_⟩
    have hWritten : (setIn d (pathOf key) (.scalar x)).written = .ok (setIn d (pathOf key) (.scalar x)).render := by
      rw [Yaml.Document.written, hFault hx, hNone]
    rw [setSetting, Store.set_of_written hLoad hOpen hx hWritten]
    rfl
  | some e =>
    refine ⟨.crash (.write e), fun text x hx => ?_⟩
    have hWritten : (setIn d (pathOf key) (.scalar x)).written = .error e := by
      rw [Yaml.Document.written, hFault hx, hNone]
    rw [setSetting, Store.set_of_unwritten hLoad hOpen hx hWritten]
    rfl

theorem exists_coerce_of_not_isRefused {text : String} (h : ¬ IsRefused text) : ∃ x, coerce text = .ok x := by
  obtain ⟨x, hx, -⟩ := existsUnique_means text
  exact ⟨x, (coerce_eq_ok_iff text x).mpr ⟨hx, h⟩⟩

end

/-- Setting a value ends the same for all values, unless the value is refused. -/
theorem setSetting_endsAlike (s : Store) (key : String) : ∃ ending, ∀ text, EndsAlike s key ending text := by
  by_cases hOpen : IsOpen s key
  · obtain ⟨ending, hEnding⟩ := exists_ending_of_isOpen hOpen
    refine ⟨ending, fun text => ⟨existsUnique_means text, coerce_eq_ok_iff text, fun h => ?_, fun h => absurd hOpen h, fun h => ?_⟩⟩
    · obtain ⟨x, hx⟩ := exists_coerce_of_not_isRefused h
      exact hEnding text x hx
    · obtain ⟨e, hInteger, hError⟩ := coerce_of_isRefused h
      refine ⟨e, hInteger, hError, fun ⟨d, hLoad, hBlocked⟩ => ?_⟩
      rw [setSetting, Store.set_of_refused hLoad hBlocked hError]
  · obtain ⟨report, hReport⟩ := exists_setSetting_of_not_isOpen hOpen
    have hEnding (text : String) : (setSetting s key text).1.ending = report.ending := by rw [hReport]
    refine ⟨report.ending, fun text => ⟨existsUnique_means text, coerce_eq_ok_iff text, fun _ => hEnding text, fun _ => hEnding text,
      fun h => ?_⟩⟩
    obtain ⟨e, hInteger, hError⟩ := coerce_of_isRefused h
    exact ⟨e, hInteger, hError, fun h => absurd h hOpen⟩

end RanConsole.CommandLine

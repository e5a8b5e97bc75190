import RanConsole.CommandLine.Run
import RanConsole.Proofs.Config.Reload
import RanConsole.Proofs.Config.SetValue
import RanConsole.Proofs.Config.Tree
import RanConsole.Proofs.Yaml.Equality

/-!
# Setting a value in a tree

A value that is set in a file that holds a tree updates the tree, if the tree that is written reads back. The command fails if and only if
the path is blocked, and leaves everything as it was then. Repeating it changes nothing more, a second value at the same path takes the
place of the first, and values at paths apart from each other can be set in either order (`setSetting_updatesTree`).
-/

namespace RanConsole.CommandLine

open Config Yaml

/-! ## Files that hold trees -/

/-- Whether a tree is written and read back as it was. -/
def isKept (half : Char) (entries : Entries) : Bool :=
  match (Document.ofEntries entries).written with
  | .error _ => false
  | .ok t => decide ((Yaml.read (String.ofList (Text.withLineFeeds t.toList)) half).toOption = some (some (.ofEntries entries)))

theorem exists_text_of_isKept {half : Char} {entries : Entries} (h : isKept half entries = true) :
    ∃ t, (Document.ofEntries entries).written = .ok t ∧
      Yaml.read (String.ofList (Text.withLineFeeds t.toList)) half = .ok (some (.ofEntries entries)) := by
  rw [isKept] at h
  split at h
  · cases h
  · rename_i t hWritten
    exact ⟨t, hWritten, ok_of_toOption (of_decide_eq_true h)⟩

/-- A value at a path makes a tree that is kept, unless the path is blocked. -/
def KeepsSet (half : Char) (entries : Entries) (keys : List String) (value : Scalar) : Prop :=
  (∀ key, ¬ BlockedAt keys entries key) → isKept half (setAt keys (.scalar value) entries) = true

theorem readFile_of_read {half : Char} {path text : String} {entries : Entries}
    (h : Yaml.read text half = .ok (some (.ofEntries entries))) : readFile half path text = .ok (.ofEntries entries) := by
  rw [readFile, h]
  cases entries <;> rfl

/-- The file that is written holds the tree from then on. -/
theorem load_withFile {s : Store} {d : Document} (hLoad : s.load = .ok d) {entries : Entries} {t : String}
    (hRead : Yaml.read (String.ofList (Text.withLineFeeds t.toList)) s.half = .ok (some (.ofEntries entries))) :
    (s.withFile (s.find?.getD Store.defaultPath) t).load = .ok (.ofEntries entries) := by
  rw [Store.load_eq] at hLoad
  rw [Store.load, Store.find?_withFile hLoad]
  simp only [Store.loadFrom, Store.placeOf_withFile]
  exact readFile_of_read hRead

/-- Setting a value leaves what stands for half of a pair. -/
theorem half_set (s : Store) (dotted text : String) : (s.set dotted text).2.half = s.half := by
  rw [Store.set]
  split
  · rfl
  · split <;> rfl

section

variable {s : Store} {before : Entries} (hLoad : s.load = .ok (.ofEntries before)) {dotted : String}
include hLoad

/-- A blocked path leaves everything as it was. -/
theorem set_of_blockedAt {key : String} (h : BlockedAt (pathOf dotted) before key) (text : String) :
    s.set dotted text = (.error (.blocked key), s) := by
  have hBlocked : blockedAt? (.ofEntries before) (pathOf dotted) (Document.ofEntries before).entries = some key :=
    (blockedAt?_eq_some_iff before (pathOf dotted) before key).mpr h
  exact Store.set_of_blocked hLoad hBlocked text

/-- A free path is written to. -/
theorem set_of_free (hFree : ∀ key, ¬ BlockedAt (pathOf dotted) before key) {text : String} {value : Scalar}
    (hValue : coerce text = .ok value) {t : String}
    (hWritten : (Document.ofEntries (setAt (pathOf dotted) (.scalar value) before)).written = .ok t) :
    s.set dotted text = (.ok ⟨s.find?.getD Store.defaultPath, value⟩, s.withFile (s.find?.getD Store.defaultPath) t) := by
  have hBlocked : blockedAt? (.ofEntries before) (pathOf dotted) (Document.ofEntries before).entries = none :=
    blockedAt?_of_free hFree
  rw [← setIn_ofEntries] at hWritten
  exact Store.set_of_written hLoad hBlocked hValue hWritten

/-- A file that is written keeps its place. -/
theorem find?_getD_withFile (text : String) :
    (s.withFile (s.find?.getD Store.defaultPath) text).find?.getD Store.defaultPath = s.find?.getD Store.defaultPath := by
  rw [Store.load_eq] at hLoad
  rw [Store.find?_withFile hLoad]
  rfl

/-- A second value at the same path takes the place of the first. -/
theorem set_set {first text : String} {old value : Scalar} (hFirst : coerce first = .ok old) (hValue : coerce text = .ok value)
    (hKeptFirst : KeepsSet s.half before (pathOf dotted) old) (hKept : KeepsSet s.half before (pathOf dotted) value) :
    (s.set dotted first).2.set dotted text = s.set dotted text := by
  by_cases hFree : ∀ key, ¬ BlockedAt (pathOf dotted) before key
  · obtain ⟨t, hWritten, hRead⟩ := exists_text_of_isKept (hKeptFirst hFree)
    obtain ⟨t', hWritten', -⟩ := exists_text_of_isKept (hKept hFree)
    rw [set_of_free hLoad hFree hFirst hWritten, set_of_free hLoad hFree hValue hWritten']
    rw [← setAt_setAt _ (.scalar old)] at hWritten'
    rw [set_of_free (load_withFile hLoad hRead) (not_blockedAt_setAt_self _ _ _) hValue hWritten', find?_getD_withFile hLoad,
      Store.withFile_withFile]
  · obtain ⟨key, hKey⟩ := not_forall_not.mp hFree
    rw [set_of_blockedAt hLoad hKey]

/-- The file holds the updated tree once a value was set. -/
theorem load_set {text : String} {value : Scalar} (hValue : coerce text = .ok value)
    (hKept : KeepsSet s.half before (pathOf dotted) value) :
    (s.set dotted text).2.load = .ok (.ofEntries (updated (pathOf dotted) (.scalar value) before)) := by
  by_cases hFree : ∀ key, ¬ BlockedAt (pathOf dotted) before key
  · obtain ⟨t, hWritten, hRead⟩ := exists_text_of_isKept (hKept hFree)
    rw [set_of_free hLoad hFree hValue hWritten, updated_of_free hFree]
    exact load_withFile hLoad hRead
  · obtain ⟨key, hKey⟩ := not_forall_not.mp hFree
    rw [set_of_blockedAt hLoad hKey, updated_of_blockedAt hKey]
    exact hLoad

end

/-! ## The command -/

/-- The complaint about a path that is blocked at a key. -/
def blockedReport (key : String) : Report :=
  .failed failureCode ["Error: Cannot set nested key under non-dict value at '" ++ key ++ "'"]

/-- What setting a value in a tree comes to. -/
structure UpdatesTree (s : Store) (before : Entries) (keys : List String) (value : Scalar) (after : Report × Store) : Prop where
  /-- A blocked path is a failure that leaves everything as it was. -/
  blocked : ∀ key, BlockedAt keys before key → after = (blockedReport key, s)
  /-- There is no other failure. -/
  succeeds : after.1.ending = .exit 0 ↔ ∀ key, ¬ BlockedAt keys before key
  /-- Else the file holds the tree with the value from then on. -/
  updates : (∀ key, ¬ BlockedAt keys before key) →
    ∃ entries, after.2.load = .ok (.ofEntries entries) ∧ IsUpdate keys (.scalar value) before entries

/-- Values that are set with the same result are reported in the same way. -/
theorem setSetting_congr {s s' : Store} {dotted text : String} (h : s.set dotted text = s'.set dotted text) :
    setSetting s dotted text = setSetting s' dotted text := by
  rw [setSetting, setSetting, h]

section

variable {s : Store} {before : Entries} (hLoad : s.load = .ok (.ofEntries before)) {dotted text : String} {value : Scalar}
  (hValue : coerce text = .ok value) (hKept : KeepsSet s.half before (pathOf dotted) value)
include hLoad hValue hKept

theorem updatesTree_setSetting : UpdatesTree s before (pathOf dotted) value (setSetting s dotted text) := by
  by_cases hFree : ∀ key, ¬ BlockedAt (pathOf dotted) before key
  · obtain ⟨t, hWritten, -⟩ := exists_text_of_isKept (hKept hFree)
    refine ⟨fun key hKey => absurd hKey (hFree key), iff_of_true ?_ hFree, fun _ => ⟨_, load_set hLoad hValue hKept, ?_⟩⟩
    · rw [setSetting, set_of_free hLoad hFree hValue hWritten]
      rfl
    · rw [updated_of_free hFree]
      exact isUpdate_setAt (pathOf_ne_nil dotted) _ before
  · obtain ⟨key, hKey⟩ := not_forall_not.mp hFree
    refine ⟨fun key' hKey' => ?_, iff_of_false ?_ hFree, fun h => absurd h hFree⟩
    · rw [setSetting, set_of_blockedAt hLoad hKey']
      rfl
    · rw [setSetting, set_of_blockedAt hLoad hKey]
      exact nofun

/-- Setting a value in a file that holds a tree. It fails if and only if the path is blocked, and leaves everything as it was then; else
the file holds the tree with the value. Repeating it changes nothing more, it takes the place of what was set at the same path before, and
with a value at a path apart from this one it can be set in either order. -/
theorem setSetting_updatesTree :
    UpdatesTree s before (pathOf dotted) value (setSetting s dotted text) ∧
      (setSetting (setSetting s dotted text).2 dotted text).2 = (setSetting s dotted text).2 ∧
      (∀ first old, coerce first = .ok old → KeepsSet s.half before (pathOf dotted) old →
        setSetting (setSetting s dotted first).2 dotted text = setSetting s dotted text) ∧
      ∀ other text' value', Apart (pathOf dotted) (pathOf other) → coerce text' = .ok value' →
        KeepsSet s.half before (pathOf other) value' →
        KeepsSet s.half (updated (pathOf other) (.scalar value') before) (pathOf dotted) value →
        KeepsSet s.half (updated (pathOf dotted) (.scalar value) before) (pathOf other) value' →
        ∃ entries entries', (setSetting (setSetting s other text').2 dotted text).2.load = .ok (.ofEntries entries) ∧
          (setSetting (setSetting s dotted text).2 other text').2.load = .ok (.ofEntries entries') ∧
          SameTree (.map entries) (.map entries') := by
  have hReplaces (first : String) (old : Scalar) (hFirst : coerce first = .ok old)
      (hKeptFirst : KeepsSet s.half before (pathOf dotted) old) :
      setSetting (setSetting s dotted first).2 dotted text = setSetting s dotted text :=
    setSetting_congr (set_set hLoad hFirst hValue hKeptFirst hKept)
  refine ⟨updatesTree_setSetting hLoad hValue hKept, ?_, hReplaces, ?_⟩
  · rw [hReplaces text value hValue hKept]
  · intro other text' value' hApart hValue' hKept' hKeptLast hKeptLast'
    rw [← half_set s other text'] at hKeptLast
    rw [← half_set s dotted text] at hKeptLast'
    refine ⟨_, _, load_set (load_set hLoad hValue' hKept') hValue hKeptLast, load_set (load_set hLoad hValue hKept) hValue' hKeptLast', ?_⟩
    exact sameTree_updated_comm hApart _ _ before

end

/-- What the configuration with the address of the server alone holds. -/
def urlTree : Entries := [(.text "server", .map [(.text "url", .text "http://localhost:5150")])]

/-- The token of the server and the level of the log are set in the configuration with the address of the server alone. -/
theorem setSetting_updatesTree_token :
    UpdatesTree urlOnly urlTree ["server", "token"] (.str "abc") (setSetting urlOnly "server.token" "abc") ∧
      setSetting (setSetting urlOnly "server.token" "x").2 "server.token" "abc" = setSetting urlOnly "server.token" "abc" ∧
      ∃ entries entries',
        (setSetting (setSetting urlOnly "logging.level" "debug").2 "server.token" "abc").2.load = .ok (.ofEntries entries) ∧
        (setSetting (setSetting urlOnly "server.token" "abc").2 "logging.level" "debug").2.load = .ok (.ofEntries entries') ∧
        SameTree (.map entries) (.map entries') := by
  have hPath : pathOf "server.token" = ["server", "token"] := by decide +kernel
  have hOther : pathOf "logging.level" = ["logging", "level"] := by decide +kernel
  have hLoad : urlOnly.load = .ok (.ofEntries urlTree) := ok_of_toOption (by decide +kernel)
  have hValue : coerce "abc" = .ok (.str "abc") := by decide +kernel
  have hKept : KeepsSet urlOnly.half urlTree (pathOf "server.token") (.str "abc") := fun _ => by decide +kernel
  obtain ⟨hUpdates, -, hReplaces, hCommutes⟩ := setSetting_updatesTree hLoad hValue hKept
  rw [hPath] at hUpdates
  refine ⟨hUpdates, hReplaces "x" (.str "x") (by decide +kernel) fun _ => by decide +kernel, ?_⟩
  refine hCommutes "logging.level" "debug" (.str "debug") ?_ (by decide +kernel) (fun _ => by decide +kernel)
    (fun _ => by decide +kernel) fun _ => by decide +kernel
  rw [hPath, hOther]
  exact ⟨by decide, by decide⟩

end RanConsole.CommandLine

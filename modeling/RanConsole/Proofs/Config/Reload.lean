import Mathlib.Data.List.Find
import RanConsole.Proofs.Config.Seen

/-!
# Settings after a value was set

Setting a value writes the file that holds the configuration, and no other file takes its place (`find?_withFile`). So the settings that
are read anew are those of the edited document, if the file that was written reads back as that document (`reload_set`).
-/

namespace RanConsole.Config

/-! ## No variables -/

/-- Whether the environment holds no variable whose name begins like those of settings, whatever its letter case. -/
def hasNoVariables (env : Environment) : Bool :=
  env.all fun (name, _) => !"rancli_".toList.isPrefixOf (lowerCase name).toList

theorem mem_keys_wanted {n : Naming} {k : String} {vars : List (String × Option String)} (h : k ∈ Mapping.keys (n.wanted vars)) :
    ∃ name ∈ Mapping.keys vars, k = n.folded name := by
  have hPairs := Mapping.mem_keys_ofPairs h
  simp only [Mapping.keys, List.map_map, List.mem_map, List.mem_filter] at hPairs
  obtain ⟨pair, ⟨hPair, -⟩, rfl⟩ := hPairs
  exact ⟨pair.1, List.mem_map_of_mem hPair, rfl⟩

/-- Variables of which no name begins like that of a section make no settings of it. -/
theorem nestedEntries_eq_nil {n : Naming} {vars : Variables} {name : String}
    (h : ∀ k ∈ Mapping.keys vars, (n.folded (n.start ++ name) ++ n.nesting).toList.isPrefixOf k.toList = false) :
    nestedEntries n vars name = [] := by
  rw [nestedEntries]
  by_cases hNesting : n.nesting.isEmpty = true
  · rw [if_pos hNesting]
  · rw [if_neg hNesting]
    induction vars with
    | nil => rfl
    | cons pair vars ih =>
      obtain ⟨k, value⟩ := pair
      have hk := h k (List.mem_cons_self ..)
      simp only [List.foldl_cons, hk, Bool.false_eq_true, if_false]
      exact ih fun k hk => h k (List.mem_cons_of_mem _ hk)

/-- Without variables whose names begin like those of settings there is no section in them. -/
theorem variableSection_eq_none {n : Naming} {vars : Variables} {name : String} (settingNames : List String)
    (hVars : ∀ k ∈ Mapping.keys vars, "rancli_".toList.isPrefixOf k.toList = false)
    (hName : "rancli_".toList <+: (n.folded (n.start ++ name)).toList) :
    variableSection n vars name settingNames = .ok none := by
  have hNested : nestedEntries n vars name = [] := by
    refine nestedEntries_eq_nil fun k hk => ?_
    rw [Bool.eq_false_iff]
    intro hBegins
    rw [List.isPrefixOf_iff_prefix, String.toList_append] at hBegins
    refine absurd ?_ (Bool.eq_false_iff.mp (hVars k hk))
    rw [List.isPrefixOf_iff_prefix]
    exact (hName.trans (List.prefix_append _ _)).trans hBegins
  have hNone : Mapping.get? (n.folded (n.start ++ name)) vars = none := by
    rw [← Option.not_isSome_iff_eq_none, Mapping.isSome_get?_iff, Bool.not_eq_true, List.any_eq_false]
    intro k hk hEq
    refine absurd ?_ (Bool.eq_false_iff.mp (hVars k hk))
    rw [List.isPrefixOf_iff_prefix, eq_of_beq hEq]
    exact hName
  rw [variableSection, hNone, hNested]
  rfl

/-- Without variables the environment has no sections. -/
theorem sections_of_hasNoVariables {env : Environment} (h : hasNoVariables env = true) : env.sections = .ok [] := by
  have hVars : ∀ k ∈ Mapping.keys (Naming.wanted {} env.assigned), "rancli_".toList.isPrefixOf k.toList = false := by
    intro k hk
    obtain ⟨name, hName, rfl⟩ := mem_keys_wanted hk
    simp only [Environment.assigned, Mapping.keys, List.map_map, List.mem_map] at hName
    obtain ⟨pair, hPair, rfl⟩ := hName
    have hPair := List.all_eq_true.mp h pair hPair
    simpa [Naming.folded] using hPair
  have hServer : variableSection {} (Naming.wanted {} env.assigned) serverSection serverSettingNames = .ok none :=
    variableSection_eq_none serverSettingNames hVars (by decide)
  have hLog : variableSection {} (Naming.wanted {} env.assigned) logSection logSettingNames = .ok none :=
    variableSection_eq_none logSettingNames hVars (by decide)
  rw [Environment.sections, Naming.sections, hServer, hLog]
  rfl

/-! ## The file that holds the configuration -/

namespace Store

/-- The place of a file that is written is that file. -/
theorem placeOf_withFile (s : Store) (path text : String) :
    placeOf (s.withFile path text).files path = .file (String.ofList (Text.withLineFeeds text.toList)) := by
  simp only [placeOf, withFile]
  rw [Mapping.get?_put_self]

/-- A file that is written again holds what was written last. -/
theorem withFile_withFile (s : Store) (path first text : String) : (s.withFile path first).withFile path text = s.withFile path text := by
  simp only [withFile, Mapping.put_put]

/-- Whether something is at a path is told by the paths of the files. -/
theorem placeOf_eq_nothing_congr {files files' : List (String × String)} (h : Mapping.keys files = Mapping.keys files')
    (path : String) : (placeOf files path != .nothing) = (placeOf files' path != .nothing) := by
  have hSome : (Mapping.get? (resolvedPath path) files).isSome = (Mapping.get? (resolvedPath path) files').isSome := by
    rw [Mapping.isSome_get?_iff, Mapping.isSome_get?_iff, h]
  have hBelow (above : String) : (files.any fun (other, _) => (above ++ "/").toList.isPrefixOf other.toList) =
      files'.any fun (other, _) => (above ++ "/").toList.isPrefixOf other.toList := by
    have hKeys := congrArg (List.any · fun other => (above ++ "/").toList.isPrefixOf other.toList) h
    simpa only [Mapping.keys, List.any_map, Function.comp_def] using hKeys
  simp only [placeOf, hBelow]
  cases hFile : Mapping.get? (resolvedPath path) files with
  | some text =>
    rw [hFile] at hSome
    obtain ⟨text', hFile'⟩ := Option.isSome_iff_exists.mp hSome.symm
    rw [hFile']
    rfl
  | none =>
    have hFile' : Mapping.get? (resolvedPath path) files' = none := by
      rw [hFile] at hSome
      exact Option.isNone_iff_eq_none.mp (Option.isSome_eq_false_iff.mp hSome.symm)
    rw [hFile']

theorem file_of_loadFrom {s : Store} {path : String} {d : Yaml.Document} (hLoad : s.loadFrom path = .ok d)
    (hPlace : (placeOf s.files path != .nothing) = true) : ∃ text, placeOf s.files path = .file text := by
  rw [loadFrom] at hLoad
  cases h : placeOf s.files path with
  | file text => exact ⟨text, rfl⟩
  | directory => simp [h] at hLoad
  | nothing => simp [h] at hPlace

/-- Writing a file anew leaves the paths of all files as they are. -/
theorem keys_withFile {s : Store} {path old : String} (h : placeOf s.files path = .file old) (text : String) :
    Mapping.keys (s.withFile path text).files = Mapping.keys s.files := by
  have hSome : (Mapping.get? (resolvedPath path) s.files).isSome := by
    cases hFile : Mapping.get? (resolvedPath path) s.files with
    | some text => rfl
    | none =>
      simp only [placeOf, hFile] at h
      split at h <;> cases h
  exact Mapping.keys_put_of_isSome hSome _

/-- The file that is written when a value is set is the one that holds the configuration from then on. -/
theorem find?_withFile {s : Store} {d : Yaml.Document} (hLoad : s.loadFrom (s.find?.getD defaultPath) = .ok d) (text : String) :
    (s.withFile (s.find?.getD defaultPath) text).find? = some (s.find?.getD defaultPath) := by
  cases hFind : s.find? with
  | none =>
    have hPlace := placeOf_withFile s defaultPath text
    simp only [Option.getD_none]
    rw [find?, paths, List.find?_cons_of_pos]
    · rfl
    · rw [bne_iff_ne]
      intro hNothing
      cases hPlace.symm.trans hNothing
  | some path =>
    rw [hFind] at hLoad
    simp only [Option.getD_some] at hLoad ⊢
    have hPlace : (placeOf s.files path != .nothing) = true := by
      rw [find?] at hFind
      exact List.find?_some (p := fun path => placeOf s.files path != .nothing) hFind
    obtain ⟨old, hFile⟩ := file_of_loadFrom hLoad hPlace
    rw [← hFind, find?, find?]
    exact List.find?_congr fun other _ => placeOf_eq_nothing_congr (keys_withFile hFile text) other

/-- The configuration is in the file that a value would be written to. -/
theorem load_eq (s : Store) : s.load = s.loadFrom (s.find?.getD defaultPath) := by
  rw [load]
  cases hFind : s.find? with
  | some path => rfl
  | none =>
    have hNothing : placeOf s.files defaultPath = .nothing := by
      rw [find?, List.find?_eq_none] at hFind
      simpa using hFind defaultPath (by simp [paths, defaultPath])
    rw [Option.getD_none, loadFrom, hNothing]

/-- Settings that are read anew do not depend on those that were kept. -/
theorem reload_fst (s : Store) : s.reload.1 = s.current := by
  have hCurrent : ({ s with kept := none } : Store).current = s.current := rfl
  rw [reload, settings, hCurrent]
  cases s.current <;> rfl

/-! ## Setting a value -/

theorem set_of_unread {s : Store} {e : LoadError} (h : s.load = .error e) (dotted text : String) :
    s.set dotted text = (.error (.load e), s) := by
  rw [set, edited, ← load_eq, h]
  rfl

section

variable {s : Store} {d : Yaml.Document} (hLoad : s.load = .ok d) {dotted : String}
include hLoad

theorem set_of_blocked {key : String} (h : blockedAt? d (pathOf dotted) d.entries = some key) (text : String) :
    s.set dotted text = (.error (.blocked key), s) := by
  rw [set, edited, ← load_eq, hLoad]
  simp only [Except.mapError, bind, Except.bind, h]

variable (hOpen : blockedAt? d (pathOf dotted) d.entries = none) {text : String}
include hOpen

theorem set_of_refused {e : NumeralError} (h : coerce text = .error e) : s.set dotted text = (.error (.numeral e), s) := by
  rw [set, edited, ← load_eq, hLoad]
  simp only [Except.mapError, bind, Except.bind, hOpen, h]

theorem set_of_written {value : Yaml.Scalar} (h : coerce text = .ok value) {t : String}
    (hWritten : (setIn d (pathOf dotted) (.scalar value)).written = .ok t) :
    s.set dotted text = (.ok ⟨s.find?.getD defaultPath, value⟩, s.withFile (s.find?.getD defaultPath) t) := by
  rw [set, edited, ← load_eq, hLoad]
  simp only [Except.mapError, bind, Except.bind, pure, Except.pure, hOpen, h, hWritten]

/-- A document that cannot be written leaves an empty file. -/
theorem set_of_unwritten {value : Yaml.Scalar} (h : coerce text = .ok value) {e : Yaml.WriteError}
    (hWritten : (setIn d (pathOf dotted) (.scalar value)).written = .error e) :
    s.set dotted text = (.error (.write e), s.withFile (s.find?.getD defaultPath) "") := by
  rw [set, edited, ← load_eq, hLoad]
  simp only [Except.mapError, bind, Except.bind, pure, Except.pure, hOpen, h, hWritten]

end

/-- What it takes to set a value: the way through the document is free, the text has a value, and the document with it is written. -/
theorem set_eq_ok {s s' : Store} {dotted text : String} {w : Written} (h : s.set dotted text = (.ok w, s')) :
    ∃ d t, s.load = .ok d ∧ blockedAt? d (pathOf dotted) d.entries = none ∧ coerce text = .ok w.value ∧
      w.path = s.find?.getD defaultPath ∧ (setIn d (pathOf dotted) (.scalar w.value)).written = .ok t ∧
      s' = s.withFile w.path t := by
  cases hLoad : s.load with
  | error e => cases (set_of_unread hLoad dotted text).symm.trans h
  | ok d =>
    cases hBlocked : blockedAt? d (pathOf dotted) d.entries with
    | some key => cases (set_of_blocked hLoad hBlocked text).symm.trans h
    | none =>
      cases hValue : coerce text with
      | error e => cases (set_of_refused hLoad hBlocked hValue).symm.trans h
      | ok value =>
        cases hWritten : (setIn d (pathOf dotted) (.scalar value)).written with
        | error e => cases (set_of_unwritten hLoad hBlocked hValue hWritten).symm.trans h
        | ok t =>
          cases (set_of_written hLoad hBlocked hValue hWritten).symm.trans h
          exact ⟨d, t, rfl, hBlocked, rfl, rfl, hWritten, rfl⟩

/-- Whether the file that holds a document reads back as a document that looks the same. -/
def readsBack (half : Char) (path : String) (d : Yaml.Document) : Bool :=
  match d.written with
  | .error _ => true
  | .ok text =>
    match readFile half (shownPath path) (String.ofList (Text.withLineFeeds text.toList)) with
    | .error _ => false
    | .ok read => decide (seenSections read.sections = seenSections d.sections)

/-- After a value was set the settings are those of the edited document. -/
theorem reload_set {s s' : Store} {d : Yaml.Document} {dotted text : String} {w : Written}
    (hEnv : hasNoVariables s.environment = true) (hLoad : s.load = .ok d) (hSet : s.set dotted text = (.ok w, s'))
    (hRead : readsBack s.half w.path (setIn d (pathOf dotted) (.scalar w.value)) = true) :
    s'.reload.1 = Settings.layered s'.files s.environment (setIn d (pathOf dotted) (.scalar w.value)).sections := by
  obtain ⟨d', t, hLoad', -, -, hPath, hWritten, rfl⟩ := set_eq_ok hSet
  obtain rfl : d = d' := Except.ok.inj (hLoad.symm.trans hLoad')
  have hFind : (s.withFile w.path t).find? = some w.path := by
    rw [load_eq] at hLoad
    rw [hPath]
    exact find?_withFile hLoad t
  rw [readsBack, hWritten] at hRead
  cases hFile : readFile s.half (shownPath w.path) (String.ofList (Text.withLineFeeds t.toList)) with
  | error e => simp [hFile] at hRead
  | ok read =>
    simp only [hFile, decide_eq_true_eq] at hRead
    have hNew : (s.withFile w.path t).load = .ok read := by
      rw [load, hFind]
      have hHalf : (s.withFile w.path t).half = s.half := rfl
      simp only [loadFrom, placeOf_withFile, hHalf, hFile]
    rw [reload_fst, current, hNew]
    exact layered_congr _ (sections_of_hasNoVariables hEnv) hRead

end Store

end RanConsole.Config

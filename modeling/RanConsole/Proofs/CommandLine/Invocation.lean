import RanConsole.CommandLine.Run
import RanConsole.Proofs.Results

/-!
# How a run comes to its task

Arguments invoke an action when the words among them lead to it through the groups (`Invokes`). Such a run launches a task of the
action, or it ends before anything is sent, with nothing on the standard output and not with success, unless it is asked for help
(`begins_of_invokes`). If it launches none, no server has a part in what it prints (`launches_of_invokes`).
-/

namespace RanConsole.CommandLine

open Config

variable {σ : Type}

/-! ## Words that lead to an action -/

/-- The first arguments of a command lead through its groups to an action at a place, and the others are arguments of the action. -/
inductive Leads : (words : List String) → Command → (arguments : List String) → (place : List String) → Action →
    (rest : List String) → Prop
  | here (words : List String) (action : Action) (rest : List String) : Leads words (.action action) rest words action rest
  | member {words arguments left place rest : List String} {members : List (String × Command)} {a : Scanned} {word : String}
      {command : Command} {action : Action} (hGroup : readGroup words [.help] arguments = .ok (a, word, left))
      (hMember : members.lookup word = some command) (hLeads : Leads (words ++ [word]) command left place action rest) :
      Leads words (.group members) arguments place action rest

/-- The arguments of a run invoke an action: those in front are options of the program and the words that lead to it. -/
def Invokes (arguments : List String) (options : LogOptions) (action : Action) (rest : List String) : Prop :=
  ∃ word command left place, readProgram arguments = .ok (options, word, command, left) ∧
    Leads [programName, word] command left place action rest

theorem readMember_of_lookup {words rest : List String} {word : String} {members : List (String × Command)} {command : Command}
    (h : members.lookup word = some command) :
    readMember words word rest members = readCommand (words ++ [word]) command rest := by
  induction members with
  | nil => cases h
  | cons member members ih =>
    obtain ⟨name, other⟩ := member
    rw [readMember]
    by_cases hName : name = word
    · subst hName
      rw [List.lookup_cons, beq_self_eq_true, Option.some.injEq] at h
      rw [if_pos rfl, h]
    · have hOther : (word == name) = false := by simpa using Ne.symm hName
      rw [List.lookup_cons, hOther] at h
      rw [if_neg hName]
      exact ih h

theorem readCommand_group {words arguments left : List String} {members : List (String × Command)} {a : Scanned} {word : String}
    (h : readGroup words [.help] arguments = .ok (a, word, left)) :
    readCommand words (.group members) arguments = readMember words word left members := by
  rw [readCommand, h]
  rfl

/-- A command is read as the action that its arguments lead to. -/
theorem readCommand_of_leads {words arguments place rest : List String} {command : Command} {action : Action}
    (h : Leads words command arguments place action rest) :
    readCommand words command arguments = readCommand place (.action action) rest := by
  induction h with
  | here => rfl
  | member hGroup hMember _ ih => rw [readCommand_group hGroup, readMember_of_lookup hMember, ih]

/-! ## The options of an action -/

theorem readLetters_known {known : List Switch} {letters : List Char} {reading : Reading} (h : readLetters known letters = .ok reading) :
    (∀ p ∈ reading.1, p.1 ∈ known) ∧ ∀ p ∈ reading.2, p.1 ∈ known := by
  induction letters generalizing reading with
  | nil =>
    cases h
    simp
  | cons c rest ih =>
    rw [readLetters] at h
    cases hFound : known.find? (·.letter? = some c) with
    | none => simp [hFound] at h
    | some s =>
      have hs : s ∈ known := List.mem_of_find?_eq_some hFound
      simp only [hFound] at h
      split at h
      · cases h
        by_cases hRest : rest = [] <;> simp [hRest, hs]
      · cases hLater : readLetters known rest with
        | error e =>
          rw [hLater] at h
          cases h
        | ok later =>
          rw [hLater] at h
          cases h
          obtain ⟨hGiven, hLast⟩ := ih hLater
          refine ⟨fun p hp => ?_, hLast⟩
          rcases List.mem_cons.mp hp with rfl | hp
          · exact hs
          · exact hGiven p hp

theorem readOption_known {known : List Switch} {argument : List Char} {reading : Reading}
    (h : readOption known argument = .ok reading) : (∀ p ∈ reading.1, p.1 ∈ known) ∧ ∀ p ∈ reading.2, p.1 ∈ known := by
  simp only [readOption] at h
  cases hFound : known.find? (·.name = String.ofList (attachedValue argument).1) with
  | none =>
    rw [hFound] at h
    simp only at h
    split at h
    · cases h
    · exact readLetters_known h
  | some s =>
    have hs : s ∈ known := List.mem_of_find?_eq_some hFound
    rw [hFound] at h
    cases hTakes : s.takesValue <;> cases hValue : (attachedValue argument).2 <;> simp only [hTakes, hValue] at h <;> cases h <;>
      simp [hs]

theorem mem_given_addAll {given : List (Switch × Option String)} {a : Scanned} {p : Switch × Option String} :
    p ∈ (a.addAll given).given ↔ p ∈ given ∨ p ∈ a.given :=
  List.mem_append

/-- Only options that are known are scanned. -/
theorem scan_known {known : List Switch} {ofGroup : Bool} {arguments : List String} {a : Scanned}
    (h : scan known ofGroup arguments = .ok a) : ∀ p ∈ a.given, p.1 ∈ known := by
  induction arguments using scan.induct known ofGroup generalizing a with
  | case1 => cases h; simp
  | case2 rest =>
    rw [scan, if_pos rfl] at h
    cases h
    simp
  | case3 argument rest hDashes hOption e hRead =>
    rw [scan, if_neg hDashes, if_pos hOption, hRead] at h
    cases h
  | case4 argument rest hDashes hOption given hRead ih =>
    rw [scan, if_neg hDashes, if_pos hOption, hRead] at h
    obtain ⟨later, hLater, rfl⟩ := ok_map h
    intro p hp
    rcases mem_given_addAll.mp hp with hp | hp
    · exact (readOption_known hRead).1 p hp
    · exact ih hLater p hp
  | case5 argument hDashes hOption given s name hRead =>
    rw [scan, if_neg hDashes, if_pos hOption, hRead] at h
    cases h
  | case6 argument hDashes hOption given s name hRead value rest ih =>
    rw [scan, if_neg hDashes, if_pos hOption, hRead] at h
    obtain ⟨later, hLater, rfl⟩ := ok_map h
    intro p hp
    rcases mem_given_addAll.mp hp with hp | hp
    · rcases List.mem_append.mp hp with hp | hp
      · exact (readOption_known hRead).1 p hp
      · rw [List.mem_singleton.mp hp]
        exact (readOption_known hRead).2 _ rfl
    · exact ih hLater p hp
  | case7 argument rest hDashes hOption hGroup =>
    rw [scan, if_neg hDashes, if_neg hOption, if_pos hGroup] at h
    cases h
    simp
  | case8 argument rest hDashes hOption hGroup ih =>
    rw [scan, if_neg hDashes, if_neg hOption, if_neg hGroup] at h
    obtain ⟨later, hLater, rfl⟩ := ok_map h
    have hKnown := ih hLater
    exact hKnown

/-- Actions do not have the option for the version. -/
theorem version_notMem_switches (action : Action) : .version ∉ action.switches := by
  cases action <;> simp [Action.switches]

theorem firstOf_of_not_help {action : Action} {arguments : List String} {a : Scanned} (place : Place)
    (hScan : scan action.switches false arguments = .ok a) (hHelp : a.has .help = false) : firstOf place a = .ok () := by
  rw [firstOf, List.find?_eq_none.mpr]
  rintro ⟨s, v⟩ hp
  simp only [decide_eq_true_eq]
  rintro (rfl | rfl)
  · rw [Scanned.has, List.any_eq_false] at hHelp
    exact hHelp _ hp (by simp)
  · exact version_notMem_switches action (scan_known hScan _ hp)

/-! ## Reading an action -/

/-- The arguments of an action are scanned before they make a task. -/
theorem exists_scan_of_readCommand {place rest : List String} {action : Action} {task : Task}
    (h : readCommand place (.action action) rest = .ok task) :
    ∃ a, scan action.switches false rest = .ok a ∧ action.task a = .ok task := by
  rw [readCommand] at h
  obtain ⟨a, hScanned, hTask⟩ := ok_bind h
  obtain ⟨b, hScan, hRest⟩ := ok_bind hScanned
  obtain ⟨-, -, hRest⟩ := ok_bind hRest
  obtain ⟨-, -, hEq⟩ := ok_bind hRest
  cases hEq
  exact ⟨a, ok_mapError hScan, ok_mapError hTask⟩

/-- Arguments of an action that make no task are wrong, unless help is asked for. -/
theorem exists_usage_of_readCommand {place rest : List String} {action : Action} {stop : Stop}
    (h : readCommand place (.action action) rest = .error stop)
    (hHelp : ∀ a, scan action.switches false rest = .ok a → a.has .help = false) :
    ∃ where_ e, stop = .usage where_ e := by
  rw [readCommand] at h
  rcases error_bind h with hScanned | ⟨a, -, hTask⟩
  · rcases error_bind hScanned with hScan | ⟨a, hScan, hRest⟩
    · obtain ⟨e, -, rfl⟩ := error_mapError hScan
      exact ⟨_, e, rfl⟩
    · have hScan := ok_mapError hScan
      rw [firstOf_of_not_help _ hScan (hHelp a hScan)] at hRest
      rcases error_bind hRest with hCheck | ⟨-, -, hEq⟩
      · cases hCheck
      · rcases error_bind hEq with hCheck | ⟨-, -, hEq⟩
        · obtain ⟨e, -, rfl⟩ := error_mapError hCheck
          exact ⟨_, e, rfl⟩
        · cases hEq
  · obtain ⟨e, -, rfl⟩ := error_mapError hTask
    exact ⟨_, e, rfl⟩

/-! ## Runs -/

/-- What holds for the calls of a run with the given options and settings. -/
def surroundingsOf (clock : Log.Clock) (options : LogOptions) (settings : Settings) (store : Store) : Surroundings :=
  { clock, log := logSetup options settings.log, settings, environment := store.environment }

/-- A run comes to a task, with what holds for its calls and the configuration it leaves. -/
def Launches (clock : Log.Clock) (arguments : List String) (store : Store) (s : Surroundings) (left : Store) (task : Task) : Prop :=
  ∃ options word command rest settings, readProgram arguments = .ok (options, word, command, rest) ∧
    store.settings = (.ok settings, left) ∧ readCommand [programName, word] command rest = .ok task ∧
    s = surroundingsOf clock options settings left

/-- A run that comes to a task does it. -/
theorem run_of_launches {clock : Log.Clock} {arguments : List String} {store left : Store} {s : Surroundings} {task : Task}
    (h : Launches clock arguments store s left task) (server : Http.Server σ) (start : σ) :
    run server clock arguments store start = perform server s left (.start start) task := by
  obtain ⟨options, word, command, rest, settings, hProgram, hSettings, hTask, rfl⟩ := h
  rw [run, hProgram]
  simp only [hSettings, hTask]
  rfl

/-- A run without settings says so. -/
theorem run_of_unsettled {arguments rest : List String} {options : LogOptions} {word : String} {command : Command} {store left : Store}
    {e : LoadError} (hProgram : readProgram arguments = .ok (options, word, command, rest)) (hSettings : store.settings = (.error e, left))
    (server : Http.Server σ) (clock : Log.Clock) (start : σ) :
    run server clock arguments store start = ⟨loadReport e, left, .start start⟩ := by
  rw [run, hProgram]
  simp only [hSettings]

/-- A run whose arguments hold no task reports on them. -/
theorem run_of_stop {arguments rest : List String} {options : LogOptions} {word : String} {command : Command} {store left : Store}
    {settings : Settings} {stop : Stop} (hProgram : readProgram arguments = .ok (options, word, command, rest))
    (hSettings : store.settings = (.ok settings, left)) (hStop : readCommand [programName, word] command rest = .error stop)
    (server : Http.Server σ) (clock : Log.Clock) (start : σ) :
    run server clock arguments store start = ⟨stop.report, left, .start start⟩ := by
  rw [run, hProgram]
  simp only [hSettings, hStop]

/-- A run comes to one task at most. -/
theorem launches_unique {clock : Log.Clock} {arguments : List String} {store left left' : Store} {s s' : Surroundings}
    {task task' : Task} (h : Launches clock arguments store s left task) (h' : Launches clock arguments store s' left' task') :
    s' = s ∧ left' = left ∧ task' = task := by
  obtain ⟨options, word, command, rest, settings, hProgram, hSettings, hTask, rfl⟩ := h
  obtain ⟨options', word', command', rest', settings', hProgram', hSettings', hTask', rfl⟩ := h'
  rw [hProgram] at hProgram'
  cases hProgram'
  rw [hSettings] at hSettings'
  cases hSettings'
  rw [hTask] at hTask'
  cases hTask'
  exact ⟨rfl, rfl, rfl⟩

/-- How a run that invokes an action begins: with a task of the action, or it ends with a report on the arguments or on the settings,
and nothing is sent. -/
inductive Begins (clock : Log.Clock) (arguments : List String) (store : Store) (action : Action) (rest : List String) : Prop
  | launched {options : LogOptions} {settings : Settings} {left : Store} {a : Scanned} {task : Task}
      (hSettings : store.settings = (.ok settings, left)) (hScan : scan action.switches false rest = .ok a)
      (hTask : action.task a = .ok task)
      (hLaunches : Launches clock arguments store (surroundingsOf clock options settings left) left task)
  | refused {settings : Settings} {left : Store} (place : Place) (e : UsageError)
      (hSettings : store.settings = (.ok settings, left)) (hNone : ∀ s left task, ¬ Launches clock arguments store s left task)
      (hRun : ∀ {σ : Type} (server : Http.Server σ) (start : σ),
        run server clock arguments store start = ⟨(Stop.usage place e).report, left, .start start⟩)
  | unsettled {e : LoadError} {left : Store} (hSettings : store.settings = (.error e, left))
      (hNone : ∀ s left task, ¬ Launches clock arguments store s left task)
      (hRun : ∀ {σ : Type} (server : Http.Server σ) (start : σ),
        run server clock arguments store start = ⟨loadReport e, left, .start start⟩)

theorem begins_of_invokes {arguments rest : List String} {options : LogOptions} {action : Action}
    (h : Invokes arguments options action rest) (hHelp : ∀ a, scan action.switches false rest = .ok a → a.has .help = false)
    (clock : Log.Clock) (store : Store) : Begins clock arguments store action rest := by
  obtain ⟨word, command, arguments', place, hProgram, hLeads⟩ := h
  have hCommand := readCommand_of_leads hLeads
  cases hStore : store.settings with
  | mk result left =>
    cases result with
    | error e =>
      refine .unsettled hStore (fun s left' task hLaunches => ?_) fun server start => run_of_unsettled hProgram hStore server clock start
      obtain ⟨-, -, -, -, settings, -, hSettings, -, -⟩ := hLaunches
      rw [hStore] at hSettings
      cases hSettings
    | ok settings =>
      cases hTask : readCommand place (.action action) rest with
      | ok task =>
        obtain ⟨a, hScan, hMade⟩ := exists_scan_of_readCommand hTask
        exact .launched hStore hScan hMade
          ⟨options, word, command, arguments', settings, hProgram, hStore, hCommand.trans hTask, rfl⟩
      | error stop =>
        obtain ⟨usagePlace, e, rfl⟩ := exists_usage_of_readCommand hTask hHelp
        refine .refused usagePlace e hStore (fun s left' task hLaunches => ?_) fun server start =>
          run_of_stop hProgram hStore (hCommand.trans hTask) server clock start
        obtain ⟨options', word', command', rest', settings', hProgram', -, hTask', -⟩ := hLaunches
        rw [hProgram] at hProgram'
        cases hProgram'
        rw [hCommand.trans hTask] at hTask'
        cases hTask'

/-- A run that invokes an action launches a task of it, or it ends with a report in which no server has a part. -/
theorem launches_of_invokes {arguments rest : List String} {options : LogOptions} {action : Action}
    (h : Invokes arguments options action rest) (clock : Log.Clock) (store : Store) :
    (∃ a task s left, scan action.switches false rest = .ok a ∧ action.task a = .ok task ∧
      Launches clock arguments store s left task) ∨
    ∃ report, ∀ {σ : Type} (server : Http.Server σ) (start : σ), (run server clock arguments store start).report = report := by
  obtain ⟨word, command, arguments', place, hProgram, hLeads⟩ := h
  have hCommand := readCommand_of_leads hLeads
  rcases hStore : store.settings with ⟨e | settings, left⟩
  · exact .inr ⟨loadReport e, fun server start => by rw [run_of_unsettled hProgram hStore]⟩
  · cases hTask : readCommand place (.action action) rest with
    | ok task =>
      obtain ⟨a, hScan, hMade⟩ := exists_scan_of_readCommand hTask
      exact .inl ⟨a, task, _, left, hScan, hMade, options, word, command, arguments', settings, hProgram, hStore,
        hCommand.trans hTask, rfl⟩
    | error stop => exact .inr ⟨stop.report, fun server start => by rw [run_of_stop hProgram hStore (hCommand.trans hTask)]⟩

/-! ## Runs without a configuration -/

/-- Without a configuration the settings are their defaults. -/
theorem settings_of_nothing : ({} : Store).settings = (.ok {}, { kept := some {} }) := by
  have hFind : ({} : Store).find? = none := by decide
  have hLoad : ({} : Store).load = .ok (.ofEntries []) := by
    rw [Store.load, hFind]
  have hCurrent : ({} : Store).current = .ok {} := by
    rw [Store.current, hLoad]
    rfl
  rw [Store.settings, hCurrent]

/-! ## Words without options among them -/

/-- The first word of the arguments of a group, if it is no option, is the word for the member that is meant. -/
theorem readGroup_word (words : List String) (known : List Switch) {word : String} (rest : List String) (hDashes : word ≠ "--")
    (hOption : isOption word.toList = false) :
    readGroup words known (word :: rest) = .ok ({ arguments := word :: rest }, word, rest) := by
  have hScan : scan known true (word :: rest) = .ok { arguments := word :: rest } := by
    rw [scan, if_neg hDashes, if_neg (Bool.eq_false_iff.mp hOption), if_pos rfl]
  simp only [readGroup, scanAt, hScan, List.isEmpty_cons]
  rfl

/-- The options of a program that is asked for nothing. -/
def noLogOptions : LogOptions := { level := none, json := false }

theorem readProgram_word {word : String} {command : Command} (rest : List String) (hDashes : word ≠ "--")
    (hOption : isOption word.toList = false) (h : commands.lookup word = some command) :
    readProgram (word :: rest) = .ok (noLogOptions, word, command, rest) := by
  have hGroup := readGroup_word [programName] programSwitches rest hDashes hOption
  simp only [readProgram, hGroup, bind, Except.bind, h]
  rfl

/-- Three words that lead through two groups invoke the action there. -/
theorem invokes_words {first second third : String} {members inner : List (String × Command)} {action : Action} (rest : List String)
    (hDashes : first ≠ "--" ∧ second ≠ "--" ∧ third ≠ "--")
    (hOption : isOption first.toList = false ∧ isOption second.toList = false ∧ isOption third.toList = false)
    (hFirst : commands.lookup first = some (.group members)) (hSecond : members.lookup second = some (.group inner))
    (hThird : inner.lookup third = some (.action action)) :
    Invokes (first :: second :: third :: rest) noLogOptions action rest := by
  have hInner : Leads ([programName, first] ++ [second]) (.group inner) (third :: rest)
      ([programName, first] ++ [second] ++ [third]) action rest :=
    .member (readGroup_word _ _ _ hDashes.2.2 hOption.2.2) hThird (.here _ action rest)
  exact ⟨first, .group members, second :: third :: rest, _, readProgram_word _ hDashes.1 hOption.1 hFirst,
    .member (readGroup_word _ _ _ hDashes.2.1 hOption.2.1) hSecond hInner⟩

end RanConsole.CommandLine

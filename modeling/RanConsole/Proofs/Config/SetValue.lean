import RanConsole.Proofs.Config.Coercion
import RanConsole.Proofs.Config.Edit

/-!
# What setting a value comes to

After a value was set the settings are those of the edited document, there are settings if and only if the value fits where it was set,
and a text of the server is what was typed if and only if that means nothing but itself, unless the section of the server is elsewhere
(`setOutcome`).
-/

namespace RanConsole.Config

open Validation

/-! ## Texts of the server -/

/-- The words mean values that are no texts. -/
theorem checkText_words : ∀ word ∈ words, checkText (plainOf (.scalar word.2)) = .fault .notAText := by
  simp [words, plainOf, checkText]

/-- A typed value is a text field only if it is the text that was typed. -/
theorem checkText_coerce {text : String} {value : Yaml.Scalar} (h : coerce text = .ok value) (s : String) :
    checkText (plainOf (.scalar value)) = .ok s ↔ value = .str s ∧ s = text := by
  have hCases : value = .str text ∨ checkText (plainOf (.scalar value)) = .fault .notAText := by
    cases ((coerce_eq_ok_iff text value).mp h).1 with
    | word hWord => exact Or.inr (checkText_words _ hWord)
    | integer | number => exact Or.inr rfl
    | itself => exact Or.inl rfl
  rcases hCases with rfl | hFault
  · constructor
    · intro hOk
      obtain rfl : text = s := Except.ok.inj hOk
      exact ⟨rfl, rfl⟩
    · rintro ⟨-, rfl⟩
      rfl
  · constructor
    · intro hOk
      rw [hFault] at hOk
      cases hOk
    · rintro ⟨rfl, rfl⟩
      cases hFault

theorem checkOptionalText_eq_some (p : Plain) (s : String) : checkOptionalText p = .ok (some s) ↔ checkText p = .ok s := by
  cases p with
  | null => simp [checkOptionalText, checkText, Checked.fault]
  | _ =>
    rw [checkOptionalText]
    · cases checkText _ <;> simp [Checked.map, Except.map]
    · simp

/-- The texts among the settings of the server are those of its section. -/
theorem settings_of_readValue {v : Option Yaml} {server : ServerSettings}
    (h : readValue v serverSection {} ServerSettings.ofEntries = .ok server) :
    setting (innerOf v) "url" ({} : ServerSettings).url checkText = .ok server.url ∧
      setting (innerOf v) "token" ({} : ServerSettings).token checkOptionalText = .ok server.token := by
  cases v with
  | none =>
    obtain rfl : {} = server := Except.ok.inj h
    exact ⟨rfl, rfl⟩
  | some v =>
    cases hEntries : v.entries? with
    | none =>
      simp only [readValue, Option.map_some, hEntries] at h
      cases h
    | some inner =>
      simp only [readValue, Option.map_some, hEntries] at h
      have hInner : innerOf (some v) = inner := by simp [innerOf, hEntries]
      rw [hInner]
      obtain ⟨g₃, maxRetries, h₃, -, rfl⟩ := ok_ap (ok_under h)
      obtain ⟨g₂, timeout, h₂, -, rfl⟩ := ok_ap h₃
      obtain ⟨g₁, token, h₁, hToken, rfl⟩ := ok_ap h₂
      obtain ⟨url, hUrl, rfl⟩ := ok_map h₁
      exact ⟨hUrl, hToken⟩

/-- The settings of the server are those of its section. -/
theorem server_of_layered (files : List (String × String)) {env : Environment} (hEnv : env.sections = .ok [])
    {entries : Yaml.Entries} (hOrdinary : isOrdinary entries = true) {after : Settings}
    (h : Settings.layered files env entries = .ok after) :
    readValue (section? false serverSection entries) serverSection {} ServerSettings.ofEntries = .ok after.server := by
  rw [layered_of_isOrdinary files hEnv hOrdinary, ofEntries_sectionsOver, valueOver_nil] at h
  split at h
  · obtain ⟨g, log, hServer, -, rfl⟩ := ok_ap (ok_mapError h)
    obtain ⟨server, hRead, rfl⟩ := ok_map hServer
    exact hRead
  · cases h

/-- A setting of a section with a value in it. -/
theorem setting_withValue {α : Type} (field : String) (more : List String) (v : Yaml) (whole : Option Yaml) (name : String)
    (default : α) (check : Plain → Checked α) :
    setting (innerOf (some (withValue (field :: more) v whole))) name default check =
      if field = name then (check (plainOf (withValue more v (Mapping.get? (.text field) (innerOf whole))))).under name
      else setting (innerOf whole) name default check := by
  rw [setting, get?_withValue]
  by_cases hName : field = name
  · rw [if_pos hName, if_pos hName]
  · rw [if_neg hName, if_neg hName, setting]

/-! ## Paths into the section of the server -/

theorem keys_endOf_pair (d : Yaml.Document) (key field : String) :
    (endOf d [key, field]).keys = [key, field] ∨ (endOf d [key, field]).keys = [field] := by
  obtain ⟨hSome, hSuffix⟩ := keys_endOf d (List.cons_ne_nil key [field])
  rcases List.suffix_cons_iff.mp hSuffix with hBoth | hSuffix
  · exact Or.inl hBoth
  · rcases List.suffix_cons_iff.mp hSuffix with hOne | hNone
    · exact Or.inr hOne
    · exact absurd (List.suffix_nil.mp hNone) hSome

/-- A value at two keys lies inside a section at the second of them or at both, if it lies in the section. -/
theorem insideOf_pair (d : Yaml.Document) (key field name : String) (hField : isSpelling name field = false) :
    insideOf d [key, field] name = none ∨ insideOf d [key, field] name = some [field] ∨
      insideOf d [key, field] name = some [key, field] := by
  rw [insideOf]
  by_cases hHead : (rootKey? d [key, field]).any (leadsTo name d.entries) = true
  · rw [if_pos hHead]
    rcases keys_endOf_pair d key field with hKeys | hKeys
    · exact Or.inr (Or.inl (by rw [hKeys, List.tail_cons]))
    · rw [rootKey?, hKeys] at hHead
      split at hHead
      · exact absurd (isSpelling_of_leadsTo hHead) (by simp [hField])
      · cases hHead
  · rw [if_neg hHead]
    split
    · rcases keys_endOf_pair d key field with hKeys | hKeys
      · exact Or.inr (Or.inr (by rw [hKeys]))
      · exact Or.inr (Or.inl (by rw [hKeys]))
    · exact Or.inl rfl

/-- A section takes any value under a key that is no setting. -/
theorem takes_of_not_setting {checks : Checks} {field : String} (h : ∀ check ∈ checks, check.1 ≠ field) (more : List String)
    (value : Yaml.Scalar) : takes checks (field :: more) value = true := by
  refine List.all_eq_true.mpr fun check hCheck => ?_
  simp [h check hCheck]

section
variable {d : Yaml.Document} {field : String} (hField : field = "url" ∨ field = "token")
include hField

/-- The address and the token of the server may be set to any text, and to any value if it does not come to lie there. -/
theorem fits_text {value : Yaml.Scalar} (hText : insideOf d [serverSection, field] serverSection = some [field] → ∃ s, value = .str s) :
    fits d [serverSection, field] value = true := by
  have hHead : (rootKey? d [serverSection, field]).any reservedNames.contains = false := by
    rw [rootKey?]
    split
    · rcases keys_endOf_pair d serverSection field with hKeys | hKeys
      · rw [hKeys, List.head?_cons, Option.any_some]
        decide
      · rw [hKeys, List.head?_cons, Option.any_some]
        rcases hField with rfl | rfl <;> decide
    · rfl
  have hServer : (insideOf d [serverSection, field] serverSection).all (takes serverChecks · value) = true := by
    rcases insideOf_pair d serverSection field serverSection (by rcases hField with rfl | rfl <;> decide) with
      hInside | hInside | hInside
    · rw [hInside]
      rfl
    · obtain ⟨s, rfl⟩ := hText hInside
      rw [hInside]
      rcases hField with rfl | rfl <;> rfl
    · rw [hInside]
      exact takes_of_not_setting (by decide) [field] value
  have hLog : (insideOf d [serverSection, field] logSection).all (takes logChecks · value) = true := by
    rcases insideOf_pair d serverSection field logSection (by rcases hField with rfl | rfl <;> decide) with
      hInside | hInside | hInside
    · rw [hInside]
      rfl
    · rw [hInside]
      exact takes_of_not_setting (by rcases hField with rfl | rfl <;> decide) [] value
    · rw [hInside]
      exact takes_of_not_setting (by decide) [field] value
  rw [fits, hHead]
  simp [sectionChecks, hServer, hLog]

variable {files files' : List (String × String)} {env : Environment} (hEnv : env.sections = .ok [])
  (hEdit : OrdinaryEdit d [serverSection, field]) {before : Settings} (hBefore : Settings.layered files env d.sections = .ok before)
  {value : Yaml.Scalar} {result : Except LoadError Settings}
  (hResult : Settings.layered files' env (setIn d [serverSection, field] (.scalar value)).sections = result)
  {α : Type} {default : α} {check : Plain → Checked α} {get : ServerSettings → α}
  (hGet : ∀ v server, readValue v serverSection {} ServerSettings.ofEntries = .ok server →
    setting (innerOf v) field default check = .ok (get server))
include hEnv hEdit hBefore hResult hGet

/-- The setting of the server under whose name a value was set is the value if it lies there, and what it was if not. -/
theorem setting_of_edited {after : Settings} (h : result = .ok after) :
    if insideOf d [serverSection, field] serverSection = some [field] then
      check (plainOf (.scalar value)) = .ok (get after.server)
    else get after.server = get before.server := by
  have hKeys : [serverSection, field] ≠ [] := List.cons_ne_nil _ _
  have hOld := hGet _ _ (server_of_layered files hEnv hEdit.ordinary hBefore)
  have hNew := hGet _ _ (server_of_layered files' hEnv (isOrdinary_setIn hKeys _ hEdit) (hResult.trans h))
  have hNe : serverSection ≠ field := by rcases hField with rfl | rfl <;> decide
  have hNoSection : isSpelling serverSection field = false := by rcases hField with rfl | rfl <;> decide
  rw [section?_setIn d hKeys] at hNew
  rcases insideOf_pair d serverSection field serverSection hNoSection with hInside | hInside | hInside
  · rw [hInside] at hNew ⊢
    rw [if_neg (by simp)]
    exact Except.ok.inj (hNew.symm.trans hOld)
  · rw [hInside] at hNew ⊢
    simp only [setting_withValue, if_true] at hNew
    rw [if_pos rfl]
    exact ok_under hNew
  · rw [hInside] at hNew ⊢
    simp only [setting_withValue, if_neg hNe] at hNew
    rw [if_neg (by simp)]
    exact Except.ok.inj (hNew.symm.trans hOld)

/-- A text of the server after a value was set under its name: if the value lies there it is what was typed if and only if that means
nothing but itself, and if not it is what it was. -/
theorem exists_text_iff {text : String} (hValue : coerce text = .ok value) {goal : α}
    (hGoal : check (plainOf (.scalar value)) = .ok goal ↔ value = .str text) :
    (∃ after, result = .ok after ∧ get after.server = goal) ↔
      if insideOf d [serverSection, field] serverSection = some [field] then coerce text = .ok (.str text)
      else get before.server = goal := by
  have hLoads (hText : insideOf d [serverSection, field] serverSection = some [field] → ∃ s, value = .str s) :
      ∃ after, result = .ok after := by
    rw [← isOk_iff_exists, ← hResult,
      isOk_layered_setIn files files' hEnv (List.cons_ne_nil _ _) hEdit (by rw [hBefore]; rfl) value]
    exact fits_text hField hText
  have hSetting (after : Settings) (h : result = .ok after) := setting_of_edited hField hEnv hEdit hBefore hResult hGet h
  by_cases hInside : insideOf d [serverSection, field] serverSection = some [field]
  · simp only [if_pos hInside] at hSetting ⊢
    constructor
    · rintro ⟨after, h, rfl⟩
      rw [hValue, hGoal.mp (hSetting after h)]
    · intro hTyped
      have hStr : value = .str text := Except.ok.inj (hValue.symm.trans hTyped)
      obtain ⟨after, h⟩ := hLoads fun _ => ⟨text, hStr⟩
      exact ⟨after, h, Except.ok.inj ((hSetting after h).symm.trans (hGoal.mpr hStr))⟩
  · simp only [if_neg hInside] at hSetting ⊢
    constructor
    · rintro ⟨after, h, rfl⟩
      exact (hSetting after h).symm
    · intro hBeforeGoal
      obtain ⟨after, h⟩ := hLoads fun h => absurd h hInside
      exact ⟨after, h, (hSetting after h).trans hBeforeGoal⟩

end

/-! ## What setting a value comes to -/

/-- What setting a value comes to for a file that gave settings. -/
structure SetOutcome (s s' : Store) (d : Yaml.Document) (before : Settings) (dotted text : String) (w : Store.Written) :
    Prop where
  /-- The settings are those of the edited document. -/
  edited : s'.reload.1 = Settings.layered s'.files s.environment (setIn d (pathOf dotted) (.scalar w.value)).sections
  /-- There are settings if and only if the value fits where it was set. -/
  loads : OrdinaryEdit d (pathOf dotted) → s'.reload.1.isOk = fits d (pathOf dotted) w.value
  /-- A value in no section changes no setting. -/
  elsewhere : OrdinaryEdit d (pathOf dotted) → LeadsElsewhere d (pathOf dotted) → s'.reload.1 = .ok before
  /-- The address of the server is what was typed if and only if that means nothing but itself, or if the section of the server is
  elsewhere and the address was that before. -/
  url : OrdinaryEdit d (pathOf dotted) → dotted = "server.url" →
    ((∃ after, s'.reload.1 = .ok after ∧ after.server.url = text) ↔
      if insideOf d (pathOf dotted) serverSection = some ["url"] then coerce text = .ok (.str text) else before.server.url = text)
  /-- So is its token. -/
  token : OrdinaryEdit d (pathOf dotted) → dotted = "server.token" →
    ((∃ after, s'.reload.1 = .ok after ∧ after.server.token = some text) ↔
      if insideOf d (pathOf dotted) serverSection = some ["token"] then coerce text = .ok (.str text)
      else before.server.token = some text)

/-- Setting a value comes to this for every file that gave settings without variables in the environment, if the file that was written
reads back as the edited document. -/
theorem setOutcome {s s' : Store} {d : Yaml.Document} {before : Settings} {dotted text : String} {w : Store.Written}
    (hEnv : hasNoVariables s.environment = true) (hLoad : s.load = .ok d) (hValid : s.current = .ok before)
    (hSet : s.set dotted text = (.ok w, s'))
    (hRead : Store.readsBack s.half w.path (setIn d (pathOf dotted) (.scalar w.value)) = true) :
    SetOutcome s s' d before dotted text w := by
  have hSections := sections_of_hasNoVariables hEnv
  have hEdited := Store.reload_set hEnv hLoad hSet hRead
  have hKeys := pathOf_ne_nil dotted
  have hBefore : Settings.layered s.files s.environment d.sections = .ok before := by
    rw [Store.current, hLoad] at hValid
    exact hValid
  have hValue : coerce text = .ok w.value := by
    obtain ⟨-, -, -, -, hValue, -⟩ := Store.set_eq_ok hSet
    exact hValue
  refine ⟨hEdited, ?_, ?_, ?_, ?_⟩
  · intro hEdit
    rw [hEdited]
    exact isOk_layered_setIn s.files s'.files hSections hKeys hEdit (by rw [hBefore]; rfl) w.value
  · intro hEdit hLeads
    have hReserved : hasReserved d.sections = false := by
      have hOk : (Settings.layered s.files s.environment d.sections).isOk = true := by
        rw [hBefore]
        rfl
      rw [isOk_layered s.files hSections hEdit.ordinary, Bool.and_eq_true, Bool.and_eq_true, Bool.not_eq_true'] at hOk
      exact hOk.1.2
    rw [hEdited, layered_setIn_of_leadsElsewhere s.files s'.files hSections hKeys hEdit hReserved hLeads, hBefore]
  · rintro hEdit rfl
    have hGoal : checkText (plainOf (.scalar w.value)) = .ok text ↔ w.value = .str text := by
      rw [checkText_coerce hValue]
      simp
    exact exists_text_iff (Or.inl rfl) hSections hEdit hBefore hEdited.symm (fun _ _ h => (settings_of_readValue h).1) hValue hGoal
  · rintro hEdit rfl
    have hGoal : checkOptionalText (plainOf (.scalar w.value)) = .ok (some text) ↔ w.value = .str text := by
      rw [checkOptionalText_eq_some, checkText_coerce hValue]
      simp
    exact exists_text_iff (Or.inr rfl) hSections hEdit hBefore hEdited.symm (fun _ _ h => (settings_of_readValue h).2) hValue hGoal

/-- A first value is set, for the address of the server. -/
theorem setOutcome_first_url :
    ∃ w s', ({} : Store).set "server.url" "http://ransim:5150" = (.ok w, s') ∧
      SetOutcome {} s' (.ofEntries []) {} "server.url" "http://ransim:5150" w ∧
      ∃ after, s'.reload.1 = .ok after ∧ after.server.url = "http://ransim:5150" := by
  have hFind : ({} : Store).find? = none := by decide +kernel
  have hLoad : ({} : Store).load = .ok (.ofEntries []) := by
    rw [Store.load, hFind]
  have hValid : ({} : Store).current = .ok {} := by
    rw [Store.current, hLoad]
    rfl
  have hOk : (({} : Store).set "server.url" "http://ransim:5150").1.isOk = true := by decide +kernel
  obtain ⟨w, hWritten⟩ := (isOk_iff_exists _).mp hOk
  have hSet : ({} : Store).set "server.url" "http://ransim:5150" =
      (.ok w, (({} : Store).set "server.url" "http://ransim:5150").2) := by
    rw [← hWritten]
  obtain ⟨-, -, -, -, hValue, hPath, -⟩ := Store.set_eq_ok hSet
  have hText : coerce "http://ransim:5150" = .ok (.str "http://ransim:5150") := by decide +kernel
  have hRead : Store.readsBack Yaml.usualHalf w.path (setIn (.ofEntries []) (pathOf "server.url") (.scalar w.value)) = true := by
    rw [hPath, hFind, ← Except.ok.inj (hText.symm.trans hValue)]
    decide +kernel
  have hOutcome := setOutcome rfl hLoad hValid hSet hRead
  have hEdit : OrdinaryEdit (.ofEntries []) (pathOf "server.url") := by
    refine ⟨by decide, ?_⟩
    decide +kernel
  have hInside : insideOf (.ofEntries []) (pathOf "server.url") serverSection = some ["url"] := by decide +kernel
  refine ⟨w, _, hSet, hOutcome, (hOutcome.url hEdit rfl).mpr ?_⟩
  rw [if_pos hInside]
  exact hText

/-- A configuration with the address of the server alone. -/
def urlOnly : Store := { files := [("rancli.yaml", "server:\n  url: http://localhost:5150\n")] }

/-- Setting a value may leave a file that gives no settings: a token that looks like a number is no text any more. -/
theorem set_token_loads_false :
    hasNoVariables urlOnly.environment = true ∧ urlOnly.current.isOk = true ∧ (urlOnly.set "server.token" "12345").1.isOk = true ∧
      (urlOnly.set "server.token" "12345").2.reload.1.isOk = false := by
  decide +kernel

end RanConsole.Config

import RanConsole.Proofs.Config.Fit

/-!
# Sections of an edited document

A path ends in the last mapping on its way that stands in several places, or in the outermost one (`endOf`), and that mapping is changed
in all its places. So a value that is set lies inside a section if the path ends in the outermost mapping and its first key is the one
under which the section is found (`leadsTo`), or if the section is the mapping that the path ends in (`insideOf`). The section has the
value there afterwards, and every other section is what it was (`section?_setIn`).
-/

namespace RanConsole.Config

/-! ## Which section a key leads to -/

/-- Whether a text is the name of a section in any letter case. -/
def isSpelling (name s : String) : Bool := s == name || lowerCase s == name

/-- Whether a key is the name of a section in any letter case. -/
def isSpellingKey (name : String) : Yaml.Scalar → Bool
  | .str s => isSpelling name s
  | _ => false

/-- Whether a key that is written is the one under which a section is found afterwards: the first one that is the name of the section
in any letter case. -/
def leadsTo (name : String) : Yaml.Entries → String → Bool
  | [], head => isSpelling name head
  | (key, _) :: entries, head =>
    if isSpellingKey name key.scalar then key.scalar == .str head else leadsTo name entries head

theorem section?_cons (name : String) (key : Yaml.Key) (v : Yaml) (entries : Yaml.Entries) :
    (section? false name ((key, v) :: entries)) =
      if isSpellingKey name key.scalar then some v else section? false name entries := by
  obtain ⟨scalar, part⟩ := key
  rw [section?, List.find?_cons]
  cases scalar with
  | str s =>
    by_cases h : (s == name || lowerCase s == name) = true
    · simp only [isSpellingKey, isSpelling, Bool.not_false, Bool.true_and, h, if_true]
      rfl
    · simp only [isSpellingKey, isSpelling, Bool.not_false, Bool.true_and, h, if_false, Bool.false_eq_true]
      rfl
  | _ => rfl

theorem section?_map (f : Yaml → Yaml) (name : String) (entries : Yaml.Entries) :
    (section? false name (entries.map fun (key, v) => (key, f v))) = (section? false name entries).map f := by
  induction entries with
  | nil => rfl
  | cons entry entries ih =>
    obtain ⟨key, v⟩ := entry
    rw [List.map_cons, section?_cons, section?_cons, ih]
    by_cases hSpelling : isSpellingKey name key.scalar = true
    · rw [if_pos hSpelling, if_pos hSpelling, Option.map_some]
    · rw [if_neg hSpelling, if_neg hSpelling]

theorem isSpelling_of_leadsTo {name head : String} {entries : Yaml.Entries} (h : leadsTo name entries head = true) :
    isSpelling name head = true := by
  induction entries with
  | nil => exact h
  | cons entry entries ih =>
    obtain ⟨key, v⟩ := entry
    rw [leadsTo] at h
    by_cases hSpelling : isSpellingKey name key.scalar = true
    · rw [if_pos hSpelling] at h
      rw [eq_of_beq h] at hSpelling
      exact hSpelling
    · rw [if_neg hSpelling] at h
      exact ih h

/-- What a section is after a key was written: the value that was written, if the key leads to the section. -/
theorem section?_put (name head : String) (v : Yaml) (entries : Yaml.Entries) :
    (section? false name (Mapping.put (.text head) v entries)) =
      if leadsTo name entries head then some v else section? false name entries := by
  induction entries with
  | nil =>
    rw [Mapping.put, section?_cons]
    rfl
  | cons entry entries ih =>
    obtain ⟨key, old⟩ := entry
    rw [Mapping.put_cons, Yaml.beq_text, leadsTo]
    by_cases hKey : (key.scalar == .str head) = true
    · rw [if_pos hKey, section?_cons, section?_cons, hKey]
      by_cases hSpelling : isSpellingKey name key.scalar = true
      · rw [if_pos hSpelling, if_pos hSpelling, if_pos rfl]
      · have hLeads : ¬ leadsTo name entries head = true := by
          intro hLeads
          rw [eq_of_beq hKey] at hSpelling
          exact hSpelling (isSpelling_of_leadsTo hLeads)
        rw [if_neg hSpelling, if_neg hSpelling, if_neg hSpelling, if_neg hLeads]
    · rw [if_neg hKey, section?_cons, section?_cons, ih]
      by_cases hSpelling : isSpellingKey name key.scalar = true
      · rw [if_pos hSpelling, if_pos hSpelling, if_pos hSpelling, if_neg hKey]
      · rw [if_neg hSpelling, if_neg hSpelling, if_neg hSpelling]

/-- A key that leads to a section has the section for its value. -/
theorem get?_of_leadsTo {name head : String} {entries : Yaml.Entries} (h : leadsTo name entries head = true) :
    Mapping.get? (.text head) entries = section? false name entries := by
  induction entries with
  | nil => rfl
  | cons entry entries ih =>
    obtain ⟨key, v⟩ := entry
    rw [leadsTo] at h
    rw [Mapping.get?_cons, Yaml.beq_text, section?_cons]
    by_cases hSpelling : isSpellingKey name key.scalar = true
    · rw [if_pos hSpelling] at h ⊢
      rw [if_pos h]
    · rw [if_neg hSpelling] at h ⊢
      have hKey : ¬ (key.scalar == .str head) = true := by
        intro hKey
        rw [eq_of_beq hKey] at hSpelling
        exact hSpelling (isSpelling_of_leadsTo h)
      rw [if_neg hKey]
      exact ih h

/-! ## Where a path ends -/

theorem pathOf_ne_nil (dotted : String) : pathOf dotted ≠ [] := by
  simp [pathOf]

/-- Where a path ends in a document. -/
def endOf (d : Yaml.Document) (keys : List String) : Landing := landing d ⟨rootPart d.root, keys⟩ keys d.entries

/-- The entries of the mapping that a path ends in. -/
def entriesAt (d : Yaml.Document) : Option Nat → Yaml.Entries
  | none => d.entries
  | some name => (d.part name).entries?.getD []

theorem entriesAt_rootPart (d : Yaml.Document) : entriesAt d (rootPart d.root) = d.entries := by
  cases hRoot : d.root with
  | shared name => simp [rootPart, entriesAt, Yaml.Document.entries, Yaml.Document.entries?, Yaml.Document.opened, hRoot]
  | _ => rfl

/-- A step on the way: it ends there, or it leads on into a mapping, or into one that stands in several places. -/
theorem landing_step (d : Yaml.Document) (last : Landing) (key next : String) (rest : List String) (entries : Yaml.Entries) :
    landing d last (key :: next :: rest) entries = last ∨
      (∃ inner, landing d last (key :: next :: rest) entries = landing d last (next :: rest) inner) ∨
      ∃ name inner, d.part name = .map inner ∧
        landing d last (key :: next :: rest) entries = landing d ⟨some name, next :: rest⟩ (next :: rest) inner := by
  rw [landing]
  · split
    · exact Or.inr (Or.inl ⟨_, rfl⟩)
    · split
      · exact Or.inr (Or.inr ⟨_, _, ‹_›, rfl⟩)
      · exact Or.inl rfl
    · exact Or.inl rfl
  · simp

/-- A way that has come to a part with a name ends in such a part. -/
theorem isSome_part_landing (d : Yaml.Document) :
    ∀ (keys : List String) (last : Landing) (entries : Yaml.Entries), last.part.isSome → (landing d last keys entries).part.isSome := by
  intro keys
  induction keys with
  | nil =>
    intro last entries h
    exact h
  | cons key rest ih =>
    intro last entries h
    cases rest with
    | nil => exact h
    | cons next rest =>
      rcases landing_step d last key next rest entries with hEnd | ⟨inner, hOn⟩ | ⟨name, inner, -, hOn⟩
      · rw [hEnd]
        exact h
      · rw [hOn]
        exact ih last inner h
      · rw [hOn]
        exact ih _ inner rfl

/-- The keys that are left where a path ends are the last ones of the path, and at least one is left. -/
theorem keys_landing (d : Yaml.Document) :
    ∀ (keys : List String) (last : Landing) (entries : Yaml.Entries), last.keys ≠ [] → keys <:+ last.keys →
      (landing d last keys entries).keys ≠ [] ∧ (landing d last keys entries).keys <:+ last.keys := by
  intro keys
  induction keys with
  | nil =>
    intro last entries hLast _
    exact ⟨hLast, List.suffix_rfl⟩
  | cons key rest ih =>
    intro last entries hLast hKeys
    have hRest : rest <:+ last.keys := (List.suffix_cons key rest).trans hKeys
    cases rest with
    | nil => exact ⟨hLast, List.suffix_rfl⟩
    | cons next rest =>
      rcases landing_step d last key next rest entries with hEnd | ⟨inner, hOn⟩ | ⟨name, inner, -, hOn⟩
      · rw [hEnd]
        exact ⟨hLast, List.suffix_rfl⟩
      · rw [hOn]
        exact ih last inner hLast hRest
      · rw [hOn]
        obtain ⟨hSome, hLanding⟩ := ih ⟨some name, next :: rest⟩ inner (List.cons_ne_nil _ _) List.suffix_rfl
        exact ⟨hSome, hLanding.trans hRest⟩

/-- From where a path ends the way leads through no other mapping that stands in several places. -/
theorem landing_landing (d : Yaml.Document) :
    ∀ (keys : List String) (last : Landing) (entries : Yaml.Entries),
      landing d last last.keys (entriesAt d last.part) = landing d last keys entries →
      ∀ l, landing d last keys entries = l → landing d l l.keys (entriesAt d l.part) = l := by
  intro keys
  induction keys with
  | nil =>
    rintro last entries h l rfl
    exact h
  | cons key rest ih =>
    rintro last entries h l rfl
    cases rest with
    | nil => exact h
    | cons next rest =>
      rcases landing_step d last key next rest entries with hEnd | ⟨inner, hOn⟩ | ⟨name, inner, hPart, hOn⟩
      · rw [hEnd] at h ⊢
        exact h
      · exact ih last inner (h.trans hOn) _ hOn.symm
      · refine ih ⟨some name, next :: rest⟩ inner ?_ _ hOn.symm
        simp only [entriesAt, hPart, Yaml.entries?, Option.getD_some]

theorem keys_endOf (d : Yaml.Document) {keys : List String} (hKeys : keys ≠ []) :
    (endOf d keys).keys ≠ [] ∧ (endOf d keys).keys <:+ keys :=
  keys_landing d keys ⟨rootPart d.root, keys⟩ d.entries hKeys List.suffix_rfl

theorem landing_endOf (d : Yaml.Document) (keys : List String) :
    landing d (endOf d keys) (endOf d keys).keys (entriesAt d (endOf d keys).part) = endOf d keys :=
  landing_landing d keys ⟨rootPart d.root, keys⟩ d.entries (by rw [entriesAt_rootPart]) _ rfl

theorem rootPart_of_endOf {d : Yaml.Document} {keys : List String} (h : (endOf d keys).part = none) : rootPart d.root = none := by
  by_contra hRoot
  have hSome := isSome_part_landing d keys ⟨rootPart d.root, keys⟩ d.entries (Option.isSome_iff_ne_none.mpr hRoot)
  exact Option.isSome_iff_ne_none.mp hSome h

/-- The key that a path writes in the outermost mapping, if it ends there. -/
def rootKey? (d : Yaml.Document) (keys : List String) : Option String :=
  if (endOf d keys).part = rootPart d.root then (endOf d keys).keys.head? else none

/-! ## The edited document -/

/-- The entries of a value, none if it is not there or is no mapping. -/
def innerOf (v : Option Yaml) : Yaml.Entries := (v.bind Yaml.entries?).getD []

/-- A value with another one in it, at keys inside of it. -/
def withValue (inside : List String) (v : Yaml) (whole : Option Yaml) : Yaml :=
  if inside.isEmpty then v else .map (setAt inside v (innerOf whole))

theorem below_eq (key : String) (entries : Yaml.Entries) : below key entries = innerOf (Mapping.get? (.text key) entries) := by
  rw [below]
  cases Mapping.get? (.text key) entries with
  | none => rfl
  | some v => cases v <;> rfl

/-- A value that is set at keys is written at the first of them. -/
theorem setAt_cons (head : String) (rest : List String) (v : Yaml) (entries : Yaml.Entries) :
    setAt (head :: rest) v entries =
      Mapping.put (.text head) (withValue rest v (Mapping.get? (.text head) entries)) entries := by
  cases rest with
  | nil => rfl
  | cons next rest =>
    rw [setAt, below_eq]
    · rfl
    · simp

/-- What is written at the first key of the outermost mapping is the same whether values are opened or not. -/
theorem withValue_opened {d : Yaml.Document} {keys rest : List String} {head : String}
    (hPart : (endOf d keys).part = rootPart d.root) (hEnd : (endOf d keys).keys = head :: rest) (v : Yaml) :
    withValue rest v ((Mapping.get? (.text head) d.entries).map d.opened) = withValue rest v (Mapping.get? (.text head) d.entries) := by
  cases rest with
  | nil => rfl
  | cons next rest =>
    have hLanding := landing_endOf d keys
    rw [hPart, entriesAt_rootPart, hEnd] at hLanding
    cases hValue : Mapping.get? (.text head) d.entries with
    | none => rfl
    | some w =>
      cases w with
      | shared name =>
        cases hOpened : d.part name with
        | map inner =>
          -- the way would have gone on inside the part with the name, where fewer keys are left
          unfold landing at hLanding
          simp only [hValue, hOpened] at hLanding
          have hSuffix := (keys_landing d (next :: rest) ⟨some name, next :: rest⟩ inner (List.cons_ne_nil _ _) List.suffix_rfl).2
          rw [hLanding, hEnd] at hSuffix
          exact absurd hSuffix.length_le (by simp)
        | _ => simp [withValue, innerOf, Yaml.Document.opened, hOpened, Yaml.entries?]
      | _ => rfl

/-- The mapping that a path ends in, with a value at the end of the path. -/
def changedPart (d : Yaml.Document) (keys : List String) (v : Yaml) : Yaml.Entries :=
  setAt (endOf d keys).keys v (entriesAt d (endOf d keys).part)

theorem entries_of_rootPart {d : Yaml.Document} (h : rootPart d.root = none) : d.root.entries?.getD [] = d.entries := by
  rw [Yaml.Document.entries, Yaml.Document.entries?]
  cases hRoot : d.root with
  | shared name => simp [hRoot, rootPart] at h
  | _ => rfl

/-- The edited document: the mapping that the path ends in is changed, be it the outermost value or a part with a name. -/
theorem setIn_eq (d : Yaml.Document) (keys : List String) (v : Yaml) :
    setIn d keys v =
      match (endOf d keys).part with
      | none => { d with root := .map (changedPart d keys v) }
      | some name => { d with parts := Mapping.put name (.map (changedPart d keys v)) d.parts } := by
  rw [changedPart]
  cases hEnd : endOf d keys with
  | mk part inside =>
    have hLanding : landing d ⟨rootPart d.root, keys⟩ keys d.entries = ⟨part, inside⟩ := hEnd
    cases part with
    | none =>
      have hPart : (endOf d keys).part = none := by rw [hEnd]
      have hRoot := rootPart_of_endOf hPart
      simp only [setIn, hLanding, entries_of_rootPart hRoot, entriesAt]
    | some name => simp only [setIn, hLanding, entriesAt]

/-- What a name stands for after a part was changed. -/
theorem lookup_put (changed name : Nat) (v : Yaml) (parts : List (Nat × Yaml)) :
    (Mapping.put changed v parts).lookup name = if changed = name then some v else parts.lookup name := by
  rw [Mapping.lookup_eq_get?, Mapping.lookup_eq_get?]
  by_cases hName : changed = name
  · rw [if_pos hName, hName, Mapping.get?_put_self]
  · rw [if_neg hName]
    refine Mapping.get?_put_of_ne (fun other hOther => ?_) v (by simpa using hName) parts
    rw [eq_of_beq hOther]
    simpa using hName

/-- Whether a value is the part with a name. -/
def isAt (part : Option Nat) : Yaml → Bool
  | .shared name => part == some name
  | _ => false

/-- A value of the edited document, opened: the changed part in all its places, and what it was anywhere else. -/
theorem opened_setIn (d : Yaml.Document) (keys : List String) (v w : Yaml) :
    (setIn d keys v).opened w = if isAt (endOf d keys).part w then .map (changedPart d keys v) else d.opened w := by
  rw [setIn_eq]
  cases w with
  | shared name =>
    cases hPart : (endOf d keys).part with
    | none => rfl
    | some changed =>
      simp only [Yaml.Document.opened, Yaml.Document.part, lookup_put, isAt, beq_iff_eq, Option.some.injEq]
      by_cases hName : changed = name
      · rw [if_pos hName, if_pos hName]
        rfl
      · rw [if_neg hName, if_neg hName]
  | _ => cases (endOf d keys).part <;> rfl

/-- The entries of the edited document. -/
theorem entries_setIn (d : Yaml.Document) (keys : List String) (v : Yaml) :
    (setIn d keys v).entries = if (endOf d keys).part = rootPart d.root then changedPart d keys v else d.entries := by
  have hEntries : (setIn d keys v).entries = (((setIn d keys v).opened (setIn d keys v).root).entries?).getD [] := rfl
  cases hPart : (endOf d keys).part with
  | none =>
    rw [rootPart_of_endOf hPart, if_pos rfl, setIn_eq, hPart]
    rfl
  | some name =>
    have hRoot : (setIn d keys v).root = d.root := by
      rw [setIn_eq, hPart]
    rw [hEntries, opened_setIn, hRoot, hPart]
    cases hShared : d.root with
    | shared other =>
      by_cases hName : name = other
      · simp [isAt, rootPart, hName, Yaml.entries?]
      · simp [isAt, rootPart, hName, Yaml.Document.entries, Yaml.Document.entries?, hShared]
    | _ => simp [isAt, rootPart, Yaml.Document.entries, Yaml.Document.entries?, hShared]

/-- The entries of the edited document are those of the document, but for the key that is written in the outermost mapping. -/
theorem exists_entries_setIn (d : Yaml.Document) {keys : List String} (hKeys : keys ≠ []) (v : Yaml) :
    ∃ w, (setIn d keys v).entries =
      match rootKey? d keys with
      | some head => Mapping.put (.text head) w d.entries
      | none => d.entries := by
  rw [entries_setIn, rootKey?]
  by_cases hPart : (endOf d keys).part = rootPart d.root
  · obtain ⟨head, rest, hEnd⟩ := List.exists_cons_of_ne_nil (keys_endOf d hKeys).1
    rw [if_pos hPart, if_pos hPart, changedPart, hPart, entriesAt_rootPart, hEnd]
    exact ⟨_, setAt_cons head rest v d.entries⟩
  · rw [if_neg hPart, if_neg hPart]
    exact ⟨v, rfl⟩

/-! ## The sections of the edited document -/

/-- The keys inside a section at which a value lies that is set at a path, if it lies in the section. -/
def insideOf (d : Yaml.Document) (keys : List String) (name : String) : Option (List String) :=
  if (rootKey? d keys).any (leadsTo name d.entries) then some (endOf d keys).keys.tail
  else if (section? false name d.entries).any (isAt (endOf d keys).part) then some (endOf d keys).keys
  else none

/-- A value of the edited document, opened, has the value in it if it is the part that the path ends in. -/
theorem opened_setIn_eq_withValue (d : Yaml.Document) {keys : List String} (hKeys : keys ≠ []) (v w : Yaml) :
    (setIn d keys v).opened w =
      if isAt (endOf d keys).part w then withValue (endOf d keys).keys v (some (d.opened w)) else d.opened w := by
  rw [opened_setIn]
  by_cases hAt : isAt (endOf d keys).part w = true
  · rw [if_pos hAt, if_pos hAt, withValue, if_neg (by simpa using (keys_endOf d hKeys).1), changedPart]
    cases w with
    | shared name =>
      rw [isAt, beq_iff_eq] at hAt
      rw [hAt]
      rfl
    | _ => cases hAt
  · rw [if_neg hAt, if_neg hAt]

theorem section?_sections (d : Yaml.Document) (name : String) :
    (section? false name d.sections) = (section? false name d.entries).map d.opened := by
  rw [Yaml.Document.sections, section?_map]

/-- A section of the edited document is the section as it was, with the value in it if the value lies in the section. -/
theorem section?_setIn (d : Yaml.Document) {keys : List String} (hKeys : keys ≠ []) (value : Yaml.Scalar) (name : String) :
    (section? false name (setIn d keys (.scalar value)).sections) =
      match insideOf d keys name with
      | some inside => some (withValue inside (.scalar value) (section? false name d.sections))
      | none => section? false name d.sections := by
  have hSection := section?_sections d name
  have hEdited := section?_sections (setIn d keys (.scalar value)) name
  -- a section to which no written key leads is changed if it is the part that the path ends in
  have hOther : (section? false name d.entries).map (setIn d keys (.scalar value)).opened =
      match if (section? false name d.entries).any (isAt (endOf d keys).part) then some (endOf d keys).keys else none with
      | some inside => some (withValue inside (.scalar value) ((section? false name d.entries).map d.opened))
      | none => (section? false name d.entries).map d.opened := by
    cases section? false name d.entries with
    | none => rfl
    | some v =>
      rw [Option.map_some, opened_setIn_eq_withValue d hKeys, Option.any_some]
      by_cases hAt : isAt (endOf d keys).part v = true
      · rw [if_pos hAt, if_pos hAt, Option.map_some]
      · rw [if_neg hAt, if_neg hAt, Option.map_some]
  rw [hEdited, hSection, entries_setIn, insideOf, rootKey?]
  by_cases hPart : (endOf d keys).part = rootPart d.root
  · obtain ⟨head, rest, hEnd⟩ := List.exists_cons_of_ne_nil (keys_endOf d hKeys).1
    have hChanged : changedPart d keys (.scalar value) =
        Mapping.put (.text head) (withValue rest (.scalar value) (Mapping.get? (.text head) d.entries)) d.entries := by
      rw [changedPart, hPart, entriesAt_rootPart, hEnd, setAt_cons]
    rw [if_pos hPart, if_pos hPart, hChanged, section?_put, hEnd, List.head?_cons, Option.any_some]
    by_cases hLeads : leadsTo name d.entries head = true
    · rw [if_pos hLeads, if_pos hLeads, ← get?_of_leadsTo hLeads, Option.map_some, List.tail_cons]
      refine congrArg some ?_
      rw [withValue_opened hPart hEnd]
      cases rest <;> rfl
    · rw [if_neg hLeads, if_neg hLeads, ← hEnd]
      exact hOther
  · rw [if_neg hPart, if_neg hPart, Option.any_none, if_neg Bool.false_ne_true]
    exact hOther

end RanConsole.Config

import RanConsole.Json.Reader
import RanConsole.Proofs.Mapping
import RanConsole.Proofs.Json.Scalars
import RanConsole.Proofs.Results

/-!
# What values are read

The reader makes values of the scalars among the tokens and of nothing else, so what holds of scalars, and of lists and objects of values
of which it holds, holds of every value that is read (`of_readChars`). The integers in such a value are short
(`allShort_of_readChars`), because longer ones are no tokens.
-/

namespace RanConsole.Json

/-! ## Values along the steps of the reader -/

/-- The values in a list or an object that is not closed yet. -/
def Pending.values : Pending → List Json
  | .list items => items
  | .object members _ => members.map (·.2)

/-- The values that the reader holds. -/
def State.values : State → List Json
  | .value around | .firstItem around | .firstKey around => around.flatMap Pending.values
  | .key members around | .colon members _ around => members.map (·.2) ++ around.flatMap Pending.values
  | .complete v around => v :: around.flatMap Pending.values

section

variable {P : Json → Prop} {limit : Nat}

/-- What a list or an object adds to the values around it is what it holds. -/
theorem opened_values {around : List Pending} {s next : State} (h : opened limit around s = .ok next) : next = s := by
  rw [opened] at h
  split at h
  · exact (Except.ok.inj h).symm
  · cases h

theorem startValue_values {around : List Pending} {t : Token} {next : State} (h : startValue limit around t = .ok next)
    (hScalar : ∀ v, t = .scalar v → P v) (hAround : ∀ v ∈ around.flatMap Pending.values, P v) : ∀ v ∈ next.values, P v := by
  cases t with
  | scalar v =>
    cases h
    exact List.forall_mem_cons.mpr ⟨hScalar v rfl, hAround⟩
  | listOpen =>
    rw [opened_values h]
    exact hAround
  | objectOpen =>
    rw [opened_values h]
    exact hAround
  | listClose | objectClose | comma | colon | broken e => cases h

theorem startKey_values {members : List (String × Json)} {around : List Pending} {t : Token} {next : State}
    (h : startKey members around t = .ok next) (hState : ∀ v ∈ members.map (·.2) ++ around.flatMap Pending.values, P v) :
    ∀ v ∈ next.values, P v := by
  match t, h with
  | .scalar (.str key), h =>
    cases h
    exact hState

/-- A value of an object is one of those that its members were given. -/
theorem of_objectOf (hObject : ∀ members : List (String × Json), (∀ m ∈ members, P m.2) → P (.obj members))
    {members : List (String × Json)} (h : ∀ v ∈ members.map (·.2), P v) : P (objectOf members) := by
  refine hObject _ fun m hm => ?_
  have hGiven := Mapping.mem_ofPairs hm
  exact h m.2 (List.mem_map_of_mem (List.mem_reverse.mp hGiven))

theorem afterValue_values (hList : ∀ items : List Json, (∀ v ∈ items, P v) → P (.arr items))
    (hObject : ∀ members : List (String × Json), (∀ m ∈ members, P m.2) → P (.obj members)) {v : Json} {around : List Pending}
    {t : Token} {next : State} (h : afterValue v around t = .ok next) (hValue : P v)
    (hAround : ∀ w ∈ around.flatMap Pending.values, P w) : ∀ w ∈ next.values, P w := by
  match around, t, h with
  | .list items :: around, .comma, h =>
    cases h
    exact List.forall_mem_cons.mpr ⟨hValue, hAround⟩
  | .list items :: around, .listClose, h =>
    cases h
    obtain ⟨hItems, hOuter⟩ := List.forall_mem_append.mp hAround
    refine List.forall_mem_cons.mpr ⟨hList _ fun w hw => ?_, hOuter⟩
    exact List.forall_mem_cons.mpr ⟨hValue, hItems⟩ w (List.mem_reverse.mp hw)
  | .object members key :: around, .comma, h =>
    cases h
    exact List.forall_mem_cons.mpr ⟨hValue, hAround⟩
  | .object members key :: around, .objectClose, h =>
    cases h
    obtain ⟨hMembers, hOuter⟩ := List.forall_mem_append.mp hAround
    exact List.forall_mem_cons.mpr ⟨of_objectOf hObject (List.forall_mem_cons.mpr ⟨hValue, hMembers⟩), hOuter⟩

/-- One token keeps what holds of the values that the reader holds. -/
theorem step_values (hList : ∀ items : List Json, (∀ v ∈ items, P v) → P (.arr items))
    (hObject : ∀ members : List (String × Json), (∀ m ∈ members, P m.2) → P (.obj members)) {s next : State} {t : Token}
    (h : step limit s t = .ok next) (hScalar : ∀ v, t = .scalar v → P v) (hState : ∀ v ∈ s.values, P v) : ∀ v ∈ next.values, P v := by
  have hEmptyList : P (.arr []) := hList [] fun v hv => absurd hv List.not_mem_nil
  have hEmptyObject : P (.obj []) := hObject [] fun m hm => absurd hm List.not_mem_nil
  cases s with
  | value around => exact startValue_values h hScalar hState
  | firstItem around =>
    by_cases hClose : t = .listClose
    · subst hClose
      cases h
      exact List.forall_mem_cons.mpr ⟨hEmptyList, hState⟩
    · rw [step] at h
      · exact startValue_values h hScalar hState
      · exact hClose
  | firstKey around =>
    by_cases hClose : t = .objectClose
    · subst hClose
      cases h
      exact List.forall_mem_cons.mpr ⟨hEmptyObject, hState⟩
    · rw [step] at h
      · exact startKey_values h hState
      · exact hClose
  | key members around => exact startKey_values h hState
  | colon members key around =>
    match t, h with
    | .colon, h =>
      cases h
      exact hState
  | complete v around =>
    obtain ⟨hValue, hAround⟩ := List.forall_mem_cons.mp hState
    exact afterValue_values hList hObject h hValue hAround

theorem steps_values (hList : ∀ items : List Json, (∀ v ∈ items, P v) → P (.arr items))
    (hObject : ∀ members : List (String × Json), (∀ m ∈ members, P m.2) → P (.obj members)) {ts : List Token} {s next : State}
    (h : steps limit s ts = .ok next) (hScalar : ∀ v, .scalar v ∈ ts → P v) (hState : ∀ v ∈ s.values, P v) : ∀ v ∈ next.values, P v := by
  induction ts generalizing s with
  | nil =>
    cases h
    exact hState
  | cons t ts ih =>
    obtain ⟨s', hStep, hSteps⟩ := ok_bind h
    refine ih hSteps (fun v hv => hScalar v (List.mem_cons_of_mem _ hv)) ?_
    exact step_values hList hObject hStep (fun v hv => hScalar v (hv ▸ List.mem_cons_self ..)) hState

/-- What holds of the scalars of a text, and of lists and objects of values of which it holds, holds of the value that the text is. -/
theorem of_readChars (hList : ∀ items : List Json, (∀ v ∈ items, P v) → P (.arr items))
    (hObject : ∀ members : List (String × Json), (∀ m ∈ members, P m.2) → P (.obj members)) {s : List Char} {how : Reading}
    {v : Json} (h : readChars s how = .ok v) (hScalar : ∀ w, .scalar w ∈ tokens how.halves s → P w) : P v := by
  obtain ⟨next, hSteps, hEnd⟩ := ok_bind h
  have hValues := steps_values hList hObject hSteps hScalar fun w hw => absurd hw List.not_mem_nil
  match next, hEnd with
  | .complete w [], hEnd =>
    cases hEnd
    exact hValues v (List.mem_cons_self ..)

end

/-! ## Integers in a value -/

/-- An integer is in a value. -/
inductive HasInteger (i : Int) : Json → Prop
  | here : HasInteger i (.int i)
  | item {items : List Json} {v : Json} (hv : v ∈ items) (h : HasInteger i v) : HasInteger i (.arr items)
  | member {members : List (String × Json)} {key : String} {v : Json} (hv : (key, v) ∈ members) (h : HasInteger i v) :
    HasInteger i (.obj members)

/-- All integers in a value are short. -/
def AllShort (v : Json) : Prop := ∀ i, HasInteger i v → isShort i = true

theorem allShort_int {i : Int} (h : isShort i = true) : AllShort (.int i) := by
  intro j hj
  cases hj
  exact h

theorem allShort_arr {items : List Json} (h : ∀ v ∈ items, AllShort v) : AllShort (.arr items) := by
  intro i hi
  cases hi with
  | item hv hInner => exact h _ hv i hInner

theorem allShort_obj {members : List (String × Json)} (h : ∀ m ∈ members, AllShort m.2) : AllShort (.obj members) := by
  intro i hi
  cases hi with
  | member hv hInner => exact h _ hv i hInner

/-- A token holds short integers only. -/
def Token.IsShort (t : Token) : Prop := ∀ v, t = .scalar v → AllShort v

theorem Token.isShort_broken (e : ReadError) : (Token.broken e).IsShort := by
  intro v hv
  cases hv

theorem Token.isShort_scalar {v : Json} (h : AllShort v) : (Token.scalar v).IsShort := by
  intro w hw
  cases hw
  exact h

/-- A value that is neither an integer nor made of other values holds no integer. -/
theorem Token.isShort_plain {v : Json} (h : ∀ i, ¬ HasInteger i v) : (Token.scalar v).IsShort :=
  Token.isShort_scalar fun i hi => absurd hi (h i)

theorem isShort_float (x : Binary64) : (Token.scalar (.float x)).IsShort :=
  Token.isShort_plain fun _ hi => by cases hi

theorem isShort_textToken (halves : Halves) (units : List Nat) : (textToken halves units).IsShort :=
  Token.isShort_plain fun _ hi => by cases hi

theorem isShort_integerToken (negative : Bool) {digits : List Char} (h : ∀ c ∈ digits, c.isDigit = true) :
    (integerToken negative digits).IsShort := by
  rw [integerToken]
  split
  · exact Token.isShort_broken _
  · rename_i hLength
    exact Token.isShort_scalar (allShort_int (Numeral.isShort_of_digitsValue h hLength negative))

theorem isShort_brokenNumber (whole rest : List Char) : (brokenNumber whole rest).IsShort := by
  rw [brokenNumber]
  split <;> exact Token.isShort_broken _

theorem isShort_numberToken (negative : Bool) (word : List Char) : (numberToken negative word).IsShort := by
  have hWhole : ∀ c ∈ (if (word.takeWhile Char.isDigit).head? == some '0' then ['0'] else word.takeWhile Char.isDigit),
      c.isDigit = true := by
    intro c hc
    split at hc
    · rw [List.mem_singleton.mp hc]
      decide
    · exact List.all_eq_true.mp List.all_takeWhile c hc
  simp only [numberToken]
  generalize (if (word.takeWhile Char.isDigit).head? == some '0' then ['0'] else word.takeWhile Char.isDigit) = whole at hWhole ⊢
  split
  · exact Token.isShort_broken _
  · split
    · exact Token.isShort_broken _
    · split
      · exact isShort_integerToken negative hWhole
      · split
        · split
          · exact isShort_brokenNumber _ _
          · exact isShort_float _
        · exact isShort_brokenNumber _ _
      · split
        · exact isShort_float _
        · exact isShort_brokenNumber _ _

theorem isShort_wordToken (word : List Char) : (wordToken word).IsShort := by
  simp only [wordToken]
  split
  · exact Token.isShort_plain fun _ hi => by cases hi
  · split
    · exact Token.isShort_plain fun _ hi => by cases hi
    · split
      · exact Token.isShort_plain fun _ hi => by cases hi
      · split
        · exact isShort_float _
        · split
          · exact isShort_float _
          · split
            · exact isShort_float _
            · split
              · exact isShort_numberToken true _
              · exact isShort_numberToken false _

theorem isShort_of_opening {c : Char} : ∀ t ∈ (opening c).1, t.IsShort := by
  intro t ht v hv
  subst hv
  simp only [opening] at ht
  split at ht
  · cases ht
  · split at ht
    · cases ht
    · split at ht
      · cases ht
      · have hToken := List.mem_singleton.mp ht
        split at hToken <;> cases hToken

theorem isShort_of_scan {halves : Halves} {s : List Char} : ∀ {state : Scan}, ∀ t ∈ scan halves state s, t.IsShort := by
  induction s with
  | nil =>
    intro state t ht
    cases state with
    | between => cases ht
    | word read => exact List.mem_singleton.mp ht ▸ isShort_wordToken _
    | text | escape | unit => exact List.mem_singleton.mp ht ▸ Token.isShort_broken _
  | cons c s ih =>
    intro state t ht
    cases state with
    | between =>
      rcases List.mem_append.mp ht with ht | ht
      · exact isShort_of_opening t ht
      · exact ih t ht
    | word read =>
      rw [scan_word_cons] at ht
      split at ht
      · exact ih t ht
      · rcases List.mem_cons.mp ht with rfl | ht
        · exact isShort_wordToken _
        · rcases List.mem_append.mp ht with ht | ht
          · exact isShort_of_opening t ht
          · exact ih t ht
    | text read =>
      rw [scan_text_cons] at ht
      split at ht
      · rcases List.mem_cons.mp ht with rfl | ht
        · exact isShort_textToken _ _
        · exact ih t ht
      · split at ht
        · exact ih t ht
        · split at ht
          · exact List.mem_singleton.mp ht ▸ Token.isShort_broken _
          · exact ih t ht
    | escape read =>
      rw [scan_escape_cons] at ht
      split at ht
      · exact ih t ht
      · split at ht
        · exact ih t ht
        · exact List.mem_singleton.mp ht ▸ Token.isShort_broken _
    | unit read value digits =>
      rw [scan_unit_cons] at ht
      split at ht
      · split at ht <;> exact ih t ht
      · exact List.mem_singleton.mp ht ▸ Token.isShort_broken _

/-- The integers in a value that is read are short. -/
theorem allShort_of_readChars {s : List Char} {how : Reading} {v : Json} (h : readChars s how = .ok v) : AllShort v :=
  of_readChars (fun _ => allShort_arr) (fun _ => allShort_obj) h fun w hw => isShort_of_scan _ hw w rfl

end RanConsole.Json

import Mathlib.Data.List.Forall2
import RanConsole.Validation.Checked

/-!
# Where results come from

A result of composed computations comes from results of their parts: of the computation under a function (`ok_map`), of one followed by
another (`ok_bind`), of one whose failures are told otherwise (`ok_mapError`, `ok_under`), of checks made side by side (`ok_ap`), and of
the same one made for each item of a list (`mapM_eq_ok_iff`). Composed computations agree, in that both have related values or both
fail, if their parts do (`Agree`).
-/

namespace RanConsole

open Validation

variable {ε δ α β : Type}

theorem ok_map {f : α → β} {c : Except ε α} {b : β} (h : c.map f = .ok b) : ∃ a, c = .ok a ∧ b = f a := by
  cases c with
  | error e => cases h
  | ok a => exact ⟨a, rfl, (Except.ok.inj h).symm⟩

theorem ok_bind {c : Except ε α} {f : α → Except ε β} {b : β} (h : c.bind f = .ok b) : ∃ a, c = .ok a ∧ f a = .ok b := by
  cases c with
  | error e => cases h
  | ok a => exact ⟨a, rfl, h⟩

theorem ok_mapError {f : ε → δ} {c : Except ε α} {a : α} (h : c.mapError f = .ok a) : c = .ok a := by
  cases c with
  | error e => cases h
  | ok b => exact congrArg Except.ok (Except.ok.inj h)

theorem ok_under {step : String} {c : Checked α} {a : α} (h : c.under step = .ok a) : c = .ok a := ok_mapError h

theorem ok_ap {f : Checked (α → β)} {c : Checked α} {b : β} (h : f.ap c = .ok b) : ∃ g a, f = .ok g ∧ c = .ok a ∧ b = g a := by
  cases f with
  | error e => cases c <;> cases h
  | ok g =>
    cases c with
    | error e => cases h
    | ok a => exact ⟨g, a, rfl, rfl, (Except.ok.inj h).symm⟩

theorem exists_of_mem_right {r : α → β → Prop} {as : List α} {bs : List β} (h : List.Forall₂ r as bs) {b : β} (hb : b ∈ bs) :
    ∃ a ∈ as, r a b := by
  induction h with
  | nil => cases hb
  | cons hHead _ ih =>
    rcases List.mem_cons.mp hb with rfl | hb
    · exact ⟨_, List.mem_cons_self .., hHead⟩
    · obtain ⟨a, ha, hRelated⟩ := ih hb
      exact ⟨a, List.mem_cons_of_mem _ ha, hRelated⟩

/-- Lists whose items are related have the same images under functions that do not tell related items apart. -/
theorem map_eq_map_of_forall₂ {γ : Type} {r : α → β → Prop} {f : α → γ} {g : β → γ} {as : List α} {bs : List β}
    (h : List.Forall₂ r as bs) (hSame : ∀ a b, r a b → f a = g b) : as.map f = bs.map g := by
  induction h with
  | nil => rfl
  | cons hHead _ ih => rw [List.map_cons, List.map_cons, hSame _ _ hHead, ih]

/-- A list has results when each of its items has its own, in their order. -/
theorem mapM_eq_ok_iff {f : α → Except ε β} {items : List α} {results : List β} :
    items.mapM f = .ok results ↔ List.Forall₂ (fun a b => f a = .ok b) items results := by
  constructor
  · intro h
    induction items generalizing results with
    | nil =>
      cases h
      exact .nil
    | cons a items ih =>
      rw [List.mapM_cons] at h
      obtain ⟨b, hb, h⟩ := ok_bind h
      obtain ⟨rest, hRest, h⟩ := ok_bind h
      cases h
      exact .cons hb (ih hRest)
  · intro h
    induction h with
    | nil => rfl
    | cons hb _ ih =>
      rw [List.mapM_cons, hb, ih]
      rfl

theorem isOk_iff_exists (c : Except ε α) : c.isOk = true ↔ ∃ a, c = .ok a := by
  cases c with
  | error e => simp [Except.isOk, Except.toBool]
  | ok a => simp [Except.isOk, Except.toBool]

theorem ok_of_toOption {c : Except ε α} {a : α} (h : c.toOption = some a) : c = .ok a := by
  cases c with
  | error e => cases h
  | ok b => exact congrArg Except.ok (Option.some.inj h)

/-! ## Where failures come from -/

theorem error_bind {c : Except ε α} {f : α → Except ε β} {e : ε} (h : c.bind f = .error e) :
    c = .error e ∨ ∃ a, c = .ok a ∧ f a = .error e := by
  cases c with
  | error e' => exact .inl (congrArg Except.error (Except.error.inj h))
  | ok a => exact .inr ⟨a, rfl, h⟩

/-- A list has no results when one of its items has none. -/
theorem error_mapM {f : α → Except ε β} {items : List α} {e : ε} (h : items.mapM f = .error e) : ∃ a ∈ items, f a = .error e := by
  induction items with
  | nil => cases h
  | cons a items ih =>
    rw [List.mapM_cons] at h
    rcases error_bind h with ha | ⟨b, -, h⟩
    · exact ⟨a, List.mem_cons_self .., ha⟩
    · rcases error_bind h with hRest | ⟨rest, -, h⟩
      · obtain ⟨a', ha', hError⟩ := ih hRest
        exact ⟨a', List.mem_cons_of_mem _ ha', hError⟩
      · cases h

theorem error_mapError {f : ε → δ} {c : Except ε α} {e : δ} (h : c.mapError f = .error e) : ∃ e', c = .error e' ∧ e = f e' := by
  cases c with
  | error e' => exact ⟨e', rfl, (Except.error.inj h).symm⟩
  | ok a => cases h

/-! ## Results that agree -/

variable {ε' δ' γ κ : Type}

/-- Both results are values, which are related, or both are failures. -/
inductive Agree (R : α → β → Prop) : Except ε α → Except δ β → Prop
  | ok {a : α} {b : β} (h : R a b) : Agree R (.ok a) (.ok b)
  | error (e : ε) (e' : δ) : Agree R (.error e) (.error e')

namespace Agree

variable {R : α → β → Prop} {S : γ → κ → Prop} {c : Except ε α} {c' : Except δ β}

theorem refl {R : α → α → Prop} (h : ∀ a, R a a) (c : Except ε α) : Agree R c c := by
  cases c with
  | error e => exact .error e e
  | ok a => exact .ok (h a)

theorem trans {R : α → α → Prop} (hTrans : ∀ {a b d}, R a b → R b d → R a d) {c : Except ε α} {c' : Except ε' α} {c'' : Except δ α}
    (h : Agree R c c') (h' : Agree R c' c'') : Agree R c c'' := by
  cases h with
  | ok h =>
    cases h' with
    | ok h' => exact .ok (hTrans h h')
  | error =>
    cases h'
    exact .error ..

theorem exists_ok (h : Agree R c c') {a : α} (hValue : c = .ok a) : ∃ b, c' = .ok b ∧ R a b := by
  cases h with
  | ok h =>
    cases hValue
    exact ⟨_, rfl, h⟩
  | error => cases hValue

/-- Results agree if each value of one of them has a related value of the other one. -/
theorem of_forall (h : ∀ a, c = .ok a → ∃ b, c' = .ok b ∧ R a b) (h' : ∀ b, c' = .ok b → ∃ a, c = .ok a) : Agree R c c' := by
  cases c with
  | ok a =>
    obtain ⟨b, rfl, hRelated⟩ := h a rfl
    exact .ok hRelated
  | error e =>
    cases c' with
    | error e' => exact .error e e'
    | ok b =>
      obtain ⟨a, ha⟩ := h' b rfl
      cases ha

theorem mapError {f : ε → ε'} {g : δ → δ'} (h : Agree R c c') : Agree R (c.mapError f) (c'.mapError g) := by
  cases h with
  | ok h => exact .ok h
  | error e e' => exact .error (f e) (g e')

theorem bind {f : α → Except ε γ} {g : β → Except δ κ} (h : Agree R c c') (hNext : ∀ a b, R a b → Agree S (f a) (g b)) :
    Agree S (c.bind f) (c'.bind g) := by
  cases h with
  | ok h => exact hNext _ _ h
  | error e e' => exact .error e e'

/-- The results for the items of two lists agree if those for each two items at the same place do. -/
theorem mapM {f : α → Except ε γ} {g : β → Except δ κ} {items : List α} {items' : List β}
    (h : List.Forall₂ (fun a b => Agree S (f a) (g b)) items items') :
    Agree (List.Forall₂ S) (items.mapM f) (items'.mapM g) := by
  induction h with
  | nil => exact .ok .nil
  | cons hHead _ ih =>
    rw [List.mapM_cons, List.mapM_cons]
    exact hHead.bind fun a b hab => ih.bind fun as bs hRest => .ok (.cons hab hRest)

end Agree

end RanConsole

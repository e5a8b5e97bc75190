import Mathlib.Data.List.Basic
import Mathlib.Data.List.Infix
import RanConsole.Text.Cut

/-!
# Where a token stands

`cut?` finds the first place of a token: `cut?_eq_some_iff` says so without the search. A token that ends with a character which
stands nowhere before it is found where that character is (`cut?_at_mark`).
-/

namespace RanConsole.Text

/-- The parts of a cut and the token between them are the whole text. -/
theorem eq_append_of_cut? {token s b a : List Char} (h : cut? token s = some (b, a)) : s = b ++ token ++ a := by
  induction s generalizing b a with
  | nil =>
    rw [cut?] at h
    split at h
    · rename_i ht
      obtain ⟨rfl, rfl⟩ := Prod.mk.inj (Option.some.inj h)
      simpa using ht
    · cases h
  | cons c s ih =>
    rw [cut?] at h
    split at h
    · rename_i hp
      obtain ⟨t, ht⟩ := List.isPrefixOf_iff_prefix.1 hp
      obtain ⟨rfl, rfl⟩ := Prod.mk.inj (Option.some.inj h)
      rw [← ht, List.drop_left, List.nil_append]
    · obtain ⟨⟨b', a'⟩, h', hba⟩ := Option.map_eq_some_iff.1 h
      obtain ⟨rfl, rfl⟩ := Prod.mk.inj hba
      rw [ih h']
      rfl

/-- There is no cut only where the token does not occur. -/
theorem cut?_eq_none_iff (token s : List Char) : cut? token s = none ↔ ¬token <:+: s := by
  induction s with
  | nil => cases token <;> simp [cut?]
  | cons c s ih =>
    rw [cut?, List.infix_cons_iff]
    split
    · rename_i hp
      simp [List.isPrefixOf_iff_prefix.1 hp]
    · rename_i hp
      have hp' : ¬token <+: c :: s := fun h => hp (List.isPrefixOf_iff_prefix.2 h)
      simp [ih, hp']

theorem occursIn_iff (token s : List Char) : occursIn token s = true ↔ token <:+: s := by
  rw [← not_iff_not, ← cut?_eq_none_iff, occursIn, Bool.not_eq_true, Option.isSome_eq_false_iff, Option.isNone_iff_eq_none]

/-- No place of the token comes before the one that is found. -/
theorem length_le_of_cut? {token s b a : List Char} (h : cut? token s = some (b, a)) {b' a' : List Char}
    (h' : s = b' ++ token ++ a') : b.length ≤ b'.length := by
  induction s generalizing b a b' with
  | nil =>
    rw [cut?] at h
    split at h
    · obtain ⟨rfl, rfl⟩ := Prod.mk.inj (Option.some.inj h)
      exact Nat.zero_le _
    · cases h
  | cons c s ih =>
    rw [cut?] at h
    split at h
    · obtain ⟨rfl, rfl⟩ := Prod.mk.inj (Option.some.inj h)
      exact Nat.zero_le _
    · rename_i hp
      obtain ⟨⟨b₁, a₁⟩, h₁, hba⟩ := Option.map_eq_some_iff.1 h
      obtain ⟨rfl, rfl⟩ := Prod.mk.inj hba
      cases b' with
      | nil => exact absurd (List.isPrefixOf_iff_prefix.2 ⟨a', h'.symm⟩) hp
      | cons x b' => exact Nat.succ_le_succ (ih h₁ (List.cons.inj h').2)

/-- A cut is at the first place of the token. -/
theorem cut?_eq_some_iff (token s b a : List Char) :
    cut? token s = some (b, a) ↔
      s = b ++ token ++ a ∧ ∀ b' a', s = b' ++ token ++ a' → b.length ≤ b'.length := by
  constructor
  · intro h
    exact ⟨eq_append_of_cut? h, fun b' a' h' => length_le_of_cut? h h'⟩
  · rintro ⟨hs, hfirst⟩
    cases h : cut? token s with
    | none => exact absurd ⟨b, a, hs.symm⟩ ((cut?_eq_none_iff token s).1 h)
    | some found =>
      obtain ⟨b₁, a₁⟩ := found
      have hs₁ := eq_append_of_cut? h
      have hlen : b₁.length = b.length := Nat.le_antisymm (length_le_of_cut? h hs) (hfirst b₁ a₁ hs₁)
      rw [hs, List.append_assoc, List.append_assoc] at hs₁
      obtain ⟨rfl, hrest⟩ := List.append_inj hs₁ hlen.symm
      rw [List.append_cancel_left hrest]

/-- In front of the first place of a token the token does not occur. -/
theorem not_infix_of_cut? {token s b a : List Char} (hne : token ≠ []) (h : cut? token s = some (b, a)) : ¬token <:+: b := by
  rintro ⟨u, v, rfl⟩
  have hs := eq_append_of_cut? h
  have hfirst := length_le_of_cut? h (show s = u ++ token ++ (v ++ token ++ a) by rw [hs]; simp)
  have hlength := List.length_pos_of_ne_nil hne
  simp only [List.length_append] at hfirst
  omega

/-- A token whose last character stands nowhere before it is found at that character. -/
theorem cut?_at_mark {m : Char} {t b : List Char} (ht : m ∉ t) (hb : m ∉ b) (a : List Char) :
    cut? (t ++ [m]) (b ++ t ++ m :: a) = some (b, a) := by
  refine (cut?_eq_some_iff _ _ _ _).2 ⟨by simp, ?_⟩
  intro b' a' h
  have h' : (b ++ t) ++ m :: a = (b' ++ t) ++ m :: a' := by simpa using h
  by_contra hlt
  -- the earlier place would put the mark among the characters before it
  have hpre : b' ++ t ++ [m] <+: b ++ t := by
    have hp : b' ++ t ++ [m] <+: (b ++ t) ++ m :: a := ⟨a', by simp [h']⟩
    refine List.prefix_of_prefix_length_le hp (List.prefix_append _ _) ?_
    simp only [List.length_append, List.length_singleton]
    omega
  have hm : m ∈ b ++ t := hpre.subset (by simp)
  simp [ht, hb] at hm

/-- A single character is found at its first place. -/
theorem cut?_char_eq_some_iff (m : Char) (s b a : List Char) : cut? [m] s = some (b, a) ↔ s = b ++ m :: a ∧ m ∉ b := by
  constructor
  · intro h
    have hs : s = b ++ m :: a := by simpa using eq_append_of_cut? h
    refine ⟨hs, fun hm => ?_⟩
    obtain ⟨b₁, b₂, rfl⟩ := List.append_of_mem hm
    have hlen := length_le_of_cut? h (show s = b₁ ++ [m] ++ (b₂ ++ m :: a) by simp [hs])
    simp only [List.length_append, List.length_cons] at hlen
    omega
  · rintro ⟨rfl, hm⟩
    simpa using cut?_at_mark (List.not_mem_nil (a := m)) hm a

theorem cut?_char_eq_none_iff (m : Char) (s : List Char) : cut? [m] s = none ↔ m ∉ s := by
  rw [cut?_eq_none_iff, List.singleton_infix_iff]

/-- The first place of a character cuts a text in one way. -/
theorem append_cons_inj_of_first {m : Char} {b a b' a' : List Char} (hb : m ∉ b) (hb' : m ∉ b')
    (h : b ++ m :: a = b' ++ m :: a') : b = b' ∧ a = a' := by
  have hcut := (cut?_char_eq_some_iff m _ b a).2 ⟨rfl, hb⟩
  rw [(cut?_char_eq_some_iff m _ b' a').2 ⟨h, hb'⟩] at hcut
  obtain ⟨rfl, rfl⟩ := Prod.mk.inj (Option.some.inj hcut)
  exact ⟨rfl, rfl⟩

/-! ## Texts with a separator between them -/

/-- A piece between separators holds no separator, and nothing that the whole text does not hold. -/
theorem of_mem_splitOn {m : Char} {s piece : List Char} (h : piece ∈ s.splitOn m) : m ∉ piece ∧ piece ⊆ s := by
  induction hn : s.length using Nat.strong_induction_on generalizing s with
  | _ n ih =>
    by_cases hm : m ∈ s
    · obtain ⟨b, a, rfl, hb⟩ := List.eq_append_cons_of_mem hm
      rw [List.splitOn_append_cons_self_of_not_mem hb] at h
      rcases List.mem_cons.1 h with rfl | h
      · exact ⟨hb, List.subset_append_left _ _⟩
      · obtain ⟨hpiece, hsub⟩ := ih a.length (by simp [← hn]; omega) h rfl
        exact ⟨hpiece, fun c hc => List.mem_append_right _ (List.mem_cons_of_mem m (hsub hc))⟩
    · rw [List.splitOn_eq_singleton hm] at h
      obtain rfl := List.mem_singleton.1 h
      exact ⟨hm, fun c hc => hc⟩

/-- Joining texts is the intercalation of the library. -/
theorem joinWith_eq_intercalate (sep : List Char) (ss : List (List Char)) : joinWith sep ss = sep.intercalate ss := by
  induction ss with
  | nil => rfl
  | cons s rest ih =>
    cases rest with
    | nil => simp [joinWith, List.intercalate]
    | cons t rest =>
      rw [joinWith, ih]
      simp [List.intercalate]

/-- A character of joined texts stands in the separator or in one of the texts. -/
theorem mem_joinWith {sep : List Char} {ss : List (List Char)} {c : Char} (h : c ∈ joinWith sep ss) :
    c ∈ sep ∨ ∃ s ∈ ss, c ∈ s := by
  induction ss with
  | nil => simp [joinWith] at h
  | cons s rest ih =>
    cases rest with
    | nil => exact Or.inr ⟨s, List.mem_singleton_self s, h⟩
    | cons t rest =>
      rw [joinWith, List.append_assoc, List.mem_append, List.mem_append] at h
      rcases h with h | h | h
      · exact Or.inr ⟨s, List.mem_cons_self .., h⟩
      · exact Or.inl h
      · exact (ih h).imp_right fun ⟨s', hs', hc⟩ => ⟨s', List.mem_cons_of_mem s hs', hc⟩

end RanConsole.Text

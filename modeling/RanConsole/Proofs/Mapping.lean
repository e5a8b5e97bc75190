import RanConsole.Yaml.Basic

/-!
# Looking up what was written

What a mapping has at a key after another key, or the same key, was written (`get?_put_self`, `get?_put_of_ne`), and the keys that it
has then, each of them once if it was so before (`distinct_put`). Texts as keys of YAML mappings are the same key only when they are
equal.
-/

namespace RanConsole.Mapping

variable {κ α β : Type}

@[simp] theorem keys_cons (k : κ) (v : α) (m : List (κ × α)) : keys ((k, v) :: m) = k :: keys m :=
  rfl

variable [BEq κ]

@[simp] theorem get?_nil (key : κ) : get? key ([] : List (κ × α)) = none :=
  rfl

theorem get?_cons (key k : κ) (v : α) (m : List (κ × α)) :
    get? key ((k, v) :: m) = if k == key then some v else get? key m :=
  rfl

theorem put_cons (key k : κ) (value v : α) (m : List (κ × α)) :
    put key value ((k, v) :: m) = if k == key then (k, value) :: m else (k, v) :: put key value m :=
  rfl

/-- A key that is written has the value that was written. -/
theorem get?_put_self [ReflBEq κ] (key : κ) (value : α) (m : List (κ × α)) : get? key (put key value m) = some value := by
  induction m with
  | nil => simp [put, get?_cons]
  | cons entry m ih =>
    obtain ⟨k, v⟩ := entry
    rw [put_cons]
    by_cases h : (k == key) = true
    · rw [if_pos h, get?_cons, if_pos h]
    · rw [if_neg h, get?_cons, if_neg h, ih]

/-- A key that nothing shares with the one that is written keeps its value. -/
theorem get?_put_of_ne {key other : κ} (h : ∀ k : κ, (k == key) = true → (k == other) = false) (value : α)
    (hSelf : (key == other) = false) (m : List (κ × α)) : get? other (put key value m) = get? other m := by
  induction m with
  | nil => simp [put, get?_cons, hSelf]
  | cons entry m ih =>
    obtain ⟨k, v⟩ := entry
    rw [put_cons]
    by_cases hk : (k == key) = true
    · rw [if_pos hk, get?_cons, get?_cons, h k hk]
      rfl
    · rw [if_neg hk, get?_cons, get?_cons, ih]

theorem get?_map (f : α → β) (key : κ) (m : List (κ × α)) :
    get? key (m.map fun (k, v) => (k, f v)) = (get? key m).map f := by
  induction m with
  | nil => rfl
  | cons entry m ih =>
    obtain ⟨k, v⟩ := entry
    rw [List.map_cons, get?_cons, get?_cons]
    by_cases h : (k == key) = true
    · rw [if_pos h, if_pos h, Option.map_some]
    · rw [if_neg h, if_neg h, ih]

theorem put_map (f : α → β) (key : κ) (value : α) (m : List (κ × α)) :
    put key (f value) (m.map fun (k, v) => (k, f v)) = (put key value m).map fun (k, v) => (k, f v) := by
  induction m with
  | nil => rfl
  | cons entry m ih =>
    obtain ⟨k, v⟩ := entry
    rw [List.map_cons, put_cons, put_cons, ih]
    split <;> rfl

/-- Writing a key that is there leaves the keys as they are. -/
theorem keys_put_of_isSome {key : κ} {m : List (κ × α)} (h : (get? key m).isSome) (value : α) : keys (put key value m) = keys m := by
  induction m with
  | nil => simp at h
  | cons entry m ih =>
    obtain ⟨k, v⟩ := entry
    rw [put_cons]
    by_cases hk : (k == key) = true
    · rw [if_pos hk]
      rfl
    · rw [get?_cons, if_neg hk] at h
      rw [if_neg hk]
      exact congrArg (k :: ·) (ih h)

/-- A key of a mapping that was written to is the one that was written or was there before. -/
theorem mem_keys_put {k key : κ} {value : α} {m : List (κ × α)} (h : k ∈ keys (put key value m)) : k = key ∨ k ∈ keys m := by
  induction m with
  | nil =>
    left
    simpa [put, keys] using h
  | cons entry m ih =>
    obtain ⟨other, v⟩ := entry
    rw [put_cons] at h
    by_cases hk : (other == key) = true
    · rw [if_pos hk] at h
      exact Or.inr h
    · rw [if_neg hk, keys_cons, List.mem_cons] at h
      rw [keys_cons, List.mem_cons]
      rcases h with h | h
      · exact Or.inr (Or.inl h)
      · exact (ih h).imp_right Or.inr

theorem mem_keys_putAll {k : κ} (pairs : List (κ × α)) :
    ∀ {start : List (κ × α)}, k ∈ keys (putAll start pairs) → k ∈ keys start ∨ k ∈ keys pairs := by
  induction pairs with
  | nil =>
    intro start h
    exact Or.inl h
  | cons pair pairs ih =>
    intro start h
    obtain ⟨key, value⟩ := pair
    rw [keys_cons, List.mem_cons]
    rcases ih h with h | h
    · rcases mem_keys_put h with h | h
      · exact Or.inr (Or.inl h)
      · exact Or.inl h
    · exact Or.inr (Or.inr h)

theorem mem_keys_ofPairs {k : κ} {pairs : List (κ × α)} (h : k ∈ keys (ofPairs pairs)) : k ∈ keys pairs :=
  (mem_keys_putAll pairs h).resolve_left (List.not_mem_nil)

/-- What is in a mapping that was written to was written or was there before. -/
theorem mem_put [LawfulBEq κ] {p : κ × α} {key : κ} {value : α} {m : List (κ × α)} (h : p ∈ put key value m) :
    p = (key, value) ∨ p ∈ m := by
  induction m with
  | nil => exact Or.inl (List.mem_singleton.mp h)
  | cons entry m ih =>
    obtain ⟨k, v⟩ := entry
    rw [put_cons] at h
    by_cases hk : (k == key) = true
    · rw [if_pos hk, List.mem_cons, eq_of_beq hk] at h
      exact h.imp_right fun h => List.mem_cons_of_mem _ h
    · rw [if_neg hk, List.mem_cons] at h
      rcases h with rfl | h
      · exact Or.inr (List.mem_cons_self ..)
      · exact (ih h).imp_right fun h => List.mem_cons_of_mem _ h

/-- What is in a mapping to which pairs were written is one of them or was there before. -/
theorem mem_putAll [LawfulBEq κ] {p : κ × α} (pairs : List (κ × α)) :
    ∀ {start : List (κ × α)}, p ∈ putAll start pairs → p ∈ start ∨ p ∈ pairs := by
  induction pairs with
  | nil =>
    intro start h
    exact Or.inl h
  | cons pair pairs ih =>
    intro start h
    rw [List.mem_cons]
    rcases ih h with h | h
    · rcases mem_put h with h | h
      · exact Or.inr (Or.inl h)
      · exact Or.inl h
    · exact Or.inr (Or.inr h)

/-- What is in the mapping of pairs is one of them. -/
theorem mem_ofPairs [LawfulBEq κ] {p : κ × α} {pairs : List (κ × α)} (h : p ∈ ofPairs pairs) : p ∈ pairs :=
  (mem_putAll pairs h).resolve_left List.not_mem_nil

/-- The value of a key stands in the mapping. -/
theorem mem_of_get? [LawfulBEq κ] {key : κ} {v : α} {m : List (κ × α)} (h : get? key m = some v) : (key, v) ∈ m := by
  induction m with
  | nil => cases h
  | cons entry m ih =>
    obtain ⟨k, w⟩ := entry
    rw [get?_cons] at h
    split at h
    · rename_i hKey
      rw [← eq_of_beq hKey, Option.some.inj h]
      exact List.mem_cons_self ..
    · exact List.mem_cons_of_mem _ (ih h)

/-- A value that a mapping has at a key stands in it with a key. -/
theorem exists_mem_of_get? {key : κ} {v : α} {m : List (κ × α)} (h : get? key m = some v) : ∃ k, (k, v) ∈ m := by
  induction m with
  | nil => cases h
  | cons entry m ih =>
    obtain ⟨k, w⟩ := entry
    rw [get?_cons] at h
    by_cases hKey : (k == key) = true
    · rw [if_pos hKey] at h
      exact ⟨k, by rw [Option.some.inj h]; exact List.mem_cons_self ..⟩
    · rw [if_neg hKey] at h
      exact (ih h).imp fun _ hMem => List.mem_cons_of_mem _ hMem

/-- A key is in a mapping if it has a value. -/
theorem isSome_get?_iff (key : κ) (m : List (κ × α)) : (get? key m).isSome = (keys m).any (· == key) := by
  induction m with
  | nil => rfl
  | cons entry m ih =>
    obtain ⟨k, v⟩ := entry
    rw [get?_cons, keys_cons, List.any_cons]
    by_cases h : (k == key) = true
    · simp [h]
    · rw [if_neg h, ih, Bool.eq_false_iff.mpr h, Bool.false_or]

theorem lookup_eq_get? [LawfulBEq κ] (key : κ) (m : List (κ × α)) : m.lookup key = get? key m := by
  induction m with
  | nil => rfl
  | cons entry m ih =>
    obtain ⟨k, v⟩ := entry
    rw [get?_cons, List.lookup_cons]
    by_cases h : k = key
    · simp [h]
    · have hNe : (key == k) = false := beq_eq_false_iff_ne.mpr fun hKey => h hKey.symm
      rw [hNe, ih, if_neg (by simpa using h)]

/-! ## Writing again -/

theorem put_put [ReflBEq κ] (key : κ) (v w : α) (m : List (κ × α)) : put key w (put key v m) = put key w m := by
  induction m with
  | nil => simp [put]
  | cons entry m ih =>
    obtain ⟨k, old⟩ := entry
    rw [put_cons, put_cons]
    by_cases hk : (k == key) = true
    · rw [if_pos hk, if_pos hk, put_cons, if_pos hk]
    · rw [if_neg hk, if_neg hk, put_cons, if_neg hk, ih]

/-- A key that is not there comes last, and all others keep their places. -/
theorem keys_put (key : κ) (v : α) (m : List (κ × α)) :
    keys (put key v m) = if (get? key m).isSome then keys m else keys m ++ [key] := by
  by_cases h : (get? key m).isSome = true
  · rw [if_pos h, keys_put_of_isSome h]
  · rw [if_neg h]
    induction m with
    | nil => rfl
    | cons entry m ih =>
      obtain ⟨k, old⟩ := entry
      rw [get?_cons] at h
      by_cases hk : (k == key) = true
      · rw [if_pos hk] at h
        exact absurd rfl h
      · rw [if_neg hk] at h
        rw [put_cons, if_neg hk, keys_cons, ih h, keys_cons, List.cons_append]

theorem keys_prefix_put (key : κ) (v : α) (m : List (κ × α)) : keys m <+: keys (put key v m) := by
  rw [keys_put]
  split
  · exact List.prefix_rfl
  · exact List.prefix_append _ _

/-- Writing what is there changes nothing. -/
theorem put_of_get? {key : κ} {v : α} {m : List (κ × α)} (h : get? key m = some v) : put key v m = m := by
  induction m with
  | nil => cases h
  | cons entry m ih =>
    obtain ⟨k, w⟩ := entry
    rw [get?_cons] at h
    rw [put_cons]
    by_cases hk : (k == key) = true
    · rw [if_pos hk] at h
      rw [if_pos hk, Option.some.inj h]
    · rw [if_neg hk] at h
      rw [if_neg hk, ih h]

/-! ## Distinct keys -/

/-- No key stands in front of one that is the same key. -/
def Distinct (m : List (κ × α)) : Prop := (keys m).Pairwise fun k other => (k == other) = false

theorem Distinct.tail {entry : κ × α} {m : List (κ × α)} (h : Distinct (entry :: m)) : Distinct m := (List.pairwise_cons.mp h).2

theorem Distinct.sublist {m m' : List (κ × α)} (h : Distinct m) (hKeys : (keys m').Sublist (keys m)) : Distinct m' :=
  List.Pairwise.sublist hKeys h

/-- What is the same key as the first one does not come again. -/
theorem Distinct.get?_tail {k key : κ} {v : α} {m : List (κ × α)} (h : Distinct ((k, v) :: m))
    (hKey : ∀ other : κ, (other == key) = true → (k == other) = true) : get? key m = none := by
  rw [← Option.not_isSome_iff_eq_none, isSome_get?_iff, Bool.not_eq_true, List.any_eq_false]
  intro other hOther hSame
  have hNe := (List.pairwise_cons.mp h).1 other hOther
  rw [hKey other hSame] at hNe
  cases hNe

/-- Writing a key keeps the keys distinct. -/
theorem distinct_put {m : List (κ × α)} (h : Distinct m) (key : κ) (v : α) : Distinct (put key v m) := by
  rw [Distinct, keys_put]
  by_cases hSome : (get? key m).isSome = true
  · rw [if_pos hSome]
    exact h
  · rw [if_neg hSome, List.pairwise_append]
    refine ⟨h, List.pairwise_singleton .., fun k hk other hOther => ?_⟩
    rw [List.mem_singleton.mp hOther]
    rw [isSome_get?_iff, Bool.not_eq_true, List.any_eq_false] at hSome
    exact Bool.eq_false_iff.mpr (hSome k hk)

theorem distinct_putAll (pairs : List (κ × α)) : ∀ {start : List (κ × α)}, Distinct start → Distinct (putAll start pairs) := by
  induction pairs with
  | nil =>
    intro start h
    exact h
  | cons pair pairs ih =>
    intro start h
    exact ih (distinct_put h pair.1 pair.2)

theorem distinct_ofPairs (pairs : List (κ × α)) : Distinct (ofPairs pairs) := distinct_putAll pairs List.Pairwise.nil

/-- A key that is not there comes last. -/
theorem put_of_get?_eq_none {key : κ} {m : List (κ × α)} (h : get? key m = none) (v : α) : put key v m = m ++ [(key, v)] := by
  induction m with
  | nil => rfl
  | cons entry m ih =>
    obtain ⟨k, old⟩ := entry
    rw [get?_cons] at h
    by_cases hk : (k == key) = true
    · rw [if_pos hk] at h
      cases h
    · rw [if_neg hk] at h
      rw [put_cons, if_neg hk, ih h, List.cons_append]

/-- A key is not there in front of where it stands. -/
theorem Distinct.get?_front {key : κ} {v : α} {front back : List (κ × α)} (h : Distinct (front ++ (key, v) :: back)) :
    get? key front = none := by
  rw [← Option.not_isSome_iff_eq_none, isSome_get?_iff, Bool.not_eq_true, List.any_eq_false]
  intro k hk
  rw [Distinct, keys, List.map_append, List.pairwise_append] at h
  exact Bool.eq_false_iff.mp (h.2.2 k hk key (List.mem_cons_self ..))

theorem putAll_of_distinct {pairs : List (κ × α)} :
    ∀ {start : List (κ × α)}, Distinct (start ++ pairs) → putAll start pairs = start ++ pairs := by
  induction pairs with
  | nil =>
    intro start _
    rw [List.append_nil]
    rfl
  | cons pair pairs ih =>
    intro start h
    obtain ⟨key, v⟩ := pair
    have hNone : get? key start = none := h.get?_front
    have hStart : start ++ (key, v) :: pairs = (start ++ [(key, v)]) ++ pairs := by
      rw [List.append_assoc, List.singleton_append]
    have hStep : putAll start ((key, v) :: pairs) = putAll (put key v start) pairs := rfl
    rw [hStep, put_of_get?_eq_none hNone, hStart]
    exact ih (hStart ▸ h)

/-- Pairs with distinct keys are a mapping as they are. -/
theorem ofPairs_of_distinct {pairs : List (κ × α)} (h : Distinct pairs) : ofPairs pairs = pairs := putAll_of_distinct h

theorem ofPairs_of_nodup [LawfulBEq κ] {pairs : List (κ × α)} (h : (keys pairs).Nodup) : ofPairs pairs = pairs :=
  ofPairs_of_distinct (h.imp fun hNe => beq_eq_false_iff_ne.mpr hNe)

/-- What a mapping to which pairs were written has at a key: the value of the last pair with it, else what it had before. -/
theorem get?_putAll_eq_find? [LawfulBEq κ] (key : κ) (pairs : List (κ × α)) :
    ∀ start : List (κ × α),
      get? key (putAll start pairs) = ((pairs.reverse.find? (·.1 == key)).map (·.2)).or (get? key start) := by
  induction pairs with
  | nil =>
    intro start
    rfl
  | cons pair pairs ih =>
    intro start
    obtain ⟨k, v⟩ := pair
    have hStep : putAll start ((k, v) :: pairs) = putAll (put k v start) pairs := rfl
    rw [hStep, ih, List.reverse_cons, List.find?_append]
    cases pairs.reverse.find? (·.1 == key) with
    | some found => rfl
    | none =>
      by_cases hk : (k == key) = true
      · rw [eq_of_beq hk, get?_put_self]
        simp
      · have hFrame : get? key (put k v start) = get? key start := by
          refine get?_put_of_ne (fun other hOther => ?_) v (Bool.eq_false_iff.mpr hk) start
          rw [eq_of_beq hOther]
          exact Bool.eq_false_iff.mpr hk
        rw [hFrame]
        simp [hk]

/-- What the mapping of pairs has at a key: the value of the last pair with it. -/
theorem get?_ofPairs [LawfulBEq κ] (key : κ) (pairs : List (κ × α)) :
    get? key (ofPairs pairs) = (pairs.reverse.find? (·.1 == key)).map (·.2) := by
  rw [ofPairs, get?_putAll_eq_find?, get?_nil, Option.or_none]

/-- What a mapping to which another one was written has at a key: what the other one has, else what it had before. -/
theorem get?_putAll [LawfulBEq κ] (key : κ) {pairs : List (κ × α)} (h : Distinct pairs) (start : List (κ × α)) :
    get? key (putAll start pairs) = (get? key pairs).or (get? key start) := by
  rw [get?_putAll_eq_find?, ← get?_ofPairs, ofPairs_of_distinct h]

/-- What the part of a mapping has at a key that is made of some of its keys. -/
theorem get?_filter [LawfulBEq κ] (p : κ → Bool) (key : κ) (m : List (κ × α)) :
    get? key (m.filter fun entry => p entry.1) = if p key then get? key m else none := by
  induction m with
  | nil =>
    rw [List.filter_nil, get?_nil, ite_self]
  | cons entry m ih =>
    obtain ⟨k, v⟩ := entry
    rw [List.filter_cons, get?_cons]
    by_cases hKey : (k == key) = true
    · rw [if_pos hKey]
      by_cases hp : p key = true
      · rw [eq_of_beq hKey, if_pos hp, if_pos hp, get?_cons, if_pos BEq.rfl]
      · rw [eq_of_beq hKey, if_neg hp, if_neg hp, ih, if_neg hp]
    · rw [if_neg hKey]
      split
      · rw [get?_cons, if_neg hKey, ih]
      · exact ih

/-! ## Keys that are the same -/

section

variable [EquivBEq κ]

theorem get?_congr {key other : κ} (h : (key == other) = true) (m : List (κ × α)) : get? key m = get? other m := by
  induction m with
  | nil => rfl
  | cons entry m ih =>
    obtain ⟨k, v⟩ := entry
    rw [get?_cons, get?_cons, BEq.congr_right h, ih]

/-- What a mapping has at a key after a key was written. -/
theorem get?_put (key other : κ) (value : α) (m : List (κ × α)) :
    get? other (put key value m) = if key == other then some value else get? other m := by
  by_cases h : (key == other) = true
  · rw [if_pos h, ← get?_congr h, get?_put_self]
  · rw [if_neg h]
    refine get?_put_of_ne (fun k hk => ?_) value (Bool.eq_false_iff.mpr h) m
    rw [BEq.congr_left hk]
    exact Bool.eq_false_iff.mpr h

/-- Where keys are distinct, a mapping has at each of them the value that stands with it. -/
theorem get?_of_mem {key : κ} {v : α} {m : List (κ × α)} (h : Distinct m) (hMem : (key, v) ∈ m) : get? key m = some v := by
  induction m with
  | nil => cases hMem
  | cons entry m ih =>
    obtain ⟨k, w⟩ := entry
    rw [get?_cons]
    rcases List.mem_cons.mp hMem with hHead | hTail
    · cases hHead
      rw [if_pos BEq.rfl]
    · have hNe := (List.pairwise_cons.mp h).1 key (List.mem_map.mpr ⟨_, hTail, rfl⟩)
      rw [hNe, if_neg Bool.false_ne_true, ih h.tail hTail]

end

end RanConsole.Mapping

namespace RanConsole.Yaml

/-- Every scalar is the same key as itself. -/
theorem sameKey_self (a : Scalar) : a.sameKey a = true := by
  rw [Scalar.sameKey]
  cases a.integer? with
  | some i => simp
  | none =>
    cases a.instant? with
    | some i => simp
    | none => simp

/-- A scalar is the same key as a text only if it is that text. -/
theorem sameKey_str (a : Scalar) (s : String) : a.sameKey (.str s) = (a == .str s) := by
  rw [Scalar.sameKey]
  cases a.integer? with
  | none =>
    cases a.instant? with
    | none => rfl
    | some i => rfl
  | some i =>
    cases a.instant? with
    | none => rfl
    | some i => rfl

/-- What a scalar is as a key: a number, a point in time, or the scalar itself. -/
def Scalar.identity (a : Scalar) : Int ⊕ (Int × Nat) ⊕ Scalar :=
  match a.integer?, a.instant? with
  | some i, _ => .inl i
  | none, some i => .inr (.inl i)
  | none, none => .inr (.inr a)

theorem instant?_of_integer? {a : Scalar} {i : Int} (h : a.integer? = some i) : a.instant? = none := by
  cases a with
  | moment m => cases h
  | _ => rfl

/-- Two scalars are the same key when they are the same as keys. -/
theorem sameKey_iff (a b : Scalar) : a.sameKey b = true ↔ a.identity = b.identity := by
  by_cases hSame : a = b
  · rw [hSame]
    exact iff_of_true (sameKey_self b) rfl
  · rw [Scalar.sameKey, Scalar.identity, Scalar.identity]
    cases ha : a.integer? with
    | some i =>
      have ha' := instant?_of_integer? ha
      cases b.integer? <;> cases b.instant? <;> simp [ha', hSame]
    | none =>
      cases hb : b.integer? with
      | some j =>
        have hb' := instant?_of_integer? hb
        cases a.instant? <;> simp [hb', hSame]
      | none => cases a.instant? <;> cases b.instant? <;> simp [hSame]

theorem beq_iff_identity_eq (k other : Key) : (k == other) = true ↔ k.scalar.identity = other.scalar.identity :=
  sameKey_iff k.scalar other.scalar

instance : EquivBEq Key where
  rfl {k} := sameKey_self k.scalar
  symm h := (beq_iff_identity_eq _ _).mpr ((beq_iff_identity_eq _ _).mp h).symm
  trans h h' := (beq_iff_identity_eq _ _).mpr (((beq_iff_identity_eq _ _).mp h).trans ((beq_iff_identity_eq _ _).mp h'))

theorem beq_text (k : Key) (s : String) : (k == Key.text s) = (k.scalar == .str s) :=
  sameKey_str k.scalar s

@[simp] theorem text_beq_text (s t : String) : (Key.text s == Key.text t) = (s == t) := by
  rw [beq_text, Bool.eq_iff_iff]
  simp [Key.text]

theorem entries?_eq_some {v : Yaml} {entries : Entries} (h : v.entries? = some entries) : v = .map entries := by
  cases v with
  | map inner => exact congrArg Yaml.map (Option.some.inj h)
  | _ => simp [entries?] at h

/-- What a mapping has at a text after a key was written. -/
theorem get?_put_key (written : Key) (looked : String) (v : Yaml) (entries : Entries) :
    Mapping.get? (.text looked) (Mapping.put written v entries) =
      if written.scalar = .str looked then some v else Mapping.get? (.text looked) entries := by
  rw [Mapping.get?_put, beq_text]
  simp only [beq_iff_eq]

/-- What a mapping has at a text after a text was written. -/
theorem get?_put_text (written looked : String) (v : Yaml) (entries : Entries) :
    Mapping.get? (.text looked) (Mapping.put (.text written) v entries) =
      if written = looked then some v else Mapping.get? (.text looked) entries := by
  rw [get?_put_key]
  simp only [Key.text, Scalar.str.injEq]

end RanConsole.Yaml

import RanConsole.Proofs.Config.Landing

/-!
# Trees of settings

A mapping with mappings inside is a tree, in which a path of keys leads to a value (`valueAt?`). A value that is set at the end of a path
is there afterwards, what lies apart from the path keeps its value, and every mapping keeps its keys in their order (`isUpdate_setAt`).
A second value at the same path takes the place of the first (`setAt_setAt`), and values at paths apart from each other can be set in
either order (`sameTree_setAt_comm`).
-/

namespace RanConsole

/-! ## Paths apart from each other -/

/-- Neither of two paths leads on from the other one. -/
def Apart {κ : Type} (p q : List κ) : Prop := ¬ p <+: q ∧ ¬ q <+: p

namespace Apart

variable {κ : Type} {p q : List κ}

theorem symm (h : Apart p q) : Apart q p := ⟨h.2, h.1⟩

theorem left_ne_nil (h : Apart p q) : p ≠ [] := by
  rintro rfl
  exact h.1 List.nil_prefix

theorem right_ne_nil (h : Apart p q) : q ≠ [] := h.symm.left_ne_nil

/-- Paths that are apart part at the first keys, or behind them. -/
theorem cons_iff {a b : κ} : Apart (a :: p) (b :: q) ↔ a ≠ b ∨ a = b ∧ Apart p q := by
  by_cases h : a = b
  · simp [Apart, List.cons_prefix_cons, h]
  · simp [Apart, List.cons_prefix_cons, h, Ne.symm h]

end Apart

/-! ## Values at paths -/

namespace Yaml

/-- The value to which a path leads. -/
def valueAt? : List Scalar → Yaml → Option Yaml
  | [], v => some v
  | key :: rest, .map entries => (Mapping.get? { scalar := key } entries).bind (valueAt? rest)
  | _ :: _, _ => none

/-- A path of texts. -/
def textPath (keys : List String) : List Scalar := keys.map .str

theorem textPath_prefix_iff {p q : List String} : textPath p <+: textPath q ↔ p <+: q := by
  rw [textPath, textPath, List.prefix_map_iff_of_injective fun _ _ => Scalar.str.inj]

theorem apart_textPath_iff {p q : List String} : Apart (textPath p) (textPath q) ↔ Apart p q := by
  rw [Apart, Apart, textPath_prefix_iff, textPath_prefix_iff]

/-- What a mapping has at a key after a text was written. -/
theorem get?_put_text_scalar (head : String) (looked : Scalar) (v : Yaml) (entries : Entries) :
    Mapping.get? { scalar := looked } (Mapping.put (.text head) v entries) =
      if looked = .str head then some v else Mapping.get? { scalar := looked } entries := by
  have hSame : (Key.text head == { scalar := looked }) = (looked == .str head) := by rw [BEq.comm, beq_text]
  rw [Mapping.get?_put, hSame]
  simp only [beq_iff_eq]

/-- A value that has something behind a key is a mapping. -/
theorem exists_entries_of_valueAt? {key : Scalar} {rest : List Scalar} {v w : Yaml} (h : valueAt? (key :: rest) v = some w) :
    ∃ entries, v = .map entries := by
  cases v with
  | map entries => exact ⟨entries, rfl⟩
  | _ => cases h

theorem valueAt?_append (p q : List Scalar) (v : Yaml) : valueAt? (p ++ q) v = (valueAt? p v).bind (valueAt? q) := by
  induction p generalizing v with
  | nil => rfl
  | cons key rest ih =>
    cases v with
    | map entries =>
      rw [List.cons_append, valueAt?, valueAt?, Option.bind_assoc]
      exact congrArg _ (funext ih)
    | _ => rfl

/-- On the way to a value there are mappings alone. -/
theorem exists_entries_of_prefix {p q : List Scalar} {v w : Yaml} (h : valueAt? q v = some w) (hPrefix : p <+: q) (hne : p ≠ q) :
    ∃ entries, valueAt? p v = some (.map entries) := by
  obtain ⟨rest, rfl⟩ := hPrefix
  rw [valueAt?_append] at h
  obtain ⟨x, hx, hRest⟩ := Option.bind_eq_some_iff.mp h
  cases rest with
  | nil => exact absurd (List.append_nil p).symm hne
  | cons key rest =>
    obtain ⟨entries, rfl⟩ := exists_entries_of_valueAt? hRest
    exact ⟨entries, hx⟩

/-- Two trees that are the same up to the order of keys. -/
inductive SameTree : Yaml → Yaml → Prop
  | same (v : Yaml) : SameTree v v
  | map {entries entries' : Entries} (hKeys : (Mapping.keys entries).Perm (Mapping.keys entries'))
    (hValues : ∀ (key : Scalar) v v', Mapping.get? { scalar := key } entries = some v → Mapping.get? { scalar := key } entries' = some v' →
      SameTree v v') :
    SameTree (.map entries) (.map entries')

end Yaml

namespace Config

open Yaml

/-! ## A value at the end of a path -/

section

variable (v : Yaml)

/-- What the first key of a path leads to, once a value was set at its end. -/
theorem get?_setAt (head : String) (rest : List String) (entries : Entries) (looked : Scalar) :
    Mapping.get? { scalar := looked } (setAt (head :: rest) v entries) =
      if looked = .str head then some (withValue rest v (Mapping.get? (.text head) entries))
      else Mapping.get? { scalar := looked } entries := by
  rw [setAt_cons, get?_put_text_scalar]

theorem withValue_of_ne_nil {rest : List String} (h : rest ≠ []) (whole : Option Yaml) :
    withValue rest v whole = .map (setAt rest v (innerOf whole)) := by
  rw [withValue, if_neg (by simpa using h)]

omit v in
/-- A value that is no mapping has nothing behind a key, and no more has the empty mapping in its place. -/
theorem valueAt?_innerOf (key : Scalar) (rest : List Scalar) (whole : Option Yaml) :
    valueAt? (key :: rest) (.map (innerOf whole)) = whole.bind (valueAt? (key :: rest)) := by
  cases whole with
  | none => rfl
  | some w => cases w <;> rfl

theorem valueAt?_setAt_self {keys : List String} (hKeys : keys ≠ []) (entries : Entries) :
    valueAt? (textPath keys) (.map (setAt keys v entries)) = some v := by
  induction keys generalizing entries with
  | nil => exact absurd rfl hKeys
  | cons head rest ih =>
    rw [textPath, List.map_cons, valueAt?, get?_setAt, if_pos rfl, Option.bind_some]
    cases rest with
    | nil => rfl
    | cons next rest => exact ih (List.cons_ne_nil _ _) _

/-- What lies apart from a path keeps its value. -/
theorem valueAt?_setAt_of_apart {keys : List String} {path : List Scalar} (h : Apart path (textPath keys)) (entries : Entries) :
    valueAt? path (.map (setAt keys v entries)) = valueAt? path (.map entries) := by
  induction keys generalizing path entries with
  | nil => exact absurd rfl h.right_ne_nil
  | cons head rest ih =>
    cases path with
    | nil => exact absurd rfl h.left_ne_nil
    | cons key path =>
      rw [valueAt?, valueAt?, get?_setAt]
      rcases Apart.cons_iff.mp h with hHead | ⟨rfl, hRest⟩
      · rw [if_neg hHead]
      · obtain ⟨field, path, rfl⟩ := List.exists_cons_of_ne_nil hRest.left_ne_nil
        have hNext : rest ≠ [] := fun hNil => hRest.right_ne_nil (by rw [hNil]; rfl)
        rw [if_pos rfl, Option.bind_some, withValue_of_ne_nil v hNext, ih hRest, valueAt?_innerOf]
        rfl

/-- A mapping that the path does not replace keeps its keys in their order, and a new key comes last. -/
theorem keys_setAt {keys : List String} {path : List Scalar} (h : ¬ textPath keys <+: path) {entries inside : Entries}
    (hInside : valueAt? path (.map entries) = some (.map inside)) :
    ∃ inside', valueAt? path (.map (setAt keys v entries)) = some (.map inside') ∧ Mapping.keys inside <+: Mapping.keys inside' := by
  induction keys generalizing path entries with
  | nil => exact absurd List.nil_prefix h
  | cons head rest ih =>
    cases path with
    | nil =>
      obtain rfl : entries = inside := Yaml.map.inj (Option.some.inj hInside)
      exact ⟨_, rfl, by rw [setAt_cons]; exact Mapping.keys_prefix_put ..⟩
    | cons key path =>
      rw [valueAt?, get?_setAt]
      by_cases hHead : key = .str head
      · subst hHead
        have hRest : ¬ textPath rest <+: path := fun hPrefix => h (List.cons_prefix_cons.mpr ⟨rfl, hPrefix⟩)
        have hNext : rest ≠ [] := fun hNil => hRest (by rw [hNil]; exact List.nil_prefix)
        rw [valueAt?] at hInside
        obtain ⟨old, hOld, hPath⟩ := Option.bind_eq_some_iff.mp hInside
        have hMap : ∃ inner, old = .map inner := by
          cases path with
          | nil => exact ⟨inside, Option.some.inj hPath⟩
          | cons field path => exact exists_entries_of_valueAt? hPath
        obtain ⟨inner, rfl⟩ := hMap
        have hGet : Mapping.get? (Key.text head) entries = some (.map inner) := hOld
        rw [if_pos rfl, Option.bind_some, withValue_of_ne_nil v hNext, hGet]
        exact ih hRest hPath
      · rw [if_neg hHead]
        exact ⟨inside, hInside, List.prefix_rfl⟩

end

/-- An update of a tree: a value at a path. What lies apart from the path keeps its value, and a mapping that the path does not replace
keeps its keys in their order. -/
structure IsUpdate (keys : List String) (v : Yaml) (before after : Entries) : Prop where
  value : valueAt? (textPath keys) (.map after) = some v
  frame : ∀ path, Apart path (textPath keys) → valueAt? path (.map after) = valueAt? path (.map before)
  order : ∀ path inside, ¬ textPath keys <+: path → valueAt? path (.map before) = some (.map inside) →
    ∃ inside', valueAt? path (.map after) = some (.map inside') ∧ Mapping.keys inside <+: Mapping.keys inside'

/-- Setting a value is an update. -/
theorem isUpdate_setAt {keys : List String} (hKeys : keys ≠ []) (v : Yaml) (entries : Entries) :
    IsUpdate keys v entries (setAt keys v entries) where
  value := valueAt?_setAt_self v hKeys entries
  frame := fun _ h => valueAt?_setAt_of_apart v h entries
  order := fun _ _ h hInside => keys_setAt v h hInside

/-! ## Several values -/

/-- A second value at the same path takes the place of the first. -/
theorem setAt_setAt (keys : List String) (v w : Yaml) (entries : Entries) :
    setAt keys w (setAt keys v entries) = setAt keys w entries := by
  induction keys generalizing entries with
  | nil => rfl
  | cons head rest ih =>
    rw [setAt_cons, setAt_cons, setAt_cons, Mapping.get?_put_self, Mapping.put_put]
    refine congrArg (Mapping.put (Key.text head) · entries) ?_
    cases rest with
    | nil => rfl
    | cons next rest =>
      rw [withValue_of_ne_nil w (List.cons_ne_nil _ _), withValue_of_ne_nil v (List.cons_ne_nil _ _),
        withValue_of_ne_nil w (List.cons_ne_nil _ _)]
      exact congrArg Yaml.map (ih _)

theorem keys_setAt_cons (head : String) (rest : List String) (v : Yaml) (entries : Entries) :
    Mapping.keys (setAt (head :: rest) v entries) =
      if (Mapping.get? (.text head) entries).isSome then Mapping.keys entries else Mapping.keys entries ++ [.text head] := by
  rw [setAt_cons, Mapping.keys_put]

/-- What a path has at another first key is not its concern. -/
theorem get?_setAt_of_ne {head head' : String} (h : head ≠ head') (rest' : List String) (w : Yaml) (entries : Entries) :
    Mapping.get? (.text head) (setAt (head' :: rest') w entries) = Mapping.get? (.text head) entries := by
  have hGet := get?_setAt w head' rest' entries (.str head)
  rwa [if_neg (by simpa using h)] at hGet

/-- Values at paths apart from each other can be set in either order. -/
theorem sameTree_setAt_comm {keys other : List String} (h : Apart keys other) (v w : Yaml) (entries : Entries) :
    SameTree (.map (setAt keys v (setAt other w entries))) (.map (setAt other w (setAt keys v entries))) := by
  induction keys generalizing other entries with
  | nil => exact absurd rfl h.left_ne_nil
  | cons head rest ih =>
    obtain ⟨head', rest', rfl⟩ := List.exists_cons_of_ne_nil h.right_ne_nil
    rcases Apart.cons_iff.mp h with hHead | ⟨rfl, hRest⟩
    · refine .map ?_ fun key x x' hx hx' => ?_
      · simp only [keys_setAt_cons, get?_setAt_of_ne hHead, get?_setAt_of_ne (Ne.symm hHead)]
        split <;> split
        · exact .rfl
        · exact .rfl
        · exact .rfl
        · rw [List.append_assoc, List.append_assoc]
          exact (List.Perm.swap ..).append_left _
      · have hSame : some x = some x' := by
          rw [← hx, ← hx', get?_setAt, get?_setAt, get?_setAt, get?_setAt, get?_setAt_of_ne hHead,
            get?_setAt_of_ne (Ne.symm hHead)]
          by_cases hKey : key = .str head
          · rw [if_pos hKey, if_neg (by rw [hKey]; simpa using hHead), if_pos hKey]
          · rw [if_neg hKey, if_neg hKey]
        rw [Option.some.inj hSame]
        exact .same x'
    · have hNext : rest ≠ [] := hRest.left_ne_nil
      have hNext' : rest' ≠ [] := hRest.right_ne_nil
      refine .map ?_ fun key x x' hx hx' => ?_
      · simp [setAt_cons, Mapping.keys_put, Mapping.get?_put_self]
      · rw [get?_setAt] at hx hx'
        by_cases hKey : key = .str head
        · rw [if_pos hKey, setAt_cons, Mapping.get?_put_self, withValue_of_ne_nil v hNext, withValue_of_ne_nil w hNext'] at hx
          rw [if_pos hKey, setAt_cons, Mapping.get?_put_self, withValue_of_ne_nil w hNext', withValue_of_ne_nil v hNext] at hx'
          rw [← Option.some.inj hx, ← Option.some.inj hx']
          exact ih hRest _
        · rw [if_neg hKey, get?_setAt, if_neg hKey] at hx hx'
          rw [Option.some.inj (hx.symm.trans hx')]
          exact .same x'

/-! ## Blocked paths -/

/-- A path is blocked at a key if a proper front of the path that ends with the key leads to a value that is no mapping. -/
def BlockedAt (keys : List String) (entries : Entries) (key : String) : Prop :=
  ∃ front back, back ≠ [] ∧ keys = front ++ key :: back ∧
    ∃ v, valueAt? (textPath (front ++ [key])) (.map entries) = some v ∧ v.entries? = none

theorem not_blockedAt_single (head : String) (entries : Entries) (key : String) : ¬ BlockedAt [head] entries key := by
  rintro ⟨front, back, hBack, hKeys, -⟩
  cases front with
  | nil =>
    cases hKeys
    exact hBack rfl
  | cons first front => cases front <;> cases hKeys

/-- A path is blocked at its first key, or behind it. -/
theorem blockedAt_cons_iff (head next : String) (rest : List String) (entries : Entries) (key : String) :
    BlockedAt (head :: next :: rest) entries key ↔ ∃ old, Mapping.get? (.text head) entries = some old ∧
      (old.entries? = none ∧ head = key ∨ ∃ inner, old = .map inner ∧ BlockedAt (next :: rest) inner key) := by
  constructor
  · rintro ⟨front, back, hBack, hKeys, v, hValue, hNone⟩
    cases front with
    | nil =>
      obtain ⟨rfl, rfl⟩ := List.cons.inj hKeys
      obtain ⟨old, hOld, hRest⟩ := Option.bind_eq_some_iff.mp hValue
      obtain rfl : old = v := Option.some.inj hRest
      exact ⟨old, hOld, .inl ⟨hNone, rfl⟩⟩
    | cons first front =>
      obtain ⟨rfl, hRestKeys⟩ := List.cons.inj hKeys
      obtain ⟨old, hOld, hRest⟩ := Option.bind_eq_some_iff.mp hValue
      have hPath : textPath (front ++ [key]) ≠ [] := by simp [textPath]
      obtain ⟨field, path, hCons⟩ := List.exists_cons_of_ne_nil hPath
      have hRest' : valueAt? (textPath (front ++ [key])) old = some v := hRest
      obtain ⟨inner, rfl⟩ := exists_entries_of_valueAt? (hCons ▸ hRest')
      exact ⟨_, hOld, .inr ⟨inner, rfl, front, back, hBack, hRestKeys, v, hRest', hNone⟩⟩
  · rintro ⟨old, hOld, ⟨hNone, rfl⟩ | ⟨inner, rfl, front, back, hBack, hKeys, v, hValue, hNone⟩⟩
    · refine ⟨[], next :: rest, List.cons_ne_nil _ _, rfl, old, ?_, hNone⟩
      exact Option.bind_eq_some_iff.mpr ⟨old, hOld, rfl⟩
    · refine ⟨head :: front, back, hBack, by rw [hKeys]; rfl, v, ?_, hNone⟩
      exact Option.bind_eq_some_iff.mpr ⟨.map inner, hOld, hValue⟩

/-- The way through a tree is blocked where a path is blocked. -/
theorem blockedAt?_eq_some_iff (root : Entries) (keys : List String) (entries : Entries) (key : String) :
    blockedAt? (.ofEntries root) keys entries = some key ↔ BlockedAt keys entries key := by
  induction keys generalizing entries with
  | nil =>
    refine iff_of_false (by simp [blockedAt?]) ?_
    rintro ⟨front, back, -, hKeys, -⟩
    cases front <;> cases hKeys
  | cons head rest ih =>
    cases rest with
    | nil => exact iff_of_false (by simp [blockedAt?]) (not_blockedAt_single head entries key)
    | cons next rest =>
      rw [blockedAt?, blockedAt_cons_iff]
      · cases hOld : Mapping.get? (Key.text head) entries with
        | none => simp
        | some old =>
          cases old with
          | map inner => simpa [Document.opened, entries?] using ih inner
          | _ => simp [Document.opened, Document.ofEntries, Document.part, Yaml.null, entries?]
      · exact List.cons_ne_nil next rest

/-- On the way to a value that was set there are mappings alone. -/
theorem entries?_isSome_of_prefix {other : List String} {path : List Scalar} (hPrefix : path <+: textPath other)
    (hne : path ≠ textPath other) (w : Yaml) {entries : Entries} {v : Yaml}
    (h : valueAt? path (.map (setAt other w entries)) = some v) : v.entries? ≠ none := by
  have hOther : other ≠ [] := by
    rintro rfl
    exact hne (List.prefix_nil.mp hPrefix)
  obtain ⟨inner, hInner⟩ := exists_entries_of_prefix (valueAt?_setAt_self w hOther entries) hPrefix hne
  obtain rfl : Yaml.map inner = v := Option.some.inj (hInner.symm.trans h)
  exact nofun

/-- Setting a value at a path that is free leaves another path, apart from it, as free or as blocked as it was. -/
theorem blockedAt_setAt_iff {keys other : List String} (h : Apart keys other) {entries : Entries}
    (hFree : ∀ key, ¬ BlockedAt other entries key) (w : Yaml) (key : String) :
    BlockedAt keys (setAt other w entries) key ↔ BlockedAt keys entries key := by
  refine exists_congr fun front => exists_congr fun back => and_congr_right fun hBack => and_congr_right fun hKeys => ?_
  have hFront : front ++ [key] <+: keys := ⟨back, by rw [hKeys, List.append_assoc, List.singleton_append]⟩
  by_cases hWay : front ++ [key] <+: other
  · -- the front lies on the way to the other path, where mappings stand now and nothing else stood before
    have hne : front ++ [key] ≠ other := fun hEq => h.2 (hEq ▸ hFront)
    obtain ⟨rest, hRest⟩ := hWay
    have hRestNe : rest ≠ [] := by
      rintro rfl
      exact hne (by rw [← hRest, List.append_nil])
    refine iff_of_false ?_ ?_
    · rintro ⟨v, hValue, hNone⟩
      refine entries?_isSome_of_prefix (textPath_prefix_iff.mpr ⟨rest, hRest⟩) (fun hEq => hne ?_) w hValue hNone
      exact (List.map_inj_right fun _ _ => Scalar.str.inj).mp hEq
    · rintro ⟨v, hValue, hNone⟩
      exact hFree key ⟨front, rest, hRestNe, by rw [← hRest, List.append_assoc, List.singleton_append], v, hValue, hNone⟩
  · have hApart : Apart (textPath (front ++ [key])) (textPath other) :=
      apart_textPath_iff.mpr ⟨hWay, fun hOther => h.2 (hOther.trans hFront)⟩
    rw [valueAt?_setAt_of_apart w hApart]

/-- A path is free again once a value was set at its end. -/
theorem not_blockedAt_setAt_self (keys : List String) (w : Yaml) (entries : Entries) (key : String) :
    ¬ BlockedAt keys (setAt keys w entries) key := by
  rintro ⟨front, back, hBack, hKeys, v, hValue, hNone⟩
  have hSplit : (front ++ [key]) ++ back = keys := by rw [hKeys, List.append_assoc, List.singleton_append]
  refine entries?_isSome_of_prefix (textPath_prefix_iff.mpr ⟨back, hSplit⟩) (fun hEq => hBack ?_) w hValue hNone
  have hSame : front ++ [key] = keys := (List.map_inj_right fun _ _ => Scalar.str.inj).mp hEq
  exact List.self_eq_append_right.mp (hSame.trans hSplit.symm)

/-- A tree with a value at the end of a path, unless the path is blocked. -/
def updated (keys : List String) (v : Yaml) (entries : Entries) : Entries :=
  if (blockedAt? (.ofEntries entries) keys entries).isSome then entries else setAt keys v entries

theorem updated_of_blockedAt {keys : List String} {entries : Entries} {key : String} (h : BlockedAt keys entries key) (v : Yaml) :
    updated keys v entries = entries := by
  rw [updated, (blockedAt?_eq_some_iff entries keys entries key).mpr h]
  rfl

/-- No key blocks a free path. -/
theorem blockedAt?_of_free {keys : List String} {entries : Entries} (h : ∀ key, ¬ BlockedAt keys entries key) :
    blockedAt? (.ofEntries entries) keys entries = none := by
  rw [← Option.not_isSome_iff_eq_none, Option.isSome_iff_exists]
  rintro ⟨key, hKey⟩
  exact h key ((blockedAt?_eq_some_iff entries keys entries key).mp hKey)

theorem updated_of_free {keys : List String} {entries : Entries} (h : ∀ key, ¬ BlockedAt keys entries key) (v : Yaml) :
    updated keys v entries = setAt keys v entries := by
  rw [updated, blockedAt?_of_free h]
  rfl

/-- A tree can be updated in either order at paths apart from each other. -/
theorem sameTree_updated_comm {keys other : List String} (h : Apart keys other) (v w : Yaml) (entries : Entries) :
    SameTree (.map (updated keys v (updated other w entries))) (.map (updated other w (updated keys v entries))) := by
  by_cases hFree : ∀ key, ¬ BlockedAt keys entries key
  · by_cases hFree' : ∀ key, ¬ BlockedAt other entries key
    · rw [updated_of_free hFree', updated_of_free hFree,
        updated_of_free fun key => (blockedAt_setAt_iff h hFree' w key).not.mpr (hFree key),
        updated_of_free fun key => (blockedAt_setAt_iff h.symm hFree v key).not.mpr (hFree' key)]
      exact sameTree_setAt_comm h v w entries
    · obtain ⟨key, hKey⟩ := not_forall_not.mp hFree'
      rw [updated_of_blockedAt hKey, updated_of_free hFree, updated_of_blockedAt ((blockedAt_setAt_iff h.symm hFree v key).mpr hKey)]
      exact .same _
  · obtain ⟨key, hKey⟩ := not_forall_not.mp hFree
    rw [updated_of_blockedAt hKey v]
    by_cases hFree' : ∀ key, ¬ BlockedAt other entries key
    · rw [updated_of_free hFree', updated_of_blockedAt ((blockedAt_setAt_iff h hFree' w key).mpr hKey)]
      exact .same _
    · obtain ⟨key', hKey'⟩ := not_forall_not.mp hFree'
      rw [updated_of_blockedAt hKey', updated_of_blockedAt hKey]
      exact .same _

/-! ## Trees as documents -/

/-- The way through a tree ends where it began. -/
theorem landing_ofEntries (root : Entries) (last : Landing) (keys : List String) (entries : Entries) :
    landing (.ofEntries root) last keys entries = last := by
  induction keys generalizing entries with
  | nil => rfl
  | cons key rest ih =>
    cases rest with
    | nil => rfl
    | cons next rest =>
      rcases landing_step (.ofEntries root) last key next rest entries with hEnd | ⟨inner, hOn⟩ | ⟨name, inner, hPart, -⟩
      · exact hEnd
      · rw [hOn, ih]
      · cases hPart

/-- A value that is set in a tree makes a tree. -/
theorem setIn_ofEntries (entries : Entries) (keys : List String) (v : Yaml) :
    setIn (.ofEntries entries) keys v = .ofEntries (setAt keys v entries) := by
  simp only [setIn, landing_ofEntries]
  rfl

end Config

end RanConsole

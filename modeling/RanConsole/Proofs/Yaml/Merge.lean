import RanConsole.Proofs.Config.Tree

/-!
# Mappings laid over mappings

What a merged mapping has at a path (`mergeEntries_overlays`): the upper mapping decides as far as it goes, a value that is no mapping
hides all that lies behind it, and everything else is what the lower mapping has. Where both have mappings the keys of the lower one
keep their places and the new ones follow. So laying the same mapping over once more changes nothing.
-/

namespace RanConsole.Yaml

/-! ## One level -/

/-- What merged mappings have at a key: the upper value, laid over the lower one. -/
theorem get?_mergeEntries {upper : Entries} (h : Mapping.Distinct upper) (key : Key) (lower : Entries) :
    Mapping.get? key (mergeEntries lower upper) =
      ((Mapping.get? key upper).map (layered (Mapping.get? key lower))).or (Mapping.get? key lower) := by
  induction upper generalizing lower with
  | nil => rw [mergeEntries]; rfl
  | cons entry upper ih =>
    obtain ⟨k, v⟩ := entry
    rw [mergeEntries, ih h.tail, Mapping.get?_put, Mapping.get?_cons]
    by_cases hKey : (k == key) = true
    · have hNone : Mapping.get? key upper = none := h.get?_tail fun other hOther => BEq.trans hKey (BEq.symm hOther)
      rw [hNone, if_pos hKey, if_pos hKey, Mapping.get?_congr hKey]
      rfl
    · rw [if_neg hKey, if_neg hKey]

/-- The keys of the lower mapping in their order, then the new ones of the upper mapping in theirs. -/
theorem keys_mergeEntries {upper : Entries} (h : Mapping.Distinct upper) (lower : Entries) :
    Mapping.keys (mergeEntries lower upper) =
      Mapping.keys lower ++ (Mapping.keys upper).filter fun key => (Mapping.get? key lower).isNone := by
  induction upper generalizing lower with
  | nil => rw [mergeEntries]; exact (List.append_nil _).symm
  | cons entry upper ih =>
    obtain ⟨k, v⟩ := entry
    have hOthers : ∀ w, (Mapping.keys upper).filter (fun key => (Mapping.get? key (Mapping.put k w lower)).isNone) =
        (Mapping.keys upper).filter fun key => (Mapping.get? key lower).isNone := by
      intro w
      refine List.filter_congr fun key hKey => ?_
      have hNe : (k == key) = false := (List.pairwise_cons.mp h).1 key hKey
      rw [Mapping.get?_put, if_neg (Bool.eq_false_iff.mp hNe)]
    rw [mergeEntries, ih h.tail, hOthers, Mapping.keys_put, Mapping.keys_cons, List.filter_cons]
    cases Mapping.get? k lower with
    | some old => rfl
    | none => simp

theorem layered_none (v : Yaml) : layered none v = v := by
  cases v <;> simp [layered]

/-- What is laid over a mapping is merged with it; anything else is hidden, with all that lies behind it. -/
theorem exists_map_or_hidden (lower : Option Yaml) :
    (∃ below, lower = some (.map below)) ∨
      (∀ v, layered lower v = v) ∧ ∀ key rest, lower.bind (valueAt? (key :: rest)) = none := by
  match lower with
  | some (.map below) => exact Or.inl ⟨below, rfl⟩
  | some (.scalar _) | some (.list _) | some (.set _) | some (.pair _ _) | some (.shared _) | none =>
    exact Or.inr ⟨fun v => by cases v <;> simp [layered], fun _ _ => rfl⟩

/-- Over entries with other keys, entries come last as they are. -/
theorem mergeEntries_of_distinct {upper : Entries} :
    ∀ {lower : Entries}, Mapping.Distinct (lower ++ upper) → mergeEntries lower upper = lower ++ upper := by
  induction upper with
  | nil =>
    intro lower _
    rw [mergeEntries, List.append_nil]
  | cons entry upper ih =>
    intro lower h
    obtain ⟨key, v⟩ := entry
    have hNone : Mapping.get? key lower = none := h.get?_front
    have hLower : lower ++ (key, v) :: upper = (lower ++ [(key, v)]) ++ upper := by
      rw [List.append_assoc, List.singleton_append]
    rw [mergeEntries, hNone, layered_none, Mapping.put_of_get?_eq_none hNone, hLower]
    exact ih (hLower ▸ h)

/-- Entries that are there already, laid over what is there, change nothing. -/
theorem mergeEntries_of_present {upper : Entries} (lower : Entries)
    (h : ∀ entry ∈ upper, ∃ w, Mapping.get? entry.1 lower = some w ∧ layered (some w) entry.2 = w) :
    mergeEntries lower upper = lower := by
  induction upper with
  | nil => rw [mergeEntries]
  | cons entry upper ih =>
    obtain ⟨key, v⟩ := entry
    obtain ⟨⟨w, hGet, hLayered⟩, hRest⟩ := List.forall_mem_cons.mp h
    rw [mergeEntries, hGet, hLayered, Mapping.put_of_get? hGet, ih hRest]

/-! ## Trees -/

/-- A tree: every mapping in it has each of its keys once. -/
def IsTree (v : Yaml) : Prop := ∀ path entries, valueAt? path v = some (.map entries) → Mapping.Distinct entries

theorem IsTree.distinct {entries : Entries} (h : IsTree (.map entries)) : Mapping.Distinct entries := h [] entries rfl

theorem IsTree.of_valueAt? {v w : Yaml} (h : v.IsTree) {path : List Scalar} (hValue : valueAt? path v = some w) : w.IsTree := by
  intro rest entries hRest
  refine h (path ++ rest) entries ?_
  rw [valueAt?_append, hValue, Option.bind_some, hRest]

/-- What a path that begins with a key leads to. -/
theorem valueAt?_cons_map (key : Scalar) (rest : List Scalar) (entries : Entries) :
    valueAt? (key :: rest) (.map entries) = (Mapping.get? { scalar := key } entries).bind (valueAt? rest) := rfl

theorem IsTree.of_get? {entries : Entries} (h : IsTree (.map entries)) {key : Key} {v : Yaml}
    (hGet : Mapping.get? key entries = some v) : v.IsTree := by
  have hSame : (key == ({ scalar := key.scalar } : Key)) = true := sameKey_self key.scalar
  have hValue : valueAt? [key.scalar] (.map entries) = some v := by
    rw [valueAt?_cons_map, ← Mapping.get?_congr hSame, hGet]
    rfl
  exact h.of_valueAt? hValue

/-- The values of a tree are trees. -/
theorem IsTree.of_mem {entries : Entries} (h : IsTree (.map entries)) : ∀ entry ∈ entries, entry.2.IsTree :=
  fun _ hEntry => h.of_get? (Mapping.get?_of_mem h.distinct hEntry)

/-- A mapping of trees with each key once is a tree. -/
theorem isTree_map {entries : Entries} (h : Mapping.Distinct entries) (hValues : ∀ entry ∈ entries, entry.2.IsTree) :
    IsTree (.map entries) := by
  intro path inside hPath
  cases path with
  | nil =>
    obtain rfl : entries = inside := Yaml.map.inj (Option.some.inj hPath)
    exact h
  | cons key rest =>
    rw [valueAt?_cons_map] at hPath
    obtain ⟨v, hGet, hRest⟩ := Option.bind_eq_some_iff.mp hPath
    obtain ⟨k, hMem⟩ := Mapping.exists_mem_of_get? hGet
    exact hValues _ hMem rest inside hRest

theorem isTree_of_entries?_eq_none {v : Yaml} (h : v.entries? = none) : v.IsTree := by
  intro path inside hPath
  cases v with
  | map entries => cases h
  | _ => cases path <;> cases hPath

mutual

/-- A tree laid over a value once more changes nothing. -/
theorem layered_layered : ∀ v : Yaml, v.IsTree → ∀ lower : Option Yaml, layered (some (layered lower v)) v = layered lower v
  | .map upper, h, lower => by
    have hAgain := layered_entries upper h.of_mem
    have hMerge : ∀ below : Entries, mergeEntries (mergeEntries below upper) upper = mergeEntries below upper := by
      intro below
      refine mergeEntries_of_present _ fun entry hEntry => ⟨layered (Mapping.get? entry.1 below) entry.2, ?_, hAgain entry hEntry _⟩
      rw [get?_mergeEntries h.distinct, Mapping.get?_of_mem h.distinct hEntry]
      rfl
    rcases exists_map_or_hidden lower with ⟨below, rfl⟩ | ⟨hHidden, -⟩
    · simp only [layered, hMerge]
    · have hAlone : mergeEntries [] upper = upper := mergeEntries_of_distinct h.distinct
      have hUpper := hMerge []
      rw [hAlone] at hUpper
      rw [hHidden, layered, hUpper]
  | .scalar _, _, _ | .list _, _, _ | .set _, _, _ | .pair _ _, _, _ | .shared _, _, _ => by simp [layered]

theorem layered_entries : ∀ upper : Entries, (∀ entry ∈ upper, entry.2.IsTree) →
    ∀ entry ∈ upper, ∀ lower : Option Yaml, layered (some (layered lower entry.2)) entry.2 = layered lower entry.2
  | [], _, entry, hEntry => absurd hEntry List.not_mem_nil
  | (key, v) :: upper, h, entry, hEntry => by
    obtain ⟨hHead, hTail⟩ := List.forall_mem_cons.mp h
    rcases List.mem_cons.mp hEntry with rfl | hEntry
    · exact layered_layered v hHead
    · exact layered_entries upper hTail entry hEntry

end

theorem mergeEntries_mergeEntries {upper : Entries} (h : IsTree (.map upper)) (lower : Entries) :
    mergeEntries (mergeEntries lower upper) upper = mergeEntries lower upper := by
  have hAgain := layered_layered (.map upper) h (some (.map lower))
  simpa only [layered, Yaml.map.injEq] using hAgain

/-! ## Paths -/

/-- A value that is no mapping stands on the way of a path. -/
def IsBarred (path : List Scalar) (v : Yaml) : Prop :=
  ∃ front back w, path = front ++ back ∧ back ≠ [] ∧ valueAt? front v = some w ∧ w.entries? = none

theorem valueAt?_of_isBarred {path : List Scalar} {v : Yaml} (h : IsBarred path v) : valueAt? path v = none := by
  obtain ⟨front, back, w, rfl, hBack, hFront, hNone⟩ := h
  obtain ⟨key, rest, rfl⟩ := List.exists_cons_of_ne_nil hBack
  rw [valueAt?_append, hFront, Option.bind_some]
  cases w with
  | map entries => cases hNone
  | _ => rfl

theorem IsBarred.cons {key : Scalar} {rest : List Scalar} {entries : Entries} {v : Yaml}
    (hGet : Mapping.get? { scalar := key } entries = some v) (h : IsBarred rest v) : IsBarred (key :: rest) (.map entries) := by
  obtain ⟨front, back, w, rfl, hBack, hFront, hNone⟩ := h
  refine ⟨key :: front, back, w, rfl, hBack, ?_, hNone⟩
  rw [valueAt?_cons_map, hGet, Option.bind_some, hFront]

/-- Where the upper tree has a value, it counts, laid over what the lower one has there. -/
theorem valueAt?_layered_of_some {v w : Yaml} (h : v.IsTree) {path : List Scalar} (hValue : valueAt? path v = some w)
    (lower : Option Yaml) : valueAt? path (layered lower v) = some (layered (lower.bind (valueAt? path)) w) := by
  induction path generalizing v lower with
  | nil =>
    obtain rfl : v = w := Option.some.inj hValue
    simp [valueAt?]
  | cons key rest ih =>
    obtain ⟨upper, rfl⟩ := exists_entries_of_valueAt? hValue
    rw [valueAt?_cons_map] at hValue
    obtain ⟨u, hGet, hRest⟩ := Option.bind_eq_some_iff.mp hValue
    rcases exists_map_or_hidden lower with ⟨below, rfl⟩ | ⟨hHidden, hNone⟩
    · rw [layered, valueAt?_cons_map, get?_mergeEntries h.distinct, hGet, Option.map_some, Option.some_or, Option.bind_some,
        ih (h.of_get? hGet) hRest, Option.bind_some, valueAt?_cons_map]
    · rw [hHidden, hNone, layered_none, valueAt?_cons_map, hGet, Option.bind_some, hRest]

/-- Behind a value that is no mapping there is nothing, whatever the lower tree has. -/
theorem valueAt?_layered_of_isBarred {v : Yaml} (h : v.IsTree) {path : List Scalar} (hBarred : IsBarred path v) (lower : Option Yaml) :
    valueAt? path (layered lower v) = none := by
  obtain ⟨front, back, w, rfl, hBack, hFront, hNone⟩ := hBarred
  refine valueAt?_of_isBarred ⟨front, back, w, rfl, hBack, ?_, hNone⟩
  rw [valueAt?_layered_of_some h hFront, Config.layered_of_entries?_eq_none _ hNone]

/-- Where the upper tree has no entry for a key on the way, the lower one counts. -/
theorem valueAt?_layered_of_open {v : Yaml} (h : v.IsTree) {path : List Scalar} (hNone : valueAt? path v = none)
    (hOpen : ¬ IsBarred path v) (lower : Option Yaml) : valueAt? path (layered lower v) = lower.bind (valueAt? path) := by
  induction path generalizing v lower with
  | nil => cases hNone
  | cons key rest ih =>
    have hMap : ∃ upper, v = .map upper := by
      cases hEntries : v.entries? with
      | some upper => exact ⟨upper, entries?_eq_some hEntries⟩
      | none => exact absurd ⟨[], key :: rest, v, rfl, List.cons_ne_nil _ _, rfl, hEntries⟩ hOpen
    obtain ⟨upper, rfl⟩ := hMap
    rcases exists_map_or_hidden lower with ⟨below, rfl⟩ | ⟨hHidden, hNothing⟩
    · rw [layered, valueAt?_cons_map, get?_mergeEntries h.distinct, Option.bind_some, valueAt?_cons_map]
      cases hGet : Mapping.get? { scalar := key } upper with
      | none => rfl
      | some u =>
        rw [valueAt?_cons_map, hGet, Option.bind_some] at hNone
        exact ih (h.of_get? hGet) hNone (fun hBarred => hOpen (hBarred.cons hGet)) _
    · rw [hHidden, hNothing, hNone]

/-! ## The merged mapping -/

/-- One mapping laid over another, path by path. -/
structure IsOverlay (base override merged : Entries) : Prop where
  /-- Where the upper mapping has a value and the two have not both mappings, its value counts. -/
  overridden : ∀ path v, valueAt? path (.map override) = some v →
    (∀ lower upper, valueAt? path (.map base) = some (.map lower) → v ≠ .map upper) → valueAt? path (.map merged) = some v
  /-- Where both have mappings these are merged, with the keys of the lower one in front, in their order, and the new keys of the upper
  one behind them, in theirs. -/
  both : ∀ path lower upper, valueAt? path (.map base) = some (.map lower) → valueAt? path (.map override) = some (.map upper) →
    valueAt? path (.map merged) = some (.map (mergeEntries lower upper)) ∧
      Mapping.keys (mergeEntries lower upper) =
        Mapping.keys lower ++ (Mapping.keys upper).filter fun key => (Mapping.get? key lower).isNone
  /-- Behind a value of the upper mapping that is no mapping there is nothing. -/
  barred : ∀ path, IsBarred path (.map override) → valueAt? path (.map merged) = none
  /-- Anywhere else there is what the lower mapping has there, if it has anything. -/
  kept : ∀ path, valueAt? path (.map override) = none → ¬ IsBarred path (.map override) →
    valueAt? path (.map merged) = valueAt? path (.map base)

theorem isOverlay_mergeEntries {override : Entries} (h : IsTree (.map override)) (base : Entries) :
    IsOverlay base override (mergeEntries base override) := by
  have hMerged : Yaml.map (mergeEntries base override) = layered (some (.map base)) (.map override) := by rw [layered]
  constructor
  · intro path v hValue hNotBoth
    rw [hMerged, valueAt?_layered_of_some h hValue, Option.bind_some]
    rcases exists_map_or_hidden (valueAt? path (.map base)) with ⟨lower, hBase⟩ | ⟨hHidden, -⟩
    · rw [Config.layered_of_entries?_eq_none]
      cases v with
      | map upper => exact absurd rfl (hNotBoth lower upper hBase)
      | _ => rfl
    · rw [hHidden]
  · intro path lower upper hLower hUpper
    refine ⟨?_, keys_mergeEntries (h.of_valueAt? hUpper).distinct lower⟩
    rw [hMerged, valueAt?_layered_of_some h hUpper, Option.bind_some, hLower, layered]
  · intro path hBarred
    rw [hMerged, valueAt?_layered_of_isBarred h hBarred]
  · intro path hNone hOpen
    rw [hMerged, valueAt?_layered_of_open h hNone hOpen, Option.bind_some]

/-- A mapping laid over another one decides path by path as far as it goes, and the lower one decides on the rest. The empty mapping
changes nothing below or above another one, and no more does a mapping that is laid over the same again. -/
theorem mergeEntries_overlays {override : Entries} (h : IsTree (.map override)) (base : Entries) :
    IsOverlay base override (mergeEntries base override) ∧ mergeEntries base [] = base ∧ mergeEntries [] override = override ∧
      mergeEntries (mergeEntries base override) override = mergeEntries base override := by
  have hBelow : mergeEntries base [] = base := by rw [mergeEntries]
  have hAbove : mergeEntries [] override = override := mergeEntries_of_distinct h.distinct
  exact ⟨isOverlay_mergeEntries h base, hBelow, hAbove, mergeEntries_mergeEntries h base⟩

/-- A section that is a mapping in both, one that is a mapping above alone, and a value that takes the place of a mapping. -/
theorem mergeEntries_overlays_sections :
    let base : Entries :=
      [(.text "log", .text "WARNING"), (.text "server", .map [(.text "url", .map [(.text "host", .text "a")]), (.text "token", .text "t")])]
    let override : Entries :=
      [(.text "server", .map [(.text "retries", .scalar (.int 2)), (.text "url", .text "b")]), (.text "log", .map [])]
    IsTree (.map override) ∧ valueAt? (textPath ["server", "url", "host"]) (.map (mergeEntries base override)) = none ∧
      mergeEntries base override =
        [(.text "log", .map []),
         (.text "server", .map [(.text "url", .text "b"), (.text "token", .text "t"), (.text "retries", .scalar (.int 2))])] := by
  intro base override
  have hServer : IsTree (.map [(.text "retries", .scalar (.int 2)), (.text "url", .text "b")]) := by
    refine isTree_map (by unfold Mapping.Distinct; decide) ?_
    simp only [List.forall_mem_cons]
    exact ⟨isTree_of_entries?_eq_none rfl, isTree_of_entries?_eq_none rfl, by simp⟩
  have hTree : IsTree (.map override) := by
    refine isTree_map (by unfold Mapping.Distinct; decide) ?_
    simp only [override, List.forall_mem_cons]
    exact ⟨hServer, isTree_map List.Pairwise.nil (by simp), by simp⟩
  obtain ⟨hOverlay, -, -, -⟩ := mergeEntries_overlays hTree base
  refine ⟨hTree, hOverlay.barred _ ?_, rfl⟩
  exact ⟨textPath ["server", "url"], textPath ["host"], .text "b", rfl, by decide, rfl, rfl⟩

end RanConsole.Yaml

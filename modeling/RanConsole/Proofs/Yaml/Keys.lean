import RanConsole.Proofs.Mapping
import RanConsole.Proofs.Results
import RanConsole.Yaml.Reader

/-!
# The keys of mappings that are read

A mapping that is made from the nodes of a text has each of its keys once: of several values for a key the last counts. Every step of
the construction keeps it so (`Yields`), and the tree of the document has the keys of the values it is made of. So the sections of a
document that was read have distinct keys (`isDistinct_of_mem_sections`).
-/

namespace RanConsole.Yaml

/-! ## Values under construction -/

/-- A value that has each of its keys once if it is a mapping. -/
def Object.IsDistinct : Object → Prop
  | .map entries => Mapping.Distinct entries
  | _ => True

/-- Whether each value so far has its keys once. -/
def Construction.IsDistinct (c : Construction) : Prop := ∀ o ∈ c.objects, o.IsDistinct

namespace Construct

variable {α β : Type}

/-- A step that gives a value with a property, from values with distinct keys, and leaves values with distinct keys. -/
def Yields (P : α → Prop) (m : Construct α) : Prop :=
  ∀ c a c', m.run c = .ok (a, c') → c.IsDistinct → P a ∧ c'.IsDistinct

/-- A step that leaves values with distinct keys. -/
abbrev Keeps (m : Construct α) : Prop := Yields (fun _ => True) m

theorem Yields.bind {P : α → Prop} {Q : β → Prop} {m : Construct α} {f : α → Construct β} (hm : Yields P m)
    (hf : ∀ a, P a → Yields Q (f a)) : Yields Q (m >>= f) := by
  intro c b c'' hRun hDistinct
  rw [StateT.run_bind] at hRun
  cases hFirst : m.run c with
  | error e =>
    rw [hFirst] at hRun
    cases hRun
  | ok result =>
    rw [hFirst] at hRun
    obtain ⟨hValue, hState⟩ := hm c result.1 result.2 hFirst hDistinct
    exact hf result.1 hValue result.2 b c'' hRun hState

theorem Keeps.bind {Q : β → Prop} {m : Construct α} {f : α → Construct β} (hm : Keeps m) (hf : ∀ a, Yields Q (f a)) :
    Yields Q (m >>= f) :=
  Yields.bind hm fun a _ => hf a

theorem yields_pure {P : α → Prop} {a : α} (h : P a) : Yields P (pure a) := by
  intro c b c' hRun hDistinct
  cases hRun
  exact ⟨h, hDistinct⟩

theorem keeps_pure (a : α) : Keeps (pure a) := yields_pure trivial

theorem yields_throw {P : α → Prop} (e : ReadError) : Yields P (throw e) := by
  intro c a c' hRun
  cases hRun

theorem keeps_get : Keeps get := by
  intro c a c' hRun hDistinct
  cases hRun
  exact ⟨trivial, hDistinct⟩

theorem keeps_modify {f : Construction → Construction} (h : ∀ c, c.IsDistinct → (f c).IsDistinct) : Keeps (modify f) := by
  intro c a c' hRun hDistinct
  cases hRun
  exact ⟨trivial, h c hDistinct⟩

theorem keeps_mapM {f : α → Construct β} (h : ∀ a, Keeps (f a)) (items : List α) : Keeps (items.mapM f) := by
  induction items with
  | nil => exact keeps_pure _
  | cons a items ih =>
    rw [List.mapM_cons]
    exact (h a).bind fun _ => ih.bind fun _ => keeps_pure _

/-! ## Steps that leave the values as they are -/

theorem keeps_nodeAt (number : Nat) : Keeps (nodeAt number) := by
  refine keeps_get.bind fun c => ?_
  split
  · exact keeps_pure _
  · exact yields_throw _

theorem keeps_setContent (number : Nat) (content : Content) : Keeps (setContent number content) :=
  (keeps_nodeAt number).bind fun _ => keeps_modify fun _ h => h

theorem keeps_textOf (fuel : Nat) : ∀ number : Nat, Keeps (textOf fuel number) := by
  induction fuel with
  | zero =>
    intro number
    exact yields_throw _
  | succ fuel ih =>
    intro number
    refine (keeps_nodeAt number).bind fun n => ?_
    split
    · exact keeps_pure _
    · exact yields_throw _
    · refine keeps_get.bind fun c => ?_
      dsimp only
      split
      · exact ih _
      · exact yields_throw _

theorem keeps_entriesOf (number : Nat) : Keeps (entriesOf number) := by
  refine (keeps_nodeAt number).bind fun n => ?_
  split
  · exact keeps_pure _
  · exact yields_throw _

theorem keeps_itemsOf (number : Nat) : Keeps (itemsOf number) := by
  refine (keeps_nodeAt number).bind fun n => ?_
  split
  · exact keeps_pure _
  · exact yields_throw _

theorem keeps_mergedNodes (value : Nat) : Keeps (mergedNodes value) := by
  refine (keeps_nodeAt value).bind fun n => ?_
  split
  · exact keeps_pure _
  · exact keeps_pure _
  · exact yields_throw _

theorem keeps_nextMerge (rest : List (Nat × Nat)) : ∀ index : Nat, Keeps (nextMerge index rest) := by
  induction rest with
  | nil =>
    intro index
    exact keeps_pure _
  | cons entry rest ih =>
    intro index
    refine (keeps_nodeAt entry.1).bind fun n => ?_
    split
    · exact keeps_pure _
    · exact Keeps.bind (keeps_modify fun _ h => h) fun _ => ih _
    · exact ih _

theorem keeps_takenIn (fuel : Nat) : ∀ (number index : Nat) (rest : List (Nat × Nat)), Keeps (takenIn fuel number index rest) := by
  induction fuel with
  | zero =>
    intro number index rest
    cases rest with
    | nil => exact keeps_pure _
    | cons entry rest => exact yields_throw _
  | succ fuel ih =>
    intro number index rest
    cases rest with
    | nil => exact keeps_pure _
    | cons entry rest =>
      refine (keeps_nextMerge _ _).bind fun found => ?_
      split
      · exact keeps_pure _
      · refine (keeps_entriesOf _).bind fun entries => (keeps_setContent _ _).bind fun _ => (keeps_mergedNodes _).bind fun nodes => ?_
        refine (keeps_mapM (fun part => ?_) nodes).bind fun parts => ?_
        · refine (keeps_entriesOf part).bind fun _ => (ih _ _ _).bind fun taken => (keeps_entriesOf part).bind fun own => ?_
          split
          · exact keeps_pure _
          · exact (keeps_setContent _ _).bind fun _ => keeps_pure _
        · exact (keeps_entriesOf _).bind fun _ => (ih _ _ _).bind fun _ => keeps_pure _

theorem keeps_flatten (number : Nat) : Keeps (flatten number) := by
  refine (keeps_nodeAt number).bind fun n => ?_
  split
  · refine keeps_get.bind fun c => (keeps_takenIn _ _ _ _).bind fun taken => ?_
    split
    · exact keeps_pure _
    · exact (keeps_entriesOf _).bind fun _ => keeps_setContent _ _
  · exact keeps_pure _

/-! ## Steps that make values -/

theorem keeps_push {o : Object} (h : o.IsDistinct) : Keeps (push o) := by
  refine keeps_get.bind fun c => (keeps_modify fun c hc o' ho' => ?_).bind fun _ => keeps_pure _
  rcases Array.mem_push.mp ho' with ho' | rfl
  · exact hc o' ho'
  · exact h

theorem keeps_pushPending (number : Nat) {start : Object} (h : start.IsDistinct) : Keeps (pushPending number start) :=
  (keeps_push h).bind fun _ => Keeps.bind (keeps_modify fun _ h => h) fun _ => keeps_pure _

theorem keeps_lift (m : Except ReadError α) : Keeps (liftM m : Construct α) := by
  intro c a c' hRun hDistinct
  cases m with
  | error e => cases hRun
  | ok b =>
    cases hRun
    exact ⟨trivial, hDistinct⟩

theorem keeps_newValue (number : Nat) : Keeps (newValue number) := by
  refine (keeps_nodeAt number).bind fun n => ?_
  split
  · exact keeps_pushPending _ trivial
  · exact keeps_pushPending _ trivial
  · exact keeps_pushPending _ List.Pairwise.nil
  · exact keeps_pushPending _ trivial
  · exact yields_throw _
  · exact yields_throw _
  · exact yields_throw _
  · refine keeps_get.bind fun c => (keeps_textOf _ _).bind fun text => ?_
    split
    · exact yields_throw _
    · exact (keeps_lift _).bind fun s => keeps_push trivial

theorem keeps_valueOf (number : Nat) : Keeps (valueOf number) := by
  refine keeps_get.bind fun c => ?_
  split
  · exact keeps_pure _
  · exact (keeps_newValue number).bind fun value => Keeps.bind (keeps_modify fun _ h => h) fun _ => keeps_pure _

theorem keeps_keyOf (number : Nat) : Keeps (keyOf number) := by
  refine (keeps_valueOf number).bind fun value => keeps_get.bind fun c => ?_
  split
  · exact keeps_pure _
  · exact yields_throw _

theorem yields_mapEntries (number : Nat) : Yields Mapping.Distinct (mapEntries number) := by
  refine (keeps_flatten number).bind fun _ => (keeps_entriesOf number).bind fun entries => ?_
  refine (keeps_mapM (fun entry => ?_) entries).bind fun pairs => yields_pure (Mapping.distinct_ofPairs pairs)
  exact (keeps_keyOf _).bind fun _ => (keeps_valueOf _).bind fun _ => keeps_pure _

theorem keeps_pairOf (number : Nat) : Keeps (pairOf number) := by
  refine (keeps_entriesOf number).bind fun entries => ?_
  split
  · exact (keeps_valueOf _).bind fun _ => (keeps_valueOf _).bind fun _ => keeps_push trivial
  · exact yields_throw _

theorem yields_filled (number : Nat) : Yields Object.IsDistinct (filled number) := by
  refine (keeps_nodeAt number).bind fun n => ?_
  split
  · exact (keeps_itemsOf number).bind fun items => (keeps_mapM keeps_valueOf items).bind fun _ => yields_pure trivial
  · exact (keeps_itemsOf number).bind fun items => (keeps_mapM keeps_pairOf items).bind fun _ => yields_pure trivial
  · exact (yields_mapEntries number).bind fun _ h => yields_pure h
  · exact (yields_mapEntries number).bind fun _ _ => yields_pure trivial
  · exact yields_throw _

theorem keeps_fillAll (fuel : Nat) : Keeps (fillAll fuel) := by
  induction fuel with
  | zero => exact yields_throw _
  | succ fuel ih =>
    refine keeps_get.bind fun c => ?_
    split
    · exact keeps_pure _
    · refine Keeps.bind (keeps_modify fun _ h => h) fun _ => (yields_filled _).bind fun o ho => ?_
      refine Keeps.bind (keeps_modify fun c hc o' ho' => ?_) fun _ => ih
      rcases Array.mem_or_eq_of_mem_setIfInBounds ho' with ho' | rfl
      · exact hc o' ho'
      · exact ho

theorem keeps_root (number : Nat) : Keeps (root number) :=
  (keeps_valueOf number).bind fun _ => keeps_get.bind fun _ => (keeps_fillAll _).bind fun _ => keeps_pure _

end Construct

/-- The values of nodes have distinct keys. -/
theorem isDistinct_of_constructed {nodes : Array Node} {number : Nat} {objects : Array Object} {root : Nat}
    (h : constructed nodes number = .ok (objects, root)) : ∀ o ∈ objects, o.IsDistinct := by
  rw [constructed] at h
  cases hRun : (Construct.root number).run { nodes } with
  | error e =>
    rw [hRun] at h
    cases h
  | ok result =>
    rw [hRun] at h
    cases h
    exact (Construct.keeps_root number _ _ _ hRun (by simp [Construction.IsDistinct])).2

/-! ## The tree of the values -/

/-- A value that has each of its keys once if it is a mapping. -/
def IsDistinct (v : Yaml) : Prop := ∀ entries, v = .map entries → Mapping.Distinct entries

namespace Object

/-- A value of the tree: one with its parts, or the name of one. -/
def IsPart (objects : Array Object) (shared : Array Bool) (v : Yaml) : Prop :=
  ∃ fuel number, v = whole objects shared fuel number ∨ v = .shared number

variable {objects : Array Object} {shared : Array Bool}

theorem isPart_inPlace (fuel number : Nat) : IsPart objects shared (inPlace objects shared fuel number) := by
  cases fuel with
  | zero => exact ⟨0, number, Or.inl rfl⟩
  | succ fuel =>
    rw [inPlace]
    split
    · exact ⟨fuel, number, Or.inr rfl⟩
    · exact ⟨fuel, number, Or.inl rfl⟩

/-- A mapping with its parts has the keys of the value that it is made of. -/
theorem whole_eq_map {fuel number : Nat} {entries : Entries} (h : whole objects shared fuel number = .map entries) :
    ∃ (own : List (Key × Nat)) (key : Key → Key) (inner : Nat), (∀ k, (key k).scalar = k.scalar) ∧ Object.map own ∈ objects ∧
      entries = own.map fun (k, value) => (key k, inPlace objects shared inner value) := by
  cases fuel with
  | zero => cases h
  | succ fuel =>
    rw [whole] at h
    split at h
    · cases h
    · cases h
    · cases h
    · rename_i own hOwn
      refine ⟨own, fun k => { k with part := k.part.filter fun n => shared.getD n false }, fuel, fun _ => rfl,
        Array.mem_of_getElem? hOwn, (Yaml.map.inj h).symm⟩
    · cases h
    · cases h

theorem IsPart.isDistinct (hObjects : ∀ o ∈ objects, o.IsDistinct) {v : Yaml} (h : IsPart objects shared v) : v.IsDistinct := by
  rintro entries rfl
  obtain ⟨fuel, number, h | h⟩ := h
  · obtain ⟨own, key, inner, hKey, hOwn, rfl⟩ := whole_eq_map h.symm
    have hDistinct : Mapping.Distinct own := hObjects _ hOwn
    simp only [Mapping.Distinct, Mapping.keys, List.map_map, List.pairwise_map, Function.comp_def] at hDistinct ⊢
    refine hDistinct.imp fun {a b} hNe => ?_
    have hSame : (key a.1 == key b.1) = (a.1 == b.1) := by
      change (key a.1).scalar.sameKey (key b.1).scalar = a.1.scalar.sameKey b.1.scalar
      rw [hKey, hKey]
    exact hSame.trans hNe
  · cases h

theorem IsPart.isPart_of_mem {entries : Entries} (h : IsPart objects shared (.map entries)) :
    ∀ entry ∈ entries, IsPart objects shared entry.2 := by
  obtain ⟨fuel, number, h | h⟩ := h
  · obtain ⟨own, key, inner, -, -, rfl⟩ := whole_eq_map h.symm
    intro entry hEntry
    obtain ⟨pair, -, rfl⟩ := List.mem_map.mp hEntry
    exact isPart_inPlace inner pair.2
  · cases h

/-- What a name stands for is a value of the tree. -/
theorem isPart_opened (objects : Array Object) (root : Nat) {v : Yaml} (h : IsPart objects (sharedNumbers objects root) v) :
    IsPart objects (sharedNumbers objects root) ((document objects root).opened v) := by
  cases v with
  | shared name =>
    rw [Document.opened, Document.part]
    cases hPart : (document objects root).parts.lookup name with
    | none => exact ⟨0, name, Or.inl rfl⟩
    | some w =>
      obtain ⟨number, -, hNumber⟩ := List.mem_map.mp (Mapping.mem_of_get? (Mapping.lookup_eq_get? name _ ▸ hPart))
      exact ⟨_, number, Or.inl (Prod.mk.inj hNumber).2.symm⟩
  | _ => exact h

/-- The entries of a document are values of its tree. -/
theorem isPart_of_mem_entries (objects : Array Object) (root : Nat) :
    ∀ entry ∈ (document objects root).entries, IsPart objects (sharedNumbers objects root) entry.2 := by
  have hRoot := isPart_opened objects root (isPart_inPlace (2 * objects.size + 2) root)
  cases hEntries : (document objects root).entries? with
  | none => simp [Document.entries, hEntries]
  | some entries =>
    rw [Document.entries, hEntries]
    have hMap : (document objects root).opened (document objects root).root = .map entries := entries?_eq_some hEntries
    exact IsPart.isPart_of_mem (hMap ▸ hRoot)

end Object

theorem exists_objects_of_read {text : String} {half : Char} {d : Document} (h : read text half = .ok (some d)) :
    ∃ objects root, (∀ o ∈ objects, Object.IsDistinct o) ∧ d = Object.document objects root := by
  rw [read] at h
  split at h
  · cases h
  · obtain ⟨⟨nodes, root⟩, -, h⟩ := ok_bind h
    cases root with
    | none => cases h
    | some number =>
      obtain ⟨⟨objects, root⟩, hObjects, h⟩ := ok_bind h
      cases h
      exact ⟨objects, root, isDistinct_of_constructed hObjects, rfl⟩

/-- A section of a document that was read has each of its keys once if it is a mapping. -/
theorem isDistinct_of_mem_sections {text : String} {half : Char} {d : Document} (h : read text half = .ok (some d)) :
    ∀ entry ∈ d.sections, entry.2.IsDistinct := by
  obtain ⟨objects, root, hObjects, rfl⟩ := exists_objects_of_read h
  intro entry hEntry
  obtain ⟨pair, hPair, rfl⟩ := List.mem_map.mp hEntry
  exact (Object.isPart_opened objects root (Object.isPart_of_mem_entries objects root pair hPair)).isDistinct hObjects

end RanConsole.Yaml

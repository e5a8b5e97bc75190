import RanConsole.Proofs.Json.RoundTrip
import RanConsole.Proofs.Query.Compilation
import RanConsole.Proofs.Query.Sides

/-!
# Filters in messages

The wire form of filters is written so that it reads back exactly, and it is as deep as negations are inside one another. What a query
compiles to has no negation inside another one, so that its wire form is shallow (`exists_filters_of_not_isRefused`).
-/

namespace RanConsole.Query

/-- The number of negations inside one another. -/
def Predicate.nesting : Predicate → Nat
  | .negation _ inner => inner.nesting + 1
  | .equal _ | .among _ => 0

/-! ## Decoding -/

theorem textsOf?_eq_some_iff (items : List Json) (values : List String) :
    textsOf? items = some values ↔ values.map .str = items := by
  induction items generalizing values with
  | nil => cases values <;> simp [textsOf?]
  | cons v items ih =>
    constructor
    · intro h
      cases v with
      | str s =>
        obtain ⟨rest, hRest, rfl⟩ := Option.map_eq_some_iff.mp h
        rw [List.map_cons, (ih rest).mp hRest]
      | _ => cases h
    · intro h
      cases values with
      | nil => cases h
      | cons s rest =>
        obtain ⟨rfl, hRest⟩ := List.cons.inj h
        rw [textsOf?, (ih rest).mpr hRest, Option.map_some]

/-- The member that a predicate adds is decoded as the predicate. -/
theorem Predicate.ofMember?_toMember (p : Predicate) : ofMember? p.toMember.1 p.toMember.2 = some p := by
  induction p with
  | equal value => rfl
  | among values =>
    change (textsOf? (values.map .str)).map Predicate.among = _
    rw [(textsOf?_eq_some_iff _ values).mpr rfl, Option.map_some]
  | negation key inner ih =>
    rw [toMember]
    generalize inner.toMember = member at ih ⊢
    obtain ⟨name, v⟩ := member
    rw [ofMember?, ih, Option.map_some]

/-- A member that is decoded is the one that the predicate adds. -/
theorem Predicate.toMember_of_ofMember? {name : String} {v : Json} {p : Predicate} (h : ofMember? name v = some p) :
    p.toMember = (name, v) := by
  fun_induction ofMember? name v generalizing p with
  | case1 value =>
    cases h
    rfl
  | case2 items =>
    obtain ⟨values, hValues, rfl⟩ := Option.map_eq_some_iff.mp h
    rw [toMember, Json.texts, (textsOf?_eq_some_iff items values).mp hValues]
  | case3 key name inner ih =>
    obtain ⟨predicate, hInner, rfl⟩ := Option.map_eq_some_iff.mp h
    rw [toMember, ih hInner]
  | case4 => cases h

/-- The wire forms of filters are decoded as these, and nothing else is decoded. -/
theorem Filter.ofJson?_eq_some_iff (j : Json) (f : Filter) : Filter.ofJson? j = some f ↔ f.toJson = j := by
  constructor
  · intro h
    unfold Filter.ofJson? at h
    split at h
    · obtain ⟨predicate, hMember, rfl⟩ := Option.map_eq_some_iff.mp h
      rw [Filter.toJson, Predicate.toMember_of_ofMember? hMember]
    · cases h
  · rintro rfl
    obtain ⟨key, predicate⟩ := f
    have hMember := predicate.ofMember?_toMember
    rw [Filter.toJson]
    generalize predicate.toMember = member at hMember ⊢
    obtain ⟨name, v⟩ := member
    rw [Filter.ofJson?, hMember, Option.map_some]

theorem mapM_ofJson?_eq_some_iff (items : List Json) (filters : List Filter) :
    items.mapM Filter.ofJson? = some filters ↔ filters.map Filter.toJson = items := by
  induction items generalizing filters with
  | nil => cases filters <;> simp
  | cons v items ih =>
    rw [List.mapM_cons]
    constructor
    · intro h
      obtain ⟨f, hFirst, h⟩ := Option.bind_eq_some_iff.mp h
      obtain ⟨rest, hRest, h⟩ := Option.bind_eq_some_iff.mp h
      cases h
      rw [List.map_cons, (Filter.ofJson?_eq_some_iff v f).mp hFirst, (ih rest).mp hRest]
    · intro h
      cases filters with
      | nil => cases h
      | cons f rest =>
        obtain ⟨hFirst, hRest⟩ := List.cons.inj h
        rw [(Filter.ofJson?_eq_some_iff v f).mpr hFirst, (ih rest).mpr hRest]
        rfl

/-- The wire forms of the filters of a query are decoded as these, and nothing else is decoded. -/
theorem Filters.ofJson?_eq_some_iff (j : Json) (f : Filters) : Filters.ofJson? j = some f ↔ f.toJson = j := by
  constructor
  · intro h
    unfold Filters.ofJson? at h
    split at h
    · obtain ⟨labels, hLabels, h⟩ := Option.bind_eq_some_iff.mp h
      obtain ⟨kinds, hKinds, h⟩ := Option.bind_eq_some_iff.mp h
      cases h
      rw [Filters.toJson, (mapM_ofJson?_eq_some_iff _ labels).mp hLabels, (mapM_ofJson?_eq_some_iff _ kinds).mp hKinds]
    · cases h
  · rintro rfl
    rw [Filters.toJson, Filters.ofJson?, (mapM_ofJson?_eq_some_iff _ f.labels).mpr rfl,
      (mapM_ofJson?_eq_some_iff _ f.kinds).mpr rfl]
    rfl

/-! ## Exactness -/

theorem Predicate.name_ne_key (p : Predicate) : p.toMember.1 ≠ "key" := by
  cases p <;> simp [Predicate.toMember]

theorem Predicate.isExact_toMember (p : Predicate) : p.toMember.2.IsExact := by
  induction p with
  | equal value => simp [Predicate.toMember, Json.IsExact, Json.MembersExact, Mapping.keys]
  | among values => simp [Predicate.toMember, Json.IsExact, Json.MembersExact, Mapping.keys]
  | negation key inner ih =>
    have hName := inner.name_ne_key.symm
    rw [Predicate.toMember]
    generalize inner.toMember = member at hName ih ⊢
    obtain ⟨name, v⟩ := member
    simpa [Json.IsExact, Json.MembersExact, Mapping.keys, hName] using ih

theorem Filter.isExact_toJson (f : Filter) : f.toJson.IsExact := by
  have hName := f.predicate.name_ne_key.symm
  have hMember := f.predicate.isExact_toMember
  rw [Filter.toJson]
  generalize f.predicate.toMember = member at hName hMember ⊢
  obtain ⟨name, v⟩ := member
  simpa [Json.IsExact, Json.MembersExact, Mapping.keys, hName] using hMember

theorem Filters.isExact_toJson (f : Filters) : f.toJson.IsExact := by
  have hFilters : ∀ filters : List Filter, Json.ItemsExact (filters.map Filter.toJson) := by
    intro filters
    rw [Json.itemsExact_iff]
    intro v hv
    obtain ⟨filter, -, rfl⟩ := List.mem_map.mp hv
    exact filter.isExact_toJson
  simp [Filters.toJson, Json.IsExact, Json.MembersExact, Mapping.keys, hFilters]

/-! ## Depth -/

theorem Predicate.depth_toMember (p : Predicate) : p.toMember.2.depth ≤ 2 * p.nesting + 2 := by
  induction p with
  | equal value => simp [Predicate.toMember, Json.depth, Json.membersDepth]
  | among values =>
    have hValues := Json.depth_texts_le values
    simp only [Predicate.toMember, Json.depth, Json.membersDepth]
    omega
  | negation key inner ih =>
    rw [Predicate.toMember, Predicate.nesting]
    generalize inner.toMember = member at ih ⊢
    obtain ⟨name, v⟩ := member
    simp only [Json.depth, Json.membersDepth] at ih ⊢
    omega

theorem Filter.depth_toJson (f : Filter) : f.toJson.depth ≤ 2 * f.predicate.nesting + 3 := by
  have hMember := f.predicate.depth_toMember
  rw [Filter.toJson]
  generalize f.predicate.toMember = member at hMember ⊢
  obtain ⟨name, v⟩ := member
  simp only [Json.depth, Json.membersDepth] at hMember ⊢
  omega

theorem Filters.depth_toJson {f : Filters} {n : Nat} (hLabels : ∀ filter ∈ f.labels, filter.predicate.nesting ≤ n)
    (hKinds : ∀ filter ∈ f.kinds, filter.predicate.nesting ≤ n) : f.toJson.depth ≤ 2 * n + 5 := by
  have hFilters : ∀ filters : List Filter, (∀ filter ∈ filters, filter.predicate.nesting ≤ n) →
      Json.itemsDepth (filters.map Filter.toJson) ≤ 2 * n + 3 := by
    intro filters h
    refine Json.itemsDepth_le fun v hv => ?_
    obtain ⟨filter, hFilter, rfl⟩ := List.mem_map.mp hv
    have hDepth := filter.depth_toJson
    have hNesting := h filter hFilter
    omega
  have hLabelDepth := hFilters f.labels hLabels
  have hKindDepth := hFilters f.kinds hKinds
  simp only [Filters.toJson, Json.depth, Json.membersDepth]
  omega

/-! ## Compiled filters -/

theorem nesting_of_buildFilter {op : Operator} {key : String} {values : List String} {f : Filter}
    (h : buildFilter op key values = some f) : f.predicate.nesting ≤ 1 := by
  cases op with
  | equal | notEqual =>
    obtain ⟨v, -, rfl⟩ := Option.map_eq_some_iff.1 h
    simp [Predicate.nesting]
  | among | notAmong =>
    obtain rfl := Option.some.inj h
    simp [Predicate.nesting]

theorem nesting_of_compileClauses {cs : List String} {c : Compilation} (h : compileClauses compileLabel cs = .ok c) :
    ∀ f ∈ c.filters, f.predicate.nesting ≤ 1 := by
  induction cs generalizing c with
  | nil =>
    cases h
    simp
  | cons clause cs ih =>
    obtain ⟨filter, rest, hFilter, hRest, rfl⟩ := compileClauses_cons_eq_ok_iff.mp h
    intro f hf
    cases filter with
    | none =>
      refine ih hRest f ?_
      rw [Compilation.add] at hf
      split at hf <;> exact hf
    | some g =>
      rcases List.mem_cons.mp hf with rfl | hf
      · obtain ⟨op, values, -, -, hBuilt⟩ := exists_values_of_compileLabel hFilter
        exact nesting_of_buildFilter hBuilt
      · exact ih hRest f hf

/-! ## Queries that are refused -/

/-- A label query is refused: one of its clauses is, or the query is strict and one of them is dropped. -/
def IsRefused (label : String) (strict : Bool) : Prop :=
  (∃ e, labelResult label = .error e) ∨ strict = true ∧ ∃ result, labelResult label = .ok result ∧ result.dropped ≠ []

theorem exists_error_of_isRefused {label : String} {strict : Bool} (h : IsRefused label strict) (type : ObjectType) (kind : String) :
    ∃ e, compile type label kind strict = .error e := by
  obtain ⟨e, hLabels⟩ : ∃ e, compileLabels label strict = .error e := by
    rcases h with ⟨e, hResult⟩ | ⟨rfl, result, hResult, hDropped⟩
    · exact ⟨e, compileLabels_of_error hResult strict⟩
    · obtain ⟨clause, rest, hFirst⟩ := List.exists_cons_of_ne_nil hDropped
      exact ⟨.unrecognized clause, compileLabels_strict_of_dropped hResult hFirst⟩
  exact ⟨e, by rw [compile_eq, hLabels]; rfl⟩

/-- A query that is not refused compiles to filters that depend on the labels alone, and their wire form is exact and shallow. -/
theorem exists_filters_of_not_isRefused {label : String} {strict : Bool} (h : ¬ IsRefused label strict) (type : ObjectType) :
    ∃ filters : Filters, (∀ kind, ∃ records, compile type label kind strict = .ok (filters, records)) ∧
      filters.toJson.depth ≤ 7 := by
  cases hResult : labelResult label with
  | error e => exact absurd (.inl ⟨e, hResult⟩) h
  | ok result =>
    have hLabels : ∃ records, compileLabels label strict = .ok (result.filters, records) := by
      cases strict with
      | false => exact ⟨_, compileLabels_lenient hResult⟩
      | true =>
        have hDropped : result.dropped = [] := by
          by_contra hDropped
          exact h (.inr ⟨rfl, result, hResult, hDropped⟩)
        exact ⟨[], compileLabels_strict_of_dropped_nil hResult hDropped⟩
    obtain ⟨records, hLabels⟩ := hLabels
    refine ⟨⟨result.filters, []⟩, fun kind => ⟨records ++ kindWarning type kind, ?_⟩, ?_⟩
    · rw [compile_eq, hLabels]
      rfl
    · have hDepth := Filters.depth_toJson (nesting_of_compileClauses hResult) (f := ⟨result.filters, []⟩) (by simp)
      exact hDepth

end RanConsole.Query

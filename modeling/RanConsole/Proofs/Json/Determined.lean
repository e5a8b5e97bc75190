import RanConsole.Proofs.Json.RoundTrip

/-!
# What is written determines the value

The tokens of a value end where the value ends: whatever follows them, two values with the same tokens in front are equal
(`valueTokens_inj`). So values of any depth that are written alike are equal (`render_inj`), also where they are too deep to be read.
-/

namespace RanConsole.Json

/-! ## The first token -/

/-- The tokens of a value start with the value itself or with the bracket of a list or an object. -/
theorem valueTokens_cases {v : Json} (h : v.IsExact) :
    valueTokens v = [.scalar v] ∨ (∃ items, v = .arr items) ∨ ∃ members, v = .obj members := by
  cases v with
  | arr items => exact .inr (.inl ⟨items, rfl⟩)
  | obj members => exact .inr (.inr ⟨members, rfl⟩)
  | int i => exact .inl (congrArg (fun t => [t]) (wordToken_integerText_of_isShort h))
  | float x => exact absurd h id
  | null | bool _ | str _ => exact .inl rfl

/-- No value starts with the bracket that ends a list. -/
theorem valueTokens_ne_listClose {v : Json} (h : v.IsExact) (s t : List Token) : valueTokens v ++ s ≠ .listClose :: t := by
  intro hTokens
  rcases valueTokens_cases h with hv | ⟨items, rfl⟩ | ⟨members, rfl⟩
  · rw [hv] at hTokens
    cases hTokens
  · rw [valueTokens] at hTokens
    cases hTokens
  · rw [valueTokens] at hTokens
    cases hTokens

/-! ## All tokens -/

/-- What follows an item or a member: if there are others, a comma and these. -/
def tailTokens {α : Type} (f : List α → List Token) (rest : List α) : List Token :=
  (if rest.isEmpty then [] else [.comma]) ++ f rest

theorem itemTokens_cons (v : Json) (rest : List Json) : itemTokens (v :: rest) = valueTokens v ++ tailTokens itemTokens rest := by
  rw [itemTokens, List.append_assoc]
  rfl

theorem memberTokens_cons (key : String) (v : Json) (rest : List (String × Json)) :
    memberTokens ((key, v) :: rest) = .scalar (.str key) :: .colon :: (valueTokens v ++ tailTokens memberTokens rest) := by
  rw [memberTokens, List.append_assoc]
  rfl

/-- What follows is determined by its tokens if that holds of what stands behind the comma. -/
theorem tailTokens_inj {α : Type} {f : List α → List Token} (hNil : f [] = []) {close : Token} (hClose : close ≠ .comma)
    {rest others : List α} {s t : List Token}
    (hRest : f rest ++ close :: s = f others ++ close :: t → rest = others ∧ s = t)
    (h : tailTokens f rest ++ close :: s = tailTokens f others ++ close :: t) : rest = others ∧ s = t := by
  have hEmpty : tailTokens f [] = [] := hNil
  have hComma : ∀ (a : α) (more : List α), tailTokens f (a :: more) = .comma :: f (a :: more) := fun _ _ => rfl
  cases rest with
  | nil =>
    cases others with
    | nil =>
      rw [hEmpty] at h
      exact ⟨rfl, (List.cons.inj h).2⟩
    | cons b others =>
      rw [hEmpty, hComma] at h
      exact absurd (List.cons.inj h).1 hClose
  | cons a rest =>
    cases others with
    | nil =>
      rw [hEmpty, hComma] at h
      exact absurd (List.cons.inj h).1.symm hClose
    | cons b others =>
      rw [hComma, hComma] at h
      exact hRest (List.cons.inj h).2

mutual

/-- Values with the same tokens in front are equal, and so is what follows. -/
theorem valueTokens_inj : ∀ (v : Json), v.IsExact → ∀ (w : Json), w.IsExact → ∀ s t : List Token,
    valueTokens v ++ s = valueTokens w ++ t → v = w ∧ s = t
  | .arr items, hv, w, hw, s, t, h => by
    rcases valueTokens_cases hw with hTokens | ⟨others, rfl⟩ | ⟨members, rfl⟩
    · rw [valueTokens, hTokens] at h
      cases h
    · rw [valueTokens, valueTokens, List.cons_append, List.cons_append, List.append_assoc, List.append_assoc] at h
      obtain ⟨rfl, rfl⟩ := itemTokens_inj items hv others hw s t (List.cons.inj h).2
      exact ⟨rfl, rfl⟩
    · rw [valueTokens, valueTokens] at h
      cases h
  | .obj members, hv, w, hw, s, t, h => by
    rcases valueTokens_cases hw with hTokens | ⟨items, rfl⟩ | ⟨others, rfl⟩
    · rw [valueTokens, hTokens] at h
      cases h
    · rw [valueTokens, valueTokens] at h
      cases h
    · rw [valueTokens, valueTokens, List.cons_append, List.cons_append, List.append_assoc, List.append_assoc] at h
      obtain ⟨rfl, rfl⟩ := memberTokens_inj members hv.2 others hw.2 s t (List.cons.inj h).2
      exact ⟨rfl, rfl⟩
  | .null, hv, w, hw, s, t, h | .bool _, hv, w, hw, s, t, h | .int _, hv, w, hw, s, t, h | .str _, hv, w, hw, s, t, h => by
    rcases valueTokens_cases hv with hScalar | ⟨_, hList⟩ | ⟨_, hObject⟩
    · rcases valueTokens_cases hw with hTokens | ⟨items, rfl⟩ | ⟨members, rfl⟩
      · rw [hScalar, hTokens] at h
        obtain ⟨hFirst, hRest⟩ := List.cons.inj h
        exact ⟨Token.scalar.inj hFirst, hRest⟩
      · rw [hScalar, valueTokens] at h
        cases h
      · rw [hScalar, valueTokens] at h
        cases h
    · cases hList
    · cases hObject

/-- Items with the same tokens in front of the end of the list are equal, and so is what follows. -/
theorem itemTokens_inj : ∀ (items : List Json), ItemsExact items → ∀ (others : List Json), ItemsExact others → ∀ s t : List Token,
    itemTokens items ++ .listClose :: s = itemTokens others ++ .listClose :: t → items = others ∧ s = t
  | [], _, [], _, s, t, h => by
    obtain ⟨-, rfl⟩ := List.cons.inj h
    exact ⟨rfl, rfl⟩
  | [], _, w :: others, hw, s, t, h => by
    rw [itemTokens_cons, List.append_assoc] at h
    exact absurd h.symm (valueTokens_ne_listClose hw.1 _ _)
  | v :: rest, hv, [], _, s, t, h => by
    rw [itemTokens_cons, List.append_assoc] at h
    exact absurd h (valueTokens_ne_listClose hv.1 _ _)
  | v :: rest, hv, w :: others, hw, s, t, h => by
    rw [itemTokens_cons, itemTokens_cons, List.append_assoc, List.append_assoc] at h
    obtain ⟨rfl, hTail⟩ := valueTokens_inj v hv.1 w hw.1 _ _ h
    have hClose : Token.listClose ≠ .comma := nofun
    obtain ⟨rfl, rfl⟩ := tailTokens_inj rfl hClose (itemTokens_inj rest hv.2 others hw.2 s t) hTail
    exact ⟨rfl, rfl⟩

/-- Members with the same tokens in front of the end of the object are equal, and so is what follows. -/
theorem memberTokens_inj : ∀ (members : List (String × Json)), MembersExact members → ∀ (others : List (String × Json)),
    MembersExact others → ∀ s t : List Token,
      memberTokens members ++ .objectClose :: s = memberTokens others ++ .objectClose :: t → members = others ∧ s = t
  | [], _, [], _, s, t, h => by
    obtain ⟨-, rfl⟩ := List.cons.inj h
    exact ⟨rfl, rfl⟩
  | [], _, (key, w) :: others, _, s, t, h => by
    rw [memberTokens_cons] at h
    cases h
  | (key, v) :: rest, _, [], _, s, t, h => by
    rw [memberTokens_cons] at h
    cases h
  | (key, v) :: rest, hv, (key', w) :: others, hw, s, t, h => by
    rw [memberTokens_cons, memberTokens_cons, List.cons_append, List.cons_append, List.cons_append, List.cons_append,
      List.append_assoc, List.append_assoc] at h
    obtain ⟨hKey, hRest⟩ := List.cons.inj h
    obtain rfl : key = key' := Json.str.inj (Token.scalar.inj hKey)
    obtain ⟨rfl, hTail⟩ := valueTokens_inj v hv.1 w hw.1 _ _ (List.cons.inj hRest).2
    have hClose : Token.objectClose ≠ .comma := nofun
    obtain ⟨rfl, rfl⟩ := tailTokens_inj rfl hClose (memberTokens_inj rest hv.2 others hw.2 s t) hTail
    exact ⟨rfl, rfl⟩

end

/-! ## Texts -/

/-- Values that are written alike are equal. -/
theorem render_inj {style : Style} (hStyle : style.IsSpaced) {v w : Json} (hv : v.IsExact) (hw : w.IsExact)
    (h : v.render style = w.render style) : v = w := by
  have hPrinted : v.print style 0 = w.print style 0 := String.ofList_injective h
  have hScan := scan_print '\uFFFD' hStyle v hv.isPlain.isFormed 0 [] endsWord_nil
  rw [List.append_nil, hPrinted, ← List.append_nil (w.print style 0),
    scan_print '\uFFFD' hStyle w hw.isPlain.isFormed 0 [] endsWord_nil] at hScan
  exact (valueTokens_inj v hv w hw _ _ hScan.symm).1

end RanConsole.Json

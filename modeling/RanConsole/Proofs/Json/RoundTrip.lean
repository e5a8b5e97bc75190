import RanConsole.Json.Reader
import RanConsole.Proofs.Json.Scalars
import RanConsole.Proofs.Mapping

/-!
# Reading what was printed

A printed value is a sequence of tokens (`valueTokens`) in every style that puts nothing but white space around its separators, and the
reader makes the value of them again. So a value reads back as it was printed (`readChars_print_of_isFormed`), if its integers are not
too long, its objects have no key twice, its floating point numbers are read as they are written, and it is not too deep. The values of
the program that are read back hold no floating point number (`read_render`).
-/

namespace RanConsole.Json

/-! ## Values that read back -/

mutual

/-- The number of lists and objects inside one another. -/
def depth : Json → Nat
  | .arr items => itemsDepth items + 1
  | .obj members => membersDepth members + 1
  | _ => 0

/-- The greatest depth of items. -/
def itemsDepth : List Json → Nat
  | [] => 0
  | v :: rest => max v.depth (itemsDepth rest)

/-- The greatest depth of the values of members. -/
def membersDepth : List (String × Json) → Nat
  | [] => 0
  | (_, v) :: rest => max v.depth (membersDepth rest)

end

mutual

/-- What is written so that it can be read exactly: no integer is too long, no key comes twice, and no number is a floating point
number. -/
def IsExact : Json → Prop
  | .int i => isShort i = true
  | .float _ => False
  | .arr items => ItemsExact items
  | .obj members => (Mapping.keys members).Nodup ∧ MembersExact members
  | _ => True

/-- Items that are all exact. -/
def ItemsExact : List Json → Prop
  | [] => True
  | v :: rest => v.IsExact ∧ ItemsExact rest

/-- Members whose values are all exact. -/
def MembersExact : List (String × Json) → Prop
  | [] => True
  | (_, v) :: rest => v.IsExact ∧ MembersExact rest

end

mutual

/-- What is written as tokens of its own: no key comes twice, and no number is a floating point number. -/
def IsPlain : Json → Prop
  | .float _ => False
  | .arr items => ItemsPlain items
  | .obj members => (Mapping.keys members).Nodup ∧ MembersPlain members
  | _ => True

/-- Items that are all plain. -/
def ItemsPlain : List Json → Prop
  | [] => True
  | v :: rest => v.IsPlain ∧ ItemsPlain rest

/-- Members whose values are all plain. -/
def MembersPlain : List (String × Json) → Prop
  | [] => True
  | (_, v) :: rest => v.IsPlain ∧ MembersPlain rest

end

mutual

/-- What can be read exactly is plain. -/
theorem IsExact.isPlain : ∀ {v : Json}, v.IsExact → v.IsPlain
  | .null, _ | .bool _, _ | .int _, _ | .str _, _ => trivial
  | .arr _, h => ItemsExact.itemsPlain h
  | .obj _, h => ⟨h.1, MembersExact.membersPlain h.2⟩

theorem ItemsExact.itemsPlain : ∀ {items : List Json}, ItemsExact items → ItemsPlain items
  | [], _ => trivial
  | _ :: _, h => ⟨IsExact.isPlain h.1, ItemsExact.itemsPlain h.2⟩

theorem MembersExact.membersPlain : ∀ {members : List (String × Json)}, MembersExact members → MembersPlain members
  | [], _ => trivial
  | _ :: _, h => ⟨IsExact.isPlain h.1, MembersExact.membersPlain h.2⟩

end

mutual

/-- What is written as tokens of its own if floating point numbers of a kind are: no key comes twice, and every floating point number is
of the kind. -/
def IsFormed (floats : Binary64 → Prop) : Json → Prop
  | .float x => floats x
  | .arr items => ItemsFormed floats items
  | .obj members => (Mapping.keys members).Nodup ∧ MembersFormed floats members
  | _ => True

/-- Items that are all formed. -/
def ItemsFormed (floats : Binary64 → Prop) : List Json → Prop
  | [] => True
  | v :: rest => v.IsFormed floats ∧ ItemsFormed floats rest

/-- Members whose values are all formed. -/
def MembersFormed (floats : Binary64 → Prop) : List (String × Json) → Prop
  | [] => True
  | (_, v) :: rest => v.IsFormed floats ∧ MembersFormed floats rest

end

section

variable {floats others : Binary64 → Prop}

mutual

/-- What is plain holds no floating point number, of whatever kind. -/
theorem IsPlain.isFormed : ∀ {v : Json}, v.IsPlain → v.IsFormed floats
  | .null, _ | .bool _, _ | .int _, _ | .str _, _ => trivial
  | .arr _, h => ItemsPlain.itemsFormed h
  | .obj _, h => ⟨h.1, MembersPlain.membersFormed h.2⟩

theorem ItemsPlain.itemsFormed : ∀ {items : List Json}, ItemsPlain items → ItemsFormed floats items
  | [], _ => trivial
  | _ :: _, h => ⟨IsPlain.isFormed h.1, ItemsPlain.itemsFormed h.2⟩

theorem MembersPlain.membersFormed : ∀ {members : List (String × Json)}, MembersPlain members → MembersFormed floats members
  | [], _ => trivial
  | _ :: _, h => ⟨IsPlain.isFormed h.1, MembersPlain.membersFormed h.2⟩

end

mutual

theorem IsFormed.imp (hFloats : ∀ x, floats x → others x) : ∀ {v : Json}, v.IsFormed floats → v.IsFormed others
  | .null, _ | .bool _, _ | .int _, _ | .str _, _ => trivial
  | .float x, h => hFloats x h
  | .arr _, h => ItemsFormed.imp hFloats h
  | .obj _, h => ⟨h.1, MembersFormed.imp hFloats h.2⟩

theorem ItemsFormed.imp (hFloats : ∀ x, floats x → others x) : ∀ {items : List Json}, ItemsFormed floats items → ItemsFormed others items
  | [], _ => trivial
  | _ :: _, h => ⟨IsFormed.imp hFloats h.1, ItemsFormed.imp hFloats h.2⟩

theorem MembersFormed.imp (hFloats : ∀ x, floats x → others x) :
    ∀ {members : List (String × Json)}, MembersFormed floats members → MembersFormed others members
  | [], _ => trivial
  | _ :: _, h => ⟨IsFormed.imp hFloats h.1, MembersFormed.imp hFloats h.2⟩

end

end

mutual

/-- Whether every integer in a value is short. -/
def hasShortIntegers : Json → Bool
  | .int i => isShort i
  | .arr items => itemsShort items
  | .obj members => membersShort members
  | .null | .bool _ | .float _ | .str _ => true

/-- Whether every integer in items is short. -/
def itemsShort : List Json → Bool
  | [] => true
  | v :: rest => v.hasShortIntegers && itemsShort rest

/-- Whether every integer in the values of members is short. -/
def membersShort : List (String × Json) → Bool
  | [] => true
  | (_, v) :: rest => v.hasShortIntegers && membersShort rest

end

mutual

/-- What can be read exactly has short integers. -/
theorem IsExact.hasShortIntegers : ∀ {v : Json}, v.IsExact → v.hasShortIntegers = true
  | .null, _ | .bool _, _ | .str _, _ => rfl
  | .int _, h => h
  | .arr _, h => ItemsExact.itemsShort h
  | .obj _, h => MembersExact.membersShort h.2

theorem ItemsExact.itemsShort : ∀ {items : List Json}, ItemsExact items → Json.itemsShort items = true
  | [], _ => rfl
  | _ :: _, h => Bool.and_eq_true_iff.mpr ⟨IsExact.hasShortIntegers h.1, ItemsExact.itemsShort h.2⟩

theorem MembersExact.membersShort : ∀ {members : List (String × Json)}, MembersExact members → Json.membersShort members = true
  | [], _ => rfl
  | _ :: _, h => Bool.and_eq_true_iff.mpr ⟨IsExact.hasShortIntegers h.1, MembersExact.membersShort h.2⟩

end

theorem itemsExact_iff (items : List Json) : ItemsExact items ↔ ∀ v ∈ items, v.IsExact := by
  induction items with
  | nil => simp [ItemsExact]
  | cons v rest ih => simp [ItemsExact, ih]

theorem itemsPlain_iff (items : List Json) : ItemsPlain items ↔ ∀ v ∈ items, v.IsPlain := by
  induction items with
  | nil => simp [ItemsPlain]
  | cons v rest ih => simp [ItemsPlain, ih]

theorem membersFormed_iff (floats : Binary64 → Prop) (members : List (String × Json)) :
    MembersFormed floats members ↔ ∀ member ∈ members, member.2.IsFormed floats := by
  induction members with
  | nil => simp [MembersFormed]
  | cons member rest ih => simp [MembersFormed, ih]

theorem membersShort_iff (members : List (String × Json)) :
    membersShort members = true ↔ ∀ member ∈ members, member.2.hasShortIntegers = true := by
  induction members with
  | nil => simp [membersShort]
  | cons member rest ih => simp [membersShort, ih]

theorem membersDepth_le_iff {members : List (String × Json)} {n : Nat} :
    membersDepth members ≤ n ↔ ∀ member ∈ members, member.2.depth ≤ n := by
  induction members with
  | nil => simp [membersDepth]
  | cons member rest ih => rw [membersDepth, Nat.max_le, ih, List.forall_mem_cons]

/-- An object is one deeper than the deepest of its values. -/
theorem depth_obj_le_iff {members : List (String × Json)} {n : Nat} :
    (Json.obj members).depth ≤ n ↔ 0 < n ∧ ∀ member ∈ members, member.2.depth < n := by
  cases n with
  | zero => simp [depth]
  | succ n =>
    rw [depth, Nat.add_le_add_iff_right, membersDepth_le_iff]
    exact ⟨fun hAll => ⟨Nat.succ_pos n, fun member hMember => Nat.lt_succ_of_le (hAll member hMember)⟩,
      fun hAll member hMember => Nat.le_of_lt_succ (hAll.2 member hMember)⟩

theorem itemsDepth_le {items : List Json} {n : Nat} (h : ∀ v ∈ items, v.depth ≤ n) : itemsDepth items ≤ n := by
  induction items with
  | nil => exact Nat.zero_le n
  | cons v rest ih =>
    rw [itemsDepth, Nat.max_le]
    exact ⟨h v (List.mem_cons_self ..), ih fun w hw => h w (List.mem_cons_of_mem _ hw)⟩

@[simp] theorem isExact_texts (items : List String) : (Json.texts items).IsExact := by
  rw [Json.texts, IsExact, itemsExact_iff]
  intro v hv
  obtain ⟨s, -, rfl⟩ := List.mem_map.mp hv
  trivial

theorem depth_texts_le (items : List String) : (Json.texts items).depth ≤ 1 := by
  have hItems : itemsDepth (items.map .str) ≤ 0 := by
    refine itemsDepth_le fun v hv => ?_
    obtain ⟨s, -, rfl⟩ := List.mem_map.mp hv
    exact Nat.le_refl 0
  rw [Json.texts, depth]
  exact Nat.succ_le_succ hItems

/-! ## Tokens of values -/

variable {halves : Halves}

mutual

/-- The tokens of a value. -/
def valueTokens : Json → List Token
  | .arr items => .listOpen :: (itemTokens items ++ [.listClose])
  | .obj members => .objectOpen :: (memberTokens members ++ [.objectClose])
  | .null => [.scalar .null]
  | .bool b => [.scalar (.bool b)]
  | .int i => [wordToken (integerText i)]
  | .float x => [.scalar (.float x)]
  | .str s => [.scalar (.str s)]

/-- The tokens of items with commas between them. -/
def itemTokens : List Json → List Token
  | [] => []
  | v :: rest => valueTokens v ++ (if rest.isEmpty then [] else [.comma]) ++ itemTokens rest

/-- The tokens of members with commas between them. -/
def memberTokens : List (String × Json) → List Token
  | [] => []
  | (key, v) :: rest =>
    .scalar (.str key) :: .colon :: (valueTokens v ++ (if rest.isEmpty then [] else [.comma]) ++ memberTokens rest)

end

/-- A style that puts nothing but white space around its separators. -/
structure Style.IsSpaced (style : Style) : Prop where
  items : ∃ ws, style.itemSeparator.toList = ',' :: ws ∧ ∀ c ∈ ws, isSpace c = true
  keys : ∃ ws, style.keySeparator.toList = ':' :: ws ∧ ∀ c ∈ ws, isSpace c = true

theorem Style.compact_isSpaced : Style.compact.IsSpaced :=
  ⟨⟨[], by decide, by simp⟩, ⟨[], by decide, by simp⟩⟩

theorem Style.line_isSpaced : Style.line.IsSpaced :=
  ⟨⟨[' '], by decide, by simp [isSpace]⟩, ⟨[' '], by decide, by simp [isSpace]⟩⟩

theorem isSpace_lineBreak (style : Style) (level : Nat) : ∀ c ∈ lineBreak style level, isSpace c = true := by
  intro c hc
  rw [lineBreak] at hc
  cases hIndent : style.indent with
  | none => simp [hIndent] at hc
  | some width =>
    simp only [hIndent, List.mem_cons, List.mem_replicate] at hc
    rcases hc with rfl | ⟨-, rfl⟩ <;> decide

/-- A character that is a token. -/
theorem scan_mark {c : Char} {t : Token} (h : opening c = ([t], .between)) (s : List Char) :
    scan halves .between (c :: s) = t :: scan halves .between s := by
  rw [scan_between_cons, h]
  rfl

theorem endsWord_lineBreak (style : Style) (level : Nat) {c : Char} (s : List Char) (h : isWordChar c = false) :
    EndsWord (lineBreak style level ++ c :: s) :=
  endsWord_spaces (isSpace_lineBreak style level) (endsWord_cons s h)

/-- What stands between two items is one comma. -/
theorem scan_itemSeparator {style : Style} (hStyle : style.IsSpaced) (level : Nat) (s : List Char) :
    scan halves .between (style.itemSeparator.toList ++ lineBreak style level ++ s) = .comma :: scan halves .between s := by
  obtain ⟨ws, hSeparator, hSpaces⟩ := hStyle.items
  rw [hSeparator, List.cons_append, List.cons_append, scan_mark (t := .comma) rfl, List.append_assoc,
    scan_spaces hSpaces,
    scan_spaces (isSpace_lineBreak style level)]

theorem endsWord_itemSeparator {style : Style} (hStyle : style.IsSpaced) (s : List Char) :
    EndsWord (style.itemSeparator.toList ++ s) := by
  obtain ⟨ws, hSeparator, -⟩ := hStyle.items
  rw [hSeparator]
  exact endsWord_cons _ (by decide)

/-- What stands behind a key is one colon. -/
theorem scan_keySeparator {style : Style} (hStyle : style.IsSpaced) (s : List Char) :
    scan halves .between (style.keySeparator.toList ++ s) = .colon :: scan halves .between s := by
  obtain ⟨ws, hSeparator, hSpaces⟩ := hStyle.keys
  rw [hSeparator, List.cons_append, scan_mark (t := .colon) rfl, scan_spaces hSpaces]

/-- Pieces in brackets are the tokens of the brackets around those of the pieces. -/
theorem scan_bracketed {style : Style} (level : Nat) {opening closing : Char} {opened closed : Token}
    (hOpening : Json.opening opening = ([opened], .between)) (hClosing : Json.opening closing = ([closed], .between))
    (hWord : isWordChar closing = false) {pieces : List (List Char)} {tokens : List Token}
    (hPieces : ∀ s, EndsWord s →
      scan halves .between (Text.joinWith (style.itemSeparator.toList ++ lineBreak style (level + 1)) pieces ++ s) =
        tokens ++ scan halves .between s)
    (s : List Char) :
    scan halves .between (bracketed style level opening closing pieces ++ s) = opened :: (tokens ++ closed :: scan halves .between s) := by
  cases pieces with
  | nil =>
    have hNone := hPieces [] endsWord_nil
    rw [Text.joinWith, List.append_nil, scan_nil, List.append_nil] at hNone
    rw [bracketed, ← hNone, List.cons_append, List.cons_append, List.nil_append, scan_mark hOpening, scan_mark hClosing,
      List.nil_append]
  | cons piece pieces =>
    have hPrinted : bracketed style level opening closing (piece :: pieces) ++ s =
        opening :: (lineBreak style (level + 1) ++
          (Text.joinWith (style.itemSeparator.toList ++ lineBreak style (level + 1)) (piece :: pieces) ++
            (lineBreak style level ++ closing :: s))) := by
      simp [bracketed]
    rw [hPrinted, scan_mark hOpening, scan_spaces (isSpace_lineBreak style (level + 1)),
      hPieces _ (endsWord_lineBreak style level s hWord), scan_spaces (isSpace_lineBreak style level), scan_mark hClosing]

/-- A floating point number whose written form in a style is one word that is read as the number. -/
structure Style.ReadsFloat (style : Style) (x : Binary64) : Prop where
  isWord : ∀ c ∈ (x.written style.numbers).toList, isWordChar c = true
  token : wordToken (x.written style.numbers).toList = .scalar (.float x)

/-- A printed floating point number that is read back is one token where its word ends. -/
theorem Style.ReadsFloat.scan {style : Style} {x : Binary64} (h : style.ReadsFloat x) {s : List Char} (hs : EndsWord s) :
    Json.scan halves .between ((x.written style.numbers).toList ++ s) = .scalar (.float x) :: Json.scan halves .between s := by
  have hSome : (x.written style.numbers).toList ≠ [] := by
    intro hNil
    have hToken := h.token
    rw [hNil] at hToken
    cases hToken
  rw [scan_between_word hSome h.isWord hs, h.token]

mutual

/-- A printed value is its tokens where its last word ends, whatever stands for halves. -/
theorem scan_print (standIn : Char) {style : Style} (hStyle : style.IsSpaced) :
    ∀ (v : Json), v.IsFormed style.ReadsFloat → ∀ (level : Nat) (s : List Char), EndsWord s →
      scan (.standIn standIn) .between (v.print style level ++ s) = valueTokens v ++ scan (.standIn standIn) .between s
  | .null, _, _, s, hs => scan_between_word (w := "null".toList) (by decide) (List.all_eq_true.mp (by decide)) hs
  | .bool true, _, _, s, hs => scan_between_word (w := "true".toList) (by decide) (List.all_eq_true.mp (by decide)) hs
  | .bool false, _, _, s, hs => scan_between_word (w := "false".toList) (by decide) (List.all_eq_true.mp (by decide)) hs
  | .int i, _, _, s, hs => scan_integerText i hs
  | .float _, h, _, s, hs => h.scan hs
  | .str text, _, _, s, _ => scan_printText standIn style text s
  | .arr items, h, level, s, _ => by
    have hOpening : opening '[' = ([.listOpen], .between) := rfl
    have hClosing : opening ']' = ([.listClose], .between) := rfl
    rw [print, scan_bracketed level hOpening hClosing (by decide)
      (fun s hs => scan_printItems standIn hStyle items h (level + 1) s hs), valueTokens, List.cons_append, List.append_assoc]
    rfl
  | .obj members, h, level, s, _ => by
    have hOpening : opening '{' = ([.objectOpen], .between) := rfl
    have hClosing : opening '}' = ([.objectClose], .between) := rfl
    rw [print, scan_bracketed level hOpening hClosing (by decide)
      (fun s hs => scan_printMembers standIn hStyle members h.2 (level + 1) s hs), valueTokens, List.cons_append, List.append_assoc]
    rfl

/-- Printed items are their tokens. -/
theorem scan_printItems (standIn : Char) {style : Style} (hStyle : style.IsSpaced) :
    ∀ (items : List Json), ItemsFormed style.ReadsFloat items → ∀ (level : Nat) (s : List Char), EndsWord s →
      scan (.standIn standIn) .between
          (Text.joinWith (style.itemSeparator.toList ++ lineBreak style level) (printItems style level items) ++ s) =
        itemTokens items ++ scan (.standIn standIn) .between s
  | [], _, _, _, _ => rfl
  | [v], h, level, s, hs => by
    rw [printItems, printItems, Text.joinWith, scan_print standIn hStyle v h.1 level s hs]
    simp [itemTokens]
  | v :: w :: rest, h, level, s, hs => by
    have hRest := scan_printItems standIn hStyle (w :: rest) h.2 level s hs
    rw [printItems] at hRest
    rw [printItems, printItems, Text.joinWith, List.append_assoc, List.append_assoc,
      scan_print standIn hStyle v h.1 level _ (by rw [List.append_assoc]; exact endsWord_itemSeparator hStyle _),
      scan_itemSeparator hStyle, hRest]
    simp [itemTokens]

/-- Printed members are their tokens. -/
theorem scan_printMembers (standIn : Char) {style : Style} (hStyle : style.IsSpaced) :
    ∀ (members : List (String × Json)), MembersFormed style.ReadsFloat members → ∀ (level : Nat) (s : List Char), EndsWord s →
      scan (.standIn standIn) .between
          (Text.joinWith (style.itemSeparator.toList ++ lineBreak style level) (printMembers style level members) ++ s) =
        memberTokens members ++ scan (.standIn standIn) .between s
  | [], _, _, _, _ => rfl
  | [(key, v)], h, level, s, hs => by
    rw [printMembers, printMembers, Text.joinWith, List.append_assoc, List.append_assoc, scan_printText,
      scan_keySeparator hStyle, scan_print standIn hStyle v h.1 level s hs]
    simp [memberTokens]
  | (key, v) :: member :: rest, h, level, s, hs => by
    have hRest := scan_printMembers standIn hStyle (member :: rest) h.2 level s hs
    rw [printMembers] at hRest
    rw [printMembers, printMembers, Text.joinWith]
    simp only [List.append_assoc] at hRest ⊢
    rw [scan_printText, scan_keySeparator hStyle, scan_print standIn hStyle v h.1 level _ (endsWord_itemSeparator hStyle _),
      ← List.append_assoc, scan_itemSeparator hStyle, hRest]
    simp [memberTokens]

end

/-! ## The reader on the tokens of a value -/

section

variable {limit : Nat} {floats : Binary64 → Prop}

theorem steps_cons_ok {state next : State} {t : Token} (h : step limit state t = .ok next) (ts : List Token) :
    steps limit state (t :: ts) = steps limit next ts := by
  rw [steps, h]
  rfl

/-- A value starts alike in a list that has just been opened and behind a comma. -/
theorem steps_firstItem (around : List Pending) (v : Json) (ts : List Token) :
    steps limit (.firstItem around) (valueTokens v ++ ts) =
      steps limit (.value (.list [] :: around)) (valueTokens v ++ ts) := by
  cases v with
  | int i =>
    cases hShort : isShort i with
    | true =>
      rw [valueTokens, wordToken_integerText_of_isShort hShort]
      rfl
    | false =>
      rw [valueTokens, wordToken_integerText_of_not_isShort hShort]
      rfl
  | _ => rfl

theorem steps_listOpen {around : List Pending} (h : around.length < limit) (ts : List Token) :
    steps limit (.value around) (.listOpen :: ts) = steps limit (.firstItem around) ts := by
  have hStep : step limit (.value around) .listOpen = .ok (.firstItem around) := if_pos h
  exact steps_cons_ok hStep ts

theorem steps_objectOpen {around : List Pending} (h : around.length < limit) (ts : List Token) :
    steps limit (.value around) (.objectOpen :: ts) = steps limit (.firstKey around) ts := by
  have hStep : step limit (.value around) .objectOpen = .ok (.firstKey around) := if_pos h
  exact steps_cons_ok hStep ts

mutual

/-- The tokens of a value make that value. -/
theorem steps_valueTokens : ∀ (v : Json), v.IsFormed floats → v.hasShortIntegers = true → ∀ (around : List Pending) (ts : List Token),
    around.length + v.depth ≤ limit →
      steps limit (.value around) (valueTokens v ++ ts) = steps limit (.complete v around) ts
  | .null, _, _, _, _, _ => rfl
  | .bool _, _, _, _, _, _ => rfl
  | .int _, _, hShort, _, _, _ => by
    rw [valueTokens, wordToken_integerText_of_isShort hShort]
    rfl
  | .float _, _, _, _, _, _ => rfl
  | .str _, _, _, _, _, _ => rfl
  | .arr items, h, hShort, around, ts, hDepth => by
    rw [depth] at hDepth
    rw [valueTokens, List.cons_append, steps_listOpen (by omega), List.append_assoc, List.singleton_append]
    exact steps_items items h hShort around ts (by omega)
  | .obj members, h, hShort, around, ts, hDepth => by
    rw [depth] at hDepth
    have hMembers := steps_members members h.2 hShort around ts (by omega)
    rw [Mapping.ofPairs_of_nodup h.1] at hMembers
    rw [valueTokens, List.cons_append, steps_objectOpen (by omega), List.append_assoc, List.singleton_append]
    exact hMembers

/-- The tokens of all items of a list make that list. -/
theorem steps_items : ∀ (items : List Json), ItemsFormed floats items → itemsShort items = true →
    ∀ (around : List Pending) (ts : List Token),
    around.length + 1 + itemsDepth items ≤ limit →
      steps limit (.firstItem around) (itemTokens items ++ (.listClose :: ts)) = steps limit (.complete (.arr items) around) ts
  | [], _, _, _, _, _ => rfl
  | v :: rest, h, hShort, around, ts, hDepth => by
    obtain ⟨hFirst, hRest⟩ := Bool.and_eq_true_iff.mp hShort
    rw [itemsDepth] at hDepth
    rw [itemTokens, List.append_assoc, List.append_assoc, steps_firstItem,
      steps_valueTokens v h.1 hFirst _ _ (by rw [List.length_cons]; omega)]
    exact steps_moreItems rest h.2 hRest v [] around ts (by omega)

/-- Behind an item the tokens of further ones continue the list to its end. -/
theorem steps_moreItems : ∀ (rest : List Json), ItemsFormed floats rest → itemsShort rest = true →
    ∀ (v : Json) (before : List Json) (around : List Pending) (ts : List Token), around.length + 1 + itemsDepth rest ≤ limit →
      steps limit (.complete v (.list before :: around))
          ((if rest.isEmpty then [] else [.comma]) ++ (itemTokens rest ++ (.listClose :: ts))) =
        steps limit (.complete (.arr (before.reverse ++ v :: rest)) around) ts
  | [], _, _, v, before, around, ts, _ => by
    rw [← List.reverse_cons]
    rfl
  | w :: rest, h, hShort, v, before, around, ts, hDepth => by
    obtain ⟨hFirst, hMore⟩ := Bool.and_eq_true_iff.mp hShort
    rw [itemsDepth] at hDepth
    have hRest := steps_moreItems rest h.2 hMore w (v :: before) around ts (by omega)
    rw [List.reverse_cons, List.append_assoc, List.singleton_append] at hRest
    rw [← hRest, ← steps_valueTokens w h.1 hFirst _ _ (by rw [List.length_cons]; omega), itemTokens, List.append_assoc,
      List.append_assoc]
    rfl

/-- The tokens of all members of an object make that object. -/
theorem steps_members : ∀ (members : List (String × Json)), MembersFormed floats members → membersShort members = true →
    ∀ (around : List Pending) (ts : List Token),
    around.length + 1 + membersDepth members ≤ limit →
      steps limit (.firstKey around) (memberTokens members ++ (.objectClose :: ts)) =
        steps limit (.complete (.obj (Mapping.ofPairs members)) around) ts
  | [], _, _, _, _, _ => rfl
  | (key, v) :: rest, h, hShort, around, ts, hDepth => by
    obtain ⟨hFirst, hMore⟩ := Bool.and_eq_true_iff.mp hShort
    rw [membersDepth] at hDepth
    have hRest := steps_moreMembers rest h.2 hMore key v [] around ts (by omega)
    rw [List.reverse_nil, List.nil_append] at hRest
    rw [← hRest, ← steps_valueTokens v h.1 hFirst _ _ (by rw [List.length_cons]; omega), memberTokens, List.cons_append, List.cons_append,
      List.append_assoc, List.append_assoc]
    rfl

/-- Behind a member the tokens of further ones continue the object to its end. -/
theorem steps_moreMembers : ∀ (rest : List (String × Json)), MembersFormed floats rest → membersShort rest = true →
    ∀ (key : String) (v : Json) (before : List (String × Json)) (around : List Pending) (ts : List Token),
      around.length + 1 + membersDepth rest ≤ limit →
        steps limit (.complete v (.object before key :: around))
            ((if rest.isEmpty then [] else [.comma]) ++ (memberTokens rest ++ (.objectClose :: ts))) =
          steps limit (.complete (.obj (Mapping.ofPairs (before.reverse ++ (key, v) :: rest))) around) ts
  | [], _, _, key, v, before, around, ts, _ => by
    rw [← List.reverse_cons]
    rfl
  | (key', w) :: rest, h, hShort, key, v, before, around, ts, hDepth => by
    obtain ⟨hFirst, hMore⟩ := Bool.and_eq_true_iff.mp hShort
    rw [membersDepth] at hDepth
    have hRest := steps_moreMembers rest h.2 hMore key' w ((key, v) :: before) around ts (by omega)
    rw [List.reverse_cons, List.append_assoc, List.singleton_append] at hRest
    rw [← hRest, ← steps_valueTokens w h.1 hFirst _ _ (by rw [List.length_cons]; omega), memberTokens, List.cons_append, List.cons_append,
      List.append_assoc, List.append_assoc]
    rfl

end

end

/-- A formed value with short integers is read back by every reader that goes down to its depth, whatever stands for halves. -/
theorem readChars_print_of_isFormed {style : Style} (hStyle : style.IsSpaced) {v : Json} (h : v.IsFormed style.ReadsFloat)
    (hShort : v.hasShortIntegers = true) {limit : Nat} (hDepth : v.depth ≤ limit) (standIn : Char) (level : Nat) :
    readChars (v.print style level) { limit, halves := .standIn standIn } = .ok v := by
  have hTokens := scan_print standIn hStyle v h level [] endsWord_nil
  rw [List.append_nil, scan_nil, List.append_nil] at hTokens
  have hSteps := steps_valueTokens v h hShort [] [] (by simpa using hDepth)
  rw [List.append_nil] at hSteps
  rw [readChars, tokens, hTokens, ofTokens, hSteps]
  rfl

/-- A printed value is read back by every reader that goes down to its depth. -/
theorem readChars_print {style : Style} (hStyle : style.IsSpaced) {v : Json} (h : v.IsExact) {limit : Nat} (hDepth : v.depth ≤ limit)
    (standIn : Char) (level : Nat) : readChars (v.print style level) { limit, halves := .standIn standIn } = .ok v :=
  readChars_print_of_isFormed hStyle h.isPlain.isFormed h.hasShortIntegers hDepth standIn level

/-- A value reads back as it was written, whatever stands for halves. -/
theorem read_render {style : Style} (hStyle : style.IsSpaced) {v : Json} (h : v.IsExact) (hDepth : v.depth ≤ maxDepth) (standIn : Char) :
    read (v.render style) { halves := .standIn standIn } = .ok v := by
  rw [read, render, String.toList_ofList]
  exact readChars_print hStyle h hDepth standIn 0

end RanConsole.Json

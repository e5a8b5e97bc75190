import RanConsole.Console
import RanConsole.Proofs.Text.Lines

/-!
# Printed messages

Messages are printed one after another, and what is printed of a message is never nothing (`line_ne_empty`). Messages without the escape
character are printed as they are, each with a line feed behind it (`lines_eq`).
-/

namespace RanConsole.Console

theorem lines_append (a b : List String) : lines (a ++ b) = lines a ++ lines b := by
  rw [lines, List.map_append, String.join_append]
  rfl

/-- Taking the control sequences out of a text leaves the line end behind it. -/
theorem mem_plainFrom (pending s : List Char) : '\n' ∈ plainFrom pending (s ++ ['\n']) := by
  induction s generalizing pending with
  | nil =>
    have hRestart : '\n' ∈ pending.reverse ++ '\n' :: plainFrom [] [] := by simp
    match pending with
    | [] | [_] | _ :: _ :: _ => exact hRestart
  | cons c s ih =>
    have hRestart : '\n' ∈ pending.reverse ++
        (if c = escape then plainFrom [c] (s ++ ['\n']) else c :: plainFrom [] (s ++ ['\n'])) := by
      refine List.mem_append_right _ ?_
      split
      · exact ih [c]
      · exact List.mem_cons_of_mem _ (ih [])
    match pending with
    | [] => exact hRestart
    | [d] =>
      rw [List.cons_append, plainFrom]
      split
      · exact ih _
      · exact hRestart
    | d :: e :: pending =>
      rw [List.cons_append, plainFrom]
      · split
        · exact ih _
        · split
          · exact ih _
          · exact hRestart
      · simp
      · simp

theorem line_ne_empty (message : String) : line message ≠ "" := by
  intro h
  have hMem := mem_plainFrom [] message.toList
  rw [line, plain, String.toList_append] at h
  have hNone : plainFrom [] (message.toList ++ ['\n']) = [] := String.ofList_eq_empty_iff.mp h
  rw [hNone] at hMem
  cases hMem

/-- What is printed of the first of some texts tells how many of them there are, if each of them has a line. -/
theorem take_inj_of_lines_eq {texts : List (List String)} (hTexts : ∀ text ∈ texts, text ≠ []) {k l : Nat} (hk : k ≤ texts.length)
    (hl : l ≤ texts.length) (h : lines (texts.take k).flatten = lines (texts.take l).flatten) : k = l := by
  have hSome : ∀ text ∈ texts, ∀ rest, lines (text ++ rest) ≠ "" := by
    intro text hText rest
    cases text with
    | nil => exact absurd rfl (hTexts [] hText)
    | cons m text =>
      rw [List.cons_append, lines, List.map_cons, String.join_cons]
      exact fun hEmpty => line_ne_empty m (String.append_eq_empty_iff.mp hEmpty).1
  induction texts generalizing k l with
  | nil => exact (Nat.le_zero.mp hk).trans (Nat.le_zero.mp hl).symm
  | cons text texts ih =>
    obtain ⟨-, hRest⟩ := List.forall_mem_cons.mp hTexts
    cases k with
    | zero =>
      cases l with
      | zero => rfl
      | succ l => exact absurd h.symm (hSome text (List.mem_cons_self ..) _)
    | succ k =>
      cases l with
      | zero => exact absurd h (hSome text (List.mem_cons_self ..) _)
      | succ l =>
        simp only [List.take_succ_cons, List.flatten_cons, lines_append, String.append_right_inj] at h
        rw [ih hRest (Nat.le_of_succ_le_succ hk) (Nat.le_of_succ_le_succ hl) h fun t ht => hSome t (List.mem_cons_of_mem _ ht)]

/-! ## Messages without control sequences -/

/-- A text without escape characters is printed as it is. -/
theorem plainFrom_of_notMem {s : List Char} (h : escape ∉ s) : plainFrom [] s = s := by
  induction s with
  | nil => rfl
  | cons c s ih =>
    rw [List.mem_cons, not_or] at h
    rw [plainFrom, if_neg fun hc => h.1 hc.symm, ih h.2]
    rfl

theorem line_eq {message : String} (h : escape ∉ message.toList) : line message = message ++ "\n" := by
  have hLine : escape ∉ (message ++ "\n").toList := by
    simpa [h] using (by decide : escape ≠ '\n')
  rw [line, plain, plainFrom_of_notMem hLine, String.ofList_toList]

/-- Messages without escape characters are printed as they are, each with a line feed behind it. -/
theorem lines_eq {messages : List String} (h : ∀ m ∈ messages, escape ∉ m.toList) :
    lines messages = String.join (messages.map (· ++ "\n")) := by
  rw [lines, List.map_congr_left fun m hm => line_eq (h m hm)]

theorem toList_lines {messages : List String} (h : ∀ m ∈ messages, escape ∉ m.toList) :
    (lines messages).toList = Text.fed (messages.map String.toList) := by
  rw [lines_eq h, String.toList_join, List.flatMap_map, Text.fed, List.flatMap_map]
  exact List.flatMap_congr fun m _ => String.toList_append

end RanConsole.Console

import Mathlib.Tactic

/-!
# Bisection

A list is searched by halving for the place where the items begin that come after what is asked for.
On a list that is cut in two there, bisection returns the length of the front
(`bisect_eq_length`).  On any list it ends behind an item that does not come after
(`exists_of_bisect`).
-/

namespace Retrace

variable {α : Type} {after : α → Bool}

/-- The number of leading items that a search by halving takes not to come after what is asked for.
The number of halvings is bounded. -/
def bisect (after : α → Bool) : Nat → List α → Nat
  | 0, _ => 0
  | steps + 1, items =>
    match items.drop (items.length / 2) with
    | [] => 0
    | item :: rest =>
      if after item then bisect after steps (items.take (items.length / 2))
      else items.length / 2 + 1 + bisect after steps rest

lemma bisect_of_after {items : List α} (hmiddle : items.length / 2 < items.length)
    (h : after items[items.length / 2] = true) (steps : Nat) :
    bisect after (steps + 1) items = bisect after steps (items.take (items.length / 2)) := by
  simp only [bisect, List.drop_eq_getElem_cons hmiddle, h, if_true]

lemma bisect_of_not_after {items : List α} (hmiddle : items.length / 2 < items.length)
    (h : after items[items.length / 2] = false) (steps : Nat) :
    bisect after (steps + 1) items =
      items.length / 2 + 1 + bisect after steps (items.drop (items.length / 2 + 1)) := by
  simp only [bisect, List.drop_eq_getElem_cons hmiddle, h, Bool.false_eq_true, if_false]

lemma bisect_nil (steps : Nat) : bisect after steps [] = 0 := by
  cases steps with
  | zero => rfl
  | succ steps => rw [bisect, List.drop_nil]

/-- Items that do not come after, followed by some that do, are counted. -/
theorem bisect_eq_length {front back : List α} (hfront : ∀ x ∈ front, after x = false)
    (hback : ∀ x ∈ back, after x = true) {steps : Nat} (hsteps : (front ++ back).length ≤ steps) :
    bisect after steps (front ++ back) = front.length := by
  induction steps generalizing front back with
  | zero =>
    have hnil : front ++ back = [] := List.eq_nil_of_length_eq_zero (Nat.le_zero.1 hsteps)
    rw [hnil, (List.append_eq_nil_iff.1 hnil).1]
    rfl
  | succ steps ih =>
    by_cases hempty : front ++ back = []
    · rw [hempty, bisect_nil, (List.append_eq_nil_iff.1 hempty).1]
      rfl
    have hpos : 0 < (front ++ back).length := List.length_pos_of_ne_nil hempty
    have hlength : (front ++ back).length = front.length + back.length := List.length_append
    have hmiddle : (front ++ back).length / 2 < (front ++ back).length := by omega
    -- The item in the middle lies in the front or in the back, which tells the halves apart.
    by_cases hin : (front ++ back).length / 2 < front.length
    · have hmember : after (front ++ back)[(front ++ back).length / 2] = false := by
        rw [List.getElem_append_left hin]
        exact hfront _ (List.getElem_mem hin)
      have hrest : ∀ x ∈ front.drop ((front ++ back).length / 2 + 1), after x = false :=
        fun x hx => hfront x (List.mem_of_mem_drop hx)
      rw [bisect_of_not_after hmiddle hmember, List.drop_append_of_le_length (by omega),
        ih hrest hback (by rw [List.length_append, List.length_drop]; omega),
        List.length_drop]
      omega
    · have hmember : after (front ++ back)[(front ++ back).length / 2] = true := by
        rw [List.getElem_append_right (by omega)]
        exact hback _ (List.getElem_mem _)
      have hrest : ∀ x ∈ back.take ((front ++ back).length / 2 - front.length), after x = true :=
        fun x hx => hback x (List.mem_of_mem_take hx)
      rw [bisect_of_after hmiddle hmember, List.take_append, List.take_of_length_le (by omega),
        ih hfront hrest (by rw [List.length_append, List.length_take]; omega)]

/-- Whatever the order of the items, bisection ends behind one that does not come after. -/
theorem exists_of_bisect {steps count : Nat} {items : List α}
    (h : bisect after steps items = count + 1) : ∃ x, items[count]? = some x ∧ after x = false := by
  induction steps generalizing items count with
  | zero => cases h
  | succ steps ih =>
    by_cases hempty : items = []
    · rw [hempty, bisect_nil] at h
      cases h
    have hpos : 0 < items.length := List.length_pos_of_ne_nil hempty
    have hmiddle : items.length / 2 < items.length := by omega
    cases hitem : after items[items.length / 2] with
    | true =>
      rw [bisect_of_after hmiddle hitem] at h
      obtain ⟨x, hx, hafter⟩ := ih h
      obtain ⟨hcount, -⟩ := List.getElem?_eq_some_iff.1 hx
      rw [List.length_take] at hcount
      rw [List.getElem?_take_of_lt (by omega)] at hx
      exact ⟨x, hx, hafter⟩
    | false =>
      rw [bisect_of_not_after hmiddle hitem] at h
      cases hrest : bisect after steps (items.drop (items.length / 2 + 1)) with
      | zero =>
        have hcount : count = items.length / 2 := by omega
        subst hcount
        exact ⟨_, List.getElem?_eq_getElem hmiddle, hitem⟩
      | succ later =>
        obtain ⟨x, hx, hafter⟩ := ih hrest
        have hcount : items.length / 2 + 1 + later = count := by omega
        rw [List.getElem?_drop, hcount] at hx
        exact ⟨x, hx, hafter⟩

end Retrace

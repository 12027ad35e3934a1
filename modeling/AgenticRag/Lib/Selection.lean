import Mathlib.Data.List.Basic

/-!
# Selection

A selection by a test and a number: the first so many elements of a list that
pass. An element is taken where few enough before it pass the test, so nothing
of a kind is lost exactly when each of the kind passes with few enough before it
that pass.

## Theorems

* `mem_take_filter_iff`: What the first few that pass a test are.
* `countP_take_filter_eq_iff`: When none of a kind is lost with the rest.
-/

namespace AgenticRag

namespace Selection

section Taken

variable {α : Type*} {p q : α → Bool} {k : Nat} {xs : List α}

/-- What is taken is what passes with few enough before it that pass. -/
theorem mem_take_filter_iff {x : α} :
    x ∈ (xs.filter p).take k ↔
      ∃ i, xs[i]? = some x ∧ p x = true ∧ (xs.take i).countP p < k := by
  induction xs generalizing k with
  | nil => simp
  | cons y xs ih =>
      have hsplit : (∃ i, (y :: xs)[i]? = some x ∧ p x = true ∧ ((y :: xs).take i).countP p < k) ↔
          (y = x ∧ p x = true ∧ 0 < k) ∨
            ∃ i, xs[i]? = some x ∧ p x = true ∧ (y :: xs.take i).countP p < k := by
        constructor
        · rintro ⟨i, hi, hx, hk⟩
          cases i with
          | zero => exact .inl ⟨by simpa using hi, hx, by simpa using hk⟩
          | succ i => exact .inr ⟨i, by simpa using hi, hx, by simpa using hk⟩
        · rintro (⟨rfl, hx, hk⟩ | ⟨i, hi, hx, hk⟩)
          · exact ⟨0, by simp, hx, by simpa using hk⟩
          · exact ⟨i + 1, by simpa using hi, hx, by simpa using hk⟩
      rw [hsplit]
      cases hy : p y with
      | false =>
          rw [List.filter_cons_of_neg (by simp [hy]), ih]
          have hne : ¬ (y = x ∧ p x = true ∧ 0 < k) := by
            rintro ⟨rfl, hx, -⟩
            simp [hy] at hx
          simp only [hne, false_or, List.countP_cons, hy]
          simp
      | true =>
          rw [List.filter_cons_of_pos hy]
          cases k with
          | zero => simp
          | succ k =>
              rw [List.take_succ_cons, List.mem_cons, ih]
              simp only [List.countP_cons, hy, if_true, Nat.add_lt_add_iff_right]
              constructor
              · rintro (rfl | h)
                · exact .inl ⟨rfl, hy, Nat.succ_pos k⟩
                · exact .inr h
              · rintro (⟨rfl, -, -⟩ | h)
                · exact .inl rfl
                · exact .inr h

theorem forall_getElem?_cons {P : Nat → α → Prop} {y : α} :
    (∀ i x, (y :: xs)[i]? = some x → P i x) ↔ P 0 y ∧ ∀ i x, xs[i]? = some x → P (i + 1) x := by
  constructor
  · exact fun h => ⟨h 0 y rfl, fun i x hx => h (i + 1) x (by simpa using hx)⟩
  · rintro ⟨h0, h⟩ i x hx
    cases i with
    | zero =>
        cases (by simpa using hx : y = x)
        exact h0
    | succ i => exact h i x (by simpa using hx)

/-- Nothing of a kind is lost by taking the first of what passes exactly when each of
    the kind passes with few enough before it that pass. -/
theorem countP_take_filter_eq_iff :
    ((xs.filter p).take k).countP q = xs.countP q ↔
      ∀ i x, xs[i]? = some x → q x = true → p x = true ∧ (xs.take i).countP p < k := by
  induction xs generalizing k with
  | nil => simp
  | cons y xs ih =>
      rw [forall_getElem?_cons]
      simp only [List.take_succ_cons, List.take_zero, List.countP_nil]
      -- No more are counted in a selection of a list than in the list.
      have hle : ((xs.filter p).take k).countP q ≤ xs.countP q :=
        ((List.take_sublist _ _).trans List.filter_sublist).countP_le
      cases hy : p y with
      | false =>
          rw [List.filter_cons_of_neg (by simp [hy])]
          simp only [List.countP_cons, hy, Bool.false_eq_true, if_false, Nat.add_zero, false_and,
            imp_false, ← ih]
          cases hq : q y with
          | false => simp
          | true =>
              refine iff_of_false ?_ (fun h => h.1 rfl)
              rw [if_pos rfl]
              omega
      | true =>
          rw [List.filter_cons_of_pos hy]
          simp only [List.countP_cons, hy, if_true, true_and]
          cases k with
          | zero =>
              have hrest := @ih 0
              simp only [List.take_zero, List.countP_nil, Nat.not_lt_zero, and_false,
                imp_false] at hrest ⊢
              rw [← hrest]
              cases q y <;> simp
          | succ k =>
              rw [List.take_succ_cons, List.countP_cons, Nat.add_right_cancel_iff, ih]
              simp

end Taken

end Selection

end AgenticRag

import Mathlib.Algebra.GroupWithZero.Nat
import Mathlib.Algebra.Order.BigOperators.Group.List
import Mathlib.Data.List.Perm.Basic

/-!
# Keeping to a Budget

Two ways to share something of which there is only so much.

A list is gone through from the front, and each element is taken as long as its
cost still fits a quota beside what was taken before. An element that does not
fit is passed over, and the search goes on behind it. It may also stop at any
point, for a reason of its own. `Fills` is the record of such a search, without
that reason: what was taken and what was left, from a cost that is there already.
What is taken never exceeds the quota (`Fills.totalCost_le`), and where the list
is sorted, an element is left before one that is taken only if it did not fit
beside what stands before it (`Fills.mem_or_full`).

A pool is split by weight, and each part is raised to a minimum. What the raising adds
may be more than the pool has, and then all parts are scaled down once and raised
again. The second raising undoes the scaling for the small parts, so it is the large
ones that have to give back the excess, each what scaling takes off it but not more
than what it has above the minimum (`max_scaled_eq`). So the split keeps to the pool
just when this is enough (`split_sum_le_iff`). How parts and scaled parts are rounded
is left open, as long as scaling does not raise a part.

## Main definitions

* `totalCost`: The cost of a list.
* `given`, `givenBack`: What scaling takes off the large parts.

## Theorems

* `Fills.mem_or_full`: What is left of a sorted list before something is taken.
* `split_sum_le_iff`: When the parts keep to the pool.
-/

namespace AgenticRag

namespace Filling

variable {α : Type*} (cost : α → Nat) (quota : Nat)

/-- The cost of a list. -/
def totalCost (xs : List α) : Nat :=
  (xs.map cost).sum

@[simp] theorem totalCost_nil : totalCost cost [] = 0 :=
  rfl

@[simp] theorem totalCost_cons (x : α) (xs : List α) :
    totalCost cost (x :: xs) = cost x + totalCost cost xs :=
  rfl

@[simp] theorem totalCost_append (xs ys : List α) :
    totalCost cost (xs ++ ys) = totalCost cost xs + totalCost cost ys := by
  rw [totalCost, List.map_append, List.sum_append]
  rfl

/-- From a cost that is there already, some elements of a list are taken and the
    others left. -/
inductive Fills : Nat → List α → List α → List α → Prop
  | stop (used : Nat) (xs : List α) : Fills used xs [] xs
  | pass {used : Nat} {x : α} {xs taken left : List α} (hover : quota < used + cost x)
      (hrest : Fills used xs taken left) : Fills used (x :: xs) taken (x :: left)
  | take {used : Nat} {x : α} {xs taken left : List α} (hfits : used + cost x ≤ quota)
      (hrest : Fills (used + cost x) xs taken left) : Fills used (x :: xs) (x :: taken) left

variable {cost quota} {used : Nat} {xs taken left : List α}

theorem Fills.sublist (h : Fills cost quota used xs taken left) : taken.Sublist xs := by
  induction h with
  | stop used xs => exact List.nil_sublist xs
  | pass _ _ ih => exact ih.cons _
  | take _ _ ih => exact ih.cons_cons _

theorem Fills.perm (h : Fills cost quota used xs taken left) : xs.Perm (taken ++ left) := by
  induction h with
  | stop used xs => exact List.Perm.refl xs
  | @pass used x xs taken left _ _ ih => exact (ih.cons x).trans List.perm_middle.symm
  | take _ _ ih => exact ih.cons _

/-- What is taken does not exceed the quota, unless that was exceeded before. -/
theorem Fills.totalCost_le (h : Fills cost quota used xs taken left) (hused : used ≤ quota) :
    used + totalCost cost taken ≤ quota := by
  induction h with
  | stop used xs => exact hused
  | pass _ _ ih => exact ih hused
  | take hfits _ ih =>
      rw [totalCost_cons, ← Nat.add_assoc]
      exact ih hfits

/-- In a sorted list, an element that a taken one does not come before is taken
    too, unless it did not fit beside what was taken until then. -/
theorem Fills.mem_or_full {β : Type*} [LinearOrder β] {key : α → β}
    (h : Fills cost quota used xs taken left) (hsorted : xs.Pairwise (fun x y => key y ≤ key x))
    {x y : α} (hx : x ∈ xs) (hy : y ∈ taken) (hnot : ¬ [y, x].Sublist xs) :
    x ∈ taken ∨ ∃ before after, taken = before ++ after ∧ (∀ z ∈ before, key x ≤ key z) ∧
      quota < used + totalCost cost before + cost x := by
  induction h with
  | stop used xs => cases hy
  | @pass used z xs taken left hover hrest ih =>
      rcases List.pairwise_cons.mp hsorted with ⟨_, hsorted⟩
      rcases List.mem_cons.mp hx with rfl | hx
      -- It is passed over here, with nothing taken since.
      · exact .inr ⟨[], taken, rfl, List.forall_mem_nil _, hover⟩
      · exact ih hsorted hx hy (fun hsub => hnot (hsub.cons z))
  | @take used z xs taken left hfits _ ih =>
      rcases List.pairwise_cons.mp hsorted with ⟨hfirst, hsorted⟩
      rcases List.mem_cons.mp hx with rfl | hrest
      · exact .inl List.mem_cons_self
      have hz : key x ≤ key z := hfirst x hrest
      rcases List.mem_cons.mp hy with rfl | hy
      -- What is taken here comes no later than the element.
      · exact absurd ((List.singleton_sublist.mpr hrest).cons_cons y) hnot
      rcases ih hsorted hrest hy (fun hsub => hnot (hsub.cons z)) with
        hmem | ⟨before, after, rfl, hbefore, hfull⟩
      · exact .inl (List.mem_cons_of_mem z hmem)
      · refine .inr ⟨z :: before, after, rfl, List.forall_mem_cons.mpr ⟨hz, hbefore⟩, ?_⟩
        rw [totalCost_cons, ← Nat.add_assoc]
        exact hfull

end Filling

namespace Apportion

variable {ω : Type*} (minimum pool : Nat) (part : ω → Nat) (scaled : Nat → Nat → Nat)
  (weights : List ω)

/-- The parts, raised to the minimum. -/
def raised : List Nat :=
  weights.map (fun w => max minimum (part w))

/-- The split, scaled down once from its total where that is more than the pool. -/
def split : List Nat :=
  if pool < (raised minimum part weights).sum then
    (raised minimum part weights).map
      (fun q => max minimum (scaled (raised minimum part weights).sum q))
  else raised minimum part weights

/-- What the raised parts take above the pool. -/
def excess : Nat :=
  (raised minimum part weights).sum - pool

/-- What scaling takes off a part, but not more than it has above the minimum. -/
def given (total : Nat) (w : ω) : Nat :=
  min (part w - minimum) (max minimum (part w) - scaled total (max minimum (part w)))

/-- What the parts give back when they are scaled down by the excess. -/
def givenBack : Nat :=
  (weights.map (given minimum part scaled (pool + excess minimum pool part weights))).sum

variable {minimum pool part scaled weights}

theorem sum_sub_add_sum {f g : ω → Nat} (xs : List ω) (h : ∀ x ∈ xs, g x ≤ f x) :
    (xs.map (fun x => f x - g x)).sum + (xs.map g).sum = (xs.map f).sum := by
  induction xs with
  | nil => rfl
  | cons x xs ih =>
      rcases List.forall_mem_cons.mp h with ⟨hx, h⟩
      rw [List.map_cons, List.map_cons, List.map_cons, List.sum_cons, List.sum_cons,
        List.sum_cons, ← ih h]
      omega

theorem split_length : (split minimum pool part scaled weights).length = weights.length := by
  unfold split raised
  split_ifs
  · rw [List.length_map, List.length_map]
  · rw [List.length_map]

theorem le_of_mem_split : ∀ q ∈ split minimum pool part scaled weights, minimum ≤ q := by
  intro q hq
  unfold split raised at hq
  split_ifs at hq
  · rcases List.mem_map.mp hq with ⟨q, -, rfl⟩
    exact le_max_left _ _
  · rcases List.mem_map.mp hq with ⟨w, -, rfl⟩
    exact le_max_left _ _

/-- Scaled down and raised again, a part gives back what scaling takes off it, but no
    more than it has above the minimum. -/
theorem max_scaled_eq {total : Nat} {w : ω}
    (hscaled : scaled total (max minimum (part w)) ≤ max minimum (part w)) :
    max minimum (scaled total (max minimum (part w))) =
      max minimum (part w) - given minimum part scaled total w := by
  unfold given
  omega

theorem map_max_scaled {total : Nat}
    (hscaled : ∀ q ∈ raised minimum part weights, scaled total q ≤ q) :
    (raised minimum part weights).map (fun q => max minimum (scaled total q)) =
      weights.map (fun w => max minimum (part w) - given minimum part scaled total w) := by
  rw [raised, List.map_map]
  exact List.map_congr_left (fun w hw => max_scaled_eq (hscaled _ (List.mem_map_of_mem hw)))

/-- The parts keep to the pool just when the large ones give back the excess. Scaling
    must not raise a part. -/
theorem split_sum_le_iff
    (hscaled : pool < (raised minimum part weights).sum → ∀ q ∈ raised minimum part weights,
      scaled (raised minimum part weights).sum q ≤ q) :
    (split minimum pool part scaled weights).sum ≤ pool ↔
      excess minimum pool part weights ≤ givenBack minimum pool part scaled weights := by
  unfold split
  split_ifs with hover
  · have htotal : (raised minimum part weights).sum =
        pool + excess minimum pool part weights := by
      unfold excess
      omega
    have hsum := sum_sub_add_sum (f := fun w => max minimum (part w))
      (g := given minimum part scaled (raised minimum part weights).sum) weights
      (fun w _ => by
        unfold given
        omega)
    have hback : givenBack minimum pool part scaled weights =
        (weights.map (given minimum part scaled (raised minimum part weights).sum)).sum := by
      rw [givenBack, ← htotal]
    rw [map_max_scaled (hscaled hover), hback]
    change _ + _ = (raised minimum part weights).sum at hsum
    omega
  · have hnone : excess minimum pool part weights = 0 := by
      unfold excess
      omega
    rw [hnone]
    exact iff_of_true (not_lt.mp hover) (Nat.zero_le _)

end Apportion

end AgenticRag

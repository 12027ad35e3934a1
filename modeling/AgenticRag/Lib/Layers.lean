import Mathlib.Algebra.Ring.Nat
import AgenticRag.Lib.Ordered

/-!
# Filters in Layers

A layer removes some elements of a list, each for a reason, and counts how many
it removes for which. Layers are run one after the other on what is left, and
their counts are merged into one mapping by updating it.

Two facts carry what is said about a run. An element is left exactly if no layer
has a reason to remove it (`mem_run`). The counts add up to the number of
elements that were removed (`run_total`), provided no two layers share a reason:
an update would overwrite the first count with the second.

A layer lists the reasons it may have, so what is removed is counted once and
under a reason of its own; that is part of the structure.

## Main definitions

* `Layer`: A layer of filters.
* `run`: Layers one after the other.

## Theorems

* `Layer.total`: The counts of one layer add up.
* `run_total`: The counts of a run add up.
-/

namespace AgenticRag

namespace Layers

open Ordered

variable {α κ : Type}

/-- A layer: why it removes an element, and the reasons it may have. -/
structure Layer (α κ : Type) where
  why : α → Option κ
  reasons : List κ
  nodup : reasons.Nodup
  covers : ∀ x k, why x = some k → k ∈ reasons

/-- What a layer lets through. -/
def Layer.kept (l : Layer α κ) (xs : List α) : List α := xs.filter (fun x => (l.why x).isNone)

theorem mem_kept {l : Layer α κ} {xs : List α} {x : α} :
    x ∈ l.kept xs ↔ x ∈ xs ∧ l.why x = none := by
  rw [Layer.kept, List.mem_filter, Option.isNone_iff_eq_none]

/-- The counts of a mapping, added up. -/
def total (counts : List (κ × Nat)) : Nat := (counts.map Prod.snd).sum

/-- Leaving out the zeros does not change a sum. -/
theorem total_filter (counts : List (κ × Nat)) :
    total (counts.filter (fun p => p.2 ≠ 0)) = total counts := by
  induction counts with
  | nil => rfl
  | cons p rest ih =>
      by_cases hp : p.2 = 0
      · rw [List.filter_cons_of_neg (by simpa using hp), ih]
        simp [total, hp]
      · rw [List.filter_cons_of_pos (by simpa using hp)]
        simp only [total, List.map_cons, List.sum_cons] at ih ⊢
        rw [ih]

theorem total_append (counts more : List (κ × Nat)) :
    total (counts ++ more) = total counts + total more := by
  rw [total, List.map_append, List.sum_append]
  rfl

variable [DecidableEq κ]

/-- How many elements a layer removes for a reason. -/
def Layer.count (l : Layer α κ) (xs : List α) (k : κ) : Nat :=
  (xs.filter (fun x => l.why x = some k)).length

/-- The counts that are not zero. -/
def Layer.counts (l : Layer α κ) (xs : List α) : List (κ × Nat) :=
  (l.reasons.map (fun k => (k, l.count xs k))).filter (fun p => p.2 ≠ 0)

/-- One layer of a run. -/
def step (acc : List α × List (κ × Nat)) (l : Layer α κ) : List α × List (κ × Nat) :=
  (l.kept acc.1, dictUpdate acc.2 (l.counts acc.1))

/-- Layers one after the other. -/
def run (ls : List (Layer α κ)) (xs : List α) : List α × List (κ × Nat) :=
  ls.foldl step (xs, [])

/-- A layer counts under its own reasons. -/
theorem keys_counts_sublist (l : Layer α κ) (xs : List α) :
    ((l.counts xs).map Prod.fst).Sublist l.reasons := by
  have hkeys : (l.reasons.map (fun k => (k, l.count xs k))).map Prod.fst = l.reasons := by
    rw [List.map_map]
    exact List.map_id _
  have hsub := (List.filter_sublist (p := fun p : κ × Nat => decide (p.2 ≠ 0))
    (l := l.reasons.map (fun k => (k, l.count xs k)))).map Prod.fst
  rw [hkeys] at hsub
  exact hsub

/-- One more element counts for each of some reasons that is its own. -/
theorem sum_count_cons (l : Layer α κ) (x : α) (xs : List α) (reasons : List κ) :
    (reasons.map (l.count (x :: xs))).sum =
      (reasons.filter (fun k => l.why x = some k)).length + (reasons.map (l.count xs)).sum := by
  induction reasons with
  | nil => rfl
  | cons k rest ih =>
      rw [List.map_cons, List.sum_cons, ih, List.map_cons, List.sum_cons]
      by_cases hk : l.why x = some k
      · simp only [Layer.count, hk, decide_true, List.filter_cons_of_pos, List.length_cons]
        omega
      · simp only [Layer.count, hk, decide_false, Bool.false_eq_true, not_false_eq_true,
          List.filter_cons_of_neg]
        omega

/-- An element that is removed has one reason of its layer. -/
theorem length_filter_why (l : Layer α κ) (x : α) :
    (l.reasons.filter (fun k => l.why x = some k)).length =
      if (l.why x).isNone then 0 else 1 := by
  cases hwhy : l.why x with
  | none => simp
  | some k =>
      have hcount : l.reasons.count k = 1 := List.count_eq_one_of_mem l.nodup (l.covers x k hwhy)
      rw [List.count_eq_length_filter] at hcount
      have hsame : l.reasons.filter (fun j => some k = some j) =
          l.reasons.filter (fun j => j == k) := by
        refine List.filter_congr fun j _ => ?_
        rw [Bool.eq_iff_iff, decide_eq_true_eq, beq_iff_eq, Option.some.injEq, eq_comm]
      rw [hsame, hcount]
      rfl

/-- The counts of one layer add up to what it removes. -/
theorem Layer.total (l : Layer α κ) (xs : List α) :
    Layers.total (l.counts xs) + (l.kept xs).length = xs.length := by
  have htotal : ∀ xs, Layers.total (l.counts xs) = (l.reasons.map (l.count xs)).sum := by
    intro xs
    rw [Layer.counts, total_filter, Layers.total, List.map_map]
    rfl
  induction xs with
  | nil =>
      have hzero : l.count [] = fun _ => 0 := rfl
      simp [htotal, hzero, Layer.kept]
  | cons x xs ih =>
      rw [htotal, sum_count_cons, length_filter_why, List.length_cons, ← ih, htotal]
      by_cases hwhy : (l.why x).isNone
      · have hkept : l.kept (x :: xs) = x :: l.kept xs := List.filter_cons_of_pos hwhy
        rw [if_pos hwhy, hkept, List.length_cons]
        omega
      · have hkept : l.kept (x :: xs) = l.kept xs := List.filter_cons_of_neg hwhy
        rw [if_neg hwhy, hkept]
        omega

/-- What a run leaves: the elements no layer removes. -/
theorem mem_foldl_step (ls : List (Layer α κ)) (acc : List α × List (κ × Nat)) (x : α) :
    x ∈ (ls.foldl step acc).1 ↔ x ∈ acc.1 ∧ ∀ l ∈ ls, l.why x = none := by
  induction ls generalizing acc with
  | nil => simp
  | cons l ls ih =>
      rw [List.foldl_cons, ih, step, mem_kept, List.forall_mem_cons, and_assoc]

theorem mem_run {ls : List (Layer α κ)} {xs : List α} {x : α} :
    x ∈ (run ls xs).1 ↔ x ∈ xs ∧ ∀ l ∈ ls, l.why x = none :=
  mem_foldl_step ls (xs, []) x

/-- A run on counts under other reasons adds what it removes. -/
theorem total_foldl_step (ls : List (Layer α κ)) (acc : List α × List (κ × Nat))
    (hnodup : (acc.2.map Prod.fst ++ ls.flatMap (·.reasons)).Nodup) :
    total (ls.foldl step acc).2 + (ls.foldl step acc).1.length = total acc.2 + acc.1.length := by
  induction ls generalizing acc with
  | nil => rfl
  | cons l ls ih =>
      rw [List.flatMap_cons, ← List.append_assoc] at hnodup
      have hsub := keys_counts_sublist l acc.1
      have hfresh : (acc.2.map Prod.fst ++ (l.counts acc.1).map Prod.fst).Nodup :=
        (List.nodup_append.mp hnodup).1.sublist ((List.Sublist.refl _).append hsub)
      have hupdate : dictUpdate acc.2 (l.counts acc.1) = acc.2 ++ l.counts acc.1 :=
        dictUpdate_of_nodup hfresh
      have hrest : ((step acc l).2.map Prod.fst ++ ls.flatMap (·.reasons)).Nodup := by
        rw [step, hupdate, List.map_append]
        exact hnodup.sublist (((List.Sublist.refl _).append hsub).append (List.Sublist.refl _))
      rw [List.foldl_cons, ih (step acc l) hrest, step, hupdate, total_append, Nat.add_assoc,
        l.total acc.1]

/-- The counts of a run add up to what it removes, if no two layers share a
    reason. -/
theorem run_total (ls : List (Layer α κ)) (xs : List α)
    (hnodup : (ls.flatMap (·.reasons)).Nodup) :
    total (run ls xs).2 + (run ls xs).1.length = xs.length := by
  have hzero : total (xs, ([] : List (κ × Nat))).2 + xs.length = xs.length := Nat.zero_add _
  exact (total_foldl_step ls (xs, []) hnodup).trans hzero

end Layers

end AgenticRag

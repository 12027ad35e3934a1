import AgenticRag.Lib.Ranking
import Mathlib.Algebra.BigOperators.Group.List.Basic
import Mathlib.Algebra.Order.BigOperators.Group.List
import Mathlib.Algebra.Order.Field.Rat
import Mathlib.Tactic.Linarith
import Mathlib.Tactic.Positivity

/-!
# Fusing Rankings

Several ranked lists are merged by what their hits weigh. Hits with one key are
one element: its score is the sum of their weights, and what stands for it is the
first of them. The mappings a program collects for this are filled hit by hit, and
`accumulate_eq` and `keepFirst_eq` say what they hold in the end.

A merge depends on its keys only by which of them are equal. Two merges with
different keys for the hits, but the same ones told apart, are the same merge.

The weight of reciprocal rank fusion is that of a place in a list, and small: an
element that comes once in each list has a score of at most one share of the first
place from each.

## Main definitions

* `Hit`, `hits`: An element at a place in one of several lists.
* `reciprocalRank`: The weight of a place.

## Theorems

* `accumulate_eq`, `keepFirst_eq`: What the mappings hold.
* `total_le_of_nodup`: A bound on the scores.
-/

namespace AgenticRag

namespace Ordered

section Sorted

variable {α β κ : Type*} [LinearOrder κ]

/-- Sorting images by what they are images of. -/
theorem sortDesc_map (f : α → β) (key : β → κ) (xs : List α) :
    sortDesc key (xs.map f) = (sortDesc (fun a => key (f a)) xs).map f :=
  (List.map_insertionSort _ _ f xs (fun _ _ _ _ => Iff.rfl)).symm

/-- Only the keys of the elements decide. -/
theorem sortDesc_congr {key key' : α → κ} {xs : List α} (h : ∀ a ∈ xs, key a = key' a) :
    sortDesc key xs = sortDesc key' xs := by
  -- Sorting by one key is the identity's image of sorting by the other.
  have hmap := List.map_insertionSort (fun a b => key b ≤ key a) (fun a b => key' b ≤ key' a) id xs
    (fun a ha b hb => by rw [h a ha, h b hb, id, id])
  rwa [List.map_id, List.map_id] at hmap

end Sorted

section Fusion

variable {α β κ ι : Type*} [DecidableEq κ] [DecidableEq ι]

/-- The first of the elements with each key. -/
def firstsOn (key : α → κ) (xs : List α) : List α :=
  dedupOn (fun a => some (key a)) [] xs

/-- The sum of the weights of a key. -/
def total (key : α → κ) (weight : α → ℚ) (xs : List α) (k : κ) : ℚ :=
  ((xs.filter (fun a => key a = k)).map weight).sum

/-- Add the weight of each element to what its key has. -/
def accumulate (key : α → κ) (weight : α → ℚ) (xs : List α) : List (κ × ℚ) :=
  xs.foldl (fun d a => dictSet (key a) ((d.lookup (key a)).getD 0 + weight a) d) []

/-- Give each key the value of the first element that has it. -/
def keepFirst (key : α → κ) (value : α → β) (xs : List α) : List (κ × β) :=
  xs.foldl (fun d a => if key a ∈ d.map Prod.fst then d else dictSet (key a) (value a) d) []

/-- The first of the elements with each key, by falling score. -/
def fused (key : α → κ) (weight : α → ℚ) (xs : List α) : List α :=
  sortDesc (fun a => total key weight xs (key a)) (firstsOn key xs)

variable {key : α → κ} {weight : α → ℚ} {xs : List α}

theorem dedupOn_key_concat (seen : List κ) (xs : List α) (a : α) :
    dedupOn (fun b => some (key b)) seen (xs ++ [a]) =
      if key a ∈ seen ∨ key a ∈ xs.map key then dedupOn (fun b => some (key b)) seen xs
      else dedupOn (fun b => some (key b)) seen xs ++ [a] := by
  induction xs generalizing seen with
  | nil =>
      by_cases ha : key a ∈ seen
      · simp [dedupOn, ha]
      · simp [dedupOn, ha]
  | cons b rest ih =>
      -- The list is run through from the front, the new element stands at its end.
      have hold (hb : key b ∈ seen) (zs : List α) : dedupOn (fun c => some (key c)) seen (b :: zs) =
          dedupOn (fun c => some (key c)) seen zs :=
        @dedupOn_cons_seen α κ _ (fun c => some (key c)) seen b (key b) rfl hb zs
      have hnew (hb : key b ∉ seen) (zs : List α) : dedupOn (fun c => some (key c)) seen (b :: zs) =
          b :: dedupOn (fun c => some (key c)) (key b :: seen) zs :=
        @dedupOn_cons_new α κ _ (fun c => some (key c)) seen b (key b) rfl hb zs
      rw [List.cons_append]
      by_cases hb : key b ∈ seen
      · rw [hold hb, hold hb, ih]
        refine if_congr ?_ rfl rfl
        rw [List.map_cons, List.mem_cons]
        -- The key of the first element was seen before.
        refine ⟨fun h => h.imp_right .inr, fun h => h.elim .inl (fun h => h.elim ?_ .inr)⟩
        exact fun heq => .inl (heq ▸ hb)
      · rw [hnew hb, hnew hb, ih, List.map_cons]
        have hiff : key a ∈ key b :: seen ∨ key a ∈ rest.map key ↔
            key a ∈ seen ∨ key a ∈ key b :: rest.map key := by
          simp only [List.mem_cons]
          tauto
        by_cases ha : key a ∈ key b :: seen ∨ key a ∈ rest.map key
        · rw [if_pos ha, if_pos (hiff.mp ha)]
        · rw [if_neg ha, if_neg (fun h => ha (hiff.mpr h)), List.cons_append]

/-- An element is kept as the first of its key. -/
theorem firstsOn_concat (key : α → κ) (xs : List α) (a : α) :
    firstsOn key (xs ++ [a]) =
      if key a ∈ xs.map key then firstsOn key xs else firstsOn key xs ++ [a] := by
  rw [firstsOn, dedupOn_key_concat]
  exact if_congr (or_iff_right List.not_mem_nil) rfl rfl

theorem firstsOn_sublist (key : α → κ) (xs : List α) : (firstsOn key xs).Sublist xs :=
  dedupOn_sublist [] xs

theorem firstsOn_nodup (key : α → κ) (xs : List α) : ((firstsOn key xs).map key).Nodup := by
  have h : ((firstsOn key xs).filterMap (fun a => some (key a))).Nodup := (dedupOn_nodup [] xs).1
  rwa [List.filterMap_eq_map'] at h

theorem mem_map_firstsOn (key : α → κ) (xs : List α) (k : κ) :
    k ∈ (firstsOn key xs).map key ↔ k ∈ xs.map key := by
  induction xs using List.reverseRecOn generalizing k with
  | nil => exact Iff.rfl
  | append_singleton ys y ih =>
      rw [firstsOn_concat, List.map_append, List.map_singleton, List.mem_append,
        List.mem_singleton]
      -- An element whose key was there before is not kept, but its key is.
      by_cases hy : key y ∈ ys.map key
      · rw [if_pos hy, ih]
        exact ⟨.inl, fun h => h.elim (fun h => h) (fun h => h ▸ hy)⟩
      · rw [if_neg hy, List.map_append, List.map_singleton, List.mem_append, List.mem_singleton,
          ih]

theorem exists_mem_firstsOn (key : α → κ) {a : α} (ha : a ∈ xs) :
    ∃ b ∈ firstsOn key xs, key b = key a :=
  List.mem_map.mp ((mem_map_firstsOn key xs (key a)).mpr (List.mem_map_of_mem ha))

theorem total_concat (key : α → κ) (weight : α → ℚ) (xs : List α) (a : α) (k : κ) :
    total key weight (xs ++ [a]) k =
      total key weight xs k + if key a = k then weight a else 0 := by
  rw [total, total, List.filter_append, List.map_append, List.sum_append]
  by_cases hk : key a = k
  · simp [hk]
  · simp [hk]

/-- A key nothing has weighs nothing. -/
theorem total_of_not_mem {k : κ} (h : k ∉ xs.map key) : total key weight xs k = 0 := by
  have hnone : xs.filter (fun a => key a = k) = [] := by
    refine List.filter_eq_nil_iff.mpr (fun a ha hk => h ?_)
    exact List.mem_map.mpr ⟨a, ha, of_decide_eq_true hk⟩
  rw [total, hnone]
  rfl

theorem accumulate_concat (key : α → κ) (weight : α → ℚ) (xs : List α) (a : α) :
    accumulate key weight (xs ++ [a]) = dictSet (key a)
      (((accumulate key weight xs).lookup (key a)).getD 0 + weight a)
      (accumulate key weight xs) := by
  rw [accumulate, List.foldl_append, List.foldl_cons, List.foldl_nil, ← accumulate]

theorem lookup_accumulate (key : α → κ) (weight : α → ℚ) (xs : List α) (k : κ) :
    (accumulate key weight xs).lookup k =
      if k ∈ xs.map key then some (total key weight xs k) else none := by
  induction xs using List.reverseRecOn generalizing k with
  | nil => rfl
  | append_singleton ys y ih =>
      rw [accumulate_concat, lookup_dictSet, ih, ih, total_concat, List.map_append,
        List.map_singleton]
      -- Only the score of the last element's key changes.
      by_cases hk : k = key y
      · subst hk
        by_cases hy : key y ∈ ys.map key
        · simp [hy]
        · simp [hy, total_of_not_mem hy]
      · have hk' : ¬ key y = k := fun h => hk h.symm
        simp [hk, hk']

theorem keys_accumulate (key : α → κ) (weight : α → ℚ) (xs : List α) :
    (accumulate key weight xs).map Prod.fst = (firstsOn key xs).map key := by
  induction xs using List.reverseRecOn with
  | nil => rfl
  | append_singleton ys y ih =>
      rw [accumulate_concat, keys_dictSet, ih, firstsOn_concat]
      -- A key that is there stays in its place, a new one comes last.
      by_cases hy : key y ∈ ys.map key
      · rw [if_pos hy, if_pos ((mem_map_firstsOn key ys (key y)).mpr hy)]
      · rw [if_neg hy, if_neg (fun h => hy ((mem_map_firstsOn key ys (key y)).mp h)),
          List.map_append, List.map_singleton]

theorem lookup_map_firstsOn (value : α → β) {a : α} (ha : a ∈ firstsOn key xs) :
    ((firstsOn key xs).map (fun b => (key b, value b))).lookup (key a) = some (value a) := by
  refine lookup_of_mem _ ?_ (List.mem_map.mpr ⟨a, ha, rfl⟩)
  rw [List.map_map]
  exact firstsOn_nodup key xs

/-- The mapping of scores holds each key once, with its score. -/
theorem accumulate_eq (key : α → κ) (weight : α → ℚ) (xs : List α) :
    accumulate key weight xs =
      (firstsOn key xs).map (fun a => (key a, total key weight xs (key a))) := by
  have hkeys := keys_accumulate key weight xs
  -- Two mappings with the same keys in the same order, and the same values.
  refine dict_ext ?_ ?_ (fun k => ?_)
  · rw [hkeys, List.map_map]
    rfl
  · rw [hkeys]
    exact firstsOn_nodup key xs
  · rw [lookup_accumulate]
    by_cases hk : k ∈ xs.map key
    · rcases List.mem_map.mp ((mem_map_firstsOn key xs k).mpr hk) with ⟨a, ha, rfl⟩
      rw [if_pos hk, lookup_map_firstsOn _ ha]
    · rw [if_neg hk, lookup_eq_none_of_not_mem]
      rw [List.map_map]
      exact fun h => hk ((mem_map_firstsOn key xs k).mp h)

/-- The mapping of first values holds each key once, with its first value. -/
theorem keepFirst_eq (key : α → κ) (value : α → β) (xs : List α) :
    keepFirst key value xs = (firstsOn key xs).map (fun a => (key a, value a)) := by
  induction xs using List.reverseRecOn with
  | nil => rfl
  | append_singleton ys y ih =>
      have hkeys : ((firstsOn key ys).map (fun a => (key a, value a))).map Prod.fst =
          (firstsOn key ys).map key := by
        rw [List.map_map]
        rfl
      rw [keepFirst, List.foldl_append, List.foldl_cons, List.foldl_nil, ← keepFirst, ih,
        firstsOn_concat, hkeys]
      by_cases hy : key y ∈ ys.map key
      · rw [if_pos hy, if_pos ((mem_map_firstsOn key ys (key y)).mpr hy)]
      · have hnew : key y ∉ (firstsOn key ys).map key :=
          fun h => hy ((mem_map_firstsOn key ys (key y)).mp h)
        rw [if_neg hy, if_neg hnew, dictSet_of_not_mem _ (hkeys ▸ hnew), List.map_append,
          List.map_singleton]

/-- The keys of the merge, each once. -/
theorem fused_perm (key : α → κ) (weight : α → ℚ) (xs : List α) :
    (fused key weight xs).Perm (firstsOn key xs) :=
  sortDesc_perm _ _

section Keys

variable {key' : α → ι}

theorem firstsOn_congr (h : ∀ a ∈ xs, ∀ b ∈ xs, key a = key b ↔ key' a = key' b) :
    firstsOn key xs = firstsOn key' xs := by
  induction xs using List.reverseRecOn with
  | nil => rfl
  | append_singleton ys y ih =>
      have hold : ∀ a ∈ ys, a ∈ ys ++ [y] := fun a ha => List.mem_append_left _ ha
      have hy : y ∈ ys ++ [y] := List.mem_append_right _ List.mem_cons_self
      have hmem : key y ∈ ys.map key ↔ key' y ∈ ys.map key' := by
        simp only [List.mem_map]
        exact ⟨fun ⟨a, ha, heq⟩ => ⟨a, ha, (h a (hold a ha) y hy).mp heq⟩,
          fun ⟨a, ha, heq⟩ => ⟨a, ha, (h a (hold a ha) y hy).mpr heq⟩⟩
      rw [firstsOn_concat, firstsOn_concat, ih (fun a ha b hb => h a (hold a ha) b (hold b hb))]
      exact if_congr hmem rfl rfl

theorem total_congr (h : ∀ a ∈ xs, ∀ b ∈ xs, key a = key b ↔ key' a = key' b) {a : α}
    (ha : a ∈ xs) : total key weight xs (key a) = total key' weight xs (key' a) := by
  rw [total, total, List.filter_congr (fun b hb => decide_eq_decide.mpr (h b hb a ha))]

/-- Keys that tell the same elements apart give the same merge. -/
theorem fused_congr (h : ∀ a ∈ xs, ∀ b ∈ xs, key a = key b ↔ key' a = key' b) :
    fused key weight xs = fused key' weight xs := by
  rw [fused, fused, ← firstsOn_congr h]
  exact sortDesc_congr (fun a ha => total_congr h ((firstsOn_sublist key xs).subset ha))

end Keys

theorem total_append (key : α → κ) (weight : α → ℚ) (xs ys : List α) (k : κ) :
    total key weight (xs ++ ys) k = total key weight xs k + total key weight ys k := by
  rw [total, List.filter_append, List.map_append, List.sum_append]
  rfl

/-- Where no key comes twice, a score is a single weight. -/
theorem total_le_of_nodup {bound : ℚ} (hbound : 0 ≤ bound) (hweight : ∀ a ∈ xs, weight a ≤ bound)
    (hnodup : (xs.map key).Nodup) (k : κ) : total key weight xs k ≤ bound := by
  induction xs with
  | nil => exact hbound
  | cons a rest ih =>
      rw [List.map_cons, List.nodup_cons] at hnodup
      have hrest := ih (fun b hb => hweight b (List.mem_cons_of_mem a hb)) hnodup.2
      rw [← List.singleton_append, total_append]
      -- The key is that of the first element, or it is not and comes later.
      by_cases hk : key a = k
      · have hnone : total key weight rest k = 0 := total_of_not_mem (hk ▸ hnodup.1)
        rw [hnone, add_zero]
        simpa [total, hk] using hweight a List.mem_cons_self
      · simpa [total, hk] using hrest

end Fusion

section Places

variable {α κ : Type*} [DecidableEq κ]

/-- An element at a place in one of several lists. -/
structure Hit (α : Type*) where
  query : Nat
  rank : Nat
  doc : α
  deriving DecidableEq

/-- The elements of one list with their places. -/
def hitsOf (query : Nat) (docs : List α) : List (Hit α) :=
  docs.zipIdx.map (fun d => { query := query, rank := d.2, doc := d.1 })

/-- The elements of all lists, one list after the other. -/
def hits (lists : List (List α)) : List (Hit α) :=
  lists.zipIdx.flatMap (fun q => hitsOf q.2 q.1)

/-- The weight of a place. -/
def reciprocalRank (k : Int) (hit : Hit α) : ℚ := 1 / ((k : ℚ) + hit.rank + 1)

theorem map_doc_hitsOf (query : Nat) (docs : List α) : (hitsOf query docs).map Hit.doc = docs := by
  rw [hitsOf, List.map_map]
  exact List.zipIdx_map_fst 0 docs

theorem reciprocalRank_le {k : Nat} (hit : Hit α) : reciprocalRank k hit ≤ 1 / ((k : ℚ) + 1) := by
  have hk : (0 : ℚ) < (k : ℚ) + 1 := by positivity
  have hrank : (0 : ℚ) ≤ hit.rank := Nat.cast_nonneg _
  rw [reciprocalRank, Int.cast_natCast]
  exact one_div_le_one_div_of_le hk (by linarith)

/-- A score in several lists without repetition is at most as many shares of a first
    place. -/
theorem total_hits_le {k : Nat} {key : α → κ} {lists : List (List α)}
    (hnodup : ∀ docs ∈ lists, (docs.map key).Nodup) (x : κ) :
    total (fun hit : Hit α => key hit.doc) (reciprocalRank k) (hits lists) x ≤
      lists.length * (1 / ((k : ℚ) + 1)) := by
  have hshare : (0 : ℚ) ≤ 1 / ((k : ℚ) + 1) := by positivity
  -- The lists are counted from any number.
  have hfrom : ∀ n, total (fun hit : Hit α => key hit.doc) (reciprocalRank k)
      ((lists.zipIdx n).flatMap (fun q => hitsOf q.2 q.1)) x ≤
        lists.length * (1 / ((k : ℚ) + 1)) := by
    induction lists with
    | nil =>
        intro n
        simp [total]
    | cons docs rest ih =>
        intro n
        have hkeys : ((hitsOf n docs).map (fun hit => key hit.doc)).Nodup := by
          have hkeys := hnodup docs List.mem_cons_self
          rwa [← map_doc_hitsOf n docs, List.map_map] at hkeys
        have hdocs := total_le_of_nodup hshare (fun hit _ => reciprocalRank_le (k := k) hit) hkeys x
        have hrest := ih (fun d hd => hnodup d (List.mem_cons_of_mem docs hd)) (n + 1)
        rw [List.zipIdx_cons, List.flatMap_cons, total_append, List.length_cons]
        push_cast
        linarith
  exact hfrom 0

end Places

end Ordered

end AgenticRag

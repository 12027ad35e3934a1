import Mathlib.Algebra.GroupWithZero.Nat
import Mathlib.Data.List.Induction
import Mathlib.Data.List.Perm.Basic
import Mathlib.Data.List.Sort
import Mathlib.Logic.Function.Iterate
import Mathlib.Order.Defs.LinearOrder

/-!
# Ordered Collections

Sorting and grouping with the order of the input kept where the keys do not
decide, which is how a scripting language's built-in collections behave.

`sortDesc` sorts by falling key and is stable: elements with equal keys keep
the order they had. Two facts about it carry every ranking argument. A list
already in falling order is left alone (`sortDesc_of_pairwise`), so sorting
the same list a second time changes nothing; and cutting the sorted list
keeps nothing lighter than what it drops (`key_le_of_take_drop`).

`groupBy` collects a list into buckets, one per key, in the order the keys
first occur. It is built by appending to the bucket of the key, or opening a
new one at the end, and `mem_groupBy` says what comes out: the bucket of a
key is the sublist of the elements carrying it, and no bucket is empty.

`dictOf` builds a mapping that keeps the position a key was first given.
Setting a key again changes its value and leaves it in place.

`mapState` is a loop that rewrites a list from left to right and carries
something along, such as what is left of a budget.

## Main definitions

* `sortDesc`: The stable sort by falling key.
* `mapState`: The loop that rewrites a list and carries a state.

## Theorems

* `mapState_advance`, `getElem?_mapState_advance`: A loop that moves its state on by weights.
* `getElem?_filter_zipIdx`: Where a filter puts a position.
-/

namespace AgenticRag

namespace Ordered

section Sorting

variable {α κ : Type*} [LinearOrder κ] (key : α → κ)

/-- The stable sort by falling key. -/
def sortDesc (xs : List α) : List α :=
  xs.insertionSort (fun a b => key b ≤ key a)

theorem sortDesc_perm (xs : List α) : (sortDesc key xs).Perm xs :=
  List.perm_insertionSort _ xs

@[simp] theorem mem_sortDesc {a : α} {xs : List α} : a ∈ sortDesc key xs ↔ a ∈ xs :=
  (sortDesc_perm key xs).mem_iff

theorem sortDesc_pairwise (xs : List α) :
    (sortDesc key xs).Pairwise (fun a b => key b ≤ key a) := by
  have : Std.Total (fun a b : α => key b ≤ key a) := ⟨fun a b => le_total (key b) (key a)⟩
  have : IsTrans α (fun a b => key b ≤ key a) := ⟨fun _ _ _ hab hbc => le_trans hbc hab⟩
  exact List.pairwise_insertionSort _ xs

theorem sortDesc_of_pairwise {xs : List α} (h : xs.Pairwise (fun a b => key b ≤ key a)) :
    sortDesc key xs = xs :=
  h.insertionSort_eq

/-- Cutting a list in falling order keeps nothing lighter than what it
    drops. -/
theorem key_le_of_take_drop {xs : List α} (h : xs.Pairwise (fun a b => key b ≤ key a))
    (n : Nat) {a b : α} (ha : a ∈ xs.take n) (hb : b ∈ xs.drop n) : key b ≤ key a := by
  rw [← List.take_append_drop n xs, List.pairwise_append] at h
  exact h.2.2 a ha b hb

/-- Elements with one key keep their order. -/
theorem filter_sortDesc (k : κ) (xs : List α) :
    (sortDesc key xs).filter (fun a => key a = k) = xs.filter (fun a => key a = k) := by
  have hequal : (xs.filter (fun a => key a = k)).Pairwise (fun a b => key b ≤ key a) := by
    have hall : (xs.filter (fun a => key a = k)).Pairwise (fun _ _ => True) :=
      List.pairwise_of_forall (fun _ _ => trivial)
    refine hall.imp_of_mem (fun ha hb _ => ?_)
    rw [of_decide_eq_true (List.mem_filter.mp ha).2, of_decide_eq_true (List.mem_filter.mp hb).2]
  have hsub : (xs.filter (fun a => key a = k)).Sublist (sortDesc key xs) :=
    List.sublist_insertionSort hequal List.filter_sublist
  have hfilter := hsub.filter (fun a => decide (key a = k))
  rw [List.filter_filter] at hfilter
  simp only [Bool.and_self] at hfilter
  exact (hfilter.eq_of_length ((sortDesc_perm key xs).filter _).length_eq.symm).symm

/-- Of two elements with one key, the first in the sorted list came first. -/
theorem pair_sublist_of_sortDesc {xs : List α} {a b : α} (hkey : key a = key b)
    (h : [a, b].Sublist (sortDesc key xs)) : [a, b].Sublist xs := by
  have hpair : [a, b].filter (fun x => key x = key b) = [a, b] := by
    simp [hkey]
  have hfilter := h.filter (fun x => decide (key x = key b))
  rw [hpair, filter_sortDesc] at hfilter
  exact hfilter.trans List.filter_sublist

end Sorting

section Determined

variable {α β γ : Type*} [DecidableEq β]

/-- What is determined by a key is permuted along with the key. -/
theorem perm_map_of_determined {f : α → β} {g : α → γ} {xs ys : List α}
    (hdet : ∀ a ∈ xs ++ ys, ∀ b ∈ xs ++ ys, f a = f b → g a = g b)
    (h : (xs.map f).Perm (ys.map f)) : (xs.map g).Perm (ys.map g) := by
  -- Reading the value of a key off either list gives the same.
  let read : β → Option γ := fun k => ((xs ++ ys).find? (fun a => f a = k)).map g
  have hread : ∀ a ∈ xs ++ ys, read (f a) = some (g a) := by
    intro a ha
    cases hfind : (xs ++ ys).find? (fun b => f b = f a) with
    | none =>
        have hnone := List.find?_eq_none.mp hfind a ha
        simp at hnone
    | some b =>
        have hkey : f b = f a := by simpa using List.find?_some hfind
        have hval := hdet b (List.mem_of_find?_eq_some hfind) a ha hkey
        simp only [read, hfind, Option.map_some, hval]
  have hmap : ∀ zs ⊆ xs ++ ys, (zs.map f).map read = (zs.map g).map some := by
    intro zs hzs
    rw [List.map_map, List.map_map]
    exact List.map_congr_left (fun a ha => hread a (hzs ha))
  rw [← List.map_perm_map_iff (Option.some_injective γ),
    ← hmap xs (List.subset_append_left xs ys), ← hmap ys (List.subset_append_right xs ys)]
  exact h.map read

end Determined

section Grouping

variable {α κ : Type*} [DecidableEq κ]

/-- Append an element to the bucket of its key, opening the bucket at the end
    if the key is new. -/
def push (k : κ) (x : α) : List (κ × List α) → List (κ × List α)
  | [] => [(k, [x])]
  | (k', xs) :: rest => if k' = k then (k', xs ++ [x]) :: rest else (k', xs) :: push k x rest

/-- The buckets of a list, in the order their keys first occur. -/
def groupBy (key : α → κ) (xs : List α) : List (κ × List α) :=
  xs.foldl (fun d x => push (key x) x d) []

theorem groupBy_concat (key : α → κ) (xs : List α) (x : α) :
    groupBy key (xs ++ [x]) = push (key x) x (groupBy key xs) := by
  simp only [groupBy, List.foldl_append, List.foldl_cons, List.foldl_nil]

theorem mem_keys_push (k : κ) (x : α) (d : List (κ × List α)) (j : κ) :
    j ∈ (push k x d).map Prod.fst ↔ j = k ∨ j ∈ d.map Prod.fst := by
  induction d with
  | nil => simp only [push, List.map_cons, List.map_nil, List.mem_singleton, List.not_mem_nil,
      or_false]
  | cons p rest ih =>
      rcases p with ⟨k', ys⟩
      by_cases hk : k' = k
      · subst hk
        rw [push, if_pos rfl, List.map_cons, List.map_cons, List.mem_cons]
        tauto
      · simp only [push, if_neg hk, List.map_cons, List.mem_cons] at ih ⊢
        rw [ih]
        tauto

theorem keys_push_nodup (k : κ) (x : α) (d : List (κ × List α))
    (h : (d.map Prod.fst).Nodup) : ((push k x d).map Prod.fst).Nodup := by
  induction d with
  | nil => simp only [push, List.map_cons, List.map_nil, List.nodup_singleton]
  | cons p rest ih =>
      rcases p with ⟨k', ys⟩
      rw [List.map_cons, List.nodup_cons] at h
      by_cases hk : k' = k
      · simp only [push, if_pos hk, List.map_cons, List.nodup_cons]
        exact h
      · simp only [push, if_neg hk, List.map_cons, List.nodup_cons]
        refine ⟨fun hmem => ?_, ih h.2⟩
        rcases (mem_keys_push k x rest k').mp hmem with heq | hin
        · exact hk heq
        · exact h.1 hin

theorem groupBy_keys_nodup (key : α → κ) (xs : List α) :
    ((groupBy key xs).map Prod.fst).Nodup := by
  induction xs using List.reverseRecOn with
  | nil => exact List.nodup_nil
  | append_singleton ys y ih =>
      rw [groupBy_concat]
      exact keys_push_nodup _ _ _ ih

theorem mem_keys_groupBy (key : α → κ) (xs : List α) (k : κ) :
    k ∈ (groupBy key xs).map Prod.fst ↔ ∃ x ∈ xs, key x = k := by
  induction xs using List.reverseRecOn with
  | nil => simp only [groupBy, List.foldl_nil, List.map_nil, List.not_mem_nil, false_and,
      exists_false]
  | append_singleton ys y ih =>
      rw [groupBy_concat, mem_keys_push, ih]
      simp only [List.mem_append, List.mem_singleton]
      -- The key is that of the new element, or was there before.
      constructor
      · rintro (rfl | ⟨x, hx, rfl⟩)
        · exact ⟨y, Or.inr rfl, rfl⟩
        · exact ⟨x, Or.inl hx, rfl⟩
      · rintro ⟨x, hx | rfl, rfl⟩
        · exact Or.inr ⟨x, hx, rfl⟩
        · exact Or.inl rfl

/-- Pushing changes the bucket of the key and leaves the others alone. -/
theorem lookup_push (k : κ) (x : α) (d : List (κ × List α)) (j : κ) :
    (push k x d).lookup j =
      if j = k then some ((d.lookup k).getD [] ++ [x]) else d.lookup j := by
  induction d with
  | nil =>
      by_cases hj : j = k
      · simp [push, hj]
      · simp [push, hj, List.lookup_cons, beq_eq_false_iff_ne.mpr hj]
  | cons p rest ih =>
      rcases p with ⟨k', ys⟩
      by_cases hk : k' = k
      · subst hk
        by_cases hj : j = k'
        · subst hj
          simp [push]
        · simp [push, hj, List.lookup_cons, beq_eq_false_iff_ne.mpr hj]
      -- The bucket at hand is another one, so the search passes it by.
      · have hkk : (k == k') = false := beq_eq_false_iff_ne.mpr (fun h => hk h.symm)
        simp only [push, if_neg hk, List.lookup_cons, hkk]
        by_cases hj : j = k'
        · subst hj
          rw [if_neg hk]
          simp
        · rw [beq_eq_false_iff_ne.mpr hj]
          exact ih

/-- Looking a key up among the buckets finds the elements carrying it, or
    nothing when there are none. -/
theorem lookup_groupBy (key : α → κ) (xs : List α) (k : κ) :
    ((groupBy key xs).lookup k).getD [] = xs.filter (fun x => key x = k) := by
  induction xs using List.reverseRecOn with
  | nil => simp [groupBy]
  | append_singleton ys y ih =>
      rw [groupBy_concat, lookup_push, List.filter_append]
      -- The new element lands in the bucket of its key and in no other.
      by_cases hk : k = key y
      · subst hk
        rw [if_pos rfl, ih]
        simp
      · rw [if_neg hk, ih]
        have hne : ¬ key y = k := fun h => hk h.symm
        simp [hne]

theorem lookup_of_mem {β : Type*} (d : List (κ × β)) (hd : (d.map Prod.fst).Nodup)
    {k : κ} {v : β} (h : (k, v) ∈ d) : d.lookup k = some v := by
  induction d with
  | nil => exact absurd h List.not_mem_nil
  | cons p rest ih =>
      rcases p with ⟨k', w⟩
      rw [List.map_cons, List.nodup_cons] at hd
      rcases List.mem_cons.mp h with heq | hin
      · cases heq
        simp
      -- The keys are different, so an earlier pair cannot have this one.
      · have hne : k ≠ k' := by
          rintro rfl
          exact hd.1 (List.mem_map.mpr ⟨(k, v), hin, rfl⟩)
        simp only [List.lookup_cons, beq_eq_false_iff_ne.mpr hne]
        exact ih hd.2 hin

/-- The bucket of a key is the sublist of the elements carrying it, and no
    bucket is empty. -/
theorem mem_groupBy (key : α → κ) (xs : List α) (k : κ) (g : List α)
    (h : (k, g) ∈ groupBy key xs) : g = xs.filter (fun x => key x = k) ∧ g ≠ [] := by
  have hlook := lookup_of_mem _ (groupBy_keys_nodup key xs) h
  have hg : g = xs.filter (fun x => key x = k) := by
    rw [← lookup_groupBy, hlook, Option.getD_some]
  refine ⟨hg, ?_⟩
  -- A bucket is opened by the element that is put into it.
  rcases (mem_keys_groupBy key xs k).mp (List.mem_map_of_mem (f := Prod.fst) h) with
    ⟨x, hx, hxk⟩
  rw [hg]
  exact List.ne_nil_of_mem (List.mem_filter.mpr ⟨hx, by simpa using hxk⟩)

theorem push_flatMap_perm (k : κ) (x : α) (d : List (κ × List α)) :
    ((push k x d).flatMap Prod.snd).Perm (d.flatMap Prod.snd ++ [x]) := by
  induction d with
  | nil => exact List.Perm.refl _
  | cons p rest ih =>
      rcases p with ⟨k', ys⟩
      rw [push]
      split_ifs
      · rw [List.flatMap_cons, List.flatMap_cons, List.append_assoc, List.append_assoc]
        exact (List.perm_append_comm).append_left ys
      · rw [List.flatMap_cons, List.flatMap_cons, List.append_assoc]
        exact ih.append_left ys

/-- Together the buckets hold what the list holds. -/
theorem groupBy_flatMap_perm (key : α → κ) (xs : List α) :
    ((groupBy key xs).flatMap Prod.snd).Perm xs := by
  induction xs using List.reverseRecOn with
  | nil => exact List.Perm.refl _
  | append_singleton ys y ih =>
      rw [groupBy_concat]
      exact (push_flatMap_perm _ _ _).trans (ih.append_right [y])

theorem push_map {β : Type*} (f : α → β) (k : κ) (x : α) (d : List (κ × List α)) :
    push k (f x) (d.map (fun g => (g.1, g.2.map f))) =
      (push k x d).map (fun g => (g.1, g.2.map f)) := by
  induction d with
  | nil => rfl
  | cons p rest ih =>
      rw [List.map_cons, push, push]
      split_ifs
      · rw [List.map_cons, List.map_append, List.map_singleton]
      · rw [ih, List.map_cons]

/-- Grouping images by what they are images of. -/
theorem groupBy_map {β : Type*} (f : α → β) (key : β → κ) (xs : List α) :
    groupBy key (xs.map f) =
      (groupBy (fun x => key (f x)) xs).map (fun g => (g.1, g.2.map f)) := by
  induction xs using List.reverseRecOn with
  | nil => rfl
  | append_singleton ys y ih =>
      rw [List.map_append, List.map_singleton, groupBy_concat, groupBy_concat, ih, push_map]

/-- A key has no value exactly if it is not among the keys. -/
theorem lookup_eq_none_iff_not_mem {β : Type*} {d : List (κ × β)} {k : κ} :
    d.lookup k = none ↔ k ∉ d.map Prod.fst := by
  rw [List.lookup_eq_none_iff]
  constructor
  · intro h hk
    rcases List.mem_map.mp hk with ⟨p, hp, rfl⟩
    exact bne_iff_ne.mp (h p hp) rfl
  · intro h p hp
    exact bne_iff_ne.mpr fun heq => h (List.mem_map.mpr ⟨p, hp, heq.symm⟩)

/-- Of a list with different keys, only the bucket of one key is left when
    the others are left out. -/
theorem flatMap_bucket {β : Type*} (d : List (κ × List α)) (hd : (d.map Prod.fst).Nodup) (k : κ)
    (f : List α → List β) (hf : f [] = []) :
    d.flatMap (fun g => if g.1 = k then f g.2 else []) = f ((d.lookup k).getD []) := by
  induction d with
  | nil => simp [hf]
  | cons p rest ih =>
      rcases p with ⟨j, g⟩
      rw [List.map_cons, List.nodup_cons] at hd
      rw [List.flatMap_cons, ih hd.2]
      by_cases hj : j = k
      -- This is the bucket, and the keys behind it are different.
      · have hnone : rest.lookup k = none := lookup_eq_none_iff_not_mem.mpr (hj ▸ hd.1)
        simp [hj, hnone, hf]
      · have hne : (k == j) = false := beq_eq_false_iff_ne.mpr (fun h => hj h.symm)
        simp [hj, List.lookup_cons, hne]

end Grouping

section Dictionaries

variable {β κ : Type*} [DecidableEq κ]

/-- Set a key: its value changes in place, or the pair goes to the end. -/
def dictSet (k : κ) (v : β) : List (κ × β) → List (κ × β)
  | [] => [(k, v)]
  | (k', w) :: rest => if k' = k then (k', v) :: rest else (k', w) :: dictSet k v rest

/-- The mapping built from a list of pairs, the last value of a key winning. -/
def dictOf (kvs : List (κ × β)) : List (κ × β) :=
  kvs.foldl (fun d kv => dictSet kv.1 kv.2 d) []

theorem mem_dictSet (k : κ) (v : β) (d : List (κ × β)) (p : κ × β)
    (h : p ∈ dictSet k v d) : p = (k, v) ∨ p ∈ d := by
  induction d with
  | nil => exact Or.inl (List.mem_singleton.mp h)
  | cons q rest ih =>
      rcases q with ⟨k', w⟩
      by_cases hk : k' = k
      · rw [dictSet, if_pos hk, List.mem_cons] at h
        rcases h with rfl | h
        · exact Or.inl (by rw [hk])
        · exact Or.inr (List.mem_cons_of_mem _ h)
      · rw [dictSet, if_neg hk, List.mem_cons] at h
        rcases h with rfl | h
        · exact Or.inr List.mem_cons_self
        · exact (ih h).imp id (List.mem_cons_of_mem _)

/-- Setting a key adds it, if it is new. -/
theorem mem_keys_dictSet (k : κ) (v : β) (d : List (κ × β)) (j : κ) :
    j ∈ (dictSet k v d).map Prod.fst ↔ j = k ∨ j ∈ d.map Prod.fst := by
  induction d with
  | nil => simp [dictSet]
  | cons q rest ih =>
      rcases q with ⟨k', w⟩
      by_cases hk : k' = k
      · rw [dictSet, if_pos hk, hk, List.map_cons, List.map_cons, List.mem_cons]
        simp
      · rw [dictSet, if_neg hk, List.map_cons, List.map_cons, List.mem_cons, List.mem_cons, ih]
        exact or_left_comm

/-- A key that was set has the new value, and the others what they had. -/
theorem lookup_dictSet (k : κ) (v : β) (d : List (κ × β)) (j : κ) :
    (dictSet k v d).lookup j = if j = k then some v else d.lookup j := by
  induction d with
  | nil =>
      by_cases hj : j = k
      · simp [dictSet, hj]
      · simp [dictSet, hj, List.lookup_cons, beq_eq_false_iff_ne.mpr hj]
  | cons q rest ih =>
      rcases q with ⟨k', w⟩
      by_cases hk : k' = k
      · rw [dictSet, if_pos hk, hk, List.lookup_cons, List.lookup_cons]
        by_cases hj : j = k
        · simp [hj]
        · simp [hj, beq_eq_false_iff_ne.mpr hj]
      · rw [dictSet, if_neg hk, List.lookup_cons, List.lookup_cons, ih]
        by_cases hj : j = k'
        · simp [hj, hk]
        · simp [beq_eq_false_iff_ne.mpr hj]

/-- Setting a key makes no key stand twice. -/
theorem keys_dictSet_nodup (k : κ) (v : β) {d : List (κ × β)} (h : (d.map Prod.fst).Nodup) :
    ((dictSet k v d).map Prod.fst).Nodup := by
  induction d with
  | nil => simp [dictSet]
  | cons q rest ih =>
      rcases q with ⟨k', w⟩
      rw [List.map_cons, List.nodup_cons] at h
      by_cases hk : k' = k
      · rw [dictSet, if_pos hk, List.map_cons, List.nodup_cons]
        exact h
      · rw [dictSet, if_neg hk, List.map_cons, List.nodup_cons, mem_keys_dictSet]
        exact ⟨fun hmem => hmem.elim hk h.1, ih h.2⟩

/-- A key a mapping does not have has no value. -/
theorem lookup_eq_none_of_not_mem {d : List (κ × β)} {k : κ} (h : k ∉ d.map Prod.fst) :
    d.lookup k = none := lookup_eq_none_iff_not_mem.mpr h

/-- Set every key of a second mapping in a first. -/
def dictUpdate (d e : List (κ × β)) : List (κ × β) :=
  e.foldl (fun d kv => dictSet kv.1 kv.2 d) d

theorem keys_dictUpdate_nodup {d : List (κ × β)} (e : List (κ × β))
    (h : (d.map Prod.fst).Nodup) : ((dictUpdate d e).map Prod.fst).Nodup := by
  unfold dictUpdate
  induction e generalizing d with
  | nil => exact h
  | cons kv rest ih => exact ih (keys_dictSet_nodup kv.1 kv.2 h)

theorem mem_keys_dictUpdate (d e : List (κ × β)) (j : κ) :
    j ∈ (dictUpdate d e).map Prod.fst ↔ j ∈ d.map Prod.fst ∨ j ∈ e.map Prod.fst := by
  unfold dictUpdate
  induction e generalizing d with
  | nil => simp
  | cons kv rest ih =>
      rw [List.foldl_cons, ih, mem_keys_dictSet, List.map_cons, List.mem_cons, or_assoc,
        or_left_comm]

/-- After an update a key has the value of the second mapping, if it has one
    there, and else that of the first. -/
theorem lookup_dictUpdate (d : List (κ × β)) {e : List (κ × β)} (h : (e.map Prod.fst).Nodup)
    (j : κ) : (dictUpdate d e).lookup j = (e.lookup j).or (d.lookup j) := by
  unfold dictUpdate
  induction e generalizing d with
  | nil => simp
  | cons kv rest ih =>
      rcases kv with ⟨k, v⟩
      rw [List.map_cons, List.nodup_cons] at h
      rw [List.foldl_cons, ih _ h.2, lookup_dictSet, List.lookup_cons]
      by_cases hj : j = k
      · -- The key does not come again.
        have hnone : rest.lookup k = none := lookup_eq_none_of_not_mem h.1
        simp [hj, hnone]
      · simp [hj, beq_eq_false_iff_ne.mpr hj]

/-- Without keys that stand once, the last value in the second counts. -/
theorem lookup_dictUpdate_dictOf (d e : List (κ × β)) (j : κ) :
    (dictUpdate d e).lookup j = ((dictOf e).lookup j).or (d.lookup j) := by
  induction e using List.reverseRecOn with
  | nil => rfl
  | append_singleton es kv ih =>
      have hupdate : dictUpdate d (es ++ [kv]) = dictSet kv.1 kv.2 (dictUpdate d es) := by
        simp only [dictUpdate, List.foldl_append, List.foldl_cons, List.foldl_nil]
      have hof : dictOf (es ++ [kv]) = dictSet kv.1 kv.2 (dictOf es) := by
        simp only [dictOf, List.foldl_append, List.foldl_cons, List.foldl_nil]
      rw [hupdate, hof, lookup_dictSet, lookup_dictSet]
      by_cases hj : j = kv.1
      · rw [if_pos hj, if_pos hj]
        rfl
      · rw [if_neg hj, if_neg hj, ih]

/-- A mapping holds only the pairs it was built from. -/
theorem mem_dictOf (kvs : List (κ × β)) (p : κ × β) (h : p ∈ dictOf kvs) : p ∈ kvs := by
  induction kvs using List.reverseRecOn with
  | nil => exact absurd h List.not_mem_nil
  | append_singleton ys y ih =>
      have hstep : dictOf (ys ++ [y]) = dictSet y.1 y.2 (dictOf ys) := by
        simp only [dictOf, List.foldl_append, List.foldl_cons, List.foldl_nil]
      rw [hstep] at h
      rcases mem_dictSet _ _ _ _ h with rfl | hin
      · exact List.mem_append_right _ (List.mem_singleton.mpr rfl)
      · exact List.mem_append_left _ (ih hin)

/-- The value set last is the one that is kept. -/
theorem dictSet_dictSet (k : κ) (v w : β) (d : List (κ × β)) :
    dictSet k v (dictSet k w d) = dictSet k v d := by
  induction d with
  | nil => rw [dictSet.eq_1 k w, dictSet.eq_1, dictSet, if_pos rfl]
  | cons kv rest ih =>
      by_cases hk : kv.1 = k
      · rw [dictSet, if_pos hk, dictSet, if_pos hk, dictSet, if_pos hk]
      · rw [dictSet, if_neg hk, dictSet, if_neg hk, ih, dictSet, if_neg hk]

theorem dictSet_of_not_mem {k : κ} (v : β) {d : List (κ × β)} (h : k ∉ d.map Prod.fst) :
    dictSet k v d = d ++ [(k, v)] := by
  induction d with
  | nil => rfl
  | cons q rest ih =>
      rcases q with ⟨k', w⟩
      rw [List.map_cons, List.mem_cons, not_or] at h
      rw [dictSet, if_neg (fun heq => h.1 heq.symm), ih h.2, List.cons_append]

/-- An update holds only the pairs of its parts. -/
theorem mem_dictUpdate {d e : List (κ × β)} {p : κ × β} (h : p ∈ dictUpdate d e) :
    p ∈ d ∨ p ∈ e := by
  induction e using List.reverseRecOn with
  | nil => exact .inl h
  | append_singleton es kv ih =>
      have hstep : dictUpdate d (es ++ [kv]) = dictSet kv.1 kv.2 (dictUpdate d es) := by
        simp only [dictUpdate, List.foldl_append, List.foldl_cons, List.foldl_nil]
      rw [hstep] at h
      rcases mem_dictSet _ _ _ _ h with rfl | hin
      · exact .inr (List.mem_append_right _ (List.mem_singleton.mpr rfl))
      · exact (ih hin).imp_right (List.mem_append_left _)

/-- An update with new and different keys adds its pairs at the end. -/
theorem dictUpdate_of_nodup {d e : List (κ × β)}
    (h : (d.map Prod.fst ++ e.map Prod.fst).Nodup) : dictUpdate d e = d ++ e := by
  unfold dictUpdate
  induction e generalizing d with
  | nil => rw [List.foldl_nil, List.append_nil]
  | cons kv rest ih =>
      have hnew : kv.1 ∉ d.map Prod.fst := fun hmem =>
        (List.nodup_append.mp h).2.2 kv.1 hmem kv.1 List.mem_cons_self rfl
      rw [List.map_cons, List.append_cons] at h
      rw [List.foldl_cons, dictSet_of_not_mem kv.2 hnew, ih (by rwa [List.map_append]),
        ← List.append_cons]

/-- Pairs with different keys are a mapping as they are. -/
theorem dictOf_of_nodup {kvs : List (κ × β)} (h : (kvs.map Prod.fst).Nodup) :
    dictOf kvs = kvs :=
  dictUpdate_of_nodup (d := []) h

theorem length_dictSet_le (k : κ) (v : β) (d : List (κ × β)) :
    (dictSet k v d).length ≤ d.length + 1 := by
  induction d with
  | nil => exact Nat.le_refl _
  | cons q rest ih =>
      rcases q with ⟨k', w⟩
      rw [dictSet]
      split
      · exact Nat.le_succ _
      · exact Nat.succ_le_succ ih

theorem length_dictOf_le (kvs : List (κ × β)) : (dictOf kvs).length ≤ kvs.length := by
  induction kvs using List.reverseRecOn with
  | nil => exact Nat.le_refl _
  | append_singleton ys y ih =>
      have hset := length_dictSet_le y.1 y.2 (dictOf ys)
      rw [dictOf, List.foldl_append, List.length_append]
      exact hset.trans (Nat.succ_le_succ ih)

/-- The keys after setting one depend on the keys before only. -/
theorem keys_dictSet (k : κ) (v : β) (d : List (κ × β)) :
    (dictSet k v d).map Prod.fst =
      if k ∈ d.map Prod.fst then d.map Prod.fst else d.map Prod.fst ++ [k] := by
  induction d with
  | nil => rfl
  | cons q rest ih =>
      rcases q with ⟨k', w⟩
      by_cases hk : k' = k
      · rw [dictSet, if_pos hk, if_pos (by simp [hk])]
        rfl
      · rw [dictSet, if_neg hk, List.map_cons, ih, List.map_cons]
        by_cases hmem : k ∈ rest.map Prod.fst
        · rw [if_pos hmem, if_pos (List.mem_cons_of_mem k' hmem)]
        · rw [if_neg hmem, if_neg (by simpa [Ne.symm hk] using hmem), List.cons_append]

/-- Mappings with the same keys in the same order are equal when they have the
    same values. -/
theorem dict_ext {d e : List (κ × β)} (hkeys : d.map Prod.fst = e.map Prod.fst)
    (hnodup : (d.map Prod.fst).Nodup) (h : ∀ k, d.lookup k = e.lookup k) : d = e := by
  induction d generalizing e with
  | nil =>
      cases e with
      | nil => rfl
      | cons q e => cases hkeys
  | cons p d ih =>
      cases e with
      | nil => cases hkeys
      | cons q e =>
          rcases p with ⟨k, v⟩
          rcases q with ⟨k', w⟩
          rw [List.map_cons, List.map_cons, List.cons.injEq] at hkeys
          rw [List.map_cons, List.nodup_cons] at hnodup
          rcases hkeys with ⟨rfl, hkeys⟩
          have hvalue : v = w := by
            have hk := h k
            rw [List.lookup_cons_self, List.lookup_cons_self] at hk
            exact Option.some.inj hk
          have hrest : ∀ j, d.lookup j = e.lookup j := by
            intro j
            by_cases hj : j = k
            · rw [hj, lookup_eq_none_of_not_mem hnodup.1,
                lookup_eq_none_of_not_mem (hkeys ▸ hnodup.1)]
            · have hne : (j == k) = false := beq_eq_false_iff_ne.mpr hj
              have hj := h j
              rwa [List.lookup_cons, List.lookup_cons, hne] at hj
          rw [hvalue, ih hkeys hnodup.2 hrest]

/-- A loop that rewrites one key after the other, each from what it had,
    leaves at a key what the step for this key gives. -/
theorem lookup_foldl_update {φ : Type*} (key : φ → κ) {step : List (κ × β) → φ → List (κ × β)}
    (g : φ → Option β → Option β)
    (hstep : ∀ d f k, (step d f).lookup k = if k = key f then g f (d.lookup k) else d.lookup k)
    (fields : List φ) (hnodup : (fields.map key).Nodup) (d : List (κ × β)) (k : κ) :
    (fields.foldl step d).lookup k =
      (fields.find? (fun f => decide (key f = k))).elim (d.lookup k)
        (fun f => g f (d.lookup k)) := by
  induction fields generalizing d with
  | nil => rfl
  | cons f rest ih =>
      rw [List.map_cons, List.nodup_cons] at hnodup
      rw [List.foldl_cons, ih hnodup.2, hstep, List.find?_cons]
      by_cases hk : key f = k
      · -- The key does not come again.
        have hnone : rest.find? (fun f => decide (key f = k)) = none := by
          rw [List.find?_eq_none]
          intro f' hf'
          have hne : ¬ key f' = k := fun heq =>
            hnodup.1 (List.mem_map.mpr ⟨f', hf', heq.trans hk.symm⟩)
          simpa using hne
        simp [hnone, hk]
      · have hk' : ¬ k = key f := fun heq => hk heq.symm
        simp [hk, hk']

/-- A value that is looked up stands in the mapping. -/
theorem mem_of_lookup {ι : Type*} [BEq ι] [LawfulBEq ι] {d : List (ι × β)} {k : ι} {v : β}
    (h : d.lookup k = some v) : (k, v) ∈ d := by
  rcases List.lookup_eq_some_iff.mp h with ⟨l₁, l₂, heq, -⟩
  rw [heq]
  exact List.mem_append_right _ List.mem_cons_self

/-- A mapping with every value rewritten. -/
theorem lookup_map_value {γ : Type*} (g : κ → β → γ) (d : List (κ × β)) (k : κ) :
    (d.map (fun p => (p.1, g p.1 p.2))).lookup k = (d.lookup k).map (g k) := by
  induction d with
  | nil => rfl
  | cons p rest ih =>
      rw [List.map_cons, List.lookup_cons, List.lookup_cons, ih]
      cases hk : k == p.1 with
      | true => rw [eq_of_beq hk, Option.map_some]
      | false => rfl

/-- A mapping with one value under all of its keys. -/
theorem lookup_map_const (names : List κ) (v : β) (k : κ) :
    (names.map (fun name => (name, v))).lookup k = if k ∈ names then some v else none := by
  induction names with
  | nil => rfl
  | cons name names ih =>
      rw [List.map_cons, List.lookup_cons, ih]
      by_cases hk : k = name
      · simp [hk]
      · simp [hk, beq_eq_false_iff_ne.mpr hk]

/-- A mapping in which some keys are given one value. -/
theorem lookup_foldl_dictSet (names : List κ) (v : β) (d : List (κ × β)) (k : κ) :
    (names.foldl (fun d name => dictSet name v d) d).lookup k =
      if k ∈ names then some v else d.lookup k := by
  induction names generalizing d with
  | nil => simp
  | cons name names ih =>
      rw [List.foldl_cons, ih, lookup_dictSet]
      by_cases hmem : k ∈ names
      · simp [hmem]
      · by_cases hk : k = name
        · simp [hk]
        · simp [hk, hmem]

/-- A mapping that keeps some of its keys. -/
theorem lookup_filter_key (keep : κ → Bool) (d : List (κ × β)) (k : κ) :
    (d.filter (fun p => keep p.1)).lookup k = if keep k then d.lookup k else none := by
  induction d with
  | nil => simp
  | cons p rest ih =>
      rcases p with ⟨j, v⟩
      rw [List.filter_cons]
      by_cases hk : k = j
      · subst hk
        cases hkeep : keep k with
        | true => simp
        | false => simp [ih, hkeep]
      · have hne : (k == j) = false := beq_eq_false_iff_ne.mpr hk
        cases hkeep : keep j <;> simp [ih, List.lookup_cons, hne]

/-- Two mappings with the same value under every key hold the same pairs. -/
theorem perm_of_lookup_eq {d e : List (κ × β)} (hd : (d.map Prod.fst).Nodup)
    (he : (e.map Prod.fst).Nodup) (h : ∀ k, d.lookup k = e.lookup k) : d.Perm e := by
  refine (List.perm_ext_iff_of_nodup hd.of_map he.of_map).mpr ?_
  rintro ⟨k, v⟩
  constructor
  · intro hmem
    exact mem_of_lookup ((h k).symm.trans (lookup_of_mem d hd hmem))
  · intro hmem
    exact mem_of_lookup ((h k).trans (lookup_of_mem e he hmem))

/-- A key that is only ever given one value has that value. -/
theorem lookup_dictOf_of_mem {kvs : List (κ × β)} {k : κ} {v : β} (hmem : (k, v) ∈ kvs)
    (hdet : ∀ w, (k, w) ∈ kvs → w = v) : (dictOf kvs).lookup k = some v := by
  have hkey : k ∈ (dictOf kvs).map Prod.fst :=
    (mem_keys_dictUpdate [] kvs k).mpr (.inr (List.mem_map_of_mem hmem))
  cases hlook : (dictOf kvs).lookup k with
  | none => exact absurd hkey (lookup_eq_none_iff_not_mem.mp hlook)
  | some w => rw [hdet w (mem_dictOf kvs _ (mem_of_lookup hlook))]

/-- The last value a key is given is the one it has. -/
theorem lookup_dictOf_last (pre : List (κ × β)) {k : κ} (v : β) {post : List (κ × β)}
    (h : k ∉ post.map Prod.fst) : (dictOf (pre ++ (k, v) :: post)).lookup k = some v := by
  have hafter : (dictOf post).lookup k = none := by
    refine lookup_eq_none_of_not_mem fun hmem => ?_
    rcases List.mem_map.mp hmem with ⟨p, hp, rfl⟩
    exact h (List.mem_map_of_mem (mem_dictOf post p hp))
  have hsplit : dictOf (pre ++ (k, v) :: post) = dictUpdate (dictSet k v (dictOf pre)) post := by
    simp only [dictOf, dictUpdate, List.foldl_append, List.foldl_cons]
  rw [hsplit, lookup_dictUpdate_dictOf, hafter, Option.none_or, lookup_dictSet, if_pos rfl]

/-- Setting related values under one key keeps two mappings related. -/
theorem dictSet_forall₂ {γ : Type*} {R : β → γ → Prop} (k : κ) {v : β} {w : γ} (hvw : R v w)
    {d : List (κ × β)} {e : List (κ × γ)}
    (h : List.Forall₂ (fun p q => p.1 = q.1 ∧ R p.2 q.2) d e) :
    List.Forall₂ (fun p q => p.1 = q.1 ∧ R p.2 q.2) (dictSet k v d) (dictSet k w e) := by
  induction h with
  | nil => exact .cons ⟨rfl, hvw⟩ .nil
  | @cons p q d e hpq hrest ih =>
      rcases p with ⟨kp, vp⟩
      rcases q with ⟨kq, vq⟩
      have hkeys : kp = kq := hpq.1
      subst hkeys
      by_cases hk : kp = k
      · rw [dictSet, if_pos hk, dictSet, if_pos hk]
        exact .cons ⟨rfl, hvw⟩ hrest
      · rw [dictSet, if_neg hk, dictSet, if_neg hk]
        exact .cons hpq ih

/-- Mappings built from related pairs are related, key by key. -/
theorem dictOf_forall₂ {γ : Type*} {R : β → γ → Prop} {kvs : List (κ × β)} {kws : List (κ × γ)}
    (h : List.Forall₂ (fun p q => p.1 = q.1 ∧ R p.2 q.2) kvs kws) :
    List.Forall₂ (fun p q => p.1 = q.1 ∧ R p.2 q.2) (dictOf kvs) (dictOf kws) := by
  -- The fold is followed from any pair of related mappings.
  have hfold : ∀ (d : List (κ × β)) (e : List (κ × γ)),
      List.Forall₂ (fun p q => p.1 = q.1 ∧ R p.2 q.2) d e →
      List.Forall₂ (fun p q => p.1 = q.1 ∧ R p.2 q.2)
        (kvs.foldl (fun d kv => dictSet kv.1 kv.2 d) d)
        (kws.foldl (fun d kv => dictSet kv.1 kv.2 d) e) := by
    induction h with
    | nil => exact fun _ _ hde => hde
    | @cons p q _ _ hpq _ ih =>
        intro d e hde
        rw [List.foldl_cons, List.foldl_cons, hpq.1]
        exact ih _ _ (dictSet_forall₂ q.1 hpq.2 hde)
  exact hfold [] [] .nil

/-- Related mappings give related answers. -/
theorem lookup_forall₂ {γ : Type*} {R : β → γ → Prop} {d : List (κ × β)} {e : List (κ × γ)}
    (h : List.Forall₂ (fun p q => p.1 = q.1 ∧ R p.2 q.2) d e) (k : κ) :
    Option.Rel R (d.lookup k) (e.lookup k) := by
  induction h with
  | nil => exact .none
  | @cons p q _ _ hpq _ ih =>
      rw [List.lookup_cons, List.lookup_cons, hpq.1]
      cases k == q.1 with
      | true => exact .some hpq.2
      | false => exact ih

end Dictionaries

section Loops

variable {α β σ : Type*}

/-- Rewrite a list from left to right, carrying a state along. -/
def mapState (f : α → σ → β × σ) : List α → σ → List β × σ
  | [], s => ([], s)
  | x :: xs, s =>
      let step := f x s
      let rest := mapState f xs step.2
      (step.1 :: rest.1, rest.2)

theorem length_mapState (f : α → σ → β × σ) (xs : List α) (s : σ) :
    (mapState f xs s).1.length = xs.length := by
  induction xs generalizing s with
  | nil => rfl
  | cons x xs ih => rw [mapState, List.length_cons, List.length_cons, ih]

/-- A loop over two lists in a row goes on from the state the first left. -/
theorem mapState_append (f : α → σ → β × σ) (xs ys : List α) (s : σ) :
    mapState f (xs ++ ys) s =
      ((mapState f xs s).1 ++ (mapState f ys (mapState f xs s).2).1,
        (mapState f ys (mapState f xs s).2).2) := by
  induction xs generalizing s with
  | nil => rfl
  | cons x xs ih => simp only [List.cons_append, mapState, ih]

/-- What stands at a position after the loop is what the loop body made of
    the element there, at whatever state it met. -/
theorem getElem?_mapState (f : α → σ → β × σ) (xs : List α) (s : σ) (i : Nat) (y : β)
    (h : (mapState f xs s).1[i]? = some y) : ∃ x s', xs[i]? = some x ∧ y = (f x s').1 := by
  induction xs generalizing s i with
  | nil =>
      rw [mapState, List.getElem?_nil] at h
      cases h
  | cons x xs ih =>
      rw [mapState] at h
      cases i with
      | zero =>
          rw [List.getElem?_cons_zero, Option.some.injEq] at h
          exact ⟨x, s, rfl, h.symm⟩
      | succ i =>
          rw [List.getElem?_cons_succ] at h ⊢
          exact ih _ i h

section Advance

variable {f : α → σ → β × σ} {g : σ → σ} {w : α → Nat}

/-- A loop whose body moves the state on by as many steps as its element
    weighs moves it on by the weight of the list. -/
theorem mapState_advance (h : ∀ x s, (f x s).2 = g^[w x] s) (xs : List α) (s : σ) :
    (mapState f xs s).2 = g^[(xs.map w).sum] s := by
  induction xs generalizing s with
  | nil => rfl
  | cons x xs ih =>
      rw [mapState, List.map_cons, List.sum_cons, Nat.add_comm, Function.iterate_add_apply]
      exact (ih _).trans (congrArg _ (h x s))

/-- Its body then meets the state moved on by the weight of what came before. -/
theorem getElem?_mapState_advance (h : ∀ x s, (f x s).2 = g^[w x] s) (xs : List α) (s : σ)
    (i : Nat) :
    (mapState f xs s).1[i]? =
      xs[i]?.map (fun x => (f x (g^[((xs.take i).map w).sum] s)).1) := by
  induction xs generalizing s i with
  | nil => rfl
  | cons x xs ih =>
      cases i with
      | zero => rfl
      | succ i =>
          rw [mapState, List.getElem?_cons_succ, List.getElem?_cons_succ, ih, h,
            List.take_succ_cons, List.map_cons, List.sum_cons, Nat.add_comm (w x)]
          simp only [Function.iterate_add_apply]

end Advance

/-- Rewriting leaves the positions it does not name. -/
theorem getElem?_foldl_modify_of_not_mem (index : β → Nat) (f : β → α → α) (bs : List β)
    (xs : List α) {i : Nat} (hi : ∀ b ∈ bs, index b ≠ i) :
    (bs.foldl (fun ys b => ys.modify (index b) (f b)) xs)[i]? = xs[i]? := by
  induction bs generalizing xs with
  | nil => rfl
  | cons c rest ih =>
      rw [List.foldl_cons, ih _ (fun b hb => hi b (List.mem_cons_of_mem c hb)),
        List.getElem?_modify_ne _ _ (hi c List.mem_cons_self)]

/-- Rewriting at distinct positions: a position that is named is rewritten
    once. -/
theorem getElem?_foldl_modify (index : β → Nat) (f : β → α → α) (bs : List β)
    (hnd : (bs.map index).Nodup) (xs : List α) {b : β} (hb : b ∈ bs) :
    (bs.foldl (fun ys b => ys.modify (index b) (f b)) xs)[index b]? =
      xs[index b]?.map (f b) := by
  induction bs generalizing xs with
  | nil => cases hb
  | cons c rest ih =>
      rw [List.map_cons, List.nodup_cons] at hnd
      rw [List.foldl_cons]
      rcases List.mem_cons.mp hb with rfl | hrest
      -- The rest names other positions.
      · have hother : ∀ b' ∈ rest, index b' ≠ index b := fun b' hb' heq =>
          hnd.1 (List.mem_map.mpr ⟨b', hb', heq⟩)
        rw [getElem?_foldl_modify_of_not_mem index f rest _ hother, List.getElem?_modify_eq]
        rfl
      · have hne : index c ≠ index b := fun heq =>
          hnd.1 (heq ▸ List.mem_map_of_mem hrest)
        rw [ih hnd.2 _ hrest, List.getElem?_modify_ne _ _ hne]

/-- What a filter keeps of a position, and under which number. -/
theorem getElem?_filter_zipIdx (p : α → Bool) (xs : List α) (n i : Nat) {x : α}
    (hx : xs[i]? = some x) (hp : p x = true) :
    ((xs.zipIdx n).filter (fun q => p q.1))[(xs.take i).countP p]? = some (x, n + i) := by
  induction xs generalizing n i with
  | nil => rw [List.getElem?_nil] at hx; cases hx
  | cons y ys ih =>
      rw [List.zipIdx_cons]
      cases i with
      | zero =>
          rw [List.getElem?_cons_zero, Option.some.injEq] at hx
          subst hx
          rw [List.filter_cons_of_pos (by exact hp)]
          rfl
      | succ i =>
          rw [List.getElem?_cons_succ] at hx
          rw [List.take_succ_cons]
          have hrest := ih (n + 1) i hx
          rw [Nat.add_right_comm, Nat.add_assoc] at hrest
          cases hy : p y with
          | true =>
              rw [List.countP_cons_of_pos hy, List.filter_cons_of_pos (by exact hy),
                List.getElem?_cons_succ, hrest]
          | false =>
              rw [List.countP_cons_of_neg (by simp [hy]), List.filter_cons_of_neg (by simp [hy]),
                hrest]

end Loops

end Ordered

end AgenticRag

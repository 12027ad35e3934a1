import Mathlib.Data.List.Basic
import Mathlib.Data.Nat.Basic

/-!
# Greedy Sweeps

A list is gone through once, and an element is kept unless it conflicts with
one that was kept. What is kept is free of conflicts, and whatever is dropped
conflicts with something that was kept before it.

Where the elements are intervals in the order of their starts, conflicts are
overlaps, and only the end of the last interval kept matters: what is kept is
a chain, in which each interval is the first to start at or after the end of
the one before. `mem_sweep_iff_reached` says so.

## Main definitions

* `sweep`: Keep an element unless it conflicts with one that was kept.
* `Reached`: The intervals of the chain, without a sweep.

## Theorems

* `mem_sweep_or_conflict`: What is dropped conflicts with something before it.
* `mem_sweep_iff_reached`: An interval is kept if and only if it is reached.
-/

namespace AgenticRag

namespace Sweep

section Greedy

variable {α : Type*} (conflict : α → α → Bool)

/-- Keep an element unless it conflicts with one that was kept. -/
def sweep : List α → List α → List α
  | kept, [] => kept
  | kept, e :: rest =>
      if kept.any (conflict e) then sweep kept rest else sweep (kept ++ [e]) rest

variable {conflict}

theorem subset_sweep (kept es : List α) : ∀ k ∈ kept, k ∈ sweep conflict kept es := by
  induction es generalizing kept with
  | nil => exact fun k hk => hk
  | cons e rest ih =>
      intro k hk
      rw [sweep]
      split
      · exact ih kept k hk
      · exact ih (kept ++ [e]) k (List.mem_append_left _ hk)

/-- What is kept is in order and free of conflicts. -/
theorem pairwise_sweep {R : α → α → Prop} {kept es : List α}
    (hkept : kept.Pairwise (fun a b => conflict b a = false)) (horder : (kept ++ es).Pairwise R) :
    (sweep conflict kept es).Pairwise (fun a b => R a b ∧ conflict b a = false) := by
  induction es generalizing kept with
  | nil =>
      rw [List.append_nil] at horder
      exact horder.and hkept
  | cons e rest ih =>
      rw [sweep]
      split
      next =>
        refine ih hkept (horder.sublist ?_)
        exact (List.Sublist.refl kept).append (List.sublist_cons_self e rest)
      next hfree =>
        refine ih ?_ (by rwa [List.append_assoc, List.singleton_append])
        rw [List.pairwise_append]
        refine ⟨hkept, List.pairwise_singleton _ _, ?_⟩
        intro a ha b hb
        rw [List.mem_singleton.mp hb]
        -- It was kept since it conflicts with none of those before.
        have hnone : ∀ k ∈ kept, conflict e k = false := by simpa using hfree
        exact hnone a ha

/-- What is dropped conflicts with something that was kept before it. -/
theorem mem_sweep_or_conflict {R : α → α → Prop} {kept es : List α}
    (horder : (kept ++ es).Pairwise R) {e : α} (he : e ∈ es) :
    e ∈ sweep conflict kept es ∨
      ∃ k ∈ sweep conflict kept es, R k e ∧ conflict e k = true := by
  induction es generalizing kept with
  | nil => cases he
  | cons c rest ih =>
      have horder' : (kept ++ [c] ++ rest).Pairwise R := by
        rwa [List.append_assoc, List.singleton_append]
      rw [sweep]
      split
      next hconflict =>
        -- What it conflicts with is kept, and stays kept.
        rcases List.mem_cons.mp he with rfl | he
        · rcases List.any_eq_true.mp hconflict with ⟨k, hk, hke⟩
          refine Or.inr ⟨k, subset_sweep kept rest k hk, ?_, hke⟩
          exact (List.pairwise_append.mp horder).2.2 k hk e List.mem_cons_self
        · refine ih (horder.sublist ?_) he
          exact (List.Sublist.refl kept).append (List.sublist_cons_self c rest)
      next =>
        rcases List.mem_cons.mp he with rfl | he
        · refine Or.inl (subset_sweep _ rest e ?_)
          exact List.mem_append_right _ List.mem_cons_self
        · exact ih horder' he

end Greedy

section Intervals

variable {α : Type*} (start stop : α → Nat)

/-- Two intervals overlap. -/
def meets (a b : α) : Bool :=
  !(decide (stop a ≤ start b) || decide (stop b ≤ start a))

/-- Keep an interval that starts at or after the end of the last one kept. -/
def chain : Nat → List α → List α
  | _, [] => []
  | frontier, e :: rest =>
      if frontier ≤ start e then e :: chain (stop e) rest else chain frontier rest

/-- The first interval is reached, and from each that is reached the first that
    starts at or after its end. -/
inductive Reached (es : List α) : α → Prop
  | first {e : α} (h : es.head? = some e) : Reached es e
  | next {k e : α} (hk : Reached es k)
      (h : es.find? (fun c => decide (stop k ≤ start c)) = some e) : Reached es e

variable {start stop}

/-- On intervals in order only the end of the last one kept matters. -/
theorem sweep_eq_chain {kept es : List α} {frontier : Nat}
    (hlength : ∀ e ∈ es, start e < stop e)
    (horder : (kept ++ es).Pairwise (fun a b => start a ≤ start b))
    (hbelow : ∀ k ∈ kept, stop k ≤ frontier)
    (hmet : frontier = 0 ∨ ∃ k ∈ kept, stop k = frontier) :
    sweep (meets start stop) kept es = kept ++ chain start stop frontier es := by
  induction es generalizing kept frontier with
  | nil => rw [sweep, chain, List.append_nil]
  | cons e rest ih =>
      have hbefore : ∀ k ∈ kept, start k ≤ start e := fun k hk =>
        (List.pairwise_append.mp horder).2.2 k hk e List.mem_cons_self
      have he := hlength e List.mem_cons_self
      have hrest : ∀ c ∈ rest, start c < stop c := fun c hc =>
        hlength c (List.mem_cons_of_mem _ hc)
      rw [sweep, chain]
      by_cases hfree : frontier ≤ start e
      -- Everything kept so far ends by the frontier.
      · have hnone : kept.any (meets start stop e) = false := by
          rw [List.any_eq_false]
          intro k hk
          have hle := Nat.le_trans (hbelow k hk) hfree
          simp [meets, hle]
        have hnext : sweep (meets start stop) (kept ++ [e]) rest =
            kept ++ [e] ++ chain start stop (stop e) rest := by
          refine ih hrest ?_ ?_ (Or.inr ⟨e, List.mem_append_right _ List.mem_cons_self, rfl⟩)
          · rwa [List.append_assoc, List.singleton_append]
          · intro k hk
            rcases List.mem_append.mp hk with hk | hk
            · have hle := Nat.le_trans (hbelow k hk) hfree
              omega
            · rw [List.mem_singleton.mp hk]
        rw [hnone, if_pos hfree, if_neg Bool.false_ne_true, hnext, List.append_assoc,
          List.singleton_append]
      · -- The interval that reaches furthest overlaps.
        have hsome : kept.any (meets start stop e) = true := by
          rcases hmet with hzero | ⟨k, hk, hstop⟩
          · omega
          · refine List.any_eq_true.mpr ⟨k, hk, ?_⟩
            have hstart := hbefore k hk
            simp only [meets, Bool.not_eq_true', Bool.or_eq_false_iff, decide_eq_false_iff_not]
            omega
        rw [hsome, if_neg hfree, if_pos rfl]
        refine ih hrest (horder.sublist ?_) hbelow hmet
        exact (List.Sublist.refl kept).append (List.sublist_cons_self e rest)

theorem mem_chain_of_find {es : List α} {frontier : Nat} {e : α}
    (h : es.find? (fun c => decide (frontier ≤ start c)) = some e) :
    e ∈ chain start stop frontier es := by
  induction es with
  | nil => cases h
  | cons c rest ih =>
      rw [List.find?_cons] at h
      rw [chain]
      by_cases hc : frontier ≤ start c
      · rw [decide_eq_true hc] at h
        rw [if_pos hc, ← Option.some.inj h]
        exact List.mem_cons_self
      · rw [decide_eq_false hc] at h
        rw [if_neg hc]
        exact ih h

/-- The search for the next interval passes over those that start before. -/
theorem find_append_of_before {pre post : List α} {frontier : Nat}
    (hpre : ∀ p ∈ pre, start p < frontier) :
    (pre ++ post).find? (fun c => decide (frontier ≤ start c)) =
      post.find? (fun c => decide (frontier ≤ start c)) := by
  rw [List.find?_append, List.find?_eq_none.mpr, Option.none_or]
  intro p hp
  have hlt := hpre p hp
  simpa using hlt

/-- What follows in a chain is reached, if the first is that follows. -/
theorem reached_of_mem_chain {es pre post : List α} {frontier : Nat} (hes : es = pre ++ post)
    (hlength : ∀ e ∈ es, start e < stop e) (hpre : ∀ p ∈ pre, start p < frontier)
    (hnext : ∀ e, es.find? (fun c => decide (frontier ≤ start c)) = some e →
      Reached start stop es e) :
    ∀ e ∈ chain start stop frontier post, Reached start stop es e := by
  induction post generalizing pre frontier with
  | nil => exact fun e he => absurd he List.not_mem_nil
  | cons c rest ih =>
      have hsplit : es = pre ++ [c] ++ rest := by
        rw [hes, List.append_assoc, List.singleton_append]
      rw [chain]
      by_cases hc : frontier ≤ start c
      -- The first to start at the frontier is the first of all that do.
      · have hreached : Reached start stop es c := by
          refine hnext c ?_
          rw [hes, find_append_of_before hpre, List.find?_cons, decide_eq_true hc]
        have hstop := hlength c (by rw [hes]; exact List.mem_append_right _ List.mem_cons_self)
        rw [if_pos hc]
        intro e he
        rcases List.mem_cons.mp he with rfl | he
        · exact hreached
        · refine ih hsplit (fun p hp => ?_) (fun e he => .next hreached he) e he
          rcases List.mem_append.mp hp with hp | hp
          · have hlt := hpre p hp
            omega
          · rw [List.mem_singleton.mp hp]
            exact hstop
      · rw [if_neg hc]
        refine ih hsplit (fun p hp => ?_) hnext
        rcases List.mem_append.mp hp with hp | hp
        · exact hpre p hp
        · rw [List.mem_singleton.mp hp]
          exact Nat.not_le.mp hc

/-- The interval after one of a chain is in the chain. -/
theorem mem_chain_of_next {pre post : List α} {frontier : Nat}
    (hlength : ∀ e ∈ pre ++ post, start e < stop e) (hpre : ∀ p ∈ pre, start p < frontier)
    {k e : α} (hk : k ∈ chain start stop frontier post)
    (he : (pre ++ post).find? (fun c => decide (stop k ≤ start c)) = some e) :
    e ∈ chain start stop frontier post := by
  induction post generalizing pre frontier with
  | nil => cases hk
  | cons c rest ih =>
      have hsplit : pre ++ c :: rest = pre ++ [c] ++ rest := by
        rw [List.append_assoc, List.singleton_append]
      have hc' := hlength c (List.mem_append_right _ List.mem_cons_self)
      rw [hsplit] at he hlength
      rw [chain] at hk ⊢
      by_cases hc : frontier ≤ start c
      -- What stands before the interval starts before its end.
      · have hbefore : ∀ p ∈ pre ++ [c], start p < stop c := by
          intro p hp
          rcases List.mem_append.mp hp with hp | hp
          · have hlt := hpre p hp
            omega
          · rw [List.mem_singleton.mp hp]
            exact hc'
        rw [if_pos hc] at hk ⊢
        refine List.mem_cons_of_mem _ ?_
        rcases List.mem_cons.mp hk with rfl | hk
        · rw [find_append_of_before hbefore] at he
          exact mem_chain_of_find he
        · exact ih hlength hbefore hk he
      · rw [if_neg hc] at hk ⊢
        refine ih hlength (fun p hp => ?_) hk he
        rcases List.mem_append.mp hp with hp | hp
        · exact hpre p hp
        · rw [List.mem_singleton.mp hp]
          exact Nat.not_le.mp hc

/-- An interval is kept if and only if it is reached. -/
theorem mem_sweep_iff_reached {es : List α} (hlength : ∀ e ∈ es, start e < stop e)
    (horder : es.Pairwise (fun a b => start a ≤ start b)) (e : α) :
    e ∈ sweep (meets start stop) [] es ↔ Reached start stop es e := by
  have hchain : sweep (meets start stop) [] es = chain start stop 0 es := by
    have horder' : ([] ++ es).Pairwise (fun a b => start a ≤ start b) := horder
    rw [sweep_eq_chain hlength horder' (fun k hk => absurd hk List.not_mem_nil) (Or.inl rfl),
      List.nil_append]
  -- The chain begins with the first interval, whatever its start.
  have hhead : es.find? (fun c => decide (0 ≤ start c)) = es.head? := by
    cases es with
    | nil => rfl
    | cons c rest => rw [List.find?_cons, decide_eq_true (Nat.zero_le _), List.head?_cons]
  rw [hchain]
  constructor
  · refine reached_of_mem_chain (List.nil_append es).symm hlength
      (fun p hp => absurd hp List.not_mem_nil) (fun e he => ?_) e
    rw [hhead] at he
    exact .first he
  · intro h
    induction h with
    | first h => exact mem_chain_of_find (hhead.trans h)
    | next hk h ih =>
        exact mem_chain_of_next (by rwa [List.nil_append])
          (fun p hp => absurd hp List.not_mem_nil) ih (by rwa [List.nil_append])

end Intervals

end Sweep

end AgenticRag

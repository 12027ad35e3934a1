import Mathlib.Data.List.Chain
import Mathlib.Data.Set.Finite.List
import Mathlib.Logic.Relation
import Mathlib.Order.Bounds.Basic
import Mathlib.Order.WellFounded

/-!
# What Comes Before What

A relation `r` that says what an element needs: `r a b` if `a` needs `b`. The
elements in question are finitely many, and nothing else is known of `r`. It may
have cycles.

Two measures of an element are used. Its height is the length of the longest
chain below it, if there is one (`Height`). It is founded if every chain below
it ends, which is Mathlib's accessibility (`Founded`). An element on a cycle has
neither.

Both are found by peeling: whatever needs only what is done is done next. The
number of the round in which an element is peeled is its height
(`height_of_peels`). What is never peeled needs something that is not peeled
either, and among finitely many elements that leads around a cycle
(`exists_cycle`).

## Main definitions

* `ChainBelow`, `Height`: Chains below an element, and the longest of them.
* `Peels`: Layers of elements, each after what it needs.

## Theorems

* `founded_of_after`: What comes after all it needs is founded.
* `chainBelow_le_of_rank`: No layering has fewer layers.
-/

namespace AgenticRag

namespace Precedence

variable {α : Type} {r : α → α → Prop}

section Cycles

/-- Every chain below the element ends. -/
def Founded (r : α → α → Prop) (a : α) : Prop := Acc (fun b a => r a b) a

/-- An element that needs itself, directly or not, below this one. -/
def ReachesCycle (r : α → α → Prop) (a : α) : Prop :=
  ∃ c, Relation.ReflTransGen r a c ∧ Relation.TransGen r c c

theorem founded_of_forall {a : α} (h : ∀ b, r a b → Founded r b) : Founded r a := Acc.intro a h

theorem Founded.needs {a b : α} (h : Founded r a) (hab : r a b) : Founded r b := Acc.inv h hab

theorem Founded.reaches {a b : α} (h : Founded r a) (hab : Relation.ReflTransGen r a b) :
    Founded r b := by
  induction hab with
  | refl => exact h
  | tail _ hbc ih => exact ih.needs hbc

theorem not_transGen_of_founded {a : α} (h : Founded r a) : ¬ Relation.TransGen r a a := by
  induction h with
  | intro a _ ih =>
      intro hcycle
      -- The cycle is entered one element later.
      rcases Relation.TransGen.head'_iff.mp hcycle with ⟨b, hab, hba⟩
      exact ih b hab (Relation.TransGen.tail' hba hab)

theorem not_cycle_of_founded {a : α} (h : Founded r a) : ¬ ReachesCycle r a := by
  rintro ⟨c, hac, hcycle⟩
  exact not_transGen_of_founded (h.reaches hac) hcycle

/-- Among finitely many elements that all need one of them, each reaches a
    cycle. -/
theorem exists_cycle {S : List α} (hneeds : ∀ a ∈ S, ∃ b ∈ S, r a b) {a : α} (ha : a ∈ S) :
    ReachesCycle r a := by
  by_contra hnone
  -- The elements of the list that are reached from `a`, with being needed as order.
  let T := { b : α // b ∈ S ∧ Relation.ReflTransGen r a b }
  let below : T → T → Prop := fun b c => Relation.TransGen r c.1 b.1
  have : Finite T := ((List.finite_toSet S).subset (fun b hb => hb.1)).to_subtype
  have : IsTrans T below := ⟨fun b c d hbc hcd => hcd.trans hbc⟩
  have : Std.Irrefl below := ⟨fun b hb => hnone ⟨b.1, b.2.2, hb⟩⟩
  have hwf : WellFounded below := Finite.wellFounded_of_trans_of_irrefl below
  rcases hwf.has_min Set.univ ⟨⟨a, ha, .refl⟩, Set.mem_univ _⟩ with ⟨m, -, hmin⟩
  rcases hneeds m.1 m.2.1 with ⟨b, hb, hmb⟩
  exact hmin ⟨b, hb, m.2.2.tail hmb⟩ (Set.mem_univ _) (.single hmb)

/-- Where everything that is taken comes after what it needs, all of it is
    founded. -/
theorem founded_of_after {order : List α}
    (h : ∀ before a later, order = before ++ a :: later → ∀ b, r a b → b ∈ before) :
    ∀ a ∈ order, Founded r a := by
  induction order using List.reverseRecOn with
  | nil => exact fun a ha => absurd ha List.not_mem_nil
  | append_singleton order x ih =>
      have hfounded : ∀ a ∈ order, Founded r a := by
        refine ih (fun before a later heq => h before a (later ++ [x]) ?_)
        rw [heq, List.append_assoc, List.cons_append]
      intro a ha
      rcases List.mem_append.mp ha with hold | hnew
      · exact hfounded a hold
      · rw [List.mem_singleton] at hnew
        subst hnew
        exact founded_of_forall (fun b hab => hfounded b (h order a [] rfl b hab))

/-- A walk along the relation that ends where it started. -/
structure IsCycle (r : α → α → Prop) (c : List α) : Prop where
  length : 2 ≤ c.length
  chain : List.IsChain r c
  closed : c.head? = c.getLast?

theorem transGen_of_chain {a b : α} {l : List α} (h : List.IsChain r (a :: b :: l)) :
    ∃ z, (b :: l).getLast? = some z ∧ Relation.TransGen r a z := by
  induction l generalizing a b with
  | nil => exact ⟨b, rfl, .single (List.isChain_cons_cons.mp h).1⟩
  | cons c l ih =>
      rw [List.isChain_cons_cons] at h
      rcases ih h.2 with ⟨z, hz, hbz⟩
      exact ⟨z, by rw [List.getLast?_cons_cons, hz], hbz.head h.1⟩

theorem exists_transGen_of_isCycle {c : List α} (h : IsCycle r c) :
    ∃ a, Relation.TransGen r a a := by
  rcases c with _ | ⟨a, _ | ⟨b, l⟩⟩
  · exact absurd h.length (by simp)
  · exact absurd h.length (by simp)
  · rcases transGen_of_chain h.chain with ⟨z, hz, haz⟩
    have hclosed := h.closed
    rw [List.head?_cons, List.getLast?_cons_cons, hz] at hclosed
    cases hclosed
    exact ⟨a, haz⟩

end Cycles

section Chains

/-- A chain of `n` elements below this one. -/
def ChainBelow (r : α → α → Prop) (a : α) (n : Nat) : Prop :=
  ∃ l : List α, l.length = n ∧ List.IsChain r (a :: l)

/-- The length of the longest chain below an element. -/
def Height (r : α → α → Prop) (a : α) (n : Nat) : Prop := IsGreatest { m | ChainBelow r a m } n

theorem chainBelow_zero (a : α) : ChainBelow r a 0 := ⟨[], rfl, .singleton a⟩

theorem chainBelow_succ {a : α} {n : Nat} :
    ChainBelow r a (n + 1) ↔ ∃ b, r a b ∧ ChainBelow r b n := by
  constructor
  · rintro ⟨l, hlen, hchain⟩
    cases l with
    | nil => cases hlen
    | cons b l =>
        rw [List.isChain_cons_cons] at hchain
        exact ⟨b, hchain.1, l, Nat.succ.inj hlen, hchain.2⟩
  · rintro ⟨b, hab, l, hlen, hchain⟩
    exact ⟨b :: l, congrArg (· + 1) hlen, List.isChain_cons_cons.mpr ⟨hab, hchain⟩⟩

theorem height_zero {a : α} (h : ∀ b, ¬ r a b) : Height r a 0 := by
  refine ⟨chainBelow_zero a, ?_⟩
  intro m hm
  cases m with
  | zero => exact Nat.le_refl 0
  | succ m =>
      rcases chainBelow_succ.mp hm with ⟨b, hab, -⟩
      exact absurd hab (h b)

theorem height_succ {a : α} {n : Nat} (hsome : ∃ b, r a b ∧ Height r b n)
    (hall : ∀ b, r a b → ∃ m ≤ n, Height r b m) : Height r a (n + 1) := by
  constructor
  · rcases hsome with ⟨b, hab, hb⟩
    exact chainBelow_succ.mpr ⟨b, hab, hb.1⟩
  · intro m hm
    cases m with
    | zero => exact Nat.zero_le _
    | succ m =>
        rcases chainBelow_succ.mp hm with ⟨b, hab, hchain⟩
        rcases hall b hab with ⟨k, hk, hheight⟩
        exact Nat.succ_le_succ (Nat.le_trans (hheight.2 hchain) hk)

/-- Chains are no longer than a rank of their first element, where what an
    element needs has a smaller one. -/
theorem chainBelow_le_of_rank (rank : α → Nat → Prop)
    (hfall : ∀ a k, rank a k → ∀ b, r a b → ∃ j < k, rank b j) {n : Nat} {a : α} {k : Nat}
    (h : ChainBelow r a n) (hk : rank a k) : n ≤ k := by
  induction n generalizing a k with
  | zero => exact Nat.zero_le k
  | succ n ih =>
      rcases chainBelow_succ.mp h with ⟨b, hab, hb⟩
      rcases hfall a k hk b hab with ⟨j, hj, hrank⟩
      exact Nat.lt_of_le_of_lt (ih hb hrank) hj

theorem chainBelow_of_transGen {a b : α} {n : Nat} (hab : Relation.TransGen r a b)
    (hb : ChainBelow r b n) : ∃ m, n < m ∧ ChainBelow r a m := by
  induction hab using Relation.TransGen.head_induction_on with
  | single hac => exact ⟨n + 1, Nat.lt_succ_self n, chainBelow_succ.mpr ⟨b, hac, hb⟩⟩
  | head hac _ ih =>
      rcases ih with ⟨m, hm, hchain⟩
      exact ⟨m + 1, Nat.lt_succ_of_lt hm, chainBelow_succ.mpr ⟨_, hac, hchain⟩⟩

/-- Around a cycle there are chains of every length. -/
theorem not_transGen_of_height {a : α} {n : Nat} (h : Height r a n) :
    ¬ Relation.TransGen r a a := by
  intro hcycle
  rcases chainBelow_of_transGen hcycle h.1 with ⟨m, hm, hchain⟩
  exact Nat.not_lt.mpr (h.2 hchain) hm

end Chains

section Peeling

/-- Layers of elements: each needs only what is done or in earlier layers, and
    whatever is left after a layer had to wait for it. -/
inductive Peels (r : α → α → Prop) : List α → List (List α) → Prop where
  | nil (done : List α) : Peels r done []
  | cons {done layer : List α} {rest : List (List α)}
      (ready : ∀ a ∈ layer, ∀ b, r a b → b ∈ done)
      (waits : ∀ a ∈ rest.flatten, ∃ b, r a b ∧ b ∉ done)
      (later : Peels r (done ++ layer) rest) : Peels r done (layer :: rest)

/-- What is done when layer `n` starts: the elements of smaller height, and of
    what every later element needs, one that is not done or is of height
    `n - 1`. -/
structure Peeled (r : α → α → Prop) (done : List α) (left : List α) (n : Nat) : Prop where
  lower : ∀ b ∈ done, ∃ m < n, Height r b m
  last : ∀ a ∈ left, ∀ m, n = m + 1 → ∃ b, r a b ∧ (b ∈ done → Height r b m)

theorem height_of_peeled {done layer rest : List α} {n : Nat}
    (h : Peeled r done (layer ++ rest) n) (ready : ∀ a ∈ layer, ∀ b, r a b → b ∈ done) {a : α}
    (ha : a ∈ layer) : Height r a n := by
  cases n with
  | zero =>
      refine height_zero (fun b hab => ?_)
      rcases h.lower b (ready a ha b hab) with ⟨m, hm, -⟩
      exact Nat.not_lt_zero m hm
  | succ n =>
      refine height_succ ?_ (fun b hab => ?_)
      · rcases h.last a (List.mem_append_left _ ha) n rfl with ⟨b, hab, hb⟩
        exact ⟨b, hab, hb (ready a ha b hab)⟩
      · rcases h.lower b (ready a ha b hab) with ⟨m, hm, hheight⟩
        exact ⟨m, Nat.le_of_lt_succ hm, hheight⟩

theorem height_of_peels_from {done : List α} {layers : List (List α)} (h : Peels r done layers)
    {n : Nat} (hdone : Peeled r done layers.flatten n) {k : Nat} {layer : List α}
    (hk : layers[k]? = some layer) {a : α} (ha : a ∈ layer) : Height r a (n + k) := by
  induction h generalizing n k with
  | nil done => cases hk
  | @cons done first rest ready waits later ih =>
      have hfirst : ∀ b ∈ first, Height r b n := fun b hb => height_of_peeled hdone ready hb
      cases k with
      | zero =>
          cases hk
          exact hfirst a ha
      | succ k =>
          rw [show n + (k + 1) = n + 1 + k by omega]
          refine ih ⟨?_, ?_⟩ hk
          · intro b hb
            rcases List.mem_append.mp hb with hold | hnew
            · rcases hdone.lower b hold with ⟨m, hm, hheight⟩
              exact ⟨m, Nat.lt_succ_of_lt hm, hheight⟩
            · exact ⟨n, Nat.lt_succ_self n, hfirst b hnew⟩
          · intro c hc m hm
            cases hm
            rcases waits c hc with ⟨b, hcb, hb⟩
            exact ⟨b, hcb, fun hmem => hfirst b ((List.mem_append.mp hmem).resolve_left hb)⟩

/-- The layer of an element is the length of the longest chain below it. -/
theorem height_of_peels {layers : List (List α)} (h : Peels r [] layers) {k : Nat}
    {layer : List α} (hk : layers[k]? = some layer) {a : α} (ha : a ∈ layer) : Height r a k := by
  have hstart : Peeled r [] layers.flatten 0 :=
    ⟨fun b hb => absurd hb List.not_mem_nil, fun a _ m hm => absurd hm (Nat.succ_ne_zero m).symm⟩
  have hheight := height_of_peels_from h hstart hk ha
  rwa [Nat.zero_add] at hheight

/-- What an element of a layer needs is done or in a layer before. -/
theorem earlier_of_peels {done : List α} {layers : List (List α)} (h : Peels r done layers)
    {k : Nat} {layer : List α} (hk : layers[k]? = some layer) {a b : α} (ha : a ∈ layer)
    (hab : r a b) : b ∈ done ∨ ∃ j < k, ∃ earlier, layers[j]? = some earlier ∧ b ∈ earlier := by
  induction h generalizing k with
  | nil done => cases hk
  | @cons done first rest ready waits later ih =>
      cases k with
      | zero =>
          cases hk
          exact .inl (ready a ha b hab)
      | succ k =>
          rcases ih hk with hmem | ⟨j, hj, earlier, hget, hb⟩
          · rcases List.mem_append.mp hmem with hold | hnew
            · exact .inl hold
            · exact .inr ⟨0, Nat.succ_pos k, first, rfl, hnew⟩
          · exact .inr ⟨j + 1, Nat.succ_lt_succ hj, earlier, hget, hb⟩

end Peeling

end Precedence

end AgenticRag

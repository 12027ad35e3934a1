import AgenticRag.Core.TokenBudget
import Mathlib.Algebra.BigOperators.Group.Finset.Piecewise
import Mathlib.Algebra.Order.BigOperators.Group.Finset
import Mathlib.Algebra.Order.Field.Basic

/-!
# Compression Levels

The overflow of the tool results is measured against what the locked tokens and the
reserve for the answer leave of the budget. More tokens of a tool and more locked
tokens should never be met with a weaker compression, and as long as something is
left they are not (`strength_levelAt_le`): the ratio is one less than the quotient
of the two.

The quotient is taken with what is left also where that is negative, and a negative
ratio reads as no overflow. So the strongest level falls back to none once the
locked tokens pass the budget, and in between, where just nothing is left, there is
no quotient at all. `level_mono_iff` says which steps cross that point.

## Main definitions

* `CompressLevel.strength`: The order of the levels.
* `TokenBudgetScheduler.level`: The level of a round.

## Theorems

* `total_le_total`: More tokens of each tool are more tokens in all.
* `strength_levelAt_le`: Levels while something is left.
* `level_mono_iff`: When a step to more tokens does not weaken the level.
-/

namespace AgenticRag

open Py

section Totals

variable {κ : Type*} [DecidableEq κ]

/-- The sum of the entries, taken key by key. -/
theorem sum_eq_sum_lookup {counts : List (κ × Nat)} (hkeys : (counts.map Prod.fst).Nodup)
    {keys : Finset κ} (hsub : ∀ k ∈ counts.map Prod.fst, k ∈ keys) :
    (counts.map Prod.snd).sum = ∑ k ∈ keys, (counts.lookup k).getD 0 := by
  induction counts with
  | nil => exact (Finset.sum_eq_zero (fun k _ => rfl)).symm
  | cons p counts ih =>
      rcases List.nodup_cons.mp hkeys with ⟨hfresh, hkeys⟩
      rcases List.forall_mem_cons.mp hsub with ⟨hp, hsub⟩
      have hentry : ∀ k, ((p :: counts).lookup k).getD 0 =
          (if k = p.1 then p.2 else 0) + (counts.lookup k).getD 0 := by
        intro k
        by_cases hk : k = p.1
        · have hnone : counts.lookup p.1 = none := Ordered.lookup_eq_none_of_not_mem hfresh
          rw [if_pos hk, hk, hnone, List.lookup_cons_self]
          rfl
        · rw [if_neg hk, List.lookup_cons, beq_false_of_ne hk, Nat.zero_add]
      rw [List.map_cons, List.sum_cons, ih hkeys hsub, Finset.sum_congr rfl (fun k _ => hentry k),
        Finset.sum_add_distrib, Finset.sum_ite_eq' keys p.1, if_pos hp]

/-- More of each key is more in all. -/
theorem sum_le_sum_of_lookup_le {counts counts' : List (κ × Nat)}
    (hkeys : (counts.map Prod.fst).Nodup) (hkeys' : (counts'.map Prod.fst).Nodup)
    (h : ∀ k, (counts.lookup k).getD 0 ≤ (counts'.lookup k).getD 0) :
    (counts.map Prod.snd).sum ≤ (counts'.map Prod.snd).sum := by
  have hsub : ∀ k ∈ counts.map Prod.fst,
      k ∈ (counts.map Prod.fst ++ counts'.map Prod.fst).toFinset :=
    fun k hk => List.mem_toFinset.mpr (List.mem_append_left _ hk)
  have hsub' : ∀ k ∈ counts'.map Prod.fst,
      k ∈ (counts.map Prod.fst ++ counts'.map Prod.fst).toFinset :=
    fun k hk => List.mem_toFinset.mpr (List.mem_append_right _ hk)
  rw [sum_eq_sum_lookup hkeys hsub, sum_eq_sum_lookup hkeys' hsub']
  exact Finset.sum_le_sum (fun k _ => h k)

theorem total_le_total {counts counts' : TokenCounts} (hkeys : (counts.map Prod.fst).Nodup)
    (hkeys' : (counts'.map Prod.fst).Nodup) (h : ∀ st, counts.get st ≤ counts'.get st) :
    counts.total ≤ counts'.total :=
  sum_le_sum_of_lookup_le hkeys hkeys' h

end Totals

section Levels

/-- The order of the levels, from the weakest to the strongest. -/
def CompressLevel.strength : CompressLevel → Nat
  | .normal => 0
  | .light => 1
  | .moderate => 2
  | .severe => 3
  | .compact => 4

theorem strength_determineLevel_le {r r' : ℚ} (h : r ≤ r') :
    (determineLevel r).strength ≤ (determineLevel r').strength := by
  unfold determineLevel
  split_ifs <;> first | decide | linarith

/-- The level of so many tokens of evidence where so many are left. -/
def levelAt (evidence available : Int) : CompressLevel :=
  determineLevel (if evidence ≤ available then 0
    else ((evidence - available : Int) : ℚ) / available)

/-- A quotient with something negative reads as no overflow. -/
theorem levelAt_eq_normal {evidence available : Int}
    (h : available ≤ 0 ∨ evidence ≤ available) : levelAt evidence available = .normal := by
  have hratio : (if evidence ≤ available then 0
      else ((evidence - available : Int) : ℚ) / available) ≤ 0 := by
    split_ifs with hfits
    · exact le_refl 0
    · have hneg : available ≤ 0 := h.resolve_right hfits
      refine div_nonpos_of_nonneg_of_nonpos ?_ ?_
      · exact_mod_cast (by omega : 0 ≤ evidence - available)
      · exact_mod_cast hneg
  rw [levelAt, determineLevel, if_pos hratio]

theorem levelAt_ne_normal {evidence available : Int} (hleft : 0 < available)
    (hover : available < evidence) : 0 < (levelAt evidence available).strength := by
  have hratio : 0 < ((evidence - available : Int) : ℚ) / available := by
    refine div_pos ?_ ?_
    · exact_mod_cast (by omega : 0 < evidence - available)
    · exact_mod_cast hleft
  rw [levelAt, if_neg (by omega), determineLevel, if_neg (not_le.mpr hratio)]
  split_ifs <;> decide

/-- While something is left, more evidence and less that is left mean no weaker
    level. -/
theorem strength_levelAt_le {evidence evidence' available available' : Int}
    (hevidence : evidence ≤ evidence') (hleft : 0 < available')
    (hleft' : available' ≤ available) :
    (levelAt evidence available).strength ≤ (levelAt evidence' available').strength := by
  refine strength_determineLevel_le ?_
  have hpos : (0 : ℚ) < available' := by exact_mod_cast hleft
  have hpos' : (0 : ℚ) < available := by exact_mod_cast (by omega : 0 < available)
  have hratio : ∀ e a : Int, 0 < (a : ℚ) → ((e - a : Int) : ℚ) / a = e / a - 1 := by
    intro e a ha
    rw [Int.cast_sub, sub_div, div_self ha.ne']
  by_cases hfits : evidence ≤ available
  · rw [if_pos hfits]
    split_ifs with hfits'
    · exact le_refl 0
    · refine div_nonneg ?_ hpos.le
      exact_mod_cast (by omega : 0 ≤ evidence' - available')
  · rw [if_neg hfits, if_neg (by omega), hratio _ _ hpos', hratio _ _ hpos]
    refine sub_le_sub_right (div_le_div₀ ?_ ?_ hpos ?_) 1
    · exact_mod_cast (by omega : 0 ≤ evidence')
    · exact_mod_cast hevidence
    · exact_mod_cast hleft'

end Levels

section Scheduler

variable (sch : TokenBudgetScheduler) (counts : TokenCounts) (lockedTokens : Int)

/-- What the locked tokens and the reserve for the answer leave of the budget. -/
def TokenBudgetScheduler.available : Int :=
  sch.totalBudget - lockedTokens - outputReserveTokens

/-- The compression level of a round. -/
def TokenBudgetScheduler.level : Except Exc CompressLevel :=
  (sch.calculateOverflowRatio counts lockedTokens).map determineLevel

/-- The overflow is not measured against nothing. -/
def Measurable : Prop :=
  sch.available lockedTokens ≠ 0 ∨ counts.total = 0

variable {sch counts lockedTokens}

theorem level_eq_ok (h : Measurable sch counts lockedTokens) :
    sch.level counts lockedTokens = .ok (levelAt counts.total (sch.available lockedTokens)) := by
  change Except.map determineLevel (if (counts.total : Int) ≤ sch.available lockedTokens then _
    else if sch.available lockedTokens = 0 then _ else _) = _
  rw [levelAt]
  by_cases hfits : (counts.total : Int) ≤ sch.available lockedTokens
  · rw [if_pos hfits, if_pos hfits]
    rfl
  · rw [if_neg hfits, if_neg hfits, if_neg]
    · rfl
    · intro hzero
      rcases h with h | h
      · exact h hzero
      · omega

theorem level_eq_error (h : ¬ Measurable sch counts lockedTokens) :
    sch.level counts lockedTokens = .error .zeroDivisionError := by
  rcases not_or.mp h with ⟨hzero, hsome⟩
  rw [not_not] at hzero
  change Except.map determineLevel (if (counts.total : Int) ≤ sch.available lockedTokens then _
    else if sch.available lockedTokens = 0 then _ else _) = _
  rw [if_neg (by omega), if_pos hzero]
  rfl

/-- A step to more tokens finds a level on both sides, and no weaker one, just when
    neither side measures against nothing, and the step does not go from an overflow
    of what is left to where less than nothing is left. -/
theorem level_mono_iff {counts' : TokenCounts} {lockedTokens' : Int}
    (hkeys : (counts.map Prod.fst).Nodup) (hkeys' : (counts'.map Prod.fst).Nodup)
    (hcounts : ∀ st, counts.get st ≤ counts'.get st) (hlocked : lockedTokens ≤ lockedTokens') :
    (∃ level level', sch.level counts lockedTokens = .ok level ∧
      sch.level counts' lockedTokens' = .ok level' ∧ level.strength ≤ level'.strength) ↔
    Measurable sch counts lockedTokens ∧ Measurable sch counts' lockedTokens' ∧
      (sch.available lockedTokens' < 0 →
        ¬ (0 < sch.available lockedTokens ∧ sch.available lockedTokens < counts.total)) := by
  have htotal : (counts.total : Int) ≤ counts'.total :=
    Int.ofNat_le.mpr (total_le_total hkeys hkeys' hcounts)
  have hleft : sch.available lockedTokens' ≤ sch.available lockedTokens := by
    unfold TokenBudgetScheduler.available
    omega
  constructor
  · rintro ⟨level, level', hlevel, hlevel', hle⟩
    have hopen : Measurable sch counts lockedTokens := by
      by_contra hclosed
      rw [level_eq_error hclosed] at hlevel
      cases hlevel
    have hopen' : Measurable sch counts' lockedTokens' := by
      by_contra hclosed
      rw [level_eq_error hclosed] at hlevel'
      cases hlevel'
    refine ⟨hopen, hopen', fun hneg hover => ?_⟩
    rw [level_eq_ok hopen] at hlevel
    rw [level_eq_ok hopen', levelAt_eq_normal (.inl hneg.le)] at hlevel'
    cases hlevel
    cases hlevel'
    exact absurd hle (not_le.mpr (levelAt_ne_normal hover.1 hover.2))
  · rintro ⟨hopen, hopen', hcross⟩
    refine ⟨_, _, level_eq_ok hopen, level_eq_ok hopen', ?_⟩
    by_cases hpos : 0 < sch.available lockedTokens'
    · exact strength_levelAt_le htotal hpos hleft
    · -- Nothing is left behind the step, so there must be no overflow before it.
      rw [levelAt_eq_normal]
      · exact Nat.zero_le _
      · rcases lt_or_eq_of_le (not_lt.mp hpos) with hneg | hzero
        · have h := hcross hneg
          omega
        · have hnone := hopen'.resolve_left (not_not.mpr hzero)
          omega

theorem level_mono_iff_raised :
    (∃ level level', (TokenBudgetScheduler.new 110000).level [(.rag, 5000)] 0 = .ok level ∧
      (TokenBudgetScheduler.new 110000).level [(.rag, 200000), (.web, 10)] 1000 = .ok level' ∧
      level.strength ≤ level'.strength) ↔
    Measurable (TokenBudgetScheduler.new 110000) [(.rag, 5000)] 0 ∧
      Measurable (TokenBudgetScheduler.new 110000) [(.rag, 200000), (.web, 10)] 1000 ∧
      ((TokenBudgetScheduler.new 110000).available 1000 < 0 →
        ¬ (0 < (TokenBudgetScheduler.new 110000).available 0 ∧
          (TokenBudgetScheduler.new 110000).available 0 <
            TokenCounts.total [(.rag, 5000)])) :=
  level_mono_iff (by decide) (by decide) (fun st => by cases st <;> decide) (by decide)

/-- A history that leaves less than nothing turns the strongest level into none, and
    one that leaves just nothing is divided by. -/
theorem level_falls_back :
    (TokenBudgetScheduler.new 110000).level [(.rag, 300000)] 0 = .ok .compact ∧
      (TokenBudgetScheduler.new 110000).level [(.rag, 300000)] 109000 = .ok .normal ∧
      (TokenBudgetScheduler.new 110000).level [(.rag, 300000)] 108000 =
        .error .zeroDivisionError := by
  decide +kernel

end Scheduler

end AgenticRag

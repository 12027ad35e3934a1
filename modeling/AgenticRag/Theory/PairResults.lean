import AgenticRag.Theory.Fallback
import AgenticRag.Theory.PairNumbering

/-!
# The Results of a Batch Run

The pair verifier fills in a result for every pair by the rules, takes the
pairs that are left open in batches to the model, and writes the answers back
under the numbers the pairs had at first. This module says that the two
translations of numbers and the cuts of the budget do no harm: the results
stay with their pairs, the calls are those the number of open pairs and the
budget allow, and where one answer cannot be read nothing else changes.

The last is a comparison of two runs, of which the second meets one failure
more. They agree outside a set of positions from the start, and a batch keeps
them so: the failure touches one position of one batch, and that is the
position of its pair (`processBatches_agree`).

## Main definitions

* `FailsOnce`: A second verifier, which meets one failure more.
* `AgreeOff`: Two lists agree outside a set of positions.

## Theorems

* `processBatches_fuel`: The batches come to an end.
* `processBatches_agree`: A failure changes the result of its pair only.
* `verifyPairs_results`: The whole check.
-/

namespace AgenticRag

open Py Ordered

/-- A second verifier differs from a first in that the verdict at one position
    of one call cannot be read. -/
structure FailsOnce (pv pv' : PairVerifier) (call position : Nat) : Prop where
  config : pv'.config = pv.config
  calls : pv'.maxLlmCalls = pv.maxLlmCalls
  rules : pv'.ruleCheckFact = pv.ruleCheckFact
  verdicts : ∀ used batch, pv'.verifyBatch used batch =
    if used = call then (pv.verifyBatch used batch).set position none
    else pv.verifyBatch used batch

section Calls

variable (pv : PairVerifier)

/-- A batch of at least one pair takes one from the number of batches. -/
theorem batches_drop {k size : Nat} (hk : 1 ≤ k) (hsize : 1 ≤ size) :
    (k - size + size - 1) / size + 1 ≤ (k + size - 1) / size := by
  by_cases hle : size ≤ k
  · have hsplit : k + size - 1 = (k - size + size - 1) + size := by omega
    rw [hsplit, Nat.add_div_right _ hsize]
  · have hnone : (k - size + size - 1) / size = 0 := Nat.div_eq_of_lt (by omega)
    rw [hnone, Nat.zero_add, Nat.le_div_iff_mul_le hsize]
    omega

/-- A run makes one call for each batch, as far as the budget goes. -/
theorem processBatches_calls (hsize : 1 ≤ pv.config.batchSize) (fuel used : Nat)
    (pending : List (Nat × PairInput)) (results : List PairResult) :
    used ≤ (pv.processBatches fuel used pending results).2 ∧
      (pv.processBatches fuel used pending results).2 ≤ max used pv.maxLlmCalls ∧
      (pv.processBatches fuel used pending results).2 ≤
        used + (pending.length + pv.config.batchSize - 1) / pv.config.batchSize := by
  induction fuel generalizing used pending results with
  | zero => exact ⟨le_refl _, le_max_left _ _, Nat.le_add_right _ _⟩
  | succ fuel ih =>
      cases pending with
      | nil => exact ⟨le_refl _, le_max_left _ _, Nat.le_add_right _ _⟩
      | cons p rest =>
          rw [PairVerifier.processBatches]
          by_cases hb : pv.maxLlmCalls ≤ used
          · rw [if_pos hb]
            exact ⟨le_refl _, le_max_left _ _, Nat.le_add_right _ _⟩
          · rw [if_neg hb]
            dsimp only
            -- What is written back does not bear on the calls.
            generalize List.foldl _ results _ = filled
            rcases ih (used + 1) ((p :: rest).drop pv.config.batchSize) filled with
              ⟨hlow, hbudget, hbatches⟩
            have hone := batches_drop (k := (p :: rest).length)
              (Nat.succ_le_of_lt (List.length_pos_iff.mpr (List.cons_ne_nil p rest))) hsize
            rw [List.length_drop] at hbatches
            exact ⟨by omega, by omega, by omega⟩

/-- Every batch takes a pair, so fuel for every pair is enough. -/
theorem processBatches_fuel (hsize : 1 ≤ pv.config.batchSize) (fuel extra used : Nat)
    (pending : List (Nat × PairInput)) (results : List PairResult)
    (hfuel : pending.length ≤ fuel) :
    pv.processBatches (fuel + extra) used pending results =
      pv.processBatches fuel used pending results := by
  induction fuel generalizing used pending results with
  | zero =>
      rw [List.length_eq_zero_iff.mp (Nat.le_zero.mp hfuel)]
      cases extra <;> rfl
  | succ fuel ih =>
      cases pending with
      | nil =>
          rw [Nat.succ_add]
          rfl
      | cons p rest =>
          rw [Nat.succ_add, PairVerifier.processBatches, PairVerifier.processBatches]
          by_cases hb : pv.maxLlmCalls ≤ used
          · rw [if_pos hb, if_pos hb]
          · rw [if_neg hb, if_neg hb]
            -- A batch takes at least the pair in front.
            refine ih _ _ _ ?_
            rw [List.length_drop]
            simp only [List.length_cons] at hfuel ⊢
            omega

end Calls

section Agreement

/-- Two lists agree outside a set of positions. -/
def AgreeOff (E : Nat → Prop) (results results' : List PairResult) : Prop :=
  ∀ j, ¬ E j → results'[j]? = results[j]?

/-- Rewriting alike outside the set keeps two lists in agreement there. -/
theorem AgreeOff.foldl_modify {β : Type} {E : Nat → Prop} (index : β → Nat)
    {f g : β → PairResult → PairResult} {bs : List β}
    (hfg : ∀ b ∈ bs, ¬ E (index b) → g b = f b) {results results' : List PairResult}
    (h : AgreeOff E results results') :
    AgreeOff E (bs.foldl (fun rs b => rs.modify (index b) (f b)) results)
      (bs.foldl (fun rs b => rs.modify (index b) (g b)) results') := by
  induction bs generalizing results results' with
  | nil => exact h
  | cons b rest ih =>
      rw [List.foldl_cons, List.foldl_cons]
      refine ih (fun c hc => hfg c (List.mem_cons_of_mem b hc)) fun j hj => ?_
      rw [List.getElem?_modify, List.getElem?_modify, h j hj]
      by_cases hb : index b = j
      · subst hb
        rw [hfg b List.mem_cons_self hj]
      · simp only [hb, if_false]

variable {pv pv' : PairVerifier} {call position : Nat}

theorem FailsOnce.degradeToRule (h : FailsOnce pv pv' call position) (used : Nat) :
    pv'.degradeToRule used = pv.degradeToRule used := by
  funext r
  rw [PairVerifier.degradeToRule, PairVerifier.degradeToRule, h.calls]

theorem FailsOnce.backfill (h : FailsOnce pv pv' call position) (used : Nat)
    (verdict : Option (String × String)) :
    pv'.backfill used verdict = pv.backfill used verdict := by
  funext r
  cases verdict with
  | none => exact congrFun (h.degradeToRule used) r
  | some v => rfl

/-- Off the position that fails, the verdicts of a call are the same. -/
theorem FailsOnce.verdict_eq (h : FailsOnce pv pv' call position) {used i : Nat}
    (hi : used = call → i ≠ position) (batch : List PairInput) :
    (pv'.verifyBatch used batch)[i]? = (pv.verifyBatch used batch)[i]? := by
  rw [h.verdicts]
  by_cases hcall : used = call
  · rw [if_pos hcall, List.getElem?_set_ne (fun heq => hi hcall heq.symm)]
  · rw [if_neg hcall]

/-- Two runs, of which the second meets one failure more, agree outside a set
    that has the pair of the failure. The induction is on the batches: in the
    batch of the failing call it touches one position, in the others none. -/
theorem FailsOnce.processBatches_agree (h : FailsOnce pv pv' call position)
    (hsize : 1 ≤ pv.config.batchSize) {E : Nat → Prop} (fuel used : Nat)
    (pending : List (Nat × PairInput))
    (hE : ∀ q p, pending[q]? = some p → used + q / pv.config.batchSize = call →
      q % pv.config.batchSize = position → E p.1)
    {results results' : List PairResult} (hagree : AgreeOff E results results') :
    AgreeOff E (pv.processBatches fuel used pending results).1
        (pv'.processBatches fuel used pending results').1 ∧
      (pv'.processBatches fuel used pending results').2 =
        (pv.processBatches fuel used pending results).2 := by
  induction fuel generalizing used pending results results' with
  | zero => exact ⟨hagree, rfl⟩
  | succ fuel ih =>
      cases pending with
      | nil => exact ⟨hagree, rfl⟩
      | cons p rest =>
          rw [PairVerifier.processBatches, PairVerifier.processBatches, h.calls]
          by_cases hb : pv.maxLlmCalls ≤ used
          · rw [if_pos hb, if_pos hb, h.degradeToRule]
            exact ⟨hagree.foldl_modify Prod.fst (f := fun _ => pv.degradeToRule used)
              (g := fun _ => pv.degradeToRule used) (fun _ _ _ => rfl), rfl⟩
          rw [if_neg hb, if_neg hb, h.config]
          refine ih (used + 1) ((p :: rest).drop pv.config.batchSize) ?_ ?_
          · -- A later pair keeps its call and its position in the batch.
            intro q r hq hcall hposition
            rw [List.getElem?_drop, Nat.add_comm] at hq
            refine hE _ r hq ?_ ?_
            · rw [Nat.add_div_right _ hsize]
              omega
            · rw [Nat.add_mod_right, hposition]
          · refine hagree.foldl_modify (fun q : (Nat × PairInput) × Nat => q.1.1) ?_
            rintro ⟨r, i⟩ hmem hoff
            rw [h.backfill, h.verdict_eq]
            -- The position that fails belongs to a pair of the set.
            rintro hcall rfl
            have hat := (List.mem_zipIdx_iff_getElem?.mp hmem)
            have hlt : i < pv.config.batchSize := by
              have hlen := (List.getElem?_eq_some_iff.mp hat).1
              rw [List.length_take] at hlen
              omega
            rw [List.getElem?_take_of_lt hlt] at hat
            refine hoff (hE i r hat ?_ (Nat.mod_eq_of_lt hlt))
            rw [Nat.div_eq_of_lt hlt, Nat.add_zero, hcall]

end Agreement

section Verification

variable {pv : PairVerifier} {pairs : List PairInput}

/-- Whatever a run from some number of calls ends with, its results stay with
    their pairs and its calls are within the batches and the budget. -/
theorem verifyPairs_calls (hsize : 1 ≤ pv.config.batchSize) (used : Nat) :
    ∃ results used', pv.verifyPairs used pairs = .ok (results, used') ∧
      used ≤ used' ∧ used' ≤ max used pv.maxLlmCalls ∧
      used' ≤ used +
        ((pv.openPairs pairs).length + pv.config.batchSize - 1) / pv.config.batchSize := by
  unfold PairVerifier.verifyPairs
  by_cases hnil : pairs.isEmpty = true
  · rw [if_pos hnil]
    exact ⟨_, _, rfl, le_refl _, le_max_left _ _, Nat.le_add_right _ _⟩
  rw [if_neg hnil]
  by_cases hbudget : pv.maxLlmCalls ≤ used
  · rw [if_pos hbudget]
    exact ⟨_, _, rfl, le_refl _, le_max_left _ _, Nat.le_add_right _ _⟩
  rw [if_neg hbudget, if_neg (by omega)]
  exact ⟨_, _, rfl, processBatches_calls pv hsize _ used (pv.openPairs pairs) _⟩

/-- A verifier that meets one failure more starts from the same results and
    leaves the same pairs open. -/
theorem FailsOnce.start {pv' : PairVerifier} {call position : Nat}
    (h : FailsOnce pv pv' call position) :
    pairs.map pv'.initialResult = pairs.map pv.initialResult ∧
      pv'.openPairs pairs = pv.openPairs pairs := by
  have hrule : pv'.ruleCheck = pv.ruleCheck := by
    funext pair
    rw [PairVerifier.ruleCheck, PairVerifier.ruleCheck, h.rules]
  have hskip : pv'.shouldSkipLlm = pv.shouldSkipLlm := by
    funext rule
    rw [PairVerifier.shouldSkipLlm, PairVerifier.shouldSkipLlm, h.config]
  have hinit : pv'.initialResult = pv.initialResult := by
    funext pair
    rw [PairVerifier.initialResult, PairVerifier.initialResult, hrule, hskip]
  unfold PairVerifier.openPairs PairVerifier.isOpen
  rw [hinit, hrule, hskip]
  exact ⟨rfl, rfl⟩

/-- A failure more at the verdict of one open pair changes the result of that
    pair only. -/
theorem verifyPairs_isolated (hsize : 1 ≤ pv.config.batchSize) {used used' q : Nat}
    {results : List PairResult} (hrun : pv.verifyPairs used pairs = .ok (results, used'))
    {pv' : PairVerifier}
    (h : FailsOnce pv pv' (used + q / pv.config.batchSize) (q % pv.config.batchSize)) :
    ∃ results', pv'.verifyPairs used pairs = .ok (results', used') ∧
      ∀ j, (∀ pair, (pv.openPairs pairs)[q]? ≠ some (j, pair)) → results'[j]? = results[j]? := by
  have hstart : pairs.map pv'.initialResult = pairs.map pv.initialResult ∧
      pv'.openPairs pairs = pv.openPairs pairs := h.start
  rcases hstart with ⟨hinit, hopen⟩
  unfold PairVerifier.verifyPairs at hrun ⊢
  by_cases hnil : pairs.isEmpty = true
  · rw [if_pos hnil] at hrun ⊢
    exact ⟨results, hrun, fun _ _ => rfl⟩
  rw [if_neg hnil] at hrun ⊢
  unfold PairVerifier.openPairs PairVerifier.isOpen at hopen
  rw [h.calls, h.config, hinit, hopen]
  by_cases hbudget : pv.maxLlmCalls ≤ used
  · rw [if_pos hbudget] at hrun ⊢
    rw [h.degradeToRule]
    exact ⟨results, hrun, fun _ _ => rfl⟩
  rw [if_neg hbudget, if_neg (by omega)] at hrun ⊢
  -- The two runs agree off the position of the open pair that failed.
  have hsame : AgreeOff (fun j => ∃ pair, (pv.openPairs pairs)[q]? = some (j, pair))
      (pairs.map pv.initialResult) (pairs.map pv.initialResult) := fun _ _ => rfl
  rcases h.processBatches_agree hsize
    (E := fun j => ∃ pair, (pv.openPairs pairs)[q]? = some (j, pair))
    (pv.openPairs pairs).length used (pv.openPairs pairs) (fun q' p hp hcall hposition => by
      have hat : q' = q := by
        have hdiv : q' / pv.config.batchSize = q / pv.config.batchSize := by omega
        rw [← Nat.div_add_mod q' pv.config.batchSize, ← Nat.div_add_mod q pv.config.batchSize,
          hdiv, hposition]
      subst hat
      exact ⟨p.2, hp⟩)
    hsame with ⟨hagree, hcalls⟩
  have hends : _ = results := congrArg Prod.fst (Except.ok.inj hrun)
  have hused : _ = used' := congrArg Prod.snd (Except.ok.inj hrun)
  refine ⟨_, congrArg Except.ok (Prod.ext rfl (hcalls.trans hused)), fun j hj => ?_⟩
  rw [← hends]
  exact hagree j fun ⟨pair, hpair⟩ => hj pair hpair

/-- The results of a batch run. There is one for each pair, about its evidence
    and with what the rule layer said; there are no more calls than batches of
    the open pairs, and no more than the budget has left; and where one more
    verdict cannot be read, only the result of its pair is another. -/
theorem verifyPairs_results (hsize : 1 ≤ pv.config.batchSize) (used : Nat) :
    ∃ (results : List PairResult) (used' : Nat), pv.verifyPairs used pairs = .ok (results, used') ∧
      results.length = pairs.length ∧
      (∀ (i : Nat) (pair : PairInput), pairs[i]? = some pair →
        ∃ r : PairResult, results[i]? = some r ∧ r.evidenceId = pair.evidenceId ∧
          r.ruleResult = (pv.ruleCheck pair).ruleResult) ∧
      used ≤ used' ∧
      used' - used ≤
        ((pv.openPairs pairs).length + pv.config.batchSize - 1) / pv.config.batchSize ∧
      used' - used ≤ pv.maxLlmCalls - used ∧
      ∀ q pv', FailsOnce pv pv' (used + q / pv.config.batchSize) (q % pv.config.batchSize) →
        ∃ results', pv'.verifyPairs used pairs = .ok (results', used') ∧
          ∀ j, (∀ pair, (pv.openPairs pairs)[q]? ≠ some (j, pair)) →
            results'[j]? = results[j]? := by
  rcases @verifyPairs_calls pv pairs hsize used with
    ⟨results, used', hrun, hlow, hbudget, hbatches⟩
  have hfixed := verifyPairs_fixed pv used pairs results used' hrun
  refine ⟨results, used', hrun, ?_, ?_, hlow, by omega, by omega,
    fun q pv' h => verifyPairs_isolated hsize hrun h⟩
  · have hlength := congrArg List.length hfixed
    rwa [List.length_map, List.length_map] at hlength
  · intro i pair hpair
    have hat := congrArg (·[i]?) hfixed
    simp only [List.getElem?_map, hpair, Option.map_some] at hat
    rcases Option.map_eq_some_iff.mp hat with ⟨r, hr, heq⟩
    exact ⟨r, hr, congrArg Prod.fst heq, congrArg Prod.snd heq⟩

end Verification

section Samples

/-- A verifier whose rule check leaves everything open and whose model answers
    the first pair of a batch. -/
def firstOnlyVerifier : PairVerifier where
  config := { batchSize := 1 }
  ruleCheckFact := fun _ _ => some { ruleResult := "UNKNOWN" }
  callLlm := fun _ _ => some "[1]"
  jsonLoads := fun text => some (.list
    (if text = "[1]" then [.dict (verdictObject 1 "entailment" "SUPPORTED")] else []))
  unicode := plainUnicode

/-- The same, but the first call is answered by nothing. -/
def silentAtFirst : PairVerifier :=
  { firstOnlyVerifier with callLlm := fun used _ => some (if used = 0 then "[]" else "[1]") }

theorem failsOnce_silentAtFirst : FailsOnce firstOnlyVerifier silentAtFirst 0 0 := by
  refine ⟨rfl, rfl, rfl, fun used batch => ?_⟩
  by_cases hused : used = 0
  · rw [if_pos hused, hused]
    refine List.ext_getElem? fun i => ?_
    change (parseBatchResponse plainUnicode firstOnlyVerifier.jsonLoads "[]" batch.length)[i]? =
      ((parseBatchResponse plainUnicode firstOnlyVerifier.jsonLoads "[1]" batch.length).set
        0 none)[i]?
    by_cases hi : i < batch.length
    · have hempty : firstOnlyVerifier.jsonLoads (unfence "[]") = some (.list []) := rfl
      have hnone : verdictItems (.list []) = some (([] : List Dict).map Val.dict) := rfl
      have hone : verdictItems (.list [.dict (verdictObject 1 "entailment" "SUPPORTED")]) =
          some ([verdictObject 1 "entailment" "SUPPORTED"].map Val.dict) := rfl
      rw [parseBatchResponse_getElem? (by decide) hempty hnone hi]
      rcases Nat.eq_zero_or_pos i with rfl | hpos
      · rw [List.getElem?_set_self (by rwa [length_parseBatchResponse])]
        rfl
      · rw [List.getElem?_set_ne (by omega),
          parseBatchResponse_getElem? (by decide) rfl hone hi]
        -- The one object is filed under the first position.
        have hnone : (dictOf (positions batch.length
            [verdictObject 1 "entailment" "SUPPORTED"])).lookup (i + 1) = none := by
          refine lookup_eq_none_of_not_mem fun hmem => ?_
          rcases List.mem_map.mp hmem with ⟨⟨k, item⟩, hitem, hk⟩
          rcases mem_positions.mp (mem_dictOf _ _ hitem) with ⟨hone, hposition⟩
          rw [List.mem_singleton.mp hone, pairPosition_of_pos (j := 1) rfl (le_refl 1) (by omega),
            Option.some.injEq] at hposition
          have hkey : k = i + 1 := hk
          omega
        rw [hnone]
        rfl
    · rw [List.getElem?_eq_none (by rw [length_parseBatchResponse]; omega),
        List.getElem?_eq_none (by rw [List.length_set, length_parseBatchResponse]; omega)]
  · rw [if_neg hused]
    change parseBatchResponse plainUnicode firstOnlyVerifier.jsonLoads
      (if used = 0 then "[]" else "[1]") batch.length = _
    rw [if_neg hused]
    rfl

/-- Two pairs, each a batch of its own. -/
def twoPairs : List PairInput := [⟨"营收增长", "营收增长了", "e1"⟩, ⟨"成本下降", "成本下降了", "e2"⟩]

/-- Where the first answer is not there, the second result is as before. -/
theorem verifyPairs_results_twoPairs :
    1 ≤ firstOnlyVerifier.config.batchSize ∧
      FailsOnce firstOnlyVerifier silentAtFirst 0 0 ∧
      ∃ results used', firstOnlyVerifier.verifyPairs 0 twoPairs = .ok (results, used') ∧
        used' ≤ 2 ∧
        ∃ results', silentAtFirst.verifyPairs 0 twoPairs = .ok (results', used') ∧
          results'[1]? = results[1]? := by
  rcases @verifyPairs_results firstOnlyVerifier twoPairs (by decide) 0 with
    ⟨results, used', hrun, -, -, -, hbatches, -, hisolated⟩
  rcases hisolated 0 silentAtFirst failsOnce_silentAtFirst with ⟨results', hrun', hsame⟩
  have hopen : firstOnlyVerifier.openPairs twoPairs =
      [(0, ⟨"营收增长", "营收增长了", "e1"⟩), (1, ⟨"成本下降", "成本下降了", "e2"⟩)] := rfl
  rw [hopen] at hbatches
  refine ⟨by decide, failsOnce_silentAtFirst, results, used', hrun, ?_, results', hrun',
    hsame 1 fun pair hpair => ?_⟩
  · exact hbatches
  · rw [hopen] at hpair
    cases hpair

end Samples

end AgenticRag

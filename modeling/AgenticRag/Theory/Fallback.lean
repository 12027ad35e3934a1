import AgenticRag.Core.FactChecker

/-!
# What the Pair Verifier Falls Back To

A pair the rule layer cannot decide goes to the model, and when the model
gives no usable answer the pair falls back to the rule layer. A rule layer
that could not decide has reported support, so the fallback turns the failure
of one layer into the support of three.

`verifyPairs_getElem?` says what each pair ends with: the rule layer's answer
where that settles it, and otherwise what the model's answer for the pair, if
there is one, makes of the rule layer's. The answer for a pair is written down
without the loop over the batches (`verdictAt`): it is at the pair's place in
its batch, in the answer to that batch's call.

From there the promise to fail closed is decided pair by pair
(`verifyPairs_failClosed_iff`): it is kept exactly when every pair whose claim
has no entity, or whose rule check raised, gets an answer that can be read.

## Main definitions

* `ruleLayer`: The rule check, which may raise.
* `FailClosed`: The promise.

## Theorems

* `processBatches_fills`: What the batches leave at a position.
* `verifyPairs_failClosed_iff`: When the promise is kept.
-/

namespace AgenticRag

open Py Ordered FactChecker

/-- The rule check of the fact checker. `raises` tells on which inputs it
    raises instead. -/
def ruleLayer (u : Unicode) (floatRepr : ℚ → String) (raises : String → List String → Bool)
    (claim : String) (docs : List String) : Option RuleCheck :=
  if raises claim docs then none else some (ruleCheckFact u floatRepr claim docs)

/-- The documents the rule check of a pair is given. -/
def PairInput.docs (pair : PairInput) : List String :=
  if pair.evidenceContent = "" then [] else [pair.evidenceContent]

section Batches

variable (pv : PairVerifier)

/-- Whether a pair goes to the model. -/
def PairVerifier.isOpen (pair : PairInput) : Bool :=
  !pv.shouldSkipLlm (pv.ruleCheck pair)

/-- What the model said about the pair at a position of the open pairs. The
    pairs are taken in batches, one call a batch while calls are left. -/
def PairVerifier.verdictAt (used : Nat) (pending : List PairInput) (j : Nat) :
    Option (String × String) :=
  let size := pv.config.batchSize
  let k := j / size
  if pv.maxLlmCalls ≤ used + k then none
  else ((pv.verifyBatch (used + k) ((pending.drop (k * size)).take size))[j % size]?).getD none

/-- What the model said about the pair at a position of all pairs. -/
def PairVerifier.modelVerdict (used : Nat) (pairs : List PairInput) (i : Nat) :
    Option (String × String) :=
  match pairs[i]? with
  | none => none
  | some pair =>
      if pv.isOpen pair then
        pv.verdictAt used (pairs.filter pv.isOpen) ((pairs.take i).countP pv.isOpen)
      else none

variable {pv}

/-- Without calls left nothing is said. -/
theorem verdictAt_of_exhausted {used : Nat} (h : pv.maxLlmCalls ≤ used)
    (pending : List PairInput) (j : Nat) : pv.verdictAt used pending j = none := by
  unfold PairVerifier.verdictAt
  exact if_pos (le_trans h (Nat.le_add_right _ _))

/-- The pairs of the first batch are answered by the first call. -/
theorem verdictAt_first {used : Nat} (h : ¬ pv.maxLlmCalls ≤ used) (pending : List PairInput)
    {j : Nat} (hj : j < pv.config.batchSize) :
    pv.verdictAt used pending j =
      ((pv.verifyBatch used (pending.take pv.config.batchSize))[j]?).getD none := by
  unfold PairVerifier.verdictAt
  simp only [Nat.div_eq_of_lt hj, Nat.mod_eq_of_lt hj, Nat.add_zero, Nat.zero_mul, List.drop_zero,
    if_neg h]

/-- The pairs behind the first batch are answered as if it had not been
    there. -/
theorem verdictAt_rest {used : Nat} (hsize : 0 < pv.config.batchSize) (pending : List PairInput)
    (j : Nat) :
    pv.verdictAt (used + 1) (pending.drop pv.config.batchSize) j =
      pv.verdictAt used pending (j + pv.config.batchSize) := by
  unfold PairVerifier.verdictAt
  have hdiv : (j + pv.config.batchSize) / pv.config.batchSize = j / pv.config.batchSize + 1 :=
    Nat.add_div_right j hsize
  have hdrop : pv.config.batchSize + j / pv.config.batchSize * pv.config.batchSize =
      (j / pv.config.batchSize + 1) * pv.config.batchSize := by
    rw [Nat.add_mul, Nat.one_mul, Nat.add_comm]
  have hused : used + 1 + j / pv.config.batchSize = used + (j / pv.config.batchSize + 1) := by
    omega
  simp only [hdiv, Nat.add_mod_right, List.drop_drop, hdrop, hused]

/-- The results after the verdicts on one batch were written into them. -/
def PairVerifier.fillBatch (pv : PairVerifier) (used : Nat) (batch : List (Nat × PairInput))
    (verdicts : List (Option (String × String))) (results : List PairResult) : List PairResult :=
  batch.zipIdx.foldl (fun rs q =>
    rs.modify q.1.1 (pv.backfill (used + 1) ((verdicts[q.2]?).getD none))) results

theorem fillBatch_of_not_mem (used : Nat) {batch : List (Nat × PairInput)}
    (verdicts : List (Option (String × String))) (results : List PairResult) {i : Nat}
    (hi : i ∉ batch.map Prod.fst) :
    (pv.fillBatch used batch verdicts results)[i]? = results[i]? := by
  refine getElem?_foldl_modify_of_not_mem (fun q : (Nat × PairInput) × Nat => q.1.1) _ _ _ ?_
  intro q hq heq
  exact hi (List.mem_map.mpr ⟨q.1, List.fst_mem_of_mem_zipIdx hq, heq⟩)

theorem fillBatch_getElem? (used : Nat) {batch : List (Nat × PairInput)}
    (hnd : (batch.map Prod.fst).Nodup) (verdicts : List (Option (String × String)))
    (results : List PairResult) {j : Nat} {q : Nat × PairInput} (hq : batch[j]? = some q) :
    (pv.fillBatch used batch verdicts results)[q.1]? =
      (results[q.1]?).map (pv.backfill (used + 1) ((verdicts[j]?).getD none)) := by
  have hindices : (batch.zipIdx.map (fun q : (Nat × PairInput) × Nat => q.1.1)).Nodup := by
    have hmap : batch.zipIdx.map (fun q : (Nat × PairInput) × Nat => q.1.1) =
        (batch.zipIdx.map Prod.fst).map Prod.fst := by
      rw [List.map_map]
      rfl
    rw [hmap, List.zipIdx_map_fst]
    exact hnd
  exact getElem?_foldl_modify (fun q : (Nat × PairInput) × Nat => q.1.1) _ _ hindices results
    (List.mk_mem_zipIdx_iff_getElem?.mpr hq)

/-- What a stage leaves at a position: nothing changes where no pair was
    open, and an open pair is filled from the verdict on it. -/
structure PairVerifier.Fills (pv : PairVerifier) (pending : List (Nat × PairInput))
    (verdict : Nat → Option (String × String)) (results results' : List PairResult) : Prop where
  kept : ∀ i, i ∉ pending.map Prod.fst → results'[i]? = results[i]?
  filled : ∀ j q, pending[j]? = some q →
    ∃ n, results'[q.1]? = (results[q.1]?).map (pv.backfill n (verdict j))

variable {pending : List (Nat × PairInput)} {verdict : Nat → Option (String × String)}
  {results mid results' : List PairResult}

theorem fills_nil : pv.Fills [] verdict results results := by
  refine ⟨fun _ _ => rfl, ?_⟩
  intro j q hq
  rw [List.getElem?_nil] at hq
  cases hq

/-- Only the verdicts on the pairs there are matter. -/
theorem PairVerifier.Fills.congr {verdict' : Nat → Option (String × String)}
    (h : pv.Fills pending verdict results results')
    (hsame : ∀ j, j < pending.length → verdict j = verdict' j) :
    pv.Fills pending verdict' results results' := by
  refine ⟨h.kept, ?_⟩
  intro j q hq
  rw [← hsame j (List.getElem?_eq_some_iff.mp hq).1]
  exact h.filled j q hq

/-- Without a verdict all that is open falls back. -/
theorem fills_degrade (hnd : (pending.map Prod.fst).Nodup) (used : Nat) :
    pv.Fills pending (fun _ => none) results
      (pending.foldl (fun rs q => rs.modify q.1 (pv.degradeToRule used)) results) := by
  constructor
  · intro i hi
    exact getElem?_foldl_modify_of_not_mem Prod.fst (fun _ => pv.degradeToRule used) _ _
      (fun q hq heq => hi (heq ▸ List.mem_map_of_mem hq))
  · intro j q hq
    exact ⟨used, getElem?_foldl_modify Prod.fst (fun _ => pv.degradeToRule used) _ hnd _
      (List.mem_of_getElem? hq)⟩

theorem fills_fillBatch (hnd : (pending.map Prod.fst).Nodup) (used : Nat)
    (verdicts : List (Option (String × String))) :
    pv.Fills pending (fun j => (verdicts[j]?).getD none) results
      (pv.fillBatch used pending verdicts results) :=
  ⟨fun _ hi => fillBatch_of_not_mem used verdicts results hi,
    fun _ _ hq => ⟨used + 1, fillBatch_getElem? used hnd verdicts results hq⟩⟩

/-- Two stages over different pairs leave each other's alone. -/
theorem PairVerifier.Fills.append {later : List (Nat × PairInput)}
    (hnd : ((pending ++ later).map Prod.fst).Nodup)
    (hfirst : pv.Fills pending verdict results mid)
    (hlater : pv.Fills later (fun j => verdict (pending.length + j)) mid results') :
    pv.Fills (pending ++ later) verdict results results' := by
  rw [List.map_append] at hnd
  have hdisjoint := List.disjoint_of_nodup_append hnd
  constructor
  · intro i hi
    rw [List.map_append, List.mem_append, not_or] at hi
    exact (hlater.kept i hi.2).trans (hfirst.kept i hi.1)
  · intro j q hq
    by_cases hj : j < pending.length
    · rw [List.getElem?_append_left hj] at hq
      have hnot : q.1 ∉ later.map Prod.fst :=
        hdisjoint (List.mem_map_of_mem (List.mem_of_getElem? hq))
      rcases hfirst.filled j q hq with ⟨n, hn⟩
      exact ⟨n, (hlater.kept q.1 hnot).trans hn⟩
    · rw [List.getElem?_append_right (Nat.le_of_not_lt hj)] at hq
      have hnot : q.1 ∉ pending.map Prod.fst := fun hmem =>
        hdisjoint hmem (List.mem_map_of_mem (List.mem_of_getElem? hq))
      rcases hlater.filled _ q hq with ⟨n, hn⟩
      rw [Nat.add_sub_of_le (Nat.le_of_not_lt hj), hfirst.kept q.1 hnot] at hn
      exact ⟨n, hn⟩

/-- The batches fill every open pair from what the model said about it. -/
theorem processBatches_fills (hsize : 0 < pv.config.batchSize) (fuel used : Nat)
    (pending : List (Nat × PairInput)) (hfuel : pending.length ≤ fuel)
    (hnd : (pending.map Prod.fst).Nodup) (results : List PairResult) :
    pv.Fills pending (pv.verdictAt used (pending.map Prod.snd)) results
      (pv.processBatches fuel used pending results).1 := by
  induction fuel generalizing used pending results with
  | zero =>
      rw [List.length_eq_zero_iff.mp (Nat.le_zero.mp hfuel)]
      exact fills_nil
  | succ fuel ih =>
      cases pending with
      | nil => exact fills_nil
      | cons p rest =>
          rw [PairVerifier.processBatches]
          by_cases hcalls : pv.maxLlmCalls ≤ used
          · rw [if_pos hcalls]
            refine (fills_degrade hnd used).congr ?_
            intro j _
            rw [verdictAt_of_exhausted hcalls]
          · rw [if_neg hcalls]
            generalize hps : p :: rest = ps at hfuel hnd ⊢
            have hparts : ps.take pv.config.batchSize ++ ps.drop pv.config.batchSize = ps :=
              List.take_append_drop _ _
            have hbatch : ((ps.take pv.config.batchSize).map Prod.fst).Nodup :=
              hnd.sublist ((List.take_sublist _ _).map _)
            have hlater : ((ps.drop pv.config.batchSize).map Prod.fst).Nodup :=
              hnd.sublist ((List.drop_sublist _ _).map _)
            have hshorter : (ps.drop pv.config.batchSize).length ≤ fuel := by
              have hpos : 0 < ps.length := by rw [← hps]; exact Nat.succ_pos _
              rw [List.length_drop]
              omega
            -- The first batch is answered by this call, the rest by the later ones.
            have hfirst : pv.Fills (ps.take pv.config.batchSize)
                (pv.verdictAt used (ps.map Prod.snd)) results
                (pv.fillBatch used (ps.take pv.config.batchSize)
                  (pv.verifyBatch used ((ps.take pv.config.batchSize).map Prod.snd)) results) := by
              refine (fills_fillBatch hbatch used _).congr ?_
              intro j hj
              rw [List.length_take] at hj
              rw [verdictAt_first hcalls _ (by omega), List.map_take]
            have hrest := ih (used + 1) (ps.drop pv.config.batchSize) hshorter hlater
              (pv.fillBatch used (ps.take pv.config.batchSize)
                (pv.verifyBatch used ((ps.take pv.config.batchSize).map Prod.snd)) results)
            have hsame : ∀ j, j < (ps.drop pv.config.batchSize).length →
                pv.verdictAt (used + 1) ((ps.drop pv.config.batchSize).map Prod.snd) j =
                  pv.verdictAt used (ps.map Prod.snd)
                    ((ps.take pv.config.batchSize).length + j) := by
              intro j hj
              rw [List.length_drop] at hj
              have hfull : (ps.take pv.config.batchSize).length = pv.config.batchSize := by
                rw [List.length_take]
                omega
              rw [List.map_drop, verdictAt_rest hsize, hfull, Nat.add_comm]
            have hall := hfirst.append (by rw [hparts]; exact hnd) (hrest.congr hsame)
            rw [hparts] at hall
            exact hall

end Batches

section Pairs

variable {pv : PairVerifier}

/-- The open pairs under their positions. -/
def PairVerifier.openPairs (pv : PairVerifier) (pairs : List PairInput) : List (Nat × PairInput) :=
  (pairs.zipIdx.filter (fun p => pv.isOpen p.1)).map (fun p => (p.2, p.1))

theorem mem_openPairs {pairs : List PairInput} {q : Nat × PairInput}
    (hq : q ∈ pv.openPairs pairs) : pairs[q.1]? = some q.2 ∧ pv.isOpen q.2 = true := by
  rcases List.mem_map.mp hq with ⟨p, hp, rfl⟩
  rcases List.mem_filter.mp hp with ⟨hmem, hopen⟩
  exact ⟨List.mem_zipIdx_iff_getElem?.mp hmem, hopen⟩

theorem openPairs_nodup (pairs : List PairInput) :
    ((pv.openPairs pairs).map Prod.fst).Nodup := by
  have hmap : (pv.openPairs pairs).map Prod.fst =
      (pairs.zipIdx.filter (fun p => pv.isOpen p.1)).map Prod.snd := by
    rw [PairVerifier.openPairs, List.map_map]
    rfl
  rw [hmap]
  refine List.Nodup.sublist ((List.filter_sublist).map _) ?_
  rw [List.zipIdx_map_snd]
  exact List.nodup_range'

theorem openPairs_map_snd (pairs : List PairInput) :
    (pv.openPairs pairs).map Prod.snd = pairs.filter pv.isOpen := by
  have hmap : (pv.openPairs pairs).map Prod.snd =
      (pairs.zipIdx.filter (fun p => pv.isOpen p.1)).map Prod.fst := by
    rw [PairVerifier.openPairs, List.map_map]
    rfl
  have hfilter : (pairs.zipIdx.map Prod.fst).filter pv.isOpen =
      (pairs.zipIdx.filter (fun p => pv.isOpen p.1)).map Prod.fst :=
    List.filter_map
  rw [hmap, ← hfilter, List.zipIdx_map_fst]

/-- The place of an open pair among the open pairs. -/
theorem getElem?_openPairs {pairs : List PairInput} {i : Nat} {pair : PairInput}
    (hpair : pairs[i]? = some pair) (hopen : pv.isOpen pair = true) :
    (pv.openPairs pairs)[(pairs.take i).countP pv.isOpen]? = some (i, pair) := by
  rw [PairVerifier.openPairs, List.getElem?_map,
    getElem?_filter_zipIdx pv.isOpen pairs 0 i hpair hopen, Nat.zero_add]
  rfl

/-- What a pair ends with: the rule layer's answer where it settles the pair,
    and else what the model said, or the fallback. -/
theorem verifyPairs_getElem? {used : Nat} {pairs : List PairInput} {results : List PairResult}
    {used' : Nat} (h : pv.verifyPairs used pairs = .ok (results, used')) {i : Nat}
    {pair : PairInput} (hpair : pairs[i]? = some pair) :
    (pv.isOpen pair = false → results[i]? = some (pv.initialResult pair)) ∧
      (pv.isOpen pair = true → ∃ n, results[i]? =
        some (pv.backfill n (pv.modelVerdict used pairs i) (pv.initialResult pair))) := by
  have hinit : (pairs.map pv.initialResult)[i]? = some (pv.initialResult pair) := by
    rw [List.getElem?_map, hpair, Option.map_some]
  have hnotin : pv.isOpen pair = false → i ∉ (pv.openPairs pairs).map Prod.fst := by
    intro hclosed hmem
    rcases List.mem_map.mp hmem with ⟨q, hq, rfl⟩
    rcases mem_openPairs hq with ⟨hsame, hopen⟩
    rw [hpair, Option.some.injEq] at hsame
    rw [hsame, hopen] at hclosed
    cases hclosed
  have hverdict : pv.isOpen pair = true → pv.modelVerdict used pairs i =
      pv.verdictAt used ((pv.openPairs pairs).map Prod.snd)
        ((pairs.take i).countP pv.isOpen) := by
    intro hopen
    rw [PairVerifier.modelVerdict, hpair, openPairs_map_snd]
    simp only [hopen, if_true]
  have hne : pairs ≠ [] := by
    rintro rfl
    cases hpair
  -- Whether or not a call is left, the open pairs are filled.
  have hfills : pv.Fills (pv.openPairs pairs)
      (pv.verdictAt used ((pv.openPairs pairs).map Prod.snd)) (pairs.map pv.initialResult)
      results := by
    rw [PairVerifier.verifyPairs, if_neg (by simpa using hne)] at h
    simp only at h
    split_ifs at h with hcalls hsize
    · have hres : _ = results := congrArg Prod.fst (Except.ok.inj h)
      rw [← hres]
      refine (fills_degrade (openPairs_nodup pairs) used).congr ?_
      intro j _
      rw [verdictAt_of_exhausted hcalls]
    · have hres : _ = results := congrArg Prod.fst (Except.ok.inj h)
      rw [← hres]
      exact processBatches_fills (Nat.pos_of_ne_zero hsize) _ used (pv.openPairs pairs) le_rfl
        (openPairs_nodup pairs) (pairs.map pv.initialResult)
  constructor
  · intro hclosed
    rw [← hinit]
    exact hfills.kept i (hnotin hclosed)
  · intro hopen
    rcases hfills.filled _ _ (getElem?_openPairs hpair hopen) with ⟨n, hn⟩
    refine ⟨n, ?_⟩
    rw [hinit] at hn
    rw [hverdict hopen]
    exact hn

end Pairs

section FailClosed

variable (u : Unicode) (floatRepr : ℚ → String) (raises : String → List String → Bool)

/-- Whether the rule layer found the entities of the claim in the evidence. -/
def PairVerifier.PositiveMatch (pv : PairVerifier) (pair : PairInput) : Prop :=
  ∃ rule, pv.ruleCheckFact pair.claimText pair.docs = some rule ∧
    rule.ruleResult = "SUPPORTED" ∧ rule.extractedEntities ≠ []

/-- A pair the rule layer has no say on: its check raised, or the claim has no
    entity. -/
def Undecided (pair : PairInput) : Prop :=
  raises pair.claimText pair.docs = true ∨ FactChecker.extractEntities u pair.claimText = []

/-- The promise to fail closed. A pair the rule layer has no say on, or whose
    evidence is empty, is supported only by an answer of the model that says
    so; and without an answer of the model a pair is supported, with all well,
    only where the rule layer matched. -/
def FailClosed (pv : PairVerifier) (used : Nat) (pairs : List PairInput)
    (results : List PairResult) : Prop :=
  ∀ i pair r, pairs[i]? = some pair → results[i]? = some r → r.pairStatus = .supported →
    (Undecided u raises pair ∨ pair.evidenceContent = "" →
        pv.modelVerdict used pairs i = some ("entailment", "SUPPORTED")) ∧
      (pv.modelVerdict used pairs i = none → r.verifierStatus = .ok → pv.PositiveMatch pair)

variable {u floatRepr raises} {pv : PairVerifier}

theorem ruleCheck_eq (pair : PairInput) :
    pv.ruleCheck pair =
      (pv.ruleCheckFact pair.claimText pair.docs).getD { ruleResult := "SUPPORTED" } :=
  rfl

/-- The rule layer reports support without entities where it has no say. -/
theorem ruleCheck_of_undecided (hrule : pv.ruleCheckFact = ruleLayer u floatRepr raises)
    {pair : PairInput} (h : Undecided u raises pair) :
    pv.ruleCheck pair = { ruleResult := "SUPPORTED" } := by
  rw [ruleCheck_eq, hrule, ruleLayer]
  by_cases hraised : raises pair.claimText pair.docs = true
  · rw [if_pos hraised]
    rfl
  · rw [if_neg hraised, ruleCheckFact_no_entities u floatRepr (h.resolve_left hraised)]
    rfl

/-- Such a pair goes to the model, whatever the short circuit. -/
theorem isOpen_of_undecided (hrule : pv.ruleCheckFact = ruleLayer u floatRepr raises)
    {pair : PairInput} (h : Undecided u raises pair) : pv.isOpen pair = true := by
  rw [PairVerifier.isOpen, ruleCheck_of_undecided hrule h]
  simp [PairVerifier.shouldSkipLlm]

/-- Where the rule layer has a say and reports support, it matched. -/
theorem positiveMatch_of_decided (hrule : pv.ruleCheckFact = ruleLayer u floatRepr raises)
    {pair : PairInput} (h : ¬ Undecided u raises pair)
    (hsupported : (pv.ruleCheck pair).ruleResult = "SUPPORTED") : pv.PositiveMatch pair := by
  unfold Undecided at h
  rw [not_or] at h
  have hfound : pv.ruleCheckFact pair.claimText pair.docs =
      some (ruleCheckFact u floatRepr pair.claimText pair.docs) := by
    rw [hrule, ruleLayer, if_neg h.1]
  rw [ruleCheck_eq, hfound, Option.getD_some] at hsupported
  refine ⟨_, hfound, hsupported, ?_⟩
  rw [ruleCheckFact_entities u floatRepr h.2]
  simpa using h.2

/-- Empty evidence is never matched. -/
theorem ruleCheck_of_empty (hrule : pv.ruleCheckFact = ruleLayer u floatRepr raises)
    {pair : PairInput} (h : ¬ Undecided u raises pair) (hempty : pair.evidenceContent = "") :
    (pv.ruleCheck pair).ruleResult = "NOT_SUPPORTED" := by
  unfold Undecided at h
  rw [not_or] at h
  have hdocs : pair.docs = [] := if_pos hempty
  rw [ruleCheck_eq, hrule, ruleLayer, if_neg h.1, Option.getD_some, hdocs,
    ruleCheckFact_no_docs u floatRepr h.2]

theorem initialResult_ruleResult (pair : PairInput) :
    (pv.initialResult pair).ruleResult = (pv.ruleCheck pair).ruleResult := by
  rw [PairVerifier.initialResult]
  split_ifs <;> rfl

/-- Three layers support together only when each does. -/
theorem aggregatePairStatus_supported {rule nli llm : String}
    (h : aggregatePairStatus rule nli llm = .supported) :
    rule = "SUPPORTED" ∧ nli = "entailment" ∧ llm = "SUPPORTED" := by
  unfold aggregatePairStatus at h
  split_ifs at h with hcontra hall
  exact hall

/-- What a supported result rests on: the rule layer's support, and the
    model's where it was asked and answered. -/
theorem supported_rests_on {used : Nat} {pairs : List PairInput} {results : List PairResult}
    {used' : Nat} (h : pv.verifyPairs used pairs = .ok (results, used')) {i : Nat}
    {pair : PairInput} (hpair : pairs[i]? = some pair) {r : PairResult}
    (hr : results[i]? = some r) (hsupported : r.pairStatus = .supported) :
    (pv.ruleCheck pair).ruleResult = "SUPPORTED" ∧
      ∀ v, pv.modelVerdict used pairs i = some v → v = ("entailment", "SUPPORTED") := by
  rcases verifyPairs_getElem? h hpair with ⟨hclosed, hopened⟩
  cases hopen : pv.isOpen pair with
  | false =>
      have hsame := hr.symm.trans (hclosed hopen)
      rw [Option.some.injEq] at hsame
      have hskip : pv.shouldSkipLlm (pv.ruleCheck pair) = true := by
        simpa [PairVerifier.isOpen] using hopen
      rw [hsame, PairVerifier.initialResult] at hsupported
      simp only [hskip, if_true] at hsupported
      refine ⟨(aggregatePairStatus_supported hsupported).1, ?_⟩
      intro v hv
      rw [PairVerifier.modelVerdict, hpair] at hv
      simp only [hopen, Bool.false_eq_true, if_false] at hv
      cases hv
  | true =>
      rcases hopened hopen with ⟨n, hn⟩
      have hsame := hr.symm.trans hn
      rw [Option.some.injEq] at hsame
      rw [← initialResult_ruleResult]
      cases hverdict : pv.modelVerdict used pairs i with
      | none =>
          rw [hsame, hverdict] at hsupported
          exact ⟨(aggregatePairStatus_supported hsupported).1, fun v hv => by cases hv⟩
      | some v =>
          rw [hsame, hverdict] at hsupported
          have hall := aggregatePairStatus_supported hsupported
          refine ⟨hall.1, ?_⟩
          intro v' hv'
          rw [← Option.some.inj hv']
          exact Prod.ext hall.2.1 hall.2.2

/-- A pair the rule layer has no say on and the model gave no answer for ends
    supported. -/
theorem undecided_falls_back (hrule : pv.ruleCheckFact = ruleLayer u floatRepr raises)
    {used : Nat} {pairs : List PairInput} {results : List PairResult} {used' : Nat}
    (h : pv.verifyPairs used pairs = .ok (results, used')) {i : Nat} {pair : PairInput}
    (hpair : pairs[i]? = some pair) (hundecided : Undecided u raises pair)
    (hnone : pv.modelVerdict used pairs i = none) :
    ∃ r, results[i]? = some r ∧ r.pairStatus = .supported := by
  rcases (verifyPairs_getElem? h hpair).2 (isOpen_of_undecided hrule hundecided) with ⟨n, hn⟩
  refine ⟨_, hn, ?_⟩
  have hresult : (pv.initialResult pair).ruleResult = "SUPPORTED" := by
    rw [initialResult_ruleResult, ruleCheck_of_undecided hrule hundecided]
  rw [hnone, PairVerifier.backfill, PairVerifier.degradeToRule, hresult]
  rfl

end FailClosed

/-- The promise to fail closed is kept exactly when the model gives an answer
    that can be read for every pair whose rule check raised or whose claim has
    no entity. -/
theorem verifyPairs_failClosed_iff (u : Unicode) (floatRepr : ℚ → String)
    (raises : String → List String → Bool) (pv : PairVerifier)
    (hrule : pv.ruleCheckFact = ruleLayer u floatRepr raises) (used : Nat)
    (pairs : List PairInput) (results : List PairResult) (used' : Nat)
    (h : pv.verifyPairs used pairs = .ok (results, used')) :
    FailClosed u raises pv used pairs results ↔
      ∀ i pair, pairs[i]? = some pair → Undecided u raises pair →
        pv.modelVerdict used pairs i ≠ none := by
  constructor
  · intro hclosed i pair hpair hundecided hnone
    rcases undecided_falls_back hrule h hpair hundecided hnone with ⟨r, hr, hsupported⟩
    have hsaid := (hclosed i pair r hpair hr hsupported).1 (.inl hundecided)
    rw [hnone] at hsaid
    cases hsaid
  · intro hanswered i pair r hpair hr hsupported
    rcases supported_rests_on h hpair hr hsupported with ⟨hruleSupported, hmodel⟩
    by_cases hundecided : Undecided u raises pair
    -- The model was asked and its answer is what supports the pair.
    · rcases Option.ne_none_iff_exists'.mp (hanswered i pair hpair hundecided) with ⟨v, hv⟩
      constructor
      · intro _
        rw [hv, hmodel v hv]
      · intro hnone _
        rw [hnone] at hv
        cases hv
    · constructor
      · rintro (h' | hempty)
        · exact absurd h' hundecided
        -- Empty evidence leaves a claim with entities open.
        · rw [ruleCheck_of_empty hrule hundecided hempty] at hruleSupported
          exact absurd hruleSupported (by decide)
      · intro _ _
        exact positiveMatch_of_decided hrule hundecided hruleSupported

section Unanswered

/-- A claim without an entity, and evidence that says the opposite. -/
def unansweredPair : PairInput :=
  ⟨"天气晴朗", "今日有雨", "ev_1"⟩

/-- A verifier whose model cannot be reached. -/
def unreachableModel : PairVerifier :=
  { ruleCheckFact := ruleLayer default (fun _ => "") (fun _ _ => false)
    callLlm := fun _ _ => none
    jsonLoads := fun _ => none
    unicode := default }

/-- What the pair ends with: supported, and all well. -/
def unansweredResult : PairResult :=
  { evidenceId := "ev_1"
    ruleResult := "SUPPORTED"
    nliResult := "entailment"
    llmResult := "SUPPORTED"
    pairStatus := .supported
    verifierStatus := .ok
    partialFailure := true }

theorem unansweredPair_undecided :
    Undecided default (fun _ _ => false) unansweredPair :=
  .inr (by decide)

theorem verifyPairs_unanswered :
    unreachableModel.verifyPairs 0 [unansweredPair] = .ok ([unansweredResult], 1) := by
  have hcheck : unreachableModel.ruleCheck unansweredPair = { ruleResult := "SUPPORTED" } :=
    ruleCheck_of_undecided rfl unansweredPair_undecided
  have hinit : unreachableModel.initialResult unansweredPair =
      { evidenceId := "ev_1", ruleResult := "SUPPORTED" } := by
    rw [PairVerifier.initialResult, hcheck]
    rfl
  have hopen : [unansweredPair].zipIdx.filter
      (fun p => !unreachableModel.shouldSkipLlm (unreachableModel.ruleCheck p.1)) =
      [(unansweredPair, 0)] := by
    rw [List.zipIdx_singleton, List.filter_cons_of_pos]
    · rfl
    · rw [hcheck]
      rfl
  rw [PairVerifier.verifyPairs, List.map_singleton, hinit, hopen]
  rfl

theorem verifyPairs_failClosed_unanswered :
    FailClosed default (fun _ _ => false) unreachableModel 0 [unansweredPair] [unansweredResult] ↔
      ∀ i pair, [unansweredPair][i]? = some pair → Undecided default (fun _ _ => false) pair →
        unreachableModel.modelVerdict 0 [unansweredPair] i ≠ none :=
  verifyPairs_failClosed_iff default (fun _ => "") (fun _ _ => false) unreachableModel rfl 0
    [unansweredPair] [unansweredResult] 1 verifyPairs_unanswered

/-- The model fails, and the pair is reported as supported. -/
theorem unanswered_pair_supported :
    unreachableModel.verifyPairs 0 [unansweredPair] = .ok ([unansweredResult], 1) ∧
      Undecided default (fun _ _ => false) unansweredPair ∧
      unreachableModel.callLlm 0 (buildBatchPrompt [unansweredPair]) = none ∧
      unansweredResult.pairStatus = .supported ∧ unansweredResult.verifierStatus = .ok ∧
      ¬ FailClosed default (fun _ _ => false) unreachableModel 0 [unansweredPair]
        [unansweredResult] := by
  refine ⟨verifyPairs_unanswered, unansweredPair_undecided, rfl, rfl, rfl, ?_⟩
  intro hclosed
  have hnone : unreachableModel.modelVerdict 0 [unansweredPair] 0 = none := by
    have hopen : unreachableModel.isOpen unansweredPair = true :=
      isOpen_of_undecided rfl unansweredPair_undecided
    rw [PairVerifier.modelVerdict]
    simp only [List.getElem?_cons_zero, hopen, if_true]
    rfl
  have hsaid := (hclosed 0 unansweredPair unansweredResult rfl rfl rfl).1
    (.inl unansweredPair_undecided)
  rw [hnone] at hsaid
  cases hsaid

end Unanswered

end AgenticRag

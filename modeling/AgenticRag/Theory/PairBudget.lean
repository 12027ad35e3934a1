import AgenticRag.Theory.PairRequests

/-!
# The Pair Budget Across a Whole Run

The requests of a run are numbered, and what becomes of one depends on its
number. Two questions about the whole loop come down to this.

A second run on the same binder makes the same requests as the first, since a
bound claim is read as the claim it was made from, but with as many requests
behind it as the first has made. So it leaves the claims as they are exactly
when no request that leaves a verdict is within the budget in the first run and
beyond it in the second.

And a run never verifies more pairs than the budget has, if it has any. A cited
pair that is refused is marked; the search for contradictions just ends.

## Main definitions

* `AgreeOn`: Two runs refuse the same of the requests that count.
* `WithinBudget`: What a call does with a budget of pairs.

## Theorems

* `boundAt_eq_iff`: When a claim comes out the same, earlier and later.
* `bind_twice_iff`: When binding twice is binding once.
* `bind_within_budget`: The pairs verified, and the marks of those refused.
-/

namespace AgenticRag

open Py Ordered

section Twice

variable (b : CitationBinder)

/-- Two runs over the same requests, after so many requests each, agree on the
    requests that leave a verdict. -/
def CitationBinder.AgreeOn (st : BinderState) (rs : List PairRequest) (k k' : Nat) : Prop :=
  ∀ j r, rs[j]? = some r → r.leaves = true → b.spentAfter st (k + j) = b.spentAfter st (k' + j)

variable {b} {st : BinderState}

theorem agreeOn_nil (k k' : Nat) : b.AgreeOn st [] k k' := by
  intro j r h
  rw [List.getElem?_nil] at h
  cases h

theorem agreeOn_append {rs rs' : List PairRequest} {k k' : Nat} :
    b.AgreeOn st (rs ++ rs') k k' ↔
      b.AgreeOn st rs k k' ∧ b.AgreeOn st rs' (k + rs.length) (k' + rs.length) := by
  constructor
  · refine fun h => ⟨fun j r hr hleaves => ?_, fun j r hr hleaves => ?_⟩
    · refine h j r ?_ hleaves
      rw [List.getElem?_append_left (List.getElem?_eq_some_iff.mp hr).1]
      exact hr
    · rw [Nat.add_assoc, Nat.add_assoc]
      refine h (rs.length + j) r ?_ hleaves
      rw [List.getElem?_append_right (by omega), Nat.add_sub_cancel_left]
      exact hr
  · rintro ⟨hfront, hback⟩ j r hr hleaves
    by_cases hj : j < rs.length
    · rw [List.getElem?_append_left hj] at hr
      exact hfront j r hr hleaves
    · rw [List.getElem?_append_right (by omega)] at hr
      have hagree := hback (j - rs.length) r hr hleaves
      rw [Nat.add_assoc, Nat.add_assoc, Nat.add_sub_cancel' (by omega)] at hagree
      exact hagree

theorem agreeOn_singleton {r : PairRequest} {k k' : Nat} :
    b.AgreeOn st [r] k k' ↔ (r.leaves = true → b.spentAfter st k = b.spentAfter st k') := by
  constructor
  · exact fun h => h 0 r rfl
  · intro h j r' hr hleaves
    cases j with
    | zero =>
        cases hr
        exact h hleaves
    | succ j => cases hr

theorem agreeOn_cons {r : PairRequest} {rs : List PairRequest} {k k' : Nat} :
    b.AgreeOn st (r :: rs) k k' ↔
      (r.leaves = true → b.spentAfter st k = b.spentAfter st k') ∧
        b.AgreeOn st rs (k + 1) (k' + 1) := by
  rw [← List.singleton_append, agreeOn_append, agreeOn_singleton]
  rfl

theorem agreeOn_flatMap {α : Type} (f : α → List PairRequest) (xs : List α) {k k' : Nat} :
    b.AgreeOn st (xs.flatMap f) k k' ↔
      ∀ i x, xs[i]? = some x →
        b.AgreeOn st (f x) (k + ((xs.take i).flatMap f).length)
          (k' + ((xs.take i).flatMap f).length) := by
  induction xs generalizing k k' with
  | nil => simp [agreeOn_nil]
  | cons x xs ih =>
      rw [List.flatMap_cons, agreeOn_append, ih]
      constructor
      · rintro ⟨hfirst, hrest⟩ i y hy
        cases i with
        | zero =>
            cases hy
            exact hfirst
        | succ i =>
            have hagree := hrest i y hy
            rw [List.take_succ_cons, List.flatMap_cons, List.length_append, ← Nat.add_assoc,
              ← Nat.add_assoc]
            exact hagree
      · refine fun h => ⟨h 0 x rfl, fun i y hy => ?_⟩
        have hagree := h (i + 1) y hy
        rw [List.take_succ_cons, List.flatMap_cons, List.length_append, ← Nat.add_assoc,
          ← Nat.add_assoc] at hagree
        exact hagree

/-- The verdicts on what is cited are the same exactly when the same pairs are
    refused. -/
theorem judged_eq_iff {claim : Claim} {evs : List Evidence} {k k' : Nat} :
    b.judged st claim k evs = b.judged st claim k' evs ↔
      b.AgreeOn st (evs.map (fun ev => ⟨claim, ev, true⟩)) k k' := by
  induction evs generalizing k k' with
  | nil => exact ⟨fun _ => agreeOn_nil k k', fun _ => rfl⟩
  | cons ev rest ih =>
      have hcons : ∀ n, b.judged st claim n (ev :: rest) =
          (if b.spentAfter st n then refusedPair ev else verifyPair claim ev) ::
            b.judged st claim (n + 1) rest := fun _ => rfl
      rw [hcons, hcons, List.cons.injEq, ih, List.map_cons, agreeOn_cons]
      refine and_congr_left fun _ => ?_
      -- A pair that is verified says `ok`, and a pair that is refused does not.
      cases b.spentAfter st k <;> cases b.spentAfter st k' <;>
        simp [PairRequest.leaves, refusedPair, verifyPair]

theorem contradictionsIn_judged_cons (claim : Claim) (ev : Evidence) (rest : List Evidence)
    (k : Nat) :
    contradictionsIn (b.judged st claim k (ev :: rest)) =
      if b.spentAfter st k = false ∧ (verifyPair claim ev).pairStatus = .contradicted then
        { verifyPair claim ev with isCounterEvidence := true } ::
          contradictionsIn (b.judged st claim (k + 1) rest)
      else contradictionsIn (b.judged st claim (k + 1) rest) := by
  have hcons : b.judged st claim k (ev :: rest) =
      (if b.spentAfter st k then refusedPair ev else verifyPair claim ev) ::
        b.judged st claim (k + 1) rest := rfl
  rw [hcons, contradictionsIn_cons]
  cases b.spentAfter st k with
  | true => rfl
  | false => simp

/-- With the budget spent, the search finds nothing. -/
theorem contradictionsIn_judged_spent {claim : Claim} {k : Nat} (evs : List Evidence)
    (h : b.spentAfter st k = true) : contradictionsIn (b.judged st claim k evs) = [] := by
  induction evs generalizing k with
  | nil => rfl
  | cons ev rest ih =>
      rw [contradictionsIn_judged_cons, h, if_neg (fun hc => Bool.noConfusion hc.1)]
      exact ih (spentAfter_mono b (Nat.le_succ k) h)

/-- The search finds the same exactly when the same contradictions are within
    the budget. -/
theorem contradictionsIn_judged_eq_iff {claim : Claim} {evs : List Evidence} {k k' : Nat}
    (hle : k ≤ k') :
    contradictionsIn (b.judged st claim k evs) = contradictionsIn (b.judged st claim k' evs) ↔
      b.AgreeOn st (evs.map (fun ev => ⟨claim, ev, false⟩)) k k' := by
  induction evs generalizing k k' with
  | nil => exact ⟨fun _ => agreeOn_nil k k', fun _ => rfl⟩
  | cons ev rest ih =>
      rw [contradictionsIn_judged_cons, contradictionsIn_judged_cons, List.map_cons, agreeOn_cons,
        ← ih (Nat.succ_le_succ hle)]
      -- Only a contradiction is kept, so only then the budget shows.
      by_cases hcontra : (verifyPair claim ev).pairStatus = .contradicted
      · have hleaves : PairRequest.leaves ⟨claim, ev, false⟩ = true := by
          simp [PairRequest.leaves, hcontra]
        rw [hleaves]
        cases hspent : b.spentAfter st k with
        | true =>
            simp [spentAfter_mono b hle hspent]
        | false =>
            cases hspent' : b.spentAfter st k' with
            | false => simp [hcontra]
            | true =>
                -- What the first run finds is refused in the second.
                have hnone : contradictionsIn (b.judged st claim (k' + 1) rest) = [] :=
                  contradictionsIn_judged_spent rest (spentAfter_mono b (Nat.le_succ k') hspent')
                simp [hcontra, hnone]
      · have hleaves : PairRequest.leaves ⟨claim, ev, false⟩ = false := by
          simp [PairRequest.leaves, hcontra]
        simp [hcontra, hleaves]

/-- The verdicts can be read off the claim. -/
theorem record_eq_iff {claim : Claim} {answerText : String}
    {cited cited' vs vs' : List PairVerdict} (hlen : cited.length = cited'.length) :
    b.record claim answerText cited (contradictionsIn vs) =
        b.record claim answerText cited' (contradictionsIn vs') ↔
      cited = cited' ∧ contradictionsIn vs = contradictionsIn vs' := by
  refine ⟨fun h => ?_, fun ⟨hcited, hcounter⟩ => by rw [hcited, hcounter]⟩
  have hverdicts := congrArg Claim.pairVerdicts h
  unfold CitationBinder.record at hverdicts
  dsimp only at hverdicts
  rw [idsWith_supported_append, idsWith_supported_append] at hverdicts
  -- The cited pairs stand in front, whether a joint verdict follows or not.
  have hcited : cited = cited' := by
    have htake := congrArg (List.take cited.length) hverdicts
    split_ifs at htake <;>
      simpa only [List.append_assoc, List.take_left, hlen, List.take_left'] using htake
  subst hcited
  refine ⟨rfl, ?_⟩
  split_ifs at hverdicts
  · exact List.append_cancel_left (List.append_cancel_right hverdicts)
  · exact List.append_cancel_left hverdicts

theorem boundAt_eq_iff {answerText : String} {claim : Claim} {i k k' : Nat}
    (hin : b.beyondMaxClaims i = false) (hle : k ≤ k') :
    b.boundAt st answerText claim k = b.boundAt st answerText claim k' ↔
      b.AgreeOn st (b.requestsOf answerText (claim, i)) k k' := by
  unfold CitationBinder.boundAt CitationBinder.requestsOf
  dsimp only
  rw [record_eq_iff (by rw [judged_length, judged_length]), judged_eq_iff,
    contradictionsIn_judged_eq_iff (Nat.add_le_add_right hle _), hin, if_neg Bool.false_ne_true,
    agreeOn_append, List.length_map]

/-- A bound claim is read as the claim it was made from. -/
theorem prepareClaim_record (claim : Claim) (answerText : String)
    (cited counter : List PairVerdict) :
    b.prepareClaim (b.record claim answerText cited counter) answerText =
      ({ (b.prepareClaim claim answerText).1 with
          verifierStatus := (b.record claim answerText cited counter).verifierStatus },
        (b.prepareClaim claim answerText).2) := by
  have hprep := prepareClaim_eq b claim answerText
  have hprep' := prepareClaim_eq b (b.record claim answerText cited counter) answerText
  dsimp only at hprep hprep'
  rw [hprep, hprep']
  rfl

theorem citedEvidence_boundAt (answerText : String) (claim : Claim) (k : Nat) :
    b.citedEvidence answerText (b.boundAt st answerText claim k) =
      b.citedEvidence answerText claim := by
  unfold CitationBinder.citedEvidence CitationBinder.boundAt
  dsimp only
  rw [prepareClaim_record]

theorem searchedEvidence_boundAt (answerText : String) (claim : Claim) (k : Nat) :
    b.searchedEvidence answerText (b.boundAt st answerText claim k) =
      b.searchedEvidence answerText claim := by
  unfold CitationBinder.searchedEvidence CitationBinder.boundAt
  dsimp only
  rw [prepareClaim_record]
  rfl

/-- Binding a bound claim is binding the claim it was made from, later. -/
theorem boundAt_boundAt (answerText : String) (claim : Claim) (n j k : Nat) :
    b.boundAt (b.charge^[n] st) answerText (b.boundAt st answerText claim j) k =
      b.boundAt st answerText claim (n + k) := by
  have hjudged : ∀ k evs, b.judged st (b.boundAt st answerText claim j) k evs =
      b.judged st claim k evs := fun _ _ => rfl
  rw [CitationBinder.boundAt, citedEvidence_boundAt, searchedEvidence_boundAt,
    judged_iterate, judged_iterate, hjudged, hjudged, ← Nat.add_assoc]
  rfl

/-- Nor do the bound claims ask for more or fewer pairs. -/
theorem requestsBefore_bind (answerText : String) (claims : List Claim) (i : Nat) :
    (b.requestsBefore answerText (b.bind st claims answerText).1 i).length =
      (b.requestsBefore answerText claims i).length := by
  have hlengths : (b.bind st claims answerText).1.zipIdx.map
      (fun p => (b.requestsOf answerText p).length) =
      claims.zipIdx.map (fun p => (b.requestsOf answerText p).length) := by
    refine List.ext_getElem? fun j => ?_
    rw [List.getElem?_map, List.getElem?_map, List.getElem?_zipIdx, List.getElem?_zipIdx,
      getElem?_bind]
    cases claims[j]? with
    | none => rfl
    | some claim =>
        simp only [Option.map_some, Nat.zero_add, CitationBinder.requestsOf]
        cases b.beyondMaxClaims j with
        | true => rfl
        | false =>
            simp only [Bool.false_eq_true, if_false, List.length_append, List.length_map,
              citedEvidence_boundAt, searchedEvidence_boundAt]
  unfold CitationBinder.requestsBefore
  rw [List.length_flatMap, List.length_flatMap, List.map_take, List.map_take, hlengths]

/-- What the second of two runs leaves at a position. -/
theorem getElem?_bind_twice (answerText : String) (claims : List Claim) (i : Nat) :
    let once := b.bind st claims answerText
    (b.bind once.2 once.1 answerText).1[i]? = claims[i]?.map (fun claim =>
      if b.beyondMaxClaims i then truncateClaim claim
      else b.boundAt st answerText claim
        ((b.requests answerText claims).length +
          (b.requestsBefore answerText claims i).length)) := by
  dsimp only
  rw [getElem?_bind, getElem?_bind, requestsBefore_bind, bind_state, Option.map_map]
  congr 1
  funext claim
  cases hbeyond : b.beyondMaxClaims i with
  | true => rfl
  | false =>
      simp only [Function.comp_apply, Bool.false_eq_true, if_false, boundAt_boundAt]

variable (b st) in
/-- Binding twice on one binder leaves the claims as binding once does, exactly
    when no request that leaves a verdict is within the budget of the first run
    and beyond that of the second. -/
theorem bind_twice_iff (claims : List Claim) (answerText : String) :
    let once := b.bind st claims answerText
    let rs := b.requests answerText claims
    (b.bind once.2 once.1 answerText).1 = once.1 ↔
      ∀ k r, rs[k]? = some r → r.leaves = true →
        b.spentAfter st k = b.spentAfter st (rs.length + k) := by
  dsimp only
  have hagree :
      b.AgreeOn st (b.requests answerText claims) 0 (b.requests answerText claims).length ↔
      ∀ k r, (b.requests answerText claims)[k]? = some r → r.leaves = true →
        b.spentAfter st k = b.spentAfter st ((b.requests answerText claims).length + k) := by
    unfold CitationBinder.AgreeOn
    simp only [Nat.zero_add]
  rw [← hagree]
  generalize hn : (b.requests answerText claims).length = n
  rw [CitationBinder.requests, agreeOn_flatMap]
  have htwice := fun i => @getElem?_bind_twice b st answerText claims i
  dsimp only at htwice
  constructor
  · intro h i p hp
    rcases p with ⟨claim, j⟩
    rw [List.getElem?_zipIdx] at hp
    rcases Option.map_eq_some_iff.mp hp with ⟨c, hc, heq⟩
    rw [Nat.zero_add] at heq
    cases heq
    cases hbeyond : b.beyondMaxClaims i with
    | true =>
        rw [CitationBinder.requestsOf, if_pos hbeyond]
        exact agreeOn_nil _ _
    | false =>
        have hat := htwice i
        rw [h, getElem?_bind, hc, hbeyond, Option.map_some, Option.map_some, hn] at hat
        rw [Nat.zero_add]
        exact (boundAt_eq_iff hbeyond (by omega)).mp (Option.some.inj hat)
  · intro h
    refine List.ext_getElem? fun i => ?_
    rw [htwice, getElem?_bind, hn]
    cases hc : claims[i]? with
    | none => rfl
    | some claim =>
        cases hbeyond : b.beyondMaxClaims i with
        | true => rfl
        | false =>
            have hat := h i (claim, i) (by rw [List.getElem?_zipIdx, hc, Nat.zero_add]; rfl)
            rw [Nat.zero_add] at hat
            exact congrArg some ((boundAt_eq_iff hbeyond (by omega)).mpr hat).symm

end Twice

section Bound

variable (b : CitationBinder)

/-- Of so many requests, the numbers of those that are not refused. -/
def CitationBinder.verifiedAmong (st : BinderState) (n : Nat) : List Nat :=
  (List.range n).filter (fun k => !b.spentAfter st k)

variable {b} {budget : VerificationBudget} (hbudget : b.budget = some budget)

include hbudget

theorem charge_pairBudgetUsed (st : BinderState) :
    (b.charge st).pairBudgetUsed =
      st.pairBudgetUsed + if st.pairBudgetExhausted then 0 else 1 := by
  unfold CitationBinder.charge
  rw [hbudget]
  split_ifs <;> rfl

/-- The count of a binder is the number of pairs it has verified. -/
theorem iterate_charge_pairBudgetUsed (st : BinderState) (n : Nat) :
    (b.charge^[n] st).pairBudgetUsed = st.pairBudgetUsed + (b.verifiedAmong st n).length := by
  induction n with
  | zero => rfl
  | succ n ih =>
      have hspent : (b.charge^[n] st).pairBudgetExhausted = b.spentAfter st n := by
        rw [← spentAfter_zero b, spentAfter_iterate, Nat.add_zero]
      rw [Function.iterate_succ_apply', charge_pairBudgetUsed hbudget, hspent, ih,
        CitationBinder.verifiedAmong, CitationBinder.verifiedAmong, List.range_succ,
        List.filter_append, List.length_append, Nat.add_assoc]
      cases hlast : b.spentAfter st n <;> simp [hlast]

/-- A budget of at least one pair is never exceeded. -/
theorem verifiedAmong_length_le (hmax : 1 ≤ budget.maxTotalPairs) (st : BinderState) (n : Nat) :
    (b.verifiedAmong st n).length ≤ budget.maxTotalPairs := by
  have hsub : b.verifiedAmong st n ⊆ List.range budget.maxTotalPairs := by
    intro k hk
    have hunspent := (List.mem_filter.mp hk).2
    unfold CitationBinder.spentAfter at hunspent
    rw [hbudget, Bool.not_eq_true', Bool.or_eq_false_iff, decide_eq_false_iff_not] at hunspent
    rw [List.mem_range]
    omega
  have hlen := ((List.nodup_range.filter _).subperm hsub).length_le
  rwa [List.length_range] at hlen

end Bound

section Async

variable (b : CitationBinder)

/-- The evidence searched for a claim of the second loop. -/
def CitationBinder.searchedAsync (p : (Claim × List String) × Nat) : List Evidence :=
  if p.1.1.finalStatus = .truncated then [] else b.openEvidence p.1.1

/-- The second loop charges for the search alone. -/
theorem fillClaim_state (resultByKey : List ((Nat × String) × PairVerdict))
    (p : (Claim × List String) × Nat) (st : BinderState) :
    (b.fillClaim resultByKey p st).2 = b.charge^[(b.searchedAsync p).length] st := by
  unfold CitationBinder.fillClaim CitationBinder.searchedAsync
  split_ifs with htruncated
  · rfl
  · have hscan := congrArg Prod.snd (scanCounterEvidence_eq b ((p.1.2.filterMap (fun evId =>
      resultByKey.lookup (p.2, evId))).foldl Claim.addPairVerdict p.1.1) st 0)
    rw [openEvidence_foldl, Nat.zero_add] at hscan
    exact hscan

/-- The requests of the second loop, as far as they go against the budget. -/
def CitationBinder.asyncRequests (answerText : String) (claims : List Claim) : List Evidence :=
  (b.prepareAll claims answerText).zipIdx.flatMap b.searchedAsync

theorem bindAsync_state {st st' : BinderState} {claims bound : List Claim} {answerText : String}
    (h : b.bindAsync st claims answerText = .ok (bound, st')) :
    ∃ llmCallsUsed, st' = b.charge^[(b.asyncRequests answerText claims).length]
      { st with llmCallsUsed := llmCallsUsed } := by
  unfold CitationBinder.bindAsync at h
  cases hverifier : b.pairVerifier with
  | none =>
      rw [hverifier] at h
      cases h
  | some pv =>
      rw [hverifier] at h
      dsimp only at h
      split at h
      · cases h
      · next results llmCallsUsed _ =>
          refine ⟨llmCallsUsed, ?_⟩
          rw [CitationBinder.asyncRequests, List.length_flatMap]
          exact (congrArg Prod.snd (Except.ok.inj h)).symm.trans
            (mapState_advance (fillClaim_state b _) _ _)

end Async

section Budget

variable {b : CitationBinder} {budget : VerificationBudget}

theorem judged_cases {st : BinderState} {claim : Claim} {k : Nat} {evs : List Evidence}
    {v : PairVerdict} (h : v ∈ b.judged st claim k evs) :
    ∃ ev ∈ evs, v = refusedPair ev ∨ v = verifyPair claim ev := by
  rcases List.mem_map.mp h with ⟨⟨ev, j⟩, hmem, rfl⟩
  refine ⟨ev, List.fst_mem_of_mem_zipIdx hmem, ?_⟩
  split_ifs
  · exact .inl rfl
  · exact .inr rfl

theorem aggregateVerifierStatus_budgetExhausted {statuses : List VerifierStatus}
    (hmem : .budgetExhausted ∈ statuses)
    (h : ∀ s ∈ statuses, s = .ok ∨ s = .budgetExhausted) :
    aggregateVerifierStatus statuses = .budgetExhausted := by
  have hnot : ∀ s : VerifierStatus, s ≠ .ok → s ≠ .budgetExhausted → s ∉ statuses := by
    intro s hok hspent hs
    exact (h s hs).elim hok hspent
  unfold aggregateVerifierStatus
  rw [if_neg (by
      rw [List.isEmpty_iff]
      exact List.ne_nil_of_mem hmem),
    if_neg (fun hall => VerifierStatus.noConfusion (hall _ hmem)),
    if_neg (hnot _ (by decide) (by decide)), if_neg (hnot _ (by decide) (by decide)), if_pos hmem]

/-- What a call does with a budget of pairs. -/
structure WithinBudget (b : CitationBinder) (budget : VerificationBudget) (st : BinderState)
    (claims : List Claim) (answerText : String) : Prop where
  /-- The binder counts the pairs it verifies, and these are within the budget. -/
  count : (b.bind st claims answerText).2.pairBudgetUsed =
    st.pairBudgetUsed + (b.verifiedAmong st (b.requests answerText claims).length).length
  bound : (b.verifiedAmong st (b.requests answerText claims).length).length ≤
    budget.maxTotalPairs
  /-- Every pair a claim cites has its verdict, that of a refusal if it is
      refused. -/
  judged : ∀ (i : Nat) (claim bound : Claim), claims[i]? = some claim →
    (b.bind st claims answerText).1[i]? = some bound → b.beyondMaxClaims i = false →
    b.judged st claim (b.requestsBefore answerText claims i).length
      (b.citedEvidence answerText claim) <+: bound.pairVerdicts
  /-- A claim with a refused pair says so. -/
  marked : ∀ (i : Nat) (claim bound : Claim), claims[i]? = some claim →
    (b.bind st claims answerText).1[i]? = some bound → b.beyondMaxClaims i = false →
    (∃ v ∈ b.judged st claim (b.requestsBefore answerText claims i).length
      (b.citedEvidence answerText claim), v.verifierStatus = .budgetExhausted) →
    bound.verifierStatus = .budgetExhausted
  /-- With the pair verifier, the pairs of the search are counted. -/
  asyncCount : ∀ (bound : List Claim) (st' : BinderState),
    b.bindAsync st claims answerText = .ok (bound, st') →
    st'.pairBudgetUsed = st.pairBudgetUsed +
      (b.verifiedAmong st (b.asyncRequests answerText claims).length).length
  asyncBound : (b.verifiedAmong st (b.asyncRequests answerText claims).length).length ≤
    budget.maxTotalPairs

theorem boundAt_judged (st : BinderState) (claim : Claim) (answerText : String) (k : Nat) :
    b.judged st claim k (b.citedEvidence answerText claim) <+:
      (b.boundAt st answerText claim k).pairVerdicts := by
  unfold CitationBinder.boundAt CitationBinder.record
  dsimp only
  split_ifs
  · rw [List.append_assoc]
    exact List.prefix_append _ _
  · exact List.prefix_append _ _

/-- A verifier worked on every pair, or the pair was refused. -/
theorem boundAt_statuses (st : BinderState) (claim : Claim) (answerText : String) (k : Nat) :
    ∀ v ∈ (b.boundAt st answerText claim k).pairVerdicts,
      v.verifierStatus = .ok ∨ v.verifierStatus = .budgetExhausted := by
  have hjudged : ∀ j evs, ∀ v ∈ b.judged st claim j evs,
      v.verifierStatus = .ok ∨ v.verifierStatus = .budgetExhausted := by
    intro j evs v hv
    rcases judged_cases hv with ⟨ev, -, rfl | rfl⟩
    · exact .inr rfl
    · exact .inl rfl
  have hverdicts : ∀ v ∈ b.judged st claim k (b.citedEvidence answerText claim) ++
      contradictionsIn (b.judged st claim (k + (b.citedEvidence answerText claim).length)
        (b.searchedEvidence answerText claim)),
      v.verifierStatus = .ok ∨ v.verifierStatus = .budgetExhausted := by
    intro v hv
    rcases List.mem_append.mp hv with hv | hv
    · exact hjudged _ _ v hv
    · rcases List.mem_map.mp hv with ⟨w, hw, rfl⟩
      exact hjudged _ _ w (List.mem_of_mem_filter hw)
  unfold CitationBinder.boundAt CitationBinder.record
  dsimp only
  intro v hv
  split_ifs at hv
  · rcases List.mem_append.mp hv with hv | hv
    · exact hverdicts v hv
    -- The joint verdict is one of a verifier that worked.
    · rw [List.mem_singleton.mp hv]
      exact .inl rfl
  · exact hverdicts v hv

/-- With a budget of at least one pair, a call never verifies more pairs than
    the budget has, be it with the pair verifier or without it, and a pair that
    is cited and refused is marked. -/
theorem bind_within_budget (hbudget : b.budget = some budget)
    (hmax : 1 ≤ budget.maxTotalPairs) (st : BinderState) (claims : List Claim)
    (answerText : String) : WithinBudget b budget st claims answerText where
  count := by rw [bind_state, iterate_charge_pairBudgetUsed hbudget]
  bound := verifiedAmong_length_le hbudget hmax st _
  judged := by
    intro i claim bound hclaim hbound hin
    rw [getElem?_bind, hclaim, Option.map_some, hin, if_neg Bool.false_ne_true] at hbound
    cases hbound
    exact boundAt_judged st claim answerText _
  marked := by
    rintro i claim bound hclaim hbound hin ⟨v, hv, hspent⟩
    rw [getElem?_bind, hclaim, Option.map_some, hin, if_neg Bool.false_ne_true] at hbound
    cases hbound
    refine aggregateVerifierStatus_budgetExhausted
      (List.mem_map.mpr ⟨v, (boundAt_judged st claim answerText _).subset hv, hspent⟩)
      (fun s hs => ?_)
    rcases List.mem_map.mp hs with ⟨w, hw, rfl⟩
    exact boundAt_statuses st claim answerText _ w hw
  asyncCount := by
    intro bound st' h
    rcases bindAsync_state b h with ⟨llmCallsUsed, rfl⟩
    rw [iterate_charge_pairBudgetUsed hbudget]
    rfl
  asyncBound := verifiedAmong_length_le hbudget hmax st _

end Budget

section Samples

/-- Evidence for a claim, and evidence against it that the claim does not
    cite. -/
def twoEvidences : EvidenceSnapshot where
  snapshotId := "es_1"
  evidences :=
    [{ evidenceId := "e1", sourceType := .rag, content := "营收100", tenantId := "t1" },
     { evidenceId := "e2", sourceType := .rag, content := "营收 并未 100", tenantId := "t1" }]
  createdAt := ""
  toolRunId := ""
  attemptId := 1

/-- A binder with a number of pairs. -/
def pairBinder (maxTotalPairs : Nat) : CitationBinder where
  snapshot := twoEvidences
  tenantId := "t1"
  budget := some { maxTotalPairs := maxTotalPairs }

/-- A claim with one source. -/
def revenueClaim : Claim := { claimId := "c1", text := "营收100[1]" }

/-- With one pair left, the second run refuses what the first verified. -/
theorem bind_again_refused :
    ((pairBinder 1).bind ((pairBinder 1).bind {} [revenueClaim] "").2
        ((pairBinder 1).bind {} [revenueClaim] "").1 "").1 ≠
      ((pairBinder 1).bind {} [revenueClaim] "").1 := by
  decide

theorem bind_within_budget_pairBinder :
    (pairBinder 1).budget = some { maxTotalPairs := 1 } ∧
      WithinBudget (pairBinder 1) { maxTotalPairs := 1 } {} [revenueClaim] "" :=
  ⟨rfl, bind_within_budget rfl (le_refl 1) {} [revenueClaim] ""⟩

/-- A pair refused in the search leaves no mark, a budget of nothing is spent
    on one pair, and the pair verifier is sent more pairs than there are. -/
theorem search_refused_unmarked :
    ((pairBinder 1).requests "" [revenueClaim]).length = 2 ∧
      (pairBinder 1).verifiedAmong {} 2 = [0] ∧
      ((pairBinder 1).bind {} [revenueClaim] "").1.map (fun c =>
        (c.pairVerdicts.map PairVerdict.evidenceId, c.verifierStatus)) = [(["e1"], .ok)] ∧
      ((pairBinder 0).bind {} [revenueClaim] "").2.pairBudgetUsed = 1 ∧
      (((pairBinder 1).prepareAll [{ revenueClaim with text := "营收100[1][2]" }] "").zipIdx.flatMap
        (pairBinder 1).pairsOf).length = 2 := by
  refine ⟨?_, ?_, ?_, ?_, ?_⟩ <;> decide

end Samples

end AgenticRag

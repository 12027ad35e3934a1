import AgenticRag.Theory.Citations

/-!
# The Requests of a Run

A claim asks for its pairs in a fixed order: first the evidence it cites, then
the evidence it does not cite that shares an entity with it. Each request costs
one unit of the budget, until the budget is spent and the request is refused.
A refused request leaves the state as it is, so the search, which stops at the
first refusal, might as well have gone on (`scanLoop_eq`). Hence every request
of a run has a number, and whether it is refused depends on that number alone
(`spentAfter`).

With this the loop body is a function of a claim and the number of requests
before it (`boundAt`), and what the loop leaves at a position can be said
without the loop (`getElem?_bind`).

## Main definitions

* `charge`, `spentAfter`: A request on the budget, and the budget after some.
* `PairRequest`, `requests`: The requests of a run.

## Theorems

* `foldl_addPairVerdict_eq`: What verdicts add to a claim.
* `finishClaim_record`, `bindClaim_eq`: The loop body in closed form.
* `bind_state`, `getElem?_bind`: What the loop leaves.
-/

namespace AgenticRag

open Py Ordered

section Charge

variable (b : CitationBinder)

/-- The verdict on a pair that is refused for want of budget. -/
def refusedPair (ev : Evidence) : PairVerdict :=
  { evidenceId := ev.evidenceId
    pairStatus := .verifierError
    verifierStatus := .budgetExhausted }

/-- What a request does to the budget. -/
def CitationBinder.charge (st : BinderState) : BinderState :=
  if st.pairBudgetExhausted then st
  else match b.budget with
    | none => st
    | some budget =>
        { st with
          pairBudgetUsed := st.pairBudgetUsed + 1
          pairBudgetExhausted := decide (budget.maxTotalPairs ≤ st.pairBudgetUsed + 1) }

/-- Whether the budget is spent after so many requests. -/
def CitationBinder.spentAfter (st : BinderState) (k : Nat) : Bool :=
  st.pairBudgetExhausted ||
    match b.budget with
    | none => false
    | some budget => decide (0 < k ∧ budget.maxTotalPairs ≤ st.pairBudgetUsed + k)

theorem spentAfter_zero (st : BinderState) : b.spentAfter st 0 = st.pairBudgetExhausted := by
  unfold CitationBinder.spentAfter
  cases b.budget with
  | none => exact Bool.or_false _
  | some budget => simp

theorem spentAfter_charge (st : BinderState) (k : Nat) :
    b.spentAfter (b.charge st) k = b.spentAfter st (k + 1) := by
  unfold CitationBinder.spentAfter CitationBinder.charge
  cases hspent : st.pairBudgetExhausted with
  | true => simp [hspent]
  | false =>
      cases b.budget with
      | none => simp [hspent]
      | some budget =>
          simp only [Bool.false_eq_true, if_false, Bool.false_or]
          -- The charge has spent the budget by itself, or leaves it to what follows.
          rw [← Bool.decide_or, decide_eq_decide]
          omega

/-- The requests that were made before can be counted in. -/
theorem spentAfter_iterate (st : BinderState) (n k : Nat) :
    b.spentAfter (b.charge^[n] st) k = b.spentAfter st (n + k) := by
  induction n generalizing st with
  | zero => rw [Function.iterate_zero_apply, Nat.zero_add]
  | succ n ih =>
      rw [Function.iterate_succ_apply, ih, spentAfter_charge]
      congr 1
      omega

/-- A budget that is spent stays spent. -/
theorem spentAfter_mono {st : BinderState} {j k : Nat} (hle : j ≤ k)
    (h : b.spentAfter st j = true) : b.spentAfter st k = true := by
  unfold CitationBinder.spentAfter at h ⊢
  cases hspent : st.pairBudgetExhausted with
  | true => rfl
  | false =>
      rw [hspent, Bool.false_or] at h
      rw [Bool.false_or]
      cases hbudget : b.budget with
      | none =>
          rw [hbudget] at h
          cases h
      | some budget =>
          rw [hbudget] at h
          have hwithin := of_decide_eq_true h
          exact decide_eq_true ⟨by omega, by omega⟩

/-- A request is refused when the budget is spent, and charged in any case. -/
theorem verifyPairWithBudget_eq (claim : Claim) (ev : Evidence) (st : BinderState) :
    b.verifyPairWithBudget claim ev st =
      (if st.pairBudgetExhausted then refusedPair ev else verifyPair claim ev, b.charge st) := by
  unfold CitationBinder.verifyPairWithBudget CitationBinder.charge refusedPair
  split_ifs <;> rfl

/-- The verdicts on a list of evidence, when so many requests were made
    before. -/
def CitationBinder.judged (st : BinderState) (claim : Claim) (k : Nat) (evs : List Evidence) :
    List PairVerdict :=
  (evs.zipIdx k).map (fun p =>
    if b.spentAfter st p.2 then refusedPair p.1 else verifyPair claim p.1)

theorem mapState_verifyPairWithBudget (claim : Claim) (evs : List Evidence) (st : BinderState)
    (k : Nat) :
    mapState (b.verifyPairWithBudget claim) evs (b.charge^[k] st) =
      (b.judged st claim k evs, b.charge^[k + evs.length] st) := by
  induction evs generalizing k with
  | nil => rfl
  | cons ev rest ih =>
      -- The state holds what the number of requests before says.
      have hspent : (b.charge^[k] st).pairBudgetExhausted = b.spentAfter st k := by
        rw [← spentAfter_zero b, spentAfter_iterate, Nat.add_zero]
      rw [mapState, verifyPairWithBudget_eq, hspent, ← Function.iterate_succ_apply' b.charge, ih,
        List.length_cons, CitationBinder.judged, CitationBinder.judged, List.zipIdx_cons,
        List.map_cons, Nat.succ_add]
      rfl

theorem judged_iterate (st : BinderState) (claim : Claim) (n k : Nat) (evs : List Evidence) :
    b.judged (b.charge^[n] st) claim k evs = b.judged st claim (n + k) evs := by
  induction evs generalizing k with
  | nil => rfl
  | cons ev rest ih =>
      have hrest := ih (k + 1)
      unfold CitationBinder.judged at hrest ⊢
      rw [List.zipIdx_cons, List.zipIdx_cons, List.map_cons, List.map_cons, hrest,
        spentAfter_iterate]
      rfl

theorem judged_length (st : BinderState) (claim : Claim) (k : Nat) (evs : List Evidence) :
    (b.judged st claim k evs).length = evs.length := by
  rw [CitationBinder.judged, List.length_map, List.length_zipIdx]

end Charge

section Search

variable (b : CitationBinder)

/-- Whether the search for contradictions asks about a piece of evidence. -/
def CitationBinder.isOpen (claim : Claim) (p : String × Evidence) : Bool :=
  decide (p.1 ∉ claim.resolvedDeclaredIds ∧ p.1 ∉ claim.unauthorizedIds ∧
    p.2.tenantId = b.tenantId) && hasEntityOverlap claim.text p.2

theorem isOpen_iff {claim : Claim} {p : String × Evidence} :
    b.isOpen claim p = true ↔
      ¬ (p.1 ∈ claim.resolvedDeclaredIds ∨ p.1 ∈ claim.unauthorizedIds) ∧
        p.2.tenantId = b.tenantId ∧ hasEntityOverlap claim.text p.2 = true := by
  unfold CitationBinder.isOpen
  rw [Bool.and_eq_true, decide_eq_true_eq, not_or]
  tauto

/-- The evidence the search asks about. -/
def CitationBinder.openEvidence (claim : Claim) : List Evidence :=
  (b.evIdToEvidence.filter (b.isOpen claim)).map Prod.snd

/-- What the search keeps of its verdicts. -/
def contradictionsIn (vs : List PairVerdict) : List PairVerdict :=
  (vs.filter (fun v => v.pairStatus = .contradicted)).map (fun v =>
    { v with isCounterEvidence := true })

theorem contradictionsIn_cons (v : PairVerdict) (vs : List PairVerdict) :
    contradictionsIn (v :: vs) =
      if v.pairStatus = .contradicted then
        { v with isCounterEvidence := true } :: contradictionsIn vs
      else contradictionsIn vs := by
  unfold contradictionsIn
  by_cases h : v.pairStatus = .contradicted
  · rw [if_pos h, List.filter_cons_of_pos (by simpa using h), List.map_cons]
  · rw [if_neg h, List.filter_cons_of_neg (by simpa using h)]

/-- With a spent budget there is nothing to find. -/
theorem contradictionsIn_spent (claim : Claim) (evs : List Evidence) {st : BinderState}
    (h : st.pairBudgetExhausted = true) :
    let checked := mapState (b.verifyPairWithBudget claim) evs st
    contradictionsIn checked.1 = [] ∧ checked.2 = st := by
  have hcharge : b.charge st = st := by
    rw [CitationBinder.charge, if_pos h]
  induction evs with
  | nil => exact ⟨rfl, rfl⟩
  | cons ev rest ih =>
      dsimp only at ih ⊢
      rw [mapState, verifyPairWithBudget_eq, if_pos h, hcharge, contradictionsIn_cons]
      exact ih

/-- The search asks for one pair after the other. That it stops when the budget
    is spent makes no difference, since a refusal is no contradiction and costs
    nothing. -/
theorem scanLoop_eq (claim : Claim) (evs : List (String × Evidence)) (st : BinderState) :
    let checked := mapState (b.verifyPairWithBudget claim)
      ((evs.filter (b.isOpen claim)).map Prod.snd) st
    b.scanLoop claim evs st = (contradictionsIn checked.1, checked.2) := by
  induction evs generalizing st with
  | nil => rfl
  | cons e rest ih =>
      rcases e with ⟨evId, ev⟩
      dsimp only at ih ⊢
      by_cases hopen : b.isOpen claim (evId, ev) = true
      · rcases (isOpen_iff b).mp hopen with ⟨hcited, htenant, hoverlap⟩
        -- An open piece of evidence gets past the three tests of the loop.
        unfold CitationBinder.scanLoop
        rw [if_neg hcited, if_neg (not_not.mpr htenant), if_neg (not_not.mpr hoverlap),
          List.filter_cons_of_pos hopen, List.map_cons]
        by_cases hspent : st.pairBudgetExhausted = true
        -- The loop stops here, and would have found nothing more.
        · rcases contradictionsIn_spent b claim (ev :: (rest.filter (b.isOpen claim)).map Prod.snd)
            hspent with ⟨hnone, hstate⟩
          rw [if_pos hspent, hnone, hstate]
        · rw [if_neg hspent, mapState, contradictionsIn_cons]
          dsimp only
          rw [ih]
          split_ifs <;> rfl
      -- One of the tests sends the loop on to the next piece.
      · rw [List.filter_cons_of_neg hopen, ← ih st, CitationBinder.scanLoop]
        by_cases hcited : evId ∈ claim.resolvedDeclaredIds ∨ evId ∈ claim.unauthorizedIds
        · exact if_pos hcited
        rw [if_neg hcited]
        by_cases htenant : ev.tenantId = b.tenantId
        · rw [if_neg (not_not.mpr htenant)]
          exact if_pos (fun hoverlap => hopen ((isOpen_iff b).mpr ⟨hcited, htenant, hoverlap⟩))
        · exact if_pos htenant

theorem scanCounterEvidence_eq (claim : Claim) (st : BinderState) (k : Nat) :
    b.scanCounterEvidence claim (b.charge^[k] st) =
      (contradictionsIn (b.judged st claim k (b.openEvidence claim)),
        b.charge^[k + (b.openEvidence claim).length] st) := by
  unfold CitationBinder.scanCounterEvidence
  rw [scanLoop_eq, ← CitationBinder.openEvidence, mapState_verifyPairWithBudget]

end Search

section Record

variable (b : CitationBinder)

/-- The ids of the verdicts with a status. -/
def idsWith (status : PairStatus) (vs : List PairVerdict) : List String :=
  (vs.filter (fun v => v.pairStatus = status)).map PairVerdict.evidenceId

/-- The verdicts are appended, and the ids are collected by status. -/
theorem foldl_addPairVerdict_eq (vs : List PairVerdict) (claim : Claim) :
    vs.foldl Claim.addPairVerdict claim =
      { claim with
        pairVerdicts := claim.pairVerdicts ++ vs
        verifiedSupportIds := (idsWith .supported vs).foldl addNew claim.verifiedSupportIds
        contradictingIds := (idsWith .contradicted vs).foldl addNew claim.contradictingIds } := by
  induction vs generalizing claim with
  | nil => simp [idsWith]
  | cons v rest ih =>
      rw [List.foldl_cons, ih]
      cases hstatus : v.pairStatus <;>
        simp [Claim.addPairVerdict, idsWith, hstatus, List.append_assoc]

/-- The joint try and the aggregate, once all the verdicts are in. -/
def CitationBinder.conclude (authIds : List String) (claim : Claim) : Claim :=
  let joint := b.verifyJointSupport claim authIds
  let claim :=
    if ¬ claim.hasVerifiedSupport ∧ 1 < authIds.length ∧ joint.pairStatus = .supported then
      { claim with
        verifiedSupportIds := claim.verifiedSupportIds ++ authIds
        pairVerdicts := claim.pairVerdicts ++ [joint] }
    else claim
  { claim with
    verifierStatus := aggregateVerifierStatus (claim.pairVerdicts.map PairVerdict.verifierStatus) }

theorem finishClaim_conclude (authIds : List String) (claim : Claim) (st : BinderState) :
    b.finishClaim authIds claim st =
      (b.conclude authIds ((b.scanCounterEvidence claim st).1.foldl Claim.addPairVerdict claim),
        (b.scanCounterEvidence claim st).2) :=
  rfl

/-- Whether the joint try is made and supports the claim. -/
def CitationBinder.Jointly (authIds : List String) (claim : Claim) : Prop :=
  claim.verifiedSupportIds = [] ∧ 1 < authIds.length ∧
    (b.verifyJointSupport claim authIds).pairStatus = .supported

theorem conclude_of_jointly {authIds : List String} {claim : Claim}
    (h : b.Jointly authIds claim) :
    b.conclude authIds claim =
      let verdicts := claim.pairVerdicts ++ [b.verifyJointSupport claim authIds]
      { claim with
        verifiedSupportIds := authIds
        pairVerdicts := verdicts
        verifierStatus := aggregateVerifierStatus (verdicts.map PairVerdict.verifierStatus) } := by
  have hrun : ¬ claim.hasVerifiedSupport = true ∧ 1 < authIds.length ∧
      (b.verifyJointSupport claim authIds).pairStatus = .supported := by
    rw [Claim.hasVerifiedSupport, h.1]
    exact ⟨by decide, h.2⟩
  unfold CitationBinder.conclude
  dsimp only
  rw [if_pos hrun, h.1, List.nil_append]

theorem conclude_of_not_jointly {authIds : List String} {claim : Claim}
    (h : ¬ b.Jointly authIds claim) :
    b.conclude authIds claim =
      { claim with
        verifierStatus :=
          aggregateVerifierStatus (claim.pairVerdicts.map PairVerdict.verifierStatus) } := by
  have hrun : ¬ (¬ claim.hasVerifiedSupport = true ∧ 1 < authIds.length ∧
      (b.verifyJointSupport claim authIds).pairStatus = .supported) := by
    rw [Claim.hasVerifiedSupport]
    exact fun hc => h ⟨by simpa using hc.1, hc.2⟩
  unfold CitationBinder.conclude
  dsimp only
  rw [if_neg hrun]

theorem contradicted_of_mem_contradictionsIn {vs : List PairVerdict} {v : PairVerdict}
    (h : v ∈ contradictionsIn vs) : v.pairStatus = .contradicted := by
  rcases List.mem_map.mp h with ⟨w, hw, rfl⟩
  exact of_decide_eq_true (List.mem_filter.mp hw).2

/-- What the search finds supports nothing. -/
theorem idsWith_supported_append (cited vs : List PairVerdict) :
    idsWith .supported (cited ++ contradictionsIn vs) = idsWith .supported cited := by
  have hnone : (contradictionsIn vs).filter (fun v => v.pairStatus = .supported) = [] := by
    rw [List.filter_eq_nil_iff]
    intro v hv
    rw [contradicted_of_mem_contradictionsIn hv]
    decide
  rw [idsWith, List.filter_append, hnone, List.append_nil, ← idsWith]

/-- The search reads nothing that verdicts change. -/
theorem openEvidence_foldl (vs : List PairVerdict) (claim : Claim) :
    b.openEvidence (vs.foldl Claim.addPairVerdict claim) = b.openEvidence claim := by
  rw [foldl_addPairVerdict_eq]
  rfl

/-- A claim as the loop body leaves it, given the verdicts on what it cites and
    what the search has found. -/
def CitationBinder.record (claim : Claim) (answerText : String)
    (cited counter : List PairVerdict) : Claim :=
  let d := b.sorted (extractCitationsForClaim claim answerText)
  let verdicts := cited ++ counter
  let supporting := firsts (idsWith .supported verdicts)
  let joint := b.verifyJointSupport claim d.resolved
  let jointly :=
    supporting = [] ∧ 1 < d.resolved.length ∧ joint.pairStatus = .supported
  let verdicts' := if jointly then verdicts ++ [joint] else verdicts
  { claim with
    rawDeclaredIndices := d.raw
    invalidIndices := d.invalid
    unauthorizedIds := d.unauthorized
    resolvedDeclaredIds := d.resolved
    truncatedCitations := d.truncated
    verifiedSupportIds := if jointly then d.resolved else supporting
    contradictingIds := firsts (idsWith .contradicted verdicts)
    pairVerdicts := verdicts'
    verifierStatus := aggregateVerifierStatus (verdicts'.map PairVerdict.verifierStatus) }

/-- The loop body, from the prepared claim on. -/
theorem finishClaim_record (claim : Claim) (answerText : String) (cited : List PairVerdict)
    (st : BinderState) (k : Nat) :
    let prepared := b.prepareClaim claim answerText
    let evs := b.openEvidence prepared.1
    b.finishClaim prepared.2 (cited.foldl Claim.addPairVerdict prepared.1) (b.charge^[k] st) =
      (b.record claim answerText cited (contradictionsIn (b.judged st claim k evs)),
        b.charge^[k + evs.length] st) := by
  have hprep := prepareClaim_eq b claim answerText
  dsimp only at hprep ⊢
  have hjudged : ∀ k evs, b.judged st (cited.foldl Claim.addPairVerdict
      (b.prepareClaim claim answerText).1) k evs = b.judged st claim k evs := by
    intro k evs
    rw [foldl_addPairVerdict_eq, hprep]
    rfl
  rw [finishClaim_conclude, scanCounterEvidence_eq, openEvidence_foldl, hjudged]
  dsimp only
  -- What is searched was settled when the claim was prepared.
  generalize b.openEvidence (b.prepareClaim claim answerText).1 = evs
  generalize contradictionsIn (b.judged st claim k evs) = counter
  refine Prod.ext ?_ rfl
  rw [← List.foldl_append, foldl_addPairVerdict_eq, hprep]
  dsimp only
  unfold CitationBinder.record
  generalize b.sorted (extractCitationsForClaim claim answerText) = d
  -- The joint try looks at the support of both lists of verdicts.
  by_cases hjoint : firsts (idsWith .supported (cited ++ counter)) = [] ∧
      1 < d.resolved.length ∧ (b.verifyJointSupport claim d.resolved).pairStatus = .supported
  · refine (conclude_of_jointly b ?_).trans ?_
    · exact hjoint
    · simp only [if_pos hjoint]
      rfl
  · refine (conclude_of_not_jointly b ?_).trans ?_
    · exact hjoint
    · simp only [if_neg hjoint]
      rfl

end Record

section Loop

variable (b : CitationBinder)

/-- The evidence a claim cites, in the order in which it is checked. -/
def CitationBinder.citedEvidence (answerText : String) (claim : Claim) : List Evidence :=
  (b.prepareClaim claim answerText).2.filterMap (fun evId => b.evIdToEvidence.lookup evId)

/-- The evidence a claim does not cite and that is searched nevertheless. -/
def CitationBinder.searchedEvidence (answerText : String) (claim : Claim) : List Evidence :=
  b.openEvidence (b.prepareClaim claim answerText).1

/-- A claim as the loop leaves it, when so many requests were made before. -/
def CitationBinder.boundAt (st : BinderState) (answerText : String) (claim : Claim) (k : Nat) :
    Claim :=
  let cited := b.citedEvidence answerText claim
  b.record claim answerText (b.judged st claim k cited)
    (contradictionsIn
      (b.judged st claim (k + cited.length) (b.searchedEvidence answerText claim)))

/-- A request for a pair: the claim and the evidence, and whether the claim
    cites it. -/
structure PairRequest where
  claim : Claim
  evidence : Evidence
  cited : Bool

/-- Whether a request leaves a verdict in the claim when it is not refused. What
    is cited always does, and the rest only as a contradiction. -/
def PairRequest.leaves (r : PairRequest) : Bool :=
  r.cited || (verifyPair r.claim r.evidence).pairStatus = .contradicted

/-- The requests of one claim, in order. -/
def CitationBinder.requestsOf (answerText : String) (p : Claim × Nat) : List PairRequest :=
  if b.beyondMaxClaims p.2 then []
  else
    (b.citedEvidence answerText p.1).map (fun ev => ⟨p.1, ev, true⟩) ++
      (b.searchedEvidence answerText p.1).map (fun ev => ⟨p.1, ev, false⟩)

/-- The requests of a run, in order. -/
def CitationBinder.requests (answerText : String) (claims : List Claim) : List PairRequest :=
  claims.zipIdx.flatMap (b.requestsOf answerText)

/-- The requests of the claims before a position. -/
def CitationBinder.requestsBefore (answerText : String) (claims : List Claim) (i : Nat) :
    List PairRequest :=
  (claims.zipIdx.take i).flatMap (b.requestsOf answerText)

/-- The loop body charges for the requests of the claim, and leaves the claim
    by the number of those before. -/
theorem bindClaim_eq (answerText : String) (p : Claim × Nat) (st : BinderState) (k : Nat) :
    b.bindClaim answerText p (b.charge^[k] st) =
      (if b.beyondMaxClaims p.2 then truncateClaim p.1 else b.boundAt st answerText p.1 k,
        b.charge^[k + (b.requestsOf answerText p).length] st) := by
  unfold CitationBinder.bindClaim CitationBinder.requestsOf
  split_ifs with hbeyond
  · rfl
  · have hjudged : ∀ k evs, b.judged st (b.prepareClaim p.1 answerText).1 k evs =
        b.judged st p.1 k evs := by
      intro k evs
      have hprep := prepareClaim_eq b p.1 answerText
      dsimp only at hprep
      rw [hprep]
      rfl
    unfold CitationBinder.verifyDeclared
    dsimp only
    rw [mapState_verifyPairWithBudget, hjudged, finishClaim_record, List.length_append,
      List.length_map, List.length_map, ← Nat.add_assoc]
    rfl

theorem bind_state (answerText : String) (claims : List Claim) (st : BinderState) :
    (b.bind st claims answerText).2 =
      b.charge^[(b.requests answerText claims).length] st := by
  rw [CitationBinder.requests, List.length_flatMap]
  exact mapState_advance (fun p st => congrArg Prod.snd
    ((bindClaim_eq b answerText p st 0).trans (by rw [Nat.zero_add]))) _ _

/-- What the loop leaves at a position. -/
theorem getElem?_bind (answerText : String) (claims : List Claim) (st : BinderState) (i : Nat) :
    (b.bind st claims answerText).1[i]? = claims[i]?.map (fun claim =>
      if b.beyondMaxClaims i then truncateClaim claim
      else b.boundAt st answerText claim (b.requestsBefore answerText claims i).length) := by
  unfold CitationBinder.bind
  -- Each body charges as often as its claim has requests.
  rw [getElem?_mapState_advance (fun p st => congrArg Prod.snd
    ((bindClaim_eq b answerText p st 0).trans (by rw [Nat.zero_add]))), List.getElem?_zipIdx,
    Option.map_map, CitationBinder.requestsBefore, List.length_flatMap]
  congr 1
  funext claim
  simp only [Function.comp_apply, bindClaim_eq, Nat.zero_add]

end Loop

end AgenticRag

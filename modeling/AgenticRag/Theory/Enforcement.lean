import AgenticRag.Core.Hallucination

/-!
# Enforcement

The hallucination node against what its three engines say together, and
against its promise to fail closed.

The engines compose: bind the claims to their evidence, judge each bound
claim, let the policy decide. `composedAction` writes that composition down.
The node calls the engines by names they do not have, so it rejects whatever
they would have said, and it agrees with them exactly where they reject too
(`hallucination_composes_iff`). An answer all of whose claims are supported is
not such a case: `composedAction_pass`.

Without claims the node hands the answer to the gateway, and the feature
switch comes before the gateway. So an enforced answer is let through only by
a verifier that completed, or by the switch (`hallucination_lets_through`).

The policy engine vetoes a critical claim that is contradicted or left open.
Of the other states that are not support it has no veto, and enough supported
claims outvote them (`factual_letsThrough_iff`).

## Main definitions

* `boundClaims`, `judgedClaims`, `composedAction`: The engines, composed.

## Theorems

* `hallucination_composes_iff`: When the node does what its engines say.
* `hallucination_lets_through`: What lets an enforced answer through.
* `factual_letsThrough_iff`: When the critical claims decide.
-/

namespace AgenticRag

open Py Ordered

section Composition

variable (rt : Runtime) (w : VerifierWorld) (s : AgentState)

/-- Bind the claims, by overlap alone where there is no model. -/
def boundClaims : Except Exc (List Claim) :=
  match resolveLlmId w s with
  | .error e => .error e
  | .ok llmId =>
      let binder := claimBinder rt w s llmId
      if llmId = "" then .ok (binder.bind {} s.claims s.answerWithCitations).1
      else (binder.bindAsync {} s.claims s.answerWithCitations).map Prod.fst

/-- The claim with the status the default matrix gives it. A truncated claim
    was never bound and keeps its status. -/
def judgeBound (u : Unicode) (claim : Claim) : Claim :=
  if claim.finalStatus = .truncated then claim
  else { claim with finalStatus := (VerdictMatrix.default.judge u claim).toFinalStatus }

/-- The claims of the node, judged. -/
def judgedClaims : Except Exc (List Claim) :=
  (boundClaims rt w s).map (List.map (judgeBound rt.unicode))

/-- What the engines say together. Where one of them raises the answer is
    rejected. -/
def composedAction : PolicyAction :=
  match judgedClaims rt w s with
  | .error _ => .reject
  | .ok judged =>
      (({} : PolicyEngine).decide rt.unicode judged s.currentRunMode s.regenerateCount
        (EvidenceSnapshot.build rt s.evidence "" 1)).action

variable {rt w s}

theorem length_bind (b : CitationBinder) (st : BinderState) (claims : List Claim) (text : String) :
    (b.bind st claims text).1.length = claims.length := by
  rw [CitationBinder.bind, length_mapState, List.length_zipIdx]

theorem length_bindAsync {b : CitationBinder} {st : BinderState} {claims : List Claim}
    {text : String} {out : List Claim × BinderState} (h : b.bindAsync st claims text = .ok out) :
    out.1.length = claims.length := by
  unfold CitationBinder.bindAsync at h
  cases hpv : b.pairVerifier with
  | none => rw [hpv] at h; cases h
  | some pv =>
      rw [hpv] at h
      simp only at h
      split at h
      · cases h
      -- Both loops run over the claims in place.
      · cases h
        rw [length_mapState, List.length_zipIdx, CitationBinder.prepareAll, List.length_map,
          List.length_zipIdx]

/-- Binding and judging lose no claim. -/
theorem length_judgedClaims {judged : List Claim} (h : judgedClaims rt w s = .ok judged) :
    judged.length = s.claims.length := by
  unfold judgedClaims boundClaims at h
  cases hllm : resolveLlmId w s with
  | error e => rw [hllm] at h; cases h
  | ok llmId =>
      rw [hllm] at h
      simp only at h
      split_ifs at h
      -- No model: the claims are bound by overlap, which cannot raise.
      · cases h
        rw [List.length_map, length_bind]
      · cases hbind : (claimBinder rt w s llmId).bindAsync {} s.claims s.answerWithCitations with
        | error e => rw [hbind] at h; cases h
        | ok out =>
            rw [hbind] at h
            cases h
            rw [List.length_map, length_bindAsync hbind]

theorem judgedClaims_ne_nil (hclaims : s.claims ≠ []) {judged : List Claim}
    (h : judgedClaims rt w s = .ok judged) : judged ≠ [] := by
  intro hnil
  have hlength := length_judgedClaims h
  rw [hnil, List.length_nil] at hlength
  exact hclaims (List.length_eq_zero_iff.mp hlength.symm)

/-- Supported claims make the composition pass. -/
theorem composedAction_pass (hclaims : s.claims ≠ []) {judged : List Claim}
    (h : judgedClaims rt w s = .ok judged) (hall : ∀ c ∈ judged, c.finalStatus = .supported) :
    composedAction rt w s = .pass := by
  rw [composedAction, h]
  exact decide_pass_of_supported _ judged _ _ _ (judgedClaims_ne_nil hclaims h) hall

/-- The composition rejects where an engine raises or the judged claims give
    the policy a ground. -/
theorem composedAction_reject_iff (hclaims : s.claims ≠ []) :
    composedAction rt w s = .reject ↔
      ∀ judged, judgedClaims rt w s = .ok judged →
        PolicyEngine.RejectGround {} judged s.currentRunMode := by
  rw [composedAction]
  cases hjudged : judgedClaims rt w s with
  | error e => simp
  | ok judged =>
      have hdecide := decide_reject_iff {} rt.unicode judged s.currentRunMode s.regenerateCount
        (EvidenceSnapshot.build rt s.evidence "" 1) (judgedClaims_ne_nil hclaims hjudged)
      simpa using hdecide

/-- With evidence, a tree and claims the enforced node rejects, the answer
    being empty or not. -/
theorem hallucinationNode_rejects (hmode : s.currentEnforcement = .enforced)
    (hast : s.answerAst ≠ none) (hevidence : s.evidence ≠ []) (hclaims : s.claims ≠ []) :
    (hallucinationNode rt w s).1.hallucinationAction = .reject := by
  by_cases hanswer : s.generatedAnswer = ""
  · rw [hallucinationNode, if_pos hanswer, if_pos hmode]
    rfl
  -- The engines are called by names they do not have, and the handler rejects.
  · rw [hallucinationNode_claims rt w s hmode hanswer hevidence hast hclaims]
    rfl

/-- The node does what its engines say exactly where they raise or the judged
    claims give the policy a ground to reject: a critical claim contradicted,
    one left open in factual mode, or too many failures of the verifier. -/
theorem hallucination_composes_iff (rt : Runtime) (w : VerifierWorld) (s : AgentState)
    (hmode : s.currentEnforcement = .enforced) (hast : s.answerAst ≠ none)
    (hevidence : s.evidence ≠ []) (hclaims : s.claims ≠ []) :
    (hallucinationNode rt w s).1.hallucinationAction = composedAction rt w s ↔
      ∀ judged, judgedClaims rt w s = .ok judged →
        PolicyEngine.RejectGround {} judged s.currentRunMode := by
  rw [hallucinationNode_rejects hmode hast hevidence hclaims, eq_comm,
    composedAction_reject_iff hclaims]

/-- An answer of one claim that no model is there to check. -/
def uncheckedClaim : AgentState :=
  { enforcementMode := some .enforced
    runMode := some .factual
    tenantId := "t1"
    evidence := [{ evidenceId := "e1", sourceType := .rag, content := "收入为100万元", tenantId := "t1" }]
    generatedAnswer := "收入为100万元[1]"
    answerWithCitations := "收入为100万元[1]"
    answerAst := some {}
    claims := [{ claimId := "c1", text := "收入为100万元", span := (0, 11) }] }

/-- A world whose gateway knows no model of the tenant. -/
def noModelWorld : VerifierWorld :=
  { (default : VerifierWorld) with verifierResolves := true }

theorem hallucination_composes_uncheckedClaim :
    (hallucinationNode default noModelWorld uncheckedClaim).1.hallucinationAction =
        composedAction default noModelWorld uncheckedClaim ↔
      ∀ judged, judgedClaims default noModelWorld uncheckedClaim = .ok judged →
        PolicyEngine.RejectGround {} judged uncheckedClaim.currentRunMode :=
  hallucination_composes_iff default noModelWorld uncheckedClaim rfl (by simp [uncheckedClaim])
    (by simp [uncheckedClaim]) (by simp [uncheckedClaim])

/-- The engines ask for a new answer and the node rejects. -/
theorem node_contradicts_engines :
    uncheckedClaim.currentEnforcement = .enforced ∧ uncheckedClaim.answerAst ≠ none ∧
      uncheckedClaim.evidence ≠ [] ∧ uncheckedClaim.claims ≠ [] ∧
      composedAction default noModelWorld uncheckedClaim = .regenerate ∧
      (hallucinationNode default noModelWorld uncheckedClaim).1.hallucinationAction = .reject :=
  ⟨rfl, by simp [uncheckedClaim], by simp [uncheckedClaim], by simp [uncheckedClaim],
    by decide +kernel, by decide +kernel⟩

end Composition

section FailClosed

/-- An enforced answer is let through by a verifier that was given the answer
    and completed, or by the feature switch where there is an answer, evidence
    and a tree but no claim to check. -/
theorem hallucination_lets_through (rt : Runtime) (w : VerifierWorld) (s : AgentState)
    (hmode : s.currentEnforcement = .enforced)
    (haction : (hallucinationNode rt w s).1.hallucinationAction = .pass ∨
      (hallucinationNode rt w s).1.hallucinationAction = .filter) :
    (∃ call ∈ (hallucinationNode rt w s).2,
        call.answer = s.generatedAnswer ∧ call.completed = true) ∨
      (w.featureEnabled = false ∧ s.generatedAnswer ≠ "" ∧ s.evidence ≠ [] ∧
        s.answerAst ≠ none ∧ s.claims = []) := by
  have houtcome := hallucinationNode_outcome rt w s
  generalize hallucinationNode rt w s = out at houtcome haction ⊢
  cases houtcome with
  | rejected => rcases haction with h | h <;> cases h
  -- Only the switch lets an enforced answer by without a check.
  | unchecked h => exact .inr (h hmode)
  | scored q calls h => exact .inl ⟨_, h hmode, rfl, rfl⟩
  | unparsed => rcases haction with h | h <;> cases h

/-- An answer with evidence and a tree, and no claim taken from it. -/
def noClaims : AgentState :=
  { uncheckedClaim with claims := [] }

theorem hallucination_lets_through_noClaims :
    noClaims.currentEnforcement = .enforced ∧
      ((∃ call ∈ (hallucinationNode default { noModelWorld with gateway := .score (9 / 10) }
          noClaims).2, call.answer = noClaims.generatedAnswer ∧ call.completed = true) ∨
        (noModelWorld.featureEnabled = false ∧ noClaims.generatedAnswer ≠ "" ∧
          noClaims.evidence ≠ [] ∧ noClaims.answerAst ≠ none ∧ noClaims.claims = [])) :=
  ⟨rfl, hallucination_lets_through default { noModelWorld with gateway := .score (9 / 10) } noClaims
    rfl (by decide +kernel)⟩

/-- With the switch off an enforced answer passes and no verifier is asked. -/
theorem switch_lets_through :
    noClaims.currentEnforcement = .enforced ∧
      (hallucinationNode default { noModelWorld with featureEnabled := false }
        noClaims).1.hallucinationAction = .pass ∧
      (hallucinationNode default { noModelWorld with featureEnabled := false } noClaims).2 = [] :=
  ⟨rfl, by decide, rfl⟩

end FailClosed

section Critical

/-- The states of a claim that no ground to reject names one by one. -/
def Unvetoed (status : ClaimFinalStatus) : Prop :=
  status = .verifierError ∨ status = .pending ∨ status = .truncated

/-- In factual mode the engine lets an answer through only with its critical
    claims supported, exactly where no critical claim is in a state without a
    veto, or the other claims do not carry the answer: there is a ground to
    reject, or the score misses both thresholds. -/
theorem factual_letsThrough_iff (e : PolicyEngine) (u : Unicode) (claims : List Claim)
    (regenerateCount : Nat) (snapshot : EvidenceSnapshot) (hne : claims ≠ []) :
    (((e.decide u claims .factual regenerateCount snapshot).action = .pass ∨
        (e.decide u claims .factual regenerateCount snapshot).action = .filter) →
      ∀ c ∈ claims, c.isRequired = true → c.finalStatus = .supported) ↔
      (∀ c ∈ claims, c.isRequired = true → ¬ Unvetoed c.finalStatus) ∨
        e.RejectGround claims .factual ∨
        (computeWeightedScore claims < e.passThreshold ∧
          computeWeightedScore claims < e.filterThreshold) := by
  rw [decide_letsThrough_iff e u claims .factual regenerateCount snapshot hne]
  by_cases hground : e.RejectGround claims .factual
  · simp [hground]
  by_cases hscore : e.passThreshold ≤ computeWeightedScore claims ∨
      e.filterThreshold ≤ computeWeightedScore claims
  -- The answer is let through, so the critical claims decide.
  · have hmissed : ¬ (computeWeightedScore claims < e.passThreshold ∧
        computeWeightedScore claims < e.filterThreshold) := by
      rintro ⟨hpass, hfilter⟩
      exact hscore.elim hpass.not_ge hfilter.not_ge
    have hstates : ∀ c ∈ claims, c.isRequired = true →
        (c.finalStatus = .supported ↔ ¬ Unvetoed c.finalStatus) := by
      intro c hc hrequired
      unfold PolicyEngine.RejectGround at hground
      push Not at hground
      have hcontradicted := hground.1 c hc hrequired
      have hinsufficient := hground.2.1 rfl c hc hrequired
      unfold Unvetoed
      cases hstatus : c.finalStatus <;> simp_all
    simp only [hground, hscore, hmissed, not_false_eq_true, true_and, forall_const, or_false]
    exact forall₃_congr hstates
  -- The score misses both thresholds.
  · have hmissed : computeWeightedScore claims < e.passThreshold ∧
        computeWeightedScore claims < e.filterThreshold := by
      rw [not_or, not_le, not_le] at hscore
      exact hscore
    simp [hscore, hmissed]

/-- A critical claim the binder cut off, among twenty claims that are
    supported. -/
def outvotedClaims : List Claim :=
  { claimId := "claim_021", text := "合同金额 300 万元", finalStatus := .truncated
    modelIsRequired := true } ::
    List.replicate 20
      { claimId := "claim_001", text := "公司成立于 2001 年", finalStatus := .supported }

theorem factual_letsThrough_outvotedClaims :
    (((({} : PolicyEngine).decide default outvotedClaims .factual 0
          (EvidenceSnapshot.build default [] "" 1)).action = .pass ∨
        (({} : PolicyEngine).decide default outvotedClaims .factual 0
          (EvidenceSnapshot.build default [] "" 1)).action = .filter) →
      ∀ c ∈ outvotedClaims, c.isRequired = true → c.finalStatus = .supported) ↔
      (∀ c ∈ outvotedClaims, c.isRequired = true → ¬ Unvetoed c.finalStatus) ∨
        PolicyEngine.RejectGround {} outvotedClaims .factual ∨
        (computeWeightedScore outvotedClaims < ({} : PolicyEngine).passThreshold ∧
          computeWeightedScore outvotedClaims < ({} : PolicyEngine).filterThreshold) :=
  factual_letsThrough_iff {} default outvotedClaims 0 (EvidenceSnapshot.build default [] "" 1)
    (List.cons_ne_nil _ _)

/-- The answer passes although its critical claim was never checked. -/
theorem truncated_claim_outvoted :
    (({} : PolicyEngine).decide default outvotedClaims .factual 0
        (EvidenceSnapshot.build default [] "" 1)).action = .pass ∧
      ∃ c ∈ outvotedClaims, c.isRequired = true ∧ c.finalStatus = .truncated :=
  ⟨by decide +kernel, _, List.mem_cons_self, rfl, rfl⟩

end Critical

end AgenticRag

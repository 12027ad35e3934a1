import AgenticRag.Core.CitationBinder
import AgenticRag.Core.State

/-!
# The Hallucination Node

The node that decides whether a generated answer may be shown. It fails
closed in enforced mode: no answer, no evidence and a verifier that raises
all end in a rejection, and a missing answer tree in a retry or a rejection.

With a tree and claims the node is meant to bind the claims, judge them and
let the policy engine decide. It asks the matrix for `evaluate` and passes
`decide` arguments by names it does not have. Neither call exists, so both
raise, and the handler around them rejects.

The node's outcome is a state; beside it stands the list of verifier calls it
made, with whether each completed.

## Main definitions

* `VerifierWorld`: What the node meets outside.
* `hallucinationNode`: The node.
-/

namespace AgenticRag

open Py

/-- How often an answer is asked for again. -/
def maxRegenerates : Nat := 2

/-- How the gateway's verifier answers when asked for the tenant's model. -/
inductive LlmLookup where
  | noSuchMethod
  | raises
  | found (llmId : String)
  deriving DecidableEq, Repr

/-- How the gateway's check of the whole answer ends: it raises, or it
    completes, with a score or with something that is not a number. -/
inductive GatewayResult where
  | raises
  | unreadable
  | score (q : ℚ)
  deriving DecidableEq

/-- What the node meets outside. -/
structure VerifierWorld where
  featureEnabled : Bool
  verifierResolves : Bool
  tenantLlm : LlmLookup
  gateway : GatewayResult
  ruleCheckFact : String → List String → Option RuleCheck
  callLlm : Nat → String → Option String
  jsonLoads : String → Option Val

/-- A world in which every service is down. -/
instance : Inhabited VerifierWorld :=
  ⟨{ featureEnabled := true
     verifierResolves := false
     tenantLlm := .noSuchMethod
     gateway := .raises
     ruleCheckFact := fun _ _ => none
     callLlm := fun _ _ => none
     jsonLoads := fun _ => none }⟩

/-- The verifiers that may be called. -/
inductive VerifierKind where
  | pairVerification
  | verifyFaithfulness
  deriving DecidableEq, Repr

/-- A call of a verifier: the text it was given, and whether it returned. -/
structure VerifierCall where
  kind : VerifierKind
  answer : String
  completed : Bool
  deriving DecidableEq, Repr

/-- The action for a score. -/
def dispose (faithfulnessScore : ℚ) (regenerateCount : Nat) : PolicyAction :=
  if 85 / 100 ≤ faithfulnessScore then .pass
  else if 6 / 10 ≤ faithfulnessScore then .filter
  else if 3 / 10 ≤ faithfulnessScore then
    if maxRegenerates ≤ regenerateCount then .exhausted else .regenerate
  else .reject

/-- The score of the degraded check: the share of the answer's characters
    that occur in the context, less a fifth when the answer is much longer. -/
def overlapFaithfulness (answer context : String) : ℚ :=
  if answer = "" ∨ context = "" then 0
  else
    let answerChars := answer.toList.dedup
    let overlap := (answerChars.filter (· ∈ context.toList)).length
    let penalty : ℚ := if 2 * context.length < answer.length then 8 / 10 else 1
    min 1 ((overlap : ℚ) / answerChars.length * penalty)

section Node

variable (rt : Runtime) (w : VerifierWorld) (s : AgentState)

/-- The fields every outcome sets. -/
def AgentState.disposed (score : ℚ) (action : PolicyAction) : AgentState :=
  { s with
    hallucinationScore := score
    hallucinationAction := action
    enforcementMode := some s.currentEnforcement }

/-- A rejection with its reason. -/
def AgentState.rejected (reason : String) : AgentState :=
  { s.disposed 0 .reject with rejectReason := reason }

/-- The outcome for a score, the retry being counted. -/
def AgentState.scored (score : ℚ) (action : PolicyAction) : AgentState :=
  { s.disposed score action with
    regenerateCount :=
      if action = .regenerate then s.regenerateCount + 1 else s.regenerateCount }

/-- The model the pair verifier is to use: the one in the state, or else the
    tenant's. -/
def resolveLlmId : Except Exc String :=
  if s.llmId ≠ "" then .ok s.llmId
  else if ¬ w.verifierResolves then .error .runtimeError
  else
    -- The verifier may have no such method, which leaves the model empty.
    match w.tenantLlm with
    | .noSuchMethod => .ok ""
    | .raises => .error .runtimeError
    | .found llmId => .ok llmId

/-- The pair verifier for a model, none without one. -/
def pairVerifierFor (llmId : String) : Option PairVerifier :=
  if llmId = "" then none
  else some
    { maxLlmCalls := ({} : VerificationBudget).maxLlmCalls
      ruleCheckFact := w.ruleCheckFact
      callLlm := w.callLlm
      jsonLoads := w.jsonLoads
      unicode := rt.unicode }

/-- The binder of the claim-level path. -/
def claimBinder (llmId : String) : CitationBinder :=
  { snapshot := EvidenceSnapshot.build rt s.evidence "" 1
    tenantId := s.tenantId
    budget := some {}
    pairVerifier := pairVerifierFor rt w llmId }

/-- The call `matrix.evaluate(claims)`. The matrix has no such method. -/
def matrixEvaluate (_ : VerdictMatrix) (_ : List Claim) : Except Exc (List Claim) :=
  .error .attributeError

/-- The call of `decide` with the keywords `claim_verdicts` and
    `enforcement_mode`. The engine takes no such arguments. -/
def policyDecideByKeywords (_ : PolicyEngine) (_ _ : List Claim) : Except Exc PolicyDecision :=
  .error .typeError

/-- The claim-level path: bind, judge, decide. -/
def claimLevelDecision : Except Exc (PolicyDecision × List Claim) := do
  let llmId ← resolveLlmId w s
  let bound ← (claimBinder rt w s llmId).bindAsync {} s.claims s.answerWithCitations
  let claimVerdicts ← matrixEvaluate VerdictMatrix.default bound.1
  let decision ← policyDecideByKeywords {} bound.1 claimVerdicts
  .ok (decision, claimVerdicts)

/-- The verifier calls of the claim-level path. -/
def claimLevelCalls : List VerifierCall :=
  match resolveLlmId w s with
  | .error _ => []
  | .ok llmId =>
      if llmId = "" then []
      else
        match (claimBinder rt w s llmId).bindAsync {} s.claims s.answerWithCitations with
        | .ok _ => [⟨.pairVerification, s.answerWithCitations, true⟩]
        | .error _ => [⟨.pairVerification, s.answerWithCitations, false⟩]

/-- The evidence as one text. -/
def AgentState.evidenceContext : String :=
  join "\n\n" ((s.evidence.map Evidence.content).filter (· ≠ ""))

/-- The gateway path: the outcome and the verifier calls. -/
def gatewayOutcome : AgentState × List VerifierCall :=
  -- What becomes of the answer when the gateway raised.
  let degraded :=
    if s.currentEnforcement = .enforced then s.rejected "验证服务异常"
    else
      let score := overlapFaithfulness s.generatedAnswer s.evidenceContext
      s.scored score (dispose score s.regenerateCount)
  if ¬ w.verifierResolves then (degraded, [])
  else
    match w.gateway with
    | .raises => (degraded, [⟨.verifyFaithfulness, s.generatedAnswer, false⟩])
    | .unreadable => (degraded, [⟨.verifyFaithfulness, s.generatedAnswer, true⟩])
    | .score q =>
        (s.scored q (dispose q s.regenerateCount),
          [⟨.verifyFaithfulness, s.generatedAnswer, true⟩])

/-- The paths that are left once the claim-level path is out: the feature
    switch and the gateway. -/
def answerLevelOutcome : AgentState × List VerifierCall :=
  if ¬ w.featureEnabled then (s.disposed 1 .pass, []) else gatewayOutcome w s

/-- The hallucination node. -/
def hallucinationNode : AgentState × List VerifierCall :=
  let mode := s.currentEnforcement
  -- Without an answer or without evidence there is nothing to check.
  if s.generatedAnswer = "" then
    if mode = .enforced then (s.rejected "无法生成答案", []) else (s.disposed 1 .pass, [])
  else if s.evidence.isEmpty then
    if mode = .enforced then (s.rejected "当前资料不足以确认", []) else (s.disposed 1 .pass, [])
  else if mode = .enforced then
    -- An enforced answer without a tree is never checked as plain text.
    if s.answerAst.isNone then
      if maxRegenerates ≤ s.regenerateCount then (s.rejected "答案结构解析失败", [])
      else (s.scored 0 .regenerate, [])
    else if s.claims.isEmpty then answerLevelOutcome w s
    else
      -- Whatever the engines raise is caught here and rejects.
      match claimLevelDecision rt w s with
      | .error _ => (s.rejected "验证服务异常", claimLevelCalls rt w s)
      | .ok (decision, claimVerdicts) =>
          ({ s.scored decision.faithfulnessScore decision.action with
              claimVerdicts := claimVerdicts }, claimLevelCalls rt w s)
  else answerLevelOutcome w s

/-- The claim-level path always raises. -/
theorem claimLevelDecision_error : ∃ e, claimLevelDecision rt w s = .error e := by
  unfold claimLevelDecision
  cases resolveLlmId w s with
  | error e => exact ⟨e, rfl⟩
  | ok llmId =>
      cases hbind : (claimBinder rt w s llmId).bindAsync {} s.claims s.answerWithCitations with
      | error e => exact ⟨e, by simp [hbind, bind, Except.bind]⟩
      -- The binding completed, and the matrix is asked for what it does not have.
      | ok bound => exact ⟨.attributeError, by simp [hbind, bind, Except.bind, matrixEvaluate]⟩

/-- With a tree, evidence and claims the enforced node rejects. -/
theorem hallucinationNode_claims (hmode : s.currentEnforcement = .enforced)
    (hanswer : s.generatedAnswer ≠ "") (hevidence : s.evidence ≠ [])
    (hast : s.answerAst ≠ none) (hclaims : s.claims ≠ []) :
    hallucinationNode rt w s = (s.rejected "验证服务异常", claimLevelCalls rt w s) := by
  rcases claimLevelDecision_error rt w s with ⟨e, he⟩
  simp [hallucinationNode, hmode, hanswer, hevidence, hast, hclaims, he]

/-- What the node can end in: a rejection, a pass without a check, the action
    for a score, or a new attempt for want of a tree. Enforced, a pass without
    a check takes the feature switch and a score takes a verifier. -/
inductive HallucinationOutcome : AgentState × List VerifierCall → Prop where
  | rejected (reason : String) (calls : List VerifierCall) :
      HallucinationOutcome (s.rejected reason, calls)
  | unchecked
      (h : s.currentEnforcement = .enforced →
        w.featureEnabled = false ∧ s.generatedAnswer ≠ "" ∧ s.evidence ≠ [] ∧
          s.answerAst ≠ none ∧ s.claims = []) :
      HallucinationOutcome (s.disposed 1 .pass, [])
  | scored (q : ℚ) (calls : List VerifierCall)
      (h : s.currentEnforcement = .enforced →
        ⟨.verifyFaithfulness, s.generatedAnswer, true⟩ ∈ calls) :
      HallucinationOutcome (s.scored q (dispose q s.regenerateCount), calls)
  | unparsed (h : s.regenerateCount < maxRegenerates) :
      HallucinationOutcome (s.scored 0 .regenerate, [])

theorem gatewayOutcome_outcome : HallucinationOutcome w s (gatewayOutcome w s) := by
  -- A gateway that fails rejects when enforced and falls back on overlap else.
  have hdegraded : ∀ calls, HallucinationOutcome w s
      (if s.currentEnforcement = .enforced then s.rejected "验证服务异常"
        else
          let score := overlapFaithfulness s.generatedAnswer s.evidenceContext
          s.scored score (dispose score s.regenerateCount), calls) := by
    intro calls
    by_cases hmode : s.currentEnforcement = .enforced
    · rw [if_pos hmode]
      exact .rejected _ _
    · rw [if_neg hmode]
      exact .scored _ _ (fun h => absurd h hmode)
  unfold gatewayOutcome
  by_cases hresolves : w.verifierResolves = true
  · rw [if_neg (not_not.mpr hresolves)]
    cases w.gateway with
    | raises => exact hdegraded _
    | unreadable => exact hdegraded _
    | score q => exact .scored q _ (fun _ => List.mem_singleton.mpr rfl)
  · rw [if_pos hresolves]
    exact hdegraded _

theorem answerLevelOutcome_outcome
    (h : s.currentEnforcement = .enforced →
      s.generatedAnswer ≠ "" ∧ s.evidence ≠ [] ∧ s.answerAst ≠ none ∧ s.claims = []) :
    HallucinationOutcome w s (answerLevelOutcome w s) := by
  unfold answerLevelOutcome
  by_cases hfeature : w.featureEnabled = true
  · rw [if_neg (not_not.mpr hfeature)]
    exact gatewayOutcome_outcome w s
  · rw [if_pos hfeature]
    exact .unchecked (fun hmode => ⟨Bool.eq_false_iff.mpr hfeature, h hmode⟩)

theorem hallucinationNode_outcome :
    HallucinationOutcome w s (hallucinationNode rt w s) := by
  by_cases hmode : s.currentEnforcement = .enforced
  · unfold hallucinationNode
    simp only [hmode, if_true]
    -- Enforced, each check that fails rejects, in the order of the source.
    by_cases hanswer : s.generatedAnswer = ""
    · rw [if_pos hanswer]
      exact .rejected _ _
    rw [if_neg hanswer]
    by_cases hevidence : s.evidence = []
    · rw [if_pos (by simp [hevidence])]
      exact .rejected _ _
    rw [if_neg (by simp [hevidence])]
    by_cases hast : s.answerAst = none
    · rw [if_pos (by simp [hast])]
      by_cases hleft : maxRegenerates ≤ s.regenerateCount
      · rw [if_pos hleft]
        exact .rejected _ _
      · rw [if_neg hleft]
        exact .unparsed (Nat.lt_of_not_le hleft)
    rw [if_neg (by simp [hast])]
    by_cases hclaims : s.claims = []
    · rw [if_pos (by simp [hclaims])]
      exact answerLevelOutcome_outcome w s (fun _ => ⟨hanswer, hevidence, hast, hclaims⟩)
    -- With claims the engines are asked, and asking them raises.
    · rcases claimLevelDecision_error rt w s with ⟨e, he⟩
      rw [if_neg (by simp [hclaims]), he]
      exact .rejected _ _
  · unfold hallucinationNode
    simp only [hmode, if_false]
    split_ifs
    · exact .unchecked (fun h => absurd h hmode)
    · exact .unchecked (fun h => absurd h hmode)
    · exact answerLevelOutcome_outcome w s (fun h => absurd h hmode)

end Node

end AgenticRag

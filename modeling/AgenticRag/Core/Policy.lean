import Mathlib.Algebra.Order.BigOperators.Group.List
import AgenticRag.Core.Claim
import AgenticRag.Core.Fusion

/-!
# Verdicts and Policy

The two judges at the end of verification. The verdict matrix turns the pair
verdicts of one claim into its final status by the first rule that matches,
and the policy engine turns the claims of an answer into an action.

A matrix carries the proof that its rules are well formed: a single catch-all
at the very end, and a list of states with every rule that asks for one. The
constructor of the source raises otherwise. What `judge` would do after the
last rule is then unreachable, which is `judge_matches`.

The layers of the verifier answer in upper or lower case, so the matrix
compares in lower case, by the Unicode database's word for it.

## Main definitions

* `VerdictRule`, `ValidRules`, `VerdictMatrix`: The matrix.
* `PolicyEngine.decide`: The action for the claims of an answer.

## Theorems

* `decide_action`: The action, read off the ladder.
* `decide_letsThrough_iff`: When it lets an answer through.
-/

namespace AgenticRag

open Py

section Matrix

/-- What the matrix may say about a claim. -/
inductive VerdictResult where
  | verifierError
  | contradicted
  | insufficient
  | supported
  deriving DecidableEq, Repr

/-- A verdict as a status. -/
def VerdictResult.toFinalStatus : VerdictResult → ClaimFinalStatus
  | .verifierError => .verifierError
  | .contradicted => .contradicted
  | .insufficient => .insufficient
  | .supported => .supported

/-- What a rule asks of a claim. -/
inductive RuleCondition where
  | verifierStatusIn
  | anyLayerContradicted
  | ruleAndNliSupported
  | allLayersSupported
  | noVerifiedSupport
  | default
  deriving DecidableEq, Repr

/-- One rule of the matrix. The states are read by `verifierStatusIn`
    only. -/
structure VerdictRule where
  condition : RuleCondition
  verdict : VerdictResult
  statuses : List VerifierStatus := []
  deriving DecidableEq, Repr

/-- What `validate_rules` asks: one catch-all, at the end, and states for
    every rule that reads them. -/
def ValidRules (rules : List VerdictRule) : Prop :=
  rules.map (fun r => decide (r.condition = .default)) =
      List.replicate (rules.length - 1) false ++ [true] ∧
    ∀ r ∈ rules, r.condition = .verifierStatusIn → r.statuses ≠ []

instance (rules : List VerdictRule) : Decidable (ValidRules rules) :=
  inferInstanceAs (Decidable (_ ∧ _))

/-- A matrix of well-formed rules. -/
structure VerdictMatrix where
  rules : List VerdictRule
  valid : ValidRules rules

/-- The states that count as a failure of the verifier. -/
def defaultErrorStatuses : List VerifierStatus :=
  [.timeout, .error, .mixed, .budgetExhausted]

/-- The rules in force. -/
def defaultRules : List VerdictRule :=
  [⟨.verifierStatusIn, .verifierError, defaultErrorStatuses⟩,
   ⟨.anyLayerContradicted, .contradicted, []⟩,
   ⟨.noVerifiedSupport, .insufficient, []⟩,
   ⟨.allLayersSupported, .supported, []⟩,
   ⟨.default, .insufficient, []⟩]

/-- The matrix in force. -/
def VerdictMatrix.default : VerdictMatrix :=
  ⟨defaultRules, by decide⟩

variable (u : Unicode)

/-- A word for a contradiction. -/
def isContradiction (value : String) : Bool :=
  u.lower value == "contradicted" || u.lower value == "contradiction"

/-- The word for support. -/
def isRuleLlmSupport (value : String) : Bool :=
  u.lower value == "supported"

/-- The word for entailment. -/
def isNliSupport (value : String) : Bool :=
  u.lower value == "entailment"

/-- Whether any layer of a verdict reports a contradiction. -/
def PairVerdict.contradicts (v : PairVerdict) : Bool :=
  isContradiction u v.ruleResult || isContradiction u v.nliResult || isContradiction u v.llmResult

/-- Some verdict contradicts the claim. -/
def anyLayerContradicted (claim : Claim) : Bool :=
  claim.pairVerdicts.any (PairVerdict.contradicts u)

/-- Which layers report support on some pair of the claim. -/
structure Layers where
  rule : Bool
  nli : Bool
  llm : Bool
  deriving DecidableEq, Repr

/-- The layers over all pairs. -/
def aggregateLayers (claim : Claim) : Layers :=
  { rule := claim.pairVerdicts.any (fun v => isRuleLlmSupport u v.ruleResult)
    nli := claim.pairVerdicts.any (fun v => isNliSupport u v.nliResult)
    llm := claim.pairVerdicts.any (fun v => isRuleLlmSupport u v.llmResult) }

/-- Every layer supports the claim. -/
def allLayersSupported (claim : Claim) : Bool :=
  let layers := aggregateLayers u claim
  layers.rule && layers.nli && layers.llm

/-- A rule applies to a claim. -/
def matchRule (claim : Claim) (rule : VerdictRule) : Bool :=
  match rule.condition with
  | .default => true
  | .verifierStatusIn => decide (claim.verifierStatus ∈ rule.statuses)
  | .anyLayerContradicted => anyLayerContradicted u claim
  | .noVerifiedSupport => !claim.hasVerifiedSupport
  | .allLayersSupported => allLayersSupported u claim
  | .ruleAndNliSupported =>
      let layers := aggregateLayers u claim
      layers.rule && layers.nli

/-- The verdict of the first rule that matches. -/
def VerdictMatrix.judge (m : VerdictMatrix) (claim : Claim) : VerdictResult :=
  match m.rules.find? (matchRule u claim) with
  | some rule => rule.verdict
  | none => .insufficient

/-- The catch-all makes some rule match. -/
theorem judge_matches (m : VerdictMatrix) (claim : Claim) :
    ∃ rule ∈ m.rules, matchRule u claim rule = true ∧ m.judge u claim = rule.verdict := by
  -- A valid list of rules ends in the catch-all, which matches every claim.
  have hdefault : ∃ rule ∈ m.rules, matchRule u claim rule = true := by
    have hmem : true ∈ m.rules.map (fun r => decide (r.condition = .default)) := by
      rw [m.valid.1]
      exact List.mem_append_right _ List.mem_cons_self
    rcases List.mem_map.mp hmem with ⟨rule, hrule, hcond⟩
    refine ⟨rule, hrule, ?_⟩
    rw [matchRule, of_decide_eq_true hcond]
  rw [VerdictMatrix.judge]
  cases hfind : m.rules.find? (matchRule u claim) with
  | none =>
      rcases hdefault with ⟨rule, hrule, hmatch⟩
      exact absurd hmatch (List.find?_eq_none.mp hfind rule hrule)
  | some rule =>
      exact ⟨rule, List.mem_of_find?_eq_some hfind, List.find?_some hfind, rfl⟩

/-- A claim is supported for the default matrix when its verifier worked, no
    layer contradicts, something supports it, and every layer reports support
    somewhere. -/
theorem judge_default_supported (claim : Claim) :
    VerdictMatrix.default.judge u claim = .supported ↔
      claim.verifierStatus ∉ defaultErrorStatuses ∧ anyLayerContradicted u claim = false ∧
        claim.hasVerifiedSupport = true ∧ allLayersSupported u claim = true := by
  simp only [VerdictMatrix.judge, VerdictMatrix.default, defaultRules, List.find?_cons, matchRule]
  -- The table is read from the top, so each line asks that those above failed.
  by_cases hstatus : claim.verifierStatus ∈ defaultErrorStatuses
  · simp [hstatus]
  · cases hcontra : anyLayerContradicted u claim <;>
      cases hsupport : claim.hasVerifiedSupport <;>
      cases hlayers : allLayersSupported u claim <;>
      simp [hstatus]

end Matrix

section Policy

/-- The business mode of a request. -/
inductive RunMode where
  | chitchat
  | factual
  | report
  deriving DecidableEq, Repr

/-- How strictly unverified content is held back. -/
inductive EnforcementMode where
  | disabled
  | shadow
  | enforced
  deriving DecidableEq, Repr

/-- What becomes of an answer. -/
inductive PolicyAction where
  | pass
  | filter
  | regenerate
  | exhausted
  | reject
  deriving DecidableEq, Repr

/-- Why the engine decided as it did, with the figures the message quotes. -/
inductive PolicyReason where
  | noClaims
  | criticalContradicted (claimIds : List String)
  | criticalInsufficient (claimIds : List String)
  | verifierErrors (ratio threshold : ℚ)
  | faithful (score threshold : ℚ)
  | partlyFaithful (score : ℚ)
  | exhausted (regenerateCount maxRegenerates : Nat) (score : ℚ)
  | unfaithful (score threshold : ℚ) (attempt maxRegenerates : Nat)

/-- What is done with an answer, and why. -/
structure PolicyDecision where
  action : PolicyAction
  reason : PolicyReason
  faithfulnessScore : ℚ
  failedClaims : List Claim := []
  forbiddenClaimTexts : List String := []
  allowedEvidenceIds : List String := []
  regenerateInstruction : String := ""
  verifierStatus : VerifierStatus

/-- The thresholds of the engine. -/
structure PolicyEngine where
  maxRegenerates : Nat := 2
  verifierErrorRejectRatio : ℚ := 3 / 10
  passThreshold : ℚ := 85 / 100
  filterThreshold : ℚ := 6 / 10

/-- The weight of a claim in the score. -/
def claimWeight (claim : Claim) : ℚ :=
  if claim.isRequired then 3 else if claim.riskLevel = "high" then 2 else 1

/-- The weighted share of the supported claims. -/
def computeWeightedScore (claims : List Claim) : ℚ :=
  let totalWeight := (claims.map claimWeight).sum
  let supportedWeight :=
    ((claims.filter (fun c => c.finalStatus = .supported)).map claimWeight).sum
  if 0 < totalWeight then supportedWeight / totalWeight else 0

/-- The verifier's status over all claims. Where every claim has the same
    state, that is the state of the whole. -/
def aggregateClaimStatus (claims : List Claim) : VerifierStatus :=
  let statuses := claims.map Claim.verifierStatus
  match statuses with
  | [] => .unknown
  | first :: rest =>
      if ∀ s ∈ statuses, s = .ok then .ok
      else if .error ∈ statuses then .error
      else if .timeout ∈ statuses then .timeout
      else if .budgetExhausted ∈ statuses then .budgetExhausted
      else if ∃ s ∈ rest, s ≠ first then .mixed
      else first

/-- The evidence that may be cited. -/
def collectAllowedEvidenceIds (claims : List Claim) (snapshot : EvidenceSnapshot) :
    List String :=
  let allowed := ((claims.flatMap Claim.verifiedSupportIds).filter (· ≠ "")).foldl addNew []
  allowed.filter (· ∈ snapshot.evidences.map Evidence.evidenceId)

/-- What the model is told about a failed claim. -/
def failedClaimLine (claim : Claim) : String :=
  match claim.finalStatus with
  | .contradicted => "- 以下内容与资料矛盾，不得再次输出：" ++ claim.text
  | .insufficient => "- 以下内容资料不足，需补充证据或删除：" ++ claim.text
  | .verifierError => "- 以下内容验证异常，请谨慎处理或删除：" ++ claim.text
  | _ => "- 以下内容未通过验证，需修正：" ++ claim.text

/-- How an answer is asked for again. -/
def buildRegenerateInstruction (u : Unicode) (failedClaims : List Claim)
    (allowedEvidenceIds : List String) : String :=
  let lines := "请根据以下反馈重新生成答案：" :: failedClaims.map failedClaimLine
  let ids := (Val.list (allowedEvidenceIds.map Val.str)).toStr u
  join "\n" (lines ++ if allowedEvidenceIds.isEmpty then []
    else ["- 优先使用以下已验证通过的证据编号：" ++ ids])

/-- The required claims of a status. -/
def criticalWith (status : ClaimFinalStatus) (claims : List Claim) : List Claim :=
  claims.filter (fun c => c.isRequired ∧ c.finalStatus = status)

/-- The share of the claims whose verifier failed. -/
def verifierErrorRatio (claims : List Claim) : ℚ :=
  ((claims.filter (fun c => c.finalStatus = .verifierError)).length : ℚ) / claims.length

/-- Decides from the claims. -/
def PolicyEngine.decide (e : PolicyEngine) (u : Unicode) (claims : List Claim)
    (runMode : RunMode) (regenerateCount : Nat) (snapshot : EvidenceSnapshot) : PolicyDecision :=
  if claims.isEmpty then
    { action := .pass, reason := .noClaims, faithfulnessScore := 1, verifierStatus := .unknown }
  else
    let score := computeWeightedScore claims
    let verifierStatus := aggregateClaimStatus claims
    let failedClaims := claims.filter (fun c => c.finalStatus ≠ .supported)
    let forbiddenClaimTexts := failedClaims.map Claim.text
    let rejected : PolicyReason → PolicyDecision := fun reason =>
      { action := .reject
        reason := reason
        faithfulnessScore := score
        failedClaims := failedClaims
        forbiddenClaimTexts := forbiddenClaimTexts
        verifierStatus := verifierStatus }
    let contradicted := criticalWith .contradicted claims
    let insufficient := criticalWith .insufficient claims
    let allowedEvidenceIds := collectAllowedEvidenceIds claims snapshot
    -- The three grounds to reject come before the score is looked at.
    if ¬ contradicted.isEmpty then rejected (.criticalContradicted (contradicted.map Claim.claimId))
    else if runMode = .factual ∧ ¬ insufficient.isEmpty then
      rejected (.criticalInsufficient (insufficient.map Claim.claimId))
    else if e.verifierErrorRejectRatio ≤ verifierErrorRatio claims then
      { action := .reject
        reason := .verifierErrors (verifierErrorRatio claims) e.verifierErrorRejectRatio
        faithfulnessScore := score
        failedClaims := failedClaims
        verifierStatus := .error }
    else if e.passThreshold ≤ score then
      { action := .pass
        reason := .faithful score e.passThreshold
        faithfulnessScore := score
        verifierStatus := verifierStatus }
    else
      let failed : PolicyAction → PolicyReason → PolicyDecision := fun action reason =>
        { action := action
          reason := reason
          faithfulnessScore := score
          failedClaims := failedClaims
          forbiddenClaimTexts := forbiddenClaimTexts
          allowedEvidenceIds := allowedEvidenceIds
          verifierStatus := verifierStatus }
      if e.filterThreshold ≤ score then failed .filter (.partlyFaithful score)
      else if e.maxRegenerates ≤ regenerateCount then
        failed .exhausted (.exhausted regenerateCount e.maxRegenerates score)
      else
        { failed .regenerate
            (.unfaithful score e.filterThreshold (regenerateCount + 1) e.maxRegenerates) with
          regenerateInstruction :=
            buildRegenerateInstruction u failedClaims allowedEvidenceIds }

/-- The grounds on which the engine rejects: a critical claim contradicted,
    one left open in factual mode, or too many failures of the verifier. -/
def PolicyEngine.RejectGround (e : PolicyEngine) (claims : List Claim) (runMode : RunMode) :
    Prop :=
  (∃ c ∈ claims, c.isRequired = true ∧ c.finalStatus = .contradicted) ∨
  (runMode = .factual ∧ ∃ c ∈ claims, c.isRequired = true ∧ c.finalStatus = .insufficient) ∨
  e.verifierErrorRejectRatio ≤ verifierErrorRatio claims

theorem criticalWith_isEmpty (status : ClaimFinalStatus) (claims : List Claim) :
    (criticalWith status claims).isEmpty = false ↔
      ∃ c ∈ claims, c.isRequired = true ∧ c.finalStatus = status := by
  rw [List.isEmpty_eq_false_iff_exists_mem]
  simp only [criticalWith, List.mem_filter, decide_eq_true_eq]

instance (e : PolicyEngine) (claims : List Claim) (runMode : RunMode) :
    Decidable (e.RejectGround claims runMode) :=
  inferInstanceAs (Decidable (_ ∨ _ ∨ _))

section Decision

variable (e : PolicyEngine) (u : Unicode) (claims : List Claim) (runMode : RunMode)
  (regenerateCount : Nat) (snapshot : EvidenceSnapshot)

/-- The action, read off the ladder: the grounds to reject, then the two
    thresholds, then the number of attempts. -/
theorem decide_action (hne : claims ≠ []) :
    (e.decide u claims runMode regenerateCount snapshot).action =
      if e.RejectGround claims runMode then .reject
      else if e.passThreshold ≤ computeWeightedScore claims then .pass
      else if e.filterThreshold ≤ computeWeightedScore claims then .filter
      else if e.maxRegenerates ≤ regenerateCount then .exhausted
      else .regenerate := by
  have hnil : claims.isEmpty = false := by simpa using hne
  simp only [PolicyEngine.decide, PolicyEngine.RejectGround, hnil, ← criticalWith_isEmpty]
  -- The grounds are looked at one after the other.
  cases hc : (criticalWith .contradicted claims).isEmpty
  · simp
  · cases hi : (criticalWith .insufficient claims).isEmpty <;>
      by_cases hf : runMode = .factual <;>
      by_cases hr : e.verifierErrorRejectRatio ≤ verifierErrorRatio claims <;>
      simp [hf, hr] <;> split_ifs <;> rfl

/-- The engine rejects exactly on one of its grounds. -/
theorem decide_reject_iff (hne : claims ≠ []) :
    (e.decide u claims runMode regenerateCount snapshot).action = .reject ↔
      e.RejectGround claims runMode := by
  rw [decide_action e u claims runMode regenerateCount snapshot hne]
  by_cases hground : e.RejectGround claims runMode
  · simp [hground]
  · rw [if_neg hground]
    split_ifs <;> simp [hground]

/-- The engine lets an answer through, whole or in part, when it has no ground
    to reject and the score reaches one of the two thresholds. -/
theorem decide_letsThrough_iff (hne : claims ≠ []) :
    ((e.decide u claims runMode regenerateCount snapshot).action = .pass ∨
        (e.decide u claims runMode regenerateCount snapshot).action = .filter) ↔
      ¬ e.RejectGround claims runMode ∧
        (e.passThreshold ≤ computeWeightedScore claims ∨
          e.filterThreshold ≤ computeWeightedScore claims) := by
  rw [decide_action e u claims runMode regenerateCount snapshot hne]
  by_cases hground : e.RejectGround claims runMode
  · simp [hground]
  · rw [if_neg hground]
    split_ifs with hpass hfilter <;> simp [*]

end Decision

theorem one_le_claimWeight (claim : Claim) : 1 ≤ claimWeight claim := by
  unfold claimWeight
  split_ifs <;> norm_num

theorem computeWeightedScore_of_supported {claims : List Claim} (hne : claims ≠ [])
    (h : ∀ c ∈ claims, c.finalStatus = .supported) : computeWeightedScore claims = 1 := by
  have hall : claims.filter (fun c => c.finalStatus = .supported) = claims :=
    List.filter_eq_self.mpr (fun c hc => decide_eq_true (h c hc))
  -- Every claim weighs something, so the whole does.
  have hpos : 0 < (claims.map claimWeight).sum := by
    refine List.sum_pos _ ?_ (by simpa using hne)
    intro q hq
    rcases List.mem_map.mp hq with ⟨c, -, rfl⟩
    exact lt_of_lt_of_le one_pos (one_le_claimWeight c)
  rw [computeWeightedScore, hall, if_pos hpos, div_self hpos.ne']

/-- With every claim supported the engine lets the answer pass. -/
theorem decide_pass_of_supported (u : Unicode) (claims : List Claim) (runMode : RunMode)
    (regenerateCount : Nat) (snapshot : EvidenceSnapshot) (hne : claims ≠ [])
    (h : ∀ c ∈ claims, c.finalStatus = .supported) :
    (({} : PolicyEngine).decide u claims runMode regenerateCount snapshot).action = .pass := by
  -- No claim has another status, so none of the grounds is there.
  have hnone : ∀ status, status ≠ .supported →
      claims.filter (fun c => c.finalStatus = status) = [] := by
    intro status hstatus
    refine List.filter_eq_nil_iff.mpr (fun c hc => ?_)
    rw [h c hc]
    simpa using hstatus.symm
  have hcritical : ∀ status, status ≠ .supported → (criticalWith status claims).isEmpty = true := by
    intro status hstatus
    rw [List.isEmpty_iff, criticalWith]
    refine List.filter_eq_nil_iff.mpr (fun c hc => ?_)
    rw [h c hc]
    simp [hstatus.symm]
  have hratio : ¬ (3 / 10 : ℚ) ≤ verifierErrorRatio claims := by
    rw [verifierErrorRatio, hnone .verifierError (by decide)]
    norm_num
  have hscore : (85 / 100 : ℚ) ≤ computeWeightedScore claims := by
    rw [computeWeightedScore_of_supported hne h]
    norm_num
  simp [PolicyEngine.decide, hne, hcritical, hratio, hscore]

end Policy

end AgenticRag

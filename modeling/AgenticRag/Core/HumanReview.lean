import AgenticRag.Core.Evidence
import AgenticRag.Core.ReportVerifier

/-!
# The Review of a Report

Whether a report has to be looked at by a person before it is published. The
policy of the skill can ask for it, some kinds of reports always need it, and so
does a report too many of whose claims have little behind them. A report that
needs no review is approved at once. Later a person approves or rejects it, or
asks for another one; the status before is only looked at where it is kept.

## Main definitions

* `ReviewConfig`: The thresholds.
* `transitionPublishStatus`, `applyReview`: What a review changes.
-/

namespace AgenticRag

namespace Report

open Py

/-- The skills that are reviewed. -/
def highSensitivitySkillTypes : List String :=
  ["financial_report", "cost_analysis", "quality_analysis", "ehs_report", "hr_report",
    "compliance_report"]

/-- The thresholds of the review, and how the second is written. -/
structure ReviewConfig where
  lowConfidenceThreshold : ℚ := 7 / 10
  lowConfidenceRatioThreshold : ℚ := 3 / 10
  ratioThresholdText : String := "0.3"

variable (cfg : ReviewConfig)

/-- A claim counts as weak if it is marked, or if its confidence is low. No
    confidence at all, or none to speak of, counts as full. -/
def isLowConfidence (claim : ReportClaim) : Bool :=
  claim.needsHumanReview || decide (scoreOr claim.confidence 1 < cfg.lowConfidenceThreshold)

/-- The share of weak claims. -/
def lowConfidenceRatio (claims : List ReportClaim) : ℚ :=
  (claims.countP (isLowConfidence cfg) : ℚ) / claims.length

/-- Whether a report needs a review, and why. -/
def shouldRequireHumanReview (claims : List ReportClaim) (publishPolicy : Dict)
    (skillType : String) : Bool × String :=
  if policyFlag publishPolicy "require_human_review" then
    (true, "publish_policy.require_human_review=true")
  else if highSensitivitySkillTypes.contains skillType then
    (true, "高敏 Skill 类型: " ++ skillType)
  -- A report without claims has no share of weak ones.
  else if claims.isEmpty then (false, "无 Claim，跳过")
  else if cfg.lowConfidenceRatioThreshold < lowConfidenceRatio cfg claims then
    (true, "低置信度 Claim 占比 " ++ fixed2 (lowConfidenceRatio cfg claims) ++ " 超过阈值 " ++
      cfg.ratioThresholdText)
  else (false, "")

/-- The state of the review before anyone has looked. -/
def buildInitialHumanReviewResult (requires : Bool) (reason skillType : String) :
    HumanReviewResult :=
  if requires then
    { action := "comment"
      comments := [{ reviewerId := "system", comment := "触发人工审核: " ++ reason,
                     skillType := skillType }]
      approved := false
      publishAllowed := false }
  else { action := "comment", comments := [], approved := true, publishAllowed := true }

/-- The status a report starts with, why, and the state of its review. -/
def evaluate (claims : List ReportClaim) (publishPolicy : Dict) (skillType : String) :
    PublishStatus × String × HumanReviewResult :=
  let (requires, reason) := shouldRequireHumanReview cfg claims publishPolicy skillType
  let result := buildInitialHumanReviewResult requires reason skillType
  if requires then (.pendingReview, reason, result)
  else (.approved, reason, { result with approved := true, publishAllowed := true })

/-- The status after a review, and why. -/
def transitionPublishStatus (current : PublishStatus) :
    Option HumanReviewResult → PublishStatus × String
  | none => (current, "")
  | some review =>
      if review.action = "approve" ∧ review.approved then
        if review.publishAllowed then (.published, "用户已批准且允许发布")
        else (.approved, "用户已批准，等待发布")
      else if review.action = "reject" then (.rejected, "用户已驳回")
      else if review.action = "request_regenerate" then (.draft, "用户请求重新生成")
      else if ["edit", "comment"].contains review.action then (current, "用户 " ++ review.action)
      else (current, "")

/-- The status of a report as a review finds it. -/
def ReportArtifact.status (a : ReportArtifact) : PublishStatus := a.publishStatus.getD .draft

/-- The report after a review. -/
def applyReview (a : ReportArtifact) (review : Option HumanReviewResult) :
    PublishStatus × ReportArtifact :=
  let (status, reason) := transitionPublishStatus a.status review
  (status, { a with
    publishStatus := some status
    humanReviewResult := review
    publishStatusReason := if reason = "" then a.publishStatusReason else reason })

end Report

end AgenticRag

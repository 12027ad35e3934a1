import AgenticRag.Core.State

/-!
# The Quality Gate

The node that looks at the scores the tools left behind and decides whether
to go on, to try a tool again, or to fall back on the web. A retry is counted;
falling back is not.

## Main definitions

* `Quality`, `AgentState.quality`: The scores the gate reads for a target.
* `qualityCheckNode`: The node.
-/

namespace AgenticRag

/-- The scores the gate reads. -/
structure Quality where
  score : ℚ
  hasRelevant : Bool
  relevantCount : Int
  source : ScoreSource

/-- The scores for the target of the state. A target without scores of its
    own is read as having none. -/
def AgentState.quality (s : AgentState) : Quality :=
  match s.routeTarget with
  | .rag => ⟨s.ragQualityScore, s.ragHasRelevant, s.ragRelevantCount, s.ragScoreSource⟩
  | .database =>
      -- One row is enough to be relevant.
      let rowCount := (s.dbResult.bind DbResult.rowCount).getD 0
      ⟨s.dbQualityScore, decide (0 < rowCount), rowCount, .base⟩
  | .hybrid =>
      let score := if 0 < s.dbQualityScore then (s.ragQualityScore + s.dbQualityScore) / 2
        else s.ragQualityScore
      ⟨score, s.ragHasRelevant, s.ragRelevantCount, s.ragScoreSource⟩
  | .graph => ⟨s.graphQualityScore, s.graphHasResult, s.graphRowCount, s.graphScoreSource⟩
  | _ => ⟨0, false, 0, .base⟩

/-- What is good enough. -/
def qualityThreshold : ScoreSource → ℚ
  | .graderMerged => 65 / 100
  | .graph => 7 / 10
  | .base => 7 / 10

/-- The decision for the end an exploration came to, if that end decides. -/
def decideByVerdict (explorationVerdict : String) (retryCount maxRetries : Nat) :
    Option QualityDecision :=
  if explorationVerdict = "data_found" then some .pass
  else if explorationVerdict = "no_data_confirmed" then some .pass
  else if explorationVerdict = "exploration_failed" then
    if retryCount < maxRetries then some .retryDb else some .fallbackWeb
  else if explorationVerdict = "budget_exhausted" then some .fallbackWeb
  else none

/-- Whether the scores are good enough for the target. -/
def qualityOk (q : Quality) (target : RouteTarget) : Bool :=
  match target with
  | .database => decide (qualityThreshold q.source ≤ q.score ∧ 0 < q.relevantCount)
  | .graph => decide (qualityThreshold q.source ≤ q.score ∧ 0 < q.relevantCount)
  | .rag => decide (qualityThreshold q.source ≤ q.score ∧ q.hasRelevant ∧ 2 ≤ q.relevantCount)
  | .hybrid => decide (qualityThreshold q.source ≤ q.score ∧ q.hasRelevant ∧ 2 ≤ q.relevantCount)
  | _ => decide (qualityThreshold q.source ≤ q.score ∧ q.hasRelevant)

/-- Whether to go on, retry or fall back. -/
def makeDecision (q : Quality) (retryCount maxRetries : Nat) (target : RouteTarget) :
    QualityDecision :=
  if target = .chitchat then .pass
  else if qualityOk q target then .pass
  else if retryCount < maxRetries then
    match target with
    | .rag => .retryRag
    | .hybrid => .retryRag
    | .database => .retryDb
    | .graph => .retryGraph
    | _ => .fallbackWeb
  else .fallbackWeb

/-- The end the exploration of the database came to, for that target. -/
def AgentState.explorationVerdict (s : AgentState) : String :=
  if s.routeTarget = .database then (s.dbResult.map DbResult.explorationVerdict).getD "" else ""

/-- Whether the retrieval service itself failed. -/
def AgentState.retrievalInfraError (s : AgentState) : Bool :=
  decide ((s.routeTarget = .rag ∨ s.routeTarget = .hybrid) ∧
    (s.retrievalErrorCode = "RETRIEVAL_SERVICE_ERROR" ∨ s.retrievalErrorCode = "RETRIEVAL_AUTH"))

/-- The decision of the gate. -/
def AgentState.gateDecision (s : AgentState) : QualityDecision :=
  match decideByVerdict s.explorationVerdict s.retryCount s.maxRetries with
  | some decision => decision
  | none =>
      -- A service that is down and a spent token budget are not retried.
      if s.retrievalInfraError then .fallbackWeb
      else if s.retryTokenBudget ≤ s.retryTokenUsed then .fallbackWeb
      else makeDecision s.quality s.retryCount s.maxRetries s.routeTarget

/-- Whether a decision counts as a retry. -/
def QualityDecision.isRetry : QualityDecision → Bool
  | .retryRag => true
  | .retryDb => true
  | .retryGraph => true
  | _ => false

/-- The node of the gate. -/
def qualityCheckNode (s : AgentState) : AgentState :=
  -- Falling back on the web leaves the count of retries as it is.
  { s with
    qualityDecision := s.gateDecision
    retryCount := if s.gateDecision.isRetry then s.retryCount + 1 else s.retryCount }

end AgenticRag

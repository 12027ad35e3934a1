import AgenticRag.Core.AnswerAst
import AgenticRag.Core.Policy
import AgenticRag.Core.TokenBudget

/-!
# The Workflow State

The state the nodes of the workflow share. A node returns the fields it
changes and the rest stay as they are, so a node is a function from states
to states. Fields no modelled node reads are left out: the timings, the trace
and the tuning values of the tools.

A field that may be missing from the dictionary has the value its readers
fall back on as its default here.

## Main definitions

* `RouteTarget`, `RouteDecision`: Where the router sends a question.
* `resolveRunMode`, `resolveEnforcement`: The modes, where the state does not
  name them.
-/

namespace AgenticRag

open Py

/-- Where a question is sent. The clarification node clears the target, which
    is `other` with an empty name. -/
inductive RouteTarget where
  | rag
  | database
  | hybrid
  | web
  | chitchat
  | rest
  | graph
  | other (name : String)
  deriving DecidableEq, Repr

/-- The router's decision, as far as the edges read it. -/
structure RouteDecision where
  source : String := ""
  complexity : String := "simple"
  needsClarification : Bool := false
  needsMultiTool : Bool := false
  deriving DecidableEq, Repr

/-- What the quality gate may decide. -/
inductive QualityDecision where
  | pass
  | retryRag
  | retryDb
  | retryGraph
  | fallbackWeb
  | fallback
  deriving DecidableEq, Repr

/-- Which score a retrieval reports. Any other name is read as `base`. -/
inductive ScoreSource where
  | base
  | graderMerged
  | graph
  deriving DecidableEq, Repr

/-- The language of the question. Any other name is read as `zhCN`. -/
inductive QueryLang where
  | zhCN
  | zhTW
  | en
  deriving DecidableEq, Repr

/-- The configuration of the agent, as far as it is read. -/
structure AgentConfig where
  runMode : Option RunMode := none
  citationEnhancementEnabled : Bool := false
  rolloutPhase : String := "shadow"
  reactEnabled : Bool := false
  deriving DecidableEq, Repr

/-- What the report tool leaves in the state. -/
structure ReportState where
  artifacts : List Dict := []
  errorCode : String := ""
  publishStatus : Option String := none
  needsHumanReview : Option Bool := none
  summary : String := ""
  downloadUrl : String := ""
  fileUri : String := ""
  isPartial : Bool := false
  qualityScore : Val := .float 0 "0.0"
  claimCount : Nat := 0
  dataSourceCount : Nat := 0
  humanReview : Dict := []

/-- The state of the workflow. -/
structure AgentState extends ToolOutputs where
  userQuestion : String := ""
  queryLang : QueryLang := .zhCN
  tenantId : String := ""
  llmId : String := ""
  agentConfig : AgentConfig := {}
  routeTarget : RouteTarget := .chitchat
  routeDecision : Option RouteDecision := none
  reactEnabled : Bool := false
  ragQualityScore : ℚ := 0
  ragHasRelevant : Bool := false
  ragRelevantCount : Int := 0
  ragScoreSource : ScoreSource := .base
  retrievalErrorCode : String := ""
  dbQualityScore : ℚ := 0
  graphQualityScore : ℚ := 0
  graphHasResult : Bool := false
  graphRowCount : Int := 0
  graphScoreSource : ScoreSource := .graph
  retryCount : Nat := 0
  maxRetries : Nat := 3
  retryTokenUsed : Int := 0
  retryTokenBudget : Int := 2000
  qualityDecision : QualityDecision := .pass
  terminationReason : String := ""
  terminationSource : String := ""
  fallbackMessage : String := ""
  evidence : List Evidence := []
  evidenceSnapshotId : String := ""
  toolRunId : String := ""
  attemptId : Int := 1
  totalTokenBudget : Int := 110000
  lockedSystemTokens : Int := 0
  lockedHistoryTokens : Int := 0
  toolTokenCounts : TokenCounts := []
  overflownTools : List SourceType := []
  compressionLevel : CompressLevel := .normal
  compactMode : Bool := false
  mergedContext : String := ""
  generatedAnswer : String := ""
  answerWithCitations : String := ""
  answerAst : Option AnswerAst := none
  claims : List Claim := []
  claimVerdicts : List Claim := []
  runMode : Option RunMode := none
  enforcementMode : Option EnforcementMode := none
  regenerateCount : Nat := 0
  hallucinationScore : ℚ := 0
  hallucinationAction : PolicyAction := .pass
  rejectReason : String := ""
  report : ReportState := {}
  finalAnswer : String := ""

/-- The tokens the system prompt and the history take. -/
def AgentState.lockedTokens (s : AgentState) : Int :=
  s.lockedSystemTokens + s.lockedHistoryTokens

/-- The mode of a request. -/
def resolveRunMode (routeTarget : RouteTarget) (agentConfig : AgentConfig) : RunMode :=
  match agentConfig.runMode with
  | some mode => mode
  | none => if routeTarget = .chitchat then .chitchat else .factual

/-- Whether citations are enforced. -/
def resolveEnforcement (runMode : RunMode) (agentConfig : AgentConfig) : EnforcementMode :=
  if runMode = .chitchat then .disabled
  else if ¬ agentConfig.citationEnhancementEnabled then .disabled
  else if agentConfig.rolloutPhase = "shadow" then .shadow
  else .enforced

/-- The run mode of a state, named or resolved. -/
def AgentState.currentRunMode (s : AgentState) : RunMode :=
  s.runMode.getD (resolveRunMode s.routeTarget s.agentConfig)

/-- The enforcement mode of a state, named or resolved. -/
def AgentState.currentEnforcement (s : AgentState) : EnforcementMode :=
  s.enforcementMode.getD (resolveEnforcement s.currentRunMode s.agentConfig)

end AgenticRag

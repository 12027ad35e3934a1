import AgenticRag.Core.Answer
import AgenticRag.Core.EvidenceFusion
import AgenticRag.Core.Hallucination
import AgenticRag.Core.QualityCheck

/-!
# The Workflow Graph

The nodes of the workflow and the edges between them, as a machine that takes
one node at a step. What a node gets from outside (the router's decision, a
tool's result, the fused evidence, a model's answer, a verifier's verdict)
comes with the step, so nothing is assumed about it.

An edge that depends on the state reads the state the node has just written.

The fusion node is taken by what it may leave behind, any evidence at all, and
`fusedNode_covers` says that every round of `evidenceFusionNode` that returns
is among the steps taken here. A node that raises takes no step: the run stops
there with the exception.

## Main definitions

* `Node`: The nodes, `finish` being the end.
* `Config`, `step`: The machine.

## Theorems

* `fusedNode_covers`: The machine takes every step of the fusion node.
-/

namespace AgenticRag

open Py

/-- The nodes of the graph. -/
inductive Node where
  | questionInput
  | intentRouter
  | clarification
  | ragTool
  | dbTool
  | webTool
  | planExecutor
  | reactSubgraph
  | restTool
  | graphTool
  | evidenceFusion
  | reflection
  | qualityCheck
  | promptAssembly
  | llmGenerate
  | hallucination
  | answerRenderer
  | observability
  | answerOutput
  | fallback
  | finish
  deriving DecidableEq, Repr

/-- What the retrieval tool returns. -/
structure RagToolResult where
  docs : List RagDoc := []
  qualityScore : ℚ := 0
  hasRelevant : Bool := false
  relevantCount : Int := 0
  scoreSource : ScoreSource := .base
  retrievalErrorCode : String := ""
  detectedLang : Option QueryLang := none

/-- What the execution of a plan adds up to. -/
structure PlanResult where
  toolResults : List StepResult := []
  ragDocs : List RagDoc := []
  ragQualityScore : ℚ := 0
  ragHasRelevant : Bool := false
  ragRelevantCount : Int := 0
  dbResult : Option DbResult := none
  dbQualityScore : ℚ := 0
  webDocs : List WebDoc := []

/-- What the reasoning subgraph returns. -/
structure ReactResult where
  evidence : List Evidence := []
  terminationReason : String := ""
  terminationSource : String := ""

/-- What the fusion node leaves in the state. -/
structure FusedFields where
  ragDocs : List RagDoc := []
  evidence : List Evidence := []
  evidenceSnapshotId : String := ""
  toolTokenCounts : TokenCounts := []
  overflownTools : List SourceType := []
  compressionLevel : CompressLevel := .normal

/-- What a step gets from outside. A result of `none` means that the call
    raised and the node caught it. -/
structure World where
  queryLang : QueryLang
  routeTarget : RouteTarget
  routeDecision : RouteDecision
  clarificationAnswer : String
  rag : Option RagToolResult
  db : Option DbResult
  web : Option (List WebDoc)
  rest : RestResult
  graph : GraphResult
  plan : PlanResult
  react : ReactResult
  fused : FusedFields
  mergedContext : String
  generatedAnswer : String
  verifier : VerifierWorld

/-- A world in which nothing is found and every service is down. -/
instance : Inhabited World :=
  ⟨{ queryLang := .zhCN
     routeTarget := .chitchat
     routeDecision := {}
     clarificationAnswer := ""
     rag := none
     db := none
     web := none
     rest := {}
     graph := {}
     plan := {}
     react := {}
     fused := {}
     mergedContext := ""
     generatedAnswer := ""
     verifier := default }⟩

/-- The retries a request is given. -/
def defaultMaxRetries : Nat := 3

/-- The evidence of the reasoning subgraph that is new. A piece without an id
    is always taken. -/
def freshEvidence : List String → List Evidence → List Evidence
  | _, [] => []
  | seen, ev :: rest =>
      if ev.evidenceId = "" then ev :: freshEvidence seen rest
      else if ev.evidenceId ∈ seen then freshEvidence seen rest
      else ev :: freshEvidence (ev.evidenceId :: seen) rest

section Nodes

variable (x : World) (s : AgentState)

/-- The entry node. It starts the count of retries. -/
def userQuestionNode : AgentState :=
  if s.userQuestion = "" then
    { s with
      queryLang := .zhCN
      routeTarget := .chitchat
      retryCount := 0
      maxRetries := defaultMaxRetries
      reactEnabled := false }
  else
    { s with
      queryLang := x.queryLang
      retryCount := 0
      maxRetries := defaultMaxRetries
      reactEnabled := s.agentConfig.reactEnabled }

/-- The node that routes a question. -/
def intentRouterNode : AgentState :=
  if s.userQuestion = "" then { s with routeTarget := .chitchat, routeDecision := some {} }
  else { s with routeTarget := x.routeTarget, routeDecision := some x.routeDecision }

/-- The clarification node. The user's answer is added to the question and
    the route is cleared. -/
def clarificationNode : AgentState :=
  if s.routeDecision.isNone then { s with routeTarget := .chitchat }
  else
    let newQuestion :=
      if x.clarificationAnswer = "" then s.userQuestion
      else if x.clarificationAnswer.length < 50 then
        s.userQuestion ++ "（补充说明：" ++ x.clarificationAnswer ++ "）"
      else x.clarificationAnswer
    { s with
      userQuestion := newQuestion
      routeTarget := .other ""
      routeDecision := none }

/-- The retrieval node. The tokens of the documents are added to the retry
    budget's account. -/
def ragToolNode : AgentState :=
  match (if s.userQuestion = "" then none else x.rag) with
  | none =>
      -- A call that raised leaves no error code, so it is retried.
      { s with
        ragDocs := []
        ragQualityScore := 0
        ragHasRelevant := false
        ragRelevantCount := 0
        ragScoreSource := .base
        retrievalErrorCode := "" }
  | some r =>
      { s with
        ragDocs := r.docs
        ragQualityScore := r.qualityScore
        ragHasRelevant := r.hasRelevant
        ragRelevantCount := r.relevantCount
        ragScoreSource := r.scoreSource
        queryLang := r.detectedLang.getD s.queryLang
        retrievalErrorCode := r.retrievalErrorCode
        retryTokenUsed :=
          s.retryTokenUsed + ((r.docs.map (fun doc => doc.content.length)).sum / 4 : Nat) }

/-- The node that asks a database. -/
def dbToolNode : AgentState :=
  match (if s.userQuestion = "" then none else x.db) with
  | none => { s with dbResult := none, dbQualityScore := 0 }
  | some r => { s with dbResult := some r, dbQualityScore := r.qualityScore.getD 0 }

/-- The node that searches the web. -/
def webToolNode : AgentState :=
  { s with webDocs := if s.userQuestion = "" then [] else x.web.getD [] }

/-- The node that calls a service. -/
def restToolNode : AgentState :=
  { s with restResult := some x.rest }

/-- The node that asks the graph. -/
def graphToolNode : AgentState :=
  let rowCount := x.graph.rowCount.getD 0
  { s with
    graphResult := some { x.graph with rowCount := some rowCount }
    graphQualityScore := x.graph.qualityScore.getD 0
    graphScoreSource := .graph
    graphHasResult := decide (0 < rowCount)
    graphRowCount := rowCount }

/-- The node that runs a plan. -/
def planExecutorNode : AgentState :=
  { s with
    toolResults := x.plan.toolResults
    ragDocs := x.plan.ragDocs
    ragQualityScore := x.plan.ragQualityScore
    ragHasRelevant := x.plan.ragHasRelevant
    ragRelevantCount := x.plan.ragRelevantCount
    dbResult := x.plan.dbResult
    dbQualityScore := x.plan.dbQualityScore
    webDocs := x.plan.webDocs }

/-- The reasoning subgraph. It may name a reason to terminate. -/
def reactSubgraphNode : AgentState :=
  if ¬ s.reactEnabled ∨ s.userQuestion = "" then s
  else
    { s with
      evidence := s.evidence ++
        freshEvidence (s.evidence.map Evidence.evidenceId) x.react.evidence
      terminationReason := x.react.terminationReason
      terminationSource := x.react.terminationSource }

/-- The fusion node as the graph sees it: it leaves some evidence, the
    documents it compressed, and its account of the tokens. -/
def fusedNode : AgentState :=
  { s with
    ragDocs := x.fused.ragDocs
    evidence := x.fused.evidence
    evidenceSnapshotId := x.fused.evidenceSnapshotId
    toolTokenCounts := x.fused.toolTokenCounts
    overflownTools := x.fused.overflownTools
    compressionLevel := x.fused.compressionLevel }

/-- The node that writes the context. -/
def promptAssemblyNode : AgentState :=
  { s with mergedContext := x.mergedContext }

/-- The node that asks for an answer. -/
def llmGenerateNode : AgentState :=
  { s with generatedAnswer := x.generatedAnswer }

end Nodes

section Edges

variable (s : AgentState)

/-- The edge out of the router. -/
def routeDecision : Node :=
  let decision := s.routeDecision.getD {}
  -- Clarification comes first, then the two ways of planning several tools.
  if decision.needsClarification then .clarification
  else if s.reactEnabled ∧ decision.complexity = "complex" ∧ decision.needsMultiTool ∧
      (s.routeTarget = .hybrid ∨ s.routeTarget = .database) then .reactSubgraph
  else if decision.source = "planner" ∧ decision.complexity = "complex" then .planExecutor
  else
    match s.routeTarget with
    | .rag => .ragTool
    | .database => .dbTool
    | .hybrid => .ragTool
    | .web => .webTool
    | .rest => .restTool
    | .graph => .graphTool
    | _ => .promptAssembly

/-- The edge out of the retrieval node. -/
def afterRagTool : Node :=
  if s.routeTarget = .hybrid then .dbTool else .evidenceFusion

/-- The edge out of the quality gate. A reason to terminate comes first. -/
def qualityCheckDecision : Node :=
  if s.terminationReason ≠ "" then .fallback
  else
    match s.qualityDecision with
    | .pass => .promptAssembly
    | .retryRag => .ragTool
    | .retryDb => .dbTool
    | .retryGraph => .graphTool
    | .fallbackWeb => .webTool
    | .fallback => .promptAssembly

/-- The edge out of the hallucination node. -/
def hallucinationDecision : Node :=
  match s.hallucinationAction with
  | .pass => .answerRenderer
  | .filter => .answerRenderer
  | .regenerate => .promptAssembly
  | .reject => .observability
  | .exhausted => .observability

end Edges

/-- A node about to run and the state it will see. -/
structure Config where
  node : Node
  state : AgentState

/-- Run the node at hand and take the edge out of it. -/
def step (rt : Runtime) (x : World) (c : Config) : Config :=
  let s := c.state
  match c.node with
  | .questionInput => ⟨.intentRouter, userQuestionNode x s⟩
  | .intentRouter => ⟨routeDecision (intentRouterNode x s), intentRouterNode x s⟩
  | .clarification => ⟨.intentRouter, clarificationNode x s⟩
  | .ragTool => ⟨afterRagTool (ragToolNode x s), ragToolNode x s⟩
  | .dbTool => ⟨.evidenceFusion, dbToolNode x s⟩
  | .webTool => ⟨.evidenceFusion, webToolNode x s⟩
  | .planExecutor => ⟨.evidenceFusion, planExecutorNode x s⟩
  | .reactSubgraph => ⟨.evidenceFusion, reactSubgraphNode x s⟩
  | .restTool => ⟨.evidenceFusion, restToolNode x s⟩
  | .graphTool => ⟨.evidenceFusion, graphToolNode x s⟩
  | .evidenceFusion => ⟨.reflection, fusedNode x s⟩
  | .reflection => ⟨.qualityCheck, s⟩
  | .qualityCheck => ⟨qualityCheckDecision (qualityCheckNode s), qualityCheckNode s⟩
  | .promptAssembly => ⟨.llmGenerate, promptAssemblyNode x s⟩
  | .llmGenerate => ⟨.hallucination, llmGenerateNode x s⟩
  | .hallucination =>
      let next := (hallucinationNode rt x.verifier s).1
      ⟨hallucinationDecision next, next⟩
  | .answerRenderer => ⟨.observability, answerRendererNode s⟩
  | .fallback => ⟨.observability, fallbackNode s⟩
  | .observability => ⟨.answerOutput, observabilityNode s⟩
  | .answerOutput => ⟨.finish, finalAnswerNode s⟩
  | .finish => c

/-- Every round of fusion that returns is a step of the machine. -/
theorem fusedNode_covers (rt : Runtime) (llm : Option ChatModel) (s t : AgentState)
    (h : evidenceFusionNode rt llm s = .ok t) :
    ∃ x : World, step rt x ⟨.evidenceFusion, s⟩ = ⟨.reflection, t⟩ := by
  -- The node writes the six fields the world decides and no other.
  have hfields : t = { s with
      ragDocs := t.ragDocs
      evidence := t.evidence
      evidenceSnapshotId := t.evidenceSnapshotId
      toolTokenCounts := t.toolTokenCounts
      overflownTools := t.overflownTools
      compressionLevel := t.compressionLevel } := by
    unfold evidenceFusionNode at h
    cases hlevel : s.roundLevel rt with
    | error e => rw [hlevel] at h; cases h
    | ok level =>
        cases hmerged : s.mergedEvidences rt llm with
        | error e => rw [hlevel, hmerged] at h; cases h
        | ok merged =>
            rw [hlevel, hmerged] at h
            cases h
            rfl
  refine ⟨{ (default : World) with
    fused := ⟨t.ragDocs, t.evidence, t.evidenceSnapshotId, t.toolTokenCounts, t.overflownTools,
      t.compressionLevel⟩ }, ?_⟩
  exact congrArg (Config.mk .reflection) hfields.symm

end AgenticRag

import AgenticRag.Core.ToolDispatcher
import AgenticRag.Theory.Aggregation
import AgenticRag.Theory.Coverage
import AgenticRag.Theory.Scheduling
import AgenticRag.Theory.Termination

/-!
# Plans That Come to Nothing

What the dispatcher writes is always filed under the step it was asked for,
whatever the tool says of itself (`filed_dispatch`). But no tool is ever asked. The
base class passes the context by position and the tools take it by its name, so
the call is refused before the body runs, and the guard records a failure. There is
no tool for a graph at all. Every plan that is run ends as a list of failures, one
for each id of its steps (`no_step_reaches_tool`).

The nodes that follow are not told. The aggregator makes a database result without
rows of the failures, and the fusion takes a result without rows for a query that
was carried out and found none. So the evidence a plan leaves is one piece, which
says with full confidence that the database has no rows, whether or not a step asked
a database (`plan_evidence`).

## Main definitions

* `Filed`: A result is that of a step.
* `Unasked`: No tool has left anything in a state.

## Theorems

* `no_step_reaches_tool`: The results of a plan.
* `unasked_run`: A plan is run before any tool.
* `plan_evidence`: The evidence of a plan.
-/

namespace AgenticRag

namespace Plan

open Py Ordered Driven

section Dispatch

/-- A result that names a step and its tool and says whether it was a success. -/
structure Filed (s : PlanStep) (r : ToolResult) : Prop where
  stepId : r.lookup "step_id" = some (.str s.stepId)
  tool : r.lookup "tool" = some (.str s.tool.name)
  success : ∃ b, r.lookup "success" = some (.bool b)

theorem filed_stamped (s : PlanStep) (elapsedMs : Nat) (o : Report.ToolOutcome) :
    Filed s (Report.dispatch s elapsedMs o) := by
  refine ⟨?_, ?_, (pyGet o.toStateFields "success" (.bool true)).truthy, ?_⟩ <;>
    simp [Report.dispatch, lookup_dictSet]

/-- What is written for a step is filed under it, whatever its tool says. -/
theorem filed_dispatch (clock : Clock) (tools : List (String × BaseTool)) (s : PlanStep)
    (previous : Results) : Filed s (dispatch clock tools s previous) := by
  rw [dispatch]
  cases registryDispatch clock tools s previous with
  | error message => exact ⟨rfl, rfl, false, rfl⟩
  | ok outcome => exact filed_stamped s (clock.dispatch s) outcome

/-- The class of a tool, if there is one. -/
def toolClass : Tool → Option String
  | .rag => some "RAGToolExecutor"
  | .database => some "DatabaseToolExecutor"
  | .web => some "WebToolExecutor"
  | .rest => some "RestToolExecutor"
  | .report => some "ReportToolExecutor"
  | .graph => none

/-- What a step fails with. -/
def refusal (t : Tool) : String :=
  match toolClass t with
  | none => "未知工具类型: " ++ t.name
  | some c => c ++ "._do_execute" ++ "() takes 2 positional arguments but 3 were given"

/-- A result that says that no tool was asked. -/
structure Failed (s : PlanStep) (r : ToolResult) : Prop extends Filed s r where
  failure : r.lookup "success" = some (.bool false)
  error : r.lookup "error" = some (.str (refusal s.tool))
  errorCode : r.lookup "error_code" = some (.str "TOOL_EXECUTION_FAILED")

theorem Failed.not_succeeded {s : PlanStep} {r : ToolResult} (h : Failed s r) :
    succeeded r = false := by
  rw [succeeded, pyGet, h.failure]
  rfl

/-- The tools do not take the context by position. -/
theorem doExecute_toolExecutor (name c : String)
    (body : PlanStep → Results → Except ToolExc Report.ToolOutcome) (s : PlanStep)
    (previous : Results) :
    (toolExecutor name c body).doExecute s previous = .error (.other
      (c ++ "._do_execute" ++ "() takes 2 positional arguments but 3 were given")) := by
  have hmessage : (toolExecutor name c body).signature.bindPositional 3 =
      .error (c ++ "._do_execute" ++ "() takes 2 positional arguments but 3 were given") := by
    -- The text behind the name of the method does not depend on it.
    have htail : "() takes " ++ (toString 2 ++ (" positional argument" ++ (plural 2 ++ (" but " ++
        (toString 3 ++ " were given"))))) = "() takes 2 positional arguments but 3 were given" := by
      decide +kernel
    refine (if_pos (show 2 < 3 from Nat.lt_succ_self 2)).trans ?_
    show Except.error (c ++ "._do_execute" ++ "() takes " ++ toString 2 ++ " positional argument" ++
      plural 2 ++ " but " ++ toString 3 ++ " were given") = _
    rw [← htail]
    simp only [String.append_assoc]
  rw [BaseTool.doExecute, hmessage]

/-- What is registered under the name of a tool does not get through. -/
theorem registryDispatch_cases (clock : Clock) (bodies : Bodies) (s : PlanStep)
    (previous : Results) :
    registryDispatch clock (registry bodies) s previous = .error (refusal s.tool) ∨
    registryDispatch clock (registry bodies) s previous =
      .ok (Report.guarded s.tool.name (clock.tool s) (.error (refusal s.tool))) := by
  have hlookup : ∀ (t : Tool) (c : String), toolClass t = some c →
      (registry bodies).lookup t.name = some (toolExecutor t.name c (bodies t)) := by
    intro t c hc
    cases t <;> cases hc <;> rfl
  cases hclass : toolClass s.tool with
  | none =>
      left
      have hgraph : s.tool = .graph := by
        cases htool : s.tool <;> rw [htool] at hclass <;> first | rfl | cases hclass
      rw [registryDispatch, hgraph]
      rfl
  | some c =>
      right
      rw [registryDispatch, hlookup s.tool c hclass]
      dsimp only
      rw [BaseTool.invoke, doExecute_toolExecutor, refusal, hclass]
      rfl

/-- The fields of a call that raised. -/
theorem toStateFields_guarded (name : String) (latencyMs : Nat) {message : String}
    (h : message ≠ "") : (Report.guarded name latencyMs (.error message)).toStateFields =
      [("success", .bool false), ("tool", .str name), ("latency_ms", .int latencyMs),
        ("error", .str message), ("error_code", .str "TOOL_EXECUTION_FAILED")] := by
  have hguarded : Report.guarded name latencyMs (.error message) =
      { success := false, tool := name, errorCode := "TOOL_EXECUTION_FAILED", error := message,
        latencyMs := latencyMs } := rfl
  rw [hguarded]
  simp [Report.ToolOutcome.toStateFields, dictUpdate, h]

theorem failed_dispatch (clock : Clock) (bodies : Bodies) (s : PlanStep) (previous : Results) :
    Failed s (dispatch clock (registry bodies) s previous) := by
  have hfiled := filed_dispatch clock (registry bodies) s previous
  have hmessage : refusal s.tool ≠ "" := by
    cases s.tool <;> decide +kernel
  rw [dispatch] at hfiled ⊢
  rcases registryDispatch_cases clock bodies s previous with h | h
  · rw [h] at hfiled ⊢
    exact { hfiled with failure := rfl, error := rfl, errorCode := rfl }
  · rw [h] at hfiled ⊢
    dsimp only at hfiled ⊢
    refine { hfiled with failure := ?_, error := ?_, errorCode := ?_ } <;>
      rw [Report.dispatch, toStateFields_guarded _ _ hmessage] <;>
      simp [lookup_dictSet, List.lookup_cons, pyGet, Val.truthy]

end Dispatch

section Runs

variable {executeStep : PlanStep → Results → Except String ToolResult}

/-- Every result of a run is that of a step that was started. -/
def Accounted (executeStep : PlanStep → Results → Except String ToolResult) (e : Execution) :
    Prop :=
  ∀ entry ∈ e.results, ∃ start ∈ e.starts, entry = recorded executeStep start

theorem accounted_runLayer {e : Execution} (h : Accounted executeStep e)
    (layer : List PlanStep) : Accounted executeStep (runLayer executeStep e layer) := by
  intro entry hentry
  rw [runLayer_results] at hentry
  rcases mem_dictUpdate hentry with hold | hnew
  · rcases h entry hold with ⟨start, hstart, heq⟩
    exact ⟨start, List.mem_append_left _ hstart, heq⟩
  · rcases List.mem_map.mp hnew with ⟨s, hs, rfl⟩
    exact ⟨(s, e.results), List.mem_append_right _ (List.mem_map_of_mem hs), rfl⟩

theorem accounted_runLayers (layers : List (List PlanStep)) :
    Accounted executeStep (runLayers executeStep layers) := by
  induction layers using List.reverseRecOn with
  | nil => exact fun entry hentry => absurd hentry List.not_mem_nil
  | append_singleton layers layer ih =>
      have hlast : runLayers executeStep (layers ++ [layer]) =
          runLayer executeStep (runLayers executeStep layers) layer := by
        simp only [runLayers, List.foldl_append, List.foldl_cons, List.foldl_nil]
      rw [hlast]
      exact accounted_runLayer ih layer

/-- The results of an accepted plan are those of its steps, and each id has one. -/
theorem results_of_accepted {steps : List PlanStep} {layers : List (List PlanStep)}
    (h : topologicalLayers steps = .ok layers) :
    (∀ entry ∈ (runLayers executeStep layers).results, ∃ s ∈ steps, ∃ previous,
      entry = recorded executeStep (s, previous)) ∧
    ∀ s ∈ steps, s.stepId ∈ (runLayers executeStep layers).results.map Prod.fst := by
  have hinv : ∃ completed, Started steps completed [] (runLayers executeStep layers) :=
    started_runLayers h
  rcases hinv with ⟨completed, hstarted⟩
  have hperm := hstarted.perm
  rw [List.append_nil] at hperm
  constructor
  · intro entry hentry
    rcases accounted_runLayers layers entry hentry with ⟨start, hstart, heq⟩
    exact ⟨start.1, hperm.mem_iff.mp (List.mem_map_of_mem hstart), start.2, heq⟩
  · intro s hs
    rcases List.mem_map.mp (hperm.mem_iff.mpr hs) with ⟨start, hstart, rfl⟩
    exact (hstarted.keys _).mpr (List.mem_map_of_mem hstart)

end Runs

section Node

variable (lax : Lax) (now : Nat) (executeStep : PlanStep → Results → Except String ToolResult)

/-- A plan is passed over, or it is one the scheduler accepts and is run. -/
theorem planExecutorNode_cases (d : Option RouteDecision) :
    planExecutorNode lax now executeStep d = fallbackEmptyResult ∨
    ∃ p layers, p.steps ≠ [] ∧ topologicalLayers p.steps = .ok layers ∧
      planExecutorNode lax now executeStep d =
        { toolResults := (runLayers executeStep layers).results.map Prod.snd
          executionPlan := some p
          status := if ((runLayers executeStep layers).results.map Prod.snd).all succeeded
            then "completed" else "partial" } := by
  cases d with
  | none => exact .inl rfl
  | some d =>
      rw [planExecutorNode]
      by_cases hplan : (pyGet d.metadata "plan" .none).truthy = true
      · rw [if_neg (not_not_intro hplan)]
        cases hread : readPlan lax now (pyGet d.metadata "plan" .none) with
        | error e => exact .inl rfl
        | ok p =>
            by_cases hempty : p.steps.isEmpty = true
            · exact .inl (if_pos hempty)
            · cases hlayers : topologicalLayers p.steps with
              | error e =>
                  left
                  dsimp only
                  rw [if_neg hempty, execute, hlayers]
                  rfl
              | ok layers =>
                  right
                  refine ⟨p, layers, fun hnil => hempty (List.isEmpty_iff.mpr hnil), hlayers, ?_⟩
                  dsimp only
                  rw [if_neg hempty, execute_eq hlayers]
      · exact .inl (if_pos hplan)

/-- A plan that was run, and each of whose steps has failed before its tool was
    asked. -/
structure ComesToNothing (p : ExecutionPlan) (e : PlanExecution) : Prop where
  plan : e.executionPlan = some p
  status : e.status = "partial"
  failed : ∀ r ∈ e.toolResults, ∃ s ∈ p.steps, Failed s r
  each : ∀ s ∈ p.steps, ∃ r ∈ e.toolResults, ∃ s' ∈ p.steps, s'.stepId = s.stepId ∧ Failed s' r

/-- A plan is passed over, or it comes to nothing. None is completed. -/
theorem no_step_reaches_tool (clock : Clock) (bodies : Bodies) (d : Option RouteDecision) :
    planExecutorNode lax now (dispatchStep clock (registry bodies)) d = fallbackEmptyResult ∨
    ∃ p, p.steps ≠ [] ∧
      ComesToNothing p (planExecutorNode lax now (dispatchStep clock (registry bodies)) d) := by
  rcases planExecutorNode_cases lax now (dispatchStep clock (registry bodies)) d with
    h | ⟨p, layers, hne, hlayers, h⟩
  · exact .inl h
  · right
    refine ⟨p, hne, ?_⟩
    rcases @results_of_accepted (dispatchStep clock (registry bodies)) _ _ hlayers with
      ⟨hfrom, hids⟩
    have hfailed : ∀ entry ∈ (runLayers (dispatchStep clock (registry bodies)) layers).results,
        ∃ s ∈ p.steps, s.stepId = entry.1 ∧ Failed s entry.2 := by
      intro entry hentry
      rcases hfrom entry hentry with ⟨s, hs, previous, rfl⟩
      exact ⟨s, hs, rfl, failed_dispatch clock bodies s previous⟩
    have hsteps : ∀ s ∈ p.steps,
        ∃ entry ∈ (runLayers (dispatchStep clock (registry bodies)) layers).results,
          entry.1 = s.stepId := fun s hs => List.mem_map.mp (hids s hs)
    rw [h]
    refine ⟨rfl, ?_, ?_, ?_⟩
    · -- There is a step, and its result is no success.
      rcases List.exists_mem_of_ne_nil _ hne with ⟨s, hs⟩
      rcases hsteps s hs with ⟨entry, hentry, -⟩
      rcases hfailed entry hentry with ⟨s', -, -, hs'⟩
      refine if_neg (fun hall => ?_)
      have hsucceeded := List.all_eq_true.mp hall entry.2 (List.mem_map_of_mem hentry)
      rw [hs'.not_succeeded] at hsucceeded
      cases hsucceeded
    · intro r hr
      rcases List.mem_map.mp hr with ⟨entry, hentry, rfl⟩
      rcases hfailed entry hentry with ⟨s, hs, -, hfail⟩
      exact ⟨s, hs, hfail⟩
    · intro s hs
      rcases hsteps s hs with ⟨entry, hentry, hid⟩
      rcases hfailed entry hentry with ⟨s', hs', hid', hfail⟩
      exact ⟨entry.2, List.mem_map_of_mem hentry, s', hs', hid'.trans hid, hfail⟩

end Node

section Barren

/-- A database result without rows. -/
def noRows : DbResult := { rowCount := some 0 }

/-- What a plan leaves whose steps have all failed, if it was run. -/
structure Barren (ran : Bool) (p : PlanResult) : Prop where
  ragDocs : p.ragDocs = []
  ragQualityScore : p.ragQualityScore = 0
  dbResult : p.dbResult = if ran then some noRows else none
  dbQualityScore : p.dbQualityScore = 0
  webDocs : p.webDocs = []

theorem aggregate_of_failed (readers : Readers) {results : List ToolResult}
    (h : ∀ r ∈ results, succeeded r = false) :
    Aggregator.aggregate (results.map readers.aggregated) = Aggregator.aggregate [] := by
  have hnone : Aggregator.successful (results.map readers.aggregated) = [] := by
    rw [Aggregator.successful, List.filter_map, List.filter_eq_nil_iff.mpr, List.map_nil]
    intro r hr
    show ¬ succeeded r = true
    rw [h r hr]
    exact Bool.false_ne_true
  rw [Aggregator.aggregate, ← Aggregator.foldl_add_successful, hnone]
  rfl

theorem barren_planResult (readers : Readers) {e : PlanExecution}
    (h : ∀ r ∈ e.toolResults, succeeded r = false) :
    Barren e.executionPlan.isSome (e.planResult readers) := by
  rw [PlanExecution.planResult]
  cases e.executionPlan with
  | none => exact ⟨rfl, rfl, rfl, rfl, rfl⟩
  | some p =>
      dsimp only
      rw [aggregate_of_failed readers h]
      exact ⟨rfl, rfl, rfl, rfl, rfl⟩

/-- A plan leaves nothing but a database result without rows. -/
theorem barren_planExecutorNode (lax : Lax) (now : Nat) (clock : Clock) (bodies : Bodies)
    (readers : Readers) (d : Option RouteDecision) :
    Barren (planExecutorNode lax now (dispatchStep clock (registry bodies)) d).executionPlan.isSome
      ((planExecutorNode lax now (dispatchStep clock (registry bodies)) d).planResult readers) := by
  refine barren_planResult readers ?_
  rcases no_step_reaches_tool lax now clock bodies d with h | ⟨p, -, h⟩
  · rw [h]
    exact fun r hr => absurd hr List.not_mem_nil
  · intro r hr
    rcases h.failed r hr with ⟨s, -, hfailed⟩
    exact hfailed.not_succeeded

end Barren

section Fusion

variable {rt : Runtime} {llm : Option ChatModel}

/-- Nothing is compressed where there is nothing. -/
theorem workingOutputs_barren {s : AgentState} {ran : Bool} (hdocs : s.ragDocs = [])
    (hdb : s.dbResult = if ran then some noRows else none) (level : CompressLevel) :
    (s.workingOutputs rt llm level).ragDocs = [] ∧
      (s.workingOutputs rt llm level).dbResult = if ran then some noRows else none := by
  constructor
  · cases llm <;>
      simp [AgentState.workingOutputs, AgentState.compressedDocs, compressRagChunks, hdocs]
  · rw [AgentState.workingOutputs]
    dsimp only
    rw [hdb]
    cases ran with
    | false => rfl
    | true => simp [noRows]

/-- The fusion of one piece. -/
theorem fused_singleton {ev : Evidence} (h : ev.evidenceId ≠ "") (budget : Int) :
    (fuseEvidences (applySourceQuota [ev] defaultSourceQuota) defaultMaxEvidenceCount
      budget).fused = [ev] := by
  have hlimit : ∀ st, 1 ≤ defaultSourceQuota.limit st := by
    intro st
    cases st <;> decide
  have hquota : applySourceQuota [ev] defaultSourceQuota = [ev] := by
    simp [applySourceQuota, groupBy, push, sortDesc, hlimit ev.sourceType]
  simp [fuseEvidences, hquota, dedupById, h, sortDesc, defaultMaxEvidenceCount]

theorem evidenceId_zeroRowsEvidence (tenantId query : String) (r : DbResult) :
    (zeroRowsEvidence rt tenantId query r).evidenceId ≠ "" := by
  intro h
  have hid : ∃ text, (zeroRowsEvidence rt tenantId query r).evidenceId = "ev_" ++ text := by
    rw [zeroRowsEvidence, attachProvenanceToEvidence]
    split_ifs <;> exact ⟨_, rfl⟩
  rcases hid with ⟨text, hid⟩
  rw [hid] at h
  have hlength := congrArg String.length h
  rw [String.length_append] at hlength
  have : "ev_".length = 3 := rfl
  have : "".length = 0 := rfl
  omega

theorem newEvidences_barren {s : AgentState} {ran : Bool} {level : CompressLevel}
    (hlevel : s.roundLevel rt = .ok level) (hdocs : s.ragDocs = [])
    (hdb : s.dbResult = if ran then some noRows else none) (hweb : s.webDocs = [])
    (hgraph : s.graphResult = none) :
    s.newEvidences rt llm =
      .ok (if ran then [zeroRowsEvidence rt s.tenantId s.userQuestion noRows] else []) := by
  rcases @workingOutputs_barren rt llm _ _ hdocs hdb level with ⟨hdocs, hdb⟩
  rw [newEvidences_eq hlevel, hdocs, hdb, hweb, hgraph]
  cases ran <;> rfl

/-- What the fusion makes of a state with nothing but a result without rows. -/
theorem evidence_barren {s t : AgentState} {ran : Bool} (hdocs : s.ragDocs = [])
    (hdb : s.dbResult = if ran then some noRows else none) (hweb : s.webDocs = [])
    (hgraph : s.graphResult = none) (hevidence : s.evidence = [])
    (h : evidenceFusionNode rt llm s = .ok t) :
    t.evidence = if ran then [zeroRowsEvidence rt s.tenantId s.userQuestion noRows] else [] := by
  unfold evidenceFusionNode at h
  rcases exists_of_bind_ok h with ⟨level, hlevel, h⟩
  rcases exists_of_bind_ok h with ⟨merged, hmerged, h⟩
  rw [AgentState.mergedEvidences, newEvidences_barren hlevel hdocs hdb hweb hgraph,
    hevidence] at hmerged
  cases hmerged
  cases h
  cases ran with
  | false => rfl
  | true => exact fused_singleton (evidenceId_zeroRowsEvidence _ _ _) (s.toolTokens rt).total

end Fusion

section Runs

variable (rt : Runtime) (ω : Nat → World) (s : AgentState)

/-- No tool has left anything in a state. -/
structure Unasked (s : AgentState) : Prop where
  evidence : s.evidence = []
  graphResult : s.graphResult = none
  graphQualityScore : s.graphQualityScore = 0
  terminationReason : s.terminationReason = ""

/-- The nodes before the tools, and the one that runs a plan. -/
def BeforeTools : Node → Prop
  | .questionInput | .intentRouter | .clarification | .planExecutor => True
  | _ => False

theorem unasked_userQuestionNode {x : World} {s : AgentState} (h : Unasked s) :
    Unasked (userQuestionNode x s) := by
  unfold userQuestionNode
  split_ifs <;> exact ⟨h.1, h.2, h.3, h.4⟩

theorem unasked_intentRouterNode {x : World} {s : AgentState} (h : Unasked s) :
    Unasked (intentRouterNode x s) := by
  unfold intentRouterNode
  split_ifs <;> exact ⟨h.1, h.2, h.3, h.4⟩

theorem unasked_clarificationNode {x : World} {s : AgentState} (h : Unasked s) :
    Unasked (clarificationNode x s) := by
  unfold clarificationNode
  split_ifs <;> exact ⟨h.1, h.2, h.3, h.4⟩

/-- The tools do not lead back to the nodes before them. -/
theorem unasked_step {x : World} {c : Config} (h : BeforeTools c.node → Unasked c.state)
    (hnext : BeforeTools (step rt x c).node) : Unasked (step rt x c).state := by
  rcases c with ⟨node, s⟩
  cases node with
  | questionInput => exact unasked_userQuestionNode (h trivial)
  | intentRouter => exact unasked_intentRouterNode (h trivial)
  | clarification => exact unasked_clarificationNode (h trivial)
  | ragTool =>
      revert hnext
      show BeforeTools (afterRagTool (ragToolNode x s)) → _
      unfold afterRagTool
      split_ifs <;> exact False.elim
  | qualityCheck =>
      revert hnext
      show BeforeTools (qualityCheckDecision (qualityCheckNode s)) → _
      unfold qualityCheckDecision
      split_ifs
      · exact False.elim
      · split <;> exact False.elim
  | hallucination =>
      revert hnext
      show BeforeTools (hallucinationDecision (hallucinationNode rt x.verifier s).1) → _
      unfold hallucinationDecision
      split <;> exact False.elim
  | _ => exact False.elim hnext

/-- A plan is run before any tool. -/
theorem unasked_run (hstart : Unasked s) (n : Nat) :
    BeforeTools (Workflow rt ω s n).node → Unasked (Workflow rt ω s n).state := by
  induction n with
  | zero => exact fun _ => hstart
  | succ n ih => exact unasked_step rt ih

end Runs

section Gate

/-- Where there are no scores, nothing is good enough for the gate. -/
theorem qualityOk_barren {s : AgentState} (hrag : s.ragQualityScore = 0)
    (hdb : s.dbQualityScore = 0) (hgraph : s.graphQualityScore = 0) :
    qualityOk s.quality s.routeTarget = false := by
  have hscore : s.quality.score = 0 := by
    unfold AgentState.quality
    split <;> simp [hrag, hdb, hgraph]
  have hbelow : ¬ qualityThreshold s.quality.source ≤ s.quality.score := by
    rw [hscore, not_le]
    cases s.quality.source <;> norm_num [qualityThreshold]
  unfold qualityOk
  split <;> exact decide_eq_false (fun h => hbelow h.1)

theorem makeDecision_of_not_ok {q : Quality} {target : RouteTarget} {retryCount maxRetries : Nat}
    (h : qualityOk q target = false) (htarget : target ≠ .chitchat) :
    makeDecision q retryCount maxRetries target ∈
      [QualityDecision.retryRag, .retryDb, .retryGraph, .fallbackWeb] := by
  unfold makeDecision
  rw [if_neg htarget, h, if_neg Bool.false_ne_true]
  by_cases hretry : retryCount < maxRetries
  · rw [if_pos hretry]
    cases target <;> simp
  · rw [if_neg hretry]
    decide

/-- The gate sends a request with nothing on to a tool. -/
theorem gate_barren {s : AgentState} {ran : Bool} (hrag : s.ragQualityScore = 0)
    (hdb : s.dbQualityScore = 0) (hgraph : s.graphQualityScore = 0)
    (hresult : s.dbResult = if ran then some noRows else none)
    (hgoesOn : s.terminationReason = "") (htarget : s.routeTarget ≠ .chitchat) :
    qualityCheckDecision (qualityCheckNode s) ∈ [.ragTool, .dbTool, .graphTool, .webTool] := by
  have hverdict : s.explorationVerdict = "" := by
    rw [AgentState.explorationVerdict, hresult]
    cases ran <;> split_ifs <;> rfl
  have hdecision : s.gateDecision ∈
      [QualityDecision.retryRag, .retryDb, .retryGraph, .fallbackWeb] := by
    rw [AgentState.gateDecision, hverdict]
    show (if s.retrievalInfraError then QualityDecision.fallbackWeb
      else if s.retryTokenBudget ≤ s.retryTokenUsed then .fallbackWeb
      else makeDecision s.quality s.retryCount s.maxRetries s.routeTarget) ∈ _
    split_ifs
    · decide
    · decide
    · exact makeDecision_of_not_ok (qualityOk_barren hrag hdb hgraph) htarget
  unfold qualityCheckDecision qualityCheckNode
  rw [if_neg (not_not_intro hgoesOn)]
  dsimp only
  revert hdecision
  cases s.gateDecision <;> decide

end Gate

section Main

variable (rt : Runtime) (llm : Option ChatModel) (lax : Lax) (now : Nat) (clock : Clock)
  (bodies : Bodies) (readers : Readers)

/-- Whenever a run of the workflow comes to the execution of a plan, the evidence is
    one piece that says that the database has no rows, if there was a plan to run, and
    none at all otherwise. Unless the request is small talk the gate then sends it on
    to a tool. -/
theorem plan_evidence (ω : Nat → World) (s : AgentState) (hstart : Unasked s) (n : Nat)
    (hnode : (Workflow rt ω s n).node = .planExecutor) (d : Option RouteDecision)
    (hplan : (ω n).plan =
      (planExecutorNode lax now (dispatchStep clock (registry bodies)) d).planResult readers)
    (t : AgentState) (h : evidenceFusionNode rt llm (Workflow rt ω s (n + 1)).state = .ok t) :
    t.evidence =
      (if (planExecutorNode lax now (dispatchStep clock (registry bodies))
          d).executionPlan.isSome
        then [zeroRowsEvidence rt t.tenantId t.userQuestion noRows] else []) ∧
    (t.routeTarget ≠ .chitchat → ∀ x,
      (step rt x ⟨.qualityCheck, t⟩).node ∈ [.ragTool, .dbTool, .graphTool, .webTool]) := by
  have hunasked := unasked_run rt ω s hstart n
  have hbarren := barren_planExecutorNode lax now clock bodies readers d
  rw [← hplan] at hbarren
  generalize (planExecutorNode lax now (dispatchStep clock (registry bodies))
    d).executionPlan.isSome = ran at hbarren ⊢
  -- The state the fusion sees.
  have hnext : (Workflow rt ω s (n + 1)).state =
      AgenticRag.planExecutorNode (ω n) (Workflow rt ω s n).state := by
    show (step rt (ω n) (Workflow rt ω s n)).state = _
    rcases hconfig : Workflow rt ω s n with ⟨node, state⟩
    rw [hconfig] at hnode
    cases hnode
    rfl
  rw [hnode] at hunasked
  have hunasked := hunasked trivial
  rw [hnext] at h
  rcases fusedNode_covers rt llm _ t h with ⟨x, hx⟩
  have ht : t = fusedNode x (AgenticRag.planExecutorNode (ω n) (Workflow rt ω s n).state) :=
    (congrArg Config.state hx).symm
  have hevidence := evidence_barren
    (s := AgenticRag.planExecutorNode (ω n) (Workflow rt ω s n).state) hbarren.ragDocs
    hbarren.dbResult hbarren.webDocs hunasked.graphResult hunasked.evidence h
  constructor
  · rw [hevidence, ht]
    rfl
  · intro htarget x
    have hrag : t.ragQualityScore = 0 := ht ▸ hbarren.ragQualityScore
    have hdb : t.dbQualityScore = 0 := ht ▸ hbarren.dbQualityScore
    have hgraph : t.graphQualityScore = 0 := ht ▸ hunasked.graphQualityScore
    have hresult : t.dbResult = if ran then some noRows else none := ht ▸ hbarren.dbResult
    have hgoesOn : t.terminationReason = "" := ht ▸ hunasked.terminationReason
    exact gate_barren hrag hdb hgraph hresult hgoesOn htarget

end Main

section Sample

/-- A plan with one step, which searches the documents. -/
def searchPlan : ExecutionPlan where
  planId := "p"
  steps := [{ stepId := "s", tool := .rag }]

/-- A decision with the plan in its metadata. -/
def searchDecision : RouteDecision where
  target := .rag
  confidence := 9 / 10
  source := .planner
  metadata := [("plan", searchPlan.modelDump)]
  confidence_nonneg := by norm_num
  confidence_le_one := by norm_num

/-- Tools that would be available. -/
def willing : Bodies := fun _ _ _ => .ok {}

/-- A clock that stands still. -/
def noClock : Clock := ⟨fun _ => 0, fun _ => 0⟩

/-- Reads no numbers from texts. -/
def noLax : Lax := { intOfText := fun _ => none, boolOfText := fun _ => none }

/-- Reads nothing. -/
def noReaders : Readers where
  result := fun _ => {}
  stepResult := fun _ => {}
  doc := fun _ => {}

/-- A world whose router hands the plan on. -/
def searchWorld : World :=
  { (default : World) with
    routeTarget := .rag
    routeDecision := { source := "planner", complexity := "complex" }
    plan := (planExecutorNode noLax 0 (dispatchStep noClock (registry willing))
      (some searchDecision)).planResult noReaders }

/-- A state with a question. -/
def asked : AgentState := { userQuestion := "why" }

theorem plan_evidence_search : ∃ t, evidenceFusionNode default none
    (Workflow default (fun _ => searchWorld) asked 3).state = .ok t ∧
      t.evidence = [zeroRowsEvidence default t.tenantId t.userQuestion noRows] := by
  have hran : (planExecutorNode noLax 0 (dispatchStep noClock (registry willing))
      (some searchDecision)).executionPlan.isSome = true := by decide +kernel
  have hok : (evidenceFusionNode default none
      (Workflow default (fun _ => searchWorld) asked 3).state).toOption.isSome = true := by
    decide +kernel
  cases h : evidenceFusionNode default none
      (Workflow default (fun _ => searchWorld) asked 3).state with
  | error e =>
      rw [h] at hok
      cases hok
  | ok t =>
      have hevidence := (plan_evidence default none noLax 0 noClock willing noReaders
        (fun _ => searchWorld) asked ⟨rfl, rfl, rfl, rfl⟩ 2 (by decide +kernel)
        (some searchDecision) rfl t h).1
      rw [hran, if_pos rfl] at hevidence
      exact ⟨t, rfl, hevidence⟩

end Sample

end Plan

end AgenticRag

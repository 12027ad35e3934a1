import AgenticRag.Core.ReportExecutor
import AgenticRag.Theory.Delivery
import AgenticRag.Theory.Publishing

/-!
# Reports That Fail in a Plan

What the user is told about a report that a step of a plan wrote and that failed
the verification. The last node announces a failure with the issues that were
found, if there is a report in the state. There never is one: the adapter leaves a
failed report out of its fields (`artifacts_failed`), the node that runs the plan
writes no field about reports, and no later node does (`report_run`). So the last
node gives an ordinary answer in every run (`failed_report_lost`).

The state of the graph has the channels its type declares, and none of them is
about reports.

## Main definitions

* `FinalAnswer`, `finalAnswer`: The answer of the last node, by its kind.
* `planned`: The state after a plan.

## Theorems

* `publish_failed`: What the tool returns for a draft that fails.
* `report_step`, `report_run`: No node writes a report.
* `failed_report_lost`: A failed report is never announced.
-/

namespace AgenticRag

namespace Report

open Py Ordered Plan Driven

section Answers

/-- The answer of the last node: one about a report, or a text. -/
inductive FinalAnswer where
  | report (response : Dict)
  | ordinary (text : String)

/-- The text of an answer. -/
def FinalAnswer.text : FinalAnswer → String
  | .report response => (Val.dict response).dumps
  | .ordinary text => text

/-- The answer of the last node, by its kind. -/
def finalAnswer (s : AgentState) : FinalAnswer :=
  if s.report.artifacts.isEmpty then .ordinary (finalAnswerText s)
  else .report (buildReportResponse s.report)

/-- It is the answer the last node writes. -/
theorem finalAnswerText_eq (s : AgentState) : finalAnswerText s = (finalAnswer s).text := by
  rw [finalAnswer]
  by_cases h : s.report.artifacts.isEmpty = true
  · rw [if_pos h]
    rfl
  · rw [if_neg h, finalAnswerText, if_pos h]
    rfl

/-- The answer says that a report failed, and names the issues. -/
def AnnouncesFailure (issues : List VerificationIssue) (s : AgentState) : Prop :=
  ∃ response, finalAnswer s = .report response ∧
    response.lookup "type" = some (.str "report_failed") ∧
    response.lookup "issues" = some (.list (issues.map (fun i => .str i.message)))

/-- Without a report the answer is an ordinary one. -/
theorem not_announcesFailure {s : AgentState} (h : s.report.artifacts = [])
    (issues : List VerificationIssue) : ¬ AnnouncesFailure issues s := by
  rintro ⟨response, hanswer, -⟩
  rw [finalAnswer, if_pos (List.isEmpty_iff.mpr h)] at hanswer
  cases hanswer

/-- The verification of a report, as the last node reads it. -/
theorem getDict_verification (floatText : ℚ → String) (a : ReportArtifact)
    (v : VerificationResult) (h : a.verificationResult = some v) :
    getDict (a.toDict floatText) "verification_result" = v.toDict floatText := by
  have hlookup : (a.toDict floatText).lookup "verification_result" =
      some (.dict (v.toDict floatText)) := by
    rw [ReportArtifact.toDict, h]
    cases a.title <;> cases a.language <;> cases a.publishStatus <;> rfl
  rw [getDict, hlookup]

/-- With a report that failed in the state, the failure is announced. -/
theorem announcesFailure_of_artifact (floatText : ℚ → String) (a : ReportArtifact)
    (v : VerificationResult) (s : AgentState) (hv : a.verificationResult = some v)
    (hfailed : v.passed = false) (h : s.report.artifacts = [a.toDict floatText]) :
    AnnouncesFailure v.issues s := by
  have hverification := getDict_verification floatText a v hv
  have hissues : getList (v.toDict floatText) "issues" =
      v.issues.map (fun i => .dict i.toDict) := rfl
  have hresponse : buildReportResponse s.report =
      reportFailed s.report (a.toDict floatText) := by
    rw [buildReportResponse, h]
    simp only [List.headD_cons, hverification]
    -- There is a verification, and it says that the report did not pass.
    refine if_pos (.inr ⟨?_, ?_⟩)
    · exact Bool.false_ne_true
    · simp [VerificationResult.toDict, getOr, hfailed, Val.truthy]
  refine ⟨reportFailed s.report (a.toDict floatText), ?_, rfl, ?_⟩
  · rw [finalAnswer, h, hresponse]
    rfl
  · simp only [reportFailed, hverification, hissues, List.filterMap_map]
    exact congrArg (fun ms => some (Val.list ms)) (congrFun List.filterMap_eq_map v.issues)

end Answers

section Results

variable (floatText : ℚ → String) (raised : Option String) (p : PlanStep)
  (latencyMs elapsedMs : Nat) (a : ReportArtifact) (evidence : List EvidenceItem)
  (v : VerificationResult)

/-- A call that returns an outcome, or that raises. -/
def attempt (o : ToolOutcome) : Option String → Except String ToolOutcome
  | some message => .error message
  | none => .ok o

/-- What the tool returns for a draft that fails the verification. -/
theorem publish_failed (w : Writers) (cfg : ToolConfig) (d : Draft)
    (hrequire : cfg.safety.requireVerifiedEvidence = true)
    (hfailed : (verdict w d).passed = false) :
    publish w cfg d =
      verificationFailed { d.artifact with verificationResult := some (verdict w d) } d.evidence
        (verdict w d) :=
  if_pos ⟨hrequire, hfailed⟩

/-- What a plan records of a step whose report failed the verification. The call
    of the adapter may have raised. -/
def stepResult : ToolResult :=
  dispatch p elapsedMs (guarded "report" latencyMs (attempt (reportOutcome floatText
    (verificationFailed { a with verificationResult := some v } evidence v)) raised))

/-- The result of a step holds what the payload of the adapter holds, other than
    the entries of the dispatcher. -/
theorem lookup_dispatch (o : ToolOutcome) {key : String} (hstep : key ≠ "step_id")
    (htool : key ≠ "tool") (hsuccess : key ≠ "success") (hlatency : key ≠ "latency_ms") :
    (dispatch p elapsedMs o).lookup key = o.toStateFields.lookup key := by
  simp only [dispatch, lookup_dictSet, hstep, htool, hsuccess, hlatency, if_false]

/-- The adapter lists no report of an output that is not a success. -/
theorem lookup_unsuccessful {result : Output} (h : result.success = false) :
    (guarded "report" latencyMs (.ok (reportOutcome floatText result))).toStateFields.lookup
      "report_artifacts" = some (.list []) := by
  have hnodup : ((reportPayload floatText result).map Prod.fst).Nodup := by
    simp only [reportPayload, List.map_cons, List.map_nil]
    decide
  -- The payload is laid over the common fields, so its own entry counts.
  change (dictUpdate _ (reportPayload floatText result)).lookup "report_artifacts" = _
  rw [lookup_dictUpdate _ hnodup, reportPayload, h]
  rfl

/-- Nor does a call that raised. -/
theorem lookup_raised (message : String) :
    (guarded "report" latencyMs (.error message)).toStateFields.lookup "report_artifacts" =
      none := by
  by_cases hm : message = "" <;>
    simp [guarded, ToolOutcome.toStateFields, dictUpdate, List.lookup_cons, hm]

/-- A report that failed is not among the reports of its step. -/
theorem artifacts_failed :
    (readReport (stepResult floatText raised p latencyMs elapsedMs a evidence v)).artifacts =
      [] := by
  have hlist : getList (stepResult floatText raised p latencyMs elapsedMs a evidence v)
      "report_artifacts" = [] := by
    rw [getList, stepResult, lookup_dispatch p elapsedMs _ (by decide) (by decide) (by decide)
      (by decide)]
    -- Either way no report is listed.
    cases raised with
    | some message => rw [attempt, lookup_raised]
    | none => rw [attempt, lookup_unsuccessful floatText latencyMs rfl]
  rw [readReport, hlist]
  rfl

end Results

section Runs

/-- A state as the graph keeps it. Its type declares no channel for reports. -/
def declared (s : AgentState) : AgentState := { s with report := {} }

/-- A state with the fields of a step, were they kept. -/
def withFields (s : AgentState) (result : ToolResult) : AgentState :=
  { s with report := readReport result }

/-- The state after a plan with the given results. -/
def planned (rt : Runtime) (x : World) (others : List ToolResult → PlanResult)
    (results : List ToolResult) (s : AgentState) : Config :=
  step rt { x with plan := (aggregate others results).toPlanResult } ⟨.planExecutor, declared s⟩

variable (rt : Runtime)

/-- No node writes a report. -/
theorem report_step (x : World) (c : Config) : (step rt x c).state.report = c.state.report := by
  cases c with
  | mk node s =>
  cases node with
  | questionInput =>
      simp only [step, userQuestionNode]
      split_ifs <;> rfl
  | intentRouter =>
      simp only [step, intentRouterNode]
      split_ifs <;> rfl
  | clarification =>
      simp only [step, clarificationNode]
      split_ifs <;> rfl
  | ragTool =>
      simp only [step, ragToolNode]
      split <;> rfl
  | dbTool =>
      simp only [step, dbToolNode]
      split <;> rfl
  | reactSubgraph =>
      simp only [step, reactSubgraphNode]
      split_ifs <;> rfl
  | hallucination => exact (hallucinationNode_frame rt x.verifier s).2.2.2
  | answerRenderer => exact (answerRendererNode_frame s).2.2
  | _ => rfl

theorem report_run (ω : Nat → World) (c : Config) (n : Nat) :
    (runFor (step rt) ω c n).state.report = c.state.report := by
  induction n with
  | zero => rfl
  | succ n ih => rw [runFor, report_step, ih]

/-- A plan leaves no report in the state. -/
theorem report_planned (x : World) (others : List ToolResult → PlanResult)
    (results : List ToolResult) (s : AgentState) :
    (planned rt x others results s).state.report = {} := by
  rw [planned, report_step, declared]

variable (floatText : ℚ → String) (raised : Option String) (p : PlanStep)
  (latencyMs elapsedMs : Nat) (a : ReportArtifact) (evidence : List EvidenceItem)
  (v : VerificationResult)

/-- A report that fails the verification in a step of a plan is not announced: not
    from the fields of the step, were they in the state, and not in any state of
    the run that goes on from the plan. -/
theorem failed_report_lost (others : List ToolResult → PlanResult)
    (before after : List ToolResult) (x : World) (s : AgentState) (ω : Nat → World) (n : Nat) :
    ¬ AnnouncesFailure v.issues
      (withFields s (stepResult floatText raised p latencyMs elapsedMs a evidence v)) ∧
    ¬ AnnouncesFailure v.issues
      (runFor (step rt) ω (planned rt x others
        (before ++ stepResult floatText raised p latencyMs elapsedMs a evidence v :: after) s)
        n).state := by
  constructor
  · refine not_announcesFailure ?_ v.issues
    exact artifacts_failed floatText raised p latencyMs elapsedMs a evidence v
  · refine not_announcesFailure ?_ v.issues
    rw [report_run, report_planned]

/-- A report with one issue. -/
def failedVerdict : VerificationResult where
  passed := false
  score := 0
  issues := [⟨"VER_SECTION_NO_REFS", .high, "章节「一」没有任何 evidence_refs", none, none, none, none⟩]
  warnings := []
  checksPerformed := []
  checkedAt := ""

/-- It is lost in a plan of one step. -/
theorem failed_report_lost_single :
    ¬ AnnouncesFailure failedVerdict.issues
      (runFor (step default) (fun _ => default) (planned default default (fun _ => {})
        [stepResult (fun _ => "") none { stepId := "s1", tool := .report } 1 1 {} [] failedVerdict]
        {}) 8).state := by
  refine not_announcesFailure ?_ failedVerdict.issues
  rw [report_run, report_planned]

end Runs

end Report

end AgenticRag

import AgenticRag.Core.ReportExecutor
import AgenticRag.Core.ResultAggregator

/-!
# The Dispatch of a Step and the Execution of a Plan

A step of a plan is handed to the tool that is registered under its name, and
what the tool gives is written into a dictionary. Nothing that goes wrong leaves
the dispatcher: a name that is not registered, a call that raises and a tool that
says it is not available all end as results that report no success.

A tool is a class with a method of its own, which the base class calls inside its
guard. The call is bound to the parameters the method declares before the body
runs, and binding can fail. What a body does, and how long things take, are
parameters. What the bodies read, the request and its context, is the same for all
steps of a run and is not written out.

The router leaves a plan in the metadata of its decision, as the data models
dump it. The node reads it back, runs it, reports whether all its steps
succeeded, and puts together what they gave. A plan that is missing, cannot be
read, has no steps or is refused by the scheduler is passed over, and the request
goes on without results.

## Main definitions

* `Signature.bindPositional`: The arguments of a call against the parameters.
* `PlanExecution.planResult`: What it writes for the nodes that follow.
-/

namespace AgenticRag

namespace Plan

open Py Ordered

open Report (ToolOutcome guarded)

section Binding

/-- The parameters of a method, `self` among the positional ones. None of them
    has a default. -/
structure Signature where
  qualname : String
  positional : List String
  keywordOnly : List String

/-- Some names as the messages of the interpreter list them. -/
def nameList : List String → String
  | [] => ""
  | [name] => "'" ++ name ++ "'"
  | [name, last] => "'" ++ name ++ "' and '" ++ last ++ "'"
  | [name, next, last] => "'" ++ name ++ "', '" ++ next ++ "', and '" ++ last ++ "'"
  | name :: rest => "'" ++ name ++ "', " ++ nameList rest

/-- The ending of a plural. -/
def plural (n : Nat) : String := if n = 1 then "" else "s"

/-- The text for missing arguments. -/
def missingArguments (qualname kind : String) (names : List String) : String :=
  qualname ++ "() missing " ++ toString names.length ++ " required " ++ kind ++ " argument" ++
    plural names.length ++ ": " ++ nameList names

/-- A call with positional arguments only, as many as are given, bound to the
    parameters. What fails is the `TypeError` of the call. -/
def Signature.bindPositional (f : Signature) (given : Nat) : Except String Unit :=
  if f.positional.length < given then
    .error (f.qualname ++ "() takes " ++ toString f.positional.length ++ " positional argument" ++
      plural f.positional.length ++ " but " ++ toString given ++
      (if given = 1 then " was given" else " were given"))
  else if given < f.positional.length then
    .error (missingArguments f.qualname "positional" (f.positional.drop given))
  else if f.keywordOnly ≠ [] then
    .error (missingArguments f.qualname "keyword-only" f.keywordOnly)
  else .ok ()

end Binding

section Tools

/-- What a method may raise, with the text of the exception. -/
inductive ToolExc where
  | toolUnavailable (message : String)
  | other (message : String)

/-- A tool: its name, the parameters its `_do_execute` declares, and what the body
    does. No tool overrides the checks before and after. -/
structure BaseTool where
  name : String
  signature : Signature
  body : PlanStep → Results → Except ToolExc ToolOutcome

variable (step : PlanStep) (previousResults : Results)

/-- The call of `_do_execute`. -/
def BaseTool.doExecute (tool : BaseTool) : Except ToolExc ToolOutcome :=
  -- The tool, its input and the context, all of them by position.
  match tool.signature.bindPositional 3 with
  | .error message => .error (.other message)
  | .ok _ => tool.body step previousResults

/-- The call inside the guard of the base class. -/
def BaseTool.invoke (latencyMs : Nat) (tool : BaseTool) : ToolOutcome :=
  match tool.doExecute step previousResults with
  | .ok outcome => guarded tool.name latencyMs (.ok outcome)
  | .error (.other message) => guarded tool.name latencyMs (.error message)
  | .error (.toolUnavailable message) =>
      { success := false
        tool := tool.name
        errorCode := "TOOL_UNAVAILABLE"
        error := message
        latencyMs := latencyMs }

/-- The tools take the context by its name only. -/
def toolExecutor (name className : String)
    (body : PlanStep → Results → Except ToolExc ToolOutcome) : BaseTool where
  name := name
  signature := {
    qualname := className ++ "._do_execute"
    positional := ["self", "input_data"]
    keywordOnly := ["ctx"] }
  body := body

/-- What the tools do once they are called. -/
abbrev Bodies := Tool → PlanStep → Results → Except ToolExc ToolOutcome

variable (bodies : Bodies)

/-- The adapter of the database. -/
def databaseToolExecutor : BaseTool :=
  toolExecutor "database" "DatabaseToolExecutor" (bodies .database)

/-- The adapter of the retrieval. -/
def ragToolExecutor : BaseTool :=
  toolExecutor "rag" "RAGToolExecutor" (bodies .rag)

/-- The adapter of the reports. -/
def reportToolExecutor : BaseTool :=
  toolExecutor "report" "ReportToolExecutor" (bodies .report)

/-- The adapter of the service. -/
def restToolExecutor : BaseTool :=
  toolExecutor "rest" "RestToolExecutor" (bodies .rest)

/-- The adapter of the web search. -/
def webToolExecutor : BaseTool :=
  toolExecutor "web" "WebToolExecutor" (bodies .web)

/-- The tools that register themselves, in the order of their imports. -/
def registry : List (String × BaseTool) :=
  [("database", databaseToolExecutor bodies), ("rag", ragToolExecutor bodies),
    ("report", reportToolExecutor bodies), ("rest", restToolExecutor bodies),
    ("web", webToolExecutor bodies)]

end Tools

section Dispatch

/-- How long the tool of a step takes, and the dispatch as a whole. -/
structure Clock where
  tool : PlanStep → Nat
  dispatch : PlanStep → Nat

variable (clock : Clock) (tools : List (String × BaseTool)) (step : PlanStep)
  (previousResults : Results)

/-- `ToolRegistry.dispatch`. -/
def registryDispatch : Except String ToolOutcome :=
  match tools.lookup step.tool.name with
  | none => .error ("未知工具类型: " ++ step.tool.name)
  | some tool => .ok (tool.invoke step previousResults (clock.tool step))

/-- `ToolDispatcher.dispatch`, which raises nothing. What a tool gives is written over
    with the id and the tool of the step. -/
def dispatch : ToolResult :=
  match registryDispatch clock tools step previousResults with
  | .error message =>
      [("step_id", .str step.stepId), ("tool", .str step.tool.name), ("success", .bool false),
        ("error", .str message), ("error_code", .str "TOOL_EXECUTION_FAILED"),
        ("latency_ms", .int (clock.dispatch step))]
  | .ok outcome => Report.dispatch step (clock.dispatch step) outcome

/-- What the scheduler runs a step with. -/
def dispatchStep : Except String ToolResult :=
  .ok (dispatch clock tools step previousResults)

end Dispatch

section Node

/-- What the node writes: the results, the plan if one was run, and how the run
    went. -/
structure PlanExecution where
  toolResults : List ToolResult
  executionPlan : Option ExecutionPlan
  status : String

/-- `_fallback_empty_result`. -/
def fallbackEmptyResult : PlanExecution where
  toolResults := []
  executionPlan := none
  status := "failed"

/-- A result that reports success. -/
def succeeded (r : ToolResult) : Bool := (pyGet r "success" (.bool false)).truthy

variable (lax : Lax) (now : Nat) (executeStep : PlanStep → Results → Except String ToolResult)

/-- `plan_executor_node`. What parses the plan is what the planner parses the
    answer of its model with. -/
def planExecutorNode (routeDecision : Option RouteDecision) : PlanExecution :=
  match routeDecision with
  | none => fallbackEmptyResult
  | some d =>
      let planData := pyGet d.metadata "plan" .none
      if ¬ planData.truthy then fallbackEmptyResult
      else
        match readPlan lax now planData with
        | .error _ => fallbackEmptyResult
        | .ok plan =>
            if plan.steps.isEmpty then fallbackEmptyResult
            else
              match execute executeStep plan with
              -- A plan whose steps wait for each other is passed over as well.
              | .error _ => fallbackEmptyResult
              | .ok results =>
                  { toolResults := results
                    executionPlan := some plan
                    status := if results.all succeeded then "completed" else "partial" }

/-- How what a tool left is read: as a result of a step, by the aggregator and by the
    nodes that follow, and as a document. -/
structure Readers where
  result : ToolResult → Aggregator.ToolResult
  stepResult : ToolResult → StepResult
  doc : Aggregator.ScoredDoc → RagDoc

/-- A result as the aggregator reads it. -/
def Readers.aggregated (readers : Readers) (r : ToolResult) : Aggregator.ToolResult :=
  { readers.result r with success := succeeded r }

/-- The fields for the nodes that follow. A plan that was run leaves a database
    result, whether or not it asked a database. -/
def PlanExecution.planResult (readers : Readers) (e : PlanExecution) : PlanResult :=
  match e.executionPlan with
  | none => {}
  | some _ =>
      let a := Aggregator.aggregate (e.toolResults.map readers.aggregated)
      { toolResults := e.toolResults.map readers.stepResult
        ragDocs := a.ragDocs.map readers.doc
        ragQualityScore := a.ragQualityScore
        ragHasRelevant := a.ragHasRelevant
        ragRelevantCount := a.ragRelevantCount
        dbResult := some {
          rows := a.dbResult.rows.map Aggregator.Row.cells
          rowCount := some a.dbResult.rowCount
          source := a.dbResult.source }
        dbQualityScore := a.dbQualityScore
        webDocs := a.webDocs }

end Node

end Plan

end AgenticRag

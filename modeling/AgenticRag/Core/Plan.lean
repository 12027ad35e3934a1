import AgenticRag.Lib.PyVal

/-!
# Plans and the Planner

For a complex question a model is asked for a plan: steps, each for one tool,
with the steps it depends on. The answer is read as JSON and checked field by
field, and the decision that carries the plan is sent to the tool of its steps,
or to several.

The checks are those of the data models. A field takes a value of its type.
Numbers and truth values may also be given as texts, and how these are read is a
parameter. What repairs and decodes the JSON text is one too.

## Main definitions

* `StepArgs`, `PlanStep`, `ExecutionPlan`: A plan.
* `plan`: What the planner decides.
-/

namespace AgenticRag

namespace Plan

open Py Ordered

section Models

/-- How the data models read a text where a number or a truth value is
    wanted. -/
structure Lax where
  intOfText : String → Option Int
  boolOfText : String → Option Bool

/-- The tools of a step. -/
inductive Tool where
  | rag
  | database
  | web
  | rest
  | report
  | graph
  deriving DecidableEq, Repr

/-- The name of a tool. -/
def Tool.name : Tool → String
  | .rag => "rag"
  | .database => "database"
  | .web => "web"
  | .rest => "rest"
  | .report => "report"
  | .graph => "graph"

/-- What a step is called with. -/
structure StepArgs where
  query : String := ""
  querySimplified : String := ""
  kbIds : List String := []
  dbId : String := ""
  mcpServerName : String := ""
  searchEngine : String := ""
  function : String := ""
  functionParams : Dict := []
  restEndpoint : String := ""
  restMethod : String := ""
  restPayload : Dict := []
  erpDomain : String := ""
  sourceType : String := "Meeting"
  enablePg : Bool := false
  maxRows : Int := 20
  maxResultChars : Int := 12000
  enableHybridRetrieval : Bool := false
  timeoutMs : Int := 30000
  extra : Dict := []

/-- A step of a plan. -/
structure PlanStep where
  stepId : String
  tool : Tool
  args : StepArgs := {}
  dependsOn : List String := []
  canParallel : Bool := false
  description : String := ""

/-- The steps for a question. -/
structure ExecutionPlan where
  planId : String
  steps : List PlanStep := []
  estimatedTokens : Int := 0
  fallbackStrategy : String := "default"

/-- The targets a decision may have. -/
inductive Target where
  | rag
  | database
  | web
  | rest
  | hybrid
  | chitchat
  | graph
  deriving DecidableEq, Repr

/-- Who has decided. -/
inductive Source where
  | rule
  | llm
  | planner
  | prefilter
  | reactPlanner
  deriving DecidableEq, Repr

/-- How involved a question is. -/
inductive Complexity where
  | simple
  | moderate
  | complex
  deriving DecidableEq, Repr

/-- Where a question goes, and why. -/
structure RouteDecision where
  target : Target
  confidence : ℚ
  source : Source
  reason : String := ""
  complexity : Complexity := .simple
  kbIds : List String := []
  metadata : Dict := []
  confidence_nonneg : 0 ≤ confidence
  confidence_le_one : confidence ≤ 1

end Models

section Checks

variable (lax : Lax)

/-- Reads a text. -/
def strField : Val → Except Exc String
  | .str s => .ok s
  | _ => .error .valueError

/-- Reads a dictionary. -/
def dictField : Val → Except Exc Dict
  | .dict kvs => .ok kvs
  | _ => .error .valueError

/-- Reads a list of texts. -/
def strsField : Val → Except Exc (List String)
  | .list xs => xs.mapM strField
  | _ => .error .valueError

/-- Reads an integer. -/
def intField : Val → Except Exc Int
  | .int i => .ok i
  | .bool b => .ok (if b then 1 else 0)
  | .float q _ => if q.den = 1 then .ok q.num else .error .valueError
  | .str s => match lax.intOfText s with
    | some i => .ok i
    | none => .error .valueError
  | _ => .error .valueError

/-- Reads a truth value. -/
def boolField : Val → Except Exc Bool
  | .bool b => .ok b
  | .int i => if i = 0 then .ok false else if i = 1 then .ok true else .error .valueError
  | .float q _ => if q = 0 then .ok false else if q = 1 then .ok true else .error .valueError
  | .str s => match lax.boolOfText s with
    | some b => .ok b
    | none => .error .valueError
  | _ => .error .valueError

/-- Reads a tool. -/
def toolField : Val → Except Exc Tool
  | .str "rag" => .ok .rag
  | .str "database" => .ok .database
  | .str "web" => .ok .web
  | .str "rest" => .ok .rest
  | .str "report" => .ok .report
  | .str "graph" => .ok .graph
  | _ => .error .valueError

/-- The target a decision may have under a name. -/
def targetField : String → Except Exc Target
  | "rag" => .ok .rag
  | "database" => .ok .database
  | "web" => .ok .web
  | "rest" => .ok .rest
  | "hybrid" => .ok .hybrid
  | "chitchat" => .ok .chitchat
  | "graph" => .ok .graph
  | _ => .error .valueError

/-- A field that is left at its default where the arguments do not have it. -/
def argField {α : Type} (d : Dict) (key : String) (default : α) (field : Val → Except Exc α) :
    Except Exc α :=
  match d.lookup key with
  | none => .ok default
  | some v => field v

/-- Arguments, read from a dictionary. -/
def StepArgs.fromDict (data : Val) : Except Exc StepArgs := do
  -- What is empty need not be a mapping.
  if ¬ data.truthy then return {}
  else
    let d ← asMapping data
    return {
      query := ← argField d "query" "" strField
      querySimplified := ← argField d "query_simplified" "" strField
      kbIds := ← argField d "kb_ids" [] strsField
      dbId := ← argField d "db_id" "" strField
      mcpServerName := ← argField d "mcp_server_name" "" strField
      searchEngine := ← argField d "search_engine" "" strField
      function := ← argField d "function" "" strField
      functionParams := ← argField d "function_params" [] dictField
      restEndpoint := ← argField d "rest_endpoint" "" strField
      restMethod := ← argField d "rest_method" "" strField
      restPayload := ← argField d "rest_payload" [] dictField
      erpDomain := ← argField d "erp_domain" "" strField
      sourceType := ← argField d "source_type" "Meeting" strField
      enablePg := ← argField d "enable_pg" false (boolField lax)
      maxRows := ← argField d "max_rows" 20 (intField lax)
      maxResultChars := ← argField d "max_result_chars" 12000 (intField lax)
      enableHybridRetrieval := ← argField d "enable_hybrid_retrieval" false (boolField lax)
      timeoutMs := ← argField d "timeout_ms" 30000 (intField lax)
      extra := ← argField d "extra" [] dictField }

/-- A step, read from a dictionary. -/
def PlanStep.fromDict (data : Val) : Except Exc PlanStep := do
  let d ← asMapping data
  return {
    args := ← StepArgs.fromDict lax (pyGet d "args" (.dict []))
    stepId := ← strField (pyGet d "step_id" (.str ""))
    tool := ← toolField (pyGet d "tool" (.str "rag"))
    dependsOn := ← strsField (pyGet d "depends_on" (.list []))
    canParallel := ← boolField lax (pyGet d "can_parallel" (.bool false))
    description := ← strField (pyGet d "description" (.str "")) }

/-- The plan a decoded answer holds. The time gives a plan without an id one. -/
def readPlan (now : Nat) (parsed : Val) : Except Exc ExecutionPlan := do
  let d ← asMapping parsed
  return {
    planId := ← strField (pyGet d "plan_id" (.str s!"plan_{now}"))
    steps := ← (← pyIter (pyGet d "steps" (.list []))).mapM (PlanStep.fromDict lax)
    estimatedTokens := ← intField lax (pyGet d "estimated_tokens" (.int 1000))
    fallbackStrategy := ← strField (pyGet d "fallback_strategy" (.str "sequential")) }

end Checks

section Dump

/-- Texts as a value. -/
def strsVal (xs : List String) : Val := .list (xs.map .str)

/-- Arguments as a dictionary. -/
def StepArgs.modelDump (a : StepArgs) : Val :=
  .dict
    [("query", .str a.query), ("query_simplified", .str a.querySimplified),
      ("kb_ids", strsVal a.kbIds), ("db_id", .str a.dbId),
      ("mcp_server_name", .str a.mcpServerName), ("search_engine", .str a.searchEngine),
      ("function", .str a.function), ("function_params", .dict a.functionParams),
      ("rest_endpoint", .str a.restEndpoint), ("rest_method", .str a.restMethod),
      ("rest_payload", .dict a.restPayload), ("erp_domain", .str a.erpDomain),
      ("source_type", .str a.sourceType), ("enable_pg", .bool a.enablePg),
      ("max_rows", .int a.maxRows), ("max_result_chars", .int a.maxResultChars),
      ("enable_hybrid_retrieval", .bool a.enableHybridRetrieval),
      ("timeout_ms", .int a.timeoutMs), ("extra", .dict a.extra)]

/-- A step as a dictionary. -/
def PlanStep.modelDump (s : PlanStep) : Val :=
  .dict
    [("step_id", .str s.stepId), ("tool", .str s.tool.name), ("args", s.args.modelDump),
      ("depends_on", strsVal s.dependsOn), ("can_parallel", .bool s.canParallel),
      ("description", .str s.description)]

/-- A plan as a dictionary. -/
def ExecutionPlan.modelDump (p : ExecutionPlan) : Val :=
  .dict
    [("plan_id", .str p.planId), ("steps", .list (p.steps.map PlanStep.modelDump)),
      ("estimated_tokens", .int p.estimatedTokens),
      ("fallback_strategy", .str p.fallbackStrategy)]

end Dump

section Planner

/-- What asking the model for a plan comes to. -/
inductive Reply where
  | timeout
  | raised (e : Exc)
  | content (text : String)

/-- What `_call_planner` comes to under its time limit. -/
inductive Outcome where
  | timeout
  | failed (e : Exc)
  | planned (p : ExecutionPlan)

variable (lax : Lax) (repair : String → Except Exc Val) (now : Nat)

/-- What comes of a reply. -/
def callPlanner : Reply → Outcome
  | .timeout => .timeout
  | .raised e => .failed e
  | .content text =>
      if startsWith text "**ERROR**" then .failed .runtimeError
      else
        -- What is raised from here on is caught with the call.
        match repair text >>= readPlan lax now with
        | .error e => .failed e
        | .ok p => .planned p

/-- How often each tool is used. -/
def toolCounts (steps : List PlanStep) : List (Tool × Nat) :=
  steps.foldl (fun counts s => dictSet s.tool ((counts.lookup s.tool).getD 0 + 1) counts) []

/-- The target for the tools of a plan. -/
def determineTarget (p : ExecutionPlan) : String :=
  match toolCounts p.steps with
  | [] => "chitchat"
  | [(tool, _)] => tool.name
  | _ => "hybrid"

/-- The knowledge bases of the RAG steps, each once. -/
def planKbIds (p : ExecutionPlan) : List String :=
  (dictOf ((p.steps.flatMap (fun s => if s.tool = .rag then s.args.kbIds else [])).map
    (fun kbId => (kbId, ())))).map Prod.fst

/-- The decision that came in, marked with why there is no plan. -/
def degraded (llmDecision : RouteDecision) (flag : String) : RouteDecision :=
  { llmDecision with metadata := dictSet flag (.bool true) llmDecision.metadata }

/-- `Planner.plan`. The decision is built after the guarded call. -/
def plan (reply : Reply) (llmDecision : RouteDecision) : Except Exc RouteDecision :=
  match callPlanner lax repair now reply with
  | .timeout => .ok (degraded llmDecision "planner_timeout")
  | .failed _ => .ok (degraded llmDecision "planner_failed")
  | .planned p => do
      return {
        -- This may raise, and nothing catches it.
        target := ← targetField (determineTarget p)
        confidence := llmDecision.confidence
        source := .planner
        reason := s!"Planner 生成执行计划: {p.steps.length} 个步骤"
        complexity := .complex
        kbIds := planKbIds p
        metadata :=
          [("plan", p.modelDump),
            ("sub_intents", pyGet llmDecision.metadata "sub_intents" (.list [])),
            ("entities", pyGet llmDecision.metadata "entities" (.dict []))]
        confidence_nonneg := llmDecision.confidence_nonneg
        confidence_le_one := llmDecision.confidence_le_one }

end Planner

end Plan

end AgenticRag

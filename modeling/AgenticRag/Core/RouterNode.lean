import AgenticRag.Core.EvidenceAdapter
import AgenticRag.Core.Graph
import AgenticRag.Core.LlmRouter
import AgenticRag.Core.Routers
import AgenticRag.Core.SkillPlanner
import AgenticRag.Core.SkillResolver

/-!
# The Router Node

A question is routed in layers. The filter and, for a simple question, the rules
may decide at once. Else a model is asked, and for what it calls complex a planner
is asked as well. Whatever was decided then looks for a skill. A skill that is
found replaces the plan by its own, unless the user named a tool or the question
needs none.

A skill is looked for once or twice in a round, and what the retrievers and the
reranker answer may differ from one time to the next.

The texts of floating point numbers, and the fields of a skill that only a plan is
made from, are parameters.

## Main definitions

* `planWithSkills`: A plan from a skill set, as a decision.
* `routedStep`: The workflow with its router.
-/

namespace AgenticRag

namespace RouterNode

open Py Ordered Plan Skills LlmRouting EvidenceAdapter

section Decisions

/-- The name of a source. -/
def sourceName : Plan.Source → String
  | .rule => "rule"
  | .llm => "llm"
  | .planner => "planner"
  | .prefilter => "prefilter"
  | .reactPlanner => "react_planner"

/-- The name of a complexity. -/
def complexityName : Complexity → String
  | .simple => "simple"
  | .moderate => "moderate"
  | .complex => "complex"

/-- A decision as a dictionary. -/
def modelDump (floatRepr : ℚ → String) (d : Plan.RouteDecision) : Dict :=
  [("target", .str d.target.name), ("confidence", .float d.confidence (floatRepr d.confidence)),
    ("source", .str (sourceName d.source)), ("reason", .str d.reason),
    ("complexity", .str (complexityName d.complexity)), ("kb_ids", strsVal d.kbIds),
    ("metadata", .dict d.metadata)]

/-- A flag of the metadata is set. -/
def flag (d : Plan.RouteDecision) (key : String) : Bool :=
  (pyGet d.metadata key .none).truthy

end Decisions

section Planning

/-- What plans are made from is in the skills themselves, beside what they are
    resolved by. -/
structure PlanFields where
  report : ReportSkill → PlannedReportSkill
  data : Skills.DataSkill → PlannedDataSkill
  retrieval : Skills.RetrievalSkill → PlannedRetrievalSkill
  report_eq : ∀ s, (report s).toReportSkill = s
  data_eq : ∀ s, (data s).toDataSkill = s
  retrieval_eq : ∀ s, (retrieval s).toRetrievalSkill = s

/-- A set of skills, as plans read it. -/
def PlanFields.planned (fields : PlanFields) (set : ResolvedSkillSet) : PlannedSkillSet where
  reportSkill := fields.report set.reportSkill
  dataSkill := set.dataSkill.map fields.data
  retrievalSkill := set.retrievalSkill.map fields.retrieval

variable (u : Unicode) (casefold : String → String)

/-- `Planner.plan_with_skills`, with the plan beside the decision that holds
    it. -/
def planWithSkills (context : SkillPlanContext) (llmDecision : Plan.RouteDecision) :
    Except Exc (Plan.RouteDecision × Option ExecutionPlan) := do
  let result ← buildPlan u casefold context
  let metadata : Dict :=
    [("sub_intents", pyGet llmDecision.metadata "sub_intents" (.list [])),
      ("entities", pyGet llmDecision.metadata "entities" (.dict [])),
      ("skill_id", .str context.skillSet.reportSkill.skillId)]
  if ¬ result.success then
    return ({ llmDecision with
      reason := "Skill plan unavailable: " ++ result.reason
      kbIds := []
      metadata := metadata ++ [("skill_plan_error", .dict [("reason", .str result.reason),
        ("missing_context", strsVal result.missingContext)])] }, none)
  else
    match result.plan with
    -- The assertion, which no result of the adapter fails.
    | none => .error .runtimeError
    | some plan =>
        return ({ llmDecision with
          target := .hybrid
          source := .planner
          reason := s!"Skill planner generated execution plan: {plan.steps.length} steps"
          complexity := .complex
          kbIds := planKbIds plan
          metadata := metadata ++ [("plan", plan.modelDump)] }, some plan)

end Planning

section Node

/-- The settings of the routers. -/
structure RouterConfig where
  gate : ComplexityGate.GateConfig := {}
  keywords : RuleKeywords := {}
  ruleToLlm : ℚ := 7 / 10

/-- What the node is given once. -/
structure RouterEnv where
  u : Unicode
  casefold : String → String
  lax : Lax
  floatOfText : String → Option ℚ
  floatRepr : ℚ → String
  repair : String → Except Exc Val
  config : RouterConfig := {}
  defaultAllowApproved : Bool := false
  registry : SkillCatalogSnapshot := {}
  recallConfig : HybridRecallConfig := {}
  fields : PlanFields

/-- What the node reads of the state. -/
structure RouterRequest where
  userQuestion : String
  tenantId : String := ""
  queryLang : String := "zh_CN"
  agentConfig : Option Dict := none

/-- What the services do in a round: the router and its model, the planner, and the
    retrievers each time a skill is looked for. -/
structure RouterWorld where
  router : LLMRouter := {}
  reply : Reply
  start : ℚ := 0
  stop : ℚ := 0
  planReply : Reply
  now : Nat := 0
  firstRetrievers : Retrievers := {}
  secondRetrievers : Retrievers := {}

/-- What the node writes. -/
structure RouteUpdate where
  routeTarget : Plan.Target
  routeDecision : Plan.RouteDecision
  skillResolution : Option SkillResolveResult := none
  skillSet : Option ResolvedSkillSet := none
  skillEvidenceRequirements : Option (List SkillEvidenceRequirement) := none
  executionPlan : Option ExecutionPlan := none

/-- The services a round may ask: the model of the router, the planner, and the
    resolver of skills. -/
inductive RouterCall where
  | model
  | planner
  | resolver
  deriving DecidableEq, Repr

/-- A decision and no more. -/
def RouteUpdate.base (d : Plan.RouteDecision) : RouteUpdate where
  routeTarget := d.target
  routeDecision := d

/-- What is decided before a model is asked. -/
inductive Early where
  | decided (d : Plan.RouteDecision)
  | open (rule : Plan.RouteDecision) (gate : ComplexityGate.ComplexityResult)

/-- What the gate puts in the place of a decision of the rules. -/
def skippedRule (u : Unicode) (gate : ComplexityGate.ComplexityResult) (floatRepr : ℚ → String) :
    Plan.RouteDecision where
  target := .chitchat
  confidence := 0
  source := .rule
  reason := "复杂度闸门跳过规则路由: " ++ (strsVal gate.triggeredSignals).repr u
  complexity := .complex
  metadata :=
    [("complexity_gate_skipped", .bool true),
      ("complexity_signals", strsVal gate.triggeredSignals),
      ("complexity_confidence", .float gate.confidence (floatRepr gate.confidence))]
  confidence_nonneg := le_rfl
  confidence_le_one := PreFilter.zero_le_certain

variable (env : RouterEnv)

/-- The filter, the gate and the rules. -/
def beforeModel (question : String) : Early :=
  match PreFilter.filter env.u question with
  | some d => .decided d
  | none =>
      let gate := ComplexityGate.check env.config.gate env.config.keywords question
      if gate.isComplex then .open (skippedRule env.u gate env.floatRepr) gate
      else
        let rule := RuleRouter.route env.u env.config.keywords question
        if env.config.ruleToLlm ≤ rule.confidence then .decided rule else .open rule gate

/-- What a skill is looked for by. -/
def resolveContext (request : RouterRequest) (d : Plan.RouteDecision) : SkillResolveContext where
  userQuestion := request.userQuestion
  tenantId := request.tenantId
  routeDecision := some (modelDump env.floatRepr d)
  agentConfig := request.agentConfig

/-- `_resolve_skill`. What is raised leaves no result. -/
def resolveSkill (x : Retrievers) (request : RouterRequest) (d : Plan.RouteDecision) :
    Option SkillResolveResult :=
  (resolve env.casefold env.defaultAllowApproved env.registry env.recallConfig x
    (resolveContext env request d)).toOption

/-- The skill set of a result that counts as found. -/
def hit (result : Option SkillResolveResult) : Option ResolvedSkillSet :=
  match result with
  | some r => if r.resolved && !r.fallbackUsed then r.skillSet else none
  | none => none

/-- What a plan is built from. -/
def planContext (request : RouterRequest) (set : ResolvedSkillSet) : SkillPlanContext where
  userQuestion := request.userQuestion
  tenantId := request.tenantId
  queryLang := request.queryLang
  skillSet := env.fields.planned set
  agentConfig := request.agentConfig.getD []

/-- `_finalize_route`, with the services it asks. -/
def finalizeRoute (x : Retrievers) (request : RouterRequest) (d : Plan.RouteDecision) :
    RouteUpdate × List RouterCall :=
  if d.target = .chitchat ∨ flag d "directive" then (RouteUpdate.base d, [])
  else
    let result := resolveSkill env x request d
    let resolution := { RouteUpdate.base d with skillResolution := result }
    match hit result with
    | none => (resolution, [.resolver])
    | some set =>
        let found := { resolution with
          skillSet := some set
          skillEvidenceRequirements :=
            some ((collectRequirements env.lax set).toOption.getD []) }
        match planWithSkills env.u env.casefold (planContext env request set) d with
        -- A plan that fails leaves the decision.
        | .error _ => (found, [.resolver])
        | .ok (planned, plan) =>
            ({ found with
              routeTarget := planned.target
              routeDecision := planned
              executionPlan := plan }, [.resolver])

/-- What the node adds to the decision of the model. -/
def noteSignals (gate : ComplexityGate.ComplexityResult) (d : Plan.RouteDecision) :
    Plan.RouteDecision :=
  let metadata :=
    if gate.isComplex then
      dictSet "complexity_signals" (strsVal gate.triggeredSignals) d.metadata
    else d.metadata
  { d with
    metadata :=
      match metadata.lookup "needs_multi_tool" with
      | some _ => metadata
      | none =>
          dictSet "needs_multi_tool" (.bool (decide (d.target = .hybrid ∨
            (d.complexity = .complex ∧ (d.target = .hybrid ∨ d.target = .database))))) metadata }

/-- The layers behind the model, for a decision that is complex: a skill, or a
    plan of the planner. -/
def complexRound (x : RouterWorld) (request : RouterRequest) (d : Plan.RouteDecision) :
    Except Exc RouteUpdate × List RouterCall :=
  let first := resolveSkill env x.firstRetrievers request d
  match hit first with
  | some _ =>
      let out := finalizeRoute env x.secondRetrievers request d
      (.ok out.1, .resolver :: out.2)
  | none =>
      match plan env.lax env.repair x.now x.planReply d with
      | .error e => (.error e, [.resolver, .planner])
      | .ok planned =>
          let out := finalizeRoute env x.secondRetrievers request planned
          -- What was found before the planner was asked is what is noted.
          (.ok { out.1 with skillResolution := first.or out.1.skillResolution },
            .resolver :: .planner :: out.2)

/-- The layers behind the model. -/
def afterModel (x : RouterWorld) (request : RouterRequest) (d : Plan.RouteDecision) :
    Except Exc RouteUpdate × List RouterCall :=
  if flag d "needs_clarification" then (.ok (RouteUpdate.base d), [])
  else if d.complexity ≠ .complex then
    let out := finalizeRoute env x.secondRetrievers request d
    (.ok out.1, out.2)
  else complexRound env x request d

/-- How the model is asked. -/
def RouterWorld.call (x : RouterWorld) (rule : Plan.RouteDecision) : RouteCall where
  ruleDecision := rule
  reply := x.reply
  start := x.start
  stop := x.stop

/-- The layers from the model on. -/
def fromModel (x : RouterWorld) (request : RouterRequest) (rule : Plan.RouteDecision)
    (gate : ComplexityGate.ComplexityResult) : Except Exc RouteUpdate × List RouterCall :=
  let routed := x.router.route env.repair env.floatOfText (x.call rule)
  let asked := if routed.contacted then [RouterCall.model] else []
  match routed.decision with
  | .error e => (.error e, asked)
  | .ok decision =>
      let out := afterModel env x request (noteSignals gate decision)
      (out.1, asked ++ out.2)

/-- `intent_router_node`, from the tenant on, with the services it asks. -/
def intentRouter (x : RouterWorld) (request : RouterRequest) :
    Except Exc RouteUpdate × List RouterCall :=
  if request.userQuestion = "" then
    (.ok (RouteUpdate.base (RuleRouter.defaultDecision "用户问题为空")), [])
  else
    match beforeModel env request.userQuestion with
    | .decided d =>
        let out := finalizeRoute env x.secondRetrievers request d
        (.ok out.1, out.2)
    | .open rule gate => fromModel env x request rule gate

end Node

section Workflow

/-- A target as an edge of the graph. -/
def toRouteTarget : Plan.Target → RouteTarget
  | .rag => .rag
  | .database => .database
  | .web => .web
  | .rest => .rest
  | .hybrid => .hybrid
  | .chitchat => .chitchat
  | .graph => .graph

/-- A decision as far as the edges read it. -/
def summary (d : Plan.RouteDecision) : AgenticRag.RouteDecision where
  source := sourceName d.source
  complexity := complexityName d.complexity
  needsClarification := flag d "needs_clarification"
  needsMultiTool := flag d "needs_multi_tool"

/-- What a step of the workflow gets from outside, the router's services among
    it. -/
structure RoutedWorld where
  world : World
  services : RouterWorld
  queryLang : String := "zh_CN"
  agentConfig : Option Dict := none

/-- The request of a state. -/
def RoutedWorld.request (x : RoutedWorld) (s : AgentState) : RouterRequest where
  userQuestion := s.userQuestion
  tenantId := s.tenantId
  queryLang := x.queryLang
  agentConfig := x.agentConfig

/-- The world with the decision of the router in it. -/
def RoutedWorld.decided (x : RoutedWorld) (update : RouteUpdate) : World :=
  { x.world with
    routeTarget := toRouteTarget update.routeTarget
    routeDecision := summary update.routeDecision }

/-- A step of the workflow whose router is the node. A router that raises takes
    no step. -/
def routedStep (rt : Runtime) (env : RouterEnv) (c : Config) (x : RoutedWorld) : Option Config :=
  match c.node with
  | .intentRouter =>
      (intentRouter env x.services (x.request c.state)).1.toOption.map
        (fun update => step rt (x.decided update) c)
  | _ => some (step rt x.world c)

end Workflow

end RouterNode

end AgenticRag

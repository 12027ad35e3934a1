import AgenticRag.Lib.Driven
import AgenticRag.Theory.PlanHandover
import AgenticRag.Theory.RouteLayers
import AgenticRag.Theory.SkillPlans

/-!
# Where a Round Leads

The router writes a decision, and the edge behind it reads the decision off the
state. Which of the two ways of using several tools a complex question takes is
thus decided by what the layers leave in the metadata. A plan leaves no word
about several tools, so whatever has a plan goes to the node that executes
plans, also where reasoning is enabled (`plan_excludes_reasoning`). Reasoning is
what is left if there was to be a plan and none was made.

A plan made from a skill is handed over as it is, and is run to its report
(`skill_plan_executed`).

## Main definitions

* `nextNode`: The node behind the router.

## Theorems

* `planWithSkills_spec`, `finalizeRoute_spec`, `fromModel_spec`: What the layers
  leave.
* `plan_excludes_reasoning`: A plan is executed, and only without one is there
  reasoning.
* `skill_plan_executed`: What becomes of a skill's plan.
-/

namespace AgenticRag

namespace RouterNode

open Py Ordered Plan LlmRouting

section Early

variable {env : RouterEnv}

/-- The decisions of the filter and of the rules: simple, and with nothing in the
    metadata that an edge reads. -/
structure Plain (d : Plan.RouteDecision) : Prop where
  source : d.source = .prefilter ∨ d.source = .rule
  simple : d.complexity = .simple
  clear : flag d "needs_clarification" = false

theorem plain_filter {u : Unicode} {query : String} {d : Plan.RouteDecision}
    (h : PreFilter.filter u query = some d) : Plain d := by
  unfold PreFilter.filter at h
  split_ifs at h
  -- One case for each check, in the order they are made.
  rcases Option.or_eq_some_iff.mp h with h | ⟨-, h⟩
  · unfold PreFilter.checkSecurity at h
    dsimp only at h
    split_ifs at h
    · cases h
      exact ⟨.inl rfl, rfl, rfl⟩
    · rcases Option.map_eq_some_iff.mp h with ⟨keyword, -, rfl⟩
      exact ⟨.inl rfl, rfl, rfl⟩
  rcases Option.or_eq_some_iff.mp h with h | ⟨-, h⟩
  · rcases Option.map_eq_some_iff.mp h with ⟨entry, -, rfl⟩
    exact ⟨.inl rfl, rfl, rfl⟩
  rcases Option.or_eq_some_iff.mp h with h | ⟨-, h⟩
  · unfold PreFilter.checkExternalSearch at h
    dsimp only at h
    split_ifs at h
    cases h
    exact ⟨.inl rfl, rfl, rfl⟩
  rcases Option.or_eq_some_iff.mp h with h | ⟨-, h⟩
  · unfold PreFilter.checkGreeting at h
    split_ifs at h
    cases h
    exact ⟨.inl rfl, rfl, rfl⟩
  · rcases List.exists_of_findSome?_eq_some h with ⟨entry, -, hentry⟩
    rcases Option.map_eq_some_iff.mp hentry with ⟨m, -, rfl⟩
    exact ⟨.inl rfl, rfl, rfl⟩

theorem plain_route (u : Unicode) (keywords : RuleKeywords) (query : String) :
    Plain (RuleRouter.route u keywords query) := by
  unfold RuleRouter.route
  dsimp only
  split_ifs
  · exact ⟨.inr rfl, rfl, rfl⟩
  · exact ⟨.inr rfl, rfl, rfl⟩
  · exact ⟨.inr rfl, rfl, rfl⟩
  · exact ⟨.inr rfl, rfl, rfl⟩
  · cases RuleRouter.matchStrongPattern query with
    | some entry => exact ⟨.inr rfl, rfl, rfl⟩
    | none =>
        show Plain (RuleRouter.weakDecision keywords (u.lower query))
        unfold RuleRouter.weakDecision
        dsimp only
        split_ifs <;> exact ⟨.inr rfl, rfl, rfl⟩

end Early

section Model

variable {env : RouterEnv}

/-- What is read off an answer of the model is a decision of the model. -/
theorem source_of_parseLlmResult {floatOfText : String → Option ℚ} {v : Val}
    {d : Plan.RouteDecision} (h : parseLlmResult floatOfText v = .ok d) : d.source = .llm := by
  rcases exists_of_bind_ok h with ⟨_, -, h⟩
  rcases exists_of_bind_ok h with ⟨_, -, h⟩
  rcases exists_of_bind_ok h with ⟨_, -, h⟩
  rcases exists_of_bind_ok h with ⟨_, -, h⟩
  rcases exists_of_bind_ok h with ⟨_, -, h⟩
  rcases exists_of_bind_ok h with ⟨_, -, h⟩
  cases h
  rfl

/-- The model decides, or what stood before stays. -/
theorem route_decision_cases (router : LLMRouter) (call : RouteCall) {d : Plan.RouteDecision}
    (h : (router.route env.repair env.floatOfText call).decision = .ok d) :
    d = call.ruleDecision ∨ d.source = .llm := by
  have hmark : ∀ d : Plan.RouteDecision, (router.confidenceThresholds.mark d).source = d.source := by
    intro d
    unfold ConfidenceThresholds.mark
    split_ifs <;> rfl
  unfold LLMRouter.route at h
  split at h
  · cases h
    exact .inl rfl
  · split at h
    · cases h
      exact .inl rfl
    · cases h
      exact .inl rfl
    · dsimp only at h
      split at h
      · cases h
        exact .inl rfl
      next hparse =>
        cases h
        exact .inr ((hmark _).trans (source_of_parseLlmResult hparse))

theorem noteSignals_eq (gate : ComplexityGate.ComplexityResult) (d : Plan.RouteDecision) :
    (noteSignals gate d).source = d.source ∧ (noteSignals gate d).complexity = d.complexity ∧
      (noteSignals gate d).target = d.target := by
  exact ⟨rfl, rfl, rfl⟩

end Model

section Planning

variable {env : RouterEnv} {u : Unicode} {casefold : String → String}

/-- A decision that a plan was made for, or was to be made for. -/
structure Silent (d : Plan.RouteDecision) : Prop where
  clear : flag d "needs_clarification" = false
  single : flag d "needs_multi_tool" = false

/-- What a skill set comes to: no plan, and the target and the source stay, or a
    plan, and the decision holds it. -/
inductive SkillPlanned (u : Unicode) (casefold : String → String)
    (context : Skills.SkillPlanContext) (d : Plan.RouteDecision) :
    Plan.RouteDecision → Option ExecutionPlan → Prop where
  | refused (planned : Plan.RouteDecision) (hsilent : Silent planned)
      (hsource : planned.source = d.source) (hcomplexity : planned.complexity = d.complexity) :
      SkillPlanned u casefold context d planned none
  | made (planned : Plan.RouteDecision) (hsilent : Silent planned)
      (hsource : planned.source = .planner) (hcomplexity : planned.complexity = .complex)
      (p : ExecutionPlan) (hdump : pyGet planned.metadata "plan" .none = p.modelDump)
      (result : Skills.SkillPlanResult)
      (hresult : Skills.buildPlan u casefold context = .ok result)
      (hplan : result.plan = some p) :
      SkillPlanned u casefold context d planned (some p)

theorem planWithSkills_spec {context : Skills.SkillPlanContext} {d planned : Plan.RouteDecision}
    {plan : Option ExecutionPlan}
    (h : planWithSkills u casefold context d = .ok (planned, plan)) :
    SkillPlanned u casefold context d planned plan := by
  rcases exists_of_bind_ok h with ⟨result, hresult, h⟩
  split_ifs at h
  · cases hplan : result.plan with
    | none =>
        rw [hplan] at h
        cases h
    | some p =>
        rw [hplan] at h
        cases h
        exact .made _ ⟨rfl, rfl⟩ rfl rfl p rfl result hresult hplan
  · cases h
    exact .refused _ ⟨rfl, rfl⟩ rfl rfl

/-- What the last layer leaves of a decision: the decision, or what a skill set
    came to. -/
inductive Finalized (env : RouterEnv) (request : RouterRequest) (d : Plan.RouteDecision) :
    RouteUpdate → Prop where
  | kept (update : RouteUpdate) (hdecision : update.routeDecision = d)
      (htarget : update.routeTarget = d.target) (hplan : update.executionPlan = none) :
      Finalized env request d update
  | skill (update : RouteUpdate) (set : Skills.ResolvedSkillSet)
      (hset : update.skillSet = some set) (htarget : d.target ≠ .chitchat)
      (hplanned : SkillPlanned env.u env.casefold (planContext env request set) d
        update.routeDecision update.executionPlan) :
      Finalized env request d update

theorem finalizeRoute_spec (x : Skills.Retrievers) (request : RouterRequest)
    (d : Plan.RouteDecision) :
    Finalized env request d (finalizeRoute env x request d).1 := by
  unfold finalizeRoute
  split_ifs with hskip
  · exact .kept _ rfl rfl rfl
  · dsimp only
    cases hit (resolveSkill env x request d) with
    | none => exact .kept _ rfl rfl rfl
    | some set =>
        dsimp only
        split
        · exact .kept _ rfl rfl rfl
        next planned plan hplanned =>
          exact .skill _ set rfl (fun h => hskip (.inl h)) (planWithSkills_spec hplanned)

/-- What the planner comes to: it gave no plan and the decision is marked, or its
    decision holds a plan. -/
theorem plan_cases {lax : Lax} {repair : String → Except Exc Val} {now : Nat} {reply : Reply}
    {d p : Plan.RouteDecision} (h : plan lax repair now reply d = .ok p) :
    (p = degraded d "planner_timeout" ∨ p = degraded d "planner_failed") ∨
      (p.source = .planner ∧ p.complexity = .complex ∧ Silent p ∧
        ∃ e, callPlanner lax repair now reply = .planned e ∧
          pyGet p.metadata "plan" .none = e.modelDump) := by
  unfold plan at h
  split at h
  · cases h
    exact .inl (.inl rfl)
  · cases h
    exact .inl (.inr rfl)
  next e hcall =>
    rcases exists_of_bind_ok h with ⟨target, -, h⟩
    cases h
    exact .inr ⟨rfl, rfl, ⟨rfl, rfl⟩, e, hcall, rfl⟩

end Planning

section Next

/-- The state with the decision of the router in it. -/
def routedState (s : AgentState) (update : RouteUpdate) : AgentState :=
  { s with
    routeTarget := toRouteTarget update.routeTarget
    routeDecision := some (summary update.routeDecision) }

/-- The node behind the router. -/
def nextNode (s : AgentState) (update : RouteUpdate) : Node :=
  AgenticRag.routeDecision (routedState s update)

variable {s : AgentState} {update : RouteUpdate}

/-- A plan is executed, whether reasoning is enabled or not. -/
theorem nextNode_of_planner (hsource : update.routeDecision.source = .planner)
    (hcomplex : update.routeDecision.complexity = .complex)
    (hsilent : Silent update.routeDecision) : nextNode s update = .planExecutor := by
  have hsummary : summary update.routeDecision = ⟨"planner", "complex", false, false⟩ := by
    rw [summary, hsource, hcomplex, hsilent.clear, hsilent.single]
    rfl
  unfold nextNode AgenticRag.routeDecision routedState
  simp only [hsummary, Option.getD_some, Bool.false_eq_true, if_false, false_and, and_false,
    and_self, if_true]

/-- What leads to reasoning. -/
theorem of_nextNode_reactSubgraph (h : nextNode s update = .reactSubgraph) :
    flag update.routeDecision "needs_clarification" = false ∧
      update.routeDecision.complexity = .complex ∧
      flag update.routeDecision "needs_multi_tool" = true ∧
      (update.routeTarget = .hybrid ∨ update.routeTarget = .database) := by
  unfold nextNode AgenticRag.routeDecision at h
  dsimp only at h
  split_ifs at h with hclear hreact hplan
  · rcases hreact with ⟨-, hcomplex, hmulti, htarget⟩
    refine ⟨Bool.eq_false_iff.mpr hclear, ?_, hmulti, ?_⟩
    · have hname : complexityName update.routeDecision.complexity = "complex" := hcomplex
      cases hc : update.routeDecision.complexity with
      | complex => rfl
      | _ => rw [hc] at hname; exact absurd hname (by decide)
    · have htarget : toRouteTarget update.routeTarget = .hybrid ∨
          toRouteTarget update.routeTarget = .database := htarget
      cases ht : update.routeTarget with
      | hybrid => exact .inl rfl
      | database => exact .inr rfl
      | _ => rw [ht] at htarget; exact absurd htarget (by decide)
  · split at h <;> cases h

end Next

section Rounds

variable {env : RouterEnv} {x : RouterWorld} {request : RouterRequest} {update : RouteUpdate}

/-- How a round comes to what it writes, with the services it asks. -/
inductive RoundSpec (env : RouterEnv) (x : RouterWorld) (request : RouterRequest)
    (update : RouteUpdate) (calls : List RouterCall) : Prop where
  | simple (d : Plan.RouteDecision) (hsource : d.source ≠ .planner)
      (hsimple : d.complexity ≠ .complex) (hfinal : Finalized env request d update)
  | unclear (d : Plan.RouteDecision) (hsource : d.source ≠ .planner)
      (hunclear : flag d "needs_clarification" = true) (hfinal : update = RouteUpdate.base d)
  | skill (d : Plan.RouteDecision) (hsource : d.source ≠ .planner)
      (set : Skills.ResolvedSkillSet)
      (hhit : hit (resolveSkill env x.firstRetrievers request d) = some set)
      (hfinal : Finalized env request d update) (hcalls : RouterCall.planner ∉ calls)
  | planned (d : Plan.RouteDecision) (hsource : d.source ≠ .planner) (p : Plan.RouteDecision)
      (hplan : plan env.lax env.repair x.now x.planReply d = .ok p)
      (hfinal : Finalized env request p update) (hcalls : RouterCall.planner ∈ calls)

theorem Finalized.noted {d : Plan.RouteDecision} (h : Finalized env request d update)
    (resolution : Option Skills.SkillResolveResult) :
    Finalized env request d { update with skillResolution := resolution } := by
  cases h with
  | kept hdecision htarget hplan => exact .kept _ hdecision htarget hplan
  | skill set hset htarget hplanned => exact .skill _ set hset htarget hplanned

theorem fromModel_spec {rule : Plan.RouteDecision} {gate : ComplexityGate.ComplexityResult}
    (hrule : rule.source ≠ .planner)
    (h : (fromModel env x request rule gate).1 = .ok update) :
    RoundSpec env x request update (fromModel env x request rule gate).2 := by
  rw [fromModel] at h ⊢
  dsimp only at h ⊢
  have hasked : ∀ rest, RouterCall.planner ∉ rest → RouterCall.planner ∉
      (if (x.router.route env.repair env.floatOfText (x.call rule)).contacted = true
        then [RouterCall.model] else []) ++ rest := by
    intro rest hrest
    rw [List.mem_append, not_or]
    refine ⟨?_, hrest⟩
    split_ifs
    · decide
    · exact List.not_mem_nil
  cases hdecision : (x.router.route env.repair env.floatOfText (x.call rule)).decision with
  | error e =>
      rw [hdecision] at h
      cases h
  | ok decision =>
      rw [hdecision] at h
      dsimp only at h ⊢
      have hsource : (noteSignals gate decision).source ≠ .planner := by
        rw [(noteSignals_eq gate decision).1]
        rcases route_decision_cases x.router (x.call rule) hdecision with heq | hllm
        · rw [heq]
          exact hrule
        · rw [hllm]
          decide
      have hround := afterModel_spec env x request (noteSignals gate decision)
      generalize afterModel env x request (noteSignals gate decision) = out at hround h ⊢
      cases hround with
      | unclear hunclear =>
          cases h
          exact .unclear _ hsource hunclear rfl
      | simple hclear hsimple =>
          cases h
          exact .simple _ hsource hsimple (finalizeRoute_spec _ _ _)
      | skill hclear hcomplex set hhit =>
          cases h
          refine .skill _ hsource set hhit (finalizeRoute_spec _ _ _) (hasked _ ?_)
          exact List.not_mem_cons_of_ne_of_not_mem (by decide)
            (not_mem_finalizeRoute _ _ _ (by decide))
      | raised hclear hcomplex hhit e hplan => cases h
      | planned hclear hcomplex hhit p hplan =>
          cases h
          refine .planned _ hsource p hplan ((finalizeRoute_spec _ _ _).noted _) ?_
          exact List.mem_append_right _ (List.mem_cons_of_mem _ List.mem_cons_self)

theorem intentRouter_spec (h : (intentRouter env x request).1 = .ok update) :
    RoundSpec env x request update (intentRouter env x request).2 := by
  rw [intentRouter] at h ⊢
  split_ifs at h ⊢ with hempty
  · cases h
    exact .simple _ (by decide) (by decide) (.kept _ rfl rfl rfl)
  · have hplain : ∀ d, Plain d → d.source ≠ .planner ∧ d.complexity ≠ .complex := by
      intro d hd
      refine ⟨?_, by rw [hd.simple]; decide⟩
      rcases hd.source with hsource | hsource <;> rw [hsource] <;> decide
    rw [beforeModel] at h ⊢
    cases hfilter : PreFilter.filter env.u request.userQuestion with
    | some d =>
        rw [hfilter] at h
        cases h
        rcases hplain d (plain_filter hfilter) with ⟨hsource, hsimple⟩
        exact .simple d hsource hsimple (finalizeRoute_spec _ _ _)
    | none =>
        rw [hfilter] at h
        dsimp only at h ⊢
        split_ifs at h ⊢ with hcomplex hsure
        · exact fromModel_spec (fun hsource => by cases hsource) h
        · cases h
          rcases hplain _ (plain_route env.u env.config.keywords request.userQuestion) with
            ⟨hsource, hsimple⟩
          exact .simple _ hsource hsimple (finalizeRoute_spec _ _ _)
        · exact fromModel_spec (hplain _ (plain_route _ _ _)).1 h

end Rounds

section Main

variable {env : RouterEnv} {x : RouterWorld} {request : RouterRequest} {update : RouteUpdate}

section Skills

variable {context : Skills.SkillPlanContext} {d planned : Plan.RouteDecision}
  {plan : Option ExecutionPlan}

theorem SkillPlanned.silent (h : SkillPlanned env.u env.casefold context d planned plan) :
    Silent planned := by
  cases h with
  | refused hsilent _ _ => exact hsilent
  | made hsilent _ _ _ _ _ _ _ => exact hsilent

theorem SkillPlanned.complex (h : SkillPlanned env.u env.casefold context d planned plan)
    (hd : d.source = .planner → d.complexity = .complex) (hsource : planned.source = .planner) :
    planned.complexity = .complex := by
  cases h with
  | refused hsilent hkept hcomplexity => exact hcomplexity.trans (hd (hkept ▸ hsource))
  | made hsilent _ hcomplexity _ _ _ _ _ => exact hcomplexity

end Skills

/-- Where the planner decided, its plan or a skill's is executed. -/
theorem Finalized.executed {d : Plan.RouteDecision} (h : Finalized env request d update)
    (hd : d.source = .planner → d.complexity = .complex ∧ Silent d)
    (hsource : update.routeDecision.source = .planner) (s : AgentState) :
    nextNode s update = .planExecutor := by
  cases h with
  | kept hdecision htarget hplan =>
      rcases hd (hdecision ▸ hsource) with ⟨hcomplex, hsilent⟩
      exact nextNode_of_planner hsource (hdecision ▸ hcomplex) (hdecision ▸ hsilent)
  | skill set hset htarget hplanned =>
      exact nextNode_of_planner hsource (hplanned.complex (fun h => (hd h).1) hsource)
        hplanned.silent

/-- What a skill set came to is not reasoned about. -/
theorem Finalized.kept_of_reasoning {d : Plan.RouteDecision} (h : Finalized env request d update)
    {s : AgentState} (hnext : nextNode s update = .reactSubgraph) :
    update.routeDecision = d ∧ update.executionPlan = none := by
  have hmulti := (of_nextNode_reactSubgraph hnext).2.2.1
  cases h with
  | kept hdecision htarget hplan => exact ⟨hdecision, hplan⟩
  | skill set hset htarget hplanned =>
      exact absurd (hmulti.symm.trans hplanned.silent.single) (by decide)

theorem flag_degraded (d : Plan.RouteDecision) (key : String) :
    flag (degraded d key) key = true := by
  rw [flag, degraded, pyGet, lookup_dictSet, if_pos rfl]
  rfl

/-- Whatever has a plan is executed, also where reasoning is enabled. Reasoning is
    entered without one only, and then the planner was asked and marked the
    decision, or a skill was found for the decision and gave no plan. -/
theorem plan_excludes_reasoning (env : RouterEnv) (x : RouterWorld) (request : RouterRequest)
    (update : RouteUpdate) (h : (intentRouter env x request).1 = .ok update) (s : AgentState) :
    (update.routeDecision.source = .planner → nextNode s update = .planExecutor) ∧
      (nextNode s update = .reactSubgraph →
        update.routeDecision.source ≠ .planner ∧ update.executionPlan = none ∧
          if RouterCall.planner ∈ (intentRouter env x request).2 then
            flag update.routeDecision "planner_timeout" = true ∨
              flag update.routeDecision "planner_failed" = true
          else ∃ set, hit (resolveSkill env x.firstRetrievers request update.routeDecision) =
            some set) := by
  cases intentRouter_spec h with
  | simple d hsource hsimple hfinal =>
      refine ⟨fun hplanner => hfinal.executed (fun hd => absurd hd hsource) hplanner s,
        fun hnext => ?_⟩
      have hcomplex := (of_nextNode_reactSubgraph hnext).2.1
      rw [(hfinal.kept_of_reasoning hnext).1] at hcomplex
      exact absurd hcomplex hsimple
  | unclear d hsource hunclear hfinal =>
      subst hfinal
      refine ⟨fun hplanner => absurd hplanner hsource, fun hnext => ?_⟩
      exact absurd (hunclear.symm.trans (of_nextNode_reactSubgraph hnext).1) (by decide)
  | skill d hsource set hhit hfinal hcalls =>
      refine ⟨fun hplanner => hfinal.executed (fun hd => absurd hd hsource) hplanner s,
        fun hnext => ?_⟩
      rcases hfinal.kept_of_reasoning hnext with ⟨hdecision, hplan⟩
      rw [if_neg hcalls, hdecision]
      exact ⟨hsource, hplan, set, hhit⟩
  | planned d hsource p hplan hfinal hcalls =>
      rw [if_pos hcalls]
      rcases plan_cases hplan with hdegraded | ⟨hplanner, hcomplex, hsilent, -⟩
      · have hp : p.source ≠ .planner := by
          rcases hdegraded with rfl | rfl <;> exact hsource
        refine ⟨fun hplanner => hfinal.executed (fun hd => absurd hd hp) hplanner s,
          fun hnext => ?_⟩
        rcases hfinal.kept_of_reasoning hnext with ⟨hdecision, hnone⟩
        rw [hdecision]
        refine ⟨hp, hnone, ?_⟩
        rcases hdegraded with rfl | rfl
        · exact .inl (flag_degraded d _)
        · exact .inr (flag_degraded d _)
      · refine ⟨fun hsource => hfinal.executed (fun _ => ⟨hcomplex, hsilent⟩) hsource s,
          fun hnext => ?_⟩
        -- The planner's decision says nothing about several tools.
        have hmulti := (of_nextNode_reactSubgraph hnext).2.2.1
        rw [(hfinal.kept_of_reasoning hnext).1, hsilent.single] at hmulti
        cases hmulti

/-- A plan that a round writes is the one made of a skill set. It is handed to the
    node that executes plans as it is, reads what the skill declares and nothing
    else, and is run to its last step, which waits for all others. -/
theorem skill_plan_executed (env : RouterEnv) (x : RouterWorld) (request : RouterRequest)
    (update : RouteUpdate) (h : (intentRouter env x request).1 = .ok update)
    (p : ExecutionPlan) (hplan : update.executionPlan = some p) (s : AgentState) (now : Nat)
    (executeStep : PlanStep → Results → Except String ToolResult) :
    ∃ set layers, update.skillSet = some set ∧
      (∃ result, Skills.buildPlan env.u env.casefold (planContext env request set) = .ok result ∧
        result.plan = some p) ∧
      nextNode s update = .planExecutor ∧
      (Plan.planExecutorNode env.lax now executeStep (some update.routeDecision)).executionPlan =
        some p ∧
      topologicalLayers p.steps = .ok layers ∧ LastWaits p (runLayers executeStep layers) ∧
      ∀ step ∈ p.steps,
        (if step.tool = .database then
          step.args.dbId ∈ (Skills.declaredDbTargets (planContext env request set)).map
            (Skills.idText env.u "db_id")
        else step.args.dbId = "") ∧
        ∀ kbId ∈ step.args.kbIds,
          kbId ∈ Skills.declaredKbIds env.u (planContext env request set) := by
  have hfinal : ∃ d, Finalized env request d update := by
    cases intentRouter_spec h with
    | simple d _ _ hfinal => exact ⟨d, hfinal⟩
    | unclear d _ _ hfinal => exact ⟨d, hfinal ▸ .kept _ rfl rfl rfl⟩
    | skill d _ _ _ hfinal _ => exact ⟨d, hfinal⟩
    | planned d _ p _ hfinal _ => exact ⟨p, hfinal⟩
  rcases hfinal with ⟨d, hfinal⟩
  cases hfinal with
  | kept hdecision htarget hnone => exact absurd (hplan.symm.trans hnone) (Option.some_ne_none p)
  | skill set hset htarget hplanned =>
      rw [hplan] at hplanned
      cases hplanned with
      | made hsilent hsource hcomplexity _ hdump result hresult hp =>
          rcases Skills.lastWaits_skillPlan executeStep hresult hp with ⟨hne, layers, hlayers, hlast⟩
          refine ⟨set, layers, hset, ⟨result, hresult, hp⟩,
            nextNode_of_planner hsource hcomplexity hsilent, ?_, hlayers, hlast, ?_⟩
          · rw [planExecutorNode_of_dump env.lax now executeStep hdump hne hlayers]
          · rcases Skills.exists_evidence env.u hresult hp with ⟨database, rag, graph, he, hsteps⟩
            rw [hsteps]
            exact he.sources env.u

end Main

section Sample

/-- Plans of orders. -/
def ordersFields : PlanFields :=
  { plainFields with
    data := fun s => {
      toDataSkill := s
      dbTargets := [[("target_id", .str "erp"), ("db_id", .str "erp_db")]]
      queryTemplates := [[("template_id", .str "orders"), ("target_id", .str "erp"),
        ("table_name", .str "orders")]] }
    data_eq := fun _ => rfl }

/-- A router with a skill for orders. -/
def ordersEnv : RouterEnv :=
  { plainEnv with
    registry := {
      skillsById := [("r", .report { skillId := "r", reportType := "orders"
                                     intentKeywords := ["orders"] })]
      dataSkillIndex := [("r", { skillId := "d" })] }
    fields := ordersFields }

theorem plan_excludes_reasoning_orders :
    ∃ update, (intentRouter ordersEnv silentWorld { userQuestion := "ord-12 orders" }).1 =
      .ok update ∧ nextNode {} update = .planExecutor := by
  have hany : (intentRouter ordersEnv silentWorld { userQuestion := "ord-12 orders" }).1.toOption.any
      (fun update => decide (update.routeDecision.source = .planner)) = true := by decide +kernel
  rcases exists_of_any hany with ⟨update, hupdate, hsource⟩
  exact ⟨update, hupdate,
    (plan_excludes_reasoning ordersEnv silentWorld _ update hupdate {}).1
      (of_decide_eq_true hsource)⟩

theorem skill_plan_executed_orders :
    ∃ update p, (intentRouter ordersEnv silentWorld { userQuestion := "ord-12 orders" }).1 =
      .ok update ∧ update.executionPlan = some p ∧
        ∃ set layers, update.skillSet = some set ∧ nextNode {} update = .planExecutor ∧
          (Plan.planExecutorNode ordersEnv.lax 0 (fun _ _ => .error "")
            (some update.routeDecision)).executionPlan = some p ∧
          topologicalLayers p.steps = .ok layers ∧
          LastWaits p (runLayers (fun _ _ => .error "") layers) := by
  have hany : (intentRouter ordersEnv silentWorld { userQuestion := "ord-12 orders" }).1.toOption.any
      (fun update => update.executionPlan.isSome) = true := by decide +kernel
  rcases exists_of_any hany with ⟨update, hupdate, hsome⟩
  rcases Option.isSome_iff_exists.mp hsome with ⟨p, hp⟩
  rcases skill_plan_executed ordersEnv silentWorld _ update hupdate p hp {} 0
    (fun _ _ => .error "") with ⟨set, layers, hset, -, hnext, hrun, hlayers, hlast, -⟩
  exact ⟨update, p, hupdate, hp, set, layers, hset, hnext, hrun, hlayers, hlast⟩

end Sample

end RouterNode

end AgenticRag

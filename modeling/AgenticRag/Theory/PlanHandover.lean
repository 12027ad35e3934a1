import AgenticRag.Core.ToolDispatcher
import AgenticRag.Core.SkillPlanner
import AgenticRag.Theory.Scheduling

/-!
# From a Plan to its Execution

A plan goes from the router to the node that executes it through the metadata of
a decision, dumped and read again. What is read is what was dumped
(`readPlan_modelDump`), whatever the plan, so the node runs the plan that was
made.

A plan made from a skill is one the scheduler takes. Its steps for evidence wait
for nothing and the report waits for all of them, so it has two layers at most,
and the report is started with a result for each of the others
(`lastWaits_skillPlan`).

## Main definitions

* `LastWaits`: The last step of a run waits for all others.

## Theorems

* `planExecutorNode_of_dump`: The node runs the plan its decision holds.
* `dependsOn_evidenceSteps`: Steps for evidence wait for nothing.
* `lastWaits_skillPlan`: A skill's plan ends with its report.
-/

namespace AgenticRag

namespace Plan

open Py Ordered

section RoundTrip

variable (lax : Lax)

theorem strsField_strsVal (xs : List String) : strsField (strsVal xs) = .ok xs := by
  rw [strsVal, strsField]
  induction xs with
  | nil => rfl
  | cons x xs ih =>
      rw [List.map_cons, List.mapM_cons, ih]
      rfl

theorem fromDict_args_modelDump (a : StepArgs) : StepArgs.fromDict lax a.modelDump = .ok a := by
  -- Only the list is read element by element.
  show (strsField (strsVal a.kbIds)).bind (fun kbIds => Except.ok { a with kbIds := kbIds }) = .ok a
  rw [strsField_strsVal]
  rfl

theorem toolField_name (t : Tool) : toolField (.str t.name) = .ok t := by
  cases t <;> rfl

theorem fromDict_modelDump (s : PlanStep) : PlanStep.fromDict lax s.modelDump = .ok s := by
  show (StepArgs.fromDict lax s.args.modelDump).bind (fun args =>
    (toolField (.str s.tool.name)).bind (fun tool =>
      (strsField (strsVal s.dependsOn)).bind (fun dependsOn =>
        Except.ok { s with args := args, tool := tool, dependsOn := dependsOn }))) = .ok s
  rw [fromDict_args_modelDump, toolField_name, strsField_strsVal]
  rfl

theorem mapM_fromDict_modelDump (steps : List PlanStep) :
    (steps.map PlanStep.modelDump).mapM (PlanStep.fromDict lax) = .ok steps := by
  induction steps with
  | nil => rfl
  | cons s rest ih =>
      rw [List.map_cons, List.mapM_cons, fromDict_modelDump, ih]
      rfl

/-- Reading a dumped plan gives it back. -/
theorem readPlan_modelDump (now : Nat) (p : ExecutionPlan) :
    readPlan lax now p.modelDump = .ok p := by
  show ((p.steps.map PlanStep.modelDump).mapM (PlanStep.fromDict lax)).bind (fun steps =>
    Except.ok { p with steps := steps }) = .ok p
  rw [mapM_fromDict_modelDump]
  rfl

end RoundTrip

section FanIn

variable {steps : List PlanStep} {last : PlanStep}

theorem ready_of_dependsOn_nil {s : PlanStep} (h : s.dependsOn = []) (completed : List String) :
    ready completed s = true := by
  rw [ready, h]
  rfl

/-- A step that waits for some others is not ready with them. -/
theorem not_ready_of_dependsOn (hne : steps ≠ [])
    (hlast : last.dependsOn = steps.map PlanStep.stepId) : ready [] last = false := by
  rw [ready, hlast, List.all_eq_false]
  rcases List.exists_mem_of_ne_nil steps hne with ⟨s, hs⟩
  exact ⟨s.stepId, List.mem_map_of_mem hs, Bool.false_ne_true⟩

theorem ready_of_completed (hlast : last.dependsOn = steps.map PlanStep.stepId) :
    ready (steps.map PlanStep.stepId) last = true := by
  rw [ready, hlast, List.all_eq_true]
  exact fun dep hdep => List.contains_iff_mem.mpr hdep

/-- The layers of a single step that is ready. -/
theorem layersFrom_singleton {completed : List String} (hready : ready completed last = true) :
    layersFrom completed [last] = .ok [[last]] := by
  have hcurrent : currentLayer completed [last] = [last] :=
    List.filter_eq_self.mpr (fun s hs => List.mem_singleton.mp hs ▸ hready)
  have hwaiting : waiting completed [last] = [] :=
    List.filter_eq_nil_iff.mpr (fun s hs => by rw [List.mem_singleton.mp hs, hready]; decide)
  rw [layersFrom, if_neg (List.cons_ne_nil _ _), hcurrent, if_neg (List.cons_ne_nil _ _), hwaiting,
    layersFrom, if_pos rfl]
  rfl

/-- Steps that wait for nothing are a layer, and what waits for all of them is the
    next. -/
theorem topologicalLayers_fanIn (hne : steps ≠ []) (hfree : ∀ s ∈ steps, s.dependsOn = [])
    (hlast : last.dependsOn = steps.map PlanStep.stepId) :
    topologicalLayers (steps ++ [last]) = .ok [steps, [last]] := by
  have hnot := not_ready_of_dependsOn hne hlast
  have hcurrent : currentLayer [] (steps ++ [last]) = steps := by
    rw [currentLayer, List.filter_append, List.filter_eq_self.mpr
      (fun s hs => ready_of_dependsOn_nil (hfree s hs) []), List.filter_cons_of_neg
        (by rw [hnot]; decide), List.filter_nil, List.append_nil]
  have hwaiting : waiting [] (steps ++ [last]) = [last] := by
    rw [waiting, List.filter_append, List.filter_eq_nil_iff.mpr
      (fun s hs => by rw [ready_of_dependsOn_nil (hfree s hs)]; decide), List.nil_append,
      List.filter_cons_of_pos (by rw [hnot]; decide), List.filter_nil]
  rw [topologicalLayers, layersFrom, if_neg (by simp), hcurrent, if_neg hne, hwaiting,
    List.nil_append, layersFrom_singleton (ready_of_completed hlast)]
  rfl

/-- The last step of a plan is started with a result of every other, and the
    others with none. -/
def LastWaits (p : ExecutionPlan) (e : Execution) : Prop :=
  ∃ others last previous, p.steps = others ++ [last] ∧
    e.starts = others.map (fun s => (s, [])) ++ [(last, previous)] ∧
    ∀ s ∈ others, s.stepId ∈ previous.map Prod.fst

theorem lastWaits_of_fanIn (executeStep : PlanStep → Results → Except String ToolResult)
    {p : ExecutionPlan} (hsteps : p.steps = steps ++ [last])
    (hfree : ∀ s ∈ steps, s.dependsOn = [])
    (hlast : last.dependsOn = steps.map PlanStep.stepId) :
    ∃ layers, topologicalLayers p.steps = .ok layers ∧
      LastWaits p (runLayers executeStep layers) := by
  by_cases hne : steps = []
  · subst hne
    refine ⟨[[last]], ?_, [], last, [], hsteps, rfl, fun s hs => absurd hs List.not_mem_nil⟩
    rw [hsteps]
    exact layersFrom_singleton (ready_of_dependsOn_nil hlast [])
  · refine ⟨[steps, [last]], by rw [hsteps]; exact topologicalLayers_fanIn hne hfree hlast,
      steps, last, (runLayer executeStep {} steps).results, hsteps, rfl, ?_⟩
    intro s hs
    rw [runLayer_results, mem_keys_dictUpdate, keys_layer]
    exact .inr (List.mem_map_of_mem hs)

end FanIn

section Node

variable (lax : Lax) (now : Nat) (executeStep : PlanStep → Results → Except String ToolResult)

/-- The node runs the plan that its decision holds. -/
theorem planExecutorNode_of_dump {d : RouteDecision} {p : ExecutionPlan}
    {layers : List (List PlanStep)} (hdump : pyGet d.metadata "plan" .none = p.modelDump)
    (hne : p.steps ≠ []) (hlayers : topologicalLayers p.steps = .ok layers) :
    planExecutorNode lax now executeStep (some d) =
      { toolResults := (runLayers executeStep layers).results.map Prod.snd
        executionPlan := some p
        status := if ((runLayers executeStep layers).results.map Prod.snd).all succeeded
          then "completed" else "partial" } := by
  have htruthy : p.modelDump.truthy = true := rfl
  rw [planExecutorNode, hdump, if_neg (by rw [htruthy]; decide), readPlan_modelDump]
  dsimp only
  rw [if_neg (by rwa [List.isEmpty_iff]), execute_eq hlayers]

end Node

end Plan

namespace Skills

open Py Plan

section Evidence

variable {u : Unicode} {casefold : String → String} {context : SkillPlanContext}

theorem dependsOn_databaseStep {template target : Dict} {step : PlanStep}
    (h : buildDatabaseStep u context template target = .ok step) : step.dependsOn = [] := by
  rcases exists_of_bind_ok h with ⟨_, -, h⟩
  rcases exists_of_bind_ok h with ⟨_, -, h⟩
  rcases exists_of_bind_ok h with ⟨_, -, h⟩
  cases h
  rfl

theorem dependsOn_databaseSteps {dataSkill : PlannedDataSkill} {templates : List Dict}
    {steps : List PlanStep} (h : databaseStepsOf u context dataSkill templates = .ok steps) :
    ∀ s ∈ steps, s.dependsOn = [] := by
  induction templates generalizing steps with
  | nil =>
      cases h
      exact fun s hs => absurd hs List.not_mem_nil
  | cons template rest ih =>
      rcases exists_of_bind_ok h with ⟨target, -, h⟩
      cases target with
      | none => exact ih h
      | some target =>
          rcases exists_of_bind_ok h with ⟨step, hstep, h⟩
          rcases exists_of_bind_ok h with ⟨others, hothers, h⟩
          cases h
          exact List.forall_mem_cons.mpr ⟨dependsOn_databaseStep hstep, ih hothers⟩

theorem dependsOn_ragStep {target : Dict} {targetId : String} {queries : List String}
    {step : PlanStep} (h : buildRagStep u context target targetId queries = .ok step) :
    step.dependsOn = [] := by
  rcases exists_of_bind_ok h with ⟨_, -, h⟩
  rcases exists_of_bind_ok h with ⟨_, -, h⟩
  rcases exists_of_bind_ok h with ⟨_, -, h⟩
  cases h
  rfl

theorem dependsOn_ragSteps {optionalContext : List Val} {targets : List Dict}
    {steps : List PlanStep} (h : ragStepsOf u context optionalContext targets = .ok steps) :
    ∀ s ∈ steps, s.dependsOn = [] := by
  induction targets generalizing steps with
  | nil =>
      cases h
      exact fun s hs => absurd hs List.not_mem_nil
  | cons target rest ih =>
      rcases exists_of_bind_ok h with ⟨targetId, -, h⟩
      rcases exists_of_bind_ok h with ⟨queries, -, h⟩
      split_ifs at h
      · exact ih h
      · rcases exists_of_bind_ok h with ⟨step, hstep, h⟩
        rcases exists_of_bind_ok h with ⟨others, hothers, h⟩
        cases h
        exact List.forall_mem_cons.mpr ⟨dependsOn_ragStep hstep, ih hothers⟩

theorem dependsOn_graphSteps {steps : List PlanStep}
    (h : buildGraphSteps u casefold context = .ok steps) : ∀ s ∈ steps, s.dependsOn = [] := by
  rcases exists_of_bind_ok h with ⟨required, -, h⟩
  split_ifs at h
  · rcases exists_of_bind_ok h with ⟨_, -, h⟩
    rcases exists_of_bind_ok h with ⟨_, -, h⟩
    rcases exists_of_bind_ok h with ⟨_, -, h⟩
    rcases exists_of_bind_ok h with ⟨_, -, h⟩
    cases h
    exact fun s hs => by rw [List.mem_singleton.mp hs]
  · cases h
    exact fun s hs => absurd hs List.not_mem_nil

/-- Steps for evidence wait for nothing. -/
theorem dependsOn_evidenceSteps {steps : List PlanStep}
    (h : evidenceSteps u casefold context = .ok steps) : ∀ s ∈ steps, s.dependsOn = [] := by
  rcases exists_of_bind_ok h with ⟨database, hdatabase, h⟩
  rcases exists_of_bind_ok h with ⟨rag, hrag, h⟩
  rcases exists_of_bind_ok h with ⟨graph, hgraph, h⟩
  cases h
  have hdatabase : ∀ s ∈ database, s.dependsOn = [] := by
    rw [buildDatabaseSteps] at hdatabase
    cases hskill : context.skillSet.dataSkill with
    | none =>
        rw [hskill] at hdatabase
        cases hdatabase
        exact fun s hs => absurd hs List.not_mem_nil
    | some dataSkill =>
        rw [hskill] at hdatabase
        exact dependsOn_databaseSteps hdatabase
  have hrag : ∀ s ∈ rag, s.dependsOn = [] := by
    rw [buildRagSteps] at hrag
    cases hskill : context.skillSet.retrievalSkill with
    | none =>
        rw [hskill] at hrag
        cases hrag
        exact fun s hs => absurd hs List.not_mem_nil
    | some retrievalSkill =>
        rw [hskill] at hrag
        rcases exists_of_bind_ok hrag with ⟨_, -, hrag⟩
        exact dependsOn_ragSteps hrag
  intro s hs
  rcases List.mem_append.mp hs with hs | hs
  · exact (List.mem_append.mp hs).elim (hdatabase s) (hrag s)
  · exact dependsOn_graphSteps hgraph s hs

/-- A skill's plan is one the scheduler takes, with the report at the end. -/
theorem lastWaits_skillPlan (executeStep : PlanStep → Results → Except String ToolResult)
    {result : SkillPlanResult} {p : ExecutionPlan}
    (h : buildPlan u casefold context = .ok result) (hplan : result.plan = some p) :
    p.steps ≠ [] ∧ ∃ layers, topologicalLayers p.steps = .ok layers ∧
      LastWaits p (runLayers executeStep layers) := by
  rcases exists_of_bind_ok h with ⟨missing, -, h⟩
  split_ifs at h
  · cases h
    cases hplan
  · rcases exists_of_bind_ok h with ⟨steps, hsteps, h⟩
    cases h
    cases hplan
    exact ⟨List.append_ne_nil_of_right_ne_nil _ (List.cons_ne_nil _ _),
      lastWaits_of_fanIn executeStep rfl (dependsOn_evidenceSteps hsteps) rfl⟩

end Evidence

end Skills

end AgenticRag

import AgenticRag.Core.DagScheduler

/-!
# One Result for Every Step

What the scheduler does with a plan it accepts. Every step is started once,
after the results of its dependencies are there, whatever the plan looks like
(`started_runLayers`). A step that raises is recorded as failed, and the others
go on.

The results are kept under ids the model has chosen. Where two steps share an
id, or both have none, the result of one replaces that of the other
(`shared_id_loses_result`). Every step has its own result exactly if the ids of
the plan are distinct (`one_result_each_iff`).

## Main definitions

* `Started`, `Recorded`: The invariants.
* `OneEach`: What should hold of a run of a plan.

## Theorems

* `layers_induction`: What the layers of a plan keep.
* `started_runLayer`, `recorded_runLayer`: Running a layer keeps the invariants.
* `one_result_each_iff`: When every step has its own result.
-/

namespace AgenticRag

namespace Plan

open Py Ordered

variable {executeStep : PlanStep → Results → Except String ToolResult}

section Layers

/-- What holds of the steps that remain, and is kept by running a layer of
    them, holds once all the layers of a plan have run. -/
theorem layers_induction {I : List String → List PlanStep → Execution → Prop}
    (hkeep : ∀ completed remaining e, I completed remaining e →
      I (completed ++ (currentLayer completed remaining).map PlanStep.stepId)
        (waiting completed remaining)
        (runLayer executeStep e (currentLayer completed remaining)))
    {completed : List String} {remaining : List PlanStep} {layers : List (List PlanStep)}
    (h : layersFrom completed remaining = .ok layers) {e : Execution}
    (hstart : I completed remaining e) :
    ∃ completed', I completed' [] (layers.foldl (runLayer executeStep) e) := by
  -- The layers come out in the order in which they are run.
  induction completed, remaining using layersFrom.induct generalizing layers e with
  | case1 completed =>
      rw [layersFrom, if_pos rfl] at h
      cases h
      exact ⟨completed, hstart⟩
  | case2 completed remaining hne hstuck =>
      rw [layersFrom, if_neg hne, if_pos hstuck] at h
      cases h
  | case3 completed remaining hne hsome ih =>
      rw [layersFrom, if_neg hne, if_neg hsome] at h
      rcases exists_of_bind_ok h with ⟨layers', hrest, heq⟩
      cases heq
      exact ih hrest (hkeep completed remaining e hstart)

/-- The steps of a layer and those that wait are the steps that remain. -/
theorem currentLayer_append_waiting (completed : List String) (remaining : List PlanStep) :
    (currentLayer completed remaining ++ waiting completed remaining).Perm remaining :=
  List.filter_append_perm _ remaining

/-- What a layer gives is an update of the results. -/
theorem runLayer_results (e : Execution) (layer : List PlanStep) :
    (runLayer executeStep e layer).results =
      dictUpdate e.results (layer.map (fun s => (s.stepId, outcome executeStep s e.results))) := by
  rw [dictUpdate, List.foldl_map]
  rfl

theorem keys_layer (e : Execution) (layer : List PlanStep) :
    (layer.map (fun s => (s.stepId, outcome executeStep s e.results))).map Prod.fst =
      layer.map PlanStep.stepId := by
  rw [List.map_map]
  rfl

end Layers

section Invariants

/-- What a run keeps to, whatever the ids: the steps started and those that
    remain are those of the plan, each after its dependencies, and the ids that
    have a result are those of the steps started, each once. -/
structure Started (steps : List PlanStep) (completed : List String)
    (remaining : List PlanStep) (e : Execution) : Prop where
  perm : (e.starts.map Prod.fst ++ remaining).Perm steps
  after : ∀ start ∈ e.starts, ∀ dep ∈ start.1.dependsOn, dep ∈ start.2.map Prod.fst
  keys : ∀ id, id ∈ e.results.map Prod.fst ↔ id ∈ e.starts.map (fun start => start.1.stepId)
  nodup : (e.results.map Prod.fst).Nodup
  complete : ∀ id ∈ completed, id ∈ e.results.map Prod.fst

theorem started_runLayer {steps : List PlanStep} (completed : List String)
    (remaining : List PlanStep) (e : Execution) (h : Started steps completed remaining e) :
    Started steps (completed ++ (currentLayer completed remaining).map PlanStep.stepId)
      (waiting completed remaining)
      (runLayer executeStep e (currentLayer completed remaining)) where
  perm := by
    rw [runLayer, List.map_append, List.map_map, List.append_assoc]
    refine List.Perm.trans (List.Perm.append_left _ ?_) h.perm
    -- Each step of the layer is started once.
    rw [show (Prod.fst ∘ fun s : PlanStep => (s, e.results)) = id from rfl, List.map_id]
    exact currentLayer_append_waiting completed remaining
  after := by
    intro start hstart dep hdep
    rw [runLayer, List.mem_append] at hstart
    rcases hstart with hold | hnew
    · exact h.after start hold dep hdep
    · -- A step of the layer is ready, so its dependencies have a result.
      rcases List.mem_map.mp hnew with ⟨s, hs, rfl⟩
      have hready := (List.mem_filter.mp hs).2
      exact h.complete dep (List.contains_iff_mem.mp (List.all_eq_true.mp hready dep hdep))
  keys := by
    intro id
    rw [runLayer_results, mem_keys_dictUpdate, keys_layer, h.keys, runLayer, List.map_append,
      List.mem_append, List.map_map]
    rfl
  nodup := by
    rw [runLayer_results]
    exact keys_dictUpdate_nodup _ h.nodup
  complete := by
    intro id hid
    rw [runLayer_results, mem_keys_dictUpdate, keys_layer]
    rcases List.mem_append.mp hid with hold | hnew
    · exact .inl (h.complete id hold)
    · exact .inr hnew

/-- What is recorded for a start. -/
def recorded (executeStep : PlanStep → Results → Except String ToolResult)
    (start : PlanStep × Results) : String × ToolResult :=
  (start.1.stepId, outcome executeStep start.1 start.2)

/-- With distinct ids, every start has its own result. -/
structure Recorded (executeStep : PlanStep → Results → Except String ToolResult)
    (_completed : List String) (remaining : List PlanStep) (e : Execution) : Prop where
  results_eq : e.results = e.starts.map (recorded executeStep)
  distinct : (e.results.map Prod.fst ++ remaining.map PlanStep.stepId).Nodup

theorem recorded_runLayer (completed : List String) (remaining : List PlanStep) (e : Execution)
    (h : Recorded executeStep completed remaining e) :
    Recorded executeStep (completed ++ (currentLayer completed remaining).map PlanStep.stepId)
      (waiting completed remaining)
      (runLayer executeStep e (currentLayer completed remaining)) := by
  -- The steps that remain are those of the layer and those that wait.
  have hsplit : (e.results.map Prod.fst ++ (currentLayer completed remaining).map PlanStep.stepId ++
      (waiting completed remaining).map PlanStep.stepId).Nodup := by
    rw [List.append_assoc, ← List.map_append]
    refine (List.Perm.nodup_iff (List.Perm.append_left _ ?_)).mpr h.distinct
    exact (currentLayer_append_waiting completed remaining).map PlanStep.stepId
  have hresults := dictUpdate_of_nodup (d := e.results)
    (e := (currentLayer completed remaining).map
      (fun s => (s.stepId, outcome executeStep s e.results)))
    (by rw [keys_layer]; exact (List.nodup_append.mp hsplit).1)
  refine ⟨?_, ?_⟩
  · rw [runLayer_results, hresults, runLayer, List.map_append, List.map_map, ← h.results_eq]
    rfl
  · rw [runLayer_results, hresults, List.map_append, keys_layer]
    exact hsplit

end Invariants

section Main

/-- What should hold of a run of a plan: every step is started once, after the
    results of its dependencies are there, and what is returned is one result
    for each, the one it gave or that it failed. -/
structure OneEach (executeStep : PlanStep → Results → Except String ToolResult)
    (p : ExecutionPlan) (e : Execution) : Prop where
  started_once : (e.starts.map Prod.fst).Perm p.steps
  started_after : ∀ start ∈ e.starts, ∀ dep ∈ start.1.dependsOn, dep ∈ start.2.map Prod.fst
  one_result : execute executeStep p =
    .ok (e.starts.map (fun start => outcome executeStep start.1 start.2))

/-- The invariant holds once all the layers of an accepted plan have run. -/
theorem started_runLayers {steps : List PlanStep} {layers : List (List PlanStep)}
    (h : topologicalLayers steps = .ok layers) :
    ∃ completed, Started steps completed [] (runLayers executeStep layers) := by
  refine layers_induction (I := Started steps) started_runLayer h ?_
  exact ⟨List.Perm.refl _, by simp, by simp, List.nodup_nil, by simp⟩

theorem execute_eq {p : ExecutionPlan} {layers : List (List PlanStep)}
    (h : topologicalLayers p.steps = .ok layers) :
    execute executeStep p = .ok ((runLayers executeStep layers).results.map Prod.snd) := by
  rw [execute, h]
  rfl

/-- Every step of an accepted plan has its own result exactly if the ids of its
    steps are distinct. -/
theorem one_result_each_iff (executeStep : PlanStep → Results → Except String ToolResult)
    (p : ExecutionPlan) (layers : List (List PlanStep))
    (h : topologicalLayers p.steps = .ok layers) :
    OneEach executeStep p (runLayers executeStep layers) ↔
      (p.steps.map PlanStep.stepId).Nodup := by
  have hinv : ∃ completed, Started p.steps completed [] (runLayers executeStep layers) :=
    started_runLayers h
  rcases hinv with ⟨completed, hstarted⟩
  have hperm : ((runLayers executeStep layers).starts.map Prod.fst).Perm p.steps := by
    have hp := hstarted.perm
    rwa [List.append_nil] at hp
  constructor
  · intro hone
    -- The ids of the results are distinct and as many as there are steps.
    have hids : (runLayers executeStep layers).results.map Prod.fst ⊆
        p.steps.map PlanStep.stepId := by
      intro id hid
      rw [hstarted.keys] at hid
      rw [← (hperm.map PlanStep.stepId).mem_iff, List.map_map]
      exact hid
    have hlen : p.steps.length ≤ (runLayers executeStep layers).results.length := by
      have hreturned := (execute_eq h).symm.trans hone.one_result
      have hlengths := congrArg List.length (Except.ok.inj hreturned)
      simp only [List.length_map] at hlengths
      rw [hlengths, ← hperm.length_eq, List.length_map]
    have hsub := hstarted.nodup.subperm hids
    refine (hsub.perm_of_length_le ?_).nodup_iff.mp hstarted.nodup
    simpa only [List.length_map] using hlen
  · intro hdistinct
    have hrec : ∃ completed', Recorded executeStep completed' [] (runLayers executeStep layers) :=
      layers_induction (I := Recorded executeStep) recorded_runLayer h ⟨rfl, hdistinct⟩
    rcases hrec with ⟨completed', hrec⟩
    refine ⟨hperm, hstarted.after, ?_⟩
    rw [execute_eq h, hrec.results_eq, List.map_map]
    rfl

/-- Two steps, of which one waits for the other and the other raises. -/
theorem one_result_each_iff_chained :
    topologicalLayers [{ stepId := "a", tool := .database },
        { stepId := "b", tool := .rag, dependsOn := ["a"] }] =
      .ok [[{ stepId := "a", tool := .database }],
        [{ stepId := "b", tool := .rag, dependsOn := ["a"] }]] ∧
    (OneEach (fun s _ => if s.tool = .database then .error "timeout" else .ok [])
        { planId := "p", steps := [{ stepId := "a", tool := .database },
          { stepId := "b", tool := .rag, dependsOn := ["a"] }] }
        (runLayers (fun s _ => if s.tool = .database then .error "timeout" else .ok [])
          [[{ stepId := "a", tool := .database }],
            [{ stepId := "b", tool := .rag, dependsOn := ["a"] }]]) ↔
      (["a", "b"] : List String).Nodup) := by
  have hlayers : topologicalLayers [{ stepId := "a", tool := .database },
      { stepId := "b", tool := .rag, dependsOn := ["a"] }] =
        .ok [[{ stepId := "a", tool := .database }],
          [{ stepId := "b", tool := .rag, dependsOn := ["a"] }]] := by
    simp [topologicalLayers, layersFrom, currentLayer, waiting, ready]
  exact ⟨hlayers, one_result_each_iff _ { planId := "p", steps := _ } _ hlayers⟩

/-- Two steps without an id, which both succeed, have one result. -/
theorem shared_id_loses_result :
    topologicalLayers [{ stepId := "", tool := .database }, { stepId := "", tool := .rag }] =
      .ok [[{ stepId := "", tool := .database }, { stepId := "", tool := .rag }]] ∧
    ¬ OneEach (fun s _ => .ok [("tool", .str s.tool.name)])
        { planId := "p",
          steps := [{ stepId := "", tool := .database }, { stepId := "", tool := .rag }] }
        (runLayers (fun s _ => .ok [("tool", .str s.tool.name)])
          [[{ stepId := "", tool := .database }, { stepId := "", tool := .rag }]]) := by
  have hlayers : topologicalLayers
      [{ stepId := "", tool := .database }, { stepId := "", tool := .rag }] =
        .ok [[{ stepId := "", tool := .database }, { stepId := "", tool := .rag }]] := by
    simp [topologicalLayers, layersFrom, currentLayer, waiting, ready]
  refine ⟨hlayers, fun h => ?_⟩
  have hreturned := (execute_eq (p := { planId := "p", steps := _ }) hlayers).symm.trans
    h.one_result
  exact absurd (congrArg List.length (Except.ok.inj hreturned)) (by decide)

end Main

end Plan

end AgenticRag

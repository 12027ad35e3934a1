import AgenticRag.Core.Plan

/-!
# The Scheduler of a Plan

A plan is run in layers. A layer holds the steps whose dependencies are all
complete, which run at the same time. The next layer starts when all of them
have ended. A plan with steps that never become ready is refused.

The results are kept under the ids of the steps. The steps of a layer are all
started with the results of the layers before, and what they give is entered in
the order of the layer, whichever of them ends first. What a step gives, or the
exception it raises, is a parameter.

`Execution` also keeps the steps that were started, each with the results there
were at that time. The scheduler does not read it.

## Main definitions

* `topologicalLayers`: The layers of a plan.
* `execute`: What the scheduler returns.
-/

namespace AgenticRag

namespace Plan

open Py Ordered

/-- The result of a tool, as a mapping. -/
abbrev ToolResult := Dict

/-- The results so far, under the ids of their steps. -/
abbrev Results := List (String × ToolResult)

section Layers

/-- All dependencies of a step are complete. -/
def ready (completed : List String) (s : PlanStep) : Bool :=
  s.dependsOn.all (fun dep => completed.contains dep)

/-- The steps that can run now. -/
def currentLayer (completed : List String) (remaining : List PlanStep) : List PlanStep :=
  remaining.filter (ready completed)

/-- The steps that have to wait. The others are removed by value, and equal
    steps are ready at the same time. -/
def waiting (completed : List String) (remaining : List PlanStep) : List PlanStep :=
  remaining.filter (fun s => !ready completed s)

theorem length_waiting_lt {completed : List String} {remaining : List PlanStep}
    (h : currentLayer completed remaining ≠ []) :
    (waiting completed remaining).length < remaining.length := by
  rcases List.exists_mem_of_ne_nil _ h with ⟨s, hs⟩
  rw [currentLayer, List.mem_filter] at hs
  exact List.length_filter_lt_length_iff_exists.mpr ⟨s, hs.1, by simp [hs.2]⟩

/-- The layers of the steps that are left. -/
def layersFrom (completed : List String) (remaining : List PlanStep) :
    Except Exc (List (List PlanStep)) :=
  if remaining = [] then .ok []
  -- Steps that are left wait for each other, or for steps that are not there.
  else if currentLayer completed remaining = [] then .error .valueError
  else do
    let layers ← layersFrom (completed ++ (currentLayer completed remaining).map PlanStep.stepId)
      (waiting completed remaining)
    return currentLayer completed remaining :: layers
termination_by remaining.length
decreasing_by exact length_waiting_lt ‹_›

/-- The layers of a plan. -/
def topologicalLayers (steps : List PlanStep) : Except Exc (List (List PlanStep)) :=
  layersFrom [] steps

end Layers

section Execution

variable (executeStep : PlanStep → Results → Except String ToolResult)

/-- What is recorded for a step: its result, or that it failed. -/
def outcome (s : PlanStep) (previous : Results) : ToolResult :=
  match executeStep s previous with
  | .ok result => result
  | .error message =>
      [("step_id", .str s.stepId), ("tool", .str s.tool.name), ("success", .bool false),
        ("error", .str message)]

/-- The results of a run, and the steps it started. -/
structure Execution where
  results : Results := []
  starts : List (PlanStep × Results) := []

/-- The steps of a layer, run side by side. -/
def runLayer (e : Execution) (layer : List PlanStep) : Execution :=
  -- A step with the id of an earlier one takes the place of its result.
  { results := layer.foldl
      (fun results s => dictSet s.stepId (outcome executeStep s e.results) results) e.results
    starts := e.starts ++ layer.map (fun s => (s, e.results)) }

/-- The layers, run in turn. -/
def runLayers (layers : List (List PlanStep)) : Execution :=
  layers.foldl (runLayer executeStep) {}

/-- `DAGScheduler.execute`. -/
def execute (p : ExecutionPlan) : Except Exc (List ToolResult) := do
  let layers ← topologicalLayers p.steps
  return (runLayers executeStep layers).results.map Prod.snd

end Execution

end Plan

end AgenticRag

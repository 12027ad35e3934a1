import AgenticRag.Theory.Scheduling
import AgenticRag.Lib.Precedence

/-!
# The Layers of a Plan

Which plans the scheduler refuses, and which layer a step is in. A plan with
distinct ids is refused exactly if a step depends, over any number of steps, on
itself or on an id that is not in the plan (`Unresolvable`). In a plan that is
accepted the layer of a step is the length of the longest chain of dependencies
below it. No other order of layers has fewer of them, since each step of a
chain needs a layer of its own.

A round takes the steps whose dependencies are complete, and a step that is
left had to wait for one that was not. This is peeling as in `Precedence`
(`peels_layersFrom`). A plan gets stuck when every step that is left waits for
one that is not complete (`Stuck`). Among finitely many steps that leads to an
id that is not there, or around a cycle.

## Main definitions

* `DependsOn`: One dependency, between ids.
* `Stuck`: Where the scheduler gives up.

## Theorems

* `peels_layersFrom`: The rounds are a peeling.
* `stuck_of_error`: Where an error comes from.
* `topologicalLayers_exact`: When there are layers, and which.
-/

namespace AgenticRag

namespace Plan

open Py Precedence

section Dependencies

/-- The step with the first id depends on the second. -/
def DependsOn (steps : List PlanStep) (id dep : String) : Prop :=
  ∃ s ∈ steps, s.stepId = id ∧ dep ∈ s.dependsOn

/-- A step that depends on itself, or on an id that is not in the plan,
    directly or over other steps. -/
def Unresolvable (steps : List PlanStep) (s : PlanStep) : Prop :=
  Relation.TransGen (DependsOn steps) s.stepId s.stepId ∨
    ∃ dep, dep ∉ steps.map PlanStep.stepId ∧ Relation.TransGen (DependsOn steps) s.stepId dep

/-- Every step is in the layers once, after all it depends on. -/
structure InOrder (steps : List PlanStep) (layers : List (List PlanStep)) : Prop where
  once : layers.flatten.Perm steps
  after : ∀ (k : Nat) (layer : List PlanStep), layers[k]? = some layer → ∀ s ∈ layer,
    ∀ dep ∈ s.dependsOn, ∃ j < k, ∃ earlier : List PlanStep,
      layers[j]? = some earlier ∧ dep ∈ earlier.map PlanStep.stepId

/-- What the layers of a plan should be: in order, each step in the layer whose
    number is the length of the longest chain below it, and no more layers than
    in any other order. -/
structure Layered (steps : List PlanStep) (layers : List (List PlanStep)) : Prop where
  inOrder : InOrder steps layers
  height : ∀ (k : Nat) (layer : List PlanStep), layers[k]? = some layer →
    ∀ s ∈ layer, Height (DependsOn steps) s.stepId k
  fewest : ∀ other : List (List PlanStep), InOrder steps other → layers.length ≤ other.length

variable {steps : List PlanStep}

/-- With distinct ids, the dependencies of an id are those of its step. -/
theorem mem_dependsOn (hids : (steps.map PlanStep.stepId).Nodup) {s : PlanStep}
    (hs : s ∈ steps) {dep : String} (h : DependsOn steps s.stepId dep) : dep ∈ s.dependsOn := by
  rcases h with ⟨t, ht, hid, hdep⟩
  rwa [← List.inj_on_of_nodup_map hids ht hs hid]

end Dependencies

section Rounds

variable {steps : List PlanStep}

/-- The layers hold the steps they are made of, each once. -/
theorem flatten_layersFrom {completed : List String} {remaining : List PlanStep}
    {layers : List (List PlanStep)} (h : layersFrom completed remaining = .ok layers) :
    layers.flatten.Perm remaining := by
  induction completed, remaining using layersFrom.induct generalizing layers with
  | case1 completed =>
      rw [layersFrom, if_pos rfl] at h
      cases h
      exact List.Perm.refl _
  | case2 completed remaining hne hstuck =>
      rw [layersFrom, if_neg hne, if_pos hstuck] at h
      cases h
  | case3 completed remaining hne hsome ih =>
      rw [layersFrom, if_neg hne, if_neg hsome] at h
      rcases exists_of_bind_ok h with ⟨rest, hrest, heq⟩
      cases heq
      rw [List.flatten_cons]
      exact ((ih hrest).append_left _).trans (currentLayer_append_waiting completed remaining)

/-- A step that is not ready waits for one that is not complete. -/
theorem exists_of_not_ready {completed : List String} {s : PlanStep}
    (h : ready completed s = false) : ∃ dep ∈ s.dependsOn, dep ∉ completed := by
  rw [ready, List.all_eq_false] at h
  rcases h with ⟨dep, hdep, hnot⟩
  exact ⟨dep, hdep, fun hmem => hnot (List.contains_iff_mem.mpr hmem)⟩

/-- The rounds of the scheduler peel the ids. -/
theorem peels_layersFrom (hids : (steps.map PlanStep.stepId).Nodup) {completed : List String}
    {remaining : List PlanStep} (hsub : remaining ⊆ steps) {layers : List (List PlanStep)}
    (h : layersFrom completed remaining = .ok layers) :
    Peels (DependsOn steps) completed (layers.map (List.map PlanStep.stepId)) := by
  induction completed, remaining using layersFrom.induct generalizing layers with
  | case1 completed =>
      rw [layersFrom, if_pos rfl] at h
      cases h
      exact .nil completed
  | case2 completed remaining hne hstuck =>
      rw [layersFrom, if_neg hne, if_pos hstuck] at h
      cases h
  | case3 completed remaining hne hsome ih =>
      rw [layersFrom, if_neg hne, if_neg hsome] at h
      rcases exists_of_bind_ok h with ⟨rest, hrest, heq⟩
      cases heq
      have hwaiting : waiting completed remaining ⊆ steps :=
        fun s hs => hsub (List.mem_filter.mp hs).1
      refine .cons ?_ ?_ (ih hwaiting hrest)
      · intro id hid dep hdep
        rcases List.mem_map.mp hid with ⟨s, hs, rfl⟩
        have hready := (List.mem_filter.mp hs).2
        have hmem := mem_dependsOn hids (hsub (List.mem_filter.mp hs).1) hdep
        exact List.contains_iff_mem.mp (List.all_eq_true.mp hready dep hmem)
      · -- What comes later had to wait in this round.
        intro id hid
        rw [← List.map_flatten] at hid
        rcases List.mem_map.mp hid with ⟨s, hs, rfl⟩
        have hs' := List.mem_filter.mp ((flatten_layersFrom hrest).mem_iff.mp hs)
        rcases exists_of_not_ready (by simpa using hs'.2) with ⟨dep, hdep, hnot⟩
        exact ⟨dep, ⟨s, hsub hs'.1, rfl, hdep⟩, hnot⟩

/-- Where the scheduler gives up: steps are left, and each depends on one that
    is not complete. -/
structure Stuck (steps : List PlanStep) (completed : List String)
    (remaining : List PlanStep) : Prop where
  some_left : remaining ≠ []
  left : remaining ⊆ steps
  waits : ∀ s ∈ remaining, ∃ dep ∈ s.dependsOn, dep ∉ completed
  complete_or_left : ∀ s ∈ steps, s.stepId ∈ completed ∨ s ∈ remaining

theorem stuck_of_error {completed : List String} {remaining : List PlanStep} {e : Exc}
    (hsub : remaining ⊆ steps) (hall : ∀ s ∈ steps, s.stepId ∈ completed ∨ s ∈ remaining)
    (h : layersFrom completed remaining = .error e) :
    e = .valueError ∧ ∃ completed' remaining', Stuck steps completed' remaining' := by
  induction completed, remaining using layersFrom.induct with
  | case1 completed =>
      rw [layersFrom, if_pos rfl] at h
      cases h
  | case2 completed remaining hne hstuck =>
      rw [layersFrom, if_neg hne, if_pos hstuck] at h
      cases h
      refine ⟨rfl, completed, remaining, hne, hsub, fun s hs => ?_, hall⟩
      have hnot := List.filter_eq_nil_iff.mp hstuck s hs
      exact exists_of_not_ready (Bool.eq_false_iff.mpr hnot)
  | case3 completed remaining hne hsome ih =>
      rw [layersFrom, if_neg hne, if_neg hsome] at h
      cases hrest : layersFrom
          (completed ++ (currentLayer completed remaining).map PlanStep.stepId)
          (waiting completed remaining) with
      | ok rest =>
          rw [hrest] at h
          cases h
      | error e' =>
          rw [hrest] at h
          cases h
          refine ih (fun s hs => hsub (List.mem_filter.mp hs).1) ?_ hrest
          intro s hs
          rcases hall s hs with hold | hleft
          · exact .inl (List.mem_append_left _ hold)
          · have hparts := (currentLayer_append_waiting completed remaining).mem_iff.mpr hleft
            rcases List.mem_append.mp hparts with hnow | hwait
            · exact .inl (List.mem_append_right _ (List.mem_map_of_mem hnow))
            · exact .inr hwait

/-- A plan that is stuck has a step that can never run. -/
theorem unresolvable_of_stuck {completed : List String} {remaining : List PlanStep}
    (h : Stuck steps completed remaining) : ∃ s ∈ steps, Unresolvable steps s := by
  by_cases hmissing : ∃ s ∈ remaining, ∃ dep ∈ s.dependsOn, dep ∉ steps.map PlanStep.stepId
  · rcases hmissing with ⟨s, hs, dep, hdep, hnot⟩
    exact ⟨s, h.left hs, .inr ⟨dep, hnot, .single ⟨s, h.left hs, rfl, hdep⟩⟩⟩
  · -- Otherwise every step that is left waits for another one that is left.
    have hneeds : ∀ id ∈ remaining.map PlanStep.stepId,
        ∃ dep ∈ remaining.map PlanStep.stepId, DependsOn steps id dep := by
      intro id hid
      rcases List.mem_map.mp hid with ⟨s, hs, rfl⟩
      rcases h.waits s hs with ⟨dep, hdep, hnot⟩
      have hthere : dep ∈ steps.map PlanStep.stepId := by
        by_contra hgone
        exact hmissing ⟨s, hs, dep, hdep, hgone⟩
      rcases List.mem_map.mp hthere with ⟨t, ht, rfl⟩
      have hleft := (h.complete_or_left t ht).resolve_left hnot
      exact ⟨t.stepId, List.mem_map_of_mem hleft, s, h.left hs, rfl, hdep⟩
    rcases List.exists_mem_of_ne_nil _ h.some_left with ⟨s, hs⟩
    rcases exists_cycle hneeds (List.mem_map_of_mem hs) with ⟨id, -, hcycle⟩
    -- The cycle is one of ids of steps, as each of them depends on something.
    rcases Relation.TransGen.head'_iff.mp hcycle with ⟨_, ⟨t, ht, hid, _⟩, _⟩
    refine ⟨t, ht, .inl ?_⟩
    rwa [hid]

end Rounds

section Main

variable {steps : List PlanStep} {layers : List (List PlanStep)}

theorem peels_topologicalLayers (hids : (steps.map PlanStep.stepId).Nodup)
    (h : topologicalLayers steps = .ok layers) :
    Peels (DependsOn steps) [] (layers.map (List.map PlanStep.stepId)) :=
  peels_layersFrom hids (List.Subset.refl steps) h

theorem inOrder_topologicalLayers (hids : (steps.map PlanStep.stepId).Nodup)
    (h : topologicalLayers steps = .ok layers) : InOrder steps layers where
  once := flatten_layersFrom h
  after := by
    intro k layer hk s hs dep hdep
    have hsteps : s ∈ steps :=
      (flatten_layersFrom h).mem_iff.mp
        (List.mem_flatten.mpr ⟨layer, List.mem_of_getElem? hk, hs⟩)
    have hget : (layers.map (List.map PlanStep.stepId))[k]? =
        some (layer.map PlanStep.stepId) := by
      rw [List.getElem?_map, hk]
      rfl
    rcases earlier_of_peels (peels_topologicalLayers hids h) hget (List.mem_map_of_mem hs)
        ⟨s, hsteps, rfl, hdep⟩ with hnone | ⟨j, hj, ids, hids', hmem⟩
    · cases hnone
    · rw [List.getElem?_map, Option.map_eq_some_iff] at hids'
      rcases hids' with ⟨earlier, hearlier, rfl⟩
      exact ⟨j, hj, earlier, hearlier, hmem⟩

/-- In any order a step has at least as many layers before it as there are steps
    in a chain below it. -/
theorem chain_le_of_inOrder (hids : (steps.map PlanStep.stepId).Nodup)
    {other : List (List PlanStep)} (hother : InOrder steps other) {k : Nat}
    {layer : List PlanStep} (hk : other[k]? = some layer) {s : PlanStep} (hs : s ∈ layer) {n : Nat}
    (h : ChainBelow (DependsOn steps) s.stepId n) : n ≤ k := by
  refine chainBelow_le_of_rank (fun id (k : Nat) => ∃ layer : List PlanStep,
    other[k]? = some layer ∧ id ∈ layer.map PlanStep.stepId) ?_ h
    ⟨layer, hk, List.mem_map_of_mem hs⟩
  rintro id k ⟨layer, hk, hid⟩ dep hdep
  rcases List.mem_map.mp hid with ⟨t, ht, rfl⟩
  have hsteps : t ∈ steps :=
    hother.once.mem_iff.mp (List.mem_flatten.mpr ⟨layer, List.mem_of_getElem? hk, ht⟩)
  exact hother.after k layer hk t ht dep (mem_dependsOn hids hsteps hdep)

/-- No layer is empty. -/
theorem layer_ne_nil {completed : List String} {remaining : List PlanStep}
    (h : layersFrom completed remaining = .ok layers) : ∀ layer ∈ layers, layer ≠ [] := by
  induction completed, remaining using layersFrom.induct generalizing layers with
  | case1 completed =>
      rw [layersFrom, if_pos rfl] at h
      cases h
      exact fun layer hlayer => absurd hlayer List.not_mem_nil
  | case2 completed remaining hne hstuck =>
      rw [layersFrom, if_neg hne, if_pos hstuck] at h
      cases h
  | case3 completed remaining hne hsome ih =>
      rw [layersFrom, if_neg hne, if_neg hsome] at h
      rcases exists_of_bind_ok h with ⟨rest, hrest, heq⟩
      cases heq
      intro layer hlayer
      rcases List.mem_cons.mp hlayer with rfl | hlater
      · exact hsome
      · exact ih hrest layer hlater

theorem layered_topologicalLayers (hids : (steps.map PlanStep.stepId).Nodup)
    (h : topologicalLayers steps = .ok layers) : Layered steps layers := by
  have hheight : ∀ (k : Nat) (layer : List PlanStep), layers[k]? = some layer →
      ∀ s ∈ layer, Height (DependsOn steps) s.stepId k := by
    intro k layer hk s hs
    refine height_of_peels (peels_topologicalLayers hids h) ?_ (List.mem_map_of_mem hs)
    rw [List.getElem?_map, hk]
    rfl
  refine ⟨inOrder_topologicalLayers hids h, hheight, fun other hother => ?_⟩
  cases hlen : layers.length with
  | zero => exact Nat.zero_le _
  | succ k =>
      -- A step of the last layer has a chain below it that passes through all others.
      have hk : k < layers.length := hlen ▸ Nat.lt_succ_self k
      have hget : layers[k]? = some layers[k] := List.getElem?_eq_getElem hk
      rcases List.exists_mem_of_ne_nil _ (layer_ne_nil h _ (List.getElem_mem hk)) with ⟨s, hs⟩
      have hsteps : s ∈ other.flatten :=
        hother.once.mem_iff.mpr ((flatten_layersFrom h).mem_iff.mp
          (List.mem_flatten.mpr ⟨layers[k], List.getElem_mem hk, hs⟩))
      rcases List.mem_flatten.mp hsteps with ⟨layer, hlayer, hmem⟩
      rcases List.mem_iff_getElem?.mp hlayer with ⟨j, hj⟩
      have hle := chain_le_of_inOrder hids hother hj hmem (hheight k _ hget s hs).1
      have hlt : j < other.length := (List.getElem?_eq_some_iff.mp hj).1
      omega

/-- A plan that has layers can be run as a whole. -/
theorem not_unresolvable_of_ok (hids : (steps.map PlanStep.stepId).Nodup)
    (h : topologicalLayers steps = .ok layers) : ¬ ∃ s ∈ steps, Unresolvable steps s := by
  have hlayered := layered_topologicalLayers hids h
  rintro ⟨s, hs, hbad⟩
  rcases hbad with hcycle | ⟨dep, hgone, hreach⟩
  · have hmem := hlayered.inOrder.once.mem_iff.mpr hs
    rcases List.mem_flatten.mp hmem with ⟨layer, hlayer, hin⟩
    rcases List.mem_iff_getElem?.mp hlayer with ⟨k, hk⟩
    exact not_transGen_of_height (hlayered.height k layer hk s hin) hcycle
  · -- The step that depends on the missing id is in a layer, after it.
    rcases Relation.TransGen.tail'_iff.mp hreach with ⟨id, -, t, ht, rfl, hdep⟩
    rcases List.mem_flatten.mp (hlayered.inOrder.once.mem_iff.mpr ht) with ⟨layer, hlayer, hin⟩
    rcases List.mem_iff_getElem?.mp hlayer with ⟨k, hk⟩
    rcases hlayered.inOrder.after k layer hk t hin dep hdep with ⟨j, -, earlier, hj, hearlier⟩
    refine hgone (List.map_subset _ (fun u hu => ?_) hearlier)
    exact hlayered.inOrder.once.mem_iff.mp
      (List.mem_flatten.mpr ⟨earlier, List.mem_of_getElem? hj, hu⟩)

/-- A plan with distinct ids is refused exactly if one of its steps can never
    run, with `ValueError`. Otherwise its layers are as they should be. -/
theorem topologicalLayers_exact (steps : List PlanStep)
    (hids : (steps.map PlanStep.stepId).Nodup) :
    (topologicalLayers steps = .error .valueError ↔ ∃ s ∈ steps, Unresolvable steps s) ∧
    ((¬ ∃ s ∈ steps, Unresolvable steps s) →
      ∃ layers, topologicalLayers steps = .ok layers ∧ Layered steps layers) := by
  cases h : topologicalLayers steps with
  | ok layers =>
      have hnot := not_unresolvable_of_ok hids h
      refine ⟨⟨fun hbad => (by cases hbad), fun hbad => absurd hbad hnot⟩, fun _ => ?_⟩
      exact ⟨layers, rfl, layered_topologicalLayers hids h⟩
  | error e =>
      rcases stuck_of_error (List.Subset.refl steps) (fun s hs => .inr hs) h with
        ⟨rfl, completed, remaining, hstuck⟩
      have hbad := unresolvable_of_stuck hstuck
      exact ⟨⟨fun _ => hbad, fun _ => rfl⟩, fun hnot => absurd hbad hnot⟩

/-- A report that needs two sources, of which one needs the other. -/
theorem topologicalLayers_exact_chained :
    ∃ layers, topologicalLayers [{ stepId := "a", tool := .database },
        { stepId := "b", tool := .rag, dependsOn := ["a"] },
        { stepId := "c", tool := .report, dependsOn := ["a", "b"] }] = .ok layers ∧
      Layered [{ stepId := "a", tool := .database },
        { stepId := "b", tool := .rag, dependsOn := ["a"] },
        { stepId := "c", tool := .report, dependsOn := ["a", "b"] }] layers := by
  have hlayers : topologicalLayers [{ stepId := "a", tool := .database },
      { stepId := "b", tool := .rag, dependsOn := ["a"] },
      { stepId := "c", tool := .report, dependsOn := ["a", "b"] }] =
        .ok [[{ stepId := "a", tool := .database }],
          [{ stepId := "b", tool := .rag, dependsOn := ["a"] }],
          [{ stepId := "c", tool := .report, dependsOn := ["a", "b"] }]] := by
    simp [topologicalLayers, layersFrom, currentLayer, waiting, ready]
  exact (topologicalLayers_exact _ (by decide)).2 (not_unresolvable_of_ok (by decide) hlayers)

end Main

end Plan

end AgenticRag

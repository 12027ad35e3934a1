import AgenticRag.Core.Plan

/-!
# Planning without Failing

The planner should never fail: where there is no plan it can use, the decision
that came in is handed on. Asking the model and reading its answer are guarded,
so whatever goes wrong there is caught. The decision is built after that, and it
knows the target of every tool but one. A plan whose steps are all reports is
read without complaint and then raises (`reportOnly_raises`).

That is the only answer it raises on (`plan_degrades_iff`).

## Main definitions

* `Unusable`: There is no plan, or none that has a target.
* `ReportOnly`: A plan of reports alone.

## Theorems

* `keys_toolCounts`: The tools that are counted are those of the steps.
* `determineTarget_cases`: Where a plan sends the question.
* `plan_degrades_iff`: When the planner degrades.
-/

namespace AgenticRag

namespace Plan

open Py Ordered

section Targets

/-- The tools that are counted are those of the steps, each once. -/
theorem keys_toolCounts (steps : List PlanStep) :
    ((toolCounts steps).map Prod.fst).Nodup ∧
      ∀ t, t ∈ (toolCounts steps).map Prod.fst ↔ ∃ s ∈ steps, s.tool = t := by
  -- The steps are counted from the left, so the last one is counted last.
  induction steps using List.reverseRecOn with
  | nil => exact ⟨List.nodup_nil, by simp [toolCounts]⟩
  | append_singleton steps s ih =>
      rw [toolCounts, List.foldl_concat, ← toolCounts]
      refine ⟨keys_dictSet_nodup _ _ ih.1, fun t => ?_⟩
      rw [mem_keys_dictSet, ih.2]
      simp only [List.mem_append, List.mem_singleton, or_and_right, exists_or, exists_eq_left]
      rw [or_comm, eq_comm]

/-- Where a plan sends the question: nowhere without steps, to the tool all its
    steps use, or to several. -/
theorem determineTarget_cases (p : ExecutionPlan) :
    (p.steps = [] ∧ determineTarget p = "chitchat") ∨
    (∃ t, p.steps ≠ [] ∧ (∀ s ∈ p.steps, s.tool = t) ∧ determineTarget p = t.name) ∨
    ((∃ s ∈ p.steps, ∃ s' ∈ p.steps, s.tool ≠ s'.tool) ∧ determineTarget p = "hybrid") := by
  rcases keys_toolCounts p.steps with ⟨hnodup, hmem⟩
  rw [determineTarget]
  cases hcounts : toolCounts p.steps with
  | nil =>
      refine .inl ⟨List.eq_nil_iff_forall_not_mem.mpr fun s hs => ?_, rfl⟩
      have hkey := (hmem s.tool).mpr ⟨s, hs, rfl⟩
      rw [hcounts] at hkey
      cases hkey
  | cons first rest =>
      rcases first with ⟨t, n⟩
      rw [hcounts] at hmem hnodup
      have hfirst : ∃ s ∈ p.steps, s.tool = t := (hmem t).mp List.mem_cons_self
      cases rest with
      | nil =>
          refine .inr (.inl ⟨t, ?_, fun s hs => ?_, rfl⟩)
          · rcases hfirst with ⟨s, hs, -⟩
            exact List.ne_nil_of_mem hs
          · exact List.mem_singleton.mp ((hmem s.tool).mpr ⟨s, hs, rfl⟩)
      | cons second rest =>
          rcases second with ⟨t', m⟩
          have hsecond : ∃ s ∈ p.steps, s.tool = t' :=
            (hmem t').mp (List.mem_cons_of_mem _ List.mem_cons_self)
          rcases hfirst with ⟨s, hs, rfl⟩
          rcases hsecond with ⟨s', hs', rfl⟩
          refine .inr (.inr ⟨⟨s, hs, s', hs', ?_⟩, rfl⟩)
          simp only [List.map_cons, List.nodup_cons, List.mem_cons, not_or] at hnodup
          exact hnodup.1.1

/-- A plan of reports alone: there are steps, and all of them are reports. -/
def ReportOnly (p : ExecutionPlan) : Prop := p.steps ≠ [] ∧ ∀ s ∈ p.steps, s.tool = .report

/-- Every plan has a target but one of reports alone. -/
theorem targetField_determineTarget (p : ExecutionPlan) :
    (∃ t, targetField (determineTarget p) = .ok t) ↔ ¬ ReportOnly p := by
  rcases determineTarget_cases p with
    ⟨hnil, hd⟩ | ⟨t, hne, hall, hd⟩ | ⟨⟨s, hs, s', hs', hdiff⟩, hd⟩
  · rw [hd]
    exact iff_of_true ⟨.chitchat, rfl⟩ fun h => h.1 hnil
  · rw [hd]
    by_cases ht : t = .report
    -- `report` names a tool, and no target.
    · subst ht
      refine iff_of_false ?_ (not_not.mpr ⟨hne, hall⟩)
      rintro ⟨t, h⟩
      cases h
    · refine iff_of_true ?_ fun h => ht ?_
      · cases t with
        | report => exact absurd rfl ht
        | rag | database | web | rest | graph => exact ⟨_, rfl⟩
      · rcases List.exists_mem_of_ne_nil _ hne with ⟨s, hs⟩
        rw [← hall s hs, h.2 s hs]
  · rw [hd]
    exact iff_of_true ⟨.hybrid, rfl⟩ fun h => hdiff ((h.2 s hs).trans (h.2 s' hs').symm)

end Targets

section Degrading

variable (lax : Lax) (repair : String → Except Exc Val) (now : Nat)

/-- There is no plan, or none that has a target. -/
def Unusable (reply : Reply) : Prop :=
  ∀ p, callPlanner lax repair now reply = .planned p →
    ¬ ∃ t, targetField (determineTarget p) = .ok t

/-- What the planner should do: it returns a decision, which is the one that
    came in, marked, if there is no plan it can use. -/
def Degrades (reply : Reply) (llmDecision : RouteDecision) : Prop :=
  ∃ d, plan lax repair now reply llmDecision = .ok d ∧
    (Unusable lax repair now reply →
      d.target = llmDecision.target ∧ ∃ flag, d = degraded llmDecision flag)

/-- A plan comes from an answer that is no error and is read as one. -/
theorem callPlanner_eq_planned {reply : Reply} {p : ExecutionPlan} :
    callPlanner lax repair now reply = .planned p ↔
      ∃ text parsed, reply = .content text ∧ startsWith text "**ERROR**" = false ∧
        repair text = .ok parsed ∧ readPlan lax now parsed = .ok p := by
  constructor
  · intro h
    cases reply with
    | timeout => cases h
    | raised e => cases h
    | content text =>
        rw [callPlanner] at h
        split at h
        · cases h
        next herror =>
          split at h
          · cases h
          next q hread =>
            rcases exists_of_bind_ok hread with ⟨parsed, hparsed, hq⟩
            cases h
            exact ⟨text, parsed, rfl, Bool.eq_false_iff.mpr herror, hparsed, hq⟩
  · rintro ⟨text, parsed, rfl, herror, hparsed, hread⟩
    have hboth : (repair text >>= readPlan lax now) = .ok p := by
      rw [hparsed]
      exact hread
    simp only [callPlanner, herror, hboth]
    rfl

/-- With a plan, there is a decision exactly if the plan has a target. -/
theorem plan_planned {reply : Reply} {p : ExecutionPlan} (llmDecision : RouteDecision)
    (h : callPlanner lax repair now reply = .planned p) :
    (∃ d, plan lax repair now reply llmDecision = .ok d) ↔
      ∃ t, targetField (determineTarget p) = .ok t := by
  simp only [plan, h]
  constructor
  · rintro ⟨d, hd⟩
    rcases exists_of_bind_ok hd with ⟨t, ht, -⟩
    exact ⟨t, ht⟩
  · rintro ⟨t, ht⟩
    rw [ht]
    exact ⟨_, rfl⟩

/-- The planner degrades exactly if the answer is not a valid plan of reports
    alone. -/
theorem plan_degrades_iff (reply : Reply) (llmDecision : RouteDecision) :
    Degrades lax repair now reply llmDecision ↔
      ¬ ∃ text parsed p, reply = .content text ∧ startsWith text "**ERROR**" = false ∧
        repair text = .ok parsed ∧ readPlan lax now parsed = .ok p ∧ ReportOnly p := by
  constructor
  · rintro ⟨d, hd, -⟩ ⟨text, parsed, p, hreply, herror, hparsed, hread, honly⟩
    have hp := (callPlanner_eq_planned lax repair now).mpr
      ⟨text, parsed, hreply, herror, hparsed, hread⟩
    have htarget := (plan_planned lax repair now llmDecision hp).mp ⟨d, hd⟩
    exact (targetField_determineTarget p).mp htarget honly
  · intro hnot
    cases hcall : callPlanner lax repair now reply with
    | timeout =>
        exact ⟨degraded llmDecision "planner_timeout", by simp only [plan, hcall],
          fun _ => ⟨rfl, _, rfl⟩⟩
    | failed e =>
        exact ⟨degraded llmDecision "planner_failed", by simp only [plan, hcall],
          fun _ => ⟨rfl, _, rfl⟩⟩
    | planned p =>
        have htarget : ∃ t, targetField (determineTarget p) = .ok t := by
          refine (targetField_determineTarget p).mpr fun honly => hnot ?_
          rcases (callPlanner_eq_planned lax repair now).mp hcall with
            ⟨text, parsed, hreply, herror, hparsed, hread⟩
          exact ⟨text, parsed, p, hreply, herror, hparsed, hread, honly⟩
        rcases (plan_planned lax repair now llmDecision hcall).mpr htarget with ⟨d, hd⟩
        exact ⟨d, hd, fun hun => absurd htarget (hun p hcall)⟩

/-- A plan of a single report, with everything else left at its default, is
    read and then raises. -/
theorem reportOnly_raises :
    ¬ Degrades ⟨fun _ => none, fun _ => none⟩
      (fun _ => .ok (.dict [("steps", .list [.dict [("tool", .str "report")]])])) 0
      (.content "\x7b\"steps\": [\x7b\"tool\": \"report\"\x7d]\x7d")
      ⟨.hybrid, 1, .llm, "", .complex, [], [], by decide, by decide⟩ := by
  rintro ⟨d, hd, -⟩
  cases hd

end Degrading

end Plan

end AgenticRag

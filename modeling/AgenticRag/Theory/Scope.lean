import AgenticRag.Core.PlanExecutors

/-!
# What a Plan Can Ask For

A plan is the output of a model, and a model can be talked into writing
anything. The tenant of a request and its knowledge bases come from the state,
which no plan writes. This module says what of them reaches the tools, for
every step a plan can hold and every state.

The tenant is the state's. A retrieval skill and the structured path take it
from the state whatever the step says, and the other two adapters do for every
step whose extra arguments leave the tenant alone. The knowledge bases are a
choice: those of the state are what is searched when nobody chooses, a step or
a route decision may name others, and a retrieval skill has its own
(`plan_scope`). So a plan does choose knowledge bases that the state does not
have (`plan_chooses_knowledge_base`).

## Main definitions

* `Carries`: The tenant and the knowledge bases of an input.

## Theorems

* `lookup_skillInput`: The tenant goes over the extra arguments.
* `prepare_carries`: What a retrieval skill is run with.
* `plan_scope`: What reaches the tools.
-/

namespace AgenticRag

open Py Ordered

/-- An input names a tenant and knowledge bases. -/
def Carries (input : Dict) (tenantId kbIds : Val) : Prop :=
  input.lookup "tenant_id" = some tenantId ∧ input.lookup "kb_ids" = some kbIds

/-- A key the extra arguments do not have keeps what the adapter put. -/
theorem lookup_dictUpdate_extra (args : StepArgs) (base : Dict) {key : String}
    (h : key ∉ args.extra.map Prod.fst) :
    (dictUpdate base args.extra).lookup key = base.lookup key := by
  rw [lookup_dictUpdate base args.extraNodup, lookup_eq_none_of_not_mem h, Option.none_or]

theorem ragToolInput_carries {state input : Dict} (h : ragToolInput state = .ok (some input)) :
    Carries input (stateTenant state) (pyOr (recommendedKbIds state) (stateKbIds state)) := by
  unfold ragToolInput at h
  dsimp only at h
  split_ifs at h
  · rcases exists_of_bind_ok h with ⟨agentConfig, _, h⟩
    rcases exists_of_bind_ok h with ⟨ragConfig, _, h⟩
    cases h
    exact ⟨rfl, rfl⟩
  · cases h

section Skill

variable {u : Unicode} {registry : Val → Option Skill} {buildQuery : QueryBuilder}

/-- The tenant goes over the extra arguments, and the id of the skill is
    theirs. -/
theorem lookup_skillInput (args : StepArgs) (state : Dict) :
    (skillInput args state).lookup "tenant_id" = some (stateTenant state) ∧
      (skillInput args state).lookup "retrieval_skill_id" =
        args.extra.lookup "retrieval_skill_id" := by
  unfold skillInput
  constructor
  · rw [lookup_dictUpdate _ (by simp)]
    rfl
  · rw [lookup_dictUpdate _ (by simp)]
    rfl

/-- A target that was selected is one the skill declares. -/
theorem selectTarget_mem {skill : RetrievalSkill} {requested : Val} {target : Dict}
    (h : selectTarget u skill requested = .ok target) : target ∈ skill.ragTargets := by
  unfold selectTarget at h
  split_ifs at h
  · split at h
    next =>
      split at h
      next found hfound =>
        cases h
        exact List.mem_reverse.mp (List.mem_of_find?_eq_some hfound)
      next => cases h
    next => cases h
    next => cases h
    next => cases h
  · split at h
    next single hsingle =>
      cases h
      exact (List.mem_filter.mp (hsingle ▸ List.mem_singleton_self _)).1
    next => cases h

/-- A retrieval skill is run on the knowledge base of a target it declares,
    for the tenant of the input. -/
theorem prepare_carries {input request : Dict} {tenantId : Val}
    (hnodup : (input.map Prod.fst).Nodup) (htenant : input.lookup "tenant_id" = some tenantId)
    (h : prepare u registry buildQuery input = .ok (some request)) :
    ∃ skill target kbId,
      registry (pyGet input "retrieval_skill_id" .none) = some (.retrieval skill) ∧
      target ∈ skill.ragTargets ∧ target.lookup "kb_id" = some kbId ∧
      Carries request (.str (tenantId.toStr u)) (pyStrs [kbId.toStr u]) := by
  unfold prepare at h
  dsimp only at h
  split_ifs at h
  rcases exists_of_bind_ok h with ⟨found, hfound, h⟩
  split at h
  next skill =>
    split at h
    next given _ =>
      rcases exists_of_bind_ok h with ⟨_, _, h⟩
      rcases exists_of_bind_ok h with ⟨target, htarget, h⟩
      rcases exists_of_bind_ok h with ⟨query, _, h⟩
      cases query with
      | none => cases h
      | some query =>
          dsimp only at h
          split at h
          next => cases h
          next kbId hkb =>
            cases h
            refine ⟨skill, target, kbId, ?_, selectTarget_mem htarget, hkb, ?_, rfl⟩
            · unfold getById at hfound
              split at hfound
              · cases hfound
              · cases hfound
              · exact Except.ok.inj hfound
            · -- In the context the input goes over what was given.
              have hcontext : (dictUpdate given input).lookup "tenant_id" = some tenantId := by
                rw [lookup_dictUpdate given hnodup, htenant, Option.some_or]
              simp only [pyGet, hcontext, Option.getD_some]
              rfl
    next => cases h
  next => cases h

theorem executeSkillRag_carries {args : StepArgs} {state input : Dict}
    (h : executeSkillRag u registry buildQuery args state = .ok (some input)) :
    ∃ skill target kbId,
      registry (pyGet args.extra "retrieval_skill_id" .none) = some (.retrieval skill) ∧
      target ∈ skill.ragTargets ∧ target.lookup "kb_id" = some kbId ∧
      Carries input (.str ((stateTenant state).toStr u)) (pyStrs [kbId.toStr u]) := by
  rcases lookup_skillInput args state with ⟨htenant, hskill⟩
  have hnodup : ((skillInput args state).map Prod.fst).Nodup :=
    keys_dictUpdate_nodup _ args.extraNodup
  have hid : pyGet (skillInput args state) "retrieval_skill_id" .none =
      pyGet args.extra "retrieval_skill_id" .none := by
    rw [pyGet, pyGet, hskill]
  rw [← hid]
  exact prepare_carries hnodup htenant h

end Skill

theorem executeRag_lookup {args : StepArgs} {state input : Dict}
    (h : executeRag args state = .ok input) :
    ("tenant_id" ∉ args.extra.map Prod.fst →
      input.lookup "tenant_id" = some (stateTenant state)) ∧
    ("kb_ids" ∉ args.extra.map Prod.fst →
      input.lookup "kb_ids" = some (stepKbIds args state)) := by
  unfold executeRag at h
  rcases exists_of_bind_ok h with ⟨agentConfig, _, h⟩
  rcases exists_of_bind_ok h with ⟨ragConfig, _, h⟩
  cases h
  constructor
  · intro hextra
    rw [lookup_dictUpdate_extra args _ hextra]
    rfl
  · intro hextra
    rw [lookup_dictUpdate_extra args _ hextra]
    rfl

theorem executeSqlAgent_lookup {args : StepArgs} {state input : Dict}
    (h : executeSqlAgent args state = .ok input)
    (hextra : "tenant_id" ∉ args.extra.map Prod.fst) :
    input.lookup "tenant_id" = some (stateTenant state) := by
  unfold executeSqlAgent at h
  rcases exists_of_bind_ok h with ⟨agentConfig, _, h⟩
  rcases exists_of_bind_ok h with ⟨dbConfig, _, h⟩
  cases h
  -- What is configured names no tenant.
  have hkeys : ((([("exploration_mode", pyGet dbConfig "exploration_mode" .none),
      ("sql_agent_config", pyGet dbConfig "sql_agent_config" .none)] : Dict).filter
        (fun kv => kv.2.truthy)).map Prod.fst).Sublist ["exploration_mode", "sql_agent_config"] :=
    List.filter_sublist.map Prod.fst
  rw [lookup_dictUpdate_extra args _ hextra,
    lookup_dictUpdate _ (hkeys.nodup (by decide)),
    lookup_eq_none_of_not_mem (fun hmem => absurd (hkeys.subset hmem) (by decide))]
  rfl

theorem executeStructuredDatabase_tenant {registry : Val → Option Skill} {args : StepArgs}
    {state : Dict} {request : StructuredRequest} {tenantId : String}
    (htenant : stateTenant state = .str tenantId)
    (h : executeStructuredDatabase registry args state = .ok request) :
    request.context.lookup "tenant_id" = some (.str tenantId) ∧
      ∀ backend, request.backend = some backend → backend.1 = .str tenantId := by
  unfold executeStructuredDatabase at h
  rcases exists_of_bind_ok h with ⟨found, _, h⟩
  split at h
  next =>
    cases h
    constructor
    · rw [htenant]
      rfl
    · intro backend hbackend
      dsimp only at hbackend
      split_ifs at hbackend
      cases hbackend
      exact htenant
  next => cases h

/-- What reaches the tools, for every step of a plan and every state. -/
theorem plan_scope (u : Unicode) (registry : Val → Option Skill) (buildQuery : QueryBuilder)
    (args : StepArgs) (state : Dict) (tenantId : String)
    (htenant : stateTenant state = .str tenantId) :
    -- The RAG node.
    (∀ input, ragToolInput state = .ok (some input) →
      Carries input (.str tenantId) (pyOr (recommendedKbIds state) (stateKbIds state))) ∧
    -- The RAG adapter, with a retrieval skill and without.
    (∀ input, ragExecutor u registry buildQuery args state = .ok (some input) →
      if (pyGet args.extra "retrieval_skill_id" .none).truthy then
        ∃ skill target kbId,
          registry (pyGet args.extra "retrieval_skill_id" .none) = some (.retrieval skill) ∧
          target ∈ skill.ragTargets ∧ target.lookup "kb_id" = some kbId ∧
          Carries input (.str tenantId) (pyStrs [kbId.toStr u])
      else
        ("tenant_id" ∉ args.extra.map Prod.fst →
          input.lookup "tenant_id" = some (.str tenantId)) ∧
        ("kb_ids" ∉ args.extra.map Prod.fst →
          input.lookup "kb_ids" = some (stepKbIds args state))) ∧
    -- The database adapter, on the structured path and on that of the agent.
    ∀ request, executeDatabase registry args state = .ok request →
      match request with
      | .structured structured =>
          structured.context.lookup "tenant_id" = some (.str tenantId) ∧
            ∀ backend, structured.backend = some backend → backend.1 = .str tenantId
      | .sqlAgent input => "tenant_id" ∉ args.extra.map Prod.fst →
          input.lookup "tenant_id" = some (.str tenantId) := by
  refine ⟨?_, ?_, ?_⟩
  · intro input h
    rw [← htenant]
    exact ragToolInput_carries h
  · intro input h
    unfold ragExecutor at h
    split_ifs at h ⊢
    · have hcarries := executeSkillRag_carries h
      rw [htenant] at hcarries
      exact hcarries
    · rcases hrag : executeRag args state with e | direct
      · rw [hrag] at h
        cases h
      · rw [hrag] at h
        cases h
        rw [← htenant]
        exact executeRag_lookup hrag
  · intro request h
    have hagent : ∀ {input}, executeSqlAgent args state = .ok input →
        "tenant_id" ∉ args.extra.map Prod.fst →
        input.lookup "tenant_id" = some (.str tenantId) := by
      intro input hinput hextra
      rw [← htenant]
      exact executeSqlAgent_lookup hinput hextra
    unfold executeDatabase at h
    dsimp only at h
    split_ifs at h
    · rcases exists_of_bind_ok h with ⟨fallback, _, h⟩
      cases fallback with
      | none =>
          rcases exists_of_bind_ok h with ⟨structured, hstructured, h⟩
          cases h
          exact executeStructuredDatabase_tenant htenant hstructured
      | some hints =>
          rcases exists_of_bind_ok h with ⟨input, hinput, h⟩
          cases h
          exact hagent hinput
    · rcases exists_of_bind_ok h with ⟨input, hinput, h⟩
      cases h
      exact hagent hinput

/-- A request on one knowledge base, whose router recommends none. -/
def requestState : Dict :=
  [("user_question", .str "产线停机的原因"), ("tenant_id", .str "tenant-1"),
    ("kb_ids", pyStrs ["quality_kb"])]

/-- A step that sets what it may set. -/
def plainStep : StepArgs := { query := "停机原因", extra := [("top_k", .int 3)] }

theorem plan_scope_plainStep :
    stateTenant requestState = .str "tenant-1" ∧
    ∃ input, ragExecutor default (fun _ => none) (fun _ _ _ _ => .ok none) plainStep
        requestState = .ok (some input) ∧
      Carries input (.str "tenant-1") (pyStrs ["quality_kb"]) := by
  refine ⟨rfl, _, rfl, ?_⟩
  have hscope := (plan_scope default (fun _ => none) (fun _ _ _ _ => .ok none) plainStep
    requestState "tenant-1" rfl).2.1 _ rfl
  rw [if_neg (by decide)] at hscope
  exact ⟨hscope.1 (by decide), hscope.2 (by decide)⟩

/-- A step, or a route decision, names a knowledge base the request does not
    have, and it is searched. -/
theorem plan_chooses_knowledge_base :
    (∃ input, ragExecutor default (fun _ => none) (fun _ _ _ _ => .ok none)
        { kbIds := ["staff_kb"] } requestState = .ok (some input) ∧
      input.lookup "kb_ids" = some (pyStrs ["staff_kb"])) ∧
    (∃ input, ragToolInput
        (requestState ++ [("route_decision", .dict [("kb_ids", pyStrs ["staff_kb"])])]) =
          .ok (some input) ∧
      input.lookup "kb_ids" = some (pyStrs ["staff_kb"])) ∧
    stateKbIds requestState = pyStrs ["quality_kb"] ∧ "staff_kb" ∉ ["quality_kb"] :=
  ⟨⟨_, rfl, rfl⟩, ⟨_, rfl, rfl⟩, rfl, by decide⟩

end AgenticRag

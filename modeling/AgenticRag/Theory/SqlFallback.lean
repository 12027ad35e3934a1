import AgenticRag.Core.StructuredQuery

/-!
# What a Fallback to the SQL Agent Keeps

A step for a data skill that does not declare the template of the step is left
to the SQL agent, if the skill allows it. The agent is then to be told the hints
of the skill and kept to the databases the skill declares. It knows both from
its input: the hints under one key, and a list of databases under another, an
empty list being no restriction.

The adapter puts the hints into a copy of the extra arguments, and builds the
input from the arguments as they were. So neither key is set on the way, and the
agent is governed by the skill exactly where the plan has written it into the
extra arguments already.

## Main definitions

* `Governed`: A mapping with the hints of a skill and a list of its databases.
* `FallsBack`: A step that is left to the SQL agent.

## Theorems

* `executeSqlAgent_lookup_own`: What the input has under a key of the step.
* `fallback_governed_iff`: When a fallback keeps what the skill declares.
-/

namespace AgenticRag

open Py Ordered Structured

/-- A mapping has the hints of a skill, and a list of databases which is not
    empty and has declared ones only. -/
structure Governed (skill : QuerySkill) (input : Dict) : Prop where
  hints : input.lookup "exploration_hints" = some (.dict skill.explorationHints)
  databases : ∃ ids : List Val, input.lookup "allowed_db_ids" = some (.list ids) ∧ ids ≠ [] ∧
    ∀ id ∈ ids, ∃ target ∈ skill.dbTargets, target.lookup "db_id" = some id

section Fallback

variable {registry : Val → Option Skill} {skill : QuerySkill} {args : StepArgs}
  {state input : Dict}

/-- A step names a data skill that does not declare its template and leaves it to
    the SQL agent. -/
structure FallsBack (registry : Val → Option Skill) (skill : QuerySkill) (extra : Dict) : Prop where
  named : (pyGet extra "data_skill_id" .none).truthy = true ∧
    (pyGet extra "query_template_id" .none).truthy = true
  found : getById registry (pyGet extra "data_skill_id" (.str "")) =
    .ok (some (.data skill.toDataSkill))
  undeclared : inSet (pyGet extra "query_template_id" .none)
    (skill.queryTemplates.map (fun t => pyGet t "template_id" .none)) = .ok false
  mode : skill.fallbackMode = .sqlAgent
  hints : skill.explorationHints ≠ []

/-- The hints are found. -/
theorem resolve_of_fallsBack {extra : Dict} (h : FallsBack registry skill extra) :
    resolveSqlAgentFallback registry extra = .ok (some skill.explorationHints) := by
  have hbranch : skill.fallbackMode = .sqlAgent ∧ skill.explorationHints ≠ [] := ⟨h.mode, h.hints⟩
  unfold resolveSqlAgentFallback
  rw [h.found]
  change (do
    if ← inSet (pyGet extra "query_template_id" .none)
        (skill.queryTemplates.map (fun t => pyGet t "template_id" .none)) then
      return none
    else if skill.fallbackMode = .sqlAgent ∧ skill.explorationHints ≠ [] then
      return some skill.explorationHints
    else return none : Except Exc (Option Dict)) = _
  rw [h.undeclared, if_pos hbranch]
  rfl

/-- The keys the adapter sets itself, and those it sets where they are
    configured. -/
def inputKeys : List String :=
  ["query", "query_simplified", "query_lang", "db_id", "tenant_id", "llm_id", "mcp_server_name",
   "enable_self_healing", "enable_template"]

/-- The keys of the settings. -/
def configuredKeys : List String := ["exploration_mode", "sql_agent_config"]

/-- What the input has under another key is what the step has. -/
theorem executeSqlAgent_lookup_own (h : executeSqlAgent args state = .ok input) {key : String}
    (hkey : key ∉ inputKeys ++ configuredKeys) : input.lookup key = args.extra.lookup key := by
  unfold executeSqlAgent at h
  rcases exists_of_bind_ok h with ⟨agentConfig, _, h⟩
  rcases exists_of_bind_ok h with ⟨dbConfig, _, h⟩
  cases h
  -- What is configured may be left out, but has no other keys.
  have hkeys : ((([("exploration_mode", pyGet dbConfig "exploration_mode" .none),
      ("sql_agent_config", pyGet dbConfig "sql_agent_config" .none)] : Dict).filter
        (fun kv => kv.2.truthy)).map Prod.fst).Sublist configuredKeys :=
    List.filter_sublist.map Prod.fst
  have hconfigured := lookup_eq_none_of_not_mem
    (fun hmem => hkey (List.mem_append_right inputKeys (hkeys.subset hmem)))
  rw [lookup_dictUpdate _ args.extraNodup, lookup_dictUpdate _ (hkeys.nodup (by decide)),
    hconfigured, Option.none_or]
  refine (congrArg _ (lookup_eq_none_of_not_mem fun hmem => hkey ?_)).trans Option.or_none
  exact List.mem_append_left configuredKeys hmem

/-- A step that is left to the SQL agent gives it what the plan has written into
    the extra arguments, and nothing of the skill. -/
theorem fallback_governed_iff (h : FallsBack registry skill args.extra) {request : DbRequest}
    (hrun : executeDatabase registry args state = .ok request) :
    ∃ input, request = .sqlAgent input ∧ (Governed skill input ↔ Governed skill args.extra) := by
  unfold executeDatabase at hrun
  dsimp only at hrun
  rw [h.named.1, h.named.2, if_pos (by decide), resolve_of_fallsBack h] at hrun
  rcases exists_of_bind_ok hrun with ⟨fallback, hfallback, hrun⟩
  cases hfallback
  rcases exists_of_bind_ok hrun with ⟨input, hinput, hrun⟩
  cases hrun
  -- Neither key is one the adapter sets.
  have hhints : input.lookup "exploration_hints" = args.extra.lookup "exploration_hints" :=
    executeSqlAgent_lookup_own hinput (by decide)
  have hdatabases : input.lookup "allowed_db_ids" = args.extra.lookup "allowed_db_ids" :=
    executeSqlAgent_lookup_own hinput (by decide)
  refine ⟨input, rfl, fun hg => ⟨?_, ?_⟩, fun hg => ⟨?_, ?_⟩⟩
  · rw [← hhints]
    exact hg.hints
  · rw [← hdatabases]
    exact hg.databases
  · rw [hhints]
    exact hg.hints
  · rw [hdatabases]
    exact hg.databases

end Fallback

section Samples

/-- A skill that declares one database and leaves the rest to the agent. -/
def shopSkill : QuerySkill where
  skillId := "shop"
  queryTemplates := [[("template_id", .str "by_region")]]
  explorationHints := [("preferred_tables", .list [.str "orders"])]
  fallbackMode := .sqlAgent
  dbTargets := [[("target_id", .str "shop"), ("db_id", .str "shop_db")]]
  policyConstraints := []

/-- The registry of a shop. -/
def shopRegistry : Val → Option Skill
  | .str "shop" => some (.data shopSkill.toDataSkill)
  | _ => none

/-- A step for a template the skill does not declare. -/
def looseStep : StepArgs where
  query := "各区域订单"
  extra := [("data_skill_id", .str "shop"), ("query_template_id", .str "by_day")]

/-- The same step, with what the skill declares written into it. -/
def governedStep : StepArgs where
  query := "各区域订单"
  extra :=
    [("data_skill_id", .str "shop"), ("query_template_id", .str "by_day"),
     ("exploration_hints", .dict shopSkill.explorationHints),
     ("allowed_db_ids", .list [.str "shop_db"])]

theorem fallsBack_looseStep : FallsBack shopRegistry shopSkill looseStep.extra where
  named := by decide
  found := rfl
  undeclared := rfl
  mode := rfl
  hints := by decide

theorem fallback_governed_iff_governedStep :
    FallsBack shopRegistry shopSkill governedStep.extra ∧
      Governed shopSkill governedStep.extra ∧
      ∃ request, executeDatabase shopRegistry governedStep [] = .ok request ∧
        ∃ input, request = .sqlAgent input ∧
          (Governed shopSkill input ↔ Governed shopSkill governedStep.extra) := by
  have hfalls : FallsBack shopRegistry shopSkill governedStep.extra :=
    { named := by decide
      found := rfl
      undeclared := rfl
      mode := rfl
      hints := by decide }
  have hgoverned : Governed shopSkill governedStep.extra := by
    refine ⟨rfl, [.str "shop_db"], rfl, by decide, ?_⟩
    intro id hid
    rw [List.mem_singleton.mp hid]
    exact ⟨_, List.mem_cons_self, rfl⟩
  have hrun : ∃ request, executeDatabase shopRegistry governedStep [] = .ok request := ⟨_, rfl⟩
  rcases hrun with ⟨request, hrun⟩
  exact ⟨hfalls, hgoverned, request, hrun, fallback_governed_iff hfalls hrun⟩

/-- The agent gets neither the hints nor the databases of the skill. -/
theorem fallback_ungoverned :
    FallsBack shopRegistry shopSkill looseStep.extra ∧
      ∃ input, executeDatabase shopRegistry looseStep [] = .ok (.sqlAgent input) ∧
        input.lookup "exploration_hints" = none ∧ input.lookup "allowed_db_ids" = none ∧
        ¬ Governed shopSkill input := by
  refine ⟨fallsBack_looseStep, _, rfl, rfl, rfl, fun h => ?_⟩
  cases h.hints

end Samples

end AgenticRag

import AgenticRag.Lib.PyVal

/-!
# The Executors of a Plan

A plan is written by a model: steps, each for one tool, with arguments. The
adapters in front of the tools turn a step and the state of the request into
the input of the tool. Each starts from the state, lets the arguments of the
step take the place of what the state has, and merges the step's extra
arguments over the result.

Two kinds of steps go another way. A step that names a retrieval skill is
answered from the knowledge base its skill declares, and one that names a
query template of a data skill is run as a structured query.

A state is a mapping, as the tools read it. The skills the registry knows, and
the query the templates of a retrieval skill give, are parameters.

## Main definitions

* `StepArgs`: The arguments of a step.
* `executeDatabase`: What the database adapter hands on.
-/

namespace AgenticRag

open Py Ordered

/-- `d.get(key, {}) or {}`, as far as it is used as a mapping. -/
def pyGetMapping (d : Dict) (key : String) : Except Exc Dict :=
  asMapping (pyOr (pyGet d key (.dict [])) (.dict []))

/-- Texts as a value. -/
def pyStrs (xs : List String) : Val := .list (xs.map .str)

/-- The arguments of a step that the RAG and the database adapter read. -/
structure StepArgs where
  query : String := ""
  querySimplified : String := ""
  kbIds : List String := []
  dbId : String := ""
  mcpServerName : String := ""
  extra : Dict := []
  extraNodup : (extra.map Prod.fst).Nodup := by decide

/-- The tenant and the knowledge bases of a request. -/
def stateTenant (state : Dict) : Val := pyGet state "tenant_id" (.str "")

/-- The knowledge bases of a state. -/
def stateKbIds (state : Dict) : Val := pyGet state "kb_ids" (.list [])

section Rag

/-- The knowledge bases the route decision recommends. A decision is read as the
    mapping that the state holds: a `RouteDecision` object, from which the source
    takes the same field, is not a case of its own, and anything else has none. -/
def recommendedKbIds (state : Dict) : Val :=
  match pyOr (pyGet state "route_decision" (.dict [])) (.dict []) with
  | .dict decision => pyGet decision "kb_ids" (.list [])
  | _ => .list []

/-- The input `rag_tool_node` hands to the RAG tool. Without a question the
    tool is not called. -/
def ragToolInput (state : Dict) : Except Exc (Option Dict) := do
  let userQuestion := pyGet state "user_question" (.str "")
  let querySimplified := pyGet state "query_simplified" (.str "")
  if userQuestion.truthy then
    let agentConfig ← pyGetMapping state "agent_config"
    let ragConfig ← pyGetMapping agentConfig "rag_config"
    -- What the router recommends goes before what the request asks for.
    let kbIds := pyOr (recommendedKbIds state) (stateKbIds state)
    return some
      [("query", userQuestion),
        ("query_simplified", pyOr querySimplified userQuestion),
        ("top_k", pyGet ragConfig "top_k" (.int 5)),
        ("enable_rewrite", pyGet ragConfig "enable_rewrite" (.bool true)),
        ("enable_rerank", pyGet ragConfig "enable_rerank" (.bool true)),
        ("kb_ids", kbIds),
        ("tenant_id", stateTenant state),
        ("llm_id", pyGet state "llm_id" (.str "")),
        ("cross_languages", pyGet ragConfig "cross_languages" (.list [])),
        ("similarity_threshold", pyGet ragConfig "similarity_threshold" (.float (1 / 5) "0.2")),
        ("keywords_similarity_weight",
          pyGet ragConfig "keywords_similarity_weight" (.float (1 / 2) "0.5")),
        ("rerank_id", pyGet ragConfig "rerank_id" (.str "")),
        ("retry_count", pyGet state "retry_count" (.int 0))]
  else return none

/-- The knowledge bases of a step: its own, or those of the state. -/
def stepKbIds (args : StepArgs) (state : Dict) : Val :=
  if args.kbIds = [] then stateKbIds state else pyStrs args.kbIds

/-- The question of a step: its own, or that of the state. -/
def stepQuery (args : StepArgs) (state : Dict) : Val :=
  if args.query = "" then pyGet state "user_question" (.str "") else .str args.query

/-- The input the RAG adapter hands to the RAG tool for a step without a
    retrieval skill. The extra arguments go over everything else. -/
def executeRag (args : StepArgs) (state : Dict) : Except Exc Dict := do
  let agentConfig ← pyGetMapping state "agent_config"
  let ragConfig ← pyGetMapping agentConfig "rag_config"
  return dictUpdate
    [("query", stepQuery args state),
      ("query_lang", pyGet state "query_lang" (.str "zh_CN")),
      ("kb_ids", stepKbIds args state),
      ("tenant_id", stateTenant state),
      ("llm_id", pyGet state "llm_id" (.str "")),
      ("similarity_threshold", pyGet ragConfig "similarity_threshold" (.float (1 / 5) "0.2")),
      ("keywords_similarity_weight",
        pyGet ragConfig "keywords_similarity_weight" (.float (1 / 2) "0.5")),
      ("rerank_id", pyGet ragConfig "rerank_id" (.str ""))]
    args.extra

end Rag

section Skills

/-- What a data skill does for a query template it does not declare. -/
inductive FallbackMode where
  | sqlAgent
  | reject
  deriving DecidableEq, Repr

/-- A skill that retrieves. -/
structure RetrievalSkill where
  skillId : String
  ragTargets : List Dict
  queryContextRequirements : Dict

/-- A skill that queries. -/
structure DataSkill where
  skillId : String
  queryTemplates : List Dict
  explorationHints : Dict
  fallbackMode : FallbackMode

/-- The skills by kind. -/
inductive Skill where
  | retrieval (skill : RetrievalSkill)
  | data (skill : DataSkill)
  | other

/-- Look a skill up. An id that cannot be hashed raises. -/
def getById (registry : Val → Option Skill) : Val → Except Exc (Option Skill)
  | .list _ => .error .typeError
  | .dict _ => .error .typeError
  | skillId => .ok (registry skillId)

/-- The context a retrieval skill requires has to be there. A name that is no
    text cannot be listed among the missing, and raises too. -/
def requireSkillContext (skill : RetrievalSkill) (context : Dict) : Except Exc Unit := do
  let required ← pyIter (pyGet skill.queryContextRequirements "required_context" (.list []))
  let names ← required.mapM (fun name => match name with
    | .str s => Except.ok s
    | _ => .error .typeError)
  if names.all (fun name => (pyGet context name .none).truthy) then .ok ()
  else .error .valueError

/-- The target of a retrieval skill: the one that is asked for, which has to
    be declared, or the one that is required, if there is one only. -/
def selectTarget (u : Unicode) (skill : RetrievalSkill) (requested : Val) : Except Exc Dict :=
  if requested.truthy then
    match requested with
    | .str targetId =>
        match skill.ragTargets.reverse.find?
            (fun target => (pyGet target "target_id" .none).toStr u == targetId) with
        | some target => .ok target
        | none => .error .valueError
    | .list _ => .error .typeError
    | .dict _ => .error .typeError
    | _ => .error .valueError
  else
    match skill.ragTargets.filter (fun target => (pyGet target "required" .none).truthy) with
    | [target] => .ok target
    | _ => .error .valueError

/-- What the templates of a target make of the input and its context: a query,
    none where the target is skipped, or an exception. -/
abbrev QueryBuilder := RetrievalSkill → Dict → Dict → Dict → Except Exc (Option String)

/-- `SkillRAGExecutor.prepare`. The knowledge base is that of the target, and
    the tenant that of the context, in which the input goes over the rest. -/
def prepare (u : Unicode) (registry : Val → Option Skill) (buildQuery : QueryBuilder)
    (input : Dict) : Except Exc (Option Dict) := do
  let skillId := pyGet input "retrieval_skill_id" .none
  if ¬ skillId.truthy then .error .valueError
  else
    match ← getById registry skillId with
    | some (.retrieval skill) =>
        match pyGet input "context" (.dict []) with
        | .dict given =>
            -- The input was made from the step, so the step speaks last.
            let context := dictUpdate given input
            requireSkillContext skill context
            let target ← selectTarget u skill (pyGet input "rag_target_id" .none)
            match ← buildQuery skill target input context with
            | none => return none
            | some query =>
                match target.lookup "kb_id" with
                | none => .error .keyError
                | some kbId =>
                    return some
                      [("query", .str query),
                        ("tenant_id", .str ((pyGet context "tenant_id" (.str "")).toStr u)),
                        ("kb_ids", pyStrs [kbId.toStr u])]
        | _ => .error .valueError
    | _ => .error .valueError

/-- What the RAG adapter asks of a retrieval skill. The tenant and the
    question go over the extra arguments. -/
def skillInput (args : StepArgs) (state : Dict) : Dict :=
  dictUpdate args.extra
    [("query", stepQuery args state),
      ("tenant_id", stateTenant state),
      ("time_range", pyGet args.extra "time_range" (pyGet state "time_range" .none)),
      ("report_date", pyGet args.extra "report_date" (pyGet state "report_date" .none))]

/-- Prepares what a skill retrieves. -/
def executeSkillRag (u : Unicode) (registry : Val → Option Skill) (buildQuery : QueryBuilder)
    (args : StepArgs) (state : Dict) : Except Exc (Option Dict) :=
  prepare u registry buildQuery (skillInput args state)

/-- The input the RAG adapter hands to the RAG tool. There is none where a
    retrieval skill skips its target. -/
def ragExecutor (u : Unicode) (registry : Val → Option Skill) (buildQuery : QueryBuilder)
    (args : StepArgs) (state : Dict) : Except Exc (Option Dict) :=
  if (pyGet args.extra "retrieval_skill_id" .none).truthy then
    executeSkillRag u registry buildQuery args state
  else (executeRag args state).map some

end Skills

section Database

/-- The values that are equal as keys of a set. -/
def keyEq : Val → Val → Bool
  | .none, .none => true
  | .bool a, .bool b => a == b
  | .int a, .int b => a == b
  | .float a _, .float b _ => a == b
  | .bool a, .int b => (if a then 1 else 0) == b
  | .int a, .bool b => a == (if b then 1 else 0)
  | .int a, .float b _ => (a : ℚ) == b
  | .float a _, .int b => a == (b : ℚ)
  | .bool a, .float b _ => (if a then 1 else 0) == b
  | .float a _, .bool b => a == (if b then 1 else 0)
  | .str a, .str b => a == b
  | .object a _, .object b _ => a == b
  | _, _ => false

/-- Whether a set has a value. Values that cannot be hashed raise. -/
def inSet (v : Val) (members : List Val) : Except Exc Bool :=
  let unhashable : Val → Bool := fun w => match w with
    | .list _ => true
    | .dict _ => true
    | _ => false
  if (v :: members).any unhashable then .error .typeError
  else .ok (members.any (keyEq v))

/-- Whether a step for a data skill is left to the SQL agent, and with which
    hints: its template is not declared, and the skill allows it. -/
def resolveSqlAgentFallback (registry : Val → Option Skill) (extra : Dict) :
    Except Exc (Option Dict) := do
  match ← getById registry (pyGet extra "data_skill_id" (.str "")) with
  | some (.data skill) =>
      let declared := skill.queryTemplates.map (fun t => pyGet t "template_id" .none)
      if ← inSet (pyGet extra "query_template_id" .none) declared then return none
      else if skill.fallbackMode = .sqlAgent ∧ skill.explorationHints ≠ [] then
        return some skill.explorationHints
      else return none
  | _ => return none

/-- What the structured path is run with: the context the query is built from,
    and the tenant and the server of the backend, unless the state brings a
    backend of its own. -/
structure StructuredRequest where
  skill : DataSkill
  templateId : Val
  context : Dict
  backend : Option (Val × Val)

/-- What the database adapter hands on. -/
inductive DbRequest where
  | sqlAgent (input : Dict)
  | structured (request : StructuredRequest)

/-- The server of a step: its own, or that of the state. -/
def stepServer (args : StepArgs) (state : Dict) : Val :=
  if args.mcpServerName = "" then pyGet state "mcp_server_name" (.str "database_mcp_server")
  else .str args.mcpServerName

/-- The value is `None`. -/
def isNone : Val → Bool
  | .none => true
  | _ => false

/-- Prepares what a skill queries. -/
def executeStructuredDatabase (registry : Val → Option Skill) (args : StepArgs) (state : Dict) :
    Except Exc StructuredRequest := do
  let extra := args.extra
  match ← getById registry (pyGet extra "data_skill_id" .none) with
  | some (.data skill) =>
      let context : Dict :=
        [("tenant_id", stateTenant state),
          ("time_range", pyGet extra "time_range" (pyGet state "time_range" .none)),
          ("report_date", pyGet extra "report_date" (pyGet state "report_date" .none)),
          ("filters", pyGet extra "filters" (.dict [])),
          ("limit", pyGet extra "limit" .none)]
      return {
        skill := skill
        templateId := pyGet extra "query_template_id" .none
        context := context.filter (fun kv => !isNone kv.2)
        backend :=
          if isNone (pyGet state "structured_db_execute_sql" .none) then
            some (stateTenant state, stepServer args state)
          else none }
  | _ => .error .valueError

/-- The input of the SQL agent. The extra arguments go over everything
    else. -/
def executeSqlAgent (args : StepArgs) (state : Dict) : Except Exc Dict := do
  let agentConfig ← pyGetMapping state "agent_config"
  let dbConfig ← pyGetMapping agentConfig "database_config"
  let query := stepQuery args state
  let simplified := if args.querySimplified = "" then pyGet state "query_simplified" (.str "")
    else .str args.querySimplified
  let dbId := if args.dbId = "" then pyGet state "db_id" (.str "") else .str args.dbId
  let base : Dict :=
    [("query", query),
      ("query_simplified", pyOr simplified query),
      ("query_lang", pyGet state "query_lang" (.str "zh_CN")),
      ("db_id", dbId),
      ("tenant_id", stateTenant state),
      ("llm_id", pyGet state "llm_id" (.str "")),
      ("mcp_server_name", stepServer args state),
      ("enable_self_healing", pyGet dbConfig "enable_self_healing" (.bool true)),
      ("enable_template", pyGet dbConfig "enable_template" (.bool true))]
  let configured : Dict :=
    [("exploration_mode", pyGet dbConfig "exploration_mode" .none),
      ("sql_agent_config", pyGet dbConfig "sql_agent_config" .none)]
  return dictUpdate (dictUpdate base (configured.filter (fun kv => kv.2.truthy))) args.extra

/-- The database adapter. The hints of a data skill that is left to the SQL
    agent do not reach the input. -/
def executeDatabase (registry : Val → Option Skill) (args : StepArgs) (state : Dict) :
    Except Exc DbRequest := do
  let extra := args.extra
  if (pyGet extra "data_skill_id" .none).truthy && (pyGet extra "query_template_id" .none).truthy
  then
    match ← resolveSqlAgentFallback registry extra with
    | none => return .structured (← executeStructuredDatabase registry args state)
    -- The hints are only asked whether they are there.
    | some _ => return .sqlAgent (← executeSqlAgent args state)
  else return .sqlAgent (← executeSqlAgent args state)

end Database

end AgenticRag

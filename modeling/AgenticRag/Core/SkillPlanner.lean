import AgenticRag.Core.Plan
import AgenticRag.Core.SkillCard

/-!
# Plans from Skills

For a request with a resolved skill set no model is asked for a plan. Each
query template of the data skill becomes a step for the database of its target,
each target of the retrieval skill one for its knowledge base, a skill that
asks for graph evidence adds one for the graph, and the last step writes the
report from all of them. The filters of templates and targets have variables in
braces, which are filled from the context of the request and what the
configuration of the agent adds to it.

## Main definitions

* `PlannedSkillSet`, `SkillPlanContext`: What a plan is made from.
* `buildPlan`: The plan.
-/

namespace AgenticRag

namespace Skills

open Py Ordered Structured Plan

section Models

/-- A data skill with what a plan is made from. -/
structure PlannedDataSkill extends DataSkill where
  dbTargets : List Dict := []
  queryTemplates : List Dict := []
  validationRules : List Dict := []

/-- A retrieval skill with what a plan is made from. -/
structure PlannedRetrievalSkill extends RetrievalSkill where
  ragTargets : List Dict := []
  queryContextRequirements : Dict := []

/-- A report skill with the format of its reports. -/
structure PlannedReportSkill extends ReportSkill where
  defaultFormat : Option String := none

/-- The `ResolvedSkillSet` that a plan is made from. -/
structure PlannedSkillSet where
  reportSkill : PlannedReportSkill
  dataSkill : Option PlannedDataSkill := none
  retrievalSkill : Option PlannedRetrievalSkill := none

/-- What a plan is built from. -/
structure SkillPlanContext where
  userQuestion : String
  tenantId : String
  timeRange : Option Dict := none
  reportDate : Option String := none
  queryLang : String := "zh-CN"
  skillSet : PlannedSkillSet
  agentConfig : Dict := []

/-- A plan, or why there is none. -/
structure SkillPlanResult where
  success : Bool
  plan : Option ExecutionPlan := none
  reason : String := ""
  missingContext : List String := []

end Models

section Templates

/-- A brace. -/
def isBrace (c : Char) : Bool := c == '{' || c == '}'

/-- A piece of a template: a character, or a variable in braces. -/
inductive TemplatePiece where
  | char (c : Char)
  | slot (name : String)
  deriving DecidableEq, Repr

/-- The variables are the matches of an opening brace, one or more characters
    that are no braces, and a closing brace. The counter holds how many
    characters of the last variable are still to be skipped. -/
def templatePiecesFrom : Nat → List Char → List TemplatePiece
  | _, [] => []
  | skip + 1, _ :: cs => templatePiecesFrom skip cs
  | 0, c :: cs =>
      let name := cs.takeWhile (fun x => !isBrace x)
      if c = '{' ∧ name ≠ [] ∧ (cs.drop name.length).head? = some '}' then
        .slot (String.ofList name) :: templatePiecesFrom (name.length + 1) cs
      else .char c :: templatePiecesFrom 0 cs

/-- The pieces of a template. -/
def templatePieces (text : String) : List TemplatePiece :=
  templatePiecesFrom 0 text.toList

/-- A variable without a value is left as it is. -/
def TemplatePiece.fill (value : String → Option String) : TemplatePiece → List Char
  | .char c => [c]
  | .slot name =>
      match value name with
      | some text => text.toList
      | none => '{' :: (name.toList ++ ['}'])

/-- A template, filled in. -/
def renderText (value : String → Option String) (text : String) : String :=
  String.ofList ((templatePieces text).flatMap (TemplatePiece.fill value))

mutual

/-- `_render_value`: fill the variables in all texts of a value. The keys of
    mappings are left alone. -/
def renderValue (value : String → Option String) : Val → Val
  | .str s => .str (renderText value s)
  | .list xs => .list (renderValues value xs)
  | .dict kvs => .dict (renderEntries value kvs)
  | v => v

/-- Values, filled in. -/
def renderValues (value : String → Option String) : List Val → List Val
  | [] => []
  | v :: vs => renderValue value v :: renderValues value vs

/-- Entries, filled in. -/
def renderEntries (value : String → Option String) : List (String × Val) → List (String × Val)
  | [] => []
  | (k, v) :: rest => (k, renderValue value v) :: renderEntries value rest

end

/-- The names of the variables of a text. -/
def variablesOf (text : String) : List String :=
  (templatePieces text).filterMap (fun p => match p with
    | .char _ => none
    | .slot name => some name)

/-- The additions of the agent to the context of a request. -/
def extraContext (context : SkillPlanContext) : Dict :=
  match pyGet context.agentConfig "context" (.dict []) with
  | .dict extras => extras
  | _ => []

/-- `_template_context`. The additions go over what the request has. -/
def templateContext (context : SkillPlanContext) : Dict :=
  dictUpdate
    [("tenant_id", .str context.tenantId),
      ("time_range", (context.timeRange.map Val.dict).getD .none),
      ("report_date", (context.reportDate.map Val.str).getD .none),
      ("query_lang", .str context.queryLang)]
    (extraContext context)

variable (u : Unicode)

/-- What a variable is filled with. -/
def contextValue (templateContext : Dict) (name : String) : Option String :=
  (templateContext.lookup name).map (Val.toStr u)

end Templates

section Context

/-- The names of the context that the rules of a data skill require. -/
def dataRequiredContext : List Dict → Except Exc (List String)
  | [] => .ok []
  | rule :: rest => do
      let items ← pyIter (pyGet rule "required_context" (.list []))
      let names := items.filterMap (fun item => match item with
        | .str s => some s
        | _ => none)
      return names ++ (← dataRequiredContext rest)

/-- `_missing_required_context`: what is required and has no value. -/
def missingRequiredContext (context : SkillPlanContext) : Except Exc (List String) := do
  let rules ← dataRequiredContext
    ((context.skillSet.dataSkill.map (·.validationRules)).getD [])
  let required := context.skillSet.reportSkill.requiredContext ++ rules
  let missing := required.filter (fun name =>
    !(pyGet (templateContext context) name .none).truthy)
  return missing.dedup.insertionSort (fun a b => a ≤ b)

end Context

section Steps

variable (u : Unicode)

/-- The access `d[key]`. -/
def pyItem (d : Dict) (key : String) : Except Exc Val :=
  match d.lookup key with
  | some v => .ok v
  | none => .error .keyError

/-- The ids of the skills a step was made from. -/
def skillContext (skillSet : PlannedSkillSet) : Dict :=
  [("skill_id", .str skillSet.reportSkill.skillId),
    ("data_skill_id", (skillSet.dataSkill.map (fun s => Val.str s.skillId)).getD .none),
    ("retrieval_skill_id", (skillSet.retrievalSkill.map (fun s => Val.str s.skillId)).getD .none)]

/-- The targets under their ids, the last one of an id winning. -/
def dbTargetsById (targets : List Dict) : List (String × Dict) :=
  dictOf (targets.filterMap (fun target => match pyGet target "target_id" .none with
    | .str targetId => some (targetId, target)
    | _ => none))

/-- The target of a query template, if it is declared. -/
def templateTarget (dataSkill : PlannedDataSkill) (template : Dict) :
    Except Exc (Option Dict) :=
  match pyGet template "target_id" .none with
  | .str targetId => .ok ((dbTargetsById dataSkill.dbTargets).lookup targetId)
  -- What cannot be hashed raises, and no other key is a text.
  | .list _ => .error .typeError
  | .dict _ => .error .typeError
  | _ => .ok none

/-- The step for a query template and its target. -/
def buildDatabaseStep (context : SkillPlanContext) (template target : Dict) :
    Except Exc PlanStep := do
  let filters := renderValue (contextValue u (templateContext context))
    (pyGet template "filters" (.dict []))
  let templateId := (← pyItem template "template_id").toStr u
  let dbId := (← pyItem target "db_id").toStr u
  let tableName := (← pyItem template "table_name").toStr u
  return {
    stepId := "query_" ++ templateId
    tool := .database
    args := {
      query := (pyGet template "purpose" (.str context.userQuestion)).toStr u
      dbId := dbId
      extra := skillContext context.skillSet ++
        [("query_template_id", .str templateId), ("table_name", .str tableName),
          ("target_id", pyGet template "target_id" .none), ("filters", filters)] }
    canParallel := true
    description := (pyGet template "purpose" (.str "")).toStr u }

/-- A template whose target is not declared is skipped. -/
def databaseStepsOf (context : SkillPlanContext) (dataSkill : PlannedDataSkill) :
    List Dict → Except Exc (List PlanStep)
  | [] => .ok []
  | template :: rest => do
      match ← templateTarget dataSkill template with
      | none => databaseStepsOf context dataSkill rest
      | some target =>
          let step ← buildDatabaseStep u context template target
          let steps ← databaseStepsOf context dataSkill rest
          return step :: steps

/-- The steps that query. -/
def buildDatabaseSteps (context : SkillPlanContext) : Except Exc (List PlanStep) :=
  match context.skillSet.dataSkill with
  | none => .ok []
  | some dataSkill => databaseStepsOf u context dataSkill dataSkill.queryTemplates

/-- `_render_rag_queries`. A query is left out if a variable of it has no
    value, unless the variable is optional and the target is required. -/
def renderRagQueries (templateContext : Dict) (optionalContext : List Val)
    (targetRequired : Bool) : List Val → Except Exc (List String)
  | [] => .ok []
  | template :: rest => do
      let query := (pyGet (← asMapping template) "query" (.str "")).toStr u
      let missing := (variablesOf query).filter (fun name =>
        !(pyGet templateContext name .none).truthy)
      let queries ← renderRagQueries templateContext optionalContext targetRequired rest
      if missing ≠ [] ∧
          ¬ missing.all (fun name => optionalContext.any (keyEq (.str name))) then
        return queries
      else if missing ≠ [] ∧ targetRequired = false then return queries
      else return renderText (contextValue u templateContext) query :: queries

/-- The queries of a target. -/
def targetQueries (context : SkillPlanContext) (optionalContext : List Val) (target : Dict) :
    Except Exc (List String) := do
  renderRagQueries u (templateContext context) optionalContext
    (pyGet target "required" (.bool false)).truthy
    (← pyIter (pyGet target "query_templates" (.list [])))

/-- The id of a template. -/
def templateIdOf (template : Val) : Except Exc Val := do
  let templateId ← pyItem (← asMapping template) "template_id"
  return .str (templateId.toStr u)

/-- The step for a target and its queries. -/
def buildRagStep (context : SkillPlanContext) (target : Dict) (targetId : String)
    (queries : List String) : Except Exc PlanStep := do
  let kbId := (← pyItem target "kb_id").toStr u
  let templateIds ← (← pyIter (pyGet target "query_templates" (.list []))).mapM (templateIdOf u)
  let metadataFilters := renderValue (contextValue u (templateContext context))
    (pyGet target "metadata_filters" (.dict []))
  return {
    stepId := "retrieve_" ++ targetId
    tool := .rag
    args := {
      query := join "\n" queries
      kbIds := [kbId]
      extra := skillContext context.skillSet ++
        [("rag_target_id", .str targetId), ("query_template_ids", .list templateIds),
          ("document_filters", pyGet target "document_filters" (.dict [])),
          ("metadata_filters", metadataFilters)] }
    canParallel := true
    description := (pyGet target "purpose" (.str "")).toStr u }

/-- A target that no query is left of is skipped. -/
def ragStepsOf (context : SkillPlanContext) (optionalContext : List Val) :
    List Dict → Except Exc (List PlanStep)
  | [] => .ok []
  | target :: rest => do
      let targetId := (← pyItem target "target_id").toStr u
      let queries ← targetQueries u context optionalContext target
      if queries.isEmpty then ragStepsOf context optionalContext rest
      else
        let step ← buildRagStep u context target targetId queries
        let steps ← ragStepsOf context optionalContext rest
        return step :: steps

/-- The steps that retrieve. -/
def buildRagSteps (context : SkillPlanContext) : Except Exc (List PlanStep) :=
  match context.skillSet.retrievalSkill with
  | none => .ok []
  | some retrievalSkill => do
      let optionalContext ←
        pySet (pyGet retrievalSkill.queryContextRequirements "optional_context" (.list []))
      ragStepsOf u context optionalContext retrievalSkill.ragTargets

variable (casefold : String → String)

/-- The step for the graph, where a skill asks for graph evidence. -/
def buildGraphSteps (context : SkillPlanContext) : Except Exc (List PlanStep) := do
  let reportSkill := context.skillSet.reportSkill
  let required ← requiresGraph casefold reportSkill.toReportSkill
    (context.skillSet.dataSkill.map (·.toDataSkill))
    (context.skillSet.retrievalSkill.map (·.toRetrievalSkill))
  if ¬ required then return []
  else
    let graphConfig ← asMapping
      (pyOr (pyGet context.agentConfig "graph_config" (.dict [])) (.dict []))
    let maxRows ← (pyGet graphConfig "max_rows" (.int 20)).toInt
    let maxResultChars ← (pyGet graphConfig "max_result_chars" (.int 12000)).toInt
    let timeoutMs ← (pyGet graphConfig "timeout_ms" (.int 30000)).toInt
    return [{
      stepId := "graph_" ++ reportSkill.skillId
      tool := .graph
      args := {
        query := context.userQuestion
        sourceType := (pyGet graphConfig "source_type" (.str "Meeting")).toStr u
        enablePg := (pyGet graphConfig "enable_pg" (.bool false)).truthy
        maxRows := maxRows
        maxResultChars := maxResultChars
        enableHybridRetrieval :=
          (pyGet graphConfig "enable_hybrid_retrieval" (.bool false)).truthy
        timeoutMs := timeoutMs
        extra := skillContext context.skillSet ++
          [("graph_source", .str "skill_evidence_requirement")] }
      canParallel := true
      description := "图谱问答：" ++ reportSkill.name }]

/-- The step that writes the report from all others. -/
def buildReportStep (context : SkillPlanContext) (evidenceSteps : List PlanStep) : PlanStep :=
  let reportSkill := context.skillSet.reportSkill
  { stepId := "generate_" ++ reportSkill.skillId
    tool := .report
    args := {
      query := "生成" ++ reportSkill.name
      extra := skillContext context.skillSet ++
        [("format", .str (if reportSkill.defaultFormat.getD "" = "" then "markdown"
          else reportSkill.defaultFormat.getD ""))] }
    dependsOn := evidenceSteps.map (·.stepId)
    canParallel := false
    description := "生成" ++ reportSkill.name }

/-- The steps that gather evidence. -/
def evidenceSteps (context : SkillPlanContext) : Except Exc (List PlanStep) := do
  let databaseSteps ← buildDatabaseSteps u context
  let ragSteps ← buildRagSteps u context
  let graphSteps ← buildGraphSteps u casefold context
  return databaseSteps ++ ragSteps ++ graphSteps

/-- `SkillPlannerAdapter.build_plan`. -/
def buildPlan (context : SkillPlanContext) : Except Exc SkillPlanResult := do
  let missing ← missingRequiredContext context
  if missing ≠ [] then
    return { success := false, reason := "MISSING_REQUIRED_CONTEXT", missingContext := missing }
  else
    let steps ← evidenceSteps u casefold context
    return {
      success := true
      plan := some {
        planId := context.skillSet.reportSkill.skillId ++ "_plan"
        steps := steps ++ [buildReportStep context steps]
        fallbackStrategy := "skill_guided" } }

end Steps

end Skills

end AgenticRag

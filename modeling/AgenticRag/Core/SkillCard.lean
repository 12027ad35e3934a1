import AgenticRag.Core.StructuredQuery

/-!
# Skills and their Cards

A skill configures how a kind of report is made. A report skill declares the
report, and may be linked to a data skill, which constrains what is read from
databases, and to a retrieval skill, which does so for knowledge bases. What a
request is given is a resolved set of the three.

A skill is looked up through its card, which is derived from the skill and the
skills linked to it. Before anything is searched for, the cards a request may
not use are filtered out: by lifecycle, tenant, permissions, disabled tools,
latency and exclusion rules, in this order.

A catalog is a snapshot of skills and cards under their keys, with one index
for each way skills are looked up.

## Main definitions

* `ReportSkill`, `DataSkill`, `RetrievalSkill`: The skills.
* `FilterContext`, `check`, `applyFilter`: The filter.
-/

namespace AgenticRag

namespace Skills

open Py Ordered Structured

section SkillModels

/-- What all skills have. -/
structure SkillBase where
  skillId : String
  version : String := "1.0.0"
  name : String := ""
  description : String := ""
  enabled : Bool := true
  linkedReportSkillId : Option String := none
  requiredPermissions : List String := []

/-- A skill that reports. -/
structure ReportSkill extends SkillBase where
  reportType : String
  linkedSkills : List (String × String) := []
  intentKeywords : List String := []
  requiredContext : List String := []
  allowedTenants : List String := []
  requiredEvidenceTypes : List String := []
  allowedFormats : List String := []
  publishPolicy : Dict := []

/-- A skill that queries. -/
structure DataSkill extends SkillBase where
  evidenceRequirements : List Dict := []
  policyConstraints : Dict := []

/-- A skill that retrieves. -/
structure RetrievalSkill extends SkillBase where
  evidenceRequirements : List Dict := []
  retrievalPolicy : Dict := []

/-- How the skill of a request was found. -/
inductive ResolutionSource where
  | skillId
  | reportType
  | keyword
  | tenantDefault
  | fallback
  deriving DecidableEq, Repr

/-- A report skill and what it uses. -/
structure ResolvedSkillSet where
  reportSkill : ReportSkill
  dataSkill : Option DataSkill := none
  retrievalSkill : Option RetrievalSkill := none
  resolutionSource : ResolutionSource := .skillId
  fallbackUsed : Bool := false
  warnings : List String := []

/-- What a skill is looked for with. -/
structure SkillResolveContext where
  userQuestion : String
  tenantId : String
  skillId : Option String := none
  reportType : Option String := none
  routeDecision : Option Dict := none
  agentConfig : Option Dict := none

end SkillModels

section Cards

/-- The kinds of a skill. -/
inductive SkillType where
  | report
  | data
  | retrieval
  deriving DecidableEq, Repr

/-- The name of a kind. -/
def SkillType.name : SkillType → String
  | .report => "report"
  | .data => "data"
  | .retrieval => "retrieval"

/-- How risky a skill is. -/
inductive CardRisk where
  | low
  | medium
  | high
  | critical
  deriving DecidableEq, Repr

/-- How costly a skill is. -/
inductive CostClass where
  | low
  | medium
  | high
  deriving DecidableEq, Repr

/-- How fast a skill is. -/
inductive LatencyClass where
  | interactive
  | batch
  deriving DecidableEq, Repr

/-- Where a skill may run. -/
inductive ExecutionMode where
  | mainChain
  | reactOnly
  deriving DecidableEq, Repr

/-- A skill, as the search sees it. -/
structure SkillCard where
  skillId : String
  version : String := "1.0.0"
  skillType : SkillType := .report
  nameSpace : String := ""
  name : String := ""
  description : String := ""
  domains : List String := []
  capabilities : List String := []
  intents : List String := []
  aliases : List String := []
  languages : List String := []
  positiveExamples : List String := []
  negativeExamples : List String := []
  requiredContext : List String := []
  exclusionRules : List Dict := []
  requiredPermissions : List String := []
  allowedTenants : List String := []
  lifecycleStatus : String := "active"
  tenantOverrides : List (String × Bool) := []
  riskLevel : CardRisk := .low
  costClass : CostClass := .low
  latencyClass : LatencyClass := .interactive
  dependenciesHealthy : Bool := true
  requiredDependencyIds : List String := []
  executionMode : ExecutionMode := .mainChain
  reportType : Option String := none

/-- A skill of any type. -/
inductive Skill where
  | report (skill : ReportSkill)
  | data (skill : DataSkill)
  | retrieval (skill : RetrievalSkill)

/-- The skill, if it reports. -/
def Skill.report? : Skill → Option ReportSkill
  | .report skill => some skill
  | _ => none

/-- Who may use a skill that is being rolled out. -/
structure SkillGovernance where
  canaryTenants : List String := []
  rolloutPercentage : ℚ := 100

/-- `SkillCatalogSnapshot`. The mappings are in the order their keys were
    set. -/
structure SkillCatalogSnapshot where
  skillsById : List (String × Skill) := []
  reportTypeIndex : List (String × ReportSkill) := []
  dataSkillIndex : List (String × DataSkill) := []
  retrievalSkillIndex : List (String × RetrievalSkill) := []
  cardsByKey : List ((String × String) × SkillCard) := []
  manifestsById : List (String × SkillGovernance) := []

namespace SkillCatalogSnapshot

variable (s : SkillCatalogSnapshot)

/-- The skill of an id. -/
def getById (skillId : String) : Option Skill := s.skillsById.lookup skillId

/-- The skill for a type of report. -/
def getReportByType (reportType : String) : Option ReportSkill :=
  s.reportTypeIndex.lookup reportType

/-- The data skill of a report. -/
def getDataForReport (skillId : String) : Option DataSkill := s.dataSkillIndex.lookup skillId

/-- The retrieval skill of a report. -/
def getRetrievalForReport (skillId : String) : Option RetrievalSkill :=
  s.retrievalSkillIndex.lookup skillId

/-- All skills. -/
def listAll : List Skill := s.skillsById.map Prod.snd

/-- All cards. -/
def listCards : List SkillCard := s.cardsByKey.map Prod.snd

/-- The first card under a skill's id, of whatever version. -/
def getCard (skillId : String) : Option SkillCard :=
  (s.cardsByKey.find? (fun kv => kv.1.1 == skillId)).map Prod.snd

/-- The manifest of a skill. -/
def getManifest (skillId : String) : Option SkillGovernance := s.manifestsById.lookup skillId

end SkillCatalogSnapshot

end Cards

section Governance

/-- `SkillResolverLifecycleFilter.is_selectable`. -/
def isSelectable (defaultAllowApproved : Bool) (skillStatus tenantId : String)
    (tenantOverrides : Option (List (String × Bool))) : Bool :=
  if skillStatus = "active" then true
  else if skillStatus = "approved" then
    if defaultAllowApproved then true
    else
      match tenantOverrides with
      | some overrides =>
          if tenantId ≠ "" ∧ overrides ≠ [] then (overrides.lookup tenantId).getD false else false
      | none => false
  else false

/-- `PermissionIntersection.is_skill_available`: everything a skill requires is
    among the permissions of the user. -/
def isSkillAvailable (userPermissions : List Val) (required : List String) : Except Exc Bool := do
  let userSet ← pySet (.list userPermissions)
  return required.all (fun p => userSet.any (keyEq (.str p)))

/-- An empty list allows every tenant. -/
def tenantAllowed (allowedTenants : List String) (tenantId : String) : Bool :=
  allowedTenants.isEmpty || allowedTenants.contains tenantId

/-- A tool that the configuration of a request has not switched off. -/
def toolEnabled (config : Dict) (tool : String) : Bool :=
  match pyGet config tool (.dict []) with
  | .dict toolConfig => (pyGet toolConfig "enabled" (.bool true)).truthy
  | _ => true

end Governance

section Graph

/-- The evidence from the graph. -/
def graphEvidenceTypes : List String := ["graph", "graph_rows", "graph_result"]

variable (casefold : String → String)

/-- The kind of evidence a requirement asks for. -/
def evidenceType (req : Dict) : Except Exc String :=
  match pyOr (pyGet req "evidence_type" .none) (.str "") with
  | .str s => .ok (casefold s)
  | _ => .error .attributeError

/-- One of the requirements asks for graph evidence. -/
def requirementsAskGraph : List Dict → Except Exc Bool
  | [] => .ok false
  | req :: rest => do
      if (← evidenceType casefold req) ∈ graphEvidenceTypes then return true
      else requirementsAskGraph rest

/-- `_requires_graph` of the builder and `_skill_requires_graph` of the
    resolver, which are the same: a report or a skill linked to it asks for
    graph evidence. -/
def requiresGraph (skill : ReportSkill) (dataSkill : Option DataSkill)
    (retrievalSkill : Option RetrievalSkill) : Except Exc Bool := do
  if (skill.requiredEvidenceTypes.map casefold).any (fun t => graphEvidenceTypes.contains t) then
    return true
  else if ← requirementsAskGraph casefold ((dataSkill.map (·.evidenceRequirements)).getD []) then
    return true
  else
    requirementsAskGraph casefold ((retrievalSkill.map (·.evidenceRequirements)).getD [])

end Graph

section Builder

/-- The domains of a type of report. -/
def reportTypeDomainMap : List (String × List String) :=
  [("quality_analysis", ["quality"]), ("production_analysis", ["production"]),
    ("production_daily", ["production"]), ("factory_performance", ["production"]),
    ("cost_analysis", ["cost"]), ("delivery_analysis", ["delivery"]),
    ("operations_analysis", ["operations"]),
    ("supplier_quality_analysis", ["quality", "supplier"]), ("generic_analysis", ["generic"])]

variable (casefold : String → String)

-- Only the types registered above come as far as what is derived from them, and
-- these are ASCII.

/-- The risk for a type of report. -/
def deriveRiskLevel (reportType : String) : CardRisk :=
  if ["financial", "compliance", "audit"].any (fun tag => contains reportType.toLower tag) then
    .high
  else .medium

/-- The cost of a report. -/
def deriveCostClass (skill : ReportSkill) : CostClass :=
  if contains skill.reportType.toLower "batch" then .high
  else if (skill.linkedSkills.lookup "data").getD "" ≠ "" then .medium
  else .low

/-- The speed for a type of report. -/
def deriveLatencyClass (reportType : String) : LatencyClass :=
  if ["batch", "monthly", "quarterly"].any (fun tag => contains reportType.toLower tag) then
    .batch
  else .interactive

/-- The namespace of a card. -/
def deriveNamespace (skillId : String) (skillType : SkillType) (domains : List String) : String :=
  s!"{domains.headD skillType.name}.{skillType.name}.{skillId}"

/-- The state of a skill. -/
def lifecycleOf (enabled : Bool) : String :=
  if enabled then "active" else "deprecated"

/-- What a report skill can do, by the skills linked to it. -/
def deriveCapabilities (skill : ReportSkill) (dataSkill : Option DataSkill)
    (retrievalSkill : Option RetrievalSkill) : Except Exc (List String) := do
  let graph ← requiresGraph casefold skill dataSkill retrievalSkill
  return ["report"] ++ (if dataSkill.isSome then ["database"] else []) ++
    (if retrievalSkill.isSome then ["rag"] else []) ++ (if graph then ["graph"] else [])

/-- The skills a report needs. -/
def deriveRequiredDependencyIds (dataSkill : Option DataSkill)
    (retrievalSkill : Option RetrievalSkill) : List String :=
  (dataSkill.map (·.skillId)).toList ++ (retrievalSkill.map (·.skillId)).toList

/-- `CatalogBuilder._build_report_card`. A type of report that is not
    registered has no card. -/
def buildReportCard (skill : ReportSkill) (dataSkill : Option DataSkill)
    (retrievalSkill : Option RetrievalSkill) : Except Exc SkillCard :=
  match reportTypeDomainMap.lookup skill.reportType with
  | none => .error .valueError
  | some domains => do
      return {
        skillId := skill.skillId
        version := skill.version
        skillType := .report
        nameSpace := deriveNamespace skill.skillId .report domains
        name := skill.name
        description := skill.description
        domains := domains
        capabilities := ← deriveCapabilities casefold skill dataSkill retrievalSkill
        intents := skill.intentKeywords
        languages := ["zh_CN"]
        requiredContext := skill.requiredContext
        requiredPermissions := skill.requiredPermissions
        allowedTenants := skill.allowedTenants
        lifecycleStatus := lifecycleOf skill.enabled
        riskLevel := deriveRiskLevel skill.reportType
        costClass := deriveCostClass skill
        latencyClass := deriveLatencyClass skill.reportType
        requiredDependencyIds := deriveRequiredDependencyIds dataSkill retrievalSkill
        reportType := some skill.reportType }

end Builder

section Filter

/-- Why a card is filtered out. -/
inductive FilterReason where
  | lifecycleNotSelectable
  | tenantNotAllowed
  | permissionDenied
  | capabilityDisabled
  | latencyMismatch
  | exclusionRuleMatched
  deriving DecidableEq, Repr

/-- The name of a reason. -/
def FilterReason.name : FilterReason → String
  | .lifecycleNotSelectable => "LIFECYCLE_NOT_SELECTABLE"
  | .tenantNotAllowed => "TENANT_NOT_ALLOWED"
  | .permissionDenied => "PERMISSION_DENIED"
  | .capabilityDisabled => "CAPABILITY_DISABLED"
  | .latencyMismatch => "LATENCY_MISMATCH"
  | .exclusionRuleMatched => "EXCLUSION_RULE_MATCHED"

/-- The request that is filtered for. -/
structure FilterContext where
  tenantId : String := ""
  userPermissions : Option (List Val) := none
  agentConfig : Dict := []
  routeTarget : Val := .str ""
  entities : Val := .none

/-- The configuration of a request. -/
def SkillResolveContext.config (ctx : SkillResolveContext) : Dict := ctx.agentConfig.getD []

/-- What the router has added to its decision. -/
def SkillResolveContext.metadata (ctx : SkillResolveContext) : Val :=
  pyGet (ctx.routeDecision.getD []) "metadata" (.dict [])

/-- `FilterContext.from_resolve_context`. -/
def FilterContext.fromResolveContext (ctx : SkillResolveContext) : FilterContext where
  tenantId := ctx.tenantId
  userPermissions := match pyGet ctx.config "permissions" .none with
    | .list xs => some xs
    | _ => none
  agentConfig := ctx.config
  routeTarget := pyGet (ctx.routeDecision.getD []) "target" (.str "")
  entities := match ctx.metadata with
    | .dict metadata => pyGet metadata "entities" .none
    | _ => .none

variable (defaultAllowApproved : Bool)

/-- The lifecycle of a card: what is approved is asked about as if it were
    active. -/
def lifecycleSelectable (card : SkillCard) (ctx : FilterContext) : Bool :=
  if card.lifecycleStatus = "active" then true
  else if card.lifecycleStatus = "approved" then
    isSelectable defaultAllowApproved "active" ctx.tenantId
      (if card.tenantOverrides = [] then none else some card.tenantOverrides)
  else false

/-- The user has the permissions. -/
def permissionOk (card : SkillCard) (ctx : FilterContext) : Except Exc Bool :=
  match ctx.userPermissions with
  | none => .ok true
  | some permissions => isSkillAvailable permissions card.requiredPermissions

/-- The tools needed are on. -/
def runtimeCapabilityOk (card : SkillCard) (ctx : FilterContext) : Bool :=
  !(!toolEnabled ctx.agentConfig "db_tool" && card.capabilities.contains "database")

/-- The card is fast enough. -/
def latencyOk (card : SkillCard) (ctx : FilterContext) : Bool :=
  card.latencyClass = .interactive || pyEq ctx.routeTarget (.str "report")

/-- The lookup `entities.get(field)`, which raises on what cannot be hashed. -/
def entityValue (entities : Dict) : Val → Except Exc Val
  | .str field => .ok (pyGet entities field .none)
  | .list _ => .error .typeError
  | .dict _ => .error .typeError
  | _ => .ok .none

/-- One exclusion rule matches the entities of a request. -/
def ruleMatches (entities : Val) (rule : Dict) : Except Exc Bool :=
  let field := pyGet rule "when_entity" .none
  match field.truthy, pyGet rule "equals" .none with
  | false, _ => .ok false
  | true, .none => .ok false
  | true, expected => do
      let known ← asMapping (pyOr entities (.dict []))
      return pyEq (← entityValue known field) expected

/-- A rule leaves the card out. -/
def excludedByRules (entities : Val) : List Dict → Except Exc Bool
  | [] => .ok false
  | rule :: rest => do
      if ← ruleMatches entities rule then return true
      else excludedByRules entities rest

/-- `HardFilter._check`: the first reason to filter a card out, if there is
    one. -/
def check (card : SkillCard) (ctx : FilterContext) : Except Exc (Option FilterReason) := do
  if ¬ lifecycleSelectable defaultAllowApproved card ctx then
    return some .lifecycleNotSelectable
  else if ¬ tenantAllowed card.allowedTenants ctx.tenantId then
    return some .tenantNotAllowed
  else if ¬ (← permissionOk card ctx) then
    return some .permissionDenied
  else if ¬ runtimeCapabilityOk card ctx then
    return some .capabilityDisabled
  else if ¬ latencyOk card ctx then
    return some .latencyMismatch
  else if ← excludedByRules ctx.entities card.exclusionRules then
    return some .exclusionRuleMatched
  else return none

/-- `HardFilter.apply`: the cards that pass. -/
def applyFilter (ctx : FilterContext) : List SkillCard → Except Exc (List SkillCard)
  | [] => .ok []
  | card :: rest => do
      let reason ← check defaultAllowApproved card ctx
      let passed ← applyFilter ctx rest
      return if reason.isNone then card :: passed else passed

end Filter

end Skills

end AgenticRag

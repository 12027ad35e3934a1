import AgenticRag.Core.SensitiveScanner
import AgenticRag.Core.SkillCard

/-!
# The Policy Guard of the ReAct Loop

Every action the model writes is judged before a tool is called. The rules of
the resolved skills come first, then the list of allowed tools, then what is
checked for each tool: the text of a database query, the query of a web search,
the knowledge bases of a retrieval. The judgement is one of five decisions.

The arguments of an action are a mapping the model has written, and the
configuration is one as well, so any field may have a value of any kind. What a
check cannot handle raises.

## Main definitions

* `SkillPolicyRules`, `buildRules`, `evaluateRules`: The rules of the skills.
* `PolicyGuard`, `PolicyGuard.evaluate`: The guard.
-/

namespace AgenticRag

namespace React

open Py Ordered Skills Structured

section SkillRules

/-- `SkillPolicyRules`. The sets are lists. -/
structure SkillPolicyRules where
  requiredPermissions : List String := []
  allowedTenants : List String := []
  requireTenantFilter : Bool := false
  forbiddenOperations : List String := []
  sensitiveFieldPolicy : Dict := []
  defaultLimit : Option Int := none
  maxRows : Option Int := none
  allowedFormats : List String := []
  publishPolicy : Dict := []
  allowWebFallback : Bool := true

/-- The request, as the rules see it. -/
structure SkillPolicyContext where
  tenantId : String
  permissions : Val
  reportFormat : String
  tenantFilterPresent : Val
  operation : String
  requestedFields : List Val
  webFallbackRequested : Bool

/-- Why a rule denies an action. -/
inductive ReasonCode where
  | permissionDenied
  | tenantNotAllowed
  | formatNotAllowed
  | tenantFilterRequired
  | operationForbidden
  | webFallbackDenied
  deriving DecidableEq, Repr

/-- The name of a reason. -/
def ReasonCode.name : ReasonCode → String
  | .permissionDenied => "PERMISSION_DENIED"
  | .tenantNotAllowed => "TENANT_NOT_ALLOWED"
  | .formatNotAllowed => "FORMAT_NOT_ALLOWED"
  | .tenantFilterRequired => "TENANT_FILTER_REQUIRED"
  | .operationForbidden => "OPERATION_FORBIDDEN"
  | .webFallbackDenied => "WEB_FALLBACK_DENIED"

/-- The text of a reason. -/
def ReasonCode.reason : ReasonCode → String
  | .permissionDenied => "用户缺少 Skill 所需权限"
  | .tenantNotAllowed => "当前租户未启用该 Skill"
  | .formatNotAllowed => "请求的报告格式未被 Skill 允许"
  | .tenantFilterRequired => "Skill 要求查询包含租户过滤条件"
  | .operationForbidden => "操作被 DataSkill 策略禁止"
  | .webFallbackDenied => "RetrievalSkill 禁止 Web fallback"

variable (u : Unicode) (casefold : String → String)

/-- An integer, if it is one. -/
def optionalInt : Val → Option Int
  | .int i => some i
  | .bool b => some (if b then 1 else 0)
  | _ => none

/-- The policies of the data and the retrieval skill. -/
def dataPolicy (skillSet : ResolvedSkillSet) : Dict :=
  (skillSet.dataSkill.map (·.policyConstraints)).getD []

/-- The policy on retrieval. -/
def retrievalPolicy (skillSet : ResolvedSkillSet) : Dict :=
  (skillSet.retrievalSkill.map (·.retrievalPolicy)).getD []

/-- The texts of the operations a data skill forbids. -/
def forbiddenOperations (skillSet : ResolvedSkillSet) : Except Exc (List String) := do
  let operations ← pyIter (pyGet (dataPolicy skillSet) "forbidden_operations" (.list []))
  return operations.map (fun operation => casefold (operation.toStr u))

/-- The rules of a set of skills. -/
def buildRules (skillSet : ResolvedSkillSet) : Except Exc SkillPolicyRules := do
  return {
    -- The permissions of all three skills are required, the tenants only of the first.
    requiredPermissions := skillSet.reportSkill.requiredPermissions ++
      (skillSet.dataSkill.map (·.requiredPermissions)).getD [] ++
      (skillSet.retrievalSkill.map (·.requiredPermissions)).getD []
    allowedTenants := skillSet.reportSkill.allowedTenants
    requireTenantFilter :=
      (pyGet (dataPolicy skillSet) "require_tenant_filter" (.bool false)).truthy ||
        (pyGet (retrievalPolicy skillSet) "require_tenant_filter" (.bool false)).truthy
    forbiddenOperations := ← forbiddenOperations u casefold skillSet
    sensitiveFieldPolicy := ←
      pyDict (pyGet (dataPolicy skillSet) "sensitive_field_policy" (.dict []))
    defaultLimit := optionalInt (pyGet (dataPolicy skillSet) "default_limit" .none)
    maxRows := optionalInt (pyGet (dataPolicy skillSet) "max_rows" .none)
    allowedFormats := skillSet.reportSkill.allowedFormats.map casefold
    publishPolicy := skillSet.reportSkill.publishPolicy
    allowWebFallback :=
      (pyGet (retrievalPolicy skillSet) "allow_web_fallback" (.bool true)).truthy }

/-- The value `False` itself. -/
def isFalse : Val → Bool
  | .bool b => !b
  | _ => false

/-- `SkillPolicyAdapter.evaluate`: the first rule that denies, if there is
    one. -/
def evaluateRules (rules : SkillPolicyRules) (ctx : SkillPolicyContext) :
    Except Exc (Option ReasonCode) := do
  let permissions ← pySet ctx.permissions
  if ¬ rules.requiredPermissions.all (fun p => permissions.any (keyEq (.str p))) then
    return some .permissionDenied
  else if rules.allowedTenants ≠ [] ∧ ctx.tenantId ∉ rules.allowedTenants then
    return some .tenantNotAllowed
  else if ctx.reportFormat ≠ "" ∧ rules.allowedFormats ≠ [] ∧
      casefold ctx.reportFormat ∉ rules.allowedFormats then
    return some .formatNotAllowed
  -- Only the value `False` is denied; any other counts as a filter.
  else if rules.requireTenantFilter ∧ isFalse ctx.tenantFilterPresent then
    return some .tenantFilterRequired
  else if ctx.operation ≠ "" ∧ casefold ctx.operation ∈ rules.forbiddenOperations then
    return some .operationForbidden
  else if ctx.webFallbackRequested ∧ ¬ rules.allowWebFallback then
    return some .webFallbackDenied
  else return none

end SkillRules

section Guard

/-- What the policy says. -/
inductive PolicyDecisionType where
  | allow
  | deny
  | needsApproval
  | needsClarification
  | rewriteArguments
  deriving DecidableEq, Repr

/-- How risky an action is. -/
inductive RiskLevel where
  | low
  | medium
  | high
  deriving DecidableEq, Repr

/-- The skills a request brings: a resolved set, or a value that has yet to be
    checked as one. -/
inductive SkillSetArg where
  | resolved (skillSet : ResolvedSkillSet)
  | raw (v : Val)

/-- An action and who asks for it. -/
structure PolicyContext where
  tenantId : String := ""
  userId : String := ""
  toolName : String := ""
  actionType : String := ""
  purpose : String := ""
  arguments : Dict := []
  agentConfig : Dict := []
  skillSet : Option SkillSetArg := none

/-- What the policy says, and why. -/
structure PolicyResult where
  decision : PolicyDecisionType
  reason : String := ""
  sanitizedArguments : Dict := []
  requiresApproval : Bool := false
  riskLevel : RiskLevel := .low

/-- The settings of the policy. -/
structure PolicyGuard where
  allowedTools : Val
  toolPolicies : Val

/-- Words of a risky statement. -/
def highRiskKeywords : List String :=
  ["drop", "delete", "truncate", "update", "insert", "alter", "create", "grant", "revoke", "--",
    "/*", "xp_", "exec"]

/-- Words of a statement that writes. -/
def writeKeywords : List String :=
  ["insert", "update", "delete", "drop", "alter", "create", "truncate", "replace"]

/-- The tools that may be used. -/
def defaultAllowedTools : Val :=
  pyStrs ["rag_search", "db_query", "web_search", "finish", "ask_clarification"]

/-- `PolicyGuard.__init__`. -/
def PolicyGuard.init (agentConfig : Dict) : Except Exc PolicyGuard := do
  let reactCfg ← pyGetMapping agentConfig "react"
  return {
    allowedTools := pyOr (pyGet reactCfg "allowed_tools" .none) defaultAllowedTools
    toolPolicies := pyOr (pyGet reactCfg "policy" (.dict [])) (.dict []) }

/-- The policy of one tool. -/
def PolicyGuard.toolPolicy (g : PolicyGuard) (tool : String) : Except Exc Dict := do
  pyGetMapping (← asMapping g.toolPolicies) tool

/-- The method `strip`, which only texts have. -/
def stripText : Val → Except Exc String
  | .str s => .ok (strip s)
  | _ => .error .attributeError

/-- The operator `v in container`. -/
def pyIn (v : Val) : Val → Except Exc Bool
  | .list xs => .ok (xs.any (pyEq v))
  | .str s => match v with
    | .str t => .ok (contains s t)
    | _ => .error .typeError
  | .dict kvs => match v with
    | .str k => .ok (kvs.any (fun kv => kv.1 == k))
    | .list _ => .error .typeError
    | .dict _ => .error .typeError
    | _ => .ok false
  | _ => .error .typeError

variable (u : Unicode)

/-- The pattern `\bword\b` is found in a text. -/
def wordFound (word text : String) : Bool :=
  !(finditer (Report.bounded u (lit word)) text).isEmpty

/-- The text of a database query the guard looks at. -/
def checkedSql (args : Dict) : Val :=
  pyOr (pyOr (pyGet args "sql" .none) (pyGet args "query" .none)) (.str "")

/-- A refusal. -/
def deny (reason : String) (riskLevel : RiskLevel) : PolicyResult :=
  { decision := .deny, reason := reason, riskLevel := riskLevel }

/-- A permission. -/
def allow (reason : String) (args : Dict) : PolicyResult :=
  { decision := .allow, reason := reason, sanitizedArguments := args }

/-- The lists of allowed ids that are enforced: lists that are not empty. -/
def enforcedIds (v : Val) : Option (List Val) :=
  match v with
  | .list (x :: xs) => some (x :: xs)
  | _ => none

/-- The policy on a query. -/
def PolicyGuard.evaluateDbQuery (g : PolicyGuard) (args : Dict) : Except Exc PolicyResult := do
  let sql ← stripText (checkedSql args)
  let dbId := pyGet args "db_id" (.str "")
  let sqlLower := u.lower sql
  -- The keywords are found anywhere in the text, also within words.
  match highRiskKeywords.find? (fun kw => contains sqlLower kw) with
  | some kw => return deny s!"SQL 包含高风险关键词 '{kw}'，拒绝执行" .high
  | none =>
      let dbPolicy ← g.toolPolicy "db_query"
      let written :=
        if (pyGet dbPolicy "readonly" (.bool true)).truthy then
          writeKeywords.find? (fun kw => wordFound u kw sqlLower)
        else none
      match written with
      | some kw => return deny s!"readonly 模式禁止写操作 '{kw}'" .high
      | none =>
          if ¬ wordFound u "limit" sqlLower ∧ startsWith sqlLower "select" then
            return { decision := .needsApproval, reason := "SQL 缺少 LIMIT 子句，需要审批"
                     riskLevel := .medium, requiresApproval := true }
          else
            match enforcedIds (pyGet dbPolicy "allowed_db_ids" .none) with
            | some allowed =>
                -- A database that is not named is not held against the list.
                if dbId.truthy ∧ ¬ allowed.any (pyEq dbId) then
                  return deny s!"数据库 {dbId.toStr u} 不在白名单 {(Val.list allowed).toStr u} 中" .high
                else return allow "DB 工具通过策略校验" args
            | none => return allow "DB 工具通过策略校验" args

/-- What no search may hold. -/
def suspiciousTexts : List String := ["javascript:", "data:", "file://", "<script", "</script"]

/-- Addresses inside the network. -/
def privateAddresses : List String := ["127.", "10.", "192.168.", "172.16.", "localhost"]

/-- The policy on a web search. -/
def PolicyGuard.evaluateWebSearch (g : PolicyGuard) (args : Dict) : Except Exc PolicyResult := do
  let query ← stripText (pyOr (pyGet args "query" .none) (.str ""))
  if query = "" then return deny "Web 搜索 query 为空" .low
  else
    match suspiciousTexts.find? (fun kw => contains (u.lower query) kw) with
    | some kw => return deny s!"Web 搜索 query 包含可疑内容 '{kw}'" .high
    | none =>
        let webPolicy ← g.toolPolicy "web_search"
        let refused :=
          if isFalse (pyGet webPolicy "allow_private_ip" (.bool false)) then
            privateAddresses.find? (fun address => contains query address)
          else none
        match refused with
        | some address => return deny s!"Web 搜索禁止访问内网地址 '{address}'" .high
        | none => return allow "Web 工具通过策略校验" args

/-- The policy on a retrieval. -/
def PolicyGuard.evaluateRagSearch (g : PolicyGuard) (args : Dict) : Except Exc PolicyResult := do
  let query ← stripText (pyOr (pyGet args "query" .none) (.str ""))
  if query = "" then
    return { decision := .needsClarification, reason := "RAG 检索 query 为空，需要澄清" }
  else
    let ragPolicy ← g.toolPolicy "rag_search"
    let kbIds := pyGet args "kb_ids" (.list [])
    match enforcedIds (pyGet ragPolicy "allowed_kb_ids" .none) with
    | some allowed =>
        -- Neither are knowledge bases that are not named.
        if kbIds.truthy then
          match (← pyIter kbIds).find? (fun kb => !allowed.any (pyEq kb)) with
          | some kb => return deny s!"知识库 {kb.toStr u} 不在白名单中" .medium
          | none => return allow "RAG 工具通过策略校验" args
        else return allow "RAG 工具通过策略校验" args
    | none => return allow "RAG 工具通过策略校验" args

variable (casefold : String → String) (modelValidate : Val → Option ResolvedSkillSet)

/-- The skills of a request, if they pass as such. -/
def skillSetOf : SkillSetArg → Option ResolvedSkillSet
  | .resolved skillSet => some skillSet
  | .raw v => modelValidate v

/-- Whether an action says that it filters by tenant. -/
def tenantFilterPresent (args : Dict) : Val :=
  match pyGet args "tenant_filter_present" .none with
  | .none => .bool (pyGet args "tenant_id" .none).truthy
  | v => v

/-- What the rules of the skills are evaluated on, read off the arguments. -/
def skillPolicyContext (ctx : PolicyContext) (actionType : String) :
    Except Exc SkillPolicyContext := do
  let permissions := pyGet ctx.agentConfig "permissions" (.list [])
  return {
    tenantId := ctx.tenantId
    permissions := match permissions with
      | .list xs => .list xs
      | _ => .list []
    reportFormat := (pyGet ctx.arguments "format" (.str "")).toStr u
    tenantFilterPresent := tenantFilterPresent ctx.arguments
    operation := (pyGet ctx.arguments "operation" (.str actionType)).toStr u
    requestedFields := ← pyIter (pyGet ctx.arguments "fields" (.list []))
    webFallbackRequested :=
      (pyGet ctx.arguments "web_fallback" (.bool false)).truthy ||
        (pyGet ctx.arguments "use_web_fallback" (.bool false)).truthy }

/-- The rule of the skills that denies an action, if there is one. -/
def skillDenial (skillSet : ResolvedSkillSet) (ctx : PolicyContext) (actionType : String) :
    Except Exc (Option ReasonCode) := do
  let rules ← buildRules u casefold skillSet
  let skillCtx ← skillPolicyContext u ctx actionType
  evaluateRules casefold rules skillCtx

/-- The rules of the skills in use. -/
def evaluateSkillPolicy (ctx : PolicyContext) (actionType : String) :
    Except Exc (Option PolicyResult) :=
  match ctx.skillSet >>= skillSetOf modelValidate with
  | none => .ok none
  | some skillSet => do
      match ← skillDenial u casefold skillSet ctx actionType with
      | none => return none
      | some code => return some (deny s!"{code.name}: {code.reason}" .high)

/-- `PolicyGuard.evaluate`. -/
def PolicyGuard.evaluate (g : PolicyGuard) (ctx : PolicyContext) : Except Exc PolicyResult := do
  let actionType := if ctx.actionType = "" then ctx.toolName else ctx.actionType
  -- The skills are asked first, also about ending the loop.
  match ← evaluateSkillPolicy u casefold modelValidate ctx actionType with
  | some result => return result
  | none =>
      if actionType = "finish" ∨ actionType = "ask_clarification" then
        return allow s!"{actionType} 始终允许" ctx.arguments
      else if ← pyIn (.str actionType) g.allowedTools then
        if actionType = "db_query" then g.evaluateDbQuery u ctx.arguments
        else if actionType = "web_search" then g.evaluateWebSearch u ctx.arguments
        else if actionType = "rag_search" then g.evaluateRagSearch u ctx.arguments
        else return allow s!"工具 {actionType} 通过基础校验" ctx.arguments
      else
        return deny s!"工具 {actionType} 不在白名单 {g.allowedTools.toStr u} 中" .medium

end Guard

end React

end AgenticRag

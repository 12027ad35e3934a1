import AgenticRag.Core.SkillCard
import AgenticRag.Lib.Layers

/-!
# The Hard Filter Chain

Before skills are searched for, the cards of a catalog go through eight layers:
lifecycle, tenant, permission, the capabilities the route needs, language, the
health of dependencies, the tools of the request, and rollout. Each layer says
why it removes a card, and how many cards were removed for which reason is
reported with those that are left.

## Main definitions

* `ChainReason`: Why a card is removed.
* `filterChain`: The chain.
-/

namespace AgenticRag

namespace Skills

open Py Ordered Layers

/-- Why a layer drops a card. -/
inductive ChainReason where
  | lifecycle
  | tenant
  | dependencyTenant
  | permission
  | routeCapability
  | language
  | dependencyHealth
  | runtimeDbDisabled
  | runtimeReactDisabled
  | canaryExcluded
  | rolloutExcluded
  deriving DecidableEq, Repr

/-- The name of a reason. -/
def ChainReason.name : ChainReason → String
  | .lifecycle => "lifecycle"
  | .tenant => "tenant"
  | .dependencyTenant => "dependency_tenant"
  | .permission => "permission"
  | .routeCapability => "route_capability"
  | .language => "language"
  | .dependencyHealth => "dependency_health"
  | .runtimeDbDisabled => "runtime_db_disabled"
  | .runtimeReactDisabled => "runtime_react_disabled"
  | .canaryExcluded => "canary_excluded"
  | .rolloutExcluded => "rollout_excluded"

/-- What a route may use. -/
def routeCapabilityMap : List (String × List String) :=
  [("chitchat", []), ("database", ["database"]), ("rag", ["rag"]), ("hybrid", ["database", "rag"]),
    ("report", ["report", "database", "rag"]), ("web", ["web"])]

/-- The request that is filtered for. -/
structure HardFilterContext where
  tenantId : String
  permissions : List String := []
  routeTarget : String := "chitchat"
  locale : String := "zh_CN"
  agentConfig : Dict := []

/-- The cards left, and counts of the rest. -/
structure HardFilterResult where
  cards : List SkillCard
  filteredReasonCounts : List (ChainReason × Nat)

section Layers

/-- A layer with one reason: the cards that are not kept have it. -/
def oneReason (reason : ChainReason) (keep : SkillCard → Bool) : Layer SkillCard ChainReason where
  why card := if keep card then none else some reason
  reasons := [reason]
  nodup := List.nodup_singleton reason
  covers card k h := by
    split_ifs at h
    exact List.mem_singleton.mpr (Option.some.inj h).symm

variable (s : SkillCatalogSnapshot) (hashMod : String → Nat) (ctx : HardFilterContext)

/-- Keeps active cards. -/
def filterLifecycle : Layer SkillCard ChainReason :=
  oneReason .lifecycle (fun card => card.lifecycleStatus = "active")

/-- A card that lists tenants, and neither the tenant nor an explicit leave. -/
def notListed (card : SkillCard) (tenantId : String) : Bool :=
  !card.allowedTenants.isEmpty && !card.allowedTenants.contains tenantId &&
    card.tenantOverrides.lookup tenantId ≠ some true

/-- A dependency that is there and does not list the tenant. What is missing is
    left to another layer. -/
def dependencyBlocked (depId : String) : Bool :=
  match s.getCard depId with
  | none => false
  | some card => notListed card ctx.tenantId

/-- Keeps cards the tenant may use. -/
def filterTenant : Layer SkillCard ChainReason where
  why card :=
    if card.tenantOverrides.lookup ctx.tenantId = some false then some .tenant
    else if notListed card ctx.tenantId then some .tenant
    -- Unlike the card itself, a dependency may be switched off for the tenant.
    else if card.requiredDependencyIds.any (dependencyBlocked s ctx) then some .dependencyTenant
    else none
  reasons := [.tenant, .dependencyTenant]
  nodup := by decide
  covers card k h := by
    split_ifs at h <;> cases h <;> decide

/-- A user without permissions is not asked for any. -/
def filterPermission : Layer SkillCard ChainReason :=
  oneReason .permission (fun card =>
    ctx.permissions.isEmpty || card.requiredPermissions.all (fun p => ctx.permissions.contains p))

/-- An unknown target is not filtered by, and one that needs nothing leaves no
    card. -/
def filterRouteCapability : Layer SkillCard ChainReason :=
  oneReason .routeCapability (fun card =>
    match routeCapabilityMap.lookup ctx.routeTarget with
    | none => true
    | some needed => card.capabilities.any (fun c => needed.contains c))

/-- Keeps cards of the locale. -/
def filterLanguage : Layer SkillCard ChainReason :=
  oneReason .language (fun card => card.languages.isEmpty || card.languages.contains ctx.locale)

/-- Keeps cards with healthy dependencies. -/
def filterDependencyHealth : Layer SkillCard ChainReason :=
  oneReason .dependencyHealth (fun card => card.dependenciesHealthy)

/-- The loop of reasoning and acting, which is off unless it is switched on. -/
def reactEnabled (config : Dict) : Bool :=
  match pyGet config "react" (.dict []) with
  | .dict reactConfig => (pyGet reactConfig "enabled" (.bool false)).truthy
  | _ => false

/-- `RuntimeCapabilityGate.filter`. -/
def filterRuntimeCapability : Layer SkillCard ChainReason where
  why card :=
    if !toolEnabled ctx.agentConfig "db_tool" &&
        (card.capabilities.contains "database" || card.skillType = .data) then
      some .runtimeDbDisabled
    else if !reactEnabled ctx.agentConfig && card.executionMode = .reactOnly then
      some .runtimeReactDisabled
    else none
  reasons := [.runtimeDbDisabled, .runtimeReactDisabled]
  nodup := by decide
  covers card k h := by
    split_ifs at h <;> cases h <;> decide

/-- The hash of a text, taken modulo a hundred, is a parameter: it changes from
    process to process. -/
def filterFeatureFlag : Layer SkillCard ChainReason where
  why card :=
    match s.getManifest card.skillId with
    | none => none
    | some gov =>
        -- The canary tenants come first, and are under the rollout too.
        if !gov.canaryTenants.isEmpty && !gov.canaryTenants.contains ctx.tenantId then
          some .canaryExcluded
        else if gov.rolloutPercentage < 100 ∧
            gov.rolloutPercentage ≤ hashMod s!"{card.skillId}:{ctx.tenantId}" then
          some .rolloutExcluded
        else none
  reasons := [.canaryExcluded, .rolloutExcluded]
  nodup := by decide
  covers card k h := by
    split at h
    · cases h
    · split_ifs at h <;> cases h <;> decide

/-- The layers in the order they are run. -/
def chainLayers : List (Layer SkillCard ChainReason) :=
  [filterLifecycle, filterTenant s ctx, filterPermission ctx, filterRouteCapability ctx,
    filterLanguage ctx, filterDependencyHealth, filterRuntimeCapability ctx,
    filterFeatureFlag s hashMod ctx]

/-- `HardFilterChain.filter`. -/
def filterChain : HardFilterResult :=
  let (cards, counts) := run (chainLayers s hashMod ctx) s.listCards
  { cards := cards, filteredReasonCounts := counts }

end Layers

end Skills

end AgenticRag

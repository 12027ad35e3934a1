import AgenticRag.Core.HardFilterChain

/-!
# What the Chain Lets Through

A card that is left by the eight layers should be one the request may use. Two
layers are short of that. A user without any permissions is not asked for them,
though a card may require some (`no_permissions_pass`), and of a dependency only
the list of tenants is looked at, not that it is explicitly switched off for the
tenant. The counts are sound: no two layers share a reason, so they add up to
the cards that were removed.

The chain does what it should exactly if no card that all layers let through
falls into one of the two gaps (`chain_sound_iff`).

## Main definitions

* `TenantOk`: A card is open to a tenant.
* `LetThrough`: No layer has a reason to remove a card.

## Theorems

* `letThrough_iff`: What the layers ask of a card.
* `chain_total`: The counts add up.
* `chain_sound_iff`: When the chain does what it should.
-/

namespace AgenticRag

namespace Skills

open Py Ordered Layers

section Chain

variable (s : SkillCatalogSnapshot) (hashMod : String → Nat) (ctx : HardFilterContext)

/-- A card is open to a tenant: it is not switched off, and lists the tenant if
    it lists any, or is switched on. -/
def TenantOk (card : SkillCard) (tenantId : String) : Prop :=
  card.tenantOverrides.lookup tenantId ≠ some false ∧
    (card.allowedTenants = [] ∨ tenantId ∈ card.allowedTenants ∨
      card.tenantOverrides.lookup tenantId = some true)

/-- The gates that do not depend on the user. -/
structure Gates (card : SkillCard) : Prop where
  lifecycle : card.lifecycleStatus = "active"
  capability : ∀ needed, routeCapabilityMap.lookup ctx.routeTarget = some needed →
    ∃ c ∈ card.capabilities, c ∈ needed
  language : card.languages = [] ∨ ctx.locale ∈ card.languages
  db : toolEnabled ctx.agentConfig "db_tool" = false →
    "database" ∉ card.capabilities ∧ card.skillType ≠ .data
  react : reactEnabled ctx.agentConfig = false → card.executionMode ≠ .reactOnly

/-- What a card that is kept has to satisfy. -/
structure Rightful (card : SkillCard) : Prop where
  permitted : ∀ p ∈ card.requiredPermissions, p ∈ ctx.permissions
  tenant : TenantOk card ctx.tenantId
  dependencies : ∀ depId ∈ card.requiredDependencyIds, ∀ dep, s.getCard depId = some dep →
    TenantOk dep ctx.tenantId
  gates : Gates ctx card

/-- The cards that are kept are rightful, and the counts add up to those that
    are not. -/
structure Sound : Prop where
  rightful : ∀ card ∈ (filterChain s hashMod ctx).cards, Rightful s ctx card
  counted : total (filterChain s hashMod ctx).filteredReasonCounts =
    s.listCards.length - (filterChain s hashMod ctx).cards.length

/-- No layer has a reason to remove a card. -/
def LetThrough (card : SkillCard) : Prop :=
  ∀ l ∈ chainLayers s hashMod ctx, l.why card = none

theorem notListed_eq_false_iff (card : SkillCard) (tenantId : String) :
    notListed card tenantId = false ↔ card.allowedTenants = [] ∨ tenantId ∈ card.allowedTenants ∨
      card.tenantOverrides.lookup tenantId = some true := by
  simp [notListed, or_assoc, Decidable.imp_iff_not_or]

theorem oneReason_why_eq_none_iff (reason : ChainReason) (keep : SkillCard → Bool)
    (card : SkillCard) : (oneReason reason keep).why card = none ↔ keep card = true := by
  simp [oneReason]

theorem dependencyBlocked_eq_false_iff (depId : String) :
    dependencyBlocked s ctx depId = false ↔
      ∀ dep, s.getCard depId = some dep → notListed dep ctx.tenantId = false := by
  rw [dependencyBlocked]
  cases s.getCard depId with
  | none => simp
  | some card => simp

theorem filterTenant_why_eq_none_iff (card : SkillCard) :
    (filterTenant s ctx).why card = none ↔ TenantOk card ctx.tenantId ∧
      ∀ depId ∈ card.requiredDependencyIds, ∀ dep, s.getCard depId = some dep →
        notListed dep ctx.tenantId = false := by
  -- Of a dependency only the list is asked, not whether it is switched off.
  have hdeps : card.requiredDependencyIds.any (dependencyBlocked s ctx) = false ↔
      ∀ depId ∈ card.requiredDependencyIds, ∀ dep, s.getCard depId = some dep →
        notListed dep ctx.tenantId = false := by
    simp only [List.any_eq_false, Bool.not_eq_true, dependencyBlocked_eq_false_iff]
  rw [← hdeps, TenantOk, ← notListed_eq_false_iff]
  by_cases hoff : card.tenantOverrides.lookup ctx.tenantId = some false
  · simp [filterTenant, hoff]
  · cases hlist : notListed card ctx.tenantId <;> simp [filterTenant, hoff, hlist]

theorem filterRuntimeCapability_why_eq_none_iff (card : SkillCard) :
    (filterRuntimeCapability ctx).why card = none ↔
      (toolEnabled ctx.agentConfig "db_tool" = false →
        "database" ∉ card.capabilities ∧ card.skillType ≠ .data) ∧
      (reactEnabled ctx.agentConfig = false → card.executionMode ≠ .reactOnly) := by
  cases hdb : toolEnabled ctx.agentConfig "db_tool" <;>
    cases hreact : reactEnabled ctx.agentConfig <;>
      simp only [filterRuntimeCapability, hdb, hreact] <;> grind

/-- What the layers ask of a card, apart from the health of what it depends on
    and its rollout. -/
structure Asked (card : SkillCard) : Prop where
  permitted : ctx.permissions = [] ∨ ∀ p ∈ card.requiredPermissions, p ∈ ctx.permissions
  tenant : TenantOk card ctx.tenantId
  dependencies : ∀ depId ∈ card.requiredDependencyIds, ∀ dep, s.getCard depId = some dep →
    dep.allowedTenants = [] ∨ ctx.tenantId ∈ dep.allowedTenants ∨
      dep.tenantOverrides.lookup ctx.tenantId = some true
  gates : Gates ctx card

theorem asked_of_letThrough {card : SkillCard} (h : LetThrough s hashMod ctx card) :
    Asked s ctx card := by
  simp only [LetThrough, chainLayers, List.forall_mem_cons] at h
  rcases h with ⟨hlife, htenant, hperm, hroute, hlanguage, -, hruntime, -⟩
  rcases (filterTenant_why_eq_none_iff s ctx card).mp htenant with ⟨htenant, hdeps⟩
  rcases (filterRuntimeCapability_why_eq_none_iff ctx card).mp hruntime with ⟨hdb, hreact⟩
  rw [filterLifecycle, oneReason_why_eq_none_iff, decide_eq_true_eq] at hlife
  rw [filterPermission, oneReason_why_eq_none_iff] at hperm
  rw [filterRouteCapability, oneReason_why_eq_none_iff] at hroute
  rw [filterLanguage, oneReason_why_eq_none_iff] at hlanguage
  refine ⟨by simpa using hperm, htenant, ?_, hlife, ?_, by simpa using hlanguage, hdb, hreact⟩
  · intro depId hdep dep hcard
    exact (notListed_eq_false_iff dep ctx.tenantId).mp (hdeps depId hdep dep hcard)
  · intro needed hneeded
    rw [hneeded] at hroute
    simpa using hroute

/-- The counts add up to the cards that are removed. -/
theorem chain_total :
    total (filterChain s hashMod ctx).filteredReasonCounts =
      s.listCards.length - (filterChain s hashMod ctx).cards.length := by
  have hnodup : ((chainLayers s hashMod ctx).flatMap (·.reasons)).Nodup := by
    change [ChainReason.lifecycle, .tenant, .dependencyTenant, .permission, .routeCapability,
      .language, .dependencyHealth, .runtimeDbDisabled, .runtimeReactDisabled, .canaryExcluded,
      .rolloutExcluded].Nodup
    decide
  have htotal := run_total (chainLayers s hashMod ctx) s.listCards hnodup
  exact Nat.eq_sub_of_add_eq htotal

theorem mem_filterChain (card : SkillCard) :
    card ∈ (filterChain s hashMod ctx).cards ↔
      card ∈ s.listCards ∧ LetThrough s hashMod ctx card := by
  rw [filterChain, mem_run, LetThrough]

/-- The chain does what it should exactly if no card that all layers let
    through requires permissions of a user who has none, or depends on one that
    is switched off for the tenant. -/
theorem chain_sound_iff :
    Sound s hashMod ctx ↔ ∀ card ∈ s.listCards, LetThrough s hashMod ctx card →
      (ctx.permissions = [] → card.requiredPermissions = []) ∧
        ∀ depId ∈ card.requiredDependencyIds, ∀ dep, s.getCard depId = some dep →
          dep.tenantOverrides.lookup ctx.tenantId ≠ some false := by
  constructor
  · intro hsound card hcard hlet
    have hright := hsound.rightful card ((mem_filterChain s hashMod ctx card).mpr ⟨hcard, hlet⟩)
    refine ⟨fun hnone => List.eq_nil_iff_forall_not_mem.mpr fun p hp => ?_, ?_⟩
    · have hmem := hright.permitted p hp
      rw [hnone] at hmem
      cases hmem
    · exact fun depId hdep dep hfound => (hright.dependencies depId hdep dep hfound).1
  · intro hcond
    refine ⟨fun card hkept => ?_, chain_total s hashMod ctx⟩
    rcases (mem_filterChain s hashMod ctx card).mp hkept with ⟨hcard, hlet⟩
    rcases hcond card hcard hlet with ⟨hperms, hdeps⟩
    have hasked := asked_of_letThrough s hashMod ctx hlet
    refine ⟨?_, hasked.tenant, fun depId hdep dep hfound => ⟨hdeps depId hdep dep hfound,
      hasked.dependencies depId hdep dep hfound⟩, hasked.gates⟩
    intro p hp
    rcases hasked.permitted with hnone | hall
    · rw [hperms hnone] at hp
      cases hp
    · exact hall p hp

/-- A catalog with one card, which requires a permission. -/
def guardedCatalog : SkillCatalogSnapshot where
  cardsByKey := [(("r", "1"), { skillId := "r", capabilities := ["report"]
                                requiredPermissions := ["report:read"] })]

/-- A user without permissions is given it. -/
theorem no_permissions_pass :
    ¬ Sound guardedCatalog (fun _ => 0) { tenantId := "t", routeTarget := "report" } := by
  intro hsound
  have hkept : (filterChain guardedCatalog (fun _ => 0)
      { tenantId := "t", routeTarget := "report" }).cards.map (·.requiredPermissions) =
        [["report:read"]] := by decide
  rcases List.mem_map.mp (hkept ▸ List.mem_singleton.mpr rfl) with ⟨card, hcard, hrequired⟩
  have hmem := (hsound.rightful card hcard).permitted "report:read" (by
    rw [hrequired]
    exact List.mem_singleton.mpr rfl)
  cases hmem

end Chain

end Skills

end AgenticRag

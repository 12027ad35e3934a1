import AgenticRag.Theory.SkillLegality

/-!
# Two Filters That Should Agree

The same rules are written twice: over a skill and the skills linked to it, and
over the card that is derived from them. They are meant to share their core, so
that what the first rejects the second rejects as well. In three places they do
not (`unlisted_permissions_pass`): permissions that are no list count as denied
for the first and as absent for the second, a report that asks for database
evidence without a data skill linked to it has no card that says so, and the
second does not look at the graph tool at all.

The two agree exactly if none of the three arises, or if the card is rejected
for a reason they share (`kernels_agree_iff`).

## Main definitions

* `derivedCard`: The card of a skill of the registry.
* `Seen`: Reasons they share.

## Theorems

* `derivedCard_spec`: What the filter reads of a derived card.
* `check_derived`: The filter on a derived card.
* `kernels_agree_iff`: When the two filters agree.
-/

namespace AgenticRag

namespace Skills

open Py Ordered Structured

section Derivation

variable (casefold : String → String) (registry : SkillCatalogSnapshot)

/-- The card of a skill of the registry. -/
def derivedCard (skill : ReportSkill) : Except Exc SkillCard :=
  buildReportCard casefold skill (registry.getDataForReport skill.skillId)
    (registry.getRetrievalForReport skill.skillId)

/-- No registered type of report is made in batches. -/
theorem deriveLatencyClass_registered {reportType : String} {domains : List String}
    (h : reportTypeDomainMap.lookup reportType = some domains) :
    deriveLatencyClass reportType = .interactive := by
  -- The types are looked through one by one.
  have hall : ∀ kv ∈ reportTypeDomainMap, deriveLatencyClass kv.1 = .interactive := by
    decide +kernel
  have hlisted : (reportType, domains) ∈ reportTypeDomainMap := mem_of_lookup h
  exact hall (reportType, domains) hlisted

/-- A card says that it reads databases exactly if a data skill is linked. -/
theorem database_mem_deriveCapabilities {skill : ReportSkill} {dataSkill : Option DataSkill}
    {retrievalSkill : Option RetrievalSkill} {capabilities : List String}
    (h : deriveCapabilities casefold skill dataSkill retrievalSkill = .ok capabilities) :
    capabilities.contains "database" = dataSkill.isSome := by
  rcases exists_of_bind_ok h with ⟨graph, -, h⟩
  cases h
  cases dataSkill <;> cases retrievalSkill <;> cases graph <;> rfl

/-- What the filter reads of a derived card. -/
theorem derivedCard_spec {skill : ReportSkill} {card : SkillCard}
    (h : derivedCard casefold registry skill = .ok card) :
    card.lifecycleStatus = lifecycleOf skill.enabled ∧
      card.allowedTenants = skill.allowedTenants ∧
      card.requiredPermissions = skill.requiredPermissions ∧
      card.capabilities.contains "database" =
        (registry.getDataForReport skill.skillId).isSome ∧
      card.latencyClass = .interactive ∧ card.exclusionRules = [] := by
  rw [derivedCard, buildReportCard] at h
  split at h
  · cases h
  next domains hdomains =>
    rcases exists_of_bind_ok h with ⟨capabilities, hcapabilities, h⟩
    cases h
    exact ⟨rfl, rfl, rfl, database_mem_deriveCapabilities casefold hcapabilities,
      deriveLatencyClass_registered hdomains, rfl⟩

end Derivation

section Agreement

variable (casefold : String → String) (defaultAllowApproved : Bool)
  (registry : SkillCatalogSnapshot) (skill : ReportSkill) (ctx : SkillResolveContext)

/-- What the first filter rejects, the second rejects on the card. -/
def Agree : Prop :=
  ∀ card why, derivedCard casefold registry skill = .ok card →
    prefilterSkill casefold defaultAllowApproved registry skill ctx = .ok (some why) →
    ∃ reason, check defaultAllowApproved card (.fromResolveContext ctx) = .ok (some reason)

/-- Permissions that are given, but not as a list. -/
def Unlisted : Prop :=
  match pyGet ctx.config "permissions" .none with
  | .none => False
  | .list _ => False
  | _ => True

/-- Permissions that are a list, and do not cover what the skill requires. -/
def Lacking : Prop :=
  match pyGet ctx.config "permissions" .none with
  | .list permissions => isSkillAvailable permissions skill.requiredPermissions ≠ .ok true
  | _ => False

/-- The reasons only the first filter has. -/
def Unseen : Prop :=
  Unlisted ctx ∨
    (toolEnabled ctx.config "db_tool" = false ∧
      registry.getDataForReport skill.skillId = none ∧ "db" ∈ skill.requiredEvidenceTypes) ∨
    (toolEnabled ctx.config "graph_tool" = false ∧
      skillRequiresGraph casefold registry skill = .ok true)

/-- The reasons the two filters share. -/
def Seen : Prop :=
  skill.enabled = false ∨ tenantAllowed skill.allowedTenants ctx.tenantId = false ∨
    Lacking skill ctx ∨
    (toolEnabled ctx.config "db_tool" = false ∧
      (registry.getDataForReport skill.skillId).isSome = true)

/-- The permissions a request brings to the second filter. -/
theorem permissionOk_fromResolveContext (card : SkillCard) :
    permissionOk card (.fromResolveContext ctx) =
      match pyGet ctx.config "permissions" .none with
      | .list permissions => isSkillAvailable permissions card.requiredPermissions
      | _ => .ok true := by
  rw [permissionOk, FilterContext.fromResolveContext]
  cases pyGet ctx.config "permissions" .none <;> rfl

/-- The second filter on a derived card: the reasons they share, one after the
    other. -/
theorem check_derived {card : SkillCard} (hcard : derivedCard casefold registry skill = .ok card) :
    check defaultAllowApproved card (.fromResolveContext ctx) =
      if skill.enabled = false then .ok (some .lifecycleNotSelectable)
      else if tenantAllowed skill.allowedTenants ctx.tenantId = false then
        .ok (some .tenantNotAllowed)
      else
        match permissionOk card (.fromResolveContext ctx) with
        | .error e => .error e
        | .ok false => .ok (some .permissionDenied)
        | .ok true =>
            if toolEnabled ctx.config "db_tool" = false ∧
                (registry.getDataForReport skill.skillId).isSome = true then
              .ok (some .capabilityDisabled)
            else .ok none := by
  rcases derivedCard_spec casefold registry hcard with
    ⟨hlife, htenants, -, hdatabase, hlatency, hrules⟩
  -- Each check of the card comes down to a field of the skill.
  have hselectable : lifecycleSelectable defaultAllowApproved card (.fromResolveContext ctx) =
      skill.enabled := by
    rw [lifecycleSelectable, hlife, lifecycleOf]
    cases skill.enabled <;> rfl
  have hruntime : runtimeCapabilityOk card (.fromResolveContext ctx) =
      !(!toolEnabled ctx.config "db_tool" &&
        (registry.getDataForReport skill.skillId).isSome) := by
    rw [runtimeCapabilityOk, hdatabase]
    rfl
  have hslow : latencyOk card (.fromResolveContext ctx) = true := by
    rw [latencyOk, hlatency]
    rfl
  have htenant : (FilterContext.fromResolveContext ctx).tenantId = ctx.tenantId := rfl
  rw [check, hselectable, htenants, hruntime, hslow, hrules, htenant, excludedByRules]
  cases skill.enabled with
  | false => rfl
  | true =>
      cases tenantAllowed skill.allowedTenants ctx.tenantId with
      | false => rfl
      | true =>
          cases permissionOk card (.fromResolveContext ctx) with
          | error e => rfl
          | ok covered =>
              cases covered with
              | false => rfl
              | true =>
                  cases toolEnabled ctx.config "db_tool" <;>
                    cases (registry.getDataForReport skill.skillId).isSome <;> rfl

/-- The second filter finds the permissions enough exactly if they are no list,
    or a list that lacks nothing. -/
theorem permissionOk_derived_iff {card : SkillCard}
    (hcard : derivedCard casefold registry skill = .ok card) :
    permissionOk card (.fromResolveContext ctx) = .ok true ↔ ¬ Lacking skill ctx := by
  rw [permissionOk_fromResolveContext, (derivedCard_spec casefold registry hcard).2.2.1, Lacking]
  cases pyGet ctx.config "permissions" .none with
  | list permissions => exact not_not.symm
  | _ => simp

/-- The second filter lets a derived card through exactly if there is no reason
    they share. -/
theorem check_derived_none_iff {card : SkillCard}
    (hcard : derivedCard casefold registry skill = .ok card) :
    check defaultAllowApproved card (.fromResolveContext ctx) = .ok none ↔
      ¬ Seen registry skill ctx := by
  have hperm := permissionOk_derived_iff casefold registry skill ctx hcard
  rw [check_derived casefold defaultAllowApproved registry skill ctx hcard, Seen]
  by_cases hoff : skill.enabled = false
  · simp [hoff]
  · by_cases htenant : tenantAllowed skill.allowedTenants ctx.tenantId = false
    -- The tenant is turned away before the permissions are read.
    · simp [hoff, htenant]
    · rw [if_neg hoff, if_neg htenant]
      by_cases hlack : Lacking skill ctx
      · refine iff_of_false ?_ (not_not.mpr (.inr (.inr (.inl hlack))))
        split
        · simp
        · simp
        next hok => exact absurd hlack (hperm.mp hok)
      · rw [hperm.mpr hlack]
        simp [hoff, htenant, hlack]

/-- The first filter: its reasons, one after the other. -/
theorem prefilterSkill_eq :
    prefilterSkill casefold defaultAllowApproved registry skill ctx =
      if skill.enabled = false then .ok (some "SKILL_PERMISSION_DENIED")
      else if tenantAllowed skill.allowedTenants ctx.tenantId = false then
        .ok (some "SKILL_PERMISSION_DENIED")
      else
        match permissionsCover skill.requiredPermissions ctx with
        | .error e => .error e
        | .ok false => .ok (some "SKILL_PERMISSION_DENIED")
        | .ok true =>
            match resolverCapabilityOk casefold registry skill ctx with
            | .error e => .error e
            | .ok false => .ok (some "SKILL_PERMISSION_DENIED")
            | .ok true => .ok none := by
  have hactive : isSelectable defaultAllowApproved "active" ctx.tenantId none = true := rfl
  rw [prefilterSkill, hactive]
  cases skill.enabled with
  | false => rfl
  | true =>
      cases tenantAllowed skill.allowedTenants ctx.tenantId with
      | false => rfl
      | true =>
          cases permissionsCover skill.requiredPermissions ctx with
          | error e => rfl
          | ok covered =>
              cases covered with
              | false => rfl
              | true =>
                  cases resolverCapabilityOk casefold registry skill ctx with
                  | error e => rfl
                  | ok capable => cases capable <;> rfl

/-- Permissions that are given but no list are not enough for the first
    filter. -/
theorem permissionsCover_of_unlisted (h : Unlisted ctx) (required : List String) :
    permissionsCover required ctx = .ok false := by
  rw [Unlisted] at h
  rw [permissionsCover]
  cases hperms : pyGet ctx.config "permissions" .none <;> rw [hperms] at h <;> first | rfl | cases h

theorem not_lacking_of_unlisted (h : Unlisted ctx) : ¬ Lacking skill ctx := by
  rw [Unlisted] at h
  rw [Lacking]
  cases hperms : pyGet ctx.config "permissions" .none <;> rw [hperms] at h <;>
    first | exact id | cases h

/-- Else the two filters find the same of them. -/
theorem permissionsCover_of_not_unlisted {card : SkillCard}
    (hcard : derivedCard casefold registry skill = .ok card) (h : ¬ Unlisted ctx) :
    permissionsCover skill.requiredPermissions ctx =
      permissionOk card (.fromResolveContext ctx) := by
  rw [permissionOk_fromResolveContext, (derivedCard_spec casefold registry hcard).2.2.1,
    permissionsCover]
  rw [Unlisted] at h
  cases hperms : pyGet ctx.config "permissions" .none <;> rw [hperms] at h <;>
    first | rfl | exact absurd trivial h

/-- A disabled tool stops a skill in the first filter if a data skill is linked
    to it, or else for a reason only this filter has. -/
theorem resolverCapabilityOk_false (hcapable : resolverCapabilityOk casefold registry skill ctx =
    .ok false) : Seen registry skill ctx ∨ Unseen casefold registry skill ctx := by
  rw [resolverCapabilityOk] at hcapable
  split_ifs at hcapable with hdb hgraph
  · rw [Bool.and_eq_true, Bool.not_eq_true', skillRequiresDb, Bool.or_eq_true,
      List.contains_iff_mem] at hdb
    -- The skill reads databases by a linked skill, or by what it asks for as evidence.
    rcases hdb with ⟨hoff, hdb⟩
    cases hdata : registry.getDataForReport skill.skillId with
    | some linked => exact .inl (.inr (.inr (.inr ⟨hoff, by rw [hdata]; rfl⟩)))
    | none =>
        rw [hdata] at hdb
        exact .inr (.inr (.inl ⟨hoff, hdata, hdb.resolve_left Bool.false_ne_true⟩))
  · cases hcapable
  · rcases exists_of_bind_ok hcapable with ⟨graph, hrequires, hnot⟩
    cases graph with
    | false => cases hnot
    | true => exact .inr (.inr (.inr ⟨Bool.eq_false_of_not_eq_true hgraph, hrequires⟩))

/-- The other direction, for the reasons only the first filter has. -/
theorem resolverCapabilityOk_of_unseen (hunseen : Unseen casefold registry skill ctx)
    (hlisted : ¬ Unlisted ctx) : resolverCapabilityOk casefold registry skill ctx = .ok false := by
  rw [resolverCapabilityOk]
  rcases hunseen with h | ⟨hoff, hdata, hdb⟩ | ⟨hoff, hgraph⟩
  · exact absurd h hlisted
  · rw [if_pos]
    simp [hoff, skillRequiresDb, hdb]
  · split_ifs with hdb hon
    · rfl
    · rw [hoff] at hon
      cases hon
    · rw [hgraph]
      rfl

/-- What the first filter rejects has a reason that the second sees, or one it
    does not. The second returns in any case. -/
theorem prefilterSkill_some {card : SkillCard} {why : String}
    (hcard : derivedCard casefold registry skill = .ok card)
    (h : prefilterSkill casefold defaultAllowApproved registry skill ctx = .ok (some why)) :
    (Seen registry skill ctx ∨ Unseen casefold registry skill ctx) ∧
      ∃ r, check defaultAllowApproved card (.fromResolveContext ctx) = .ok r := by
  rw [check_derived casefold defaultAllowApproved registry skill ctx hcard]
  rw [prefilterSkill_eq] at h
  by_cases hoff : skill.enabled = false
  · rw [if_pos hoff]
    exact ⟨.inl (.inl hoff), _, rfl⟩
  · rw [if_neg hoff] at h ⊢
    by_cases htenant : tenantAllowed skill.allowedTenants ctx.tenantId = false
    · rw [if_pos htenant]
      exact ⟨.inl (.inr (.inl htenant)), _, rfl⟩
    · rw [if_neg htenant] at h ⊢
      have hperm := permissionOk_derived_iff casefold registry skill ctx hcard
      by_cases hunlisted : Unlisted ctx
      · rw [hperm.mpr (not_lacking_of_unlisted skill ctx hunlisted)]
        refine ⟨.inr (.inl hunlisted), ?_⟩
        split_ifs <;> exact ⟨_, rfl⟩
      · rw [permissionsCover_of_not_unlisted casefold registry skill ctx hcard hunlisted] at h
        cases hcovered : permissionOk card (.fromResolveContext ctx) with
        | error e =>
            rw [hcovered] at h
            cases h
        | ok covered =>
            rw [hcovered] at h hperm
            cases covered with
            | false =>
                have hlack : Lacking skill ctx := by
                  by_contra hnot
                  cases hperm.mpr hnot
                exact ⟨.inl (.inr (.inr (.inl hlack))), _, rfl⟩
            | true =>
                -- Only the tools are left as a reason.
                refine ⟨?_, by split_ifs <;> exact ⟨_, rfl⟩⟩
                cases hcapable : resolverCapabilityOk casefold registry skill ctx with
                | error e =>
                    rw [hcapable] at h
                    cases h
                | ok capable =>
                    rw [hcapable] at h
                    cases capable with
                    | false => exact resolverCapabilityOk_false casefold registry skill ctx hcapable
                    | true => cases h

/-- A reason only the first filter has makes it reject, if they share none. -/
theorem prefilterSkill_of_unseen {card : SkillCard}
    (hcard : derivedCard casefold registry skill = .ok card) (hseen : ¬ Seen registry skill ctx)
    (hunseen : Unseen casefold registry skill ctx) :
    prefilterSkill casefold defaultAllowApproved registry skill ctx =
      .ok (some "SKILL_PERMISSION_DENIED") := by
  simp only [Seen, not_or] at hseen
  rcases hseen with ⟨hoff, htenant, hlack, -⟩
  rw [prefilterSkill_eq, if_neg hoff, if_neg htenant]
  by_cases hunlisted : Unlisted ctx
  · rw [permissionsCover_of_unlisted ctx hunlisted]
  · rw [permissionsCover_of_not_unlisted casefold registry skill ctx hcard hunlisted,
      (permissionOk_derived_iff casefold registry skill ctx hcard).mpr hlack,
      resolverCapabilityOk_of_unseen casefold registry skill ctx hunseen hunlisted]

/-- The two filters agree exactly if every reason only the first has comes with
    one that they share. -/
theorem kernels_agree_iff :
    Agree casefold defaultAllowApproved registry skill ctx ↔
      ((∃ card, derivedCard casefold registry skill = .ok card) →
        Unseen casefold registry skill ctx → Seen registry skill ctx) := by
  constructor
  · rintro hagree ⟨card, hcard⟩ hunseen
    by_contra hseen
    rcases hagree card _ hcard (prefilterSkill_of_unseen casefold defaultAllowApproved registry
      skill ctx hcard hseen hunseen) with ⟨reason, hreason⟩
    rw [(check_derived_none_iff casefold defaultAllowApproved registry skill ctx hcard).mpr hseen]
      at hreason
    cases hreason
  · intro hcond card why hcard hwhy
    rcases prefilterSkill_some casefold defaultAllowApproved registry skill ctx hcard hwhy with
      ⟨hwhere, r, hr⟩
    cases r with
    | some reason => exact ⟨reason, hr⟩
    | none =>
        have hseen := (check_derived_none_iff casefold defaultAllowApproved registry skill ctx
          hcard).mp hr
        exact absurd (hwhere.elim id (hcond ⟨card, hcard⟩)) hseen

/-- A report anyone may use. -/
def openReport : ReportSkill := { skillId := "r", reportType := "cost_analysis" }

/-- A request whose permissions are one text and no list. -/
def textPermissions : SkillResolveContext where
  userQuestion := "q"
  tenantId := "t"
  agentConfig := some [("permissions", .str "admin")]

/-- The first filter denies such a request, and the second lets it through. -/
theorem unlisted_permissions_pass : ¬ Agree id false {} openReport textPermissions := by
  intro hagree
  have hderived : (derivedCard id {} openReport).toOption.any (fun card =>
      (check false card (.fromResolveContext textPermissions)).toOption.any Option.isNone) =
        true := by decide +kernel
  rcases exists_of_any hderived with ⟨card, hcard, hpasses⟩
  rcases hagree card "SKILL_PERMISSION_DENIED" hcard rfl with ⟨reason, hreason⟩
  rw [hreason] at hpasses
  cases hpasses

end Agreement

end Skills

end AgenticRag

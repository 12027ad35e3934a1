import AgenticRag.Core.ReactPolicy

/-!
# A Policy the Model Can Loosen

The rules of a skill are evaluated on a context that is read off the arguments
of the action, and the model writes these. Two of the rules speak of what the
action does: whether it filters by tenant, and which operation it is. Both are
taken from what the arguments say of themselves, so an action that is denied is
allowed once it says otherwise (`claimed_filter_allowed`).

The statement is about two runs. The skills are proof against the model exactly
if the request does not come as far as these rules, or if they require no
filter and forbid no operation (`skill_check_independent_iff`).

## Main definitions

* `SameElse`: Arguments that differ in four keys at most.
* `Arrives`: The evaluation comes as far as the two rules.

## Theorems

* `ruleDenied_iff`: When one of the two rules denies an action.
* `skill_check_independent_iff`: When the four keys make no difference.
-/

namespace AgenticRag

namespace React

open Py Ordered Skills Structured

section Rules

variable (u : Unicode) (casefold : String → String) (skillSet : ResolvedSkillSet)

/-- The keys under which an action speaks of itself. -/
def selfKeys : List String := ["tenant_filter_present", "tenant_id", "operation", "web_fallback"]

/-- Arguments that differ in these keys at most. -/
def SameElse (args args' : Dict) : Prop :=
  ∀ key, key ∉ selfKeys → args.lookup key = args'.lookup key

/-- The rules on the tenant filter and on operations deny an action. -/
def RuleDenied (ctx : PolicyContext) (actionType : String) : Prop :=
  ∃ code, skillDenial u casefold skillSet ctx actionType = .ok (some code) ∧
    (code = .tenantFilterRequired ∨ code = .operationForbidden)

/-- What the model says of its action makes no difference to these rules. -/
def Independent (ctx : PolicyContext) (actionType : String) : Prop :=
  ∀ args args', SameElse ctx.arguments args → SameElse ctx.arguments args' →
    (RuleDenied u casefold skillSet { ctx with arguments := args } actionType ↔
      RuleDenied u casefold skillSet { ctx with arguments := args' } actionType)

/-- The permissions a request brings. -/
def contextPermissions (ctx : PolicyContext) : Val :=
  match pyGet ctx.agentConfig "permissions" (.list []) with
  | .list xs => .list xs
  | _ => .list []

/-- The evaluation comes as far as the two rules: nothing raises, and the rules
    on permissions, tenants and formats let the action through. -/
structure Arrives (ctx : PolicyContext) (rules : SkillPolicyRules) : Prop where
  built : buildRules u casefold skillSet = .ok rules
  fields : ∃ fields, pyIter (pyGet ctx.arguments "fields" (.list [])) = .ok fields
  permitted : ∃ permissions, pySet (contextPermissions ctx) = .ok permissions ∧
    rules.requiredPermissions.all (fun p => permissions.any (keyEq (.str p))) = true
  tenant : ¬ (rules.allowedTenants ≠ [] ∧ ctx.tenantId ∉ rules.allowedTenants)
  format : ¬ ((pyGet ctx.arguments "format" (.str "")).toStr u ≠ "" ∧ rules.allowedFormats ≠ [] ∧
    casefold ((pyGet ctx.arguments "format" (.str "")).toStr u) ∉ rules.allowedFormats)

/-- What the two rules ask of an action that comes as far. -/
def Violates (rules : SkillPolicyRules) (args : Dict) (actionType : String) : Prop :=
  (rules.requireTenantFilter = true ∧ isFalse (tenantFilterPresent args) = true) ∨
    ((pyGet args "operation" (.str actionType)).toStr u ≠ "" ∧
      casefold ((pyGet args "operation" (.str actionType)).toStr u) ∈ rules.forbiddenOperations)

/-- What the rules come to once the context is read. -/
theorem skillDenial_eq {ctx : PolicyContext} {actionType : String} {rules : SkillPolicyRules}
    {fields permissions : List Val} (hrules : buildRules u casefold skillSet = .ok rules)
    (hfields : pyIter (pyGet ctx.arguments "fields" (.list [])) = .ok fields)
    (hpermissions : pySet (contextPermissions ctx) = .ok permissions) :
    skillDenial u casefold skillSet ctx actionType =
      if ¬ rules.requiredPermissions.all (fun p => permissions.any (keyEq (.str p))) then
        .ok (some .permissionDenied)
      else if rules.allowedTenants ≠ [] ∧ ctx.tenantId ∉ rules.allowedTenants then
        .ok (some .tenantNotAllowed)
      else if (pyGet ctx.arguments "format" (.str "")).toStr u ≠ "" ∧ rules.allowedFormats ≠ [] ∧
          casefold ((pyGet ctx.arguments "format" (.str "")).toStr u) ∉ rules.allowedFormats then
        .ok (some .formatNotAllowed)
      else if rules.requireTenantFilter ∧ isFalse (tenantFilterPresent ctx.arguments) then
        .ok (some .tenantFilterRequired)
      else if (pyGet ctx.arguments "operation" (.str actionType)).toStr u ≠ "" ∧
          casefold ((pyGet ctx.arguments "operation" (.str actionType)).toStr u) ∈
            rules.forbiddenOperations then
        .ok (some .operationForbidden)
      else if ((pyGet ctx.arguments "web_fallback" (.bool false)).truthy ||
          (pyGet ctx.arguments "use_web_fallback" (.bool false)).truthy) ∧
            ¬ rules.allowWebFallback then
        .ok (some .webFallbackDenied)
      else .ok none := by
  have hctx : skillPolicyContext u ctx actionType = .ok {
      tenantId := ctx.tenantId
      permissions := contextPermissions ctx
      reportFormat := (pyGet ctx.arguments "format" (.str "")).toStr u
      tenantFilterPresent := tenantFilterPresent ctx.arguments
      operation := (pyGet ctx.arguments "operation" (.str actionType)).toStr u
      requestedFields := fields
      webFallbackRequested :=
        (pyGet ctx.arguments "web_fallback" (.bool false)).truthy ||
          (pyGet ctx.arguments "use_web_fallback" (.bool false)).truthy } := by
    rw [skillPolicyContext, hfields]
    rfl
  rw [skillDenial, hrules, hctx]
  simp only [bind, Except.bind, pure, Except.pure, evaluateRules, hpermissions]

/-- One of the two rules denies an action exactly if it comes as far and
    violates one. -/
theorem ruleDenied_iff (ctx : PolicyContext) (actionType : String) :
    RuleDenied u casefold skillSet ctx actionType ↔
      ∃ rules, Arrives u casefold skillSet ctx rules ∧
        Violates u casefold rules ctx.arguments actionType := by
  constructor
  · rintro ⟨code, hdenial, hcode⟩
    rcases exists_of_bind_ok hdenial with ⟨rules, hrules, h⟩
    rcases exists_of_bind_ok h with ⟨skillCtx, hctx, h⟩
    rcases exists_of_bind_ok hctx with ⟨fields, hfields, hctx⟩
    cases hctx
    rcases exists_of_bind_ok h with ⟨permissions, hpermissions, -⟩
    rw [skillDenial_eq u casefold skillSet hrules hfields hpermissions] at hdenial
    split_ifs at hdenial with hperm htenant hformat hfilter hop hweb
    all_goals cases hdenial
    · rcases hcode with h | h <;> cases h
    · rcases hcode with h | h <;> cases h
    · exact ⟨rules, ⟨hrules, ⟨fields, hfields⟩, ⟨permissions, hpermissions, hperm⟩, htenant,
        hformat⟩, .inl hfilter⟩
    · exact ⟨rules, ⟨hrules, ⟨fields, hfields⟩, ⟨permissions, hpermissions, hperm⟩, htenant,
        hformat⟩, .inr hop⟩
    · rcases hcode with h | h <;> cases h
    · rcases hcode with h | h <;> cases h
  · rintro ⟨rules, ⟨hrules, ⟨fields, hfields⟩, ⟨permissions, hpermissions, hperm⟩, htenant,
      hformat⟩, hviolates⟩
    rw [RuleDenied, skillDenial_eq u casefold skillSet hrules hfields hpermissions,
      if_neg (not_not.mpr hperm), if_neg htenant, if_neg hformat]
    by_cases hfilter : rules.requireTenantFilter ∧ isFalse (tenantFilterPresent ctx.arguments)
    · rw [if_pos hfilter]
      exact ⟨_, rfl, .inl rfl⟩
    · rw [if_neg hfilter, if_pos (hviolates.resolve_left hfilter)]
      exact ⟨_, rfl, .inr rfl⟩

/-- How far the evaluation comes does not depend on the four keys. -/
theorem arrives_of_sameElse {ctx : PolicyContext} {args : Dict} {rules : SkillPolicyRules}
    (hsame : SameElse ctx.arguments args) :
    Arrives u casefold skillSet { ctx with arguments := args } rules ↔
      Arrives u casefold skillSet ctx rules := by
  have hfields : pyGet args "fields" (.list []) = pyGet ctx.arguments "fields" (.list []) := by
    rw [pyGet, pyGet, hsame "fields" (by decide)]
  have hformat : pyGet args "format" (.str "") = pyGet ctx.arguments "format" (.str "") := by
    rw [pyGet, pyGet, hsame "format" (by decide)]
  constructor
  · rintro ⟨hrules, hf, hp, ht, hfmt⟩
    simp only [hfields, hformat] at hf hfmt
    exact ⟨hrules, hf, hp, ht, hfmt⟩
  · rintro ⟨hrules, hf, hp, ht, hfmt⟩
    refine ⟨hrules, ?_, hp, ht, ?_⟩
    · simp only [hfields]
      exact hf
    · simp only [hformat]
      exact hfmt

/-- A key of the four may be given any value. -/
theorem sameElse_dictSet {args args' : Dict} (hsame : SameElse args args') {key : String}
    (hkey : key ∈ selfKeys) (v : Val) : SameElse args (dictSet key v args') := by
  intro other hother
  have hne : other ≠ key := fun heq => hother (heq ▸ hkey)
  rw [hsame other hother, lookup_dictSet, if_neg hne]

/-- The arguments with what the model may say of its action. -/
def claiming (filter : Bool) (operation : String) (args : Dict) : Dict :=
  dictSet "tenant_filter_present" (.bool filter) (dictSet "operation" (.str operation) args)

theorem sameElse_claiming (filter : Bool) (operation : String) (args : Dict) :
    SameElse args (claiming filter operation args) :=
  sameElse_dictSet (sameElse_dictSet (fun _ _ => rfl) (by decide) _) (by decide) _

/-- What the rules make of it is what it says. -/
theorem violates_claiming (rules : SkillPolicyRules) (filter : Bool) (operation : String)
    (args : Dict) (actionType : String) :
    Violates u casefold rules (claiming filter operation args) actionType ↔
      (rules.requireTenantFilter = true ∧ filter = false) ∨
        (operation ≠ "" ∧ casefold operation ∈ rules.forbiddenOperations) := by
  have hfilter : tenantFilterPresent (claiming filter operation args) = .bool filter := by
    rw [tenantFilterPresent, claiming, pyGet, lookup_dictSet, if_pos rfl]
    rfl
  have hop : pyGet (claiming filter operation args) "operation" (.str actionType) =
      .str operation := by
    rw [claiming, pyGet, lookup_dictSet, if_neg (by decide), lookup_dictSet, if_pos rfl]
    rfl
  rw [Violates, hfilter, hop]
  simp [isFalse, Val.toStr]

/-- What the model says of its action makes no difference exactly if the
    evaluation never comes as far, or the rules require no filter and forbid no
    operation at all. -/
theorem skill_check_independent_iff (ctx : PolicyContext) (actionType : String) :
    Independent u casefold skillSet ctx actionType ↔
      ∀ rules, Arrives u casefold skillSet ctx rules →
        rules.requireTenantFilter = false ∧
          ∀ operation, operation ≠ "" → casefold operation ∉ rules.forbiddenOperations := by
  constructor
  · intro hind rules harrives
    -- an action that claims a filter and names no operation passes both rules
    have hallowed : ¬ RuleDenied u casefold skillSet
        { ctx with arguments := claiming true "" ctx.arguments } actionType := by
      rw [ruleDenied_iff]
      rintro ⟨rules', harrives', hviolates⟩
      rw [violates_claiming] at hviolates
      rcases hviolates with ⟨-, h⟩ | ⟨h, -⟩
      · cases h
      · exact h rfl
    have hnone : ∀ filter operation, ¬ Violates u casefold rules
        (claiming filter operation ctx.arguments) actionType := by
      intro filter operation hviolates
      have hsame := sameElse_claiming filter operation ctx.arguments
      have hdenied := (ruleDenied_iff u casefold skillSet
        { ctx with arguments := claiming filter operation ctx.arguments } actionType).mpr
          ⟨rules, (arrives_of_sameElse u casefold skillSet hsame).mpr harrives, hviolates⟩
      exact hallowed ((hind _ _ hsame (sameElse_claiming true "" ctx.arguments)).mp hdenied)
    simp only [violates_claiming, not_or, not_and] at hnone
    refine ⟨?_, fun operation => (hnone true operation).2⟩
    cases hfilter : rules.requireTenantFilter with
    | false => rfl
    | true => exact absurd rfl ((hnone false "").1 hfilter)
  · intro hrules args args' hsame hsame'
    have hnone : ∀ args, SameElse ctx.arguments args →
        ¬ RuleDenied u casefold skillSet { ctx with arguments := args } actionType := by
      intro args hsame hdenied
      rcases (ruleDenied_iff u casefold skillSet _ actionType).mp hdenied with
        ⟨rules, harrives, hviolates⟩
      rcases hrules rules ((arrives_of_sameElse u casefold skillSet hsame).mp harrives) with
        ⟨hfilter, hop⟩
      rcases hviolates with ⟨hrequired, -⟩ | ⟨hne, hforbidden⟩
      · rw [hfilter] at hrequired
        cases hrequired
      · exact hop _ hne hforbidden
    exact iff_of_false (hnone args hsame) (hnone args' hsame')

end Rules

/-- A report whose data must be filtered by tenant. -/
def filteredSet : ResolvedSkillSet where
  reportSkill := { skillId := "r", reportType := "business_analysis" }
  dataSkill := some { skillId := "d"
                      policyConstraints := [("require_tenant_filter", .bool true)] }

/-- An action without a filter is denied if it says so, and allowed if it says
    the opposite. -/
theorem claimed_filter_allowed :
    ¬ Independent default id filteredSet { toolName := "db_query" } "db_query" := by
  intro hind
  have hsays := hind (claiming false "" []) (claiming true "" [])
    (sameElse_claiming false "" []) (sameElse_claiming true "" [])
  rcases hsays.mp ⟨.tenantFilterRequired, rfl, .inl rfl⟩ with ⟨code, hdenial, -⟩
  cases hdenial

end React

end AgenticRag

import AgenticRag.Core.SkillResolver

/-!
# A Resolved Skill May Be Used

On whichever of the five ways a request comes by its skills, and whatever the
retrievers and the reranker answer, the skills are enabled, open to the tenant
and covered by the permissions of the user, and with the database tool switched
off there is none that reads databases (`resolved_legal`).

All ways lead through `resolveReportSkill`, so what it gives is stated once
(`resolveReportSkill_legal`). A linked skill that may not be used is dropped and
does not stop the report; that none but usable ones are kept is its own lemma
(`linkedSkill_usable`).

## Main definitions

* `Usable`: A skill is enabled, and its permissions are covered.
* `Legal`: What a set of skills has to satisfy.

## Theorems

* `prefilterSkill_none`: What a skill that passes the filter satisfies.
* `resolveReportSkill_legal`: What a resolved skill satisfies.
* `resolved_legal`: The same for every way a request is resolved.
-/

namespace AgenticRag

namespace Skills

open Py Ordered Structured

section Permissions

/-- What a text is equal to as a key is that text. -/
theorem eq_str_of_keyEq {p : String} {v : Val} (h : keyEq (.str p) v = true) : v = .str p := by
  cases v with
  | str s =>
      rw [keyEq, beq_iff_eq] at h
      rw [h]
  | _ => simp [keyEq] at h

theorem pySet_list {xs ys : List Val} (h : pySet (.list xs) = .ok ys) : ys = xs := by
  rcases exists_of_bind_ok h with ⟨members, hmembers, h⟩
  cases hmembers
  simp only at h
  split_ifs at h
  cases h
  rfl

/-- What is required is among permissions that cover it. -/
theorem mem_of_isSkillAvailable {permissions : List Val} {required : List String}
    (h : isSkillAvailable permissions required = .ok true) :
    ∀ p ∈ required, Val.str p ∈ permissions := by
  rcases exists_of_bind_ok h with ⟨userSet, hset, h⟩
  have hall : required.all (fun p => userSet.any (keyEq (.str p))) = true := by
    simpa [pure, Except.pure] using h
  intro p hp
  rcases List.any_eq_true.mp (List.all_eq_true.mp hall p hp) with ⟨v, hv, hkey⟩
  rw [← eq_str_of_keyEq hkey, ← pySet_list hset]
  exact hv

/-- The permissions of a request, where they are a list. -/
theorem mem_of_permissionsCover {ctx : SkillResolveContext} {permissions : List Val}
    {required : List String} (hperms : pyGet ctx.config "permissions" .none = .list permissions)
    (h : permissionsCover required ctx = .ok true) :
    ∀ p ∈ required, Val.str p ∈ permissions := by
  rw [permissionsCover, hperms] at h
  exact mem_of_isSkillAvailable h

end Permissions

section Legality

variable (casefold : String → String) (defaultAllowApproved : Bool)
  (registry : SkillCatalogSnapshot)

/-- A skill is enabled, and the permissions cover what it requires. -/
structure Usable (permissions : List Val) (skill : SkillBase) : Prop where
  enabled : skill.enabled = true
  permitted : ∀ p ∈ skill.requiredPermissions, Val.str p ∈ permissions

/-- What the skills of a request have to satisfy. -/
structure Legal (ctx : SkillResolveContext) (permissions : List Val) (set : ResolvedSkillSet) :
    Prop where
  report : Usable permissions set.reportSkill.toSkillBase
  tenant : set.reportSkill.allowedTenants = [] ∨ ctx.tenantId ∈ set.reportSkill.allowedTenants
  data : ∀ skill, set.dataSkill = some skill → Usable permissions skill.toSkillBase
  retrieval : ∀ skill, set.retrievalSkill = some skill → Usable permissions skill.toSkillBase
  db : toolEnabled ctx.config "db_tool" = false → set.dataSkill = none

variable {ctx : SkillResolveContext} {permissions : List Val}

/-- What a skill that passes the filter satisfies. -/
theorem prefilterSkill_none {skill : ReportSkill}
    (h : prefilterSkill casefold defaultAllowApproved registry skill ctx = .ok none) :
    skill.enabled = true ∧ tenantAllowed skill.allowedTenants ctx.tenantId = true ∧
      permissionsCover skill.requiredPermissions ctx = .ok true ∧
      resolverCapabilityOk casefold registry skill ctx = .ok true := by
  rw [prefilterSkill] at h
  split_ifs at h with hlife htenant
  · rcases exists_of_bind_ok h with ⟨covered, hcovered, h⟩
    split_ifs at h with hcov
    · rcases exists_of_bind_ok h with ⟨capable, hcapable, h⟩
      split_ifs at h with hcap
      · exact ⟨hlife.1, htenant, hcov ▸ hcovered, hcap ▸ hcapable⟩
      · cases h
    · cases h
  · cases h
  · cases h

/-- With the database tool switched off, a skill that passes has no data skill
    linked to it. -/
theorem getDataForReport_of_capable {skill : ReportSkill}
    (h : resolverCapabilityOk casefold registry skill ctx = .ok true)
    (hoff : toolEnabled ctx.config "db_tool" = false) :
    registry.getDataForReport skill.skillId = none := by
  rw [resolverCapabilityOk, hoff] at h
  -- A data skill that is linked is reason enough to refuse.
  cases hdata : registry.getDataForReport skill.skillId with
  | none => rfl
  | some linked =>
      rw [if_pos (by simp [skillRequiresDb, hdata])] at h
      cases h

/-- A linked skill that is kept is the one that is linked, and usable. -/
theorem linkedSkill_usable {α : Type} {kind skillId : String} {base : α → SkillBase}
    {linked : Option α} {kept : Option α × List String}
    (hperms : pyGet ctx.config "permissions" .none = .list permissions)
    (h : linkedSkill kind base skillId ctx linked = .ok kept) :
    ∀ skill, kept.1 = some skill → linked = some skill ∧ Usable permissions (base skill) := by
  intro skill hkept
  cases linked with
  | none =>
      cases h
      cases hkept
  | some inner =>
      rw [linkedSkill] at h
      split_ifs at h with henabled
      · rcases exists_of_bind_ok h with ⟨covered, hcovered, h⟩
        split_ifs at h with hcov
        · cases h
          cases hkept
          exact ⟨rfl, henabled, mem_of_permissionsCover hperms (hcov ▸ hcovered)⟩
        · cases h
          cases hkept
      · cases h
        cases hkept

/-- What a resolved skill satisfies, together with those linked to it. -/
theorem resolveReportSkill_legal {skill : ReportSkill} {source : ResolutionSource}
    {fallbackUsed : Bool} {r : SkillResolveResult}
    (hperms : pyGet ctx.config "permissions" .none = .list permissions)
    (h : resolveReportSkill casefold defaultAllowApproved registry skill source ctx fallbackUsed =
      .ok r) (hresolved : r.resolved = true) :
    ∃ set, r.skillSet = some set ∧ Legal ctx permissions set := by
  rcases exists_of_bind_ok h with ⟨reason, hreason, h⟩
  cases reason with
  | some reason =>
      cases h
      cases hresolved
  | none =>
      rcases exists_of_bind_ok h with ⟨keptData, hdata, h⟩
      rcases exists_of_bind_ok h with ⟨keptRetrieval, hretrieval, h⟩
      cases h
      rcases prefilterSkill_none casefold defaultAllowApproved registry hreason with
        ⟨henabled, htenant, hcovered, hcapable⟩
      -- A linked skill was checked on its own, the database tool with the report.
      have hkept := linkedSkill_usable hperms hdata
      refine ⟨_, rfl, ⟨henabled, mem_of_permissionsCover hperms hcovered⟩, ?_,
        fun skill hskill => (hkept skill hskill).2,
        fun skill hskill => (linkedSkill_usable hperms hretrieval skill hskill).2, ?_⟩
      · simpa [tenantAllowed] using htenant
      · intro hoff
        have hnone := getDataForReport_of_capable casefold registry hcapable hoff
        refine Option.eq_none_iff_forall_ne_some.mpr fun linked hset => ?_
        rw [(hkept linked hset).1] at hnone
        cases hnone

/-- The first skill of the candidates that is resolved. -/
theorem firstResolved_legal {candidates : List ReportSkill} {r : SkillResolveResult}
    (hperms : pyGet ctx.config "permissions" .none = .list permissions)
    (h : firstResolved casefold defaultAllowApproved registry ctx candidates = .ok (some r)) :
    ∃ set, r.skillSet = some set ∧ Legal ctx permissions set := by
  induction candidates with
  | nil => cases h
  | cons skill rest ih =>
      rcases exists_of_bind_ok h with ⟨result, hresult, h⟩
      split_ifs at h with hresolved
      · cases h
        exact resolveReportSkill_legal casefold defaultAllowApproved registry hperms hresult
          hresolved
      · exact ih h

/-- However a request is resolved, it may use the skills it is given. -/
theorem resolved_legal (config : HybridRecallConfig) (x : Retrievers)
    (hperms : pyGet ctx.config "permissions" .none = .list permissions) (r : SkillResolveResult)
    (h : resolve casefold defaultAllowApproved registry config x ctx = .ok r)
    (hresolved : r.resolved = true) : ∃ set, r.skillSet = some set ∧ Legal ctx permissions set := by
  -- All five ways end in the same checks.
  have hskill : ∀ skill source fallbackUsed, resolveReportSkill casefold defaultAllowApproved
      registry skill source ctx fallbackUsed = .ok r →
        ∃ set, r.skillSet = some set ∧ Legal ctx permissions set :=
    fun _ _ _ hr =>
      resolveReportSkill_legal casefold defaultAllowApproved registry hperms hr hresolved
  rw [resolve] at h
  split at h
  · split_ifs at h
    · cases h
      cases hresolved
    · split at h
      · exact hskill _ _ _ h
      · cases h
        cases hresolved
  · split at h
    · exact hskill _ _ _ h
    -- Which candidates were recalled does not matter.
    · rcases exists_of_bind_ok h with ⟨candidates, -, h⟩
      rcases exists_of_bind_ok h with ⟨found, hfound, h⟩
      cases found with
      | some result =>
          cases h
          exact firstResolved_legal casefold defaultAllowApproved registry hperms hfound
      | none =>
          change resolveDefault casefold defaultAllowApproved registry ctx = .ok r at h
          rw [resolveDefault] at h
          split at h
          · exact hskill _ _ _ h
          · split at h
            · exact hskill _ _ _ h
            · cases h
              cases hresolved

/-- A report that reads databases, for those who may. -/
def salesCatalog : SkillCatalogSnapshot where
  skillsById := [("sales", .report { skillId := "sales", reportType := "cost_analysis"
                                     allowedTenants := ["t1"], requiredPermissions := ["cost:read"]
                                     intentKeywords := ["cost"] })]
  dataSkillIndex := [("sales", { skillId := "sales_data", requiredPermissions := ["db:read"] })]

/-- A question about costs, of a user who may see them. -/
def salesRequest : SkillResolveContext where
  userQuestion := "cost of may"
  tenantId := "t1"
  agentConfig := some [("permissions", .list [.str "cost:read", .str "db:read"])]

theorem resolved_legal_sales :
    ∃ r, resolve id false salesCatalog {} {} salesRequest = .ok r ∧ r.resolved = true ∧
      ∃ set, r.skillSet = some set ∧
        Legal salesRequest [.str "cost:read", .str "db:read"] set := by
  have hany : (resolve id false salesCatalog {} {} salesRequest).toOption.any
      (fun r => r.resolved) = true := by decide
  rcases exists_of_any hany with ⟨r, hresult, hok⟩
  exact ⟨r, hresult, hok, resolved_legal id false salesCatalog {} {} rfl r hresult hok⟩

end Legality

end Skills

end AgenticRag

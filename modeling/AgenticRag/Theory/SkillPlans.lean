import AgenticRag.Theory.Templates

/-!
# What a Plan from Skills Keeps to

A plan made from a skill set reads only databases and knowledge bases that the
skills declare, and ends with the report, which waits for all other steps. What
fills the filters of its steps is the context of the request with the additions
of the agent over it, and the tenant is in there like any other variable: an
addition of that name replaces it. The steps are named after the templates and
targets they come from, whose ids nothing compares.

## Main definitions

* `requestValue`: What a variable is to be filled with.
* `TenantKept`, `IdsApart`: When it is.

## Theorems

* `databaseStepsOf_forall₂`, `ragStepsOf_forall₂`: The steps.
* `buildPlan_keepsToRequest_iff`: A plan is what it is to be exactly if the
  tenant is kept and ids are apart.
-/

namespace AgenticRag

namespace Skills

open Py Ordered Structured Plan

section Steps

variable (u : Unicode) (context : SkillPlanContext)

/-- A text a declaration has under a key. -/
def declaredText (declaration : Dict) (key : String) : Option String :=
  match pyGet declaration key .none with
  | .str s => some s
  | _ => none

/-- The id a declaration has under a key, as a text. -/
def idText (key : String) (declaration : Dict) : String :=
  (pyGet declaration key .none).toStr u

/-- The target of a query template is declared. -/
def hasTarget (dataSkill : PlannedDataSkill) (template : Dict) : Bool :=
  (declaredText template "target_id").any (fun targetId =>
    dataSkill.dbTargets.any (fun target => declaredText target "target_id" == some targetId))

theorem idText_of_pyItem {declaration : Dict} {key : String} {x : Val}
    (h : pyItem declaration key = .ok x) : x.toStr u = idText u key declaration := by
  rw [pyItem] at h
  rw [idText, pyGet]
  split at h
  · next hlookup =>
      cases h
      rw [hlookup]
      rfl
  · cases h

theorem mem_of_lookup_dbTargetsById {targets : List Dict} {targetId : String} {target : Dict}
    (h : (dbTargetsById targets).lookup targetId = some target) : target ∈ targets := by
  rcases List.mem_filterMap.mp (mem_dictOf _ _ (mem_of_lookup h)) with ⟨t, ht, hpair⟩
  split at hpair
  · cases hpair
    exact ht
  · cases hpair

theorem isSome_lookup_dbTargetsById (targets : List Dict) (targetId : String) :
    ((dbTargetsById targets).lookup targetId).isSome =
      targets.any (fun target => declaredText target "target_id" == some targetId) := by
  rw [Bool.eq_iff_iff, List.any_eq_true]
  constructor
  · intro h
    rcases Option.isSome_iff_exists.mp h with ⟨target, hlookup⟩
    rcases List.mem_filterMap.mp (mem_dictOf _ _ (mem_of_lookup hlookup)) with ⟨t, ht, hpair⟩
    split at hpair
    · next hid =>
        cases hpair
        exact ⟨_, ht, by rw [declaredText, hid, beq_self_eq_true]⟩
    · cases hpair
  · rintro ⟨t, ht, hid⟩
    by_contra hnone
    rw [Bool.not_eq_true, Option.isSome_eq_false_iff, Option.isNone_iff_eq_none] at hnone
    -- A target that declares the id puts it among the keys.
    have hkey : targetId ∈ (dbTargetsById targets).map Prod.fst := by
      have hdeclared : pyGet t "target_id" .none = .str targetId := by
        rw [declaredText, beq_iff_eq] at hid
        split at hid
        · next s hs =>
            cases hid
            exact hs
        · cases hid
      refine (mem_keys_dictUpdate [] _ _).mpr (.inr (List.mem_map.mpr ⟨(targetId, t), ?_, rfl⟩))
      refine List.mem_filterMap.mpr ⟨t, ht, ?_⟩
      rw [hdeclared]
    exact absurd hkey (lookup_eq_none_iff_not_mem.mp hnone)

/-- The target a template is given is a declared one, and a template without
    one names none. -/
theorem templateTarget_spec {dataSkill : PlannedDataSkill} {template : Dict}
    {found : Option Dict} (h : templateTarget dataSkill template = .ok found) :
    (∀ target ∈ found, target ∈ dataSkill.dbTargets) ∧
      found.isSome = hasTarget dataSkill template := by
  rw [templateTarget] at h
  rw [hasTarget, declaredText]
  split at h
  · next targetId hid =>
      cases h
      rw [hid]
      exact ⟨fun target htarget => mem_of_lookup_dbTargetsById htarget,
        isSome_lookup_dbTargetsById _ _⟩
  · cases h
  · cases h
  · next hother _ _ =>
      cases h
      refine ⟨fun target htarget => (Option.not_mem_none _ htarget).elim, ?_⟩
      split
      · next s hs => exact absurd hs (hother s)
      · rfl

/-- What a step of a template is. -/
structure DatabaseStepOf (targets : List Dict) (template : Dict) (step : PlanStep) : Prop where
  stepId : step.stepId = "query_" ++ idText u "template_id" template
  tool : step.tool = .database
  filters : pyGet step.args.extra "filters" .none =
    renderValue (contextValue u (templateContext context)) (pyGet template "filters" (.dict []))
  dbId : step.args.dbId ∈ targets.map (idText u "db_id")
  kbIds : step.args.kbIds = []

theorem databaseStepOf {targets : List Dict} {template target : Dict} {step : PlanStep}
    (htarget : target ∈ targets)
    (h : buildDatabaseStep u context template target = .ok step) :
    DatabaseStepOf u context targets template step := by
  rcases exists_of_bind_ok h with ⟨templateId, htemplate, h⟩
  rcases exists_of_bind_ok h with ⟨dbId, hdb, h⟩
  rcases exists_of_bind_ok h with ⟨tableName, -, h⟩
  cases h
  exact {
    stepId := by rw [idText_of_pyItem u htemplate]
    tool := rfl
    filters := by simp [pyGet, skillContext, List.lookup_cons]
    dbId := List.mem_map.mpr ⟨target, htarget, (idText_of_pyItem u hdb).symm⟩
    kbIds := rfl }

/-- The database steps come from the declared templates, one from each. -/
theorem databaseStepsOf_forall₂ {dataSkill : PlannedDataSkill} {templates : List Dict}
    {steps : List PlanStep} (h : databaseStepsOf u context dataSkill templates = .ok steps) :
    List.Forall₂ (DatabaseStepOf u context dataSkill.dbTargets)
      (templates.filter (hasTarget dataSkill)) steps := by
  induction templates generalizing steps with
  | nil =>
      cases h
      exact .nil
  | cons template rest ih =>
      rcases exists_of_bind_ok h with ⟨found, hfound, h⟩
      rcases templateTarget_spec hfound with ⟨hmem, hsome⟩
      cases found with
      | none =>
          rw [List.filter_cons_of_neg (by rw [← hsome]; exact Bool.false_ne_true)]
          exact ih h
      | some target =>
          rcases exists_of_bind_ok h with ⟨step, hstep, h⟩
          rcases exists_of_bind_ok h with ⟨steps', hsteps, h⟩
          cases h
          rw [List.filter_cons_of_pos hsome.symm]
          exact .cons (databaseStepOf u context (hmem target rfl) hstep) (ih hsteps)

/-- What the items of a declared list are. -/
def listedItems (v : Val) : List Val := (pyIter v).toOption.getD []

/-- What the fields of a declared mapping are. -/
def listedFields (v : Val) : Dict := (asMapping v).toOption.getD []

/-- A query is kept if each of its variables has a value, or is optional where
    the target is required. -/
def queryKept (optionalContext : List Val) (required : Bool) (query : String) : Bool :=
  (variablesOf query).all (fun name =>
    (pyGet (templateContext context) name .none).truthy ||
      (required && optionalContext.any (keyEq (.str name))))

/-- A query of the target is kept. -/
def asks (optionalContext : List Val) (target : Dict) : Bool :=
  (listedItems (pyGet target "query_templates" (.list []))).any (fun template =>
    queryKept context optionalContext (pyGet target "required" (.bool false)).truthy
      ((pyGet (listedFields template) "query" (.str "")).toStr u))

theorem queryKept_eq (optionalContext : List Val) (required : Bool) (query : String) :
    queryKept context optionalContext required query =
      (((variablesOf query).filter (fun name =>
          !(pyGet (templateContext context) name .none).truthy)).isEmpty ||
        (((variablesOf query).filter (fun name =>
          !(pyGet (templateContext context) name .none).truthy)).all
            (fun name => optionalContext.any (keyEq (.str name))) && required)) := by
  rw [queryKept, Bool.eq_iff_iff]
  cases required with
  | false => simp [List.filter_eq_nil_iff]
  | true =>
      simp only [Bool.true_and, Bool.and_true, List.all_filter, Bool.or_eq_true,
        List.isEmpty_iff, List.filter_eq_nil_iff, List.all_eq_true, Bool.not_not]
      constructor
      · exact fun h => .inr h
      · rintro (h | h)
        · intro name hname
          have := h name hname
          simp_all
        · exact h

theorem renderRagQueries_isEmpty {optionalContext : List Val} {required : Bool}
    {templates : List Val} {queries : List String}
    (h : renderRagQueries u (templateContext context) optionalContext required templates =
      .ok queries) :
    queries.isEmpty = !templates.any (fun template =>
      queryKept context optionalContext required
        ((pyGet (listedFields template) "query" (.str "")).toStr u)) := by
  induction templates generalizing queries with
  | nil =>
      cases h
      rfl
  | cons template rest ih =>
      rcases exists_of_bind_ok h with ⟨fields, hfields, h⟩
      rcases exists_of_bind_ok h with ⟨queries', hqueries, h⟩
      have hlisted : listedFields template = fields := by rw [listedFields, hfields]; rfl
      rw [List.any_cons, Bool.not_or, ← ih hqueries, hlisted, queryKept_eq]
      generalize (variablesOf ((pyGet fields "query" (.str "")).toStr u)).filter _ = missing
        at h ⊢
      change (if missing ≠ [] ∧ ¬ _ then pure queries' else
        if missing ≠ [] ∧ required = false then pure queries' else pure (_ :: queries')) = _ at h
      -- A query is left out for an optional gap or in an optional target.
      split_ifs at h with hskip hmissing
      · cases h
        rw [List.isEmpty_eq_false_iff.mpr hskip.1, Bool.eq_false_iff.mpr hskip.2]
        rfl
      · cases h
        rw [List.isEmpty_eq_false_iff.mpr hmissing.1, hmissing.2, Bool.and_false]
        rfl
      · cases h
        rw [List.isEmpty_cons]
        cases missing with
        | nil => rfl
        | cons name names =>
            rw [not_and_or, not_not, not_not] at hskip
            rw [not_and_or, not_not, Bool.not_eq_false] at hmissing
            rw [hskip.resolve_left (List.cons_ne_nil _ _),
              hmissing.resolve_left (List.cons_ne_nil _ _)]
            rfl

/-- What a step of a target is. -/
structure RagStepOf (target : Dict) (step : PlanStep) :
    Prop where
  stepId : step.stepId = "retrieve_" ++ idText u "target_id" target
  tool : step.tool = .rag
  filters : pyGet step.args.extra "metadata_filters" .none =
    renderValue (contextValue u (templateContext context))
      (pyGet target "metadata_filters" (.dict []))
  dbId : step.args.dbId = ""
  kbIds : step.args.kbIds = [idText u "kb_id" target]

theorem ragStepOf {target : Dict} {targetId : String} {queries : List String} {step : PlanStep}
    (hid : targetId = idText u "target_id" target)
    (h : buildRagStep u context target targetId queries = .ok step) :
    RagStepOf u context target step := by
  rcases exists_of_bind_ok h with ⟨kbId, hkb, h⟩
  rcases exists_of_bind_ok h with ⟨templates, -, h⟩
  rcases exists_of_bind_ok h with ⟨templateIds, -, h⟩
  cases h
  exact {
    stepId := by rw [hid]
    tool := rfl
    filters := by simp [pyGet, skillContext, List.lookup_cons]
    dbId := rfl
    kbIds := by rw [idText_of_pyItem u hkb] }

/-- The retrieval steps come from the targets a query of which is kept, one
    from each. -/
theorem ragStepsOf_forall₂ {optionalContext : List Val} {targets : List Dict}
    {steps : List PlanStep} (h : ragStepsOf u context optionalContext targets = .ok steps) :
    List.Forall₂ (RagStepOf u context) (targets.filter (asks u context optionalContext))
      steps := by
  induction targets generalizing steps with
  | nil =>
      cases h
      exact .nil
  | cons target rest ih =>
      rcases exists_of_bind_ok h with ⟨targetId, hid, h⟩
      rcases exists_of_bind_ok h with ⟨queries, hqueries, h⟩
      rcases exists_of_bind_ok hqueries with ⟨templates, htemplates, hqueries⟩
      have hasks : queries.isEmpty = !asks u context optionalContext target := by
        rw [renderRagQueries_isEmpty u context hqueries, asks, listedItems, htemplates]
        rfl
      -- A target without queries has no step.
      cases hempty : queries.isEmpty with
      | true =>
          rw [hempty, if_pos rfl] at h
          rw [hempty] at hasks
          rw [List.filter_cons_of_neg (by simpa using hasks)]
          exact ih h
      | false =>
          rw [hempty, if_neg Bool.false_ne_true] at h
          rw [hempty] at hasks
          rcases exists_of_bind_ok h with ⟨step, hstep, h⟩
          rcases exists_of_bind_ok h with ⟨steps', hsteps, h⟩
          cases h
          rw [List.filter_cons_of_pos (by simpa using hasks)]
          exact .cons (ragStepOf u context (idText_of_pyItem u hid) hstep) (ih hsteps)

/-- What a list gives is given by another, if related elements give the
    same. -/
theorem map_eq_of_forall₂ {α β γ : Type} {R : α → β → Prop} {f : β → γ} {g : α → γ}
    {xs : List α} {ys : List β} (h : List.Forall₂ R xs ys) (heq : ∀ x y, R x y → f y = g x) :
    ys.map f = xs.map g := by
  induction h with
  | nil => rfl
  | cons hxy _ ih => rw [List.map_cons, List.map_cons, heq _ _ hxy, ih]

theorem forall_mem_of_forall₂ {α β : Type} {R : α → β → Prop} {P : β → Prop} {xs : List α}
    {ys : List β} (h : List.Forall₂ R xs ys) (himp : ∀ x y, R x y → P y) : ∀ y ∈ ys, P y := by
  induction h with
  | nil => exact fun y hy => absurd hy List.not_mem_nil
  | cons hxy _ ih =>
      rintro y (_ | ⟨_, hy⟩)
      · exact himp _ _ hxy
      · exact ih y hy

/-- The query templates that steps are made of. -/
def declaredTemplates : List Dict :=
  match context.skillSet.dataSkill with
  | none => []
  | some dataSkill => dataSkill.queryTemplates.filter (hasTarget dataSkill)

/-- The targets for retrieval that steps are made of. -/
def askedTargets : List Dict :=
  match context.skillSet.retrievalSkill with
  | none => []
  | some retrievalSkill =>
      retrievalSkill.ragTargets.filter (asks u context
        ((pySet (pyGet retrievalSkill.queryContextRequirements "optional_context"
          (.list []))).toOption.getD []))

/-- The databases of the skills. -/
def declaredDbTargets : List Dict :=
  (context.skillSet.dataSkill.map (·.dbTargets)).getD []

/-- The knowledge bases of the skills. -/
def declaredKbIds : List String :=
  ((context.skillSet.retrievalSkill.map (·.ragTargets)).getD []).map (idText u "kb_id")

theorem buildDatabaseSteps_forall₂ {steps : List PlanStep}
    (h : buildDatabaseSteps u context = .ok steps) :
    List.Forall₂ (DatabaseStepOf u context (declaredDbTargets context))
      (declaredTemplates context) steps := by
  rw [buildDatabaseSteps] at h
  rw [declaredTemplates, declaredDbTargets]
  cases hskill : context.skillSet.dataSkill with
  | none =>
      rw [hskill] at h
      cases h
      exact .nil
  | some dataSkill =>
      rw [hskill] at h
      exact databaseStepsOf_forall₂ u context h

theorem buildRagSteps_forall₂ {steps : List PlanStep}
    (h : buildRagSteps u context = .ok steps) :
    List.Forall₂ (fun target step => RagStepOf u context target step ∧
        ∀ kbId ∈ step.args.kbIds, kbId ∈ declaredKbIds u context)
      (askedTargets u context) steps := by
  rw [buildRagSteps] at h
  rw [askedTargets]
  cases hskill : context.skillSet.retrievalSkill with
  | none =>
      rw [hskill] at h
      cases h
      exact .nil
  | some retrievalSkill =>
      rw [hskill] at h
      rcases exists_of_bind_ok h with ⟨optionalContext, hoptional, h⟩
      have hsteps := ragStepsOf_forall₂ u context h
      simp only [hoptional]
      have hmem : ∀ target ∈ retrievalSkill.ragTargets.filter (asks u context optionalContext),
          idText u "kb_id" target ∈ declaredKbIds u context := by
        intro target htarget
        rw [declaredKbIds, hskill]
        exact List.mem_map_of_mem (List.mem_of_mem_filter htarget)
      refine ((List.forall₂_and_left _ _).mpr ⟨hmem, hsteps⟩).imp
        (fun target step hstep => ⟨hstep.2, ?_⟩)
      intro kbId hkb
      rw [hstep.2.kbIds, List.mem_singleton] at hkb
      rw [hkb]
      exact hstep.1

/-- There is at most one step for the graph. -/
theorem buildGraphSteps_cases {casefold : String → String} {steps : List PlanStep}
    (h : buildGraphSteps u casefold context = .ok steps) :
    steps = [] ∨ ∃ step, steps = [step] ∧
      step.stepId = "graph_" ++ context.skillSet.reportSkill.skillId ∧ step.tool = .graph ∧
        step.args.dbId = "" ∧ step.args.kbIds = [] := by
  rcases exists_of_bind_ok h with ⟨required, -, h⟩
  by_cases hrequired : required = true
  · rw [if_neg (not_not.mpr hrequired)] at h
    rcases exists_of_bind_ok h with ⟨graphConfig, -, h⟩
    rcases exists_of_bind_ok h with ⟨maxRows, -, h⟩
    rcases exists_of_bind_ok h with ⟨maxResultChars, -, h⟩
    rcases exists_of_bind_ok h with ⟨timeoutMs, -, h⟩
    cases h
    exact .inr ⟨_, rfl, rfl, rfl, rfl, rfl⟩
  · rw [if_pos hrequired] at h
    cases h
    exact .inl rfl

end Steps

section Plans

variable (u : Unicode) (context : SkillPlanContext)

/-- What the tenant's variable is filled with: what the agent adds under the
    name, if it adds it. -/
def tenantText : String :=
  (((dictOf (extraContext context)).lookup "tenant_id").map (Val.toStr u)).getD context.tenantId

/-- What a variable is to be filled with: the tenant's with the tenant of the
    request, the others with what the context has. -/
def requestValue (name : String) : Option String :=
  if name = "tenant_id" then some context.tenantId
  else contextValue u (templateContext context) name

/-- The filters of database and retrieval steps are the declared ones, filled
    for the tenant of the request; all steps have names of their own; databases
    and knowledge bases are declared ones; and the last step is the only report
    and waits for exactly all others. -/
structure KeepsToRequest (plan : ExecutionPlan) : Prop where
  filters : (plan.steps.filter (fun step => step.tool = .database)).map
      (fun step => pyGet step.args.extra "filters" .none) =
    (declaredTemplates context).map (fun template =>
      renderValue (requestValue u context) (pyGet template "filters" (.dict [])))
  metadataFilters : (plan.steps.filter (fun step => step.tool = .rag)).map
      (fun step => pyGet step.args.extra "metadata_filters" .none) =
    (askedTargets u context).map (fun target =>
      renderValue (requestValue u context) (pyGet target "metadata_filters" (.dict [])))
  stepIds : (plan.steps.map (·.stepId)).Nodup
  dbIds : ∀ step ∈ plan.steps, if step.tool = .database then
      step.args.dbId ∈ (declaredDbTargets context).map (idText u "db_id")
    else step.args.dbId = ""
  kbIds : ∀ step ∈ plan.steps, ∀ kbId ∈ step.args.kbIds, kbId ∈ declaredKbIds u context
  report : ∃ others last, plan.steps = others ++ [last] ∧ last.tool = .report ∧
    (∀ step ∈ others, step.tool ≠ .report) ∧ last.dependsOn = others.map (·.stepId)

/-- The agent adds no other tenant, or no filter of a step asks for one. -/
def TenantKept : Prop :=
  (∀ v ∈ (dictOf (extraContext context)).lookup "tenant_id", v.toStr u = context.tenantId) ∨
    ((∀ template ∈ declaredTemplates context,
        mentions "tenant_id" (pyGet template "filters" (.dict [])) = false) ∧
      ∀ target ∈ askedTargets u context,
        mentions "tenant_id" (pyGet target "metadata_filters" (.dict [])) = false)

/-- No two templates and no two targets that steps are made of have one id. -/
def IdsApart : Prop :=
  ((declaredTemplates context).map (idText u "template_id")).Nodup ∧
    ((askedTargets u context).map (idText u "target_id")).Nodup

theorem contextValue_tenant :
    contextValue u (templateContext context) "tenant_id" = some (tenantText u context) := by
  rw [contextValue, templateContext, lookup_dictUpdate_dictOf, tenantText]
  cases (dictOf (extraContext context)).lookup "tenant_id" with
  | none => rfl
  | some v => rfl

theorem tenantText_eq_iff : tenantText u context = context.tenantId ↔
    ∀ v ∈ (dictOf (extraContext context)).lookup "tenant_id", v.toStr u = context.tenantId := by
  rw [tenantText]
  cases (dictOf (extraContext context)).lookup "tenant_id" with
  | none => simp
  | some v => simp

/-- Filters are filled as they are to be exactly if the tenant is the one of the
    request or they do not mention it. -/
theorem map_renderValue_eq_iff (declared : List Dict) (key : String) :
    declared.map (fun d => renderValue (contextValue u (templateContext context))
        (pyGet d key (.dict []))) =
      declared.map (fun d => renderValue (requestValue u context) (pyGet d key (.dict []))) ↔
    tenantText u context = context.tenantId ∨
      ∀ d ∈ declared, mentions "tenant_id" (pyGet d key (.dict [])) = false := by
  rw [List.map_inj_left]
  have hiff := fun d : Dict => renderValue_eq_iff (contextValue_tenant u context)
    (show requestValue u context "tenant_id" = some context.tenantId from if_pos rfl)
    (fun n hn => (if_neg hn).symm) (pyGet d key (.dict []))
  simp only [hiff]
  by_cases htenant : tenantText u context = context.tenantId
  · simp [htenant]
  · simp [htenant]

/-- The first two letters of a step's name. -/
def stepKind (stepId : String) : List Char := stepId.toList.take 2

theorem stepKind_query (s : String) : stepKind ("query_" ++ s) = ['q', 'u'] := by
  rw [stepKind, String.toList_append]
  rfl

theorem stepKind_retrieve (s : String) : stepKind ("retrieve_" ++ s) = ['r', 'e'] := by
  rw [stepKind, String.toList_append]
  rfl

theorem stepKind_graph (s : String) : stepKind ("graph_" ++ s) = ['g', 'r'] := by
  rw [stepKind, String.toList_append]
  rfl

theorem stepKind_generate (s : String) : stepKind ("generate_" ++ s) = ['g', 'e'] := by
  rw [stepKind, String.toList_append]
  rfl

/-- Names of different kinds are apart. -/
theorem nodup_append_iff_of_stepKind {xs ys : List String} (kind : List Char)
    (hxs : ∀ x ∈ xs, stepKind x = kind) (hys : ∀ y ∈ ys, stepKind y ≠ kind) :
    (xs ++ ys).Nodup ↔ xs.Nodup ∧ ys.Nodup := by
  rw [List.nodup_append]
  constructor
  · exact fun h => ⟨h.1, h.2.1⟩
  · rintro ⟨hx, hy⟩
    refine ⟨hx, hy, ?_⟩
    rintro x hmem y hmem' rfl
    exact hys x hmem' (hxs x hmem)

theorem nodup_map_append_iff (pre : String) (ids : List String) :
    (ids.map (pre ++ ·)).Nodup ↔ ids.Nodup :=
  List.nodup_map_iff (fun _ _ h => (String.append_right_inj pre).mp h)

/-- The names of steps are apart exactly if the ids of each kind are, since the
    kinds begin differently. -/
theorem nodup_stepIds_iff (queries retrievals graph : List String) (skillId : String)
    (hgraph : graph = [] ∨ graph = ["graph_" ++ skillId]) :
    (queries.map ("query_" ++ ·) ++ (retrievals.map ("retrieve_" ++ ·) ++ (graph ++
        ["generate_" ++ skillId]))).Nodup ↔ queries.Nodup ∧ retrievals.Nodup := by
  -- What comes last begins like neither of the two kinds.
  have hlast : ∀ x ∈ graph ++ ["generate_" ++ skillId],
      stepKind x = ['g', 'r'] ∨ stepKind x = ['g', 'e'] := by
    rcases hgraph with rfl | rfl
    · simp [stepKind_generate]
    · simp [stepKind_generate, stepKind_graph]
  have hnodup : (graph ++ ["generate_" ++ skillId]).Nodup := by
    rcases hgraph with rfl | rfl
    · exact List.nodup_singleton _
    · refine (nodup_append_iff_of_stepKind ['g', 'r'] ?_ ?_).mpr
        ⟨List.nodup_singleton _, List.nodup_singleton _⟩
      · simp [stepKind_graph]
      · simp [stepKind_generate]
  have hretrieve : ∀ x ∈ retrievals.map ("retrieve_" ++ ·), stepKind x = ['r', 'e'] := by
    simp [stepKind_retrieve]
  -- The kinds are taken off from the left.
  rw [nodup_append_iff_of_stepKind ['q', 'u'], nodup_map_append_iff,
    nodup_append_iff_of_stepKind ['r', 'e'] hretrieve, nodup_map_append_iff]
  · exact ⟨fun h => ⟨h.1, h.2.1⟩, fun h => ⟨h.1, h.2, hnodup⟩⟩
  · intro x hx
    rcases hlast x hx with h | h <;> rw [h] <;> decide
  · simp [stepKind_query]
  · intro x hx
    rcases List.mem_append.mp hx with hx | hx
    · rw [hretrieve x hx]
      decide
    · rcases hlast x hx with h | h <;> rw [h] <;> decide

/-- The steps of a plan by what they are made of. -/
structure Evidence (database rag graph : List PlanStep) : Prop where
  database : List.Forall₂ (DatabaseStepOf u context (declaredDbTargets context))
    (declaredTemplates context) database
  rag : List.Forall₂ (fun target step => RagStepOf u context target step ∧
    ∀ kbId ∈ step.args.kbIds, kbId ∈ declaredKbIds u context) (askedTargets u context) rag
  graph : graph = [] ∨ ∃ step, graph = [step] ∧
    step.stepId = "graph_" ++ context.skillSet.reportSkill.skillId ∧ step.tool = .graph ∧
      step.args.dbId = "" ∧ step.args.kbIds = []

theorem exists_evidence {casefold : String → String} {context : SkillPlanContext}
    {result : SkillPlanResult} {plan : ExecutionPlan}
    (h : buildPlan u casefold context = .ok result) (hplan : result.plan = some plan) :
    ∃ database rag graph, Evidence u context database rag graph ∧
      plan.steps = database ++ rag ++ graph ++
        [buildReportStep context (database ++ rag ++ graph)] := by
  rcases exists_of_bind_ok h with ⟨missing, -, h⟩
  split_ifs at h
  · cases h
    cases hplan
  · rcases exists_of_bind_ok h with ⟨steps, hsteps, h⟩
    rcases exists_of_bind_ok hsteps with ⟨database, hdatabase, hsteps⟩
    rcases exists_of_bind_ok hsteps with ⟨rag, hrag, hsteps⟩
    rcases exists_of_bind_ok hsteps with ⟨graph, hgraph, hsteps⟩
    cases hsteps
    cases h
    cases hplan
    exact ⟨database, rag, graph, ⟨buildDatabaseSteps_forall₂ u context hdatabase,
      buildRagSteps_forall₂ u context hrag, buildGraphSteps_cases u context hgraph⟩, rfl⟩

variable {context : SkillPlanContext} {database rag graph : List PlanStep}

/-- Of the steps for evidence each kind has its tool. -/
theorem Evidence.tools (he : Evidence u context database rag graph) :
    (∀ step ∈ database, step.tool = .database) ∧ (∀ step ∈ rag, step.tool = .rag) ∧
      ∀ step ∈ graph, step.tool = .graph := by
  refine ⟨forall_mem_of_forall₂ he.database (fun _ _ h => h.tool),
    forall_mem_of_forall₂ he.rag (fun _ _ h => h.1.tool), ?_⟩
  rcases he.graph with rfl | ⟨step, rfl, -, htool, -⟩
  · exact fun step hstep => absurd hstep List.not_mem_nil
  · exact fun s hs => List.mem_singleton.mp hs ▸ htool

theorem Evidence.filter_database (he : Evidence u context database rag graph) :
    (database ++ rag ++ graph ++ [buildReportStep context (database ++ rag ++ graph)]).filter
      (fun step => step.tool = .database) = database := by
  rcases he.tools with ⟨hdatabase, hrag, hgraph⟩
  rw [List.filter_append, List.filter_append, List.filter_append,
    List.filter_eq_self.mpr (fun s hs => decide_eq_true (hdatabase s hs)),
    List.filter_eq_nil_iff.mpr (fun s hs => by simp [hrag s hs]),
    List.filter_eq_nil_iff.mpr (fun s hs => by simp [hgraph s hs]),
    List.filter_eq_nil_iff.mpr (by simp [buildReportStep])]
  simp

theorem Evidence.filter_rag (he : Evidence u context database rag graph) :
    (database ++ rag ++ graph ++ [buildReportStep context (database ++ rag ++ graph)]).filter
      (fun step => step.tool = .rag) = rag := by
  rcases he.tools with ⟨hdatabase, hrag, hgraph⟩
  rw [List.filter_append, List.filter_append, List.filter_append,
    List.filter_eq_nil_iff.mpr (fun s hs => by simp [hdatabase s hs]),
    List.filter_eq_self.mpr (fun s hs => decide_eq_true (hrag s hs)),
    List.filter_eq_nil_iff.mpr (fun s hs => by simp [hgraph s hs]),
    List.filter_eq_nil_iff.mpr (by simp [buildReportStep])]
  simp

/-- The names of the steps are apart exactly if the ids are. -/
theorem Evidence.stepIds_nodup_iff (he : Evidence u context database rag graph) :
    ((database ++ rag ++ graph ++
        [buildReportStep context (database ++ rag ++ graph)]).map (·.stepId)).Nodup ↔
      IdsApart u context := by
  have hdatabase : database.map (·.stepId) =
      ((declaredTemplates context).map (idText u "template_id")).map ("query_" ++ ·) := by
    rw [List.map_map]
    exact map_eq_of_forall₂ he.database (fun _ _ h => h.stepId)
  have hrag : rag.map (·.stepId) =
      ((askedTargets u context).map (idText u "target_id")).map ("retrieve_" ++ ·) := by
    rw [List.map_map]
    exact map_eq_of_forall₂ he.rag (fun _ _ h => h.1.stepId)
  have hgraph : graph.map (·.stepId) = [] ∨
      graph.map (·.stepId) = ["graph_" ++ context.skillSet.reportSkill.skillId] := by
    rcases he.graph with rfl | ⟨step, rfl, hid, -⟩
    · exact .inl rfl
    · exact .inr (by rw [List.map_singleton, hid])
  rw [List.map_append, List.map_append, List.map_append, hdatabase, hrag, List.append_assoc,
    List.append_assoc]
  exact nodup_stepIds_iff _ _ _ _ hgraph

/-- Whatever the ids and the tenant, databases and knowledge bases are declared
    ones. -/
theorem Evidence.sources (he : Evidence u context database rag graph) :
    ∀ step ∈ database ++ rag ++ graph ++ [buildReportStep context (database ++ rag ++ graph)],
      (if step.tool = .database then
          step.args.dbId ∈ (declaredDbTargets context).map (idText u "db_id")
        else step.args.dbId = "") ∧
      ∀ kbId ∈ step.args.kbIds, kbId ∈ declaredKbIds u context := by
  simp only [List.mem_append, List.mem_singleton]
  rintro step (((hstep | hstep) | hstep) | rfl)
  · rw [if_pos (he.tools.1 step hstep),
      forall_mem_of_forall₂ he.database (fun _ _ h => h.kbIds) step hstep]
    exact ⟨forall_mem_of_forall₂ he.database (fun _ _ h => h.dbId) step hstep,
      fun _ hk => absurd hk List.not_mem_nil⟩
  · rw [if_neg (by rw [he.tools.2.1 step hstep]; decide)]
    exact ⟨forall_mem_of_forall₂ he.rag (fun _ _ h => h.1.dbId) step hstep,
      forall_mem_of_forall₂ he.rag (fun _ _ h => h.2) step hstep⟩
  · rcases he.graph with rfl | ⟨s, rfl, -, htool, hdb, hkb⟩
    · exact absurd hstep List.not_mem_nil
    · rw [List.mem_singleton.mp hstep, if_neg (by rw [htool]; decide), hkb]
      exact ⟨hdb, fun _ hk => absurd hk List.not_mem_nil⟩
  · rw [if_neg (fun h => by cases h)]
    exact ⟨rfl, fun _ hk => absurd hk List.not_mem_nil⟩

/-- Whatever the ids and the tenant, the plan ends with its only report, which
    waits for all other steps. -/
theorem Evidence.report (he : Evidence u context database rag graph) :
    ∃ others last,
      database ++ rag ++ graph ++ [buildReportStep context (database ++ rag ++ graph)] =
        others ++ [last] ∧ last.tool = .report ∧ (∀ step ∈ others, step.tool ≠ .report) ∧
        last.dependsOn = others.map (·.stepId) := by
  rcases he.tools with ⟨hdatabase, hrag, hgraph⟩
  refine ⟨_, _, rfl, rfl, ?_, rfl⟩
  simp only [List.mem_append]
  rintro step ((hstep | hstep) | hstep) htool
  · cases htool.symm.trans (hdatabase step hstep)
  · cases htool.symm.trans (hrag step hstep)
  · cases htool.symm.trans (hgraph step hstep)

/-- A plan is what it is to be exactly if the tenant of the request is kept and
    the ids its steps are named after are apart. -/
theorem buildPlan_keepsToRequest_iff (casefold : String → String) {context : SkillPlanContext}
    {result : SkillPlanResult} {plan : ExecutionPlan}
    (h : buildPlan u casefold context = .ok result) (hplan : result.plan = some plan) :
    KeepsToRequest u context plan ↔ TenantKept u context ∧ IdsApart u context := by
  rcases exists_evidence u h hplan with ⟨database, rag, graph, he, hsteps⟩
  have hdatabase := map_eq_of_forall₂ he.database (fun _ _ h => h.filters)
  have hrag := map_eq_of_forall₂ he.rag (fun _ _ h => h.1.filters)
  -- Rendering goes filter by filter, and what it gives depends on the tenant alone.
  have hfilters := map_renderValue_eq_iff u context (declaredTemplates context) "filters"
  have hmetadata := map_renderValue_eq_iff u context (askedTargets u context) "metadata_filters"
  rw [TenantKept, ← tenantText_eq_iff]
  constructor
  · rintro ⟨hf, hm, hids, -, -, -⟩
    rw [hsteps, he.filter_database, hdatabase, hfilters] at hf
    rw [hsteps, he.filter_rag, hrag, hmetadata] at hm
    rw [hsteps, he.stepIds_nodup_iff] at hids
    exact ⟨or_and_left.mpr ⟨hf, hm⟩, hids⟩
  · rintro ⟨htenant, hids⟩
    rcases or_and_left.mp htenant with ⟨hf, hm⟩
    exact {
      filters := by rw [hsteps, he.filter_database, hdatabase, hfilters]; exact hf
      metadataFilters := by rw [hsteps, he.filter_rag, hrag, hmetadata]; exact hm
      stepIds := by rw [hsteps, he.stepIds_nodup_iff]; exact hids
      dbIds := fun step hstep => (he.sources u step (hsteps ▸ hstep)).1
      kbIds := fun step hstep => (he.sources u step (hsteps ▸ hstep)).2
      report := by rw [hsteps]; exact he.report }

end Plans

/-- A template for the orders of the tenant. -/
def ordersTemplate : Dict :=
  [("template_id", .str "orders"), ("target_id", .str "erp"), ("table_name", .str "orders"),
    ("filters", .dict [("tenant_id", .str "\x7btenant_id\x7d")])]

/-- A request of the tenant `acme` for a report from the given templates. -/
def ordersRequest (templates : List Dict) (agentConfig : Dict) : SkillPlanContext where
  userQuestion := "orders"
  tenantId := "acme"
  skillSet := {
    reportSkill := { skillId := "r", reportType := "business_analysis" }
    dataSkill := some { skillId := "d"
                        dbTargets := [[("target_id", .str "erp"), ("db_id", .str "erp_db")]]
                        queryTemplates := templates } }
  agentConfig := agentConfig

theorem buildPlan_keepsToRequest_iff_orders : ∃ result plan,
    buildPlan default id (ordersRequest [ordersTemplate] []) = .ok result ∧
      result.plan = some plan ∧
        (KeepsToRequest default (ordersRequest [ordersTemplate] []) plan ↔
          TenantKept default (ordersRequest [ordersTemplate] []) ∧
            IdsApart default (ordersRequest [ordersTemplate] [])) :=
  ⟨_, _, rfl, rfl, buildPlan_keepsToRequest_iff default id rfl rfl⟩

/-- An addition of the agent replaces the tenant, and two templates of one id
    give two steps of one name. -/
theorem buildPlan_other_tenant :
    (∃ result plan,
      buildPlan default id (ordersRequest [ordersTemplate]
          [("context", .dict [("tenant_id", .str "other")])]) = .ok result ∧
        result.plan = some plan ∧
        plan.steps.map (fun step => pyGet step.args.extra "filters" .none) =
          [.dict [("tenant_id", .str "other")], .none] ∧
        ¬ KeepsToRequest default (ordersRequest [ordersTemplate]
          [("context", .dict [("tenant_id", .str "other")])]) plan) ∧
    ∃ result plan,
      buildPlan default id (ordersRequest [ordersTemplate, ordersTemplate] []) = .ok result ∧
        result.plan = some plan ∧
        plan.steps.map (·.stepId) = ["query_orders", "query_orders", "generate_r"] ∧
        ¬ KeepsToRequest default (ordersRequest [ordersTemplate, ordersTemplate] []) plan := by
  refine ⟨⟨_, _, rfl, rfl, ?_, fun h => ?_⟩, ⟨_, _, rfl, rfl, ?_, fun h => ?_⟩⟩
  · rfl
  · have hfilters : [Val.dict [("tenant_id", .str "other")]] =
        [.dict [("tenant_id", .str "acme")]] := h.filters
    simp at hfilters
  · rfl
  · exact absurd h.stepIds (by decide)

end Skills

end AgenticRag

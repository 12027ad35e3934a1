import AgenticRag.Core.StructuredQuery

/-!
# The Filter on the Tenant

Where a skill requires it, a structured query asks for the rows of one tenant.
Three things could take the filter away or give it another value: the filters
of the context and of the template, the field that is filtered by time, which
leaves the filters, and the names of the other parameters.

The filter is set after the others, so it has the tenant of the context. If
the field filtered by time is the tenant, the filter does leave, and the check
of the builder refuses the query. The names of the other parameters are those
of the other filters, names that end in a suffix, and the limit.

## Main definitions

* `IsComparison`: A predicate that compares an allowed field with its
  parameter.
* `BindsTenant`: A statement that asks for the rows of one tenant.

## Theorems

* `lookup_paramsOf`: The parameter of a filter has its value.
* `policyFor_of_build`: The policy that checked the query is found again.
* `compileQuery_bindsTenant`: The statement is bound to the tenant.
-/

namespace AgenticRag

namespace Structured

open Py Ordered

section Filters

theorem dictOf_keys_nodup {β : Type} (kvs : List (String × β)) :
    ((dictOf kvs).map Prod.fst).Nodup :=
  keys_dictUpdate_nodup (d := []) kvs List.nodup_nil

theorem pyDict_keys_nodup {v : Val} {d : Dict} (h : pyDict v = .ok d) :
    (d.map Prod.fst).Nodup := by
  unfold pyDict at h
  split at h
  · cases h
    exact dictOf_keys_nodup _
  · rcases exists_of_bind_ok h with ⟨kvs, _, h⟩
    cases h
    exact dictOf_keys_nodup _
  · split at h
    · cases h
      exact List.nodup_nil
    · cases h
  · cases h

theorem setDefault_keys_nodup (k : String) (v : Val) {d : Dict} (h : (d.map Prod.fst).Nodup) :
    ((setDefault k v d).map Prod.fst).Nodup := by
  unfold setDefault
  by_cases hk : k ∈ d.map Prod.fst
  · rwa [if_pos hk]
  · rw [if_neg hk, List.map_append, List.nodup_append]
    refine ⟨h, List.nodup_singleton _, ?_⟩
    intro a ha b hb heq
    rw [List.map_singleton, List.mem_singleton] at hb
    have hak : a = k := heq.trans hb
    exact hk (hak ▸ ha)

theorem mergeFilters_keys_nodup (templateFilters context : Dict) {given : Dict}
    (h : (given.map Prod.fst).Nodup) :
    ((mergeFilters templateFilters context given).map Prod.fst).Nodup := by
  unfold mergeFilters
  induction templateFilters generalizing given with
  | nil => exact h
  | cons p rest ih =>
      rw [List.foldl_cons]
      apply ih
      dsimp only
      split
      · exact h
      · exact setDefault_keys_nodup _ _ h

/-- What was required was set. -/
theorem forceTenant_ok {policyConstraints context merged filters : Dict}
    (hreq : requiresTenant policyConstraints)
    (h : forceTenant policyConstraints context merged = .ok filters) :
    (pyGet context "tenant_id" .none).truthy ∧
      filters = dictSet "tenant_id" (pyGet context "tenant_id" .none) merged := by
  unfold forceTenant at h
  rw [if_pos hreq] at h
  dsimp only at h
  split at h
  next htruthy =>
    cases h
    exact ⟨htruthy, rfl⟩
  · cases h

theorem lookup_filter_ne {k field : String} (hk : k ≠ field) (filters : Dict) :
    (filters.filter (fun p => p.1 ≠ field)).lookup k = filters.lookup k := by
  induction filters with
  | nil => rfl
  | cons p rest ih =>
      rcases p with ⟨j, v⟩
      by_cases hj : j = field
      · have hne : (k == j) = false := by simpa [hj] using hk
        rw [List.filter_cons_of_neg (by simp [hj]), ih, List.lookup_cons, hne]
      · rw [List.filter_cons_of_pos (by simp [hj]), List.lookup_cons, List.lookup_cons, ih]

/-- Nothing but the field filtered by time leaves the filters. -/
theorem lookup_popTimeField (timeField : Option String) (timeRange : Val) (filters : Dict)
    (k : String) :
    (popTimeField timeField timeRange filters).lookup k = filters.lookup k ∨
      (popTimeField timeField timeRange filters).lookup k = none := by
  unfold popTimeField
  split
  · exact Or.inl rfl
  next field =>
    split
    · by_cases hk : k = field
      · right
        apply lookup_eq_none_of_not_mem
        simp [hk]
      · exact Or.inl (lookup_filter_ne hk filters)
    · exact Or.inl rfl

theorem popTimeField_keys_nodup (timeField : Option String) (timeRange : Val) {filters : Dict}
    (h : (filters.map Prod.fst).Nodup) :
    ((popTimeField timeField timeRange filters).map Prod.fst).Nodup := by
  unfold popTimeField
  split
  · exact h
  · split
    · exact (List.filter_sublist.map Prod.fst).nodup h
    · exact h

end Filters

section Build

variable {u : Unicode} {skill : QuerySkill} {queryTemplateId : String} {context : Dict}
  {query : StructuredQuery}

/-- A query that was built filters by the tenant of the context, where this is
    required. Had the filter left as the field filtered by time, the check
    would have refused the query. -/
theorem build_tenant (hreq : requiresTenant skill.policyConstraints)
    (hbuild : build u skill queryTemplateId context = .ok query) :
    (query.filters.map Prod.fst).Nodup ∧
      query.filters.lookup "tenant_id" = some (pyGet context "tenant_id" .none) := by
  rcases build_ok hbuild with ⟨template, target, tables, table, given, templateFilters, filters,
    policy, -, -, -, -, hgiven, hforce, -, -, hfilters, hpolicy, hvalid⟩
  rcases forceTenant_ok hreq hforce with ⟨-, hset⟩
  have hnodup : (filters.map Prod.fst).Nodup := by
    rw [hset]
    exact keys_dictSet_nodup _ _
      (mergeFilters_keys_nodup templateFilters context (pyDict_keys_nodup hgiven))
  have hlookup : filters.lookup "tenant_id" = some (pyGet context "tenant_id" .none) := by
    rw [hset, lookup_dictSet, if_pos rfl]
  refine ⟨hfilters ▸ popTimeField_keys_nodup _ _ hnodup, ?_⟩
  rcases lookup_popTimeField (resolveTimeFilter templateFilters context).1
    (resolveTimeFilter templateFilters context).2 filters "tenant_id" with hkept | hleft
  · rw [hfilters, hkept, hlookup]
  -- A tenant filter that is gone would not have passed the check.
  · have htruthy := (QueryPolicy.validateQuery_ok hvalid).2.1
      ((QueryPolicy.of_ok hpolicy).2 ▸ hreq)
    rw [pyGet, hfilters, hleft] at htruthy
    cases htruthy

theorem eq_str_of_pyEq {s : String} {v : Val} (h : pyEq (.str s) v = true) : v = .str s := by
  cases v with
  | str t =>
      have heq : s = t := by simpa [pyEq, keyEq] using h
      rw [heq]
  | _ => simp [pyEq, keyEq] at h

theorem pyEq_of_findBy {key : String} {v : Val} {err : BuildError} {ds : List Dict} {d : Dict}
    (h : findBy key v err ds = .ok d) : pyEq (pyGet d key .none) v = true := by
  induction ds with
  | nil => cases h
  | cons e rest ih =>
      rw [findBy] at h
      split at h
      next heq =>
        cases h
        exact heq
      · exact ih h

/-- The policy for a query that was built is the one it was checked with: the
    table is found by its name as it was by the name in the template. -/
theorem policyFor_of_build (hbuild : build u skill queryTemplateId context = .ok query) :
    ∃ policy, policyFor u skill query = .ok policy ∧ policy.validateQuery u query = .ok () := by
  rcases build_ok hbuild with ⟨template, target, tables, table, given, templateFilters, filters,
    policy, htemplate, htarget, htables, htable, -, -, -, hid, -, hpolicy, hvalid⟩
  -- The check compares the query with the table it was built from.
  have hname : pyGet table "table_name" .none = .str query.tableName := by
    have heq := (QueryPolicy.validateQuery_ok hvalid).1
    rw [(QueryPolicy.of_ok hpolicy).1] at heq
    exact eq_str_of_pyEq heq
  have hgiven : pyGet template "table_name" (.str "") = .str query.tableName := by
    have heq := pyEq_of_findBy htable
    rw [hname] at heq
    exact eq_str_of_pyEq heq
  refine ⟨policy, ?_, hvalid⟩
  unfold policyFor
  rw [hid, htemplate]
  dsimp only [bind, Except.bind]
  rw [htarget]
  dsimp only
  rw [htables]
  dsimp only [liftExc]
  rw [← hgiven, htable]
  dsimp only
  rw [hpolicy]

end Build

section Compile

theorem ne_append_of_not_suffix {s t : String} (h : ¬ t.toList <:+ s.toList) (field : String) :
    s ≠ field ++ t := by
  intro heq
  apply h
  rw [heq, String.toList_append]
  exact List.suffix_append _ _

/-- The parameter of a filter has its value, unless a bound of the time or the
    limit has the name. -/
theorem lookup_paramsOf {query : StructuredQuery} (hnodup : (query.filters.map Prod.fst).Nodup)
    {name : String} (hstart : ∀ field, name ≠ field ++ "_start")
    (hend : ∀ field, name ≠ field ++ "_end") (hlimit : name ≠ "limit") :
    (paramsOf query).lookup name = query.filters.lookup name := by
  have hfiltered : (dictOf query.filters).lookup name = query.filters.lookup name := by
    have hupdate := lookup_dictUpdate [] hnodup name
    simpa [dictUpdate, dictOf] using hupdate
  -- A parameter under another name leaves this one alone.
  have hset : ∀ (other : String) (v : Val) (params : Dict), name ≠ other →
      (setUnlessNone other v params).lookup name = params.lookup name := by
    intro other v params hne
    unfold setUnlessNone
    split
    · rfl
    · rw [lookup_dictSet, if_neg hne]
  unfold paramsOf
  dsimp only
  rw [lookup_dictSet, if_neg hlimit]
  split
  · split
    · rw [hset _ _ _ (hend _), hset _ _ _ (hstart _), hfiltered]
    · exact hfiltered
  · exact hfiltered

/-- A predicate compares an allowed field with its parameter. -/
def IsComparison (policy : QueryPolicy) (predicate : String) : Prop :=
  ∃ field, policy.allowedFilters.any (keyEq (.str field)) ∧
    (predicate = field ++ " = :" ++ field ∨
      predicate = field ++ " >= :" ++ field ++ "_start" ∨
      predicate = field ++ " <= :" ++ field ++ "_end")

theorem isComparison_of_mem {u : Unicode} {policy : QueryPolicy} {query : StructuredQuery}
    (hvalid : policy.validateQuery u query = .ok ()) {predicate : String}
    (h : predicate ∈ predicatesOf query) : IsComparison policy predicate := by
  rcases QueryPolicy.validateQuery_ok hvalid with ⟨-, -, hfilters, htime⟩
  unfold predicatesOf at h
  rw [List.mem_append] at h
  rcases h with h | h
  · rcases List.mem_map.mp h with ⟨p, hp, rfl⟩
    exact ⟨p.1, hfilters p hp, Or.inl rfl⟩
  · split at h
    next field range hfield hrange =>
      split at h
      · rw [List.mem_append] at h
        rcases h with h | h
        · split at h
          · cases h
          · exact ⟨field, htime field hfield, Or.inr (Or.inl (List.mem_singleton.mp h))⟩
        · split at h
          · cases h
          · exact ⟨field, htime field hfield, Or.inr (Or.inr (List.mem_singleton.mp h))⟩
      · cases h
    · cases h

/-- A statement asks for the rows of one tenant: it has predicates that all
    hold of a row, each compares an allowed field with its parameter, one
    compares the tenant, and the parameter of the tenant has the value. -/
structure BindsTenant (policy : QueryPolicy) (query : StructuredQuery) (tenantId : Val)
    (sql : String) (params : Dict) : Prop where
  statement : ∃ predicates : List String,
    sql = "SELECT " ++ join ", " (columnsOf query) ++ " FROM " ++ query.tableName ++
      " WHERE " ++ join " AND " predicates ++ clausesOf query ∧
    "tenant_id = :tenant_id" ∈ predicates ∧
    ∀ predicate ∈ predicates, IsComparison policy predicate
  bound : params.lookup "tenant_id" = some tenantId

variable {u : Unicode} {skill : QuerySkill} {queryTemplateId : String} {context : Dict}
  {query : StructuredQuery}

/-- A query that was built where the filter on the tenant is required compiles
    with its policy, and whatever policy it is compiled with, its statement is
    bound to the tenant of the context. -/
theorem compileQuery_bindsTenant (hreq : requiresTenant skill.policyConstraints)
    (hbuild : build u skill queryTemplateId context = .ok query) :
    (∃ policy compiled, policyFor u skill query = .ok policy ∧
      compileQuery u query policy = .ok compiled) ∧
    ∀ policy sql params, compileQuery u query policy = .ok (sql, params) →
      BindsTenant policy query (pyGet context "tenant_id" .none) sql params := by
  constructor
  · rcases policyFor_of_build hbuild with ⟨policy, hpolicy, hvalid⟩
    refine ⟨policy, (sqlOf query, paramsOf query), hpolicy, ?_⟩
    unfold compileQuery
    rw [hvalid]
    rfl
  · intro policy sql params hcompile
    unfold compileQuery at hcompile
    rcases exists_of_bind_ok hcompile with ⟨_, hvalid, hcompiled⟩
    cases hcompiled
    rcases build_tenant hreq hbuild with ⟨hnodup, hlookup⟩
    -- Every filter is a predicate, the one on the tenant too.
    have hmem : "tenant_id = :tenant_id" ∈ predicatesOf query := by
      unfold predicatesOf
      exact List.mem_append_left _ (List.mem_map.mpr ⟨_, mem_of_lookup hlookup, rfl⟩)
    refine ⟨⟨predicatesOf query, ?_, hmem, fun p hp => isComparison_of_mem hvalid hp⟩, ?_⟩
    · unfold sqlOf
      rw [if_neg (List.ne_nil_of_mem hmem)]
      simp only [String.append_assoc]
    · rw [lookup_paramsOf hnodup (ne_append_of_not_suffix (by decide))
        (ne_append_of_not_suffix (by decide)) (by decide), hlookup]

/-- A skill with one template, which filters by a tenant of its own and by the
    day. -/
def ordersSkill : QuerySkill where
  skillId := "orders"
  queryTemplates := [[("template_id", .str "by_region"), ("target_id", .str "shop"),
    ("table_name", .str "orders"), ("dimensions", .list [.str "region"]),
    ("filters", .dict [("tenant_id", .str "other"), ("day", .str "\x7btime_range\x7d")])]]
  explorationHints := []
  fallbackMode := .reject
  dbTargets := [[("target_id", .str "shop"), ("db_id", .str "shop_db"),
    ("tables", .list [.dict [("table_name", .str "orders"),
      ("required_fields", .list [.str "region"]),
      ("allowed_filters", .list [.str "tenant_id", .str "day"])]])]]
  policyConstraints := [("require_tenant_filter", .bool true)]

/-- A request that asks for another tenant in its filters. -/
def ordersContext : Dict :=
  [("tenant_id", .str "acme"), ("filters", .dict [("tenant_id", .str "victim")]),
    ("time_range", .dict [("start", .str "2024-01-01")])]

/-- The query that is built. -/
def ordersQuery : StructuredQuery where
  dbId := "shop_db"
  tableName := "orders"
  dimensions := ["region"]
  filters := [("tenant_id", .str "acme")]
  timeField := some "day"
  timeRange := some [("start", .str "2024-01-01")]
  queryTemplateId := "by_region"
  dataSkillId := "orders"
  columns := ["region"]

theorem build_ordersQuery :
    build default ordersSkill "by_region" ordersContext = .ok ordersQuery := by
  with_unfolding_all rfl

/-- The statement for the orders is bound to the tenant of the request. -/
theorem compileQuery_bindsTenant_orders :
    requiresTenant ordersSkill.policyConstraints = true ∧
    build default ordersSkill "by_region" ordersContext = .ok ordersQuery ∧
    (∃ policy compiled, policyFor default ordersSkill ordersQuery = .ok policy ∧
      compileQuery default ordersQuery policy = .ok compiled) ∧
    ∀ policy sql params, compileQuery default ordersQuery policy = .ok (sql, params) →
      BindsTenant policy ordersQuery (.str "acme") sql params :=
  ⟨rfl, build_ordersQuery, compileQuery_bindsTenant rfl build_ordersQuery⟩

end Compile

end Structured

end AgenticRag

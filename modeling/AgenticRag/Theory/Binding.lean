import AgenticRag.Theory.TenantFilter

/-!
# The Parameters of a Statement

A structured query is compiled to a statement whose values are all
parameters: each predicate names one, and so does the limit. The filters, the
bounds of the time and the limit share one name space, so a filter that is
named `limit`, or like a bound of the time, writes over the value of another
predicate. And a query that selects nothing is compiled to one that selects
everything.

Both come from names alone. `NamesApart` is the condition on the query, and
it is exactly what makes the statement select declared columns and bind each
predicate to its own value.

## Main definitions

* `BoundPredicate`: A predicate with the value it is about.
* `NamesApart`: The names of a query do not run into each other.

## Theorems

* `bindsOwnValues_iff`: Values are bound where names are distinct.
* `selectsDeclared_iff`: Declared columns where something is selected.
* `compileQuery_iff_namesApart`: Both, exactly when names are apart.
-/

namespace AgenticRag

namespace Structured

open Py Ordered

/-- A predicate: a field, how it is compared, the parameter it is compared
    with, and the value it is about. -/
structure BoundPredicate where
  field : String
  comparison : String
  parameter : String
  value : Val

/-- A predicate as it is written. -/
def BoundPredicate.text (p : BoundPredicate) : String :=
  p.field ++ p.comparison ++ p.parameter

/-- A bound of the time, where the range has one. -/
def boundOf (field comparison suffix : String) (v : Val) : List BoundPredicate :=
  if isNone v then [] else [⟨field, comparison, field ++ suffix, v⟩]

/-- The bounds of the time. -/
def rangePredicates (query : StructuredQuery) : List BoundPredicate :=
  match query.timeField, query.timeRange with
  | some field, some range =>
      if field ≠ "" ∧ range ≠ [] then
        boundOf field " >= :" "_start" (pyGet range "start" .none) ++
          boundOf field " <= :" "_end" (pyGet range "end" .none)
      else []
  | _, _ => []

/-- The predicates of the filters. -/
def filterPredicates (query : StructuredQuery) : List BoundPredicate :=
  query.filters.map (fun p => ⟨p.1, " = :", p.1, p.2⟩)

/-- The predicates of a query with their values. -/
def boundPredicates (query : StructuredQuery) : List BoundPredicate :=
  filterPredicates query ++ rangePredicates query

/-- The names a statement refers to. -/
def parameterNames (query : StructuredQuery) : List String :=
  (boundPredicates query).map BoundPredicate.parameter ++ ["limit"]

/-- Every predicate and the limit have a parameter of their own, with their
    own value. -/
structure BindsOwnValues (query : StructuredQuery) (params : Dict) : Prop where
  distinct : (parameterNames query).Nodup
  bound : ∀ p ∈ boundPredicates query, params.lookup p.parameter = some p.value
  limit : params.lookup "limit" = some (.int query.limit)

/-- Only columns that the table declares are selected, each by its name. -/
def SelectsDeclared (policy : QueryPolicy) (query : StructuredQuery) : Prop :=
  ∀ column ∈ columnsOf query,
    isIdentifier column = true ∧ policy.allowedFields.any (keyEq (.str column)) = true

/-- Whether a range has a bound. -/
def HasBound (query : StructuredQuery) (field key : String) : Prop :=
  field ≠ "" ∧ query.timeField = some field ∧
    ∃ range, query.timeRange = some range ∧ isNone (pyGet range key .none) = false

/-- The names of a query do not run into each other: it names a column, no
    filter is named after the limit, and none after a bound that the range
    has. -/
structure NamesApart (query : StructuredQuery) : Prop where
  selects : query.dimensions ≠ [] ∨ query.metrics ≠ [] ∨ query.columns ≠ []
  limit : "limit" ∉ query.filters.map Prod.fst
  start : ∀ field, HasBound query field "start" →
    field ++ "_start" ∉ query.filters.map Prod.fst
  finish : ∀ field, HasBound query field "end" → field ++ "_end" ∉ query.filters.map Prod.fst

section Reading

/-- The predicates of the statement are the texts of the bound ones. -/
theorem predicatesOf_eq (query : StructuredQuery) :
    predicatesOf query = (boundPredicates query).map BoundPredicate.text := by
  have hfilters : query.filters.map (fun p => p.1 ++ " = :" ++ p.1) =
      (filterPredicates query).map BoundPredicate.text := by
    rw [filterPredicates, List.map_map]
    rfl
  have hbound : ∀ (field comparison suffix : String) (v : Val),
      (boundOf field comparison suffix v).map BoundPredicate.text =
        if isNone v then [] else [field ++ comparison ++ (field ++ suffix)] := by
    intro field comparison suffix v
    unfold boundOf
    split <;> rfl
  -- The range adds the bounds it has, each in the order of the code.
  rw [boundPredicates, List.map_append, ← hfilters]
  unfold predicatesOf rangePredicates
  cases query.timeField with
  | none => rfl
  | some field =>
      cases query.timeRange with
      | none => rfl
      | some range =>
          dsimp only
          split
          · rw [List.map_append, hbound, hbound]
            simp only [← String.append_assoc]
          · rfl

/-- What a predicate or the limit puts among the parameters. -/
def settings (query : StructuredQuery) : Dict :=
  (boundPredicates query).map (fun p => (p.parameter, p.value)) ++ [("limit", .int query.limit)]

theorem settings_keys (query : StructuredQuery) :
    (settings query).map Prod.fst = parameterNames query := by
  simp [settings, parameterNames, Function.comp_def]

/-- The parameters are set predicate by predicate, and the limit last. -/
theorem paramsOf_eq (query : StructuredQuery) : paramsOf query = dictOf (settings query) := by
  have hbound : ∀ (d : Dict) (field comparison suffix : String) (v : Val),
      ((boundOf field comparison suffix v).map (fun p => (p.parameter, p.value))).foldl
        (fun d kv => dictSet kv.1 kv.2 d) d = setUnlessNone (field ++ suffix) v d := by
    intro d field comparison suffix v
    unfold boundOf setUnlessNone
    split <;> rfl
  have hfilters : (filterPredicates query).map (fun p => (p.parameter, p.value)) =
      query.filters := by
    rw [filterPredicates, List.map_map]
    exact List.map_id' _
  rw [settings, boundPredicates, List.map_append, hfilters, dictOf, List.foldl_append,
    List.foldl_append, ← dictOf]
  unfold paramsOf rangePredicates
  dsimp only [List.foldl_cons, List.foldl_nil]
  -- The limit is set last in both.
  congr 1
  cases query.timeField with
  | none => rfl
  | some field =>
      cases query.timeRange with
      | none => rfl
      | some range =>
          dsimp only
          split
          · rw [List.map_append, List.foldl_append, hbound, hbound]
          · rfl

end Reading

section Distinct

variable {query : StructuredQuery}

/-- With distinct names every value is found under its own. -/
theorem bindsOwnValues_iff :
    BindsOwnValues query (paramsOf query) ↔ (parameterNames query).Nodup := by
  refine ⟨fun h => h.distinct, fun h => ?_⟩
  have hlookup : ∀ name v, (name, v) ∈ settings query →
      (paramsOf query).lookup name = some v := by
    intro name v hmem
    have hnodup : ((settings query).map Prod.fst).Nodup := settings_keys query ▸ h
    rw [paramsOf_eq]
    refine lookup_dictOf_of_mem hmem (fun w hw => ?_)
    have hv := lookup_of_mem _ hnodup hmem
    have hw' := lookup_of_mem _ hnodup hw
    exact Option.some.inj (hw'.symm.trans hv)
  refine ⟨h, fun p hp => hlookup _ _ ?_, hlookup _ _ ?_⟩
  · exact List.mem_append_left _ (List.mem_map.mpr ⟨p, hp, rfl⟩)
  · exact List.mem_append_right _ List.mem_cons_self

/-- The names of the bounds of the time, as far as the range has them. -/
theorem mem_rangeNames {name : String} :
    name ∈ (rangePredicates query).map BoundPredicate.parameter ↔
      ∃ field, (HasBound query field "start" ∧ name = field ++ "_start") ∨
        (HasBound query field "end" ∧ name = field ++ "_end") := by
  have hbound : ∀ (field comparison suffix : String) (v : Val),
      name ∈ (boundOf field comparison suffix v).map BoundPredicate.parameter ↔
        isNone v = false ∧ name = field ++ suffix := by
    intro field comparison suffix v
    unfold boundOf
    cases isNone v <;> simp
  unfold rangePredicates HasBound
  cases query.timeField with
  | none => simp
  | some field =>
      cases query.timeRange with
      | none => simp
      | some range =>
          -- A time field without a name is none.
          by_cases hfield : field = ""
          · simp only [hfield, ne_eq, not_true_eq_false, false_and, if_false]
            refine ⟨fun h => absurd h List.not_mem_nil, ?_⟩
            rintro ⟨other, ⟨⟨hne, heq, -⟩, -⟩ | ⟨⟨hne, heq, -⟩, -⟩⟩ <;>
              exact absurd (Option.some.inj heq).symm hne
          by_cases hrange : range = []
          · -- An empty range has no bounds.
            simp [hrange, pyGet, isNone]
          simp only [hfield, hrange, ne_eq, not_false_eq_true, and_self, if_true,
            List.map_append, List.mem_append, hbound]
          constructor
          · rintro (⟨hv, rfl⟩ | ⟨hv, rfl⟩)
            · exact ⟨field, Or.inl ⟨⟨hfield, rfl, range, rfl, hv⟩, rfl⟩⟩
            · exact ⟨field, Or.inr ⟨⟨hfield, rfl, range, rfl, hv⟩, rfl⟩⟩
          · rintro ⟨other, ⟨⟨-, heq, given, hgiven, hv⟩, hname⟩ |
              ⟨⟨-, heq, given, hgiven, hv⟩, hname⟩⟩
            · cases heq
              cases hgiven
              exact Or.inl ⟨hv, hname⟩
            · cases heq
              cases hgiven
              exact Or.inr ⟨hv, hname⟩

/-- The two bounds have two names. -/
theorem rangeNames_nodup : ((rangePredicates query).map BoundPredicate.parameter).Nodup := by
  unfold rangePredicates
  cases query.timeField with
  | none => exact List.nodup_nil
  | some field =>
      cases query.timeRange with
      | none => exact List.nodup_nil
      | some range =>
          dsimp only
          have hne : field ++ "_start" ≠ field ++ "_end" := by
            intro heq
            have hsuffix := congrArg String.toList heq
            rw [String.toList_append, String.toList_append] at hsuffix
            exact absurd (List.append_cancel_left hsuffix) (by decide)
          unfold boundOf
          split_ifs <;> simp [hne]

theorem limit_ne_append {suffix : String} (field : String)
    (h : ¬ suffix.toList <:+ "limit".toList) : "limit" ≠ field ++ suffix :=
  ne_append_of_not_suffix h field

/-- The names of the parameters are distinct where those of the filters stay
    away from the others. -/
theorem parameterNames_nodup_iff (hfilters : (query.filters.map Prod.fst).Nodup) :
    (parameterNames query).Nodup ↔
      "limit" ∉ query.filters.map Prod.fst ∧
      ∀ name ∈ (rangePredicates query).map BoundPredicate.parameter,
        name ∉ query.filters.map Prod.fst := by
  have hnames : (filterPredicates query).map BoundPredicate.parameter =
      query.filters.map Prod.fst := by
    rw [filterPredicates, List.map_map]
    rfl
  -- The bounds are named after their side, so neither is the limit.
  have hlimit : "limit" ∉ (rangePredicates query).map BoundPredicate.parameter := by
    intro hmem
    rcases mem_rangeNames.mp hmem with ⟨field, ⟨-, heq⟩ | ⟨-, heq⟩⟩
    · exact limit_ne_append field (by decide) heq
    · exact limit_ne_append field (by decide) heq
  rw [parameterNames, boundPredicates, List.map_append, hnames]
  constructor
  · intro h
    rcases List.nodup_append.mp h with ⟨hboth, -, hlast⟩
    rcases List.nodup_append.mp hboth with ⟨-, -, hapart⟩
    refine ⟨fun hmem => ?_, fun name hname hmem => hapart name hmem name hname rfl⟩
    exact hlast _ (List.mem_append_left _ hmem) _ List.mem_cons_self rfl
  · rintro ⟨hfree, hapart⟩
    refine List.nodup_append.mpr ⟨List.nodup_append.mpr ⟨hfilters, rangeNames_nodup, ?_⟩,
      List.nodup_singleton _, ?_⟩
    · intro name hname other hother heq
      exact hapart other hother (heq ▸ hname)
    · intro name hname other hother heq
      rw [List.mem_singleton.mp hother] at heq
      subst heq
      exact (List.mem_append.mp hname).elim hfree hlimit

end Distinct

section Columns

variable {u : Unicode} {policy : QueryPolicy} {query : StructuredQuery}

/-- A field that passed the check is an identifier the table declares. -/
theorem validateField_ok {field : String} (h : policy.validateField u field = .ok ()) :
    isIdentifier field = true ∧ policy.allowedFields.any (keyEq (.str field)) = true := by
  unfold QueryPolicy.validateField at h
  split at h
  next hvalid => exact ⟨hvalid.1, hvalid.2.2⟩
  · cases h

/-- Checks that all passed are checks that each passed. -/
theorem ok_of_forM_ok {check : String → Except BuildError Unit} {fields : List String}
    (h : fields.forM check = .ok ()) : ∀ field ∈ fields, check field = .ok () := by
  induction fields with
  | nil => exact fun field hmem => absurd hmem List.not_mem_nil
  | cons first rest ih =>
      rw [List.forM_eq_forM, List.forM_cons] at h
      rcases exists_of_bind_ok h with ⟨⟨⟩, hfirst, hrest⟩
      intro field hmem
      rcases List.mem_cons.mp hmem with rfl | hmem
      · exact hfirst
      · exact ih hrest field hmem

theorem validateField_of_query (h : policy.validateQuery u query = .ok ()) {field : String}
    (hmem : field ∈ query.dimensions ++ query.metrics ++ query.columns ++ query.orderBy) :
    policy.validateField u field = .ok () := by
  unfold QueryPolicy.validateQuery at h
  split at h
  · cases h
  · split at h
    · cases h
    · rcases exists_of_bind_ok h with ⟨⟨⟩, hfields, -⟩
      exact ok_of_forM_ok hfields field hmem

/-- Declared columns are selected when any are. -/
theorem selectsDeclared_iff (h : policy.validateQuery u query = .ok ()) :
    SelectsDeclared policy query ↔
      query.dimensions ≠ [] ∨ query.metrics ≠ [] ∨ query.columns ≠ [] := by
  constructor
  · intro hdeclared
    by_contra hnone
    push Not at hnone
    -- With nothing to select the wildcard is, which names no column.
    have hwild : columnsOf query = ["*"] := by
      simp [columnsOf, hnone.1, hnone.2.1, hnone.2.2, fromKeys, dictOf]
    have hcolumn := hdeclared "*" (by simp [hwild])
    exact absurd hcolumn.1 (by decide)
  · intro hsome column hcolumn
    refine validateField_ok (validateField_of_query h ?_)
    have hne : (if query.columns = [] then fromKeys (query.dimensions ++ query.metrics)
        else query.columns) ≠ [] := by
      by_cases hcolumns : query.columns = []
      · rw [if_pos hcolumns]
        have hboth : query.dimensions ++ query.metrics ≠ [] := by
          simp only [ne_eq, List.append_eq_nil_iff, not_and_or]
          tauto
        rcases List.exists_mem_of_ne_nil _ hboth with ⟨name, hname⟩
        exact List.ne_nil_of_mem (mem_fromKeys.mpr hname)
      · rwa [if_neg hcolumns]
    unfold columnsOf at hcolumn
    dsimp only at hcolumn
    rw [if_neg hne] at hcolumn
    split at hcolumn
    · exact List.mem_append_left _ (List.mem_append_left _ (mem_fromKeys.mp hcolumn))
    · exact List.mem_append_left _ (List.mem_append_right _ hcolumn)

end Columns

section Compile

variable {u : Unicode} {policy : QueryPolicy} {query : StructuredQuery} {sql : String}
  {params : Dict}

/-- The statement of a query selects declared columns only and binds every
    predicate to its own value, exactly when the names of the query stay
    apart. -/
theorem compileQuery_iff_namesApart (hfilters : (query.filters.map Prod.fst).Nodup)
    (h : compileQuery u query policy = .ok (sql, params)) :
    sql = sqlOf query ∧
    predicatesOf query = (boundPredicates query).map BoundPredicate.text ∧
    (SelectsDeclared policy query ∧ BindsOwnValues query params ↔ NamesApart query) := by
  unfold compileQuery at h
  rcases exists_of_bind_ok h with ⟨_, hvalid, hcompiled⟩
  cases hcompiled
  refine ⟨rfl, predicatesOf_eq query, ?_⟩
  -- The two halves of the property, each by what decides it.
  rw [selectsDeclared_iff hvalid, bindsOwnValues_iff, parameterNames_nodup_iff hfilters]
  constructor
  · rintro ⟨hselects, hlimit, hrange⟩
    exact
      { selects := hselects
        limit := hlimit
        start := fun field hbound =>
          hrange _ (mem_rangeNames.mpr ⟨field, Or.inl ⟨hbound, rfl⟩⟩)
        finish := fun field hbound =>
          hrange _ (mem_rangeNames.mpr ⟨field, Or.inr ⟨hbound, rfl⟩⟩) }
  · intro hapart
    refine ⟨hapart.selects, hapart.limit, fun name hname => ?_⟩
    rcases mem_rangeNames.mp hname with ⟨field, ⟨hbound, rfl⟩ | ⟨hbound, rfl⟩⟩
    · exact hapart.start field hbound
    · exact hapart.finish field hbound

/-- A table of quotas, whose rows have a limit of their own and a day. -/
def quotaPolicy : QueryPolicy where
  tableDefinition := [("table_name", .str "quotas")]
  policyConstraints := []
  allowedFields := [.str "region"]
  allowedFilters := [.str "limit", .str "day", .str "day_start"]
  forbiddenOperations := forbiddenNames

/-- The regions from a day on, where quotas began on another day. -/
def quotaQuery : StructuredQuery where
  dbId := "shop_db"
  tableName := "quotas"
  columns := ["region"]
  filters := [("day", .str "2024-01-05")]
  timeField := some "day"
  timeRange := some [("start", .str "2024-01-01")]
  queryTemplateId := "quotas"
  dataSkillId := "quotas"

theorem compileQuery_iff_namesApart_quota :
    (quotaQuery.filters.map Prod.fst).Nodup ∧
    compileQuery default quotaQuery quotaPolicy = .ok (sqlOf quotaQuery, paramsOf quotaQuery) ∧
    (SelectsDeclared quotaPolicy quotaQuery ∧ BindsOwnValues quotaQuery (paramsOf quotaQuery) ↔
      NamesApart quotaQuery) := by
  have hcompile : compileQuery default quotaQuery quotaPolicy =
      .ok (sqlOf quotaQuery, paramsOf quotaQuery) := by
    with_unfolding_all rfl
  exact ⟨by decide, hcompile, (compileQuery_iff_namesApart (by decide) hcompile).2.2⟩

/-- The regions whose quota is five. -/
def limitQuery : StructuredQuery :=
  { quotaQuery with filters := [("limit", .int 5)], timeField := none, timeRange := none }

/-- Nothing in particular, from the table of quotas. -/
def everythingQuery : StructuredQuery :=
  { quotaQuery with columns := [] }

/-- A filter named after the limit is bound to the limit, and a query without
    columns selects all of them. -/
theorem compileQuery_shares_limit :
    compileQuery default limitQuery quotaPolicy =
        .ok ("SELECT region FROM quotas WHERE limit = :limit LIMIT :limit",
          [("limit", .int 1000)]) ∧
      ¬ BindsOwnValues limitQuery [("limit", .int 1000)] ∧
      compileQuery default everythingQuery quotaPolicy =
        .ok ("SELECT * FROM quotas WHERE day = :day AND day >= :day_start LIMIT :limit",
          [("day", .str "2024-01-05"), ("day_start", .str "2024-01-01"),
            ("limit", .int 1000)]) ∧
      ¬ SelectsDeclared quotaPolicy everythingQuery := by
  refine ⟨by with_unfolding_all rfl, fun h => ?_, by with_unfolding_all rfl, fun h => ?_⟩
  · exact absurd h.distinct (by decide)
  · exact absurd (h "*" (by decide)).1 (by decide)

end Compile

end Structured

end AgenticRag

import AgenticRag.Core.PlanExecutors

/-!
# Structured Queries

A query that a data skill declares: a template names a target, a table, what
to select and what to filter by. The builder fills it from the context of a
request, a policy checks it against the table, and it is compiled to a
statement with named parameters.

What the context says about filters goes before what the template says. Where
the skill requires it, the filter on the tenant is that of the context,
whatever else was given for it. The field the template filters by time leaves
the filters and becomes a range.

Skills, templates and tables are configuration, so they are mappings with
whatever a file has in them.

## Main definitions

* `QuerySkill`: A data skill as the builder reads it.
* `compileQuery`: A query as a statement with parameters.

## Theorems

* `QueryPolicy.validateQuery_ok`: What a query that passed the check has.
* `build_ok`: What a query that was built comes from.
-/

namespace AgenticRag

namespace Structured

open Py Ordered

/-- A data skill with what queries are built from. -/
structure QuerySkill extends DataSkill where
  dbTargets : List Dict
  policyConstraints : Dict

/-- A query. -/
structure StructuredQuery where
  dbId : String
  tableName : String
  dimensions : List String := []
  metrics : List String := []
  filters : Dict := []
  timeField : Option String := none
  timeRange : Option Dict := none
  timeGranularity : Option String := none
  orderBy : List String := []
  limit : Int := 1000
  queryTemplateId : String
  dataSkillId : String
  columns : List String := []

/-- Why there is no query: a code of the builder or of the policy, or another
    exception. -/
inductive BuildError where
  | queryTemplateNotFound
  | dbTargetNotAllowed
  | tableNotAllowed
  | tenantFilterRequired
  | fieldNotAllowed
  | raised (e : Exc)
  deriving DecidableEq, Repr

/-- What raises on its own. -/
def liftExc {α : Type} : Except Exc α → Except BuildError α
  | .ok a => .ok a
  | .error e => .error (.raised e)

section Values

mutual

/-- The comparison `==`. -/
def pyEq : Val → Val → Bool
  | .list xs, .list ys => pyEqList xs ys
  | .dict d, .dict e => d.length == e.length && pyEqDict d e
  | v, w => keyEq v w

/-- Lists are equal. -/
def pyEqList : List Val → List Val → Bool
  | [], [] => true
  | v :: vs, w :: ws => pyEq v w && pyEqList vs ws
  | _, _ => false

/-- Entries are in a dictionary. -/
def pyEqDict : Dict → Dict → Bool
  | [], _ => true
  | (k, v) :: rest, e =>
      (match e.lookup k with
        | some w => pyEq v w
        | none => false) && pyEqDict rest e

end

/-- Reads a text. -/
def textOf : Val → Except Exc String
  | .str s => .ok s
  | _ => .error .valueError

/-- What has to be a list of texts. -/
def textsOf (v : Val) : Except Exc (List String) := do
  (← pyIter v).mapM textOf

/-- What has to be a text, or none. -/
def optionalText : Val → Except Exc (Option String)
  | .none => .ok none
  | .str s => .ok (some s)
  | _ => .error .valueError

/-- What has to be a mapping, or none. -/
def optionalMapping : Val → Except Exc (Option Dict)
  | .none => .ok none
  | .dict kvs => .ok (some kvs)
  | _ => .error .valueError

/-- The built-in `set`. What cannot be hashed raises. -/
def pySet (v : Val) : Except Exc (List Val) := do
  let members ← pyIter v
  let unhashable : Val → Bool := fun w => match w with
    | .list _ => true
    | .dict _ => true
    | _ => false
  if members.any unhashable then .error .typeError else return members

/-- The method `d.setdefault(k, v)`. -/
def setDefault (k : String) (v : Val) (d : Dict) : Dict :=
  if k ∈ d.map Prod.fst then d else d ++ [(k, v)]

/-- The list without what comes again, in the order of the first. -/
def fromKeys (xs : List String) : List String :=
  (dictOf (xs.map (fun x => (x, ())))).map Prod.fst

theorem mem_fromKeys {xs : List String} {x : String} : x ∈ fromKeys xs ↔ x ∈ xs := by
  have hkeys := mem_keys_dictUpdate [] (xs.map (fun x => (x, ()))) x
  simpa [fromKeys, dictOf, dictUpdate] using hkeys

end Values

section Policy

/-- What a table and the constraints of a skill allow. -/
structure QueryPolicy where
  tableDefinition : Dict
  policyConstraints : Dict
  allowedFields : List Val
  allowedFilters : List Val
  forbiddenOperations : List String

/-- The operations no field may be named after. -/
def forbiddenNames : List String :=
  ["insert", "update", "delete", "drop", "alter", "truncate", "create", "merge", "execute"]

/-- The policy on a table. -/
def QueryPolicy.of (u : Unicode) (tableDefinition policyConstraints : Dict) :
    Except Exc QueryPolicy := do
  let allowedFields ← pySet (pyGet tableDefinition "required_fields" (.list []))
  let allowedFilters ← pySet (pyGet tableDefinition "allowed_filters" (.list []))
  -- Read for masking rows later, but it raises here.
  let _ ← pySet (pyGet tableDefinition "sensitive_fields" (.list []))
  let operations ← pyIter (pyGet policyConstraints "forbidden_operations" (.list []))
  return {
    tableDefinition
    policyConstraints
    allowedFields
    allowedFilters
    forbiddenOperations := forbiddenNames ++ operations.map (fun v => u.lower (v.toStr u)) }

/-- The pattern `[A-Za-z_][A-Za-z0-9_]*`. -/
def isIdentifier (s : String) : Bool :=
  match s.toList with
  | [] => false
  | c :: cs => (c.isAlpha || c == '_') && cs.all (fun d => d.isAlphanum || d == '_')

/-- Refuses a field not allowed. -/
def QueryPolicy.validateField (u : Unicode) (policy : QueryPolicy) (field : String) :
    Except BuildError Unit :=
  if isIdentifier field ∧ u.lower field ∉ policy.forbiddenOperations ∧
      policy.allowedFields.any (keyEq (.str field)) then .ok ()
  else .error .fieldNotAllowed

/-- Whether the skill requires the filter on the tenant. -/
def requiresTenant (policyConstraints : Dict) : Bool :=
  (pyGet policyConstraints "require_tenant_filter" .none).truthy

/-- Check a query. -/
def QueryPolicy.validateQuery (u : Unicode) (policy : QueryPolicy) (query : StructuredQuery) :
    Except BuildError Unit :=
  if !pyEq (.str query.tableName) (pyGet policy.tableDefinition "table_name" .none) then
    .error .tableNotAllowed
  else if requiresTenant policy.policyConstraints ∧
      ¬ (pyGet query.filters "tenant_id" .none).truthy then
    .error .tenantFilterRequired
  else do
    (query.dimensions ++ query.metrics ++ query.columns ++ query.orderBy).forM
      (policy.validateField u)
    -- The names of the filters are checked, and not their values.
    if !query.filters.all (fun p => policy.allowedFilters.any (keyEq (.str p.1))) then
      .error .fieldNotAllowed
    else
      match query.timeField with
      | none => .ok ()
      | some field =>
          if policy.allowedFilters.any (keyEq (.str field)) then .ok ()
          else .error .fieldNotAllowed

variable {u : Unicode}

theorem QueryPolicy.of_ok {table constraints : Dict} {policy : QueryPolicy}
    (h : QueryPolicy.of u table constraints = .ok policy) :
    policy.tableDefinition = table ∧ policy.policyConstraints = constraints := by
  unfold QueryPolicy.of at h
  rcases exists_of_bind_ok h with ⟨_, _, h⟩
  rcases exists_of_bind_ok h with ⟨_, _, h⟩
  rcases exists_of_bind_ok h with ⟨_, _, h⟩
  rcases exists_of_bind_ok h with ⟨_, _, h⟩
  cases h
  exact ⟨rfl, rfl⟩

/-- What a query that passed the check has: the name of the table, a filter on
    the tenant where it is required, and filters that are allowed. -/
theorem QueryPolicy.validateQuery_ok {policy : QueryPolicy} {query : StructuredQuery}
    (h : policy.validateQuery u query = .ok ()) :
    pyEq (.str query.tableName) (pyGet policy.tableDefinition "table_name" .none) = true ∧
    (requiresTenant policy.policyConstraints →
      (pyGet query.filters "tenant_id" .none).truthy) ∧
    (∀ p ∈ query.filters, policy.allowedFilters.any (keyEq (.str p.1))) ∧
    (∀ field, query.timeField = some field →
      policy.allowedFilters.any (keyEq (.str field))) := by
  unfold QueryPolicy.validateQuery at h
  split at h
  · cases h
  next htable =>
    split at h
    · cases h
    next htenant =>
      rcases exists_of_bind_ok h with ⟨_, _, h⟩
      split at h
      · cases h
      next hfilters =>
        refine ⟨by simpa using htable, by simpa using htenant, by simpa using hfilters, ?_⟩
        intro field hfield
        rw [hfield] at h
        by_contra hnot
        dsimp only at h
        rw [if_neg hnot] at h
        cases h

end Policy

section Build

/-- The first mapping with a value under a key. -/
def findBy (key : String) (v : Val) (err : BuildError) : List Dict → Except BuildError Dict
  | [] => .error err
  | d :: rest => if pyEq (pyGet d key .none) v then .ok d else findBy key v err rest

/-- The tables of a target. -/
def tablesOf (target : Dict) : Except Exc (List Dict) := do
  (← pyIter (pyGet target "tables" (.list []))).mapM asMapping

/-- The text between the braces, if there are braces. -/
def placeholder (s : String) : Option String :=
  if startsWith s "\x7b" ∧ s.toList.getLast? = some (Char.ofNat 0x7d) then some (slice s 1 (-1))
  else none

/-- What a filter of the template is in this context. -/
def resolveTemplateValue (context : Dict) (value : Val) : Val :=
  match value with
  | .str s =>
      match placeholder s with
      | some key => pyGet context key .none
      | none => value
  | _ => value

/-- The mark for a range of time. -/
def isTimeRange : Val → Bool
  | .str s => s == "\x7btime_range\x7d"
  | _ => false

/-- The field that is filtered by time, and the range. A date of the report is
    a range of one day. -/
def resolveTimeFilter (templateFilters context : Dict) : Option String × Val :=
  match templateFilters.find? (fun p => isTimeRange p.2) with
  | none => (none, .none)
  | some (field, _) =>
      let timeRange := pyGet context "time_range" .none
      -- A range that is given comes before the date.
      let reportDate := pyGet context "report_date" .none
      if isNone timeRange && reportDate.truthy then
        (some field, .dict [("start", reportDate), ("end", reportDate)])
      else (some field, timeRange)

/-- The filters of the context, and for other fields those of the template. -/
def mergeFilters (templateFilters context filters : Dict) : Dict :=
  templateFilters.foldl (fun fs p =>
    let resolved := resolveTemplateValue context p.2
    -- A filter of the context stands; a placeholder with no value is skipped.
    if isNone resolved then fs else setDefault p.1 resolved fs) filters

/-- The filter on the tenant, where it is required. -/
def forceTenant (policyConstraints context filters : Dict) : Except BuildError Dict :=
  if requiresTenant policyConstraints then
    let tenantId := pyGet context "tenant_id" .none
    -- Here it is set and not only added: a tenant in the filters is replaced.
    if tenantId.truthy then .ok (dictSet "tenant_id" tenantId filters)
    else .error .tenantFilterRequired
  else .ok filters

/-- The field that is filtered by time leaves the filters. -/
def popTimeField (timeField : Option String) (timeRange : Val) (filters : Dict) : Dict :=
  match timeField with
  | none => filters
  | some field =>
      if field ≠ "" ∧ ¬ isNone timeRange then filters.filter (fun p => decide (p.1 ≠ field))
      else filters

/-- How many rows a query may have. -/
def resolveLimit (policyConstraints context : Dict) : Except Exc Int := do
  let defaultLimit := pyGet policyConstraints "default_limit" (.int 1000)
  let requested ← (pyGet context "limit" defaultLimit).toInt
  let maxRows ← (pyGet policyConstraints "max_rows" defaultLimit).toInt
  return min (max 1 requested) maxRows

/-- `StructuredQueryBuilder.build`. -/
def build (u : Unicode) (skill : QuerySkill) (queryTemplateId : String) (context : Dict) :
    Except BuildError StructuredQuery := do
  let template ← findBy "template_id" (.str queryTemplateId) .queryTemplateNotFound
    skill.queryTemplates
  let target ← findBy "target_id" (pyGet template "target_id" (.str "")) .dbTargetNotAllowed
    skill.dbTargets
  let table ← findBy "table_name" (pyGet template "table_name" (.str "")) .tableNotAllowed
    (← liftExc (tablesOf target))
  let given ← liftExc (pyDict (pyGet context "filters" (.dict [])))
  let templateFilters ← liftExc (asMapping (pyGet template "filters" (.dict [])))
  -- The tenant is forced before the field filtered by time is taken out.
  let filters ← forceTenant skill.policyConstraints context
    (mergeFilters templateFilters context given)
  let time := resolveTimeFilter templateFilters context
  let limit ← liftExc (resolveLimit skill.policyConstraints context)
  let dimensions ← liftExc (textsOf (pyGet template "dimensions" (.list [])))
  let metrics ← liftExc (textsOf (pyGet template "metrics" (.list [])))
  let query : StructuredQuery :=
    { dbId := ← liftExc (textOf (pyGet target "db_id" (.str "")))
      tableName := ← liftExc (textOf (pyGet table "table_name" (.str "")))
      dimensions := dimensions
      metrics := metrics
      filters := popTimeField time.1 time.2 filters
      timeField := time.1
      timeRange := ← liftExc (optionalMapping time.2)
      timeGranularity := ← liftExc (optionalText (pyGet template "time_granularity" .none))
      orderBy := ← liftExc (textsOf (pyGet template "order_by" (.list [])))
      limit := limit
      queryTemplateId := queryTemplateId
      dataSkillId := skill.skillId
      columns := fromKeys (dimensions ++ metrics) }
  -- The check comes last, on the query as it will be compiled.
  let policy ← liftExc (QueryPolicy.of u table skill.policyConstraints)
  policy.validateQuery u query
  return query

/-- `StructuredQueryBuilder.policy_for`. -/
def policyFor (u : Unicode) (skill : QuerySkill) (query : StructuredQuery) :
    Except BuildError QueryPolicy := do
  let template ← findBy "template_id" (.str query.queryTemplateId) .queryTemplateNotFound
    skill.queryTemplates
  let target ← findBy "target_id" (pyGet template "target_id" (.str "")) .dbTargetNotAllowed
    skill.dbTargets
  let table ← findBy "table_name" (.str query.tableName) .tableNotAllowed
    (← liftExc (tablesOf target))
  liftExc (QueryPolicy.of u table skill.policyConstraints)

variable {u : Unicode} {skill : QuerySkill} {queryTemplateId : String} {context : Dict}
  {query : StructuredQuery}

theorem liftExc_ok {α : Type} {x : Except Exc α} {a : α} (h : liftExc x = .ok a) : x = .ok a := by
  cases x with
  | error e => cases h
  | ok b =>
      cases h
      rfl

/-- What a query that was built comes from: the declared template, target and
    table, the filters, and a check that passed. -/
theorem build_ok (h : build u skill queryTemplateId context = .ok query) :
    ∃ template target tables table given templateFilters filters policy,
      findBy "template_id" (.str queryTemplateId) .queryTemplateNotFound skill.queryTemplates =
        .ok template ∧
      findBy "target_id" (pyGet template "target_id" (.str "")) .dbTargetNotAllowed
        skill.dbTargets = .ok target ∧
      tablesOf target = .ok tables ∧
      findBy "table_name" (pyGet template "table_name" (.str "")) .tableNotAllowed tables =
        .ok table ∧
      pyDict (pyGet context "filters" (.dict [])) = .ok given ∧
      forceTenant skill.policyConstraints context (mergeFilters templateFilters context given) =
        .ok filters ∧
      textOf (pyGet table "table_name" (.str "")) = .ok query.tableName ∧
      query.queryTemplateId = queryTemplateId ∧
      query.filters = popTimeField (resolveTimeFilter templateFilters context).1
        (resolveTimeFilter templateFilters context).2 filters ∧
      QueryPolicy.of u table skill.policyConstraints = .ok policy ∧
      policy.validateQuery u query = .ok () := by
  unfold build at h
  rcases exists_of_bind_ok h with ⟨template, htemplate, h⟩
  rcases exists_of_bind_ok h with ⟨target, htarget, h⟩
  rcases exists_of_bind_ok h with ⟨tables, htables, h⟩
  rcases exists_of_bind_ok h with ⟨table, htable, h⟩
  rcases exists_of_bind_ok h with ⟨given, hgiven, h⟩
  rcases exists_of_bind_ok h with ⟨templateFilters, _, h⟩
  rcases exists_of_bind_ok h with ⟨filters, hfilters, h⟩
  dsimp only at h
  rcases exists_of_bind_ok h with ⟨limit, _, h⟩
  rcases exists_of_bind_ok h with ⟨dimensions, _, h⟩
  rcases exists_of_bind_ok h with ⟨metrics, _, h⟩
  rcases exists_of_bind_ok h with ⟨dbId, _, h⟩
  rcases exists_of_bind_ok h with ⟨tableName, hname, h⟩
  rcases exists_of_bind_ok h with ⟨timeRange, _, h⟩
  rcases exists_of_bind_ok h with ⟨granularity, _, h⟩
  rcases exists_of_bind_ok h with ⟨orderBy, _, h⟩
  rcases exists_of_bind_ok h with ⟨policy, hpolicy, h⟩
  rcases exists_of_bind_ok h with ⟨_, hvalid, h⟩
  cases h
  exact ⟨template, target, tables, table, given, templateFilters, filters, policy, htemplate,
    htarget, liftExc_ok htables, htable, liftExc_ok hgiven, hfilters, liftExc_ok hname, rfl, rfl,
    liftExc_ok hpolicy, hvalid⟩

end Build

section Compile

/-- The predicates of a query. -/
def predicatesOf (query : StructuredQuery) : List String :=
  let timed := match query.timeField, query.timeRange with
    | some field, some range =>
        if field ≠ "" ∧ range ≠ [] then
          (if isNone (pyGet range "start" .none) then []
            else [field ++ " >= :" ++ field ++ "_start"]) ++
          (if isNone (pyGet range "end" .none) then []
            else [field ++ " <= :" ++ field ++ "_end"])
        else []
    | _, _ => []
  query.filters.map (fun p => p.1 ++ " = :" ++ p.1) ++ timed

/-- Set a parameter, unless there is no value for it. -/
def setUnlessNone (name : String) (v : Val) (params : Dict) : Dict :=
  if isNone v then params else dictSet name v params

/-- The parameters of a query. -/
def paramsOf (query : StructuredQuery) : Dict :=
  let filtered := dictOf query.filters
  let timed := match query.timeField, query.timeRange with
    | some field, some range =>
        if field ≠ "" ∧ range ≠ [] then
          setUnlessNone (field ++ "_end") (pyGet range "end" .none)
            (setUnlessNone (field ++ "_start") (pyGet range "start" .none) filtered)
        else filtered
    | _, _ => filtered
  -- One name space for filters, bounds of the time and the limit.
  dictSet "limit" (.int query.limit) timed

/-- The columns of a query. -/
def columnsOf (query : StructuredQuery) : List String :=
  let columns := if query.columns = [] then fromKeys (query.dimensions ++ query.metrics)
    else query.columns
  if columns = [] then ["*"] else columns

/-- What a statement has after its predicates. -/
def clausesOf (query : StructuredQuery) : String :=
  (if query.dimensions ≠ [] ∧ query.metrics ≠ [] then " GROUP BY " ++ join ", " query.dimensions
    else "") ++
  (if query.orderBy = [] then "" else " ORDER BY " ++ join ", " query.orderBy) ++ " LIMIT :limit"

/-- The statement of a query. -/
def sqlOf (query : StructuredQuery) : String :=
  "SELECT " ++ join ", " (columnsOf query) ++ " FROM " ++ query.tableName ++
    (if predicatesOf query = [] then "" else " WHERE " ++ join " AND " (predicatesOf query)) ++
    clausesOf query

/-- `StructuredQueryExecutor.compile`. -/
def compileQuery (u : Unicode) (query : StructuredQuery) (policy : QueryPolicy) :
    Except BuildError (String × Dict) := do
  policy.validateQuery u query
  return (sqlOf query, paramsOf query)

end Compile

end Structured

end AgenticRag

import AgenticRag.Core.DbRuntime

/-!
# The Older Database Tool

The tool that answered database questions before the SQL agent, kept as the
way back. It finds a database by keywords, takes the SQL of a template or has
a model write one from the tables it looked up, and runs it, with up to two
repairs by the model.

What the tool meets outside is in `SqlWorld`: the templates and the SQL they
give, whether a statement passes the check, what the model writes, and how the
server answers. How the server answers a statement may depend on everything
that was run before. Every statement that is sent is recorded with the
database it was sent to.

## Main definitions

* `Statement`: A statement and the database it was run on.
* `DatabaseTool.Reaches`: It gets as far as a statement.

## Theorems

* `executeWithSelfHealing_executed`: All repairs go to the one database.
* `DatabaseTool.invoke_executed`: All statements go to the target.
-/

namespace AgenticRag

open Py Ordered

/-- A statement, and the database it was run on. -/
structure Statement where
  dbId : String
  sql : String
  deriving DecidableEq, Repr

/-- The actions of the SQL agent. -/
inductive AgentAction where
  | listDatabases
  | listTables
  | describeTable
  | executeSql
  | finish
  | giveUp
  deriving DecidableEq, Repr

/-- What comes of a call of the agent's model: it fails, its answer cannot be
    read, or it is an action with arguments. -/
inductive AgentOutput where
  | failed
  | unparsed
  | act (action : AgentAction) (args : Dict)

/-- What a call meets outside. -/
structure SqlWorld where
  /-- The SQL of the first template that fits a question. -/
  templateSql : String → Option String
  /-- Whether a statement passes the check, given the tables it may use. -/
  validateSql : String → Option (List String) → Bool
  /-- The rows the last of these statements returns, unless it fails. -/
  execute : List Statement → Option Nat
  tablesOf : String → Option (List String)
  describes : String → String → Bool
  chatAvailable : Bool
  /-- The SQL the model writes for a question, unless it writes none. -/
  generated : Option String
  /-- The SQL in the model's repairs, unless its call fails. -/
  healed : Nat → Option String
  llmAvailable : Bool
  agent : Nat → AgentOutput
  wallTimeOver : Nat → Bool

/-- The bounds of an exploration. -/
structure ExplorationBudget where
  maxAgentSteps : Int := 10
  maxLlmCalls : Int := 10
  maxSqlExecutions : Int := 4
  maxDescribeCalls : Int := 6
  maxResultRows : Nat := 500

/-- The input of a database query. An empty whitelist is none. -/
structure SqlAgentInput where
  query : String
  querySimplified : String := ""
  dbId : String := ""
  tenantId : String := ""
  mcpServerName : String := "database_mcp_server"
  explorationMode : Option String := none
  allowedDbIds : List String := []
  enableTemplate : Bool := true
  enableSelfHealing : Bool := true
  maxSchemaTables : Nat := 3
  budget : ExplorationBudget := {}

/-- The question in simplified characters. -/
def SqlAgentInput.simplified (input : SqlAgentInput) : String :=
  if input.querySimplified = "" then input.query else input.querySimplified

/-- How often the tables of a database were looked up, over all calls. -/
structure ExploreCounter where
  listTables : String → Nat := fun _ => 0
  describeTable : String → Nat := fun _ => 0

/-- How often the model may explore. -/
def maxExplorations : Nat := 3

section Routing

/-- The words questions and databases are matched by. -/
def businessKeywords : List String :=
  ["产量", "产出", "output", "production",
    "成本", "cost", "采购", "purchase",
    "良率", "yield", "品质", "quality", "检验",
    "库存", "stock", "inventory", "warehouse",
    "设备", "equipment", "oee", "工单", "order",
    "订单", "销售", "sale", "revenue", "营收"]

/-- The description of a tool in lower case. One that is neither text nor
    empty raises. -/
def lowerDescription (u : Unicode) (description : Val) : Except Exc String :=
  if description.truthy then
    match description with
    | .str s => .ok (u.lower s)
    | _ => .error .attributeError
  else .ok (u.lower "")

/-- The database of the first query tool whose description has a keyword. -/
def findDatabase (u : Unicode) (keywords : List String) :
    List (String × ToolInfo) → Except Exc (Option String)
  | [] => .ok none
  | (name, info) :: rest =>
      if startsWith name queryPrefix then do
        let description ← lowerDescription u info.description
        if keywords.any (contains description) then return some info.dbId
        else findDatabase u keywords rest
      else findDatabase u keywords rest

/-- The database a question is about: one whose description shares a keyword
    with it, or else the first there is. A question without a keyword is about
    none. -/
def routeByIntent (u : Unicode) (rt : DbRuntime) (query : String) : Except Exc (Option String) := do
  let keywords := businessKeywords.filter (contains (u.lower query))
  if keywords = [] then return none
  else
    match ← findDatabase u keywords rt.dbTools with
    | some dbId => return some dbId
    -- A keyword that no description has still chooses a database.
    | none => return rt.listDatabases.head?.map Prod.fst

/-- The database of a call: the one it names, or else the one its question is
    about. -/
def targetDatabase (u : Unicode) (rt : DbRuntime) (input : SqlAgentInput) :
    Except Exc (Option String) :=
  if input.dbId = "" then
    (routeByIntent u rt input.simplified).map (Option.filter (· ≠ ""))
  else .ok (some input.dbId)

end Routing

section Execute

variable (w : SqlWorld) (rt : DbRuntime)

/-- Run a statement. Nothing is sent where the database has no query tool. -/
def executeSql (dbId sql : String) (executed : List Statement) : Option Nat × List Statement :=
  if rt.hasTool (queryPrefix ++ dbId) then
    (w.execute (executed ++ [⟨dbId, sql⟩]), executed ++ [⟨dbId, sql⟩])
  else (none, executed)

/-- The model's repair of a statement. Without a model, or with an answer that
    has no SQL, it is the statement itself. -/
def selfHealingRetry (k : Nat) (failedSql : String) : Option String :=
  if w.chatAvailable then
    (w.healed k).map (fun sql => if sql = "" then failedSql else sql)
  else some failedSql

/-- Run a statement, and repairs of it while there are retries left and the
    model has something new. -/
def executeWithSelfHealing (dbId : String) : Nat → String → List Statement →
    Option Nat × List Statement
  | retries, sql, executed =>
      let ran := executeSql w rt dbId sql executed
      match ran.1, retries with
      | some rows, _ => (some rows, ran.2)
      | none, 0 => (none, ran.2)
      | none, k + 1 =>
          match selfHealingRetry w k sql with
          | none => (none, ran.2)
          | some healed =>
              -- The repair is checked as the statement was, and against no list of tables.
              if healed ≠ "" ∧ healed ≠ sql ∧ w.validateSql healed none then
                executeWithSelfHealing dbId k healed ran.2
              else (none, ran.2)

end Execute

section Discovery

variable (w : SqlWorld) (rt : DbRuntime)

/-- The tables that share most keywords with a question. -/
def filterRelevantTables (u : Unicode) (query : String) (tables : List String)
    (maxTables : Nat) : List String :=
  let keywords := businessKeywords.filter (contains (u.lower query))
  let score := fun table => keywords.countP (contains (u.lower table))
  (sortDesc score tables).take maxTables

/-- Look tables up, until the count is used up. One that cannot be looked up
    raises. -/
def describeTables (dbId : String) : List String → ExploreCounter → List String →
    Option (List String) × ExploreCounter
  | [], counter, schema => (some schema, counter)
  | table :: rest, counter, schema =>
      if counter.describeTable dbId < maxExplorations then
        if rt.hasTool (describeTablePrefix ++ dbId) && w.describes dbId table then
          describeTables dbId rest
            { counter with
              describeTable :=
                Function.update counter.describeTable dbId (counter.describeTable dbId + 1) }
            (schema ++ [table])
        else (none, counter)
      else (some schema, counter)

/-- The tables of a database that matter for a question. There are none where
    a look-up raises. -/
def progressiveSchemaDiscovery (u : Unicode) (query dbId : String) (maxTables : Nat)
    (counter : ExploreCounter) : Option (List String) × ExploreCounter :=
  if counter.listTables dbId < maxExplorations then
    if rt.hasTool (listTablesPrefix ++ dbId) then
      match w.tablesOf dbId with
      | none => (none, counter)
      | some tables =>
          let named := tables.filter (· ≠ "")
          describeTables w rt dbId (filterRelevantTables u query named maxTables)
            { counter with
              listTables := Function.update counter.listTables dbId (counter.listTables dbId + 1) }
            []
    else (none, counter)
  else (none, counter)

/-- The statement for a question without a model. -/
def generateRuleSql (query : String) : List String → String
  | [] => "SELECT * FROM placeholder_table WHERE query = '" ++
      String.ofList (query.toList.flatMap (fun c => if c = '\'' then ['\'', '\''] else [c])) ++
      "' LIMIT 10"
  | table :: _ => "SELECT * FROM " ++ table ++ " LIMIT 10"

/-- The statement for a question. There is none where the model writes
    none. -/
def generateSql (query : String) (schema : List String) : Option String :=
  if w.chatAvailable then w.generated.filter (· ≠ "") else some (generateRuleSql query schema)

end Discovery

/-- How the older tool ends: with an empty result, with the rows of a
    statement, or with an exception. -/
inductive LegacyEnd where
  | empty
  | rows (n : Nat)
  | raised
  deriving DecidableEq, Repr

/-- What is left of a call of the older tool. -/
structure LegacyRun where
  ended : LegacyEnd
  runtime : DbRuntime
  counter : ExploreCounter
  executed : List Statement

namespace DatabaseTool

variable (u : Unicode) (w : SqlWorld)

/-- The statement for a question on a database: that of a template, or one
    that is made from the tables. -/
def chooseSql (rt : DbRuntime) (counter : ExploreCounter) (input : SqlAgentInput)
    (dbId : String) : Option String × ExploreCounter :=
  let fromTemplate := if input.enableTemplate then (w.templateSql input.query).getD "" else ""
  -- The statement of a template needs no tables.
  if fromTemplate = "" then
    let found := progressiveSchemaDiscovery w rt u input.simplified dbId input.maxSchemaTables counter
    (found.1.bind (generateSql w input.simplified), found.2)
  else (some fromTemplate, counter)

/-- Run the question on a database that is there. -/
def runOn (rt : DbRuntime) (counter : ExploreCounter) (input : SqlAgentInput) (dbId : String)
    (executed : List Statement) : LegacyRun :=
  let chosen := chooseSql u w rt counter input dbId
  match chosen.1 with
  | none => ⟨.empty, rt, chosen.2, executed⟩
  | some sql =>
      if w.validateSql sql none then
        let retries := if input.enableSelfHealing then 2 else 0
        let ran := executeWithSelfHealing w rt dbId retries sql executed
        ⟨match ran.1 with
          | some n => .rows n
          | none => .empty, rt, chosen.2, ran.2⟩
      else ⟨.empty, rt, chosen.2, executed⟩

/-- The older tool. It does not read the whitelist. -/
def invoke (rt : DbRuntime) (counter : ExploreCounter) (input : SqlAgentInput)
    (outcome : InitOutcome) (executed : List Statement) : LegacyRun :=
  if input.query = "" then ⟨.empty, rt, counter, executed⟩
  else
    let opened := rt.initSession input.tenantId input.mcpServerName outcome
    if opened.2 then ⟨.empty, opened.1, counter, executed⟩
    else if opened.1.dbTools.isEmpty then ⟨.empty, opened.1, counter, executed⟩
    else
      match targetDatabase u opened.1 input with
      | .error _ => ⟨.raised, opened.1, counter, executed⟩
      | .ok none => ⟨.empty, opened.1, counter, executed⟩
      | .ok (some dbId) =>
          if opened.1.validateDatabase dbId then runOn u w opened.1 counter input dbId executed
          else ⟨.empty, opened.1, counter, executed⟩

/-- The older tool gets as far as running a statement, on this database. -/
def Reaches (rt : DbRuntime) (counter : ExploreCounter) (input : SqlAgentInput)
    (outcome : InitOutcome) (dbId : String) : Prop :=
  let opened := rt.initSession input.tenantId input.mcpServerName outcome
  input.query ≠ "" ∧ opened.2 = false ∧ opened.1.dbTools ≠ [] ∧
    targetDatabase u opened.1 input = .ok (some dbId) ∧
    opened.1.validateDatabase dbId = true ∧
    (input.enableTemplate = true ∨
      (counter.listTables dbId < maxExplorations ∧
        opened.1.hasTool (listTablesPrefix ++ dbId) = true))

end DatabaseTool

section Executed

variable {u : Unicode} {w : SqlWorld} {rt : DbRuntime}

theorem executeSql_executed {dbId sql : String} {executed : List Statement} {s : Statement}
    (h : s ∈ (executeSql w rt dbId sql executed).2) : s ∈ executed ∨ s.dbId = dbId := by
  unfold executeSql at h
  split_ifs at h
  · rcases List.mem_append.mp h with hold | hnew
    · exact .inl hold
    · rw [List.mem_singleton.mp hnew]
      exact .inr rfl
  · exact .inl h

/-- All repairs go to the one database. -/
theorem executeWithSelfHealing_executed {dbId : String} (retries : Nat) {sql : String}
    {executed : List Statement} {s : Statement}
    (h : s ∈ (executeWithSelfHealing w rt dbId retries sql executed).2) :
    s ∈ executed ∨ s.dbId = dbId := by
  induction retries generalizing sql executed with
  | zero =>
      unfold executeWithSelfHealing at h
      dsimp only at h
      split at h
      next => exact executeSql_executed h
      next => exact executeSql_executed h
      next heq => cases heq
  | succ k ih =>
      unfold executeWithSelfHealing at h
      dsimp only at h
      split at h
      next => exact executeSql_executed h
      next => exact executeSql_executed h
      next heq =>
        cases heq
        split at h
        next => exact executeSql_executed h
        next =>
          split_ifs at h
          · rcases ih h with hbefore | hdb
            · exact executeSql_executed hbefore
            · exact .inr hdb
          · exact executeSql_executed h

/-- Without a template, a statement needs the list of the tables. -/
theorem chooseSql_reaches {counter : ExploreCounter} {input : SqlAgentInput} {dbId sql : String}
    (h : (DatabaseTool.chooseSql u w rt counter input dbId).1 = some sql) :
    input.enableTemplate = true ∨
      (counter.listTables dbId < maxExplorations ∧
        rt.hasTool (listTablesPrefix ++ dbId) = true) := by
  by_cases htemplate : input.enableTemplate = true
  · exact .inl htemplate
  refine .inr ?_
  unfold DatabaseTool.chooseSql at h
  simp only [htemplate, Bool.false_eq_true, if_false, if_true] at h
  unfold progressiveSchemaDiscovery at h
  split_ifs at h with hcount htool
  · exact ⟨hcount, htool⟩
  · cases h
  · cases h

theorem DatabaseTool.runOn_executed {counter : ExploreCounter} {input : SqlAgentInput}
    {dbId : String} {executed : List Statement} {s : Statement}
    (h : s ∈ (DatabaseTool.runOn u w rt counter input dbId executed).executed) :
    s ∈ executed ∨ (s.dbId = dbId ∧
      (input.enableTemplate = true ∨
        (counter.listTables dbId < maxExplorations ∧
          rt.hasTool (listTablesPrefix ++ dbId) = true))) := by
  unfold DatabaseTool.runOn at h
  dsimp only at h
  split at h
  next => exact .inl h
  next sql hsql =>
    by_cases hvalid : w.validateSql sql none = true
    · rw [if_pos hvalid] at h
      rcases executeWithSelfHealing_executed _ h with hold | hdb
      · exact .inl hold
      · exact .inr ⟨hdb, chooseSql_reaches hsql⟩
    · rw [if_neg hvalid] at h
      exact .inl h

/-- Every statement of the older tool goes to the database it reaches. -/
theorem DatabaseTool.invoke_executed {counter : ExploreCounter} {input : SqlAgentInput}
    {outcome : InitOutcome} {executed : List Statement} {s : Statement}
    (h : s ∈ (DatabaseTool.invoke u w rt counter input outcome executed).executed) :
    s ∈ executed ∨ DatabaseTool.Reaches u rt counter input outcome s.dbId := by
  unfold DatabaseTool.invoke at h
  split_ifs at h with hquery
  · exact .inl h
  dsimp only at h
  split_ifs at h with hraised htools
  · exact .inl h
  · exact .inl h
  split at h
  next => exact .inl h
  next => exact .inl h
  next dbId htarget =>
    split_ifs at h with hvalid
    · rcases DatabaseTool.runOn_executed h with hold | ⟨hdb, hreach⟩
      · exact .inl hold
      · rw [← hdb] at htarget hvalid hreach
        refine .inr ⟨hquery, Bool.eq_false_iff.mpr hraised, ?_, htarget, hvalid, hreach⟩
        intro hnil
        exact htools (by rw [hnil]; rfl)
    · exact .inl h

end Executed

end AgenticRag

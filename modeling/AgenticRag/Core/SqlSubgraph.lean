import AgenticRag.Core.SqlAgent
import AgenticRag.Core.SqlCheck
import AgenticRag.Lib.Driven

/-!
# The Graph of the SQL Agent

The graph behind the SQL agent with all the data it carries. `SqlAgent` has
the graph as the whitelist sees it: which databases are reached, and how it
ends. Here are the statements and the rows, the tables that were listed, what
is reported, and a log of what was done outside.

The graph is a machine whose every step runs one node. A step is driven by a
`Reply`: what the clock shows, what the model says and what the server sends,
of which a node reads what it asks for. A run is given by a stream of replies,
so every behaviour of the model and of the server is a run.

A node may raise. There is no state then, and the machine stops at `raised`.

## Main definitions

* `Key`: A value as the key of a dictionary.
* `DbResult`, `buildDbResult`: The report.

## Theorems

* `dispatch_effect`: A tool does one of the five things there are.
* `step_moves`: A node does one of the seven things there are.
-/

namespace AgenticRag

namespace SqlSubgraph

open Py Ordered

/-- A value as the key of a dictionary. Numbers are the same key whatever
    their type, and one value is not equal to itself. -/
inductive Key where
  | none
  | num (q : ℚ)
  | text (s : String)
  | object (text : String)
  | nan
  deriving DecidableEq

/-- The key of a value, unless it cannot be hashed. -/
def Key.of : Val → Option Key
  | .none => some .none
  | .bool b => some (.num (if b then 1 else 0))
  | .int i => some (.num i)
  | .float q _ => some (.num q)
  | .str s => some (.text s)
  | .object shown _ => if shown = "nan" then some .nan else some (.object shown)
  | .list _ => Option.none
  | .dict _ => Option.none

/-- Look a key up. -/
def lookupKey {β : Type} (key : Key) (d : List (Key × β)) : Option β :=
  -- A value that is not equal to itself is never found.
  if key = .nan then none else d.lookup key

/-- What comes of a call of the model: it raises, its answer cannot be taken
    apart without raising, it cannot be read, or it is an action. -/
inductive LlmReply where
  | raised (text : String)
  | broken
  | unparsed
  | act (action : AgentAction) (args : Dict)

/-- What a step meets outside: whether the time is over, the answer of the
    model, the names of the tables the server lists, the description of a
    table and the rows of a statement. A look-up or a statement that fails has
    none. -/
structure Reply where
  timeOver : Bool := false
  llm : LlmReply := .unparsed
  tables : Option (List String) := none
  schema : Option Val := none
  rows : Option (List Val) := none

/-- What a step does outside: the model is asked, a tool is run, tables are
    listed, a description is asked for, which the server answers or not, a
    statement is attempted, and one is sent. -/
inductive Event where
  | llmCalled
  | toolRun
  | listed (dbId : Key) (tables : List String)
  | describeSent (dbId table : Key) (answered : Bool)
  | sqlAttempted
  | sqlSent (dbId : Val) (sql : String) (rows : Option (List Val))

/-- A mark that says nothing of tables that were listed or statements that were
    sent. -/
def Event.isMark : Event → Bool
  | .listed _ _ => false
  | .sqlSent _ _ _ => false
  | _ => true

/-- What the tools keep: which tables were described, and the tables that were
    listed. -/
structure Toolset where
  describeCache : List (Key × Key) := []
  listedTables : List (Key × List String) := []

/-- The data a tool hands back. -/
inductive Observed where
  | failed
  | found
  | described (cacheHit : Bool)
  | ran (executedSql : String) (rows : List Val)

/-- What comes of a tool. -/
structure ToolRun where
  observed : Observed
  tools : Toolset
  events : List Event := []

/-- What comes of the checks before a description: they raise, they refuse, the
    table was described before, or the server is asked. -/
inductive Lookup where
  | raises
  | refused
  | cached
  | asks (dbId table : Key)

section Tools

variable (u : Unicode) (parse : SqlParser) (rt : DbRuntime) (input : SqlAgentInput)

/-- List the databases that may be used. A description that is no JSON cannot
    be shown, and raises. What raises has the events so far. -/
def invokeListDatabases (tools : Toolset) : Except (List Event) ToolRun :=
  let databases := rt.listDatabases.filter
    (fun d => decide (input.allowedDbIds = [] ∨ d.1 ∈ input.allowedDbIds))
  match databases with
  | [] => .ok ⟨.failed, tools, []⟩
  | shown => if shown.all (fun d => d.2.isJson) then .ok ⟨.found, tools, []⟩ else .error []

/-- List the tables of a database. -/
def invokeListTables (dbId : Val) (reply : Reply) (tools : Toolset) :
    Except (List Event) ToolRun :=
  match guardDbId u rt input.allowedDbIds dbId with
  | .raised => .error []
  | .rejected => .ok ⟨.failed, tools, []⟩
  | .passed name =>
      if rt.hasTool (listTablesPrefix ++ name) then
        match reply.tables, Key.of dbId with
        | none, _ => .ok ⟨.failed, tools, []⟩
        -- The answer is there, and cannot be put under its key.
        | some _, none => .error []
        | some tables, some key =>
            -- Names that are empty are not listed.
            let named := tables.filter (· ≠ "")
            .ok ⟨.found, { tools with listedTables := dictSet key named tools.listedTables },
              [.listed key named]⟩
      else .ok ⟨.failed, tools, []⟩

/-- Look a table up that may be described. A table that was described before
    is not asked for again. -/
def lookupTable (name : String) (dbId table : Key) (tools : Toolset) : Lookup :=
  if (dbId, table) ∈ tools.describeCache ∧ dbId ≠ .nan ∧ table ≠ .nan then .cached
  else if rt.hasTool (describeTablePrefix ++ name) then .asks dbId table
  else .refused

/-- The checks before a table of a database is described. Once its tables were
    listed it has to be one of them. -/
def describeLookup (dbId tableName : Val) (tools : Toolset) : Lookup :=
  match guardDbId u rt input.allowedDbIds dbId with
  | .raised => .raises
  | .rejected => .refused
  | .passed name =>
      match Key.of dbId with
      | none => .raises
      | some key =>
          match lookupKey key tools.listedTables, tableName with
          -- Only once tables were listed is the name compared with them.
          | some listed, .str table =>
              if table ∈ listed then lookupTable rt name key (.text table) tools else .refused
          | some _, _ => .refused
          | none, _ =>
              match Key.of tableName with
              | none => .raises
              | some table => lookupTable rt name key table tools

/-- Describe a table of a database. What is no dictionary cannot be shown, and
    raises once it is there. -/
def invokeDescribeTable (dbId tableName : Val) (reply : Reply) (tools : Toolset) :
    Except (List Event) ToolRun :=
  match describeLookup u rt input dbId tableName tools with
  | .raises => .error []
  | .refused => .ok ⟨.failed, tools, []⟩
  | .cached => .ok ⟨.described true, tools, []⟩
  | .asks key table =>
      match reply.schema with
      | none => .ok ⟨.failed, tools, [.describeSent key table false]⟩
      | some (.dict _) =>
          .ok ⟨.described false, { tools with describeCache := tools.describeCache ++ [(key, table)] },
            [.describeSent key table true]⟩
      | some _ => .error [.describeSent key table true]

/-- Run a statement that passes the check, and keep the first of its rows. -/
def invokeExecuteSql (dbId sql : Val) (reply : Reply) (tools : Toolset) :
    Except (List Event) ToolRun :=
  match guardDbId u rt input.allowedDbIds dbId with
  | .raised => .error []
  | .rejected => .ok ⟨.failed, tools, []⟩
  | .passed name =>
      match Key.of dbId, sql with
      | none, _ => .error []
      | some key, .str text =>
          -- Without a list under this key nothing but the kind of the statement is checked.
          match validateSql u parse text (lookupKey key tools.listedTables) with
          | .error _ => .ok ⟨.failed, tools, []⟩
          | .ok () =>
              let executedSql := ensureLimit u input.budget.maxResultRows text
              if rt.hasTool (queryPrefix ++ name) then
                match reply.rows with
                | none => .ok ⟨.failed, tools, [.sqlSent dbId executedSql none]⟩
                | some rows =>
                    .ok ⟨.ran executedSql (rows.take input.budget.maxResultRows), tools,
                      [.sqlSent dbId executedSql (some rows)]⟩
              else .ok ⟨.failed, tools, []⟩
      | some _, _ => .ok ⟨.failed, tools, []⟩

/-- Hand an action to its tool. Where the tool raises there are only the events
    up to there. -/
def dispatch (action : AgentAction) (args : Dict) (reply : Reply) (tools : Toolset) :
    Except (List Event) ToolRun :=
  match action with
  | .listDatabases => invokeListDatabases rt input tools
  | .listTables => invokeListTables u rt input (actionDbId input args) reply tools
  | .describeTable =>
      let tableName := pyGet args "table_name" (.str "")
      if tableName.truthy then
        invokeDescribeTable u rt input (actionDbId input args) tableName reply tools
      else .ok ⟨.failed, tools, []⟩
  | .executeSql =>
      let sql := pyGet args "sql" (.str "")
      if sql.truthy then invokeExecuteSql u parse rt input (actionDbId input args) sql reply tools
      else .ok ⟨.failed, tools, []⟩
  | _ => .ok ⟨.failed, tools, []⟩

end Tools

/-- What is used up. -/
inductive StopReason where
  | agentSteps
  | llmCalls
  | sqlExecutions
  | describeCalls
  | wallTime
  deriving DecidableEq, Repr

/-- The state of the graph. -/
structure State where
  stepCount : Nat := 0
  llmCallCount : Nat := 0
  sqlExecCount : Nat := 0
  describeCount : Nat := 0
  budgetStop : Option StopReason := none
  pendingAction : Option (AgentAction × Dict) := none
  finishSummary : String := ""
  giveUpReason : String := ""
  giveUpNoData : Bool := false
  llmError : String := ""
  finalDbId : Val
  finalSql : String := ""
  finalRows : List Val := []
  sqlSucceeded : Bool := false
  verdict : Option Verdict := none
  parseFailures : Nat := 0

/-- The nodes of the graph. -/
inductive Node where
  | budgetGuard
  | agentLlm
  | toolExec
  | finalize
  | done
  | raised
  deriving DecidableEq, Repr

/-- The graph between two nodes. -/
structure Config where
  node : Node
  state : State
  tools : Toolset := {}
  log : List Event := []

section Nodes

variable (u : Unicode) (parse : SqlParser) (rt : DbRuntime) (input : SqlAgentInput)

/-- What is used up, if anything is. -/
def checkBudget (budget : ExplorationBudget) (timeOver : Bool) (st : State) : Option StopReason :=
  if budget.maxAgentSteps ≤ st.stepCount then some .agentSteps
  else if budget.maxLlmCalls ≤ st.llmCallCount then some .llmCalls
  else if budget.maxSqlExecutions ≤ st.sqlExecCount then some .sqlExecutions
  else if budget.maxDescribeCalls ≤ st.describeCount then some .describeCalls
  else if timeOver then some .wallTime
  else none

/-- The error after too many answers that cannot be read. -/
def parseError (failures : Nat) : String :=
  "LLM 输出连续 " ++ toString failures ++ " 次无法解析为 JSON action"

/-- Ask the model. Where its call raises, the action before stays pending. -/
def agentLlmNode (reply : LlmReply) (st : State) : Option State :=
  let asked := { st with llmCallCount := st.llmCallCount + 1 }
  match reply with
  | .raised text => some { asked with llmError := text }
  | .broken => none
  | .unparsed =>
      let failures := st.parseFailures + 1
      if maxParseRetries ≤ failures then
        some { asked with llmError := parseError failures, parseFailures := failures }
      -- The model is asked once more.
      else some { asked with pendingAction := none, parseFailures := failures }
  | .act action args => some { asked with pendingAction := some (action, args) }

/-- Where to go from the model. An error without a text is not seen. -/
def routeAfterLlm (st : State) : Node :=
  if st.llmError ≠ "" then .finalize
  else match st.pendingAction with
    | none => .budgetGuard
    | some (.finish, _) => .finalize
    | some (.giveUp, _) => .finalize
    | some _ => .toolExec

/-- An action to run a statement counts, if there is a statement. -/
def countsSql : AgentAction → Dict → Bool
  | .executeSql, args => (pyGet args "sql" (.str "")).truthy
  | _, _ => false

/-- The counters before a tool is run. -/
def counted (action : AgentAction) (args : Dict) (st : State) : State :=
  if countsSql action args then
    { st with stepCount := st.stepCount + 1, sqlExecCount := st.sqlExecCount + 1 }
  else { st with stepCount := st.stepCount + 1 }

/-- The mark an attempt to run a statement leaves. -/
def attempted (action : AgentAction) (args : Dict) : List Event :=
  if countsSql action args then [.sqlAttempted] else []

/-- What is kept of a tool's data. -/
def record (action : AgentAction) (args : Dict) (observed : Observed) (st : State) : State :=
  match action, observed with
  | .executeSql, .ran executedSql rows =>
      { st with
        sqlSucceeded := true
        finalSql := executedSql
        finalRows := rows
        -- What the action names, or else what was reported before.
        finalDbId := pyGet args "db_id" st.finalDbId }
  | .describeTable, .described false => { st with describeCount := st.describeCount + 1 }
  | _, _ => st

/-- Run the pending action. Where its tool raises the state is that before, and
    the events stay. -/
def toolExecNode (reply : Reply) (st : State) (tools : Toolset) :
    Except (List Event) (State × Toolset × List Event) :=
  match st.pendingAction with
  | none => .ok ({ st with stepCount := st.stepCount + 1 }, tools, [.toolRun])
  | some (action, args) =>
      match dispatch u parse rt input action args reply tools with
      | .error events => .error (.toolRun :: (attempted action args ++ events))
      | .ok run =>
          .ok (record action args run.observed (counted action args st), run.tools,
            .toolRun :: (attempted action args ++ run.events))

/-- The verdict: what is used up, then an error of the model, then that it gave
    up, and then whether there are data. -/
def verdictOf (st : State) : Verdict :=
  if st.budgetStop ≠ none then .budgetExhausted
  else if st.llmError ≠ "" then .explorationFailed
  else if st.giveUpReason ≠ "" then
    if st.giveUpNoData then .noDataConfirmed else .explorationFailed
  else if st.finalRows ≠ [] then .dataFound
  else if st.sqlSucceeded then .noDataConfirmed
  else .explorationFailed

/-- Take the last action in, and come to a verdict. -/
def finalizeNode (st : State) : State :=
  let closed := match st.pendingAction with
    | some (.finish, args) =>
        { st with finishSummary := (pyGet args "summary" (.str "")).toStr u }
    | some (.giveUp, args) =>
        { st with
          giveUpReason := (pyGet args "reason" (.str "")).toStr u
          giveUpNoData := match pyGet args "reason_type" (.str "error") with
            | .str reasonType => reasonType == "no_data"
            | _ => false }
    | _ => st
  { closed with verdict := some (verdictOf closed) }

/-- Run one node. -/
def step (reply : Reply) (c : Config) : Config :=
  match c.node with
  | .budgetGuard =>
      match checkBudget input.budget reply.timeOver c.state with
      | none => { c with node := .agentLlm }
      | some reason =>
          { c with node := .finalize, state := { c.state with budgetStop := some reason } }
  | .agentLlm =>
      match agentLlmNode reply.llm c.state with
      -- The model was asked, and then its answer raises.
      | none => { c with node := .raised, log := c.log ++ [.llmCalled] }
      | some st =>
          { c with node := routeAfterLlm st, state := st, log := c.log ++ [.llmCalled] }
  | .toolExec =>
      match toolExecNode u parse rt input reply c.state c.tools with
      | .error events => { c with node := .raised, log := c.log ++ events }
      | .ok (st, tools, events) =>
          { c with node := .budgetGuard, state := st, tools := tools, log := c.log ++ events }
  -- The last node takes in what the model closed with.
  | .finalize => { c with node := .done, state := finalizeNode u c.state }
  | .done => c
  | .raised => c

/-- Where a run begins. -/
def initial : Config :=
  { node := .budgetGuard, state := { finalDbId := .str input.dbId } }

/-- The graph after a number of nodes. -/
def after (replies : Nat → Reply) (n : Nat) : Config :=
  Driven.runFor (step u parse rt input) replies (initial input) n

end Nodes

/-- The report, as far as it is told from the state. -/
structure DbResult where
  sql : String
  rows : List Val
  rowCount : Nat
  dbId : Val
  tables : List String
  verdict : Verdict
  qualityScore : ℚ
  agentSteps : Nat
  llmCalls : Nat
  sqlExecs : Nat
  describeCalls : Nat

/-- The value is a dictionary. -/
def isDict : Val → Bool
  | .dict _ => true
  | _ => false

/-- Build the report. The rows that are shown have to be dictionaries. -/
def buildDbResult (st : State) : Except Exc DbResult :=
  let verdict := st.verdict.getD .explorationFailed
  if (st.finalRows.take 20).all isDict then
    .ok
      { sql := st.finalSql
        rows := st.finalRows
        rowCount := st.finalRows.length
        dbId := st.finalDbId
        tables := if st.finalSql = "" then [] else extractTables st.finalSql
        verdict := verdict
        qualityScore := match verdict with
          | .dataFound => 1
          | .noDataConfirmed => 1 / 2
          | _ => 0
        agentSteps := st.stepCount
        llmCalls := st.llmCallCount
        sqlExecs := st.sqlExecCount
        describeCalls := st.describeCount }
  else .error .attributeError

/-- The report is of what the state holds. -/
theorem buildDbResult_ok {st : State} {r : DbResult} (h : buildDbResult st = .ok r) :
    r.sql = st.finalSql ∧ r.rows = st.finalRows ∧ r.dbId = st.finalDbId := by
  unfold buildDbResult at h
  dsimp only at h
  split at h
  · cases h
    exact ⟨rfl, rfl, rfl⟩
  · cases h

/-- There is a report where the rows that are shown are dictionaries. -/
theorem exists_buildDbResult (st : State) (h : (st.finalRows.take 20).all isDict = true) :
    ∃ r, buildDbResult st = .ok r := by
  unfold buildDbResult
  dsimp only
  rw [if_pos h]
  exact ⟨_, rfl⟩

section Effects

variable (u : Unicode) (parse : SqlParser) (input : SqlAgentInput)

/-- What a tool can do: nothing outside, list tables, describe a table or fail
    to, or send a statement that passes the check. -/
inductive Effect (action : AgentAction) (args : Dict) (tools : Toolset) : ToolRun → Prop where
  | quiet (observed : Observed) (hran : ∀ sql rows, observed ≠ .ran sql rows)
      (hnew : observed ≠ .described false) : Effect action args tools ⟨observed, tools, []⟩
  | lists (key : Key) (names : List String) :
      Effect action args tools
        ⟨.found, { tools with listedTables := dictSet key names tools.listedTables },
          [.listed key names]⟩
  | describes (key table : Key) (haction : action = .describeTable) :
      Effect action args tools
        ⟨.described false, { tools with describeCache := tools.describeCache ++ [(key, table)] },
          [.describeSent key table true]⟩
  | describeFails (key table : Key) (haction : action = .describeTable) :
      Effect action args tools ⟨.failed, tools, [.describeSent key table false]⟩
  | sends (key : Key) (text : String) (rows : Option (List Val)) (haction : action = .executeSql)
      (htext : pyGet args "sql" (.str "") = .str text)
      (hkey : Key.of (actionDbId input args) = some key)
      (hvalid : validateSql u parse text (lookupKey key tools.listedTables) = .ok ()) :
      Effect action args tools
        ⟨match rows with
          | none => .failed
          | some rows => .ran (ensureLimit u input.budget.maxResultRows text)
              (rows.take input.budget.maxResultRows),
          tools,
          [.sqlSent (actionDbId input args) (ensureLimit u input.budget.maxResultRows text) rows]⟩

variable {u parse input} {rt : DbRuntime} {action : AgentAction} {args : Dict} {reply : Reply}
  {tools : Toolset} {run : ToolRun}

theorem effect_failed : Effect u parse input action args tools ⟨.failed, tools, []⟩ := by
  refine .quiet _ ?_ ?_
  · intro sql rows h
    cases h
  · intro h
    cases h

theorem effect_found : Effect u parse input action args tools ⟨.found, tools, []⟩ := by
  refine .quiet _ ?_ ?_
  · intro sql rows h
    cases h
  · intro h
    cases h

theorem invokeListDatabases_effect (h : invokeListDatabases rt input tools = .ok run) :
    Effect u parse input action args tools run := by
  unfold invokeListDatabases at h
  dsimp only at h
  split at h
  next =>
    cases h
    exact effect_failed
  next =>
    split_ifs at h
    cases h
    exact effect_found

theorem invokeListTables_effect {dbId : Val}
    (h : invokeListTables u rt input dbId reply tools = .ok run) :
    Effect u parse input action args tools run := by
  unfold invokeListTables at h
  split at h
  next => cases h
  next =>
    cases h
    exact effect_failed
  next =>
    split_ifs at h
    · split at h
      next =>
        cases h
        exact effect_failed
      next => cases h
      next =>
        cases h
        exact .lists _ _
    · cases h
      exact effect_failed

theorem invokeDescribeTable_effect {dbId tableName : Val}
    (h : invokeDescribeTable u rt input dbId tableName reply tools = .ok run) :
    Effect u parse input .describeTable args tools run := by
  unfold invokeDescribeTable at h
  split at h
  next => cases h
  next =>
    cases h
    exact effect_failed
  next =>
    cases h
    refine .quiet _ ?_ ?_
    · intro sql rows heq
      cases heq
    · intro heq
      cases heq
  next =>
    split at h
    next =>
      cases h
      exact .describeFails _ _ rfl
    next =>
      cases h
      exact .describes _ _ rfl
    next => cases h

theorem invokeExecuteSql_effect {sql : Val} (hsql : pyGet args "sql" (.str "") = sql)
    (h : invokeExecuteSql u parse rt input (actionDbId input args) sql reply tools = .ok run) :
    Effect u parse input .executeSql args tools run := by
  unfold invokeExecuteSql at h
  split at h
  next => cases h
  next =>
    cases h
    exact effect_failed
  next =>
    split at h
    next => cases h
    next key text hkey =>
      split at h
      next =>
        cases h
        exact effect_failed
      next hvalid =>
        dsimp only at h
        split_ifs at h
        · split at h
          next =>
            cases h
            exact .sends key text none rfl hsql hkey hvalid
          next rows _ =>
            cases h
            exact .sends key text (some rows) rfl hsql hkey hvalid
        · cases h
          exact effect_failed
    next =>
      cases h
      exact effect_failed

/-- A tool does one of the five things there are. -/
theorem dispatch_effect (h : dispatch u parse rt input action args reply tools = .ok run) :
    Effect u parse input action args tools run := by
  unfold dispatch at h
  cases action with
  | listDatabases => exact invokeListDatabases_effect h
  | listTables => exact invokeListTables_effect h
  | describeTable =>
      dsimp only at h
      split_ifs at h
      · exact invokeDescribeTable_effect h
      · cases h
        exact effect_failed
  | executeSql =>
      dsimp only at h
      split_ifs at h
      · exact invokeExecuteSql_effect rfl h
      · cases h
        exact effect_failed
  | finish =>
      cases h
      exact effect_failed
  | giveUp =>
      cases h
      exact effect_failed

/-- What running the pending action can do. -/
theorem toolExecNode_cases {st st' : State} {tools' : Toolset} {events : List Event}
    (h : toolExecNode u parse rt input reply st tools = .ok (st', tools', events)) :
    (st.pendingAction = none ∧ st' = { st with stepCount := st.stepCount + 1 } ∧ tools' = tools ∧
      events = [.toolRun]) ∨
    ∃ action args run, st.pendingAction = some (action, args) ∧
      Effect u parse input action args tools run ∧
      st' = record action args run.observed (counted action args st) ∧ tools' = run.tools ∧
      events = .toolRun :: (attempted action args ++ run.events) := by
  unfold toolExecNode at h
  split at h
  next hpending =>
    cases h
    exact .inl ⟨hpending, rfl, rfl, rfl⟩
  next action args hpending =>
    split at h
    next => cases h
    next run hrun =>
      cases h
      exact .inr ⟨action, args, run, hpending, dispatch_effect hrun, rfl, rfl, rfl⟩

theorem attempted_marks (action : AgentAction) (args : Dict) :
    ∀ e ∈ attempted action args, e.isMark = true := by
  intro e he
  unfold attempted at he
  split at he
  next =>
    rw [List.mem_singleton.mp he]
    rfl
  next => cases he

theorem invokeListTables_raised {dbId : Val} {events : List Event}
    (h : invokeListTables u rt input dbId reply tools = .error events) : events = [] := by
  unfold invokeListTables at h
  split at h
  next =>
    cases h
    rfl
  next => cases h
  next =>
    split_ifs at h
    split at h
    next => cases h
    next =>
      cases h
      rfl
    next => cases h

theorem invokeDescribeTable_raised {dbId tableName : Val} {events : List Event}
    (h : invokeDescribeTable u rt input dbId tableName reply tools = .error events) :
    ∀ e ∈ events, e.isMark = true := by
  unfold invokeDescribeTable at h
  split at h
  next =>
    cases h
    exact fun _ he => (by cases he)
  next => cases h
  next => cases h
  next =>
    split at h
    next => cases h
    next => cases h
    next =>
      cases h
      intro e he
      rw [List.mem_singleton.mp he]
      rfl

theorem invokeExecuteSql_raised {dbId sql : Val} {events : List Event}
    (h : invokeExecuteSql u parse rt input dbId sql reply tools = .error events) :
    events = [] := by
  unfold invokeExecuteSql at h
  split at h
  next =>
    cases h
    rfl
  next => cases h
  next =>
    split at h
    next =>
      cases h
      rfl
    next =>
      split at h
      next => cases h
      next =>
        dsimp only at h
        split_ifs at h
        split at h <;> cases h
    next => cases h

/-- Before a tool raises at most a description is asked for. -/
theorem dispatch_raised {events : List Event}
    (h : dispatch u parse rt input action args reply tools = .error events) :
    ∀ e ∈ events, e.isMark = true := by
  have hnone : events = [] → ∀ e ∈ events, e.isMark = true := by
    intro hnil e he
    rw [hnil] at he
    cases he
  unfold dispatch at h
  cases action with
  | listDatabases =>
      simp only [invokeListDatabases] at h
      split at h
      next => cases h
      next =>
        split_ifs at h
        cases h
        exact hnone rfl
  | listTables => exact hnone (invokeListTables_raised h)
  | describeTable =>
      dsimp only at h
      split_ifs at h
      exact invokeDescribeTable_raised h
  | executeSql =>
      dsimp only at h
      split_ifs at h
      exact hnone (invokeExecuteSql_raised h)
  | finish => cases h
  | giveUp => cases h

/-- A step that raises leaves marks only. -/
theorem toolExecNode_raised {st : State} {events : List Event}
    (h : toolExecNode u parse rt input reply st tools = .error events) :
    ∀ e ∈ events, e.isMark = true := by
  unfold toolExecNode at h
  split at h
  next => cases h
  next action args _ =>
    split at h
    next events' hraised =>
      cases h
      intro e he
      rcases List.mem_cons.mp he with rfl | he
      · rfl
      · rcases List.mem_append.mp he with he | he
        · exact attempted_marks action args e he
        · exact dispatch_raised hraised e he
    next => cases h

end Effects

section Moves

variable (u : Unicode) (parse : SqlParser) (rt : DbRuntime) (input : SqlAgentInput)

/-- What one node can do to the graph. -/
inductive Move (reply : Reply) (c : Config) : Config → Prop where
  | passes (hnode : c.node = .budgetGuard)
      (hroom : checkBudget input.budget reply.timeOver c.state = none) :
      Move reply c { c with node := .agentLlm }
  | stops (reason : StopReason) (hnode : c.node = .budgetGuard)
      (hstop : checkBudget input.budget reply.timeOver c.state = some reason) :
      Move reply c
        { c with node := .finalize, state := { c.state with budgetStop := some reason } }
  | asks (st : State) (hnode : c.node = .agentLlm)
      (hllm : agentLlmNode reply.llm c.state = some st) :
      Move reply c
        { c with node := routeAfterLlm st, state := st, log := c.log ++ [.llmCalled] }
  | runs (st : State) (tools : Toolset) (events : List Event) (hnode : c.node = .toolExec)
      (hexec : toolExecNode u parse rt input reply c.state c.tools = .ok (st, tools, events)) :
      Move reply c
        { c with node := .budgetGuard, state := st, tools := tools, log := c.log ++ events }
  | raises (events : List Event) (hnode : c.node = .agentLlm ∨ c.node = .toolExec)
      (hmarks : ∀ e ∈ events, e.isMark = true) :
      Move reply c { c with node := .raised, log := c.log ++ events }
  | closes (hnode : c.node = .finalize) :
      Move reply c { c with node := .done, state := finalizeNode u c.state }
  | rests (hnode : c.node = .done ∨ c.node = .raised) : Move reply c c

/-- Running a node does one of the seven things there are. -/
theorem step_moves (reply : Reply) (c : Config) :
    Move u parse rt input reply c (step u parse rt input reply c) := by
  unfold step
  split
  next hnode =>
    split
    next hroom => exact .passes hnode hroom
    next reason hstop => exact .stops reason hnode hstop
  next hnode =>
    split
    next =>
      refine .raises [.llmCalled] (.inl hnode) ?_
      intro e he
      rw [List.mem_singleton.mp he]
      rfl
    next st hllm => exact .asks st hnode hllm
  next hnode =>
    split
    next events hraised => exact .raises events (.inr hnode) (toolExecNode_raised hraised)
    next st tools events hexec => exact .runs st tools events hnode hexec
  next hnode => exact .closes hnode
  next hnode => exact .rests (.inl hnode)
  next hnode => exact .rests (.inr hnode)

variable {u}

/-- The fields that asking the model can change. -/
theorem agentLlmNode_frame {reply : LlmReply} {st st' : State}
    (h : agentLlmNode reply st = some st') :
    ∃ pending error failures, st' =
      { st with
        llmCallCount := st.llmCallCount + 1
        pendingAction := pending
        llmError := error
        parseFailures := failures } := by
  unfold agentLlmNode at h
  dsimp only at h
  split at h
  next text =>
    cases h
    exact ⟨_, text, _, rfl⟩
  next => cases h
  next =>
    split_ifs at h
    · cases h
      exact ⟨_, _, _, rfl⟩
    · cases h
      exact ⟨none, _, _, rfl⟩
  next action args =>
    cases h
    exact ⟨some (action, args), _, _, rfl⟩

/-- The fields that the end can change. -/
theorem finalizeNode_frame (st : State) :
    ∃ summary reason noData verdict, finalizeNode u st =
      { st with
        finishSummary := summary
        giveUpReason := reason
        giveUpNoData := noData
        verdict := some verdict } := by
  unfold finalizeNode
  dsimp only
  split <;> exact ⟨_, _, _, _, rfl⟩

end Moves

end SqlSubgraph

end AgenticRag

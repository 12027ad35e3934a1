import AgenticRag.Core.DatabaseTool
import AgenticRag.Core.PlanExecutors

/-!
# The SQL Agent

The entry to all database queries. A question is answered by the SQL of a
template if there is one, and else by an agent: a model that lists databases
and tables, describes tables and runs statements until it is content, gives
up, or has used up its budget. Where the model is not there, or the agent
raises, the question goes to the older tool.

A caller may restrict a call to a list of databases. The agent's tools check
every database against it, and so does the choice of the database for a
template.

The agent is a graph of four nodes, run by a library that counts the steps and
raises when there are too many. `runGraph` is that run.

## Main definitions

* `guardDbId`: The check of a database in the agent's tools.
* `SqlAgentRunner.invoke`: The entry.

## Theorems

* `guardDbId_allowed`: What the check lets through.
* `runGraph_executed`: Every statement of the agent passed the check.
-/

namespace AgenticRag

open Py Ordered

/-- The verdicts of an exploration. -/
inductive Verdict where
  | dataFound
  | noDataConfirmed
  | explorationFailed
  | budgetExhausted
  deriving DecidableEq, Repr

/-- The number of steps a graph may take. -/
def recursionLimit : Nat := 25

/-- How often the model may write what cannot be read. -/
def maxParseRetries : Nat := 2

/-- The check of a database: it is passed on, reported back as wrong, or the
    check itself raises. -/
inductive Guard where
  | passed (dbId : String)
  | rejected
  | raised
  deriving DecidableEq, Repr

/-- Check a database the model names. With a whitelist, what cannot be hashed
    raises, and what is no text is not in it. -/
def guardDbId (u : Unicode) (rt : DbRuntime) (allowed : List String) (dbId : Val) : Guard :=
  if ¬ dbId.truthy then .rejected
  else if allowed = [] then
    if rt.validateDatabase (dbId.toStr u) then .passed (dbId.toStr u) else .rejected
  else
    match dbId with
    | .str s => if s ∈ allowed ∧ rt.validateDatabase s then .passed s else .rejected
    | .list _ => .raised
    | .dict _ => .raised
    | _ => .rejected

/-- Whether a character stands for a letter of `LIMIT` whatever its case. -/
def limitLetters : List (List Char) :=
  [['l', 'L'], ['i', 'I', Char.ofNat 0x130, Char.ofNat 0x131], ['m', 'M'],
    ['i', 'I', Char.ofNat 0x130, Char.ofNat 0x131], ['t', 'T']]

/-- The word `LIMIT` stands at a position. -/
def scanLimit (u : Unicode) (before : Option Char) (text : List Char) : Option (Nat × Unit) :=
  let isWord := fun c => u.isAlnum c || c == '_'
  if limitLetters.length ≤ text.length ∧
      (text.zip limitLetters).all (fun p => decide (p.1 ∈ p.2)) ∧
      atBoundary isWord before text.head? ∧
      atBoundary isWord text[4]? text[5]? then some (5, ())
  else none

/-- A statement without a limit gets one. -/
def ensureLimit (u : Unicode) (maxResultRows : Nat) (sql : String) : String :=
  if reFindall (scanLimit u) none 0 sql.toList = [] then
    let trimmed := (sql.toList.reverse.dropWhile isSpace).dropWhile (· == ';')
    String.ofList trimmed.reverse ++ " LIMIT " ++ toString maxResultRows
  else sql

/-- Why an exploration comes to its end. -/
inductive Ending where
  | budget
  | llmError
  | finish
  | giveUp (reason : String) (noData : Bool)
  deriving DecidableEq, Repr

/-- The nodes of the graph. -/
inductive AgentNode where
  | budgetGuard
  | agentLlm
  | toolExec (action : AgentAction) (args : Dict)
  | finalize (ending : Ending)

/-- What an exploration keeps. -/
structure ExploreState where
  stepCount : Nat := 0
  llmCallCount : Nat := 0
  sqlExecCount : Nat := 0
  describeCount : Nat := 0
  parseFailures : Nat := 0
  looks : Nat := 0
  listedTables : List (String × List String) := []
  describeCache : List (String × String) := []
  finalRows : Nat := 0
  sqlSucceeded : Bool := false
  executed : List Statement := []

section Graph

variable (u : Unicode) (w : SqlWorld) (rt : DbRuntime) (input : SqlAgentInput)

/-- The budget allows another round. -/
def budgetAllows (st : ExploreState) : Bool :=
  decide (st.stepCount < input.budget.maxAgentSteps ∧
    st.llmCallCount < input.budget.maxLlmCalls ∧
    st.sqlExecCount < input.budget.maxSqlExecutions ∧
    st.describeCount < input.budget.maxDescribeCalls) && !w.wallTimeOver st.looks

/-- The database an action names, or that of the call. -/
def actionDbId (args : Dict) : Val := pyOr (pyGet args "db_id" .none) (.str input.dbId)

/-- List the tables of a database. -/
def invokeListTables (args : Dict) (st : ExploreState) : Option ExploreState :=
  match guardDbId u rt input.allowedDbIds (actionDbId input args) with
  | .raised => none
  | .rejected => some st
  | .passed dbId =>
      if rt.hasTool (listTablesPrefix ++ dbId) then
        match w.tablesOf dbId with
        | none => some st
        | some tables =>
            some { st with
              listedTables := dictSet dbId (tables.filter (· ≠ "")) st.listedTables }
      else some st

/-- Describe a table of a database. Once its tables were listed it has to be
    one of them. -/
def invokeDescribeTable (args : Dict) (st : ExploreState) : Option ExploreState :=
  let tableName := pyGet args "table_name" (.str "")
  if ¬ tableName.truthy then some st
  else
    match guardDbId u rt input.allowedDbIds (actionDbId input args) with
    | .raised => none
    | .rejected => some st
    | .passed dbId =>
        match st.listedTables.lookup dbId, tableName with
        | some listed, .str table =>
            if table ∈ listed then some (describe dbId table) else some st
        -- A name that is no text is not among the names that were listed.
        | some _, _ => some st
        | none, .list _ => none
        | none, .dict _ => none
        | none, _ => some (describe dbId (tableName.toStr u))
where
  /-- A table that was described before is not looked up again. -/
  describe (dbId table : String) : ExploreState :=
    if (dbId, table) ∈ st.describeCache then st
    else if rt.hasTool (describeTablePrefix ++ dbId) && w.describes dbId table then
      { st with
        describeCache := st.describeCache ++ [(dbId, table)]
        describeCount := st.describeCount + 1 }
    else st

/-- Run a statement on a database. -/
def invokeExecuteSql (args : Dict) (st : ExploreState) : Option ExploreState :=
  let sql := pyGet args "sql" (.str "")
  if ¬ sql.truthy then some st
  else
    -- A statement counts before it is checked.
    let counted := { st with sqlExecCount := st.sqlExecCount + 1 }
    match guardDbId u rt input.allowedDbIds (actionDbId input args), sql with
    | .raised, _ => none
    | .rejected, _ => some counted
    | .passed dbId, .str text =>
        if w.validateSql text (st.listedTables.lookup dbId) then
          let ran := executeSql w rt dbId (ensureLimit u input.budget.maxResultRows text)
            st.executed
          some (match ran.1 with
            | some rows =>
                { counted with
                  executed := ran.2
                  sqlSucceeded := true
                  finalRows := min rows input.budget.maxResultRows }
            | none => { counted with executed := ran.2 })
        else some counted
    | .passed _, _ => some counted

/-- Carry out an action. There is no result where a tool raises. -/
def toolExec (action : AgentAction) (args : Dict) (st : ExploreState) : Option ExploreState :=
  let stepped := { st with stepCount := st.stepCount + 1 }
  match action with
  | .listTables => invokeListTables u w rt input args stepped
  | .describeTable => invokeDescribeTable u w rt input args stepped
  | .executeSql => invokeExecuteSql u w rt input args stepped
  | _ => some stepped

/-- Ask the model for an action. -/
def agentLlm (st : ExploreState) : AgentNode × ExploreState :=
  let asked := { st with llmCallCount := st.llmCallCount + 1 }
  match w.agent st.llmCallCount with
  | .failed => (.finalize .llmError, asked)
  | .unparsed =>
      let failed := { asked with parseFailures := st.parseFailures + 1 }
      -- The failures are never reset, so they add up over the whole run.
      if maxParseRetries ≤ st.parseFailures + 1 then (.finalize .llmError, failed)
      else (.budgetGuard, failed)
  | .act .finish _ => (.finalize .finish, asked)
  | .act .giveUp args =>
      (.finalize (.giveUp ((pyGet args "reason" (.str "")).toStr u)
        (match pyGet args "reason_type" (.str "error") with
          | .str reasonType => reasonType == "no_data"
          | _ => false)), asked)
  | .act action args => (.toolExec action args, asked)

/-- The verdict at the end. -/
def computeVerdict (ending : Ending) (st : ExploreState) : Verdict :=
  let byData := if st.finalRows ≠ 0 then .dataFound
    else if st.sqlSucceeded then .noDataConfirmed
    else .explorationFailed
  match ending with
  | .budget => .budgetExhausted
  | .llmError => .explorationFailed
  | .finish => byData
  | .giveUp reason noData =>
      -- Without a reason it counts as an ordinary end.
      if reason = "" then byData
      else if noData then .noDataConfirmed
      else .explorationFailed

/-- Run the graph. There is no verdict where a tool raises or there are too
    many steps. -/
def runGraph : Nat → AgentNode → ExploreState → Option Verdict × ExploreState
  | 0, _, st => (none, st)
  | n + 1, .budgetGuard, st =>
      let looked := { st with looks := st.looks + 1 }
      if budgetAllows w input st then runGraph n .agentLlm looked
      else runGraph n (.finalize .budget) looked
  | n + 1, .agentLlm, st =>
      let next := agentLlm u w st
      runGraph n next.1 next.2
  | n + 1, .toolExec action args, st =>
      match toolExec u w rt input action args st with
      | some st' => runGraph n .budgetGuard st'
      | none => (none, st)
  | _ + 1, .finalize ending, st => (some (computeVerdict ending st), st)

end Graph

/-- Why a call is turned away before anything is run. -/
inductive Rejection where
  | emptyQuery
  | initFailed
  | noTools
  | notAllowed
  deriving DecidableEq, Repr

/-- How a call ends. -/
inductive InvokeEnd where
  | rejected (reason : Rejection)
  | template (rows : Nat)
  | explored (verdict : Verdict)
  | legacy (ended : LegacyEnd)
  deriving DecidableEq, Repr

/-- What is left of a call. -/
structure InvokeRun where
  ended : InvokeEnd
  runtime : DbRuntime
  counter : ExploreCounter
  executed : List Statement

section Runner

variable (u : Unicode) (w : SqlWorld)

/-- The database of a template, if there is only one to choose. -/
def defaultDbId (rt : DbRuntime) (allowed : List String) : String :=
  let dbIds := rt.listDatabases.map Prod.fst
  match if allowed = [] then dbIds else dbIds.filter (· ∈ allowed) with
  | [dbId] => dbId
  | _ => ""

/-- Answer a question by the SQL of a template. There are no rows where the
    question is left to the agent. -/
def tryTemplateShortcut (rt : DbRuntime) (input : SqlAgentInput) : Option Nat × List Statement :=
  match w.templateSql input.query with
  | none => (none, [])
  | some sql =>
      let target := if input.dbId = "" then defaultDbId rt input.allowedDbIds else input.dbId
      if target = "" then (none, [])
      else if w.validateSql sql none then executeSql w rt target sql []
      else (none, [])

/-- The older tool, when a call is handed on to it. -/
def toLegacy (rt : DbRuntime) (counter : ExploreCounter) (input : SqlAgentInput)
    (outcome : InitOutcome) (executed : List Statement) : InvokeRun :=
  let run := DatabaseTool.invoke u w rt counter input outcome executed
  ⟨.legacy run.ended, run.runtime, run.counter, run.executed⟩

/-- The exploration mode of a call: its own, that of the configuration file,
    or that of the agent. -/
def explorationMode (fileMode : Option String) (input : SqlAgentInput) : String :=
  input.explorationMode.getD (fileMode.getD "sql_agent")

/-- After the checks: the template, the agent, the older tool. The outcome is
    that of the older tool's session, should it come to that. -/
def SqlAgentRunner.explore (rt : DbRuntime) (counter : ExploreCounter) (input : SqlAgentInput)
    (outcome : InitOutcome) : InvokeRun :=
  let tried := if input.enableTemplate then tryTemplateShortcut w rt input else (none, [])
  match tried.1 with
  | some rows => ⟨.template rows, rt, counter, tried.2⟩
  | none =>
      if w.llmAvailable then
        let explored := runGraph u w rt input recursionLimit .budgetGuard { executed := tried.2 }
        match explored.1 with
        | some verdict => ⟨.explored verdict, rt, counter, explored.2.executed⟩
        -- A graph that raised has run its statements all the same.
        | none => toLegacy u w rt counter input outcome explored.2.executed
      else toLegacy u w rt counter input outcome tried.2

/-- The entry. The first outcome is that of its own session, the second that
    of the older tool's after it; in the mode of the older tool there is the
    first only. -/
def SqlAgentRunner.invoke (fileMode : Option String) (rt : DbRuntime) (counter : ExploreCounter)
    (input : SqlAgentInput) (first second : InitOutcome) : InvokeRun :=
  if input.query = "" then ⟨.rejected .emptyQuery, rt, counter, []⟩
  else if explorationMode fileMode input = "legacy" then toLegacy u w rt counter input first []
  else
    let opened := rt.initSession input.tenantId input.mcpServerName first
    if opened.2 then ⟨.rejected .initFailed, opened.1, counter, []⟩
    else if opened.1.dbTools.isEmpty then ⟨.rejected .noTools, opened.1, counter, []⟩
    else if input.allowedDbIds ≠ [] ∧ input.dbId ≠ "" ∧ input.dbId ∉ input.allowedDbIds then
      ⟨.rejected .notAllowed, opened.1, counter, []⟩
    else SqlAgentRunner.explore u w opened.1 counter input second

end Runner

section Allowed

variable {u : Unicode} {w : SqlWorld} {rt : DbRuntime} {input : SqlAgentInput}

/-- The statements of a state are all on databases of a list. -/
def OnAllowed (allowed : List String) (executed : List Statement) : Prop :=
  ∀ s ∈ executed, s.dbId ∈ allowed

theorem onAllowed_nil {allowed : List String} : OnAllowed allowed [] := by
  intro s hs
  cases hs

/-- What the check lets through is on the whitelist. -/
theorem guardDbId_allowed {allowed : List String} (hallowed : allowed ≠ []) {v : Val}
    {dbId : String} (h : guardDbId u rt allowed v = .passed dbId) : dbId ∈ allowed := by
  unfold guardDbId at h
  rw [if_neg hallowed] at h
  split_ifs at h
  split at h
  next s =>
    split_ifs at h with hmem
    cases h
    exact hmem.1
  next => cases h
  next => cases h
  next => cases h

theorem executeSql_onAllowed {allowed : List String} {dbId sql : String}
    {executed : List Statement} (hexecuted : OnAllowed allowed executed)
    (hdb : dbId ∈ allowed) : OnAllowed allowed (executeSql w rt dbId sql executed).2 := by
  intro s hs
  rcases executeSql_executed hs with hold | hnew
  · exact hexecuted s hold
  · rw [hnew]
    exact hdb

/-- The tools that look things up run no statement. -/
theorem invokeListTables_executed {args : Dict} {st st' : ExploreState}
    (h : invokeListTables u w rt input args st = some st') : st'.executed = st.executed := by
  unfold invokeListTables at h
  split at h
  next => cases h
  next =>
    cases h
    rfl
  next =>
    split_ifs at h
    · split at h
      · cases h
        rfl
      · cases h
        rfl
    · cases h
      rfl

theorem describe_executed (st : ExploreState) (dbId table : String) :
    (invokeDescribeTable.describe w rt st dbId table).executed = st.executed := by
  unfold invokeDescribeTable.describe
  split_ifs <;> rfl

theorem invokeDescribeTable_executed {args : Dict} {st st' : ExploreState}
    (h : invokeDescribeTable u w rt input args st = some st') : st'.executed = st.executed := by
  unfold invokeDescribeTable at h
  dsimp only at h
  split_ifs at h
  · split at h
    next => cases h
    next =>
      cases h
      rfl
    next =>
      split at h
      next =>
        split_ifs at h
        · cases h
          exact describe_executed st _ _
        · cases h
          rfl
      next =>
        cases h
        rfl
      next => cases h
      next => cases h
      next =>
        cases h
        exact describe_executed st _ _
  · cases h
    rfl

theorem invokeExecuteSql_onAllowed (hallowed : input.allowedDbIds ≠ []) {args : Dict}
    {st st' : ExploreState} (hst : OnAllowed input.allowedDbIds st.executed)
    (h : invokeExecuteSql u w rt input args st = some st') :
    OnAllowed input.allowedDbIds st'.executed := by
  unfold invokeExecuteSql at h
  dsimp only at h
  split_ifs at h
  · split at h
    next => cases h
    next =>
      cases h
      exact hst
    next dbId text hguard _ =>
      have hran : OnAllowed input.allowedDbIds (executeSql w rt dbId
          (ensureLimit u input.budget.maxResultRows text) st.executed).2 :=
        executeSql_onAllowed hst (guardDbId_allowed hallowed hguard)
      split_ifs at h
      · cases h
        split <;> exact hran
      · cases h
        exact hst
    next =>
      cases h
      exact hst
  · cases h
    exact hst

/-- Carrying out an action runs no statement beside the whitelist. -/
theorem toolExec_onAllowed (hallowed : input.allowedDbIds ≠ []) {action : AgentAction}
    {args : Dict} {st st' : ExploreState} (hst : OnAllowed input.allowedDbIds st.executed)
    (h : toolExec u w rt input action args st = some st') :
    OnAllowed input.allowedDbIds st'.executed := by
  unfold toolExec at h
  cases action with
  | listTables =>
      rw [invokeListTables_executed h]
      exact hst
  | describeTable =>
      rw [invokeDescribeTable_executed h]
      exact hst
  | executeSql =>
      refine invokeExecuteSql_onAllowed hallowed ?_ h
      exact hst
  | listDatabases =>
      cases h
      exact hst
  | finish =>
      cases h
      exact hst
  | giveUp =>
      cases h
      exact hst

theorem agentLlm_executed (st : ExploreState) :
    (agentLlm u w st).2.executed = st.executed := by
  unfold agentLlm
  dsimp only
  split
  · rfl
  · split_ifs <;> rfl
  · rfl
  · rfl
  · rfl

/-- Every statement of the agent passed the check. -/
theorem runGraph_executed (hallowed : input.allowedDbIds ≠ []) (n : Nat) (node : AgentNode)
    (st : ExploreState) (hst : OnAllowed input.allowedDbIds st.executed) :
    OnAllowed input.allowedDbIds (runGraph u w rt input n node st).2.executed := by
  induction n generalizing node st with
  | zero => exact hst
  | succ n ih =>
      cases node with
      | budgetGuard =>
          unfold runGraph
          dsimp only
          split_ifs
          · exact ih _ _ hst
          · exact ih _ _ hst
      | agentLlm =>
          unfold runGraph
          refine ih _ _ ?_
          rw [agentLlm_executed]
          exact hst
      | toolExec action args =>
          unfold runGraph
          split
          next st' hexec => exact ih _ _ (toolExec_onAllowed hallowed hst hexec)
          next => exact hst
      | finalize ending => exact hst

end Allowed

end AgenticRag

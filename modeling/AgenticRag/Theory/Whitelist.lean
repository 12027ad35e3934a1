import AgenticRag.Core.SqlAgent

/-!
# The Whitelist of Databases

A caller of the SQL agent may restrict a call to a list of databases. The call
takes one of four ways: the SQL of a template, the agent, the older tool
because it was asked for, or the older tool because the model was not there or
the agent raised.

The first two keep to the list whatever the model and the servers do. The
older tool does not know it: it runs its statements on the database the call
names, or on one it finds by keywords. So a call keeps to the list, in every
world it may meet, exactly when the older tool would (`invoke_onAllowed_iff`).

For the other direction the world is one in which nothing works: there is no
model, and every statement fails. There the way to the older tool is always
open (`legacy_executes`).

## Main definitions

* `Guarded`: The older tool would keep to the whitelist.
* `failingWorld`: A world without a model, in which every statement fails.

## Theorems

* `tryTemplateShortcut_onAllowed`: A template runs on the whitelist.
* `legacy_executes`: The older tool, in the failing world.
* `invoke_onAllowed_iff`: When a call keeps to the whitelist.
-/

namespace AgenticRag

open Py Ordered

variable (u : Unicode)

/-- Wherever the older tool would get as far as running a statement, its
    database is on the whitelist. A call to the agent that names a database is
    checked before anything is run. -/
def Guarded (fileMode : Option String) (rt : DbRuntime) (counter : ExploreCounter)
    (input : SqlAgentInput) (first second : InitOutcome) : Prop :=
  if explorationMode fileMode input = "legacy" then
    ∀ dbId, DatabaseTool.Reaches u rt counter input first dbId → dbId ∈ input.allowedDbIds
  else
    let opened := rt.initSession input.tenantId input.mcpServerName first
    opened.2 = false → opened.1.dbTools ≠ [] → input.dbId = "" →
      ∀ dbId, DatabaseTool.Reaches u opened.1 counter input second dbId →
        dbId ∈ input.allowedDbIds

section Sufficient

variable {u} {w : SqlWorld} {rt : DbRuntime} {input : SqlAgentInput} {counter : ExploreCounter}

/-- The database that is chosen for a template is on the whitelist. -/
theorem defaultDbId_allowed {allowed : List String} (hallowed : allowed ≠ [])
    (h : defaultDbId rt allowed ≠ "") : defaultDbId rt allowed ∈ allowed := by
  unfold defaultDbId at h ⊢
  dsimp only at h ⊢
  rw [if_neg hallowed] at h ⊢
  split at h
  next dbId hsingle =>
    -- The one that is chosen is the only one left of those on the list.
    have hmem : dbId ∈ (rt.listDatabases.map Prod.fst).filter (· ∈ allowed) := by
      rw [hsingle]
      exact List.mem_singleton_self dbId
    exact of_decide_eq_true (List.mem_filter.mp hmem).2
  next => exact absurd rfl h

/-- A template runs on the whitelist. -/
theorem tryTemplateShortcut_onAllowed (hallowed : input.allowedDbIds ≠ [])
    (hdb : input.dbId ≠ "" → input.dbId ∈ input.allowedDbIds) :
    OnAllowed input.allowedDbIds (tryTemplateShortcut w rt input).2 := by
  have htarget : (if input.dbId = "" then defaultDbId rt input.allowedDbIds
      else input.dbId) ≠ "" →
      (if input.dbId = "" then defaultDbId rt input.allowedDbIds else input.dbId) ∈
        input.allowedDbIds := by
    by_cases hnone : input.dbId = ""
    · rw [if_pos hnone]
      exact defaultDbId_allowed hallowed
    · rw [if_neg hnone]
      exact hdb
  unfold tryTemplateShortcut
  split
  next => exact onAllowed_nil
  next sql _ =>
    dsimp only
    generalize (if input.dbId = "" then defaultDbId rt input.allowedDbIds
      else input.dbId) = target at htarget ⊢
    split_ifs with hno
    · exact onAllowed_nil
    · exact executeSql_onAllowed onAllowed_nil (htarget hno)
    · exact onAllowed_nil

theorem toLegacy_onAllowed {outcome : InitOutcome} {executed : List Statement}
    (hexecuted : OnAllowed input.allowedDbIds executed)
    (hreaches : ∀ dbId, DatabaseTool.Reaches u rt counter input outcome dbId →
      dbId ∈ input.allowedDbIds) :
    OnAllowed input.allowedDbIds (toLegacy u w rt counter input outcome executed).executed := by
  intro s hs
  rcases DatabaseTool.invoke_executed hs with hold | hreach
  · exact hexecuted s hold
  · exact hreaches s.dbId hreach

theorem explore_onAllowed (hallowed : input.allowedDbIds ≠ [])
    (hdb : input.dbId ≠ "" → input.dbId ∈ input.allowedDbIds) {outcome : InitOutcome}
    (hreaches : ∀ dbId, DatabaseTool.Reaches u rt counter input outcome dbId →
      dbId ∈ input.allowedDbIds) :
    OnAllowed input.allowedDbIds
      (SqlAgentRunner.explore u w rt counter input outcome).executed := by
  have htried : OnAllowed input.allowedDbIds
      (if input.enableTemplate then tryTemplateShortcut w rt input else (none, [])).2 := by
    split_ifs
    · exact tryTemplateShortcut_onAllowed hallowed hdb
    · exact onAllowed_nil
  unfold SqlAgentRunner.explore
  dsimp only
  generalize (if input.enableTemplate then tryTemplateShortcut w rt input else (none, [])) = tried
    at htried ⊢
  split
  next => exact htried
  next =>
    split_ifs
    · have hexplored : OnAllowed input.allowedDbIds
          (runGraph u w rt input recursionLimit .budgetGuard { executed := tried.2 }).2.executed :=
        runGraph_executed hallowed recursionLimit .budgetGuard _ htried
      split
      next => exact hexplored
      next => exact toLegacy_onAllowed hexplored hreaches
    · exact toLegacy_onAllowed htried hreaches

/-- The older tool runs on the database a call names. -/
theorem Reaches.eq_dbId {outcome : InitOutcome} {dbId : String} (hne : input.dbId ≠ "")
    (h : DatabaseTool.Reaches u rt counter input outcome dbId) : dbId = input.dbId := by
  have htarget := h.2.2.2.1
  unfold targetDatabase at htarget
  rw [if_neg hne] at htarget
  exact (Option.some.inj (Except.ok.inj htarget)).symm

variable {fileMode : Option String} {first second : InitOutcome}

theorem invoke_onAllowed_legacy (hmode : explorationMode fileMode input = "legacy")
    (h : ∀ dbId, DatabaseTool.Reaches u rt counter input first dbId →
      dbId ∈ input.allowedDbIds) :
    OnAllowed input.allowedDbIds
      (SqlAgentRunner.invoke u w fileMode rt counter input first second).executed := by
  unfold SqlAgentRunner.invoke
  by_cases hquery : input.query = ""
  · rw [if_pos hquery]
    exact onAllowed_nil
  · rw [if_neg hquery, if_pos hmode]
    exact toLegacy_onAllowed onAllowed_nil h

/-- A call to the agent that names a database has been checked, so only one
    that names none depends on the older tool. -/
theorem invoke_onAllowed_agent (hmode : explorationMode fileMode input ≠ "legacy")
    (hallowed : input.allowedDbIds ≠ [])
    (h : (rt.initSession input.tenantId input.mcpServerName first).2 = false →
      (rt.initSession input.tenantId input.mcpServerName first).1.dbTools ≠ [] →
      input.dbId = "" → ∀ dbId, DatabaseTool.Reaches u
        (rt.initSession input.tenantId input.mcpServerName first).1 counter input second dbId →
        dbId ∈ input.allowedDbIds) :
    OnAllowed input.allowedDbIds
      (SqlAgentRunner.invoke u w fileMode rt counter input first second).executed := by
  unfold SqlAgentRunner.invoke
  rw [if_neg hmode]
  dsimp only
  split_ifs with hquery hraised htools hrejected
  · exact onAllowed_nil
  · exact onAllowed_nil
  · exact onAllowed_nil
  · exact onAllowed_nil
  · have hdb : input.dbId ≠ "" → input.dbId ∈ input.allowedDbIds := by
      intro hne
      -- A database that is named and not on the list was turned away.
      by_contra hout
      exact hrejected ⟨hallowed, hne, hout⟩
    refine explore_onAllowed hallowed hdb ?_
    intro dbId hreaches
    by_cases hno : input.dbId = ""
    · refine h (Bool.eq_false_iff.mpr hraised) ?_ hno dbId hreaches
      intro hnil
      exact htools (by rw [hnil]; rfl)
    · rw [Reaches.eq_dbId hno hreaches]
      exact hdb hno

end Sufficient

section Necessary

/-- There is a template for every question, no model, and every statement
    fails. -/
def failingWorld : SqlWorld where
  templateSql _ := some "SELECT 1"
  validateSql _ _ := true
  execute _ := none
  tablesOf _ := some []
  describes _ _ := false
  chatAvailable := false
  generated := none
  healed _ := none
  llmAvailable := false
  agent _ := .failed
  wallTimeOver _ := false

variable {u} {rt : DbRuntime} {input : SqlAgentInput} {counter : ExploreCounter}

/-- Without templates there are no tables, and a statement is made without
    them. -/
theorem chooseSql_failingWorld {dbId : String}
    (h : input.enableTemplate = true ∨ (counter.listTables dbId < maxExplorations ∧
      rt.hasTool (listTablesPrefix ++ dbId) = true)) :
    ∃ sql, (DatabaseTool.chooseSql u failingWorld rt counter input dbId).1 = some sql := by
  unfold DatabaseTool.chooseSql
  dsimp only
  by_cases htemplate : input.enableTemplate = true
  · rw [if_pos htemplate]
    exact ⟨"SELECT 1", rfl⟩
  · rcases h with hyes | ⟨hcount, htool⟩
    · exact absurd hyes htemplate
    · rw [if_neg htemplate, if_pos rfl]
      -- The list of tables is there and empty, so the statement names none of them.
      have hnone : filterRelevantTables u input.simplified [] input.maxSchemaTables = [] := by
        simp [filterRelevantTables, sortDesc]
      refine ⟨generateRuleSql input.simplified [], ?_⟩
      simp [progressiveSchemaDiscovery, hcount, htool, failingWorld, hnone, describeTables,
        generateSql]

/-- The statement is sent once, and then there is nobody to repair it. -/
theorem executeWithSelfHealing_failingWorld {dbId sql : String} {executed : List Statement}
    (htool : rt.hasTool (queryPrefix ++ dbId) = true) (retries : Nat) :
    (executeWithSelfHealing failingWorld rt dbId retries sql executed).2 =
      executed ++ [⟨dbId, sql⟩] := by
  -- The first attempt is sent and fails.
  have hsent : executeSql failingWorld rt dbId sql executed =
      (none, executed ++ [⟨dbId, sql⟩]) := by
    unfold executeSql
    rw [if_pos htool]
    rfl
  unfold executeWithSelfHealing
  rw [hsent]
  cases retries with
  | zero => rfl
  | succ k => simp [selfHealingRetry, failingWorld]

theorem runOn_failingWorld {dbId : String} (executed : List Statement)
    (htool : rt.hasTool (queryPrefix ++ dbId) = true)
    (hsql : input.enableTemplate = true ∨ (counter.listTables dbId < maxExplorations ∧
      rt.hasTool (listTablesPrefix ++ dbId) = true)) :
    ∃ s ∈ (DatabaseTool.runOn u failingWorld rt counter input dbId executed).executed,
      s.dbId = dbId := by
  rcases chooseSql_failingWorld hsql with ⟨sql, hchosen⟩
  have hrun : (DatabaseTool.runOn u failingWorld rt counter input dbId executed).executed =
      (executeWithSelfHealing failingWorld rt dbId (if input.enableSelfHealing then 2 else 0) sql
        executed).2 := by
    unfold DatabaseTool.runOn
    dsimp only
    rw [hchosen]
    rfl
  rw [hrun, executeWithSelfHealing_failingWorld htool]
  exact ⟨⟨dbId, sql⟩, List.mem_append_right _ (List.mem_singleton_self _), rfl⟩

/-- In the failing world the older tool runs a statement wherever it can get
    as far as that. -/
theorem legacy_executes {outcome : InitOutcome} {dbId : String} (executed : List Statement)
    (h : DatabaseTool.Reaches u rt counter input outcome dbId) :
    ∃ s ∈ (toLegacy u failingWorld rt counter input outcome executed).executed,
      s.dbId = dbId := by
  rcases h with ⟨hquery, hopened, htools, htarget, hvalid, hsql⟩
  have hnotools : ¬ (rt.initSession input.tenantId input.mcpServerName
      outcome).1.dbTools.isEmpty = true := by
    intro hempty
    exact htools (List.isEmpty_iff.mp hempty)
  have hrun : (toLegacy u failingWorld rt counter input outcome executed).executed =
      (DatabaseTool.runOn u failingWorld
        (rt.initSession input.tenantId input.mcpServerName outcome).1 counter input dbId
        executed).executed := by
    unfold toLegacy DatabaseTool.invoke
    simp only [if_neg hquery, hopened, Bool.false_eq_true, if_false, if_neg hnotools, htarget,
      if_pos hvalid]
  rw [hrun]
  exact runOn_failingWorld executed hvalid hsql

/-- In the failing world a template gives no rows, and the call goes on to the
    older tool. -/
theorem explore_failingWorld (rt : DbRuntime) (counter : ExploreCounter)
    (input : SqlAgentInput) (outcome : InitOutcome) :
    ∃ executed, SqlAgentRunner.explore u failingWorld rt counter input outcome =
      toLegacy u failingWorld rt counter input outcome executed := by
  have htried : (if input.enableTemplate then tryTemplateShortcut failingWorld rt input
      else (none, [])).1 = none := by
    split_ifs
    · unfold tryTemplateShortcut executeSql
      dsimp only [failingWorld]
      split_ifs <;> rfl
    · rfl
  refine ⟨(if input.enableTemplate then tryTemplateShortcut failingWorld rt input
    else (none, [])).2, ?_⟩
  unfold SqlAgentRunner.explore
  dsimp only
  rw [htried]
  rfl

variable {fileMode : Option String} {first second : InitOutcome}

theorem reaches_allowed_legacy (hmode : explorationMode fileMode input = "legacy")
    (h : OnAllowed input.allowedDbIds
      (SqlAgentRunner.invoke u failingWorld fileMode rt counter input first second).executed)
    {dbId : String} (hreaches : DatabaseTool.Reaches u rt counter input first dbId) :
    dbId ∈ input.allowedDbIds := by
  unfold SqlAgentRunner.invoke at h
  rw [if_neg hreaches.1, if_pos hmode] at h
  rcases legacy_executes [] hreaches with ⟨s, hs, hdb⟩
  rw [← hdb]
  exact h s hs

theorem reaches_allowed_agent (hmode : explorationMode fileMode input ≠ "legacy")
    (h : OnAllowed input.allowedDbIds
      (SqlAgentRunner.invoke u failingWorld fileMode rt counter input first second).executed)
    (hopened : (rt.initSession input.tenantId input.mcpServerName first).2 = false)
    (htools : (rt.initSession input.tenantId input.mcpServerName first).1.dbTools ≠ [])
    (hno : input.dbId = "") {dbId : String}
    (hreaches : DatabaseTool.Reaches u
      (rt.initSession input.tenantId input.mcpServerName first).1 counter input second dbId) :
    dbId ∈ input.allowedDbIds := by
  have hnotools : ¬ (rt.initSession input.tenantId input.mcpServerName
      first).1.dbTools.isEmpty = true := by
    intro hnil
    exact htools (List.isEmpty_iff.mp hnil)
  unfold SqlAgentRunner.invoke at h
  simp only [if_neg hreaches.1, if_neg hmode, hopened, Bool.false_eq_true, if_false,
    if_neg hnotools, hno, ne_eq, not_true_eq_false, false_and, and_false] at h
  rcases explore_failingWorld (rt.initSession input.tenantId input.mcpServerName first).1
    counter input second with ⟨executed, heq⟩
  rw [heq] at h
  rcases legacy_executes executed hreaches with ⟨s, hs, hdb⟩
  rw [← hdb]
  exact h s hs

end Necessary

/-- A call with a whitelist keeps to it, in every world it may meet, exactly
    when the older tool would. -/
theorem invoke_onAllowed_iff (fileMode : Option String) (rt : DbRuntime)
    (counter : ExploreCounter) (input : SqlAgentInput) (hallowed : input.allowedDbIds ≠ [])
    (first second : InitOutcome) :
    (∀ w, OnAllowed input.allowedDbIds
      (SqlAgentRunner.invoke u w fileMode rt counter input first second).executed) ↔
      Guarded u fileMode rt counter input first second := by
  unfold Guarded
  by_cases hmode : explorationMode fileMode input = "legacy"
  · rw [if_pos hmode]
    constructor
    · intro h dbId hreaches
      exact reaches_allowed_legacy hmode (h failingWorld) hreaches
    · intro h w
      exact invoke_onAllowed_legacy hmode h
  · rw [if_neg hmode]
    constructor
    · intro h opened hopened htools hno dbId hreaches
      exact reaches_allowed_agent hmode (h failingWorld) hopened htools hno hreaches
    · intro h w
      exact invoke_onAllowed_agent hmode hallowed h

/-- A server with two databases. -/
def plantTools : List McpTool :=
  [{ name := "query_plant", description := .str "设备与工单" },
    { name := "query_sales", description := .str "销售订单" }]

/-- A question about sales, for the sales database. -/
def salesQuestion : SqlAgentInput := { query := "本月销售额", allowedDbIds := ["sales"] }

/-- The older tool finds the sales database too. -/
theorem invoke_onAllowed_salesQuestion :
    salesQuestion.allowedDbIds ≠ [] ∧
      ∀ w, OnAllowed ["sales"] (SqlAgentRunner.invoke default w none {} {} salesQuestion
        (.listed plantTools) (.listed plantTools)).executed := by
  have hallowed : salesQuestion.allowedDbIds ≠ [] := by decide
  refine ⟨hallowed, (invoke_onAllowed_iff default none {} {} salesQuestion hallowed
    (.listed plantTools) (.listed plantTools)).mpr ?_⟩
  unfold Guarded
  rw [if_neg (by decide)]
  intro opened _ _ _ dbId hreaches
  have htarget : targetDatabase default
      ((DbRuntime.initSession {} "" "database_mcp_server" (.listed plantTools)).1.initSession ""
        "database_mcp_server" (.listed plantTools)).1 salesQuestion = .ok (some "sales") := by
    decide +kernel
  have hdb := hreaches.2.2.2.1.symm.trans htarget
  rw [Option.some.inj (Except.ok.inj hdb)]
  exact List.mem_singleton_self _

/-- A question about machines, for the sales database. -/
def plantQuestion : SqlAgentInput := { query := "设备停机时间", allowedDbIds := ["sales"] }

/-- Without a model the call is handed to the older tool, which runs its
    statement on the database of the machines; and so it does when it is asked
    for. -/
theorem plant_queried :
    (SqlAgentRunner.invoke default failingWorld none {} {} plantQuestion
      (.listed plantTools) (.listed plantTools)).executed =
        [⟨"sales", "SELECT 1"⟩, ⟨"plant", "SELECT 1"⟩] ∧
    (SqlAgentRunner.invoke default failingWorld none {} {}
      { plantQuestion with explorationMode := some "legacy", dbId := "plant" }
      (.listed plantTools) (.listed plantTools)).executed = [⟨"plant", "SELECT 1"⟩] ∧
    ¬ OnAllowed plantQuestion.allowedDbIds (SqlAgentRunner.invoke default failingWorld none {} {}
      plantQuestion (.listed plantTools) (.listed plantTools)).executed := by
  have hqueried : (SqlAgentRunner.invoke default failingWorld none {} {} plantQuestion
      (.listed plantTools) (.listed plantTools)).executed =
        [⟨"sales", "SELECT 1"⟩, ⟨"plant", "SELECT 1"⟩] := by
    decide +kernel
  refine ⟨hqueried, by decide +kernel, ?_⟩
  intro hon
  rw [hqueried] at hon
  have hmem : "plant" ∈ plantQuestion.allowedDbIds := hon ⟨"plant", "SELECT 1"⟩ (by decide)
  exact absurd hmem (by decide)

end AgenticRag

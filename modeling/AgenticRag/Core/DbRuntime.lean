import AgenticRag.Lib.PyVal

/-!
# The Database Runtime

The layer all database paths share. There is one runtime for the process. It
holds the session with the MCP server that was opened last, and a table of
the database tools the servers have advertised: a tool to query a database,
one to list its tables and one to describe a table, each under a name made of
a prefix and the id of the database.

What the process meets outside is a parameter: whether the server is known,
whether a session can be opened, and which tools it lists. `InitOutcome` is
the answer to one attempt.

## Main definitions

* `McpSession`: A session, and the tenant it was created for.
* `DbOp`, `DbRuntime.callSession`: The calls of the tools.

## Theorems

* `mem_keys_registerTools`: What registering a list of tools adds.
* `mem_listDatabases`: The databases that are listed.
-/

namespace AgenticRag

open Py Ordered

/-- A tool an MCP server advertises. -/
structure McpTool where
  name : String
  description : Val := .none

/-- What is kept of a database tool. -/
structure ToolInfo where
  description : Val
  dbId : String

/-- A session with an MCP server, and the tenant it was created for. -/
structure McpSession where
  tenantId : String
  serverName : String
  deriving DecidableEq, Repr

/-- A session and the tools it knows. -/
structure DbRuntime where
  mcpSession : Option McpSession := none
  dbTools : List (String × ToolInfo) := []
  dbConfig : List (String × Dict) := []

/-- What an attempt to open a session meets: the server is not known, no
    session can be created, the session cannot list its tools, or it lists
    them. -/
inductive InitOutcome where
  | notFound
  | refused
  | listFailed
  | listed (tools : List McpTool)

/-- Names a tool that runs queries. -/
def queryPrefix : String := "query_"

/-- Names a tool that lists tables. -/
def listTablesPrefix : String := "list_tables_"

/-- Names a tool that describes a table. -/
def describeTablePrefix : String := "describe_table_"

/-- Whether a tool's name marks it as a database tool. -/
def isDbTool (name : String) : Bool :=
  startsWith name queryPrefix || startsWith name listTablesPrefix ||
    startsWith name describeTablePrefix

/-- Register a tool, if it is a database tool. Its database is what follows
    the first underscore of its name. -/
def registerTool (dbTools : List (String × ToolInfo)) (tool : McpTool) :
    List (String × ToolInfo) :=
  if isDbTool tool.name then
    dictSet tool.name ⟨tool.description, afterFirst tool.name '_'⟩ dbTools
  else dbTools

/-- The tools of a server, registered in turn. -/
def registerTools (dbTools : List (String × ToolInfo)) (tools : List McpTool) :
    List (String × ToolInfo) :=
  tools.foldl registerTool dbTools

namespace DbRuntime

/-- Open a session. The second component tells whether the attempt raised. The
    session is in place before its tools are asked for, and tools registered
    earlier stay. -/
def initSession (rt : DbRuntime) (tenantId mcpServerName : String) (outcome : InitOutcome) :
    DbRuntime × Bool :=
  let opened : DbRuntime := { rt with mcpSession := some ⟨tenantId, mcpServerName⟩ }
  match outcome with
  | .notFound => (rt, true)
  | .refused => (rt, true)
  | .listFailed => (opened, true)
  | .listed tools => ({ opened with dbTools := registerTools rt.dbTools tools }, false)

/-- The membership test of the runtime's operations. -/
def hasTool (rt : DbRuntime) (name : String) : Bool :=
  decide (name ∈ rt.dbTools.map Prod.fst)

/-- The database can be queried. -/
def validateDatabase (rt : DbRuntime) (dbId : String) : Bool :=
  rt.hasTool (queryPrefix ++ dbId)

/-- The ids of the databases with a query tool. -/
def dbIds (rt : DbRuntime) : List String :=
  ((rt.dbTools.filter (fun t => startsWith t.1 queryPrefix)).map (fun t => t.2.dbId)).filter
    (· ≠ "")

/-- The description of a database: the configured one, or else that of its
    query tool. -/
def describe (rt : DbRuntime) (dbId : String) : Val :=
  let configured := (((rt.dbConfig.lookup dbId).getD []).lookup "description").getD (.str "")
  if configured.truthy then configured
  else
    match rt.dbTools.lookup (queryPrefix ++ dbId) with
    | some info => if info.description.truthy then info.description else .str ""
    | none => .str ""

/-- The visible databases, sorted by id, with their descriptions. -/
def listDatabases (rt : DbRuntime) : List (String × Val) :=
  (rt.dbIds.dedup.insertionSort (fun a b => a ≤ b)).map (fun dbId => (dbId, rt.describe dbId))

end DbRuntime

/-- The operations that call a tool of a database. -/
inductive DbOp where
  | listTables
  | describeTable
  | executeSql
  deriving DecidableEq, Repr

/-- The prefix of an operation's tools. -/
def DbOp.toolPrefix : DbOp → String
  | .listTables => listTablesPrefix
  | .describeTable => describeTablePrefix
  | .executeSql => queryPrefix

/-- The session an operation calls its tool on. There is none where the tool
    is not registered, and the operation raises. -/
def DbRuntime.callSession (rt : DbRuntime) (op : DbOp) (dbId : String) : Option McpSession :=
  if rt.hasTool (op.toolPrefix ++ dbId) then rt.mcpSession else none

section Registered

theorem mem_keys_registerTool (dbTools : List (String × ToolInfo)) (tool : McpTool)
    (name : String) :
    name ∈ (registerTool dbTools tool).map Prod.fst ↔
      name ∈ dbTools.map Prod.fst ∨ (isDbTool name = true ∧ name = tool.name) := by
  unfold registerTool
  by_cases hdb : isDbTool tool.name = true
  · rw [if_pos hdb, mem_keys_dictSet]
    constructor
    · rintro (rfl | hold)
      · exact .inr ⟨hdb, rfl⟩
      · exact .inl hold
    · rintro (hold | ⟨-, rfl⟩)
      · exact .inr hold
      · exact .inl rfl
  · rw [if_neg hdb]
    constructor
    · exact .inl
    · rintro (hold | ⟨hname, rfl⟩)
      · exact hold
      · exact absurd hname hdb

/-- Registering a list of tools adds the database tools among them. -/
theorem mem_keys_registerTools (dbTools : List (String × ToolInfo)) (tools : List McpTool)
    (name : String) :
    name ∈ (registerTools dbTools tools).map Prod.fst ↔
      name ∈ dbTools.map Prod.fst ∨ (isDbTool name = true ∧ name ∈ tools.map McpTool.name) := by
  unfold registerTools
  induction tools generalizing dbTools with
  | nil => simp
  | cons tool rest ih =>
      rw [List.foldl_cons, ih, mem_keys_registerTool, List.map_cons, List.mem_cons, or_assoc,
        ← and_or_left]

/-- Every tool is registered under the database its name says. -/
def WellRegistered (dbTools : List (String × ToolInfo)) : Prop :=
  ∀ t ∈ dbTools, isDbTool t.1 = true ∧ t.2.dbId = afterFirst t.1 '_'

theorem wellRegistered_registerTools {dbTools : List (String × ToolInfo)}
    (h : WellRegistered dbTools) (tools : List McpTool) :
    WellRegistered (registerTools dbTools tools) := by
  unfold registerTools
  induction tools generalizing dbTools with
  | nil => exact h
  | cons tool rest ih =>
      refine ih ?_
      unfold registerTool
      by_cases hdb : isDbTool tool.name = true
      · rw [if_pos hdb]
        intro t ht
        rcases mem_dictSet _ _ _ _ ht with rfl | hold
        · exact ⟨hdb, rfl⟩
        · exact h t hold
      · rw [if_neg hdb]
        exact h

/-- The id behind a prefix that ends at its first underscore. -/
theorem afterFirst_query (dbId : String) : afterFirst (queryPrefix ++ dbId) '_' = dbId := by
  unfold afterFirst
  rw [String.toList_append]
  exact String.ofList_toList

/-- A database is listed when its id is not empty and its query tool is
    registered. -/
theorem mem_dbIds {rt : DbRuntime} (h : WellRegistered rt.dbTools) (dbId : String) :
    dbId ∈ rt.dbIds ↔ dbId ≠ "" ∧ rt.validateDatabase dbId = true := by
  unfold DbRuntime.dbIds DbRuntime.validateDatabase DbRuntime.hasTool
  rw [List.mem_filter, List.mem_map, decide_eq_true_eq, decide_eq_true_eq, List.mem_map]
  constructor
  · rintro ⟨⟨t, ht, rfl⟩, hne⟩
    rcases List.mem_filter.mp ht with ⟨hmem, hquery⟩
    refine ⟨hne, t, hmem, ?_⟩
    -- The name is the prefix and an id, and the id is what was registered.
    rcases exists_of_startsWith hquery with ⟨rest, hrest⟩
    rw [(h t hmem).2, hrest, afterFirst_query]
  · rintro ⟨hne, t, hmem, hname⟩
    refine ⟨⟨t, List.mem_filter.mpr ⟨hmem, ?_⟩, ?_⟩, hne⟩
    · rw [hname]
      exact startsWith_append _ _
    · rw [(h t hmem).2, hname, afterFirst_query]

theorem mem_listDatabases {rt : DbRuntime} (h : WellRegistered rt.dbTools) (dbId : String) :
    dbId ∈ rt.listDatabases.map Prod.fst ↔ dbId ≠ "" ∧ rt.validateDatabase dbId = true := by
  rw [DbRuntime.listDatabases, List.map_map, ← mem_dbIds h]
  simp

end Registered

end AgenticRag

import AgenticRag.Core.RestRuntime
import AgenticRag.Lib.Driven

/-!
# Tenants and the Shared Runtimes

The database runtime and the REST runtime are shared by all requests of the
process, whoever their tenant is. Each holds one session, and the database
runtime one table of tools. This module asks what a request can rely on.

The table first. Opening a session adds the tools it lists and removes none,
so the databases that are visible afterwards are those of the session exactly
when it lists everything that was ever registered (`visible_iff_advertised`).

Then the session. A request opens one and uses it later, with waits in
between, and the runtime may have been given another session meanwhile.
`SharedState.step` is one request moving from one wait to the next, a run is any
interleaving of such steps, and every call of a tool is recorded with the
session it was sent on. A run is calm when no session is put in the place of
another while a request of a different tenant may still call. In a calm run
every call goes out on a session of its own tenant (`sessions_isolated`); in
one that is not, `session_of_other_tenant`.

## Main definitions

* `InitCall`, `runInits`: A sequence of sessions on the database runtime.
* `Isolated`: The invariant.

## Theorems

* `visible_iff_advertised`: When the visible databases are the session's.
* `step_isolated`: A calm step keeps the invariant.
* `sessions_isolated`: What holds in every calm run.
-/

namespace AgenticRag

open Py Ordered

section Visible

/-- A call of `init_session`, with what it meets. -/
structure InitCall where
  tenantId : String
  mcpServerName : String
  outcome : InitOutcome

/-- The tools a call gets to see. -/
def InitCall.tools (call : InitCall) : List McpTool :=
  match call.outcome with
  | .listed tools => tools
  | _ => []

/-- An opening of a session. -/
def runInit (rt : DbRuntime) (call : InitCall) : DbRuntime :=
  (rt.initSession call.tenantId call.mcpServerName call.outcome).1

/-- Openings in turn. -/
def runInits (rt : DbRuntime) (calls : List InitCall) : DbRuntime :=
  calls.foldl runInit rt

/-- Whether a list of tools has one of that name. -/
def Advertises (tools : List McpTool) (name : String) : Prop :=
  name ∈ tools.map McpTool.name

/-- The visible databases are exactly those of a tool list: in the listing, in
    the validation, and in the tests of the three operations. -/
def Exact (rt : DbRuntime) (tools : List McpTool) : Prop :=
  (∀ dbId, dbId ∈ rt.listDatabases.map Prod.fst ↔
      dbId ≠ "" ∧ Advertises tools (queryPrefix ++ dbId)) ∧
    (∀ dbId, rt.validateDatabase dbId = true ↔ Advertises tools (queryPrefix ++ dbId)) ∧
    ∀ (op : DbOp) dbId, rt.hasTool (op.toolPrefix ++ dbId) = true ↔
      Advertises tools (op.toolPrefix ++ dbId)

/-- A call registers the database tools it gets to see. -/
theorem mem_keys_runInit (rt : DbRuntime) (call : InitCall) (name : String) :
    name ∈ (runInit rt call).dbTools.map Prod.fst ↔
      name ∈ rt.dbTools.map Prod.fst ∨
        (isDbTool name = true ∧ Advertises call.tools name) := by
  rcases call with ⟨tenantId, mcpServerName, outcome⟩
  unfold runInit InitCall.tools DbRuntime.initSession Advertises
  cases outcome with
  | notFound => simp
  | refused => simp
  | listFailed => simp
  | listed tools => exact mem_keys_registerTools rt.dbTools tools name

/-- A sequence of calls registers the database tools any of them got to
    see. -/
theorem mem_keys_runInits (rt : DbRuntime) (calls : List InitCall) (name : String) :
    name ∈ (runInits rt calls).dbTools.map Prod.fst ↔
      name ∈ rt.dbTools.map Prod.fst ∨
        (isDbTool name = true ∧ ∃ call ∈ calls, Advertises call.tools name) := by
  unfold runInits
  induction calls generalizing rt with
  | nil => simp
  | cons call rest ih =>
      rw [List.foldl_cons, ih, mem_keys_runInit, or_assoc, ← and_or_left]
      simp only [List.mem_cons, exists_eq_or_imp]

theorem wellRegistered_runInit {rt : DbRuntime} (h : WellRegistered rt.dbTools)
    (call : InitCall) : WellRegistered (runInit rt call).dbTools := by
  rcases call with ⟨tenantId, mcpServerName, outcome⟩
  unfold runInit DbRuntime.initSession
  cases outcome with
  | notFound => exact h
  | refused => exact h
  | listFailed => exact h
  | listed tools => exact wellRegistered_registerTools h tools

theorem wellRegistered_runInits {rt : DbRuntime} (h : WellRegistered rt.dbTools)
    (calls : List InitCall) : WellRegistered (runInits rt calls).dbTools := by
  unfold runInits
  induction calls generalizing rt with
  | nil => exact h
  | cons call rest ih => exact ih (wellRegistered_runInit h call)

/-- The name of a tool the operations ask for is that of a database tool. -/
theorem isDbTool_toolPrefix (op : DbOp) (dbId : String) :
    isDbTool (op.toolPrefix ++ dbId) = true := by
  unfold isDbTool
  cases op <;> simp [DbOp.toolPrefix, startsWith_append]

/-- Every database tool is one the operations ask for. -/
theorem exists_toolPrefix {name : String} (h : isDbTool name = true) :
    ∃ (op : DbOp) (dbId : String), name = op.toolPrefix ++ dbId := by
  unfold isDbTool at h
  rw [Bool.or_eq_true, Bool.or_eq_true] at h
  rcases h with (hquery | hlist) | hdescribe
  · exact ⟨.executeSql, exists_of_startsWith hquery⟩
  · exact ⟨.listTables, exists_of_startsWith hlist⟩
  · exact ⟨.describeTable, exists_of_startsWith hdescribe⟩

/-- After a session was opened and its tools were listed, the visible databases
    are the session's exactly when it lists every database tool that was
    listed before. -/
theorem visible_iff_advertised (dbConfig : List (String × Dict)) (history : List InitCall)
    (tenantId mcpServerName : String) (tools : List McpTool) :
    Exact ((runInits { dbConfig := dbConfig } history).initSession tenantId mcpServerName
        (.listed tools)).1 tools ↔
      ∀ call ∈ history, ∀ tool ∈ call.tools, isDbTool tool.name = true →
        Advertises tools tool.name := by
  have hlast : ((runInits { dbConfig := dbConfig } history).initSession tenantId mcpServerName
      (.listed tools)).1 =
      runInits { dbConfig := dbConfig } (history ++ [⟨tenantId, mcpServerName, .listed tools⟩]) := by
    unfold runInits
    rw [List.foldl_append]
    rfl
  rw [hlast]
  -- What is registered is what was listed before or is listed now.
  have hreg : ∀ name, isDbTool name = true →
      (name ∈ (runInits { dbConfig := dbConfig }
          (history ++ [⟨tenantId, mcpServerName, .listed tools⟩])).dbTools.map Prod.fst ↔
        (∃ call ∈ history, Advertises call.tools name) ∨ Advertises tools name) := by
    intro name hname
    rw [mem_keys_runInits]
    simp [hname, InitCall.tools, or_and_right, exists_or]
  have hwell : WellRegistered (runInits { dbConfig := dbConfig }
      (history ++ [⟨tenantId, mcpServerName, .listed tools⟩])).dbTools :=
    wellRegistered_runInits (fun t ht => by cases ht) _
  generalize runInits { dbConfig := dbConfig }
    (history ++ [⟨tenantId, mcpServerName, .listed tools⟩]) = rt at hreg hwell
  constructor
  · rintro ⟨-, -, hops⟩ call hcall tool htool hname
    rcases exists_toolPrefix hname with ⟨op, dbId, hop⟩
    rw [hop]
    refine (hops op dbId).mp (decide_eq_true ?_)
    rw [← hop]
    exact (hreg tool.name hname).mpr (.inl ⟨call, hcall, List.mem_map_of_mem htool⟩)
  · intro hall
    have hops : ∀ (op : DbOp) dbId, rt.hasTool (op.toolPrefix ++ dbId) = true ↔
        Advertises tools (op.toolPrefix ++ dbId) := by
      intro op dbId
      unfold DbRuntime.hasTool
      rw [decide_eq_true_eq, hreg _ (isDbTool_toolPrefix op dbId)]
      constructor
      · rintro (⟨call, hcall, hmem⟩ | hnow)
        · rcases List.mem_map.mp hmem with ⟨tool, htool, heq⟩
          rw [← heq]
          exact hall call hcall tool htool (heq ▸ isDbTool_toolPrefix op dbId)
        · exact hnow
      · exact .inr
    refine ⟨?_, hops .executeSql, hops⟩
    intro dbId
    rw [mem_listDatabases hwell]
    exact and_congr_right (fun _ => hops .executeSql dbId)

/-- One tenant's server has a sales database and another's a staff database. -/
def salesTools : List McpTool := [{ name := "query_sales" }, { name := "list_tables_sales" }]

/-- The tools of another server. -/
def staffTools : List McpTool := [{ name := "query_staff" }]

/-- After the second tenant's session was opened, the first tenant's database
    is still there. -/
theorem sales_still_visible :
    let rt := runInits {} [⟨"a", "database_mcp_server", .listed salesTools⟩,
      ⟨"b", "database_mcp_server", .listed staffTools⟩]
    rt.mcpSession = some ⟨"b", "database_mcp_server"⟩ ∧ rt.validateDatabase "sales" = true ∧
      rt.listDatabases.map Prod.fst = ["sales", "staff"] ∧
      ¬ Advertises staffTools "query_sales" ∧ ¬ Exact rt staffTools := by
  have hvalid : (runInits {} [⟨"a", "database_mcp_server", .listed salesTools⟩,
      ⟨"b", "database_mcp_server", .listed staffTools⟩]).validateDatabase "sales" = true := by
    decide
  have hnot : ¬ Advertises staffTools "query_sales" := by
    unfold Advertises
    decide
  refine ⟨rfl, hvalid, by decide, hnot, ?_⟩
  intro hexact
  exact hnot ((hexact.2.1 "sales").mp hvalid)

end Visible

section Isolation

/-- Where a request is with the database runtime: it has no session, it has
    seen to one, or it waits for the answer to a call. -/
inductive DbPhase where
  | idle
  | ready
  | waiting
  deriving DecidableEq, Repr

/-- Where a request is in `execute`: outside, waiting for the answer to an
    attempt, or in the pause before one. -/
inductive RestPhase where
  | idle
  | waiting (attempt : Nat) (maxRetries : Int)
  | sleeping (attempt : Nat) (maxRetries : Int)
  deriving DecidableEq, Repr

/-- A call of a tool, and the session it was sent on. -/
structure ToolCall where
  request : Nat
  session : McpSession

/-- The two runtimes, where each request is, and the calls that were made.
    Parallel steps of one request count as requests of their own. -/
structure SharedState where
  db : DbRuntime := {}
  rest : RestRuntime := {}
  dbPhase : Nat → DbPhase := fun _ => .idle
  restPhase : Nat → RestPhase := fun _ => .idle
  calls : List ToolCall := []

/-- A request moving from one wait to the next, with what it meets outside. -/
inductive Event where
  | dbInit (r : Nat) (mcpServerName : String) (outcome : InitOutcome)
  | dbCall (r : Nat) (op : DbOp) (dbId : String)
  | dbReturn (r : Nat)
  | dbFinish (r : Nat)
  | restStart (r : Nat) (mcpServerName : String) (maxRetries : Int) (now : ℚ)
      (available : Bool)
  | restReturn (r : Nat)
  | restFail (r : Nat) (now : ℚ)
  | restRetry (r : Nat) (now : ℚ)

namespace SharedState

/-- Record a call. -/
def record (s : SharedState) (r : Nat) (session : McpSession) : SharedState :=
  { s with calls := s.calls ++ [⟨r, session⟩] }

/-- A request goes on. -/
def setDbPhase (s : SharedState) (r : Nat) (phase : DbPhase) : SharedState :=
  { s with dbPhase := Function.update s.dbPhase r phase }

/-- A request goes on. -/
def setRestPhase (s : SharedState) (r : Nat) (phase : RestPhase) : SharedState :=
  { s with restPhase := Function.update s.restPhase r phase }

/-- After a failed attempt `execute` pauses, or gives up after the last. -/
def failAttempt (s : SharedState) (r attempt : Nat) (maxRetries : Int) (now : ℚ) : SharedState :=
  if (attempt : Int) < maxRetries then s.setRestPhase r (.sleeping (attempt + 1) maxRetries)
  else { s with rest := s.rest.recordFailure now }.setRestPhase r .idle

/-- Open a session on the database runtime. A request whose attempt raises
    ends there. -/
def dbInit (s : SharedState) (tenantId : String) (r : Nat) (mcpServerName : String)
    (outcome : InitOutcome) : SharedState :=
  let opened := s.db.initSession tenantId mcpServerName outcome
  { s with db := opened.1 }.setDbPhase r (if opened.2 then .idle else .ready)

/-- Call a tool of a database on the session the runtime holds. Without the
    tool the operation raises and nothing is sent. -/
def dbCall (s : SharedState) (r : Nat) (op : DbOp) (dbId : String) : SharedState :=
  match s.db.callSession op dbId with
  | some session => (s.record r session).setDbPhase r .waiting
  | none => s

/-- Enter `execute` and make the first attempt. With a negative number of
    retries there is none. -/
def restStart (s : SharedState) (tenantId : String) (r : Nat) (mcpServerName : String)
    (maxRetries : Int) (now : ℚ) (available : Bool) : SharedState :=
  let started := s.rest.start tenantId mcpServerName now available
  match started.2 with
  | none => { s with rest := started.1 }
  | some session =>
      if 0 ≤ maxRetries then
        ({ s with rest := started.1 }.record r session).setRestPhase r (.waiting 0 maxRetries)
      else { s with rest := started.1.recordFailure now }

/-- The attempt after a pause, on the session the runtime then holds. -/
def restRetry (s : SharedState) (r attempt : Nat) (maxRetries : Int) (now : ℚ) : SharedState :=
  match s.rest.mcpSession with
  | some session => (s.record r session).setRestPhase r (.waiting attempt maxRetries)
  | none => s.failAttempt r attempt maxRetries now

end SharedState

variable (tenantOf : Nat → String)

/-- One step of a request. There is none where the request is not at a point
    to take it. -/
def SharedState.step (s : SharedState) : Event → Option SharedState
  | .dbInit r mcpServerName outcome =>
      match s.dbPhase r with
      | .waiting => none
      | _ => some (s.dbInit (tenantOf r) r mcpServerName outcome)
  | .dbCall r op dbId =>
      match s.dbPhase r with
      | .ready => some (s.dbCall r op dbId)
      | _ => none
  | .dbReturn r =>
      match s.dbPhase r with
      | .waiting => some (s.setDbPhase r .ready)
      | _ => none
  | .dbFinish r =>
      match s.dbPhase r with
      | .ready => some (s.setDbPhase r .idle)
      | _ => none
  | .restStart r mcpServerName maxRetries now available =>
      match s.restPhase r with
      | .idle => some (s.restStart (tenantOf r) r mcpServerName maxRetries now available)
      | _ => none
  | .restReturn r =>
      match s.restPhase r with
      | .waiting _ _ => some ({ s with rest := s.rest.recordSuccess }.setRestPhase r .idle)
      | _ => none
  | .restFail r now =>
      match s.restPhase r with
      | .waiting attempt maxRetries => some (s.failAttempt r attempt maxRetries now)
      | _ => none
  | .restRetry r now =>
      match s.restPhase r with
      | .sleeping attempt maxRetries => some (s.restRetry r attempt maxRetries now)
      | _ => none

/-- Whether a session is put in place. -/
def InitOutcome.Opens : InitOutcome → Prop
  | .notFound => False
  | .refused => False
  | .listFailed => True
  | .listed _ => True

/-- Whether a request may still make a call before it looks at the session
    again. -/
def RestPhase.MayRetry : RestPhase → Prop
  | .idle => False
  | .waiting attempt maxRetries => (attempt : Int) < maxRetries
  | .sleeping _ _ => True

/-- No session is put in the place of one that a request of another tenant may
    still call on. -/
def Calm (s : SharedState) : Event → Prop
  | .dbInit r _ outcome =>
      outcome.Opens → ∀ q, q ≠ r → s.dbPhase q ≠ .idle → tenantOf q = tenantOf r
  | .restStart r mcpServerName _ now available =>
      s.rest.Replaces (tenantOf r) mcpServerName now available →
        ∀ q, q ≠ r → (s.restPhase q).MayRetry → tenantOf q = tenantOf r
  | _ => True

/-- Each request that may call finds a session of its own tenant, and every
    call that was made went out on one. -/
structure Isolated (s : SharedState) : Prop where
  db : ∀ r, s.dbPhase r ≠ .idle →
    ∀ session, s.db.mcpSession = some session → session.tenantId = tenantOf r
  kept : s.rest.SessionKept
  rest : ∀ r, (s.restPhase r).MayRetry →
    ∀ session, s.rest.mcpSession = some session → session.tenantId = tenantOf r
  calls : ∀ call ∈ s.calls, call.session.tenantId = tenantOf call.request

section Invariant

variable {tenantOf} {s : SharedState}

theorem Isolated.record (h : Isolated tenantOf s) (r : Nat) (session : McpSession)
    (hown : session.tenantId = tenantOf r) : Isolated tenantOf (s.record r session) := by
  refine ⟨h.db, h.kept, h.rest, ?_⟩
  intro call hcall
  rcases List.mem_append.mp hcall with hold | hnew
  · exact h.calls call hold
  · rw [List.mem_singleton.mp hnew]
    exact hown

/-- A request may enter a phase with calls ahead if the session is its
    tenant's. -/
theorem Isolated.setDbPhase (h : Isolated tenantOf s) (r : Nat) (phase : DbPhase)
    (hown : phase ≠ .idle →
      ∀ session, s.db.mcpSession = some session → session.tenantId = tenantOf r) :
    Isolated tenantOf (s.setDbPhase r phase) := by
  refine ⟨?_, h.kept, h.rest, h.calls⟩
  intro q hq
  by_cases hqr : q = r
  · rw [hqr] at hq ⊢
    exact hown (by simpa [SharedState.setDbPhase] using hq)
  · exact h.db q (by simpa [SharedState.setDbPhase, hqr] using hq)

theorem Isolated.setRestPhase (h : Isolated tenantOf s) (r : Nat) (phase : RestPhase)
    (hown : phase.MayRetry →
      ∀ session, s.rest.mcpSession = some session → session.tenantId = tenantOf r) :
    Isolated tenantOf (s.setRestPhase r phase) := by
  refine ⟨h.db, h.kept, ?_, h.calls⟩
  intro q hq
  by_cases hqr : q = r
  · rw [hqr] at hq ⊢
    exact hown (by simpa [SharedState.setRestPhase] using hq)
  · exact h.rest q (by simpa [SharedState.setRestPhase, hqr] using hq)

/-- The breaker's counts are no part of the invariant. -/
theorem Isolated.setRest (h : Isolated tenantOf s) {rest : RestRuntime} (hkept : rest.SessionKept)
    (hsession : rest.mcpSession = s.rest.mcpSession) :
    Isolated tenantOf { s with rest := rest } := by
  refine ⟨h.db, hkept, ?_, h.calls⟩
  intro r hr session hs
  exact h.rest r hr session (hsession ▸ hs)

theorem Isolated.failAttempt (h : Isolated tenantOf s) (r attempt : Nat) (maxRetries : Int)
    (now : ℚ)
    (hown : (attempt : Int) < maxRetries →
      ∀ session, s.rest.mcpSession = some session → session.tenantId = tenantOf r) :
    Isolated tenantOf (s.failAttempt r attempt maxRetries now) := by
  unfold SharedState.failAttempt
  by_cases hleft : (attempt : Int) < maxRetries
  · rw [if_pos hleft]
    exact h.setRestPhase r _ (fun _ => hown hleft)
  · rw [if_neg hleft]
    have hcounted := h.setRest (h.kept.recordFailure now)
      (RestRuntime.recordFailure_mcpSession now)
    exact hcounted.setRestPhase r _ (fun hidle => hidle.elim)

/-- A session opened calmly is of the tenant of every request that may
    call. -/
theorem Isolated.dbInit (h : Isolated tenantOf s) (r : Nat) (mcpServerName : String)
    (outcome : InitOutcome) (hcalm : Calm tenantOf s (.dbInit r mcpServerName outcome)) :
    Isolated tenantOf (s.dbInit (tenantOf r) r mcpServerName outcome) := by
  refine ⟨?_, h.kept, h.rest, h.calls⟩
  intro q hq session hsession
  dsimp only [SharedState.dbInit, SharedState.setDbPhase, DbRuntime.initSession] at hq hsession
  by_cases hqr : q = r
  · -- The request itself goes on only with the session it opened.
    rw [hqr] at hq ⊢
    cases outcome with
    | notFound => simp at hq
    | refused => simp at hq
    | listFailed => simp at hq
    | listed tools =>
        simp only [Option.some.injEq] at hsession
        rw [← hsession]
  · rw [Function.update_of_ne hqr] at hq
    cases outcome with
    | notFound => exact h.db q hq session hsession
    | refused => exact h.db q hq session hsession
    | listFailed =>
        simp only [Option.some.injEq] at hsession
        rw [← hsession]
        exact (hcalm trivial q hqr hq).symm
    | listed tools =>
        simp only [Option.some.injEq] at hsession
        rw [← hsession]
        exact (hcalm trivial q hqr hq).symm

theorem Isolated.dbCall (h : Isolated tenantOf s) (r : Nat) (op : DbOp) (dbId : String)
    (hready : s.dbPhase r = .ready) : Isolated tenantOf (s.dbCall r op dbId) := by
  have hown : ∀ session, s.db.mcpSession = some session → session.tenantId = tenantOf r :=
    h.db r (by rw [hready]; simp)
  unfold SharedState.dbCall
  split
  next session hcalled =>
    have hheld : s.db.mcpSession = some session := by
      unfold DbRuntime.callSession at hcalled
      split_ifs at hcalled
      exact hcalled
    exact (h.record r session (hown session hheld)).setDbPhase r _ (fun _ => hown)
  next => exact h

/-- A calm start of `execute` leaves every request that may retry with a
    session of its tenant. -/
theorem Isolated.restStart (h : Isolated tenantOf s) (r : Nat) (mcpServerName : String)
    (maxRetries : Int) (now : ℚ) (available : Bool)
    (hcalm : Calm tenantOf s (.restStart r mcpServerName maxRetries now available)) :
    Isolated tenantOf
      (s.restStart (tenantOf r) r mcpServerName maxRetries now available) := by
  have hkept := h.kept.start (tenantOf r) mcpServerName now available
  have hstarted : Isolated tenantOf
      { s with rest := (s.rest.start (tenantOf r) mcpServerName now available).1 } := by
    refine ⟨h.db, hkept, ?_, h.calls⟩
    intro q hq session hsession
    rcases RestRuntime.start_mcpSession hsession with hold | ⟨hreplaces, htenant⟩
    · exact h.rest q hq session hold
    · by_cases hqr : q = r
      · rw [hqr]
        exact htenant
      · rw [htenant]
        exact (hcalm hreplaces q hqr hq).symm
  unfold SharedState.restStart
  dsimp only
  split
  next => exact hstarted
  next session hsent =>
    rcases RestRuntime.start_tenantId h.kept hsent with ⟨htenant, hheld⟩
    split_ifs
    · refine (hstarted.record r session htenant).setRestPhase r _ ?_
      intro _ session' hsession'
      have hsame : some session = some session' := hheld.symm.trans hsession'
      rw [← Option.some.inj hsame]
      exact htenant
    · exact hstarted.setRest (hkept.recordFailure now) (RestRuntime.recordFailure_mcpSession now)

theorem Isolated.restRetry (h : Isolated tenantOf s) (r attempt : Nat) (maxRetries : Int)
    (now : ℚ) (hsleeping : s.restPhase r = .sleeping attempt maxRetries) :
    Isolated tenantOf (s.restRetry r attempt maxRetries now) := by
  have hown : ∀ session, s.rest.mcpSession = some session → session.tenantId = tenantOf r :=
    h.rest r (by rw [hsleeping]; trivial)
  unfold SharedState.restRetry
  split
  next session hheld =>
    exact (h.record r session (hown session hheld)).setRestPhase r _ (fun _ => hown)
  next => exact h.failAttempt r attempt maxRetries now (fun _ => hown)

/-- A calm step keeps the invariant. -/
theorem step_isolated (s : SharedState) (e : Event) (s' : SharedState)
    (hcalm : Calm tenantOf s e) (hstep : s.step tenantOf e = some s') (h : Isolated tenantOf s) :
    Isolated tenantOf s' := by
  cases e with
  | dbInit r mcpServerName outcome =>
      have hnext : s' = s.dbInit (tenantOf r) r mcpServerName outcome := by
        dsimp only [SharedState.step] at hstep
        split at hstep
        · cases hstep
        · exact (Option.some.inj hstep).symm
      rw [hnext]
      exact h.dbInit r mcpServerName outcome hcalm
  | dbCall r op dbId =>
      dsimp only [SharedState.step] at hstep
      split at hstep
      next hready =>
        rw [← Option.some.inj hstep]
        exact h.dbCall r op dbId hready
      next => cases hstep
  | dbReturn r =>
      dsimp only [SharedState.step] at hstep
      split at hstep
      next hwaiting =>
        rw [← Option.some.inj hstep]
        exact h.setDbPhase r _ (fun _ => h.db r (by rw [hwaiting]; simp))
      next => cases hstep
  | dbFinish r =>
      dsimp only [SharedState.step] at hstep
      split at hstep
      next =>
        rw [← Option.some.inj hstep]
        exact h.setDbPhase r _ (fun hidle => absurd rfl hidle)
      next => cases hstep
  | restStart r mcpServerName maxRetries now available =>
      dsimp only [SharedState.step] at hstep
      split at hstep
      next =>
        rw [← Option.some.inj hstep]
        exact h.restStart r mcpServerName maxRetries now available hcalm
      next => cases hstep
  | restReturn r =>
      dsimp only [SharedState.step] at hstep
      split at hstep
      next =>
        rw [← Option.some.inj hstep]
        exact (h.setRest h.kept.recordSuccess rfl).setRestPhase r _ (fun hidle => hidle.elim)
      next => cases hstep
  | restFail r now =>
      dsimp only [SharedState.step] at hstep
      split at hstep
      next attempt maxRetries hwaiting =>
        rw [← Option.some.inj hstep]
        exact h.failAttempt r attempt maxRetries now
          (fun hleft => h.rest r (by rw [hwaiting]; exact hleft))
      next => cases hstep
  | restRetry r now =>
      dsimp only [SharedState.step] at hstep
      split at hstep
      next attempt maxRetries hsleeping =>
        rw [← Option.some.inj hstep]
        exact h.restRetry r attempt maxRetries now hsleeping
      next => cases hstep

theorem isolated_initial : Isolated tenantOf {} := by
  refine ⟨?_, ?_, ?_, ?_⟩
  · intro r hr
    exact absurd rfl hr
  · intro session hsession
    cases hsession
  · intro r hr
    exact hr.elim
  · intro call hcall
    cases hcall

end Invariant

/-- In every calm run every call of a tool goes out on a session that was
    created for the tenant of the request. -/
theorem sessions_isolated (events : List Event) (s : SharedState)
    (h : Driven.Run (SharedState.step tenantOf) (Calm tenantOf) {} events s) :
    ∀ call ∈ s.calls, call.session.tenantId = tenantOf call.request := by
  have hisolated : Isolated tenantOf s := h.invariant step_isolated isolated_initial
  exact hisolated.calls

/-- Two requests of two tenants. -/
def tenantOfRequest (r : Nat) : String := if r = 0 then "a" else "b"

/-- Two requests in turn. -/
def inTurn : List Event :=
  [.dbInit 0 "database_mcp_server" (.listed salesTools),
    .dbCall 0 .executeSql "sales",
    .dbReturn 0,
    .dbFinish 0,
    .dbInit 1 "database_mcp_server" (.listed staffTools),
    .dbCall 1 .executeSql "staff"]

/-- One request after the other is calm. -/
theorem sessions_isolated_inTurn :
    ∃ s, Driven.Run (SharedState.step tenantOfRequest) (Calm tenantOfRequest) {} inTurn s ∧
      s.calls.map (fun call => (call.request, call.session.tenantId)) = [(0, "a"), (1, "b")] ∧
      ∀ call ∈ s.calls, call.session.tenantId = tenantOfRequest call.request := by
  have hrun : ∃ s,
      Driven.Run (SharedState.step tenantOfRequest) (Calm tenantOfRequest) {} inTurn s ∧
        s.calls.map (fun call => (call.request, call.session.tenantId)) =
          [(0, "a"), (1, "b")] := by
    refine ⟨_, .cons (fun _ q _ hq => absurd rfl hq) rfl (.cons trivial rfl (.cons trivial rfl
      (.cons trivial rfl (.cons ?_ rfl (.cons trivial rfl (.nil _)))))), ?_⟩
    · -- When the second session is opened, nobody else has one.
      intro _ q _ hq
      by_cases hq0 : q = 0
      · rw [hq0] at hq
        exact absurd rfl hq
      · refine absurd ?_ hq
        exact (Function.update_of_ne hq0 _ _).trans ((Function.update_of_ne hq0 _ _).trans
          ((Function.update_of_ne hq0 _ _).trans (Function.update_of_ne hq0 _ _)))
    · decide
  rcases hrun with ⟨s, hrun, hcalls⟩
  exact ⟨s, hrun, hcalls, sessions_isolated tenantOfRequest inTurn s hrun⟩

/-- Two requests, interleaved. -/
def interleaved : List Event :=
  [.dbInit 0 "database_mcp_server" (.listed salesTools),
    .dbInit 1 "database_mcp_server" (.listed staffTools),
    .dbCall 0 .executeSql "sales",
    .restStart 0 "erp_mcp_server" 2 0 true,
    .restFail 0 1,
    .restStart 1 "erp_mcp_server" 2 1 true,
    .restRetry 0 2]

/-- The first tenant's query and its repeated call of a service both go out on
    the session of the second. -/
theorem session_of_other_tenant :
    ∃ s, Driven.Run (SharedState.step tenantOfRequest) (fun _ _ => True) {} interleaved s ∧
      s.calls.map (fun call => (call.request, call.session.tenantId)) =
        [(0, "b"), (0, "a"), (1, "b"), (0, "b")] ∧
      ¬ ∀ call ∈ s.calls, call.session.tenantId = tenantOfRequest call.request := by
  refine ⟨_, .cons trivial rfl (.cons trivial rfl (.cons trivial rfl (.cons trivial rfl
    (.cons trivial rfl (.cons trivial rfl (.cons trivial rfl (.nil _))))))), ?_, ?_⟩
  · decide
  · decide

end Isolation

end AgenticRag

import AgenticRag.Core.DbRuntime

/-!
# The REST Runtime

The one runtime of the process for calls of REST services through an MCP
server. It keeps the session it opened last, under the tenant and the server
it was opened for, and opens another when a request comes for a different
one. Around the calls there is a circuit breaker: after five failures in a
row requests are turned away for a minute.

`execute` is cut where it waits. `RestRuntime.start` is what it does before
its first wait: look at the breaker, see to the session and send the first
call. A failed call is followed by a pause and sent again, on whatever
session the runtime then holds; `RestRuntime.callSession` is that session.
Where no other request comes in between, `RestRuntime.execute` is the whole of
it. What it meets outside is part of the `Call`: which servers are found, how
each attempt ends, and when.

A session is opened with the address of a server. The service of the MCP
servers hands back the list of the records it has found, and a list has no
address: `RestRuntime.serverUrl` raises whatever was found, so `execute` opens
no session. `start` leaves open whether one can be opened, since the session
it would be replacing is what it is about.

## Main definitions

* `RestRuntime`: The runtime.
* `RestRuntime.execute`: A request from its beginning to its end.
-/

namespace AgenticRag

/-- The number of failures in a row that opens the breaker. -/
def circuitBreakerThreshold : Nat := 5

/-- The seconds an open breaker waits. -/
def circuitBreakerTimeoutS : ℚ := 60

/-- A session and its breaker. -/
structure RestRuntime where
  mcpSession : Option McpSession := none
  sessionTenantId : String := ""
  sessionServerName : String := ""
  circuitOpen : Bool := false
  circuitOpenAt : ℚ := 0
  consecutiveFailures : Nat := 0

namespace RestRuntime

/-- Whether the session that is there was opened for this tenant and server. -/
def Fits (rt : RestRuntime) (tenantId mcpServerName : String) : Prop :=
  rt.mcpSession.isSome ∧ rt.sessionTenantId = tenantId ∧ rt.sessionServerName = mcpServerName

instance (rt : RestRuntime) (tenantId mcpServerName : String) :
    Decidable (rt.Fits tenantId mcpServerName) :=
  inferInstanceAs (Decidable (_ ∧ _ ∧ _))

/-- Open a session unless the one there is fits. `available` tells whether the
    server is known and a session with it can be created; the second component
    tells whether the attempt raised. -/
def initSession (rt : RestRuntime) (tenantId mcpServerName : String) (available : Bool) :
    RestRuntime × Bool :=
  if rt.Fits tenantId mcpServerName then (rt, false)
  else if available then
    ({ rt with
        mcpSession := some ⟨tenantId, mcpServerName⟩
        sessionTenantId := tenantId
        sessionServerName := mcpServerName }, false)
  else (rt, true)

/-- Whether requests are turned away. A breaker that has waited long enough
    closes. -/
def checkCircuitBreaker (rt : RestRuntime) (now : ℚ) : Bool × RestRuntime :=
  if ¬ rt.circuitOpen then (false, rt)
  else if circuitBreakerTimeoutS ≤ now - rt.circuitOpenAt then
    (false, { rt with circuitOpen := false, consecutiveFailures := 0 })
  else (true, rt)

/-- Closes the breaker. -/
def recordSuccess (rt : RestRuntime) : RestRuntime :=
  { rt with consecutiveFailures := 0, circuitOpen := false }

/-- Counts a failure. -/
def recordFailure (rt : RestRuntime) (now : ℚ) : RestRuntime :=
  let failures := rt.consecutiveFailures + 1
  if circuitBreakerThreshold ≤ failures then
    { rt with consecutiveFailures := failures, circuitOpen := true, circuitOpenAt := now }
  else { rt with consecutiveFailures := failures }

/-- What `execute` does before it first waits. The second component is the
    session the first call is sent on; there is none where it raised. -/
def start (rt : RestRuntime) (tenantId mcpServerName : String) (now : ℚ) (available : Bool) :
    RestRuntime × Option McpSession :=
  let breaker := rt.checkCircuitBreaker now
  if breaker.1 then (breaker.2, none)
  else
    let opened := breaker.2.initSession tenantId mcpServerName available
    if opened.2 then (opened.1.recordFailure now, none)
    else if opened.1.mcpSession.isNone then (opened.1.recordFailure now, none)
    else (opened.1, opened.1.mcpSession)

/-- Whether `execute` puts a new session in the place of the one that is
    there. -/
def Replaces (rt : RestRuntime) (tenantId mcpServerName : String) (now : ℚ) (available : Bool) :
    Prop :=
  (rt.checkCircuitBreaker now).1 = false ∧ ¬ rt.Fits tenantId mcpServerName ∧ available = true

/-- The session is the one the tenant and the server are kept for. -/
def SessionKept (rt : RestRuntime) : Prop :=
  ∀ session, rt.mcpSession = some session →
    session = ⟨rt.sessionTenantId, rt.sessionServerName⟩

section Kept

variable {rt : RestRuntime}

@[simp] theorem recordFailure_mcpSession (now : ℚ) :
    (rt.recordFailure now).mcpSession = rt.mcpSession := by
  unfold recordFailure
  dsimp only
  split_ifs <;> rfl

@[simp] theorem checkCircuitBreaker_mcpSession (now : ℚ) :
    (rt.checkCircuitBreaker now).2.mcpSession = rt.mcpSession := by
  unfold checkCircuitBreaker
  split_ifs <;> rfl

theorem SessionKept.recordSuccess (h : rt.SessionKept) : rt.recordSuccess.SessionKept := h

theorem SessionKept.recordFailure (h : rt.SessionKept) (now : ℚ) :
    (rt.recordFailure now).SessionKept := by
  unfold RestRuntime.recordFailure
  dsimp only
  split_ifs <;> exact h

theorem SessionKept.checkCircuitBreaker (h : rt.SessionKept) (now : ℚ) :
    (rt.checkCircuitBreaker now).2.SessionKept := by
  unfold RestRuntime.checkCircuitBreaker
  split_ifs <;> exact h

theorem SessionKept.initSession (h : rt.SessionKept) (tenantId mcpServerName : String)
    (available : Bool) : (rt.initSession tenantId mcpServerName available).1.SessionKept := by
  unfold RestRuntime.initSession
  split_ifs
  · exact h
  · intro session hsession
    exact (Option.some.inj hsession).symm
  · exact h

theorem SessionKept.start (h : rt.SessionKept) (tenantId mcpServerName : String) (now : ℚ)
    (available : Bool) : (rt.start tenantId mcpServerName now available).1.SessionKept := by
  unfold RestRuntime.start
  have hopened := (h.checkCircuitBreaker now).initSession tenantId mcpServerName available
  simp only
  split_ifs
  · exact h.checkCircuitBreaker now
  · exact hopened.recordFailure now
  · exact hopened.recordFailure now
  · exact hopened

/-- A session that was seen to belongs to the tenant. -/
theorem initSession_tenantId (h : rt.SessionKept) {tenantId mcpServerName : String}
    {available : Bool} (hok : (rt.initSession tenantId mcpServerName available).2 = false)
    {session : McpSession}
    (hsession : (rt.initSession tenantId mcpServerName available).1.mcpSession = some session) :
    session.tenantId = tenantId := by
  unfold RestRuntime.initSession at hok hsession
  split_ifs at hok hsession with hfits havailable
  · rw [h session hsession]
    exact hfits.2.1
  · rw [← Option.some.inj hsession]

/-- The first call goes out on a session of the tenant, and the runtime keeps
    that session. -/
theorem start_tenantId (h : rt.SessionKept) {tenantId mcpServerName : String} {now : ℚ}
    {available : Bool} {session : McpSession}
    (hsent : (rt.start tenantId mcpServerName now available).2 = some session) :
    session.tenantId = tenantId ∧
      (rt.start tenantId mcpServerName now available).1.mcpSession = some session := by
  unfold RestRuntime.start at hsent ⊢
  simp only at hsent ⊢
  split_ifs at hsent ⊢ with hbreaker hraised hnone
  have hok := Bool.eq_false_iff.mpr hraised
  exact ⟨initSession_tenantId (h.checkCircuitBreaker now) hok hsent, hsent⟩

/-- The session afterwards is the one from before, or it was put in its place
    for this tenant. -/
theorem start_mcpSession {tenantId mcpServerName : String} {now : ℚ} {available : Bool}
    {session : McpSession}
    (hafter : (rt.start tenantId mcpServerName now available).1.mcpSession = some session) :
    rt.mcpSession = some session ∨
      (rt.Replaces tenantId mcpServerName now available ∧ session.tenantId = tenantId) := by
  by_cases hbreaker : (rt.checkCircuitBreaker now).1 = true
  · unfold RestRuntime.start at hafter
    simp only [if_pos hbreaker, checkCircuitBreaker_mcpSession] at hafter
    exact .inl hafter
  have hopened : ((rt.checkCircuitBreaker now).2.initSession tenantId mcpServerName
      available).1.mcpSession = some session := by
    unfold RestRuntime.start at hafter
    simp only [if_neg hbreaker] at hafter
    split_ifs at hafter
    · rwa [recordFailure_mcpSession] at hafter
    · rwa [recordFailure_mcpSession] at hafter
    · exact hafter
  -- The breaker leaves alone what the session is compared by.
  have hfits : (rt.checkCircuitBreaker now).2.Fits tenantId mcpServerName ↔
      rt.Fits tenantId mcpServerName := by
    unfold RestRuntime.checkCircuitBreaker
    split_ifs <;> rfl
  unfold RestRuntime.initSession at hopened
  split_ifs at hopened with hfit havailable
  · rw [checkCircuitBreaker_mcpSession] at hopened
    exact .inl hopened
  · refine .inr ⟨⟨Bool.eq_false_iff.mpr hbreaker, fun hf => hfit (hfits.mpr hf), havailable⟩, ?_⟩
    rw [← Option.some.inj hopened]
  · rw [checkCircuitBreaker_mcpSession] at hopened
    exact .inl hopened

end Kept

section Execute

open Py

/-- How an attempt to call the tool ends. An answer that cannot be read raises
    as well. -/
inductive Attempt where
  | answered (response : Dict)
  | timedOut
  | raised (text : String)
  | cancelled

/-- A record of an MCP server, as far as it is read. -/
structure McpServer where
  url : String

/-- What `MCPServerService.get_by_name_and_tenant` hands back beside its mark:
    the records that were found, or nothing where the query raised. There may
    be no connection to the database in the first place. -/
inductive Found where
  | records (servers : List McpServer)
  | nothing
  | raised (text : String)

/-- The address of the server that was looked up, or what is said where it
    cannot be read. Records that are there are a list, which has no address. -/
def serverUrl (tenantId mcpServerName : String) (found : Found) : Except String String :=
  match found with
  | .raised text => .error text
  | .records (_ :: _) => .error "'list' object has no attribute 'url'"
  | _ => .error ("MCP Server not found: " ++ mcpServerName ++ " (tenant=" ++ tenantId ++ ")")

/-- What is said where the address cannot be read. -/
def refusal : Except String String → String
  | .error text => text
  | .ok _ => ""

/-- A request, and what it meets. -/
structure Call where
  tenantId : String := ""
  mcpServerName : String := "erp_mcp_server"
  payload : Option Dict := none
  headers : Option Dict := none
  timeoutMs : Int := 30000
  maxRetries : Int := 2
  /-- The servers that are found under the name and the tenant. -/
  found : Found := .nothing
  /-- When the breaker is asked, and when the request ends. -/
  asked : ℚ
  ended : ℚ
  attempts : Nat → Attempt := fun _ => .cancelled
  /-- Whether the request is cancelled in the pause behind an attempt. -/
  pauseCancelled : Nat → Bool := fun _ => false

/-- How a request ends. -/
inductive Outcome where
  | rejected
  | answered (response : Dict)
  | failed (text : String) (ended : ℚ)
  | unserializable (ended : ℚ)
  | cancelled (ended : ℚ)

/-- The payload and the headers are sent as JSON. -/
def Call.Serializable (c : Call) : Prop :=
  (∀ payload ∈ c.payload, Val.isJson (.dict payload)) ∧
    ∀ headers ∈ c.headers, Val.isJson (.dict headers)

instance (c : Call) : Decidable c.Serializable :=
  inferInstanceAs (Decidable (_ ∧ _))

/-- What an attempt leaves as the last error, unless the request ends with it. -/
def Call.lastError (c : Call) (attempt : Nat) : Option String :=
  match c.attempts attempt with
  | .answered _ => none
  | .cancelled => none
  | .timedOut => some ("Timeout after " ++ toString c.timeoutMs ++ "ms (attempt " ++
      toString (attempt + 1) ++ "/" ++ toString (c.maxRetries + 1) ++ ")")
  | .raised text => some text

/-- The attempts from one on, and how many there were. -/
def Call.callFrom (c : Call) : Nat → Nat → String → Outcome × Nat
  | 0, _, lastError => (.failed ("All retries exhausted: " ++ lastError) c.ended, 0)
  | remaining + 1, attempt, _ =>
      match c.attempts attempt, c.lastError attempt with
      | .answered response, _ => (.answered response, 1)
      | _, none => (.cancelled c.ended, 1)
      | _, some error =>
          if remaining ≠ 0 ∧ c.pauseCancelled attempt then (.cancelled c.ended, 1)
          else
            let rest := c.callFrom remaining (attempt + 1) error
            (rest.1, rest.2 + 1)

/-- What is recorded of the attempts. -/
def record (rt : RestRuntime) : Outcome → RestRuntime
  | .answered _ => rt.recordSuccess
  | .failed _ ended => rt.recordFailure ended
  | _ => rt

/-- The runtime after a request, how the request ended, and how often the
    service was called. -/
structure Execution where
  runtime : RestRuntime
  outcome : Outcome
  sent : Nat

/-- One call of the service. -/
def execute (rt : RestRuntime) (c : Call) : Execution :=
  let breaker := rt.checkCircuitBreaker c.asked
  if breaker.1 then ⟨breaker.2, .rejected, 0⟩
  else
    let url := serverUrl c.tenantId c.mcpServerName c.found
    let opened := breaker.2.initSession c.tenantId c.mcpServerName url.isOk
    if opened.2 then
      ⟨opened.1.recordFailure c.ended,
        .failed ("Failed to init MCP session: " ++ refusal url) c.ended, 0⟩
    else if opened.1.mcpSession.isNone then
      ⟨opened.1.recordFailure c.ended, .failed "MCP session is not initialized" c.ended, 0⟩
    -- The arguments are written outside of the attempts.
    else if ¬ c.Serializable then ⟨opened.1, .unserializable c.ended, 0⟩
    else
      let called := c.callFrom (c.maxRetries + 1).toNat 0 "None"
      ⟨opened.1.record called.1, called.1, called.2⟩

end Execute

end RestRuntime

end AgenticRag

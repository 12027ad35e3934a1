import Mathlib.Data.Rat.Defs
import Mathlib.Algebra.Order.Ring.Rat

/-!
# The Circuit Breaker

The breaker in front of a service. While it is closed, requests go through,
and enough failures in a row open it. While it is open, requests are refused,
until the time to recover has passed. The next request is then let through as
a probe and the breaker is half open. Enough successes close it, and one
failure opens it again.

Each of its three methods runs under a lock of the process: the shared state
is loaded, the fields are changed, and the state is saved, once, twice or not
at all. What happens between the load and the saves is an `Effect`. Where the
state is kept only in the process, the effect is all there is
(`Traffic.step`). Where it is kept in Redis, the load and each save are steps
of their own, and those of other processes may come between
(`Shared.step`).

Both systems also count what their properties speak of. No method reads these
counts.

## Main definitions

* `Config`, `CircuitBreaker`: The fields of a breaker.
* `Shared`, `Shared.step`: The processes that share a breaker.
-/

namespace AgenticRag

namespace Breaker

section Methods

/-- The states of a breaker. -/
inductive CircuitBreakerState where
  | closed
  | opened
  | halfOpen
  deriving DecidableEq, Repr

/-- How a breaker is set. -/
structure Config where
  failureThreshold : Int := 5
  recoveryTimeout : Int := 60
  halfOpenMaxCalls : Int := 3
  deriving DecidableEq

/-- A breaker with its counters. -/
structure CircuitBreaker where
  state : CircuitBreakerState := .closed
  failureCount : Int := 0
  successCount : Int := 0
  openedAt : ℚ := 0
  lastFailureAt : ℚ := 0
  totalFailures : Int := 0
  totalSuccesses : Int := 0
  deriving DecidableEq

/-- What a method makes of the loaded fields: the fields, how often they are
    saved, and what it returns. -/
structure Effect where
  breaker : CircuitBreaker
  saves : Nat
  allowed : Bool := false

variable (config : Config)

/-- Ask for a request. -/
def allowRequest (now : ℚ) (b : CircuitBreaker) : Effect :=
  match b.state with
  | .opened =>
      if (config.recoveryTimeout : ℚ) ≤ now - b.openedAt then
        { breaker := { b with state := .halfOpen, failureCount := 0, successCount := 0 },
          saves := 1, allowed := true }
      else { breaker := b, saves := 0, allowed := false }
  | .halfOpen =>
      { breaker := b, saves := 0, allowed := decide (b.successCount < config.halfOpenMaxCalls) }
  | .closed => { breaker := b, saves := 0, allowed := true }

/-- A changed state is saved twice. -/
def saved (before after : CircuitBreaker) : Effect :=
  { breaker := after, saves := if before.state ≠ after.state then 2 else 1 }

/-- Record a request that succeeded. -/
def recordSuccess (b : CircuitBreaker) : Effect :=
  let counted := { b with totalSuccesses := b.totalSuccesses + 1 }
  match b.state with
  | .halfOpen =>
      if config.halfOpenMaxCalls ≤ b.successCount + 1 then
        saved b { counted with state := .closed, failureCount := 0, successCount := 0 }
      else saved b { counted with successCount := b.successCount + 1 }
  | .closed => saved b { counted with failureCount := 0 }
  -- A request that was let through before may end while the breaker is open.
  | .opened => saved b counted

/-- The clock is read once for the failure and again where the breaker
    opens. -/
def recordFailure (now later : ℚ) (b : CircuitBreaker) : Effect :=
  let counted := { b with totalFailures := b.totalFailures + 1, lastFailureAt := now }
  match b.state with
  | .halfOpen =>
      saved b { counted with
        state := .opened, failureCount := 1, successCount := 0, openedAt := later }
  | .closed =>
      if config.failureThreshold ≤ b.failureCount + 1 then
        saved b { counted with
          state := .opened, failureCount := b.failureCount + 1, openedAt := later }
      else saved b { counted with failureCount := b.failureCount + 1 }
  | .opened => saved b counted

end Methods

section Traffic

/-- The requests to one breaker. Those that were let through and have not
    ended are kept by number: the ones let through since the breaker was last
    half opened, while it is so, and the others. The counts are of the last
    time the breaker was half opened: the requests it let through, and those of
    them that ended before it was closed or opened. -/
structure Traffic where
  breaker : CircuitBreaker := {}
  running : List Nat := []
  probes : List Nat := []
  admitted : Nat := 0
  completed : Nat := 0

/-- A request asks to be let through, or ends, with the clock. -/
inductive Event where
  | ask (request : Nat) (now : ℚ)
  | succeed (request : Nat)
  | fail (request : Nat) (now later : ℚ)

variable (config : Config)

/-- A request that is let through. -/
def Traffic.letIn (t : Traffic) (request : Nat) (b : CircuitBreaker) : Traffic :=
  match t.breaker.state with
  -- The breaker has just been half opened.
  | .opened => { t with
      breaker := b, running := t.probes ++ t.running, probes := [request], admitted := 1,
      completed := 0 }
  | .halfOpen => { t with
      breaker := b, probes := request :: t.probes, admitted := t.admitted + 1 }
  | .closed => { t with breaker := b, running := request :: t.running }

/-- A request that ends. -/
def Traffic.finish (t : Traffic) (request : Nat) (b : CircuitBreaker) : Option Traffic :=
  if request ∈ t.probes then
    let completed := t.completed + 1
    let probes := t.probes.erase request
    -- Once the breaker is no longer half open, the rest are requests like any other.
    if b.state = .halfOpen then
      some { t with breaker := b, probes := probes, completed := completed }
    else
      some { t with
        breaker := b, running := probes ++ t.running, probes := [], completed := completed }
  else if request ∈ t.running then
    let running := t.running.erase request
    if b.state = .halfOpen then some { t with breaker := b, running := running }
    else some { t with breaker := b, running := t.probes ++ running, probes := [] }
  -- Only what was let through ends.
  else none

/-- One method call by one request. -/
def Traffic.step (t : Traffic) : Event → Option Traffic
  | .ask request now =>
      let effect := allowRequest config now t.breaker
      if effect.allowed then some (t.letIn request effect.breaker)
      else some { t with breaker := effect.breaker }
  | .succeed request => t.finish request (recordSuccess config t.breaker).breaker
  | .fail request now later =>
      t.finish request (recordFailure config now later t.breaker).breaker

end Traffic

section Shared

/-- The methods of a breaker. -/
inductive Call where
  | allow
  | success
  | failure
  deriving DecidableEq, Repr

/-- What a call does. -/
def Call.effect (config : Config) (now later : ℚ) (b : CircuitBreaker) : Call → Effect
  | .allow => allowRequest config now b
  | .success => recordSuccess config b
  | .failure => recordFailure config now later b

/-- A method between its load and its last save: the fields as the process
    last read or wrote them, the saves that are left, and whether one was
    made. -/
structure Pending where
  call : Call
  seen : Option CircuitBreaker
  saves : Nat
  wrote : Bool

/-- The processes that share a breaker: the hash in Redis, if there is one,
    the fields each process has, and the method it is in. The counts are of
    the methods that have ended, of those that have saved, and of the failures
    saved since the last success. -/
structure Shared (n : Nat) where
  redis : Option CircuitBreaker
  cached : Fin n → CircuitBreaker
  busy : Fin n → Option Pending
  completed : Call → Nat
  recorded : Call → Nat
  streak : Nat

/-- Before the first call. -/
def Shared.initial (n : Nat) : Shared n where
  redis := none
  cached := fun _ => {}
  busy := fun _ => none
  completed := fun _ => 0
  recorded := fun _ => 0
  streak := 0

/-- A process loads the hash for a method, or saves its fields. -/
inductive Operation (n : Nat) where
  | load (process : Fin n) (call : Call) (now later : ℚ)
  | save (process : Fin n)

/-- An empty hash leaves the fields as they are. -/
def loadState (redis : Option CircuitBreaker) (cached : CircuitBreaker) : CircuitBreaker :=
  redis.getD cached

/-- One more call of a kind. -/
def bump (counts : Call → Nat) (call : Call) : Call → Nat :=
  Function.update counts call (counts call + 1)

/-- The failures in a row after a call. -/
def nextStreak (streak : Nat) : Call → Nat
  | .allow => streak
  | .success => 0
  | .failure => streak + 1

variable (config : Config) {n : Nat}

/-- What a process is about. -/
def Shared.setBusy (s : Shared n) (p : Fin n) (pending : Option Pending) : Shared n :=
  { s with busy := Function.update s.busy p pending }

/-- What a process has read. -/
def Shared.setCached (s : Shared n) (p : Fin n) (b : CircuitBreaker) : Shared n :=
  { s with cached := Function.update s.cached p b }

/-- A call is done. -/
def Shared.complete (s : Shared n) (call : Call) : Shared n :=
  { s with completed := bump s.completed call }

/-- The first save of a method is where it is recorded. -/
def Shared.record (s : Shared n) (pending : Pending) : Shared n :=
  if pending.wrote then s
  else { s with
    recorded := bump s.recorded pending.call, streak := nextStreak s.streak pending.call }

/-- One Redis operation of one process. The lock keeps a process in one method
    at a time. -/
def Shared.step (s : Shared n) : Operation n → Option (Shared n)
  | .load p call now later =>
      match s.busy p with
      | some _ => none
      | none =>
          let effect := call.effect config now later (loadState s.redis (s.cached p))
          let s' := s.setCached p effect.breaker
          if effect.saves = 0 then some (s'.complete call)
          else some (s'.setBusy p (some ⟨call, s.redis, effect.saves, false⟩))
  | .save p =>
      match s.busy p with
      | none => none
      | some pending =>
          let s' := { s.record pending with redis := some (s.cached p) }
          if pending.saves ≤ 1 then some ((s'.setBusy p none).complete pending.call)
          else some (s'.setBusy p (some ⟨pending.call, s'.redis, pending.saves - 1, true⟩))

end Shared

end Breaker

end AgenticRag

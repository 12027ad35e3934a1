import AgenticRag.Core.Plan

/-!
# The Model Router

Where the rules are not sure, a model says where a question is sent. It is asked
behind a circuit breaker. Calls that fail are counted, and when there are enough
of them the breaker opens. The decision of the rules then stands, and the model
is not asked, until the time to recover has passed.

A call can fail in three ways: it takes too long, it raises an exception, or its
answer is not one a decision can be made from. All three leave the decision of
the rules.

What repairs and decodes the answer is a parameter, as is how a text is read
where a number is wanted.

A `Session` is a router in use. Beside the breaker it keeps what the calls since
the last recovery came to. No function of the router reads this.

## Main definitions

* `CircuitBreaker`: The breaker, with its three methods.
* `Session`, `Session.step`, `Session.run`: The questions one after another.
-/

namespace AgenticRag

namespace LlmRouting

open Py Ordered Plan

section Breaker

/-- Stops calls after repeated failures. -/
structure CircuitBreaker where
  failureThreshold : Int := 3
  recoveryTimeoutS : ℚ := 60
  failureCount : Nat := 0
  lastFailureTime : ℚ := 0
  isOpen : Bool := false

/-- Counts a failure. -/
def CircuitBreaker.recordFailure (now : ℚ) (b : CircuitBreaker) : CircuitBreaker :=
  { b with
    failureCount := b.failureCount + 1
    lastFailureTime := now
    isOpen := b.isOpen || b.failureThreshold ≤ (b.failureCount + 1 : Nat) }

/-- Closes the breaker. -/
def CircuitBreaker.recordSuccess (b : CircuitBreaker) : CircuitBreaker :=
  { b with failureCount := 0, isOpen := false }

/-- `can_execute`: whether to call, and the breaker afterwards. -/
def CircuitBreaker.canExecute (now : ℚ) (b : CircuitBreaker) : Bool × CircuitBreaker :=
  if ¬ b.isOpen then (true, b)
  else if b.recoveryTimeoutS < now - b.lastFailureTime then
    (true, { b with isOpen := false, failureCount := 0 })
  else (false, b)

end Breaker

section Parsing

variable (floatOfText : String → Option ℚ)

/-- A number between zero and one. -/
def confidenceOf (q : ℚ) : Except Exc { q : ℚ // 0 ≤ q ∧ q ≤ 1 } :=
  if h : 0 ≤ q ∧ q ≤ 1 then .ok ⟨q, h⟩ else .error .valueError

/-- Reads a number within `[0, 1]`. -/
def confidenceField : Val → Except Exc { q : ℚ // 0 ≤ q ∧ q ≤ 1 }
  | .bool b => confidenceOf (if b then 1 else 0)
  | .int i => confidenceOf i
  | .float q _ => confidenceOf q
  | .str s => match floatOfText s with
    | some q => confidenceOf q
    | none => .error .valueError
  | _ => .error .valueError

/-- Reads one of three words. -/
def complexityField : Val → Except Exc Complexity
  | .str "simple" => .ok .simple
  | .str "moderate" => .ok .moderate
  | .str "complex" => .ok .complex
  | _ => .error .valueError

/-- The targets by name. -/
def targetMap : List (String × Target) :=
  [("database", .database), ("rag", .rag), ("web", .web), ("rest", .rest), ("hybrid", .hybrid),
    ("chitchat", .chitchat)]

/-- `target_map.get(primary_intent, "chitchat")`. What cannot be hashed cannot be
    looked up. -/
def targetOf : Val → Except Exc Target
  | .str s => .ok ((targetMap.lookup s).getD .chitchat)
  | .list _ => .error .typeError
  | .dict _ => .error .typeError
  | _ => .ok .chitchat

/-- `_parse_llm_result`. -/
def parseLlmResult (llmResult : Val) : Except Exc Plan.RouteDecision := do
  let d ← asMapping llmResult
  let target ← targetOf (pyGet d "primary_intent" (.str "chitchat"))
  let confidence ← confidenceField floatOfText (pyGet d "confidence" (.float (1 / 2) "0.5"))
  let reason ← strField (pyGet d "reason" (.str ""))
  let complexity ← complexityField (pyGet d "complexity" (.str "simple"))
  let kbIds ← strsField (pyGet d "kb_ids" (.list []))
  return {
    target := target
    confidence := confidence.val
    source := .llm
    reason := reason
    complexity := complexity
    kbIds := kbIds
    metadata :=
      [("sub_intents", pyGet d "sub_intents" (.list [])),
        ("entities", pyGet d "entities" (.dict [])),
        ("needs_clarification", pyGet d "needs_clarification" (.bool false)),
        ("clarification_question", pyGet d "clarification_question" (.str ""))]
    confidence_nonneg := confidence.property.1
    confidence_le_one := confidence.property.2 }

end Parsing

section Router

/-- What calling the model comes to under its time limit. -/
inductive Called where
  | timeout
  | failed (e : Exc)
  | returned (llmResult : Val)

/-- `_call_llm` under its time limit. -/
def callLlm (repair : String → Except Exc Val) : Reply → Called
  | .timeout => .timeout
  | .raised e => .failed e
  | .content text =>
      if startsWith text "**ERROR**" then .failed .runtimeError
      else
        match repair text with
        | .error e => .failed e
        | .ok v => .returned v

/-- When a decision is taken over. -/
structure ConfidenceThresholds where
  directAdopt : ℚ := 3 / 4
  needsClarification : ℚ := 3 / 5

/-- The router and its breaker. -/
structure LLMRouter where
  circuitBreaker : CircuitBreaker := {}
  confidenceThresholds : ConfidenceThresholds := {}

/-- One question: what the rules decided, what the model does, and when the call
    starts and ends. -/
structure RouteCall where
  ruleDecision : Plan.RouteDecision
  reply : Reply
  start : ℚ
  stop : ℚ

/-- What a question comes to. -/
structure Routed where
  decision : Except Exc Plan.RouteDecision
  circuitBreaker : CircuitBreaker
  contacted : Bool

/-- A decision of the model, marked by how sure it is. -/
def ConfidenceThresholds.mark (t : ConfidenceThresholds) (d : Plan.RouteDecision) :
    Plan.RouteDecision :=
  if t.directAdopt ≤ d.confidence then d
  else if t.needsClarification ≤ d.confidence then
    { d with metadata := dictSet "low_confidence_label" (.bool true) d.metadata }
  else { d with metadata := dictSet "needs_clarification" (.bool true) d.metadata }

variable (repair : String → Except Exc Val) (floatOfText : String → Option ℚ)

/-- Routes a question. -/
def LLMRouter.route (r : LLMRouter) (call : RouteCall) : Routed :=
  match r.circuitBreaker.canExecute call.start with
  | (false, breaker) =>
      { decision := .ok call.ruleDecision, circuitBreaker := breaker, contacted := false }
  | (true, breaker) =>
      match callLlm repair call.reply with
      | .timeout =>
          { decision := .ok call.ruleDecision
            circuitBreaker := breaker.recordFailure call.stop
            contacted := true }
      | .failed _ =>
          { decision := .ok call.ruleDecision
            circuitBreaker := breaker.recordFailure call.stop
            contacted := true }
      | .returned llmResult =>
          -- The success is recorded before the answer is read.
          let breaker := breaker.recordSuccess
          match parseLlmResult floatOfText llmResult with
          | .error _ =>
              { decision := .ok call.ruleDecision
                circuitBreaker := breaker.recordFailure call.stop
                contacted := true }
          | .ok llmDecision =>
              { decision := .ok (r.confidenceThresholds.mark llmDecision)
                circuitBreaker := breaker
                contacted := true }

end Router

section Use

/-- What a call that reached the model came to: no answer, one that could not be
    read, or one that could. -/
inductive Outcome where
  | silent
  | unread
  | read
  deriving DecidableEq, Repr

variable (repair : String → Except Exc Val) (floatOfText : String → Option ℚ)

/-- What the model's part of a call comes to. -/
def outcomeOf (reply : Reply) : Outcome :=
  match callLlm repair reply with
  | .timeout => .silent
  | .failed _ => .silent
  | .returned llmResult =>
      match parseLlmResult floatOfText llmResult with
      | .error _ => .unread
      | .ok _ => .read

/-- A router in use. `outcomes` are those of the calls that reached the model
    since the last recovery, the latest first, and `lastStop` is when the latest
    of them ended. -/
structure Session where
  router : LLMRouter := {}
  outcomes : List Outcome := []
  lastStop : ℚ := 0

/-- One call of a session. -/
def Session.step (s : Session) (call : RouteCall) : Session :=
  let routed := s.router.route repair floatOfText call
  let router := { s.router with circuitBreaker := routed.circuitBreaker }
  if routed.contacted then
    -- A call that reaches the model through an open breaker is a recovery.
    { router := router
      outcomes := outcomeOf repair floatOfText call.reply ::
        (if s.router.circuitBreaker.isOpen then [] else s.outcomes)
      lastStop := call.stop }
  else { s with router := router }

/-- The calls of a session. -/
def Session.run (s : Session) (calls : List RouteCall) : Session :=
  calls.foldl (Session.step repair floatOfText) s

end Use

end LlmRouting

end AgenticRag

import AgenticRag.Core.LlmRouter

/-!
# The Failures a Breaker Counts

Three kinds of failure leave the decision of the rules, and each of them is
recorded with the breaker. A call that is answered is recorded as a success
first, though, and only then is its answer read. One that cannot be read
therefore counts as one failure, whatever came before it (`counted`). As long as
answers that cannot be read keep coming, the breaker stays closed
(`unread_answers_pass`).

`route_run` says when the breaker does its work. After as many failures in a row
as the threshold asks for, the next question in time is held back exactly if none
of these failures but the earliest is such an answer.

## Main definitions

* `counted`: The failures the breaker counts.
* `SilentAfterFirst`: None of the last failures but the earliest was an answer.

## Theorems

* `le_counted_iff`: When enough failures are counted.
* `tracks_step`, `tracks_run`: What the breaker counts, over a run.
* `route_run`: When the breaker holds the next question back.
-/

namespace AgenticRag

namespace LlmRouting

open Py Ordered Plan

section Counting

/-- The failures that are counted after some calls, the latest first. -/
def counted : List Outcome → Nat
  | [] => 0
  | .silent :: outcomes => counted outcomes + 1
  | .unread :: _ => 1
  | .read :: _ => 0

/-- When the last calls failed, all of them are counted exactly if none but the
    earliest was answered. -/
theorem le_counted_iff {k : Nat} {outcomes : List Outcome} (hpos : 0 < k)
    (hlength : k ≤ outcomes.length) (hdegraded : ∀ o ∈ outcomes.take k, o ≠ .read) :
    k ≤ counted outcomes ↔ ∀ o ∈ outcomes.take (k - 1), o = .silent := by
  induction outcomes generalizing k with
  | nil =>
      rw [List.length_nil] at hlength
      omega
  | cons o outcomes ih =>
      rcases Nat.exists_eq_add_of_lt hpos with ⟨j, rfl⟩
      rw [Nat.zero_add] at hlength hdegraded ⊢
      rw [List.take_succ_cons, List.forall_mem_cons] at hdegraded
      rw [Nat.add_sub_cancel]
      cases o with
      | read => exact absurd rfl hdegraded.1
      | unread =>
          cases j with
          | zero => simp [counted]
          | succ j => simp [counted]
      | silent =>
          rw [counted, Nat.add_le_add_iff_right]
          cases j with
          | zero => simp
          | succ j =>
              have hrest := ih (Nat.succ_pos j) (by simpa using hlength) hdegraded.2
              rw [hrest, Nat.succ_sub_one, List.take_succ_cons, List.forall_mem_cons]
              exact (and_iff_right rfl).symm

end Counting

section Steps

variable (repair : String → Except Exc Val) (floatOfText : String → Option ℚ)

/-- The breaker after a call that went through. -/
def CircuitBreaker.after (b : CircuitBreaker) (now : ℚ) : Outcome → CircuitBreaker
  | .silent => b.recordFailure now
  | .unread => b.recordSuccess.recordFailure now
  | .read => b.recordSuccess

variable {r : LLMRouter} {call : RouteCall} {b : CircuitBreaker}

theorem route_held (h : r.circuitBreaker.canExecute call.start = (false, b)) :
    r.route repair floatOfText call =
      { decision := .ok call.ruleDecision, circuitBreaker := b, contacted := false } := by
  rw [LLMRouter.route, h]

/-- A call that goes through leaves the breaker as its outcome says. -/
theorem route_admitted (h : r.circuitBreaker.canExecute call.start = (true, b)) :
    (r.route repair floatOfText call).contacted = true ∧
      (r.route repair floatOfText call).circuitBreaker =
        b.after call.stop (outcomeOf repair floatOfText call.reply) := by
  rw [LLMRouter.route, h, outcomeOf]
  cases callLlm repair call.reply with
  | timeout => exact ⟨rfl, rfl⟩
  | failed e => exact ⟨rfl, rfl⟩
  | returned llmResult =>
      simp only
      cases parseLlmResult floatOfText llmResult with
      | error e => exact ⟨rfl, rfl⟩
      | ok d => exact ⟨rfl, rfl⟩

/-- A question always gets a decision. It is that of the rules unless the answer
    could be read. -/
theorem route_degraded : ∃ d, (r.route repair floatOfText call).decision = .ok d ∧
    (outcomeOf repair floatOfText call.reply ≠ .read → d = call.ruleDecision) := by
  rw [LLMRouter.route, outcomeOf]
  split
  · exact ⟨_, rfl, fun _ => rfl⟩
  · cases callLlm repair call.reply with
    | timeout => exact ⟨_, rfl, fun _ => rfl⟩
    | failed e => exact ⟨_, rfl, fun _ => rfl⟩
    | returned llmResult =>
        simp only
        cases parseLlmResult floatOfText llmResult with
        | error e => exact ⟨_, rfl, fun _ => rfl⟩
        | ok d => exact ⟨_, rfl, fun h => absurd rfl h⟩

/-- A closed breaker lets a call through as it is. -/
theorem canExecute_closed (now : ℚ) (h : b.isOpen = false) : b.canExecute now = (true, b) := by
  rw [CircuitBreaker.canExecute, h]
  exact if_pos Bool.false_ne_true

/-- An open breaker refuses a call, or starts afresh once the time to recover has
    passed. -/
theorem canExecute_opened (now : ℚ) (h : b.isOpen = true) :
    b.canExecute now =
      if b.recoveryTimeoutS < now - b.lastFailureTime then
        (true, { b with isOpen := false, failureCount := 0 })
      else (false, b) := by
  rw [CircuitBreaker.canExecute, h]
  exact if_neg (not_not_intro rfl)

end Steps

section Runs

variable (repair : String → Except Exc Val) (floatOfText : String → Option ℚ)

/-- The breaker of a router in use, by what its calls came to. -/
structure Tracks (threshold : Int) (recovery : ℚ) (s : Session) : Prop where
  threshold_eq : s.router.circuitBreaker.failureThreshold = threshold
  recovery_eq : s.router.circuitBreaker.recoveryTimeoutS = recovery
  count : s.router.circuitBreaker.failureCount = counted s.outcomes
  isOpen : s.router.circuitBreaker.isOpen = true ↔ threshold ≤ (counted s.outcomes : Int)
  last : ∀ o ∈ s.outcomes.head?, o ≠ .read →
    s.router.circuitBreaker.lastFailureTime = s.lastStop

variable {repair floatOfText} {threshold : Int} {recovery : ℚ} {s : Session}

/-- A closed breaker that counts what it should still does so after a call. -/
theorem tracks_after (hpos : 1 ≤ threshold) {b : CircuitBreaker} {outcomes : List Outcome}
    {thresholds : ConfidenceThresholds} (hclosed : b.isOpen = false)
    (hcount : b.failureCount = counted outcomes) (hthreshold : b.failureThreshold = threshold)
    (hrecovery : b.recoveryTimeoutS = recovery) (o : Outcome) (now : ℚ) :
    Tracks threshold recovery
      { router := { circuitBreaker := b.after now o, confidenceThresholds := thresholds }
        outcomes := o :: outcomes
        lastStop := now } := by
  subst hthreshold hrecovery
  cases o with
  | silent =>
      refine ⟨rfl, rfl, congrArg (· + 1) hcount, ?_, fun _ _ _ => rfl⟩
      simp [CircuitBreaker.after, CircuitBreaker.recordFailure, hclosed, hcount, counted]
  | unread =>
      refine ⟨rfl, rfl, rfl, ?_, fun _ _ _ => rfl⟩
      simp [CircuitBreaker.after, CircuitBreaker.recordFailure, CircuitBreaker.recordSuccess,
        counted]
  | read =>
      refine ⟨rfl, rfl, rfl, ?_, fun o ho hread => ?_⟩
      · simp only [CircuitBreaker.after, CircuitBreaker.recordSuccess, counted]
        exact iff_of_false Bool.false_ne_true (by omega)
      · cases ho
        exact absurd rfl hread

theorem tracks_step (hpos : 1 ≤ threshold) (h : Tracks threshold recovery s)
    (call : RouteCall) : Tracks threshold recovery (s.step repair floatOfText call) := by
  unfold Session.step
  cases hopen : s.router.circuitBreaker.isOpen with
  | false =>
      have hroute := route_admitted repair floatOfText (canExecute_closed call.start hopen)
      rw [if_pos hroute.1, hroute.2, if_neg Bool.false_ne_true]
      exact tracks_after hpos hopen h.count h.threshold_eq h.recovery_eq _ _
  | true =>
      have hexec := canExecute_opened call.start hopen
      split_ifs at hexec with htime
      · have hroute := route_admitted repair floatOfText hexec
        rw [if_pos hroute.1, hroute.2, if_pos rfl]
        refine tracks_after hpos ?_ ?_ ?_ ?_ _ _
        · rfl
        · rfl
        · exact h.threshold_eq
        · exact h.recovery_eq
      · rw [route_held repair floatOfText hexec, if_neg Bool.false_ne_true]
        exact h

theorem tracks_run (hpos : 1 ≤ threshold) (h : Tracks threshold recovery s)
    (calls : List RouteCall) : Tracks threshold recovery (s.run repair floatOfText calls) := by
  induction calls generalizing s with
  | nil => exact h
  | cons call calls ih => exact ih (tracks_step hpos h call)

end Runs

section Holding

variable (repair : String → Except Exc Val) (floatOfText : String → Option ℚ)

/-- As many calls as the threshold asks for failed one after another, without a
    recovery in between, and a question comes before the time to recover has
    passed. -/
structure Due (threshold : Int) (recovery : ℚ) (s : Session) (call : RouteCall) : Prop where
  enough : threshold.toNat ≤ s.outcomes.length
  degraded : ∀ o ∈ s.outcomes.take threshold.toNat, o ≠ .read
  inTime : call.start - s.lastStop ≤ recovery

/-- The decision of the rules stands, and the model is not asked. -/
structure HeldBack (s : Session) (call : RouteCall) : Prop where
  contacted : (s.router.route repair floatOfText call).contacted = false
  decision : (s.router.route repair floatOfText call).decision = .ok call.ruleDecision

/-- Of the last failures, none but the earliest was an answer. -/
def SilentAfterFirst (threshold : Int) (s : Session) : Prop :=
  ∀ o ∈ s.outcomes.take (threshold.toNat - 1), o = .silent

/-- A router as it is made from a configuration. -/
def fresh (threshold : Int) (recovery : ℚ) (thresholds : ConfidenceThresholds) : Session where
  router :=
    { circuitBreaker := { failureThreshold := threshold, recoveryTimeoutS := recovery }
      confidenceThresholds := thresholds }

/-- The router after some questions. -/
def used (threshold : Int) (recovery : ℚ) (thresholds : ConfidenceThresholds)
    (calls : List RouteCall) : Session :=
  (fresh threshold recovery thresholds).run repair floatOfText calls

variable {repair floatOfText} {threshold : Int} {recovery : ℚ} {s : Session} {call : RouteCall}

theorem tracks_fresh (hpos : 1 ≤ threshold) (thresholds : ConfidenceThresholds) :
    Tracks threshold recovery (fresh threshold recovery thresholds) where
  threshold_eq := rfl
  recovery_eq := rfl
  count := rfl
  isOpen := iff_of_false Bool.false_ne_true (by simp only [fresh, counted]; omega)
  last := fun _ ho => (nomatch ho)

/-- A question that is due is held back exactly if the breaker is open. -/
theorem heldBack_iff_isOpen (hpos : 1 ≤ threshold) (h : Tracks threshold recovery s)
    (hdue : Due threshold recovery s call) :
    HeldBack repair floatOfText s call ↔ s.router.circuitBreaker.isOpen = true := by
  constructor
  · intro hheld
    by_contra hclosed
    have hroute := route_admitted repair floatOfText
      (canExecute_closed call.start (Bool.eq_false_of_not_eq_true hclosed))
    rw [hheld.contacted] at hroute
    exact Bool.false_ne_true hroute.1
  · intro hopen
    have hlast : s.router.circuitBreaker.lastFailureTime = s.lastStop := by
      have henough := hdue.enough
      have hdegraded := hdue.degraded
      have hlast := h.last
      cases houtcomes : s.outcomes with
      | nil =>
          rw [houtcomes, List.length_nil] at henough
          omega
      | cons o outcomes =>
          rw [houtcomes] at hdegraded hlast
          rw [← Nat.sub_one_add_one (by omega : threshold.toNat ≠ 0), List.take_succ_cons]
            at hdegraded
          exact hlast o rfl (hdegraded o List.mem_cons_self)
    have hexec := canExecute_opened call.start hopen
    rw [hlast, h.recovery_eq, if_neg (not_lt.mpr hdue.inTime)] at hexec
    constructor <;> rw [route_held repair floatOfText hexec]

/-- Over every run, a question gets a decision, that of the rules unless an answer
    could be read. When it is due, it is held back exactly if none of the last
    failures but the earliest was an answer. -/
theorem route_run (repair : String → Except Exc Val) (floatOfText : String → Option ℚ)
    (threshold : Int) (recovery : ℚ) (thresholds : ConfidenceThresholds)
    (hpos : 1 ≤ threshold) (calls : List RouteCall) (call : RouteCall) :
    (∃ d, ((used repair floatOfText threshold recovery thresholds calls).router.route repair
        floatOfText call).decision = .ok d ∧
      (outcomeOf repair floatOfText call.reply ≠ .read → d = call.ruleDecision)) ∧
      (Due threshold recovery (used repair floatOfText threshold recovery thresholds calls) call →
        (HeldBack repair floatOfText
            (used repair floatOfText threshold recovery thresholds calls) call ↔
          SilentAfterFirst threshold
            (used repair floatOfText threshold recovery thresholds calls))) := by
  have htracks : Tracks threshold recovery
      (used repair floatOfText threshold recovery thresholds calls) :=
    tracks_run hpos (tracks_fresh hpos thresholds) calls
  refine ⟨route_degraded repair floatOfText, fun hdue => ?_⟩
  rw [heldBack_iff_isOpen hpos htracks hdue, htracks.isOpen, SilentAfterFirst,
    ← le_counted_iff (by omega) hdue.enough hdue.degraded]
  omega

/-- A decision of the rules. -/
def ruled : Plan.RouteDecision where
  target := .rag
  confidence := 1 / 2
  source := .rule
  confidence_nonneg := by norm_num
  confidence_le_one := by norm_num

/-- A question at the start, and what the model does. -/
def asked (reply : Reply) : RouteCall where
  ruleDecision := ruled
  reply := reply
  start := 0
  stop := 0

/-- What is decoded of any text is an empty array. -/
def arrays : String → Except Exc Val := fun _ => .ok (.list [])

/-- Three times out of time, and the breaker holds the next question back. -/
theorem route_run_timeouts :
    HeldBack arrays (fun _ => none)
      (used arrays (fun _ => none) 3 60 {} (List.replicate 3 (asked .timeout)))
      (asked .timeout) := by
  refine ((route_run arrays (fun _ => none) 3 60 {} (by decide)
    (List.replicate 3 (asked .timeout)) (asked .timeout)).2 ?_).mpr ?_
  · exact ⟨by decide, by decide, (by norm_num : (0 : ℚ) - 0 ≤ 60)⟩
  · unfold SilentAfterFirst
    decide

/-- Three answers that are arrays, and the next question reaches the model. -/
theorem unread_answers_pass :
    ¬ ∀ (calls : List RouteCall) (call : RouteCall),
      Due 3 60 (used arrays (fun _ => none) 3 60 {} calls) call →
        HeldBack arrays (fun _ => none) (used arrays (fun _ => none) 3 60 {} calls) call := by
  intro h
  have hheld := h (List.replicate 3 (asked (.content "[]"))) (asked (.content "[]"))
    ⟨by decide, by decide, (by norm_num : (0 : ℚ) - 0 ≤ 60)⟩
  have hcontacted := hheld.contacted
  revert hcontacted
  decide

end Holding

end LlmRouting

end AgenticRag

import AgenticRag.Core.CircuitBreaker
import AgenticRag.Lib.Driven

/-!
# The Probes of a Half-Open Breaker

How many requests a breaker lets through while it is half open. A request that
asks is let through as long as too few others have succeeded. Those that are
still running are not counted, so requests that come at once all go through
(`flood_not_bounded`).

A run is any order of the requests asking, succeeding and failing. In a run
where no request asks while the running probes and the successes together
reach the bound, the bound is kept, and the breaker is no longer half open once
as many probes have ended (`halfOpen_bounded`). Requests that come one after
the other make such a run.

## Main definitions

* `Bounded`: What a breaker that is half open should keep to.
* `Probing`: The invariant.

## Theorems

* `probing_letIn`: Letting a request through keeps the invariant.
* `probing_finish`: So does the end of a request.
* `halfOpen_bounded`: What holds in every run with room for its probes.
-/

namespace AgenticRag

namespace Breaker

open Driven

variable {config : Config} {t t' : Traffic}

/-- No more requests than the bound were let through since the breaker was
    half opened, and it is half open only until as many of them have ended. -/
structure Bounded (config : Config) (t : Traffic) : Prop where
  admitted_le : 0 < t.admitted → (t.admitted : Int) ≤ config.halfOpenMaxCalls
  leaves : t.breaker.state = .halfOpen → (t.completed : Int) < config.halfOpenMaxCalls

/-- A request asks a half-open breaker only while the probes that are running
    and the successes do not reach the bound, and one that half opens it only
    if the bound allows for a probe. -/
def Spare (config : Config) (t : Traffic) : Event → Prop
  | .ask _ _ =>
      (t.breaker.state = .halfOpen →
        (t.probes.length : Int) + t.breaker.successCount < config.halfOpenMaxCalls) ∧
      (t.breaker.state = .opened → 1 ≤ config.halfOpenMaxCalls)
  | _ => True

instance : (e : Event) → Decidable (Spare config t e)
  | .ask _ _ => inferInstanceAs (Decidable (_ ∧ _))
  | .succeed _ => inferInstanceAs (Decidable True)
  | .fail _ _ _ => inferInstanceAs (Decidable True)

/-- The invariant. While the breaker is half open, each request it let through
    is running or has succeeded. -/
structure Probing (config : Config) (t : Traffic) : Prop where
  admitted_le : 0 < t.admitted → (t.admitted : Int) ≤ config.halfOpenMaxCalls
  covered : t.breaker.state = .halfOpen →
    (t.admitted : Int) ≤ t.breaker.successCount + t.probes.length
  completed_le : t.breaker.state = .halfOpen → (t.completed : Int) ≤ t.breaker.successCount
  succeeded_lt : t.breaker.state = .halfOpen →
    t.breaker.successCount < config.halfOpenMaxCalls

theorem probing_bounded (h : Probing config t) : Bounded config t where
  admitted_le := h.admitted_le
  leaves := by
    intro hstate
    have hcompleted := h.completed_le hstate
    have hsucceeded := h.succeeded_lt hstate
    omega

/-- Of a breaker that is not half open the invariant says only how many were let
    through. -/
theorem probing_of_not_halfOpen
    (hle : 0 < t.admitted → (t.admitted : Int) ≤ config.halfOpenMaxCalls)
    (hstate : t.breaker.state ≠ .halfOpen) : Probing config t where
  admitted_le := hle
  covered := fun h => absurd h hstate
  completed_le := fun h => absurd h hstate
  succeeded_lt := fun h => absurd h hstate

/-- A request that is let through finds the breaker closed, or half open with
    too few successes, or half opens it. -/
theorem allowRequest_cases {now : ℚ} {b : CircuitBreaker}
    (h : (allowRequest config now b).allowed = true) :
    (b.state = .closed ∧ (allowRequest config now b).breaker = b) ∨
    (b.state = .halfOpen ∧ (allowRequest config now b).breaker = b) ∨
    (b.state = .opened ∧ (allowRequest config now b).breaker =
      { b with state := .halfOpen, failureCount := 0, successCount := 0 }) := by
  unfold allowRequest at h ⊢
  cases hstate : b.state with
  | closed => exact Or.inl ⟨rfl, rfl⟩
  | halfOpen => exact Or.inr (Or.inl ⟨rfl, rfl⟩)
  | opened =>
      rw [hstate] at h
      dsimp only at h ⊢
      split at h
      next htime =>
        rw [if_pos htime]
        exact Or.inr (Or.inr ⟨rfl, rfl⟩)
      · cases h

theorem allowRequest_refused {now : ℚ} {b : CircuitBreaker}
    (h : ¬ (allowRequest config now b).allowed = true) :
    (allowRequest config now b).breaker = b := by
  unfold allowRequest at h ⊢
  cases hstate : b.state with
  | closed => rfl
  | halfOpen => rfl
  | opened =>
      rw [hstate] at h
      dsimp only at h ⊢
      split at h
      · exact absurd rfl h
      next htime => rw [if_neg htime]

/-- A success leaves a half-open breaker half open only below the bound. -/
theorem recordSuccess_halfOpen {b : CircuitBreaker}
    (h : (recordSuccess config b).breaker.state = .halfOpen) :
    b.state = .halfOpen ∧
      (recordSuccess config b).breaker.successCount = b.successCount + 1 ∧
      b.successCount + 1 < config.halfOpenMaxCalls := by
  unfold recordSuccess at h ⊢
  cases hstate : b.state with
  | closed =>
      rw [hstate] at h
      cases h
  | opened =>
      rw [hstate] at h
      cases h
  | halfOpen =>
      rw [hstate] at h
      dsimp only at h ⊢
      split at h
      · cases h
      next hbound =>
        rw [if_neg hbound]
        exact ⟨rfl, rfl, Int.not_le.mp hbound⟩

theorem recordFailure_not_halfOpen {now later : ℚ} {b : CircuitBreaker} :
    (recordFailure config now later b).breaker.state ≠ .halfOpen := by
  unfold recordFailure
  intro h
  cases hstate : b.state with
  | closed =>
      rw [hstate] at h
      dsimp only at h
      split at h <;> cases h
  | opened =>
      rw [hstate] at h
      cases h
  | halfOpen =>
      rw [hstate] at h
      cases h

theorem probing_letIn (h : Probing config t) {request : Nat} {now : ℚ}
    (hspare : Spare config t (.ask request now))
    (hallowed : (allowRequest config now t.breaker).allowed = true) :
    Probing config (t.letIn request (allowRequest config now t.breaker).breaker) := by
  rcases hspare with ⟨hroom, hone⟩
  rcases allowRequest_cases hallowed with ⟨hstate, hb⟩ | ⟨hstate, hb⟩ | ⟨hstate, hb⟩
  · rw [hb, Traffic.letIn, hstate]
    exact ⟨h.admitted_le, h.covered, h.completed_le, h.succeeded_lt⟩
  · -- One more probe, which there was room for.
    have hroom := hroom hstate
    have hcovered := h.covered hstate
    rw [hb, Traffic.letIn, hstate]
    refine ⟨?_, ?_, h.completed_le, h.succeeded_lt⟩
    · intro _
      push_cast
      omega
    · intro _
      rw [List.length_cons]
      push_cast
      omega
  · -- The first probe.
    have hone := hone hstate
    rw [hb, Traffic.letIn, hstate]
    refine ⟨fun _ => ?_, fun _ => ?_, fun _ => ?_, fun _ => ?_⟩
    · exact hone
    · simp
    · simp
    · show (0 : Int) < config.halfOpenMaxCalls
      omega

/-- A request that ends keeps the invariant, if the breaker stays half open
    only with one more success. -/
theorem probing_finish (h : Probing config t) {request : Nat} {b : CircuitBreaker}
    (hb : b.state = .halfOpen → t.breaker.state = .halfOpen ∧
      b.successCount = t.breaker.successCount + 1 ∧
      t.breaker.successCount + 1 < config.halfOpenMaxCalls)
    (hfinish : t.finish request b = some t') : Probing config t' := by
  unfold Traffic.finish at hfinish
  split at hfinish
  next hprobe =>
    dsimp only at hfinish
    split at hfinish
    next hstate =>
      -- The probe is no longer running, and has succeeded.
      cases hfinish
      rcases hb hstate with ⟨hbefore, hcount, hbound⟩
      have hcovered := h.covered hbefore
      have hcompleted := h.completed_le hbefore
      have hlength := List.length_erase_add_one hprobe
      refine ⟨h.admitted_le, fun _ => ?_, fun _ => ?_, fun _ => ?_⟩
      · show (t.admitted : Int) ≤ b.successCount + ((t.probes.erase request).length : Int)
        omega
      · show ((t.completed + 1 : Nat) : Int) ≤ b.successCount
        omega
      · show b.successCount < config.halfOpenMaxCalls
        omega
    next hstate =>
      cases hfinish
      exact probing_of_not_halfOpen h.admitted_le hstate
  · split at hfinish
    · dsimp only at hfinish
      split at hfinish
      next hstate =>
        -- A request that was let through before counts as a success.
        cases hfinish
        rcases hb hstate with ⟨hbefore, hcount, hbound⟩
        have hcovered := h.covered hbefore
        have hcompleted := h.completed_le hbefore
        refine ⟨h.admitted_le, fun _ => ?_, fun _ => ?_, fun _ => ?_⟩
        · show (t.admitted : Int) ≤ b.successCount + (t.probes.length : Int)
          omega
        · show (t.completed : Int) ≤ b.successCount
          omega
        · show b.successCount < config.halfOpenMaxCalls
          omega
      next hstate =>
        cases hfinish
        exact probing_of_not_halfOpen h.admitted_le hstate
    · cases hfinish

theorem probing_step (h : Probing config t) {e : Event} (hspare : Spare config t e)
    (hstep : t.step config e = some t') : Probing config t' := by
  cases e with
  | ask request now =>
      rw [Traffic.step] at hstep
      split at hstep
      next hallowed =>
        cases hstep
        exact probing_letIn h hspare hallowed
      next hrefused =>
        rw [allowRequest_refused hrefused] at hstep
        cases hstep
        exact h
  | succeed request => exact probing_finish h (fun hhalf => recordSuccess_halfOpen hhalf) hstep
  | fail request now later =>
      exact probing_finish h (fun hhalf => absurd hhalf recordFailure_not_halfOpen) hstep

/-- In every state of a run that has room for its probes, no more requests than
    the bound were let through since the breaker was half opened, and it is
    half open only until as many of them have ended. -/
theorem halfOpen_bounded {events : List Event}
    (h : Run (Traffic.step config) (Spare config) {} events t) : Bounded config t := by
  refine probing_bounded (h.invariant (fun s e s' hspare hstep hs => probing_step hs hspare hstep) ?_)
  refine probing_of_not_halfOpen (fun h => absurd h (Nat.lt_irrefl 0)) fun h => ?_
  cases h

/-- A breaker that opens at the first failure and closes after two probes, which
    come one after the other. -/
def quickConfig : Config where
  failureThreshold := 1
  recoveryTimeout := 30
  halfOpenMaxCalls := 2

/-- A failure and a recovery. -/
def recoveringTraffic : List Event :=
  [.ask 0 0, .fail 0 1 1, .ask 1 31, .succeed 1, .ask 2 32]

theorem halfOpen_bounded_recovering :
    ∃ t, Run (Traffic.step quickConfig) (Spare quickConfig) {} recoveringTraffic t ∧
      t.admitted = 2 ∧ Bounded quickConfig t := by
  have hadmitted : (follow (Traffic.step quickConfig) (Spare quickConfig) {}
      recoveringTraffic).map Traffic.admitted = some 2 := by decide +kernel
  rcases Option.map_eq_some_iff.mp hadmitted with ⟨t, hfollow, hadmitted⟩
  exact ⟨t, run_of_follow hfollow, hadmitted, halfOpen_bounded (run_of_follow hfollow)⟩

/-- Five failures open the breaker, and four requests come when it has
    recovered. -/
def flood : List Event :=
  [.ask 0 0, .fail 0 0 0, .ask 1 0, .fail 1 0 0, .ask 2 0, .fail 2 0 0, .ask 3 0, .fail 3 0 0,
    .ask 4 0, .fail 4 0 0, .ask 5 60, .ask 6 60, .ask 7 60, .ask 8 60]

/-- All four are let through, where three probes are the bound. -/
theorem flood_not_bounded :
    ∃ t, Run (Traffic.step {}) (fun _ _ => True) {} flood t ∧ t.admitted = 4 ∧
      ¬ Bounded {} t := by
  have hadmitted : (follow (Traffic.step {}) (fun _ _ => True) {} flood).map
      Traffic.admitted = some 4 := by decide +kernel
  rcases Option.map_eq_some_iff.mp hadmitted with ⟨t, hfollow, hadmitted⟩
  refine ⟨t, run_of_follow hfollow, hadmitted, ?_⟩
  intro h
  have hle := h.admitted_le (by omega)
  rw [hadmitted] at hle
  exact absurd hle (by decide)

end Breaker

end AgenticRag

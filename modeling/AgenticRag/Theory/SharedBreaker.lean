import AgenticRag.Core.CircuitBreaker
import AgenticRag.Lib.Driven
import Mathlib.Algebra.BigOperators.Fin

/-!
# A Breaker Shared by Processes

Whether the outcomes that processes record in one breaker all arrive. Each
method loads the hash, changes the fields and saves all of them, and the lock
around it is one of its process only. If the hash changes in between, the save
puts back what was there before, and an outcome is lost (`overlap_loses`). The
same happens at the second save of a state that changed.

A run is any interleaving of the loads and the saves of any number of
processes. In a run where every save finds the hash as the process last read
or wrote it, nothing is lost: the totals in the hash are the outcomes
recorded, and enough failures in a row open the breaker
(`shared_none_lost`).

## Main definitions

* `Undisturbed`: A save finds the hash as the process left it.
* `NoneLost`: What a shared breaker should keep to.

## Theorems

* `ledger_step`: What is recorded has ended, or is in a process.
* `consistent_step`: An undisturbed step keeps the invariant.
* `shared_none_lost`: What holds in every undisturbed run.
-/

namespace AgenticRag

namespace Breaker

open Driven

variable {config : Config} {n : Nat} {s s' : Shared n}

section Tallies

/-- A breaker that agrees with what was recorded: with the totals, and while it
    is closed with the failures in a row, which are too few to open it. -/
structure Tallies (config : Config) (b : CircuitBreaker) (recorded : Call → Nat)
    (streak : Nat) : Prop where
  failures : b.totalFailures = recorded .failure
  successes : b.totalSuccesses = recorded .success
  counted : b.state = .closed → b.failureCount = streak
  below : b.state = .closed → streak = 0 ∨ (streak : Int) < config.failureThreshold

theorem bump_self (counts : Call → Nat) (call : Call) : bump counts call call = counts call + 1 :=
  Function.update_self ..

theorem bump_ne (counts : Call → Nat) {call call' : Call} (h : call' ≠ call) :
    bump counts call call' = counts call' :=
  Function.update_of_ne h ..

variable {b : CircuitBreaker} {recorded : Call → Nat} {streak : Nat}

theorem tallies_allowRequest (h : Tallies config b recorded streak) (now : ℚ) :
    Tallies config (allowRequest config now b).breaker recorded streak := by
  unfold allowRequest
  cases hstate : b.state with
  | closed => exact h
  | halfOpen => exact h
  | opened =>
      dsimp only
      split
      · exact ⟨h.failures, h.successes, (fun hclosed => by cases hclosed),
          (fun hclosed => by cases hclosed)⟩
      · exact h

theorem tallies_recordSuccess (h : Tallies config b recorded streak) :
    Tallies config (recordSuccess config b).breaker (bump recorded .success) 0 := by
  have hsuccesses : b.totalSuccesses + 1 = ((bump recorded .success .success : Nat) : Int) := by
    rw [bump_self, h.successes]
    push_cast
    rfl
  have hfailures : b.totalFailures = ((bump recorded .success .failure : Nat) : Int) := by
    rw [bump_ne recorded (by decide), h.failures]
  unfold recordSuccess
  cases hstate : b.state with
  | closed => exact ⟨hfailures, hsuccesses, fun _ => rfl, fun _ => Or.inl rfl⟩
  | opened =>
      exact ⟨hfailures, hsuccesses, (fun hclosed => by cases hclosed), fun _ => Or.inl rfl⟩
  | halfOpen =>
      dsimp only
      split
      · exact ⟨hfailures, hsuccesses, fun _ => rfl, fun _ => Or.inl rfl⟩
      · exact ⟨hfailures, hsuccesses, (fun hclosed => by cases hclosed), fun _ => Or.inl rfl⟩

theorem tallies_recordFailure (h : Tallies config b recorded streak) (now later : ℚ) :
    Tallies config (recordFailure config now later b).breaker (bump recorded .failure)
      (streak + 1) := by
  have hfailures : b.totalFailures + 1 = ((bump recorded .failure .failure : Nat) : Int) := by
    rw [bump_self, h.failures]
    push_cast
    rfl
  have hsuccesses : b.totalSuccesses = ((bump recorded .failure .success : Nat) : Int) := by
    rw [bump_ne recorded (by decide), h.successes]
  unfold recordFailure
  cases hstate : b.state with
  | opened =>
      exact ⟨hfailures, hsuccesses, (fun hclosed => by cases hclosed),
        (fun hclosed => by cases hclosed)⟩
  | halfOpen =>
      exact ⟨hfailures, hsuccesses, (fun hclosed => by cases hclosed),
        (fun hclosed => by cases hclosed)⟩
  | closed =>
      have hcounted := h.counted hstate
      dsimp only
      split
      · exact ⟨hfailures, hsuccesses, (fun hclosed => by cases hclosed),
          (fun hclosed => by cases hclosed)⟩
      next hbelow =>
        rw [hcounted] at hbelow ⊢
        exact ⟨hfailures, hsuccesses, fun _ => rfl, fun _ => Or.inr (Int.not_le.mp hbelow)⟩

/-- A method keeps a breaker in agreement. -/
theorem tallies_effect (h : Tallies config b recorded streak) (call : Call) (now later : ℚ) :
    Tallies config (call.effect config now later b).breaker (bump recorded call)
      (nextStreak streak call) := by
  cases call with
  | allow =>
      have hallow := tallies_allowRequest h now
      refine ⟨?_, ?_, hallow.counted, hallow.below⟩
      · rw [bump_ne recorded (by decide)]
        exact hallow.failures
      · rw [bump_ne recorded (by decide)]
        exact hallow.successes
  | success => exact tallies_recordSuccess h
  | failure => exact tallies_recordFailure h now later

end Tallies

section Ledger

/-- Whether a process is in a method of a kind that it has saved but not
    ended. -/
def midway (call : Call) : Option Pending → Nat
  | some pending => if pending.call = call ∧ pending.wrote = true then 1 else 0
  | none => 0

/-- How many processes are in a method of a kind that they have saved but not
    ended. -/
def writing (busy : Fin n → Option Pending) (call : Call) : Nat := ∑ p, midway call (busy p)

theorem writing_update (busy : Fin n → Option Pending) (p : Fin n) (pending : Option Pending)
    (call : Call) :
    writing (Function.update busy p pending) call + midway call (busy p) =
      writing busy call + midway call pending := by
  have hupdate : (fun q => midway call (Function.update busy p pending q)) =
      Function.update (fun q => midway call (busy q)) p (midway call pending) := by
    funext q
    by_cases hq : q = p
    · rw [hq, Function.update_self, Function.update_self]
    · rw [Function.update_of_ne hq, Function.update_of_ne hq]
  rw [writing, hupdate, Finset.sum_update_of_mem (Finset.mem_univ p), writing,
    Finset.sum_eq_add_sum_sdiff_singleton_of_mem (Finset.mem_univ p) (fun q => midway call (busy q))]
  omega

/-- What a method that is not saved leaves. -/
theorem effect_of_unsaved {call : Call} {now later : ℚ} {b : CircuitBreaker}
    (h : (call.effect config now later b).saves = 0) :
    call = .allow ∧ (call.effect config now later b).breaker = b := by
  have hsaved : ∀ after, (saved b after).saves ≠ 0 := by
    intro after
    unfold saved
    dsimp only
    split <;> decide
  cases call with
  | allow =>
      refine ⟨rfl, ?_⟩
      rw [Call.effect, allowRequest] at h ⊢
      cases hstate : b.state with
      | closed => rfl
      | halfOpen => rfl
      | opened =>
          rw [hstate] at h
          dsimp only at h ⊢
          split at h
          · cases h
          next htime => rw [if_neg htime]
  | success =>
      rw [Call.effect, recordSuccess] at h
      dsimp only at h
      split at h
      · split at h
        · exact absurd h (hsaved _)
        · exact absurd h (hsaved _)
      · exact absurd h (hsaved _)
      · exact absurd h (hsaved _)
  | failure =>
      rw [Call.effect, recordFailure] at h
      dsimp only at h
      split at h
      · exact absurd h (hsaved _)
      · split at h
        · exact absurd h (hsaved _)
        · exact absurd h (hsaved _)
      · exact absurd h (hsaved _)

/-- What a load and a save do. -/
theorem step_cases {op : Operation n} (h : s.step config op = some s') :
    (∃ p call now later, op = .load p call now later ∧ s.busy p = none ∧
      let effect := call.effect config now later (loadState s.redis (s.cached p))
      (effect.saves = 0 ∧ s' = (s.setCached p effect.breaker).complete call) ∨
      (effect.saves ≠ 0 ∧ s' = (s.setCached p effect.breaker).setBusy p
        (some ⟨call, s.redis, effect.saves, false⟩))) ∨
    (∃ p pending, op = .save p ∧ s.busy p = some pending ∧
      let written := { s.record pending with redis := some (s.cached p) }
      s' = (written.setBusy p none).complete pending.call ∨
      s' = written.setBusy p
        (some ⟨pending.call, some (s.cached p), pending.saves - 1, true⟩)) := by
  cases op with
  | load p call now later =>
      rw [Shared.step] at h
      split at h
      · cases h
      next hbusy =>
        dsimp only at h
        refine Or.inl ⟨p, call, now, later, rfl, hbusy, ?_⟩
        split at h
        next hsaves => exact Or.inl ⟨hsaves, (Option.some.inj h).symm⟩
        next hsaves => exact Or.inr ⟨hsaves, (Option.some.inj h).symm⟩
  | save p =>
      rw [Shared.step] at h
      split at h
      · cases h
      next pending hbusy =>
        dsimp only at h
        refine Or.inr ⟨p, pending, rfl, hbusy, ?_⟩
        split at h
        · exact Or.inl (Option.some.inj h).symm
        · exact Or.inr (Option.some.inj h).symm

/-- Every outcome that was recorded has ended, or is in a process. -/
def Ledger (s : Shared n) : Prop :=
  ∀ call, call ≠ .allow → s.recorded call = s.completed call + writing s.busy call

theorem recorded_record (s : Shared n) (pending : Pending) (call : Call) :
    (s.record pending).recorded call =
      s.recorded call + if pending.call = call ∧ pending.wrote = false then 1 else 0 := by
  unfold Shared.record
  by_cases hwrote : pending.wrote = true
  · rw [if_pos hwrote, if_neg (by rw [hwrote]; exact fun h => by cases h.2), Nat.add_zero]
  · rw [if_neg hwrote]
    have hfalse : pending.wrote = false := Bool.not_eq_true _ ▸ hwrote
    by_cases hcall : pending.call = call
    · rw [if_pos ⟨hcall, hfalse⟩, ← hcall]
      exact bump_self s.recorded pending.call
    · rw [if_neg (fun h => hcall h.1), Nat.add_zero]
      exact bump_ne s.recorded (Ne.symm hcall)

theorem completed_complete (s : Shared n) (call call' : Call) :
    (s.complete call).completed call' =
      s.completed call' + if call = call' then 1 else 0 := by
  by_cases hcall : call = call'
  · rw [if_pos hcall, ← hcall]
    exact bump_self s.completed call
  · rw [if_neg hcall, Nat.add_zero]
    exact bump_ne s.completed (Ne.symm hcall)

theorem midway_add (pending : Pending) (call : Call) :
    (if pending.call = call ∧ pending.wrote = false then 1 else 0) + midway call (some pending) =
      if pending.call = call then 1 else 0 := by
  rw [midway]
  by_cases hcall : pending.call = call <;> cases hwrote : pending.wrote <;> simp [hcall]

theorem busy_record (s : Shared n) (pending : Pending) : (s.record pending).busy = s.busy := by
  unfold Shared.record
  split <;> rfl

theorem completed_record (s : Shared n) (pending : Pending) :
    (s.record pending).completed = s.completed := by
  unfold Shared.record
  split <;> rfl

theorem ledger_step {op : Operation n} (h : Ledger s) (hstep : s.step config op = some s') :
    Ledger s' := by
  intro call hcall
  have hledger := h call hcall
  rcases step_cases hstep with
    ⟨p, loaded, now, later, rfl, hbusy, ⟨hsaves, rfl⟩ | ⟨hsaves, rfl⟩⟩ |
    ⟨p, pending, rfl, hbusy, hs'⟩
  · -- A method that saves nothing is no outcome.
    have hallow := (effect_of_unsaved hsaves).1
    rw [completed_complete, if_neg (by rw [hallow]; exact Ne.symm hcall)]
    exact hledger
  · -- A method that was only loaded has saved nothing.
    have hwriting := writing_update s.busy p (some ⟨loaded, s.redis,
      (loaded.effect config now later (loadState s.redis (s.cached p))).saves, false⟩) call
    rw [hbusy, midway, midway, if_neg (fun h => by cases h.2)] at hwriting
    exact hledger.trans (congrArg _ hwriting.symm)
  · have hadd := midway_add pending call
    have hrecorded := recorded_record s pending call
    rcases hs' with rfl | rfl
    · have hwriting := writing_update s.busy p none call
      rw [hbusy, midway.eq_2] at hwriting
      rw [completed_complete]
      show (s.record pending).recorded call = (s.record pending).completed call + _ +
        writing (Function.update (s.record pending).busy p none) call
      rw [busy_record, completed_record]
      omega
    · have hwriting := writing_update s.busy p
        (some ⟨pending.call, some (s.cached p), pending.saves - 1, true⟩) call
      have hmidway : midway call (some ⟨pending.call, some (s.cached p), pending.saves - 1, true⟩) =
          if pending.call = call then 1 else 0 := by
        rw [midway]
        simp
      rw [hbusy, hmidway] at hwriting
      show (s.record pending).recorded call = (s.record pending).completed call +
        writing (Function.update (s.record pending).busy p _) call
      rw [busy_record, completed_record]
      omega

end Ledger

section Undisturbed

/-- A save finds the hash as the process last read or wrote it. -/
def Undisturbed (s : Shared n) : Operation n → Prop
  | .load _ _ _ _ => True
  | .save p => ∀ pending, s.busy p = some pending → s.redis = pending.seen

theorem undisturbed_save_iff (s : Shared n) (p : Fin n) :
    (∀ pending ∈ s.busy p, s.redis = pending.seen) ↔ Undisturbed s (.save p) := Iff.rfl

instance (s : Shared n) : (op : Operation n) → Decidable (Undisturbed s op)
  | .load _ _ _ _ => inferInstanceAs (Decidable True)
  | .save p => decidable_of_iff _ (undisturbed_save_iff s p)

/-- The fields in the hash, or those of a new breaker. -/
def Shared.hash (s : Shared n) : CircuitBreaker := s.redis.getD {}

/-- The invariant. The hash agrees with what was recorded. A process that has
    not saved yet has the fields its method makes of what it read, and one that
    has saved has the fields it wrote. -/
structure Consistent (config : Config) (s : Shared n) : Prop where
  tallies : Tallies config s.hash s.recorded s.streak
  fresh : s.redis = none → ∀ p, s.busy p = none → s.cached p = {}
  computed : ∀ p pending, s.busy p = some pending → pending.wrote = false →
    ∃ now later, s.cached p =
      (pending.call.effect config now later (pending.seen.getD {})).breaker
  written : ∀ p pending, s.busy p = some pending → pending.wrote = true →
    pending.seen = some (s.cached p)

/-- A process that is in no method loads the hash, or has a new breaker. -/
theorem loadState_eq (h : Consistent config s) {p : Fin n} (hbusy : s.busy p = none) :
    loadState s.redis (s.cached p) = s.hash := by
  rw [loadState, Shared.hash]
  cases hredis : s.redis with
  | none => rw [Option.getD_none, Option.getD_none, h.fresh hredis p hbusy]
  | some b => rfl

theorem consistent_load (h : Consistent config s) {p : Fin n} {call : Call} {now later : ℚ}
    (hbusy : s.busy p = none) :
    let effect := call.effect config now later (loadState s.redis (s.cached p))
    (effect.saves = 0 → Consistent config ((s.setCached p effect.breaker).complete call)) ∧
    Consistent config ((s.setCached p effect.breaker).setBusy p
      (some ⟨call, s.redis, effect.saves, false⟩)) := by
  have hloaded := loadState_eq h hbusy
  have hother : ∀ {q pending} (b : CircuitBreaker), s.busy q = some pending →
      Function.update s.cached p b q = s.cached q := by
    intro q pending b hq
    refine Function.update_of_ne ?_ ..
    rintro rfl
    rw [hbusy] at hq
    cases hq
  refine ⟨fun hsaves => ⟨h.tallies, ?_, ?_, ?_⟩, ⟨h.tallies, ?_, ?_, ?_⟩⟩
  · -- A method that saves nothing leaves the fields as they were loaded.
    intro hredis q hq
    have hkept := (effect_of_unsaved hsaves).2
    show Function.update s.cached p _ q = {}
    by_cases hqp : q = p
    · rw [hqp, Function.update_self, hkept, hloaded, Shared.hash, show s.redis = none from hredis,
        Option.getD_none]
    · rw [Function.update_of_ne hqp]
      exact h.fresh hredis q hq
  · intro q pending hq hwrote
    show ∃ now later, Function.update s.cached p _ q = _
    rw [hother _ hq]
    exact h.computed q pending hq hwrote
  · intro q pending hq hwrote
    show _ = some (Function.update s.cached p _ q)
    rw [hother _ hq]
    exact h.written q pending hq hwrote
  · intro hredis q hq
    replace hq : Function.update s.busy p _ q = none := hq
    show Function.update s.cached p _ q = {}
    by_cases hqp : q = p
    · rw [hqp, Function.update_self] at hq
      cases hq
    · rw [Function.update_of_ne hqp] at hq ⊢
      exact h.fresh hredis q hq
  · intro q pending hq hwrote
    replace hq : Function.update s.busy p _ q = some pending := hq
    show ∃ now later, Function.update s.cached p _ q = _
    by_cases hqp : q = p
    · rw [hqp, Function.update_self] at hq ⊢
      cases hq
      exact ⟨now, later, by rw [hloaded, Shared.hash]⟩
    · rw [Function.update_of_ne hqp] at hq ⊢
      exact h.computed q pending hq hwrote
  · intro q pending hq hwrote
    replace hq : Function.update s.busy p _ q = some pending := hq
    show _ = some (Function.update s.cached p _ q)
    by_cases hqp : q = p
    · rw [hqp, Function.update_self] at hq
      cases hq
      cases hwrote
    · rw [Function.update_of_ne hqp] at hq ⊢
      exact h.written q pending hq hwrote

/-- An undisturbed save leaves a hash that agrees with what was recorded. -/
theorem tallies_save (h : Consistent config s) {p : Fin n} {pending : Pending}
    (hbusy : s.busy p = some pending) (hseen : s.redis = pending.seen) :
    Tallies config (s.cached p) (s.record pending).recorded (s.record pending).streak := by
  unfold Shared.record
  cases hwrote : pending.wrote with
  | true =>
      -- The second save writes what the first one did.
      have hwritten := h.written p pending hbusy hwrote
      have hhash : s.hash = s.cached p := by rw [Shared.hash, hseen, hwritten, Option.getD_some]
      rw [if_pos rfl, ← hhash]
      exact h.tallies
  | false =>
      rcases h.computed p pending hbusy hwrote with ⟨now, later, hcached⟩
      rw [if_neg Bool.false_ne_true, hcached, ← hseen]
      exact tallies_effect h.tallies pending.call now later

theorem consistent_save (h : Consistent config s) {p : Fin n} {pending : Pending}
    (hbusy : s.busy p = some pending) (hseen : s.redis = pending.seen) (next : Option Pending)
    (hnext : ∀ pending', next = some pending' →
      pending'.wrote = true ∧ pending'.seen = some (s.cached p)) :
    Consistent config
      (({ s.record pending with redis := some (s.cached p) } : Shared n).setBusy p next) := by
  have hcached : (s.record pending).cached = s.cached := by
    unfold Shared.record
    split <;> rfl
  have hsplit : ∀ q pending', Function.update (s.record pending).busy p next q = some pending' →
      (q = p ∧ next = some pending') ∨ (s.busy q = some pending') := by
    intro q pending' hq
    by_cases hqp : q = p
    · rw [hqp, Function.update_self] at hq
      exact Or.inl ⟨hqp, hq⟩
    · rw [Function.update_of_ne hqp, busy_record] at hq
      exact Or.inr hq
  refine ⟨tallies_save h hbusy hseen, (fun hredis => by cases hredis), ?_, ?_⟩
  · intro q pending' hq hwrote
    show ∃ now later, (s.record pending).cached q = _
    rw [hcached]
    rcases hsplit q pending' hq with ⟨-, hq⟩ | hq
    · rw [(hnext pending' hq).1] at hwrote
      cases hwrote
    · exact h.computed q pending' hq hwrote
  · intro q pending' hq hwrote
    show _ = some ((s.record pending).cached q)
    rw [hcached]
    rcases hsplit q pending' hq with ⟨hqp, hq⟩ | hq
    · rw [hqp]
      exact (hnext pending' hq).2
    · exact h.written q pending' hq hwrote

theorem consistent_step {op : Operation n} (h : Consistent config s) (hcalm : Undisturbed s op)
    (hstep : s.step config op = some s') : Consistent config s' := by
  rcases step_cases hstep with
    ⟨p, call, now, later, rfl, hbusy, ⟨hsaves, rfl⟩ | ⟨hsaves, rfl⟩⟩ |
    ⟨p, pending, rfl, hbusy, rfl | rfl⟩
  · exact (consistent_load h hbusy).1 hsaves
  · exact (consistent_load h hbusy).2
  · have hsave := consistent_save h hbusy (hcalm pending hbusy) none (fun _ hnone => by cases hnone)
    exact ⟨hsave.tallies, hsave.fresh, hsave.computed, hsave.written⟩
  · refine consistent_save h hbusy (hcalm pending hbusy) _ ?_
    intro pending' hpending
    cases hpending
    exact ⟨rfl, rfl⟩

/-- No outcome is lost: the totals in the hash are the failures and the
    successes whose recording has ended, and those a process has saved and is
    about to end. And once there are enough failures in a row, the breaker is
    not closed. -/
structure NoneLost (config : Config) (s : Shared n) : Prop where
  failures : s.hash.totalFailures = s.completed .failure + writing s.busy .failure
  successes : s.hash.totalSuccesses = s.completed .success + writing s.busy .success
  opens : 0 < s.streak → config.failureThreshold ≤ s.streak → s.hash.state ≠ .closed

/-- In every state of a run whose saves are undisturbed no outcome is lost. -/
theorem shared_none_lost {ops : List (Operation n)}
    (h : Run (Shared.step config) Undisturbed (Shared.initial n) ops s) : NoneLost config s := by
  have hinv : Consistent config s ∧ Ledger s := by
    refine h.invariant (I := fun s => Consistent config s ∧ Ledger s) ?_
      ⟨⟨⟨rfl, rfl, ?_, ?_⟩, ?_, ?_, ?_⟩, ?_⟩
    · rintro s op s' hcalm hstep ⟨hconsistent, hledger⟩
      exact ⟨consistent_step hconsistent hcalm hstep, ledger_step hledger hstep⟩
    · exact fun _ => rfl
    · exact fun _ => Or.inl rfl
    · exact fun _ _ _ => rfl
    · intro p pending hbusy
      cases hbusy
    · intro p pending hbusy
      cases hbusy
    · intro call _
      have hwriting : writing (fun _ : Fin n => none) call = 0 :=
        Finset.sum_eq_zero (fun _ _ => rfl)
      show 0 = 0 + writing (fun _ : Fin n => none) call
      rw [hwriting]
  rcases hinv with ⟨hconsistent, hledger⟩
  refine ⟨?_, ?_, ?_⟩
  · rw [hconsistent.tallies.failures, hledger .failure (by decide)]
    push_cast
    rfl
  · rw [hconsistent.tallies.successes, hledger .success (by decide)]
    push_cast
    rfl
  · intro hpos henough hclosed
    rcases hconsistent.tallies.below hclosed with hzero | hbelow
    · omega
    · omega

/-- A breaker that opens at the second failure. -/
def twiceConfig : Config where
  failureThreshold := 2

/-- Two processes that record a failure one after the other. -/
def takingTurns : List (Operation 2) :=
  [.load 0 .failure 1 1, .save 0, .load 1 .failure 2 2, .save 1, .save 1]

theorem shared_none_lost_turns :
    ∃ s, Run (Shared.step twiceConfig) Undisturbed (Shared.initial 2) takingTurns s ∧
      NoneLost twiceConfig s ∧ s.hash.totalFailures = 2 ∧ s.hash.state = .opened := by
  have hfollow : ∃ s, follow (Shared.step twiceConfig) Undisturbed (Shared.initial 2)
      takingTurns = some s ∧ s.hash.totalFailures = 2 ∧ s.hash.state = .opened :=
    ⟨_, rfl, rfl, rfl⟩
  rcases hfollow with ⟨s, hfollow, hvalues⟩
  exact ⟨s, run_of_follow hfollow, shared_none_lost (run_of_follow hfollow), hvalues⟩

/-- Two processes that load the hash before either has saved. -/
def overlapping : List (Operation 2) :=
  [.load 0 .failure 1 1, .load 1 .failure 2 2, .save 0, .save 1]

/-- Both failures are recorded. The hash has one of them and the breaker stays
    closed. -/
theorem overlap_loses :
    ∃ s, Run (Shared.step twiceConfig) (fun _ _ => True) (Shared.initial 2) overlapping s ∧
      (∀ p, s.busy p = none) ∧ s.completed .failure = 2 ∧ s.hash.totalFailures = 1 ∧
      s.hash.state = .closed ∧ ¬ NoneLost twiceConfig s := by
  have hfollow : ∃ s, follow (Shared.step twiceConfig) (fun _ _ => True) (Shared.initial 2)
      overlapping = some s ∧ (∀ p, s.busy p = none) ∧ s.completed .failure = 2 ∧
      s.hash.totalFailures = 1 ∧ s.hash.state = .closed :=
    ⟨_, rfl, by decide, rfl, rfl, rfl⟩
  rcases hfollow with ⟨s, hfollow, hidle, hcompleted, htotal, hstate⟩
  refine ⟨s, run_of_follow hfollow, hidle, hcompleted, htotal, hstate, ?_⟩
  intro h
  have hfailures := h.failures
  rw [htotal, hcompleted] at hfailures
  omega

end Undisturbed

end Breaker

end AgenticRag

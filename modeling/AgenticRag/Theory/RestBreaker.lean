import AgenticRag.Core.RestRuntime

/-!
# When the REST Runtime Turns Requests Away

The breaker is three fields: a count, a mark and a time. What they stand for
is a history. Of the requests since the last success or recovery the last five
failed, and the last of them less than a minute ago.

The mark of an open breaker is not taken back when the minute is over but by
the next request that asks, which is the recovery. `Reading.since` is the
history with the recoveries found in it: a request that was let in where the
five before it had failed.

A request can end without success and without failure where it has a session:
its arguments cannot be written as JSON, or it is cancelled. Such a request is
not counted. No request comes so far, since no session is ever opened: a
request that is let in has failed before it looks at its arguments
(`failed_of_admitted`). So every request that was let in counts.

## Main definitions

* `Reading`: Which requests count, and which of them failed.
* `Tracks`, `Settled`: The invariants.

## Theorems

* `tracks_runCalls`: So do all of them.
* `settled_runCalls`: No session is opened, and what was let in has failed.
* `rejects_iff_since_admitted`: Which requests are turned away.
-/

namespace AgenticRag

namespace RestRuntime

/-- Whether the request was let in, and ended in an error. -/
def Outcome.isFailed : Outcome → Bool
  | .failed _ _ => true
  | _ => false

/-- Whether the request was let in, and raised. -/
def Outcome.isRaised : Outcome → Bool
  | .rejected => false
  | .answered _ => false
  | _ => true

/-- The call is turned away. -/
def Outcome.isRejected : Outcome → Bool
  | .rejected => true
  | _ => false

/-- The call is answered. -/
def Outcome.isAnswered : Outcome → Bool
  | .answered _ => true
  | _ => false

/-- When the request ended, where it was let in and raised. -/
def Outcome.ended : Outcome → Option ℚ
  | .failed _ ended => some ended
  | .unserializable ended => some ended
  | .cancelled ended => some ended
  | _ => none

/-- A reading of a history: which requests count, and which of them failed. -/
structure Reading where
  counts : Outcome → Bool
  fails : Outcome → Bool

namespace Reading

variable (r : Reading)

/-- The last requests, as many as open the breaker, have failed. -/
def Opens (requests : List Outcome) : Prop :=
  circuitBreakerThreshold ≤ requests.length ∧
    ∀ o ∈ requests.take circuitBreakerThreshold, r.fails o

instance (requests : List Outcome) : Decidable (r.Opens requests) :=
  inferInstanceAs (Decidable (_ ∧ _))

/-- The requests since the last success or recovery. Both lists begin with the
    last request. -/
def since : List Outcome → List Outcome
  | [] => []
  | o :: earlier =>
      if o.isRejected then since earlier
      else if o.isAnswered then []
      else
        -- A request that was let in behind five failures is the recovery.
        let admitted := if r.Opens (since earlier) then [] else since earlier
        if r.counts o then o :: admitted else admitted

/-- The last requests since the last success or recovery have failed, and it is
    not long since the last of them. -/
def TurnsAway (outcomes : List Outcome) (now : ℚ) : Prop :=
  r.Opens (r.since outcomes) ∧
    ∃ ended ∈ (r.since outcomes).head?.bind Outcome.ended,
      now - ended < circuitBreakerTimeoutS

instance (outcomes : List Outcome) (now : ℚ) : Decidable (r.TurnsAway outcomes now) :=
  inferInstanceAs (Decidable (_ ∧ _))

end Reading

/-- Only failures count. -/
def failures : Reading := ⟨Outcome.isFailed, Outcome.isFailed⟩

/-- Every request that was let in counts. -/
def admitted : Reading := ⟨fun _ => true, Outcome.isFailed⟩

/-- The request is turned away by the breaker. -/
def Rejects (rt : RestRuntime) (c : Call) : Prop := (rt.execute c).outcome.isRejected

instance (rt : RestRuntime) (c : Call) : Decidable (rt.Rejects c) :=
  inferInstanceAs (Decidable (_ = _))

/-- Requests one after the other, from a runtime that is new, and how they
    ended, the last one first. -/
def runCalls (calls : List Call) : RestRuntime × List Outcome :=
  calls.foldl (fun s c => ((s.1.execute c).runtime, (s.1.execute c).outcome :: s.2)) ({}, [])

/-- What the breaker's fields stand for. -/
structure Tracks (rt : RestRuntime) (outcomes : List Outcome) : Prop where
  failures_eq : rt.consecutiveFailures = (failures.since outcomes).length
  open_iff : rt.circuitOpen = true ↔
    circuitBreakerThreshold ≤ (failures.since outcomes).length
  openAt : rt.circuitOpen = true →
    (failures.since outcomes).head?.bind Outcome.ended = some rt.circuitOpenAt

/-- What they stand for while a request is under way. -/
structure Admitted (rt : RestRuntime) (requests : List Outcome) : Prop where
  failures_eq : rt.consecutiveFailures = requests.length
  closed : rt.circuitOpen = false
  few : requests.length < circuitBreakerThreshold

variable {rt : RestRuntime} {outcomes requests : List Outcome}

theorem isFailed_of_mem_since {o : Outcome} (h : o ∈ failures.since outcomes) :
    o.isFailed = true := by
  induction outcomes with
  | nil => cases h
  | cons first earlier ih =>
      unfold Reading.since at h
      dsimp only at h
      -- What a recovery leaves behind is part of the history before it.
      have hadmitted : o ∈ (if failures.Opens (failures.since earlier) then []
          else failures.since earlier) → o.isFailed = true := by
        intro ho
        split_ifs at ho
        · cases ho
        · exact ih ho
      by_cases hrejected : first.isRejected = true
      · rw [if_pos hrejected] at h
        exact ih h
      rw [if_neg hrejected] at h
      by_cases hanswered : first.isAnswered = true
      · rw [if_pos hanswered] at h
        cases h
      rw [if_neg hanswered] at h
      by_cases hcounts : failures.counts first = true
      · rw [if_pos hcounts] at h
        rcases List.mem_cons.mp h with rfl | h
        · exact hcounts
        · exact hadmitted h
      · rw [if_neg hcounts] at h
        exact hadmitted h

/-- All that are counted have failed, so their number alone decides. -/
theorem opens_since_iff :
    failures.Opens (failures.since outcomes) ↔
      circuitBreakerThreshold ≤ (failures.since outcomes).length :=
  ⟨fun h => h.1, fun h => ⟨h, fun _ ho => isFailed_of_mem_since (List.mem_of_mem_take ho)⟩⟩

/-- The breaker turns a request away if it is open and the minute is not over. -/
theorem checkCircuitBreaker_fst (now : ℚ) :
    (rt.checkCircuitBreaker now).1 = true ↔
      rt.circuitOpen = true ∧ now - rt.circuitOpenAt < circuitBreakerTimeoutS := by
  unfold checkCircuitBreaker
  cases hopen : rt.circuitOpen with
  | false => simp
  | true =>
      rw [if_neg (by simp)]
      split_ifs with htime
      · simp only [true_and, false_iff]
        exact not_lt.mpr htime
      · simp only [true_and, true_iff]
        exact not_le.mp htime

theorem checkCircuitBreaker_of_rejected {now : ℚ}
    (h : (rt.checkCircuitBreaker now).1 = true) : (rt.checkCircuitBreaker now).2 = rt := by
  unfold checkCircuitBreaker at h ⊢
  split_ifs at h ⊢
  rfl

/-- A breaker that lets a request in has fewer failures behind it than open it,
    or takes this one for the recovery. -/
theorem admitted_checkCircuitBreaker (h : Tracks rt outcomes) {now : ℚ}
    (hadmits : (rt.checkCircuitBreaker now).1 = false) :
    Admitted (rt.checkCircuitBreaker now).2
      (if failures.Opens (failures.since outcomes) then [] else failures.since outcomes) := by
  -- An open breaker that lets a request in is past its minute.
  by_cases hopen : rt.circuitOpen = true
  · have htime : circuitBreakerTimeoutS ≤ now - rt.circuitOpenAt := by
      by_contra hlate
      rw [(checkCircuitBreaker_fst now).mpr ⟨hopen, not_le.mp hlate⟩] at hadmits
      cases hadmits
    rw [if_pos (opens_since_iff.mpr (h.open_iff.mp hopen))]
    unfold checkCircuitBreaker
    rw [if_neg (not_not_intro hopen), if_pos htime]
    exact ⟨rfl, rfl, by decide⟩
  · have hfew := mt h.open_iff.mpr hopen
    rw [if_neg (mt opens_since_iff.mp hfew)]
    unfold checkCircuitBreaker
    rw [if_pos hopen]
    exact ⟨h.failures_eq, Bool.eq_false_iff.mpr hopen, not_le.mp hfew⟩

/-- Seeing to the session leaves the breaker alone. -/
theorem Admitted.initSession (h : Admitted rt requests) (tenantId mcpServerName : String)
    (available : Bool) :
    Admitted (rt.initSession tenantId mcpServerName available).1 requests := by
  unfold RestRuntime.initSession
  split_ifs
  · exact h
  · exact ⟨h.failures_eq, h.closed, h.few⟩
  · exact h

/-- What a request leaves behind that was let in and ended with the outcome. -/
theorem Admitted.record (h : Admitted rt requests) {o : Outcome} (hadmitted : o.isRejected = false)
    (hrequests : requests =
      if failures.Opens (failures.since outcomes) then [] else failures.since outcomes) :
    Tracks (rt.record o) (o :: outcomes) := by
  have hsince : failures.since (o :: outcomes) =
      if o.isAnswered then [] else if o.isFailed then o :: requests else requests := by
    rw [Reading.since, if_neg (Bool.eq_false_iff.mp hadmitted), hrequests]
    rfl
  -- Where nothing is recorded the history stays as it was, too short to open the breaker.
  have hkept : failures.since (o :: outcomes) = requests → rt.record o = rt →
      Tracks (rt.record o) (o :: outcomes) := by
    intro heq hrt
    refine ⟨?_, ?_, ?_⟩
    · rw [heq, hrt, h.failures_eq]
    · rw [heq, hrt, h.closed]
      simpa using h.few
    · rw [hrt, h.closed]
      rintro ⟨⟩
  cases o with
  | rejected => cases hadmitted
  | answered response =>
      have hnil : failures.since (.answered response :: outcomes) = [] := hsince
      refine ⟨?_, ?_, by rintro ⟨⟩⟩
      · rw [hnil]
        rfl
      · rw [hnil]
        exact iff_of_false Bool.false_ne_true (by decide)
  | failed text ended =>
      have hcons : failures.since (.failed text ended :: outcomes) =
          .failed text ended :: requests := hsince
      rw [RestRuntime.record, RestRuntime.recordFailure, h.failures_eq]
      by_cases hbound : circuitBreakerThreshold ≤ requests.length + 1
      · rw [if_pos hbound]
        refine ⟨?_, ?_, fun _ => ?_⟩
        · rw [hcons, List.length_cons]
        · rw [hcons, List.length_cons]
          exact ⟨fun _ => hbound, fun _ => rfl⟩
        · rw [hcons]
          rfl
      · rw [if_neg hbound]
        refine ⟨?_, ?_, ?_⟩
        · rw [hcons, List.length_cons]
        · rw [hcons, List.length_cons, h.closed]
          simpa using hbound
        · rw [h.closed]
          rintro ⟨⟩
  | unserializable ended => exact hkept hsince rfl
  | cancelled ended => exact hkept hsince rfl

/-- The attempts do not end in a rejection. -/
theorem callFrom_not_rejected (c : Call) (remaining attempt : Nat) (lastError : String) :
    (c.callFrom remaining attempt lastError).1.isRejected = false := by
  induction remaining generalizing attempt lastError with
  | zero => rfl
  | succ remaining ih =>
      rw [Call.callFrom]
      split
      · rfl
      · rfl
      · split_ifs
        · rfl
        · exact ih _ _

theorem rejects_iff (c : Call) :
    rt.Rejects c ↔ (rt.checkCircuitBreaker c.asked).1 = true := by
  unfold Rejects execute
  dsimp only
  split_ifs with hbreaker
  · exact ⟨fun _ => hbreaker, fun _ => rfl⟩
  all_goals refine ⟨fun h => ?_, fun h => absurd h hbreaker⟩
  · cases h
  · cases h
  · exact absurd (h.symm.trans (callFrom_not_rejected c _ _ _)) (by decide)
  · cases h

/-- A request that is turned away is not sent. -/
theorem sent_of_rejects {c : Call} (h : rt.Rejects c) : (rt.execute c).sent = 0 := by
  unfold execute
  dsimp only
  rw [if_pos ((rejects_iff c).mp h)]

theorem tracks_execute (h : Tracks rt outcomes) (c : Call) :
    Tracks (rt.execute c).runtime ((rt.execute c).outcome :: outcomes) := by
  unfold execute
  dsimp only
  by_cases hbreaker : (rt.checkCircuitBreaker c.asked).1 = true
  · rw [if_pos hbreaker, checkCircuitBreaker_of_rejected hbreaker]
    exact ⟨h.failures_eq, h.open_iff, h.openAt⟩
  -- The request is let in, and the session is seen to first.
  rw [if_neg hbreaker]
  have hadmitted := (admitted_checkCircuitBreaker h (Bool.eq_false_iff.mpr hbreaker)).initSession
    c.tenantId c.mcpServerName (serverUrl c.tenantId c.mcpServerName c.found).isOk
  -- Each way the request ends is recorded, or leaves the runtime as it is.
  split_ifs
  · exact hadmitted.record (o := .failed _ c.ended) rfl rfl
  · exact hadmitted.record (o := .failed _ c.ended) rfl rfl
  · exact hadmitted.record (callFrom_not_rejected c _ _ _) rfl
  · exact hadmitted.record (o := .unserializable c.ended) rfl rfl

theorem tracks_runCalls (calls : List Call) : Tracks (runCalls calls).1 (runCalls calls).2 := by
  unfold runCalls
  -- From a new runtime, one request after the other.
  refine List.foldlRecOn calls _ (motive := fun s : RestRuntime × List Outcome => Tracks s.1 s.2)
    ?_ ?_
  · exact ⟨rfl, by decide, by rintro ⟨⟩⟩
  · intro s hs c _
    exact tracks_execute hs c

/-- The address of a server is never read. -/
theorem serverUrl_isOk (tenantId mcpServerName : String) (found : Found) :
    (serverUrl tenantId mcpServerName found).isOk = false := by
  unfold serverUrl
  split <;> rfl

/-- A request that is let in without a session has failed. -/
theorem failed_of_admitted (h : rt.mcpSession = none) (c : Call) :
    ((rt.execute c).outcome.isRejected = true ∨ (rt.execute c).outcome.isFailed = true) ∧
      (rt.execute c).runtime.mcpSession = none := by
  have hkept : (rt.checkCircuitBreaker c.asked).2.mcpSession = none := by
    rw [checkCircuitBreaker_mcpSession]
    exact h
  have hfits : ¬ (rt.checkCircuitBreaker c.asked).2.Fits c.tenantId c.mcpServerName := by
    rintro ⟨hsome, -⟩
    rw [hkept] at hsome
    cases hsome
  unfold execute
  dsimp only
  by_cases hbreaker : (rt.checkCircuitBreaker c.asked).1 = true
  · rw [if_pos hbreaker]
    exact ⟨.inl rfl, hkept⟩
  · rw [if_neg hbreaker, RestRuntime.initSession, if_neg hfits, serverUrl_isOk,
      if_neg Bool.false_ne_true, if_pos rfl]
    refine ⟨.inr rfl, ?_⟩
    rw [recordFailure_mcpSession]
    exact hkept

/-- What the requests leave of a runtime: no session, and of the requests that
    were let in none but failures. -/
structure Settled (rt : RestRuntime) (outcomes : List Outcome) : Prop where
  noSession : rt.mcpSession = none
  failed : ∀ o ∈ outcomes, o.isRejected = true ∨ o.isFailed = true

theorem settled_execute (h : Settled rt outcomes) (c : Call) :
    Settled (rt.execute c).runtime ((rt.execute c).outcome :: outcomes) := by
  have hnew := failed_of_admitted h.noSession c
  refine ⟨hnew.2, ?_⟩
  intro o ho
  rcases List.mem_cons.mp ho with rfl | ho
  · exact hnew.1
  · exact h.failed o ho

theorem settled_runCalls (calls : List Call) : Settled (runCalls calls).1 (runCalls calls).2 := by
  unfold runCalls
  refine List.foldlRecOn calls _ (motive := fun s : RestRuntime × List Outcome => Settled s.1 s.2)
    ?_ ?_
  · exact ⟨rfl, fun o ho => (by cases ho)⟩
  · intro s hs c _
    exact settled_execute hs c

/-- Where all that was let in has failed, it is the same to count all and to
    count the failures. -/
theorem since_admitted (h : ∀ o ∈ outcomes, o.isRejected = true ∨ o.isFailed = true) :
    admitted.since outcomes = failures.since outcomes := by
  induction outcomes with
  | nil => rfl
  | cons o earlier ih =>
      have hearlier := ih fun o' ho' => h o' (List.mem_cons_of_mem _ ho')
      rw [Reading.since, Reading.since, hearlier]
      by_cases hrejected : o.isRejected = true
      · rw [if_pos hrejected, if_pos hrejected]
      -- What was let in is counted on either side.
      have hcounts : failures.counts o = true := (h o List.mem_cons_self).resolve_left hrejected
      rw [if_neg hrejected, if_neg hrejected, if_pos (show admitted.counts o = true from rfl),
        if_pos hcounts]
      rfl

/-- A request is turned away, and not sent, exactly when the last five requests
    that were let in since the last success or recovery failed and the last of
    these failures is less than a minute old. -/
theorem rejects_iff_since_admitted (calls : List Call) (c : Call) :
    ((runCalls calls).1.Rejects c ↔ admitted.TurnsAway (runCalls calls).2 c.asked) ∧
      ((runCalls calls).1.Rejects c → ((runCalls calls).1.execute c).sent = 0) := by
  have htracks := tracks_runCalls calls
  have hopens : admitted.Opens (failures.since (runCalls calls).2) ↔
      failures.Opens (failures.since (runCalls calls).2) := Iff.rfl
  refine ⟨?_, sent_of_rejects⟩
  rw [rejects_iff, checkCircuitBreaker_fst, Reading.TurnsAway,
    since_admitted (settled_runCalls calls).failed, hopens, opens_since_iff, htracks.open_iff]
  refine and_congr_right fun hopen => ?_
  rw [htracks.openAt (htracks.open_iff.mpr hopen)]
  simp only [Option.mem_some_iff, exists_eq_left']

/-- A request that comes, and fails, at one time. -/
def requestAt (time : ℚ) : Call where
  found := .records [⟨"http://erp/sse"⟩]
  asked := time
  ended := time

/-- After five requests the next is turned away, and a minute later no more. -/
example : (runCalls ([0, 1, 2, 3, 4].map requestAt)).1.Rejects (requestAt 5) ∧
    ¬ (runCalls ([0, 1, 2, 3, 4].map requestAt)).1.Rejects (requestAt 64) := by
  decide +kernel

end RestRuntime

end AgenticRag

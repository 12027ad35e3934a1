import AgenticRag.Core.Approval
import Mathlib.Data.List.Induction

/-!
# The Rounds of an Approval

What a run of calls on an approval does to its status, its step and its log.
The first part is the invariant of every run: the status moves along the
transitions, and a state in review has a current step. Who is on the list of a
step is checked where a step is approved, but not where it is rejected
(`stranger_rejects`), so a run keeps all of it exactly if nobody rejects a step
of others (`calls_lawful_iff`).

The second part is about the approvals that count. A step is complete once all
its approvers are found anywhere in the log, and the log outlives the round it
was written in. A round that ends in an approval has the approval of everyone
exactly if none of its steps was completed with one from an earlier round
(`approved_renewed_iff`).

## Main definitions

* `Along`: A property of every call of a run, at the state it is made in.
* `Borrows`: A step is completed with an approval of an earlier round.

## Theorems

* `calls_lawful_iff`: When every call of a run is lawful.
* `counted_run`: What a round has collected so far.
* `approved_renewed_iff`: When the approvals of a round are its own.
-/

namespace AgenticRag

namespace Approval

variable {steps : List ApprovalStep} {s : ApprovalState} {p : Process}

section Steps

/-- The step the chain moves on to lies behind the current one, inside the
    chain or at its end, and every step in between is optional. -/
theorem skipOptional_spec (rest : List ApprovalStep) (i : Nat) :
    i ≤ skipOptional rest i ∧ skipOptional rest i ≤ i + rest.length ∧
      ∀ j step, i + j < skipOptional rest i → rest[j]? = some step → step.required = false := by
  induction rest generalizing i with
  | nil =>
      refine ⟨Nat.le_refl i, Nat.le_refl i, ?_⟩
      intro j step _ hget
      cases hget
  | cons step rest ih =>
      rw [skipOptional]
      split
      · refine ⟨Nat.le_refl i, Nat.le_add_right i _, ?_⟩
        intro j step' hj _
        omega
      next hopt =>
        rcases ih (i + 1) with ⟨hge, hle, hskip⟩
        refine ⟨by omega, by rw [List.length_cons]; omega, ?_⟩
        intro j step' hj hget
        cases j with
        | zero =>
            rw [List.getElem?_cons_zero, Option.some.injEq] at hget
            rw [← hget]
            exact Bool.eq_false_iff.mpr hopt
        | succ k =>
            rw [List.getElem?_cons_succ] at hget
            exact hskip k step' (by omega) hget

/-- What approving a state in review does: nothing for someone who is not on
    the list, else the approval is recorded, and the chain moves on if that
    completes the step. -/
theorem approve_cases (now : Nat) (u : String) (step : ApprovalStep)
    (hpend : s.status = .pendingReview) (hget : s.steps[s.currentStep]? = some step) :
    (step.approverIds ≠ [] ∧ u ∉ step.approverIds ∧ approve now s u = s) ∨
    ((step.approverIds ≠ [] → u ∈ step.approverIds) ∧
      ((stepSatisfied (recordApproval now s u) s.currentStep = false ∧
          approve now s u = recordApproval now s u) ∨
        (stepSatisfied (recordApproval now s u) s.currentStep = true ∧
          ∃ next, s.currentStep < next ∧ next ≤ s.steps.length ∧
            (∀ j step', s.currentStep < j → j < next → s.steps[j]? = some step' →
              step'.required = false) ∧
            approve now s u =
              { recordApproval now s u with
                currentStep := next
                status := if s.steps.length ≤ next then .approved else .pendingReview }))) := by
  -- A state in review is handed to the chain.
  have happrove : approve now s u = advanceChain now s u := by rw [approve, hpend]
  rw [happrove, advanceChain, hget]
  by_cases hlist : step.approverIds ≠ [] ∧ u ∉ step.approverIds
  · exact .inl ⟨hlist.1, hlist.2, if_pos hlist⟩
  · refine .inr ⟨fun hne => by_contra fun hu => hlist ⟨hne, hu⟩, ?_⟩
    simp only [if_neg hlist]
    by_cases hsat : stepSatisfied (recordApproval now s u) s.currentStep = true
    · refine .inr ⟨hsat, _, ?_, ?_, ?_, by rw [if_pos hsat, hpend]⟩
      · have hge := (skipOptional_spec (s.steps.drop (s.currentStep + 1)) (s.currentStep + 1)).1
        omega
      · have hle := (skipOptional_spec (s.steps.drop (s.currentStep + 1)) (s.currentStep + 1)).2.1
        have hlt := (List.getElem?_eq_some_iff.mp hget).1
        rw [List.length_drop] at hle
        omega
      · intro j step' hj hjn hget'
        refine (skipOptional_spec (s.steps.drop (s.currentStep + 1)) (s.currentStep + 1)).2.2
          (j - (s.currentStep + 1)) step' (by omega) ?_
        rw [List.getElem?_drop]
        rwa [Nat.add_sub_cancel' hj]
    · exact .inl ⟨Bool.eq_false_iff.mpr hsat, if_neg hsat⟩

end Steps

section Invariant

/-- Where the current step of a state may stand. -/
structure Placed (s : ApprovalState) : Prop where
  step_le : s.currentStep ≤ s.steps.length
  pending_lt : s.status = .pendingReview → s.currentStep < s.steps.length

/-- The step a state in review is at. -/
theorem Placed.current (h : Placed s) (hpend : s.status = .pendingReview) :
    ∃ step, s.steps[s.currentStep]? = some step :=
  ⟨_, List.getElem?_eq_getElem (h.pending_lt hpend)⟩

theorem sendBack_placed (now : Nat) (s : ApprovalState) (u : String) (d : Decision)
    (reason : String) : Placed (sendBack now s u d reason) where
  step_le := Nat.zero_le _
  pending_lt := by intro h; cases h

/-- What every call does: it keeps the chain and the place of its step, and
    moves the status along a transition, if at all. -/
theorem call_keeps (h : Placed s) (c : Call) :
    (s.call c).steps = s.steps ∧ Placed (s.call c) ∧
      ((s.call c).status = s.status ∨ (s.call c).status ∈ approvalTransitions s.status) := by
  have hstay : s.steps = s.steps ∧ Placed s ∧
      (s.status = s.status ∨ s.status ∈ approvalTransitions s.status) := ⟨rfl, h, .inl rfl⟩
  cases c with
  | submit now =>
      simp only [ApprovalState.call, submit]
      split_ifs with hdraft hsteps
      · exact hstay
      · exact hstay
      · rw [ne_eq, not_not] at hdraft
        refine ⟨rfl, ⟨Nat.zero_le _, fun _ => List.length_pos_iff.mpr hsteps⟩, .inr ?_⟩
        rw [hdraft]
        exact List.mem_cons_self
  | approve now u =>
      cases hst : s.status with
      | pendingReview =>
          rcases h.current hst with ⟨step, hget⟩
          rcases approve_cases now u step hst hget with
            ⟨-, -, heq⟩ | ⟨-, ⟨-, heq⟩ | ⟨-, next, -, hle, -, heq⟩⟩
          · rw [ApprovalState.call, heq, ← hst]
            exact hstay
          · rw [ApprovalState.call, heq]
            exact ⟨rfl, ⟨h.step_le, h.pending_lt⟩, .inl hst⟩
          · rw [ApprovalState.call, heq]
            refine ⟨rfl, ⟨hle, ?_⟩, ?_⟩
            · intro hpend
              -- Behind the last step the status is no longer the one of a review.
              by_contra hover
              have hend : s.steps.length ≤ next := Nat.le_of_not_lt hover
              simp only [if_pos hend] at hpend
              cases hpend
            · by_cases hend : s.steps.length ≤ next
              · exact .inr (by simp only [if_pos hend]; decide)
              · exact .inl (if_neg hend)
      | approved =>
          simp only [ApprovalState.call, approve, hst]
          exact ⟨trivial, ⟨h.step_le, by intro hpend; cases hpend⟩, .inr (by decide)⟩
      | draft | active | deprecated | archived =>
          simp only [ApprovalState.call, approve, hst]
          exact ⟨trivial, h, .inl trivial⟩
  | reject now u reason =>
      simp only [ApprovalState.call, reject]
      split_ifs with hpend
      · exact hstay
      · rw [ne_eq, not_not] at hpend
        refine ⟨rfl, sendBack_placed now s u _ _, .inr ?_⟩
        rw [hpend]
        exact List.mem_cons_of_mem _ List.mem_cons_self
  | withdraw now =>
      cases hst : s.status <;> simp only [ApprovalState.call, withdraw, hst]
      case archived => exact ⟨trivial, h, .inl trivial⟩
      all_goals exact ⟨trivial, ⟨h.step_le, by intro hpend; cases hpend⟩, .inr (by decide)⟩
  | checkTimeout now =>
      simp only [ApprovalState.call, checkTimeout]
      split_ifs with hpend
      · exact hstay
      · rw [ne_eq, not_not] at hpend
        split
        · split_ifs
          · refine ⟨rfl, sendBack_placed now s _ _ _, .inr ?_⟩
            rw [hpend]
            exact List.mem_cons_of_mem _ List.mem_cons_self
          · exact hstay
        · exact hstay

theorem run_concat (p : Process) (calls : List Call) (c : Call) :
    p.run (calls ++ [c]) = (p.run calls).step c :=
  List.foldl_concat ..

/-- The state of a process takes the call as it is. -/
theorem step_state (p : Process) (c : Call) : (p.step c).state = p.state.call c := by
  rw [Process.step]
  split <;> rfl

/-- The invariant of every run: the chain is the one it began with, and the
    current step has its place in it. -/
theorem placed_run (steps : List ApprovalStep) (calls : List Call) :
    ((fresh steps).run calls).state.steps = steps ∧ Placed ((fresh steps).run calls).state := by
  induction calls using List.reverseRecOn with
  | nil => exact ⟨rfl, Nat.zero_le _, by intro h; cases h⟩
  | append_singleton calls c ih =>
      rw [run_concat, step_state]
      rcases call_keeps ih.2 c with ⟨hsteps, hplaced, -⟩
      exact ⟨hsteps.trans ih.1, hplaced⟩

end Invariant

section Lists

/-- A property of every call of a run, at the process it is made in. -/
def Along (P : Process → Call → Prop) (steps : List ApprovalStep) (calls : List Call) : Prop :=
  ∀ earlier c later, calls = earlier ++ c :: later → P ((fresh steps).run earlier) c

/-- Someone the current step does not list. A step without a list is open to
    everyone. -/
def OffList (s : ApprovalState) (u : String) : Prop :=
  ∃ step, s.steps[s.currentStep]? = some step ∧ step.approverIds ≠ [] ∧ u ∉ step.approverIds

/-- Who makes a call that decides a step. -/
def Call.decider : Call → Option String
  | .approve _ u => some u
  | .reject _ u _ => some u
  | _ => none

/-- What a call should keep to: the status moves along the transitions, the
    current step stays in its place, and only those on its list decide it. -/
structure Lawful (p : Process) (c : Call) : Prop where
  status_moves : (p.state.call c).status = p.state.status ∨
    (p.state.call c).status ∈ approvalTransitions p.state.status
  step_le : (p.state.call c).currentStep ≤ (p.state.call c).steps.length
  pending_lt : (p.state.call c).status = .pendingReview →
    (p.state.call c).currentStep < (p.state.call c).steps.length
  decided_by : p.state.status = .pendingReview → (p.state.call c).status ≠ .pendingReview →
    ∀ u, c.decider = some u → ¬ OffList p.state u

/-- A rejection in review is by someone on the list. -/
def OnList (p : Process) : Call → Prop
  | .reject _ u _ => p.state.status = .pendingReview → ¬ OffList p.state u
  | _ => True

/-- Approving leaves the review only for someone on the list. -/
theorem approve_onList (hpend : s.status = .pendingReview) (now : Nat) (u : String)
    (hleft : (approve now s u).status ≠ .pendingReview) : ¬ OffList s u := by
  rintro ⟨step, hget, hne, hu⟩
  rcases approve_cases now u step hpend hget with ⟨-, -, heq⟩ | ⟨hlist, -⟩
  · rw [heq] at hleft
    exact hleft hpend
  · exact hu (hlist hne)

/-- A call at a state in its place is lawful exactly if it is not a rejection
    by someone off the list. -/
theorem lawful_iff (h : Placed p.state) (c : Call) : Lawful p c ↔ OnList p c := by
  rcases call_keeps h c with ⟨-, hplaced, hmoves⟩
  constructor
  · intro hlaw
    cases c with
    | reject now u reason =>
        intro hpend
        -- A rejection always leaves the review.
        refine hlaw.decided_by hpend ?_ u rfl
        simp only [ApprovalState.call, reject, hpend, ne_eq, not_true_eq_false, if_false]
        intro hdraft
        cases hdraft
    | submit | approve | withdraw | checkTimeout => trivial
  · intro hon
    refine ⟨hmoves, hplaced.step_le, hplaced.pending_lt, ?_⟩
    intro hpend hleft u hu
    cases c with
    | approve now v =>
        rw [Call.decider, Option.some.injEq] at hu
        rw [← hu]
        exact approve_onList hpend now v hleft
    | reject now v reason =>
        rw [Call.decider, Option.some.injEq] at hu
        rw [← hu]
        exact hon hpend
    | submit | withdraw | checkTimeout => cases hu

/-- Every call of a run is lawful exactly if every rejection in review is by
    someone the current step lists. -/
theorem calls_lawful_iff (steps : List ApprovalStep) (calls : List Call) :
    Along Lawful steps calls ↔ Along OnList steps calls := by
  constructor
  · intro h earlier c later hsplit
    exact (lawful_iff (placed_run steps earlier).2 c).mp (h earlier c later hsplit)
  · intro h earlier c later hsplit
    exact (lawful_iff (placed_run steps earlier).2 c).mpr (h earlier c later hsplit)

/-- A step of one approver is rejected by someone else. -/
theorem stranger_rejects :
    ¬ Along Lawful [{ role := "data_owner", approverIds := ["alice"] }]
      [.submit 0, .reject 0 "mallory" ""] := by
  intro h
  have hlaw := h [.submit 0] (.reject 0 "mallory" "") [] rfl
  refine hlaw.decided_by (by decide) (by decide) "mallory" rfl
    ⟨{ role := "data_owner", approverIds := ["alice"] }, rfl, by decide, by decide⟩

end Lists

section Rounds

/-- Someone has approved a step since the last round began. -/
def Since (p : Process) (i : Nat) (a : String) : Prop :=
  ∃ r ∈ p.state.approvals.drop p.mark, Approves i a r

instance (p : Process) (i : Nat) (a : String) : Decidable (Since p i a) :=
  inferInstanceAs (Decidable (∃ r ∈ p.state.approvals.drop p.mark, Approves i a r))

/-- Everyone who has to approve has done so since the last round began. -/
def Renewed (p : Process) : Prop :=
  ∀ i step, p.state.steps[i]? = some step → step.required = true →
    ∀ a ∈ step.approverIds, Since p i a

/-- An approval that completes a required step, where the approval of another
    listed approver is in the log, but only from before the last round. -/
def Borrows (p : Process) : Call → Prop
  | .approve _ u =>
      p.state.status = .pendingReview ∧
        ∃ step, p.state.steps[p.state.currentStep]? = some step ∧ step.required = true ∧
          u ∈ step.approverIds ∧
          (∀ a ∈ step.approverIds, a ≠ u →
            ∃ r ∈ p.state.approvals, Approves p.state.currentStep a r) ∧
          ∃ a ∈ step.approverIds, a ≠ u ∧ ¬ Since p p.state.currentStep a
  | _ => False

/-- A call of the last round borrows. -/
def Borrowed (steps : List ApprovalStep) (calls : List Call) : Prop :=
  ∃ earlier c later, calls = earlier ++ c :: later ∧
    ((fresh steps).run earlier).round = ((fresh steps).run calls).round ∧
    Borrows ((fresh steps).run earlier) c

/-- The states a round goes through. -/
def InRound (s : ApprovalState) : Prop := s.status = .pendingReview ∨ s.status = .approved

/-- What a round has collected: every required step before the current one is
    approved by all its approvers, unless one of them was borrowed. -/
structure Counted (B : Prop) (p : Process) : Prop where
  mark_le : p.mark ≤ p.state.approvals.length
  kept : ¬ B → ∀ i step, i < p.state.currentStep → p.state.steps[i]? = some step →
    step.required = true → ∀ a ∈ step.approverIds, Since p i a
  missing : B → ∃ i step a, i < p.state.currentStep ∧ p.state.steps[i]? = some step ∧
    step.required = true ∧ a ∈ step.approverIds ∧ ¬ Since p i a
  ended : p.state.status = .approved → p.state.steps.length ≤ p.state.currentStep

theorem round_le_step (p : Process) (c : Call) : p.round ≤ (p.step c).round := by
  rw [Process.step]
  split
  · exact Nat.le_succ p.round
  · exact Nat.le_refl p.round

theorem round_le_run (p : Process) (calls : List Call) : p.round ≤ (p.run calls).round := by
  induction calls generalizing p with
  | nil => exact Nat.le_refl p.round
  | cons c calls ih => exact Nat.le_trans (round_le_step p c) (ih (p.step c))

/-- Where a call of a longer run stands. -/
theorem concat_eq_split {calls earlier later : List Call} {c d : Call}
    (h : calls ++ [c] = earlier ++ d :: later) :
    (earlier = calls ∧ d = c) ∨ ∃ later', calls = earlier ++ d :: later' := by
  -- The call is the last one, or it stands in the run before.
  rcases List.eq_nil_or_concat later with rfl | ⟨later', e, rfl⟩
  · rcases List.append_inj' h rfl with ⟨hcalls, hlast⟩
    rw [List.cons.injEq] at hlast
    exact .inl ⟨hcalls.symm, hlast.1.symm⟩
  · rw [List.concat_eq_append, ← List.cons_append, ← List.append_assoc] at h
    exact .inr ⟨later', (List.append_inj' h rfl).1⟩

/-- A round that has just begun has not borrowed. -/
theorem not_borrowed_of_begun {calls : List Call} {c : Call}
    (h : ((fresh steps).run calls).round < ((fresh steps).run (calls ++ [c])).round) :
    ¬ Borrowed steps (calls ++ [c]) := by
  rintro ⟨earlier, d, later, hsplit, hround, -⟩
  have hle : ((fresh steps).run earlier).round ≤ ((fresh steps).run calls).round := by
    rcases concat_eq_split hsplit with ⟨rfl, -⟩ | ⟨later', rfl⟩
    · exact Nat.le_refl _
    · rw [Process.run, Process.run, List.foldl_append]
      exact round_le_run _ (d :: later')
  omega

/-- A call within a round borrows, or a call before it did. -/
theorem borrowed_concat {calls : List Call} {c : Call}
    (h : ((fresh steps).run (calls ++ [c])).round = ((fresh steps).run calls).round) :
    Borrowed steps (calls ++ [c]) ↔
      Borrowed steps calls ∨ Borrows ((fresh steps).run calls) c := by
  constructor
  · rintro ⟨earlier, d, later, hsplit, hround, hbor⟩
    rcases concat_eq_split hsplit with ⟨rfl, rfl⟩ | ⟨later', rfl⟩
    · exact .inr hbor
    · exact .inl ⟨earlier, d, later', rfl, hround.trans h, hbor⟩
  · rintro (⟨earlier, d, later, rfl, hround, hbor⟩ | hbor)
    · exact ⟨earlier, d, later ++ [c], by simp, hround.trans h.symm, hbor⟩
    · exact ⟨calls, c, [], rfl, h.symm, hbor⟩

/-- What a call makes of a round, other than approving a step: nothing, or it
    ends the round. -/
theorem call_inRound (hin : InRound s) (c : Call)
    (happ : ∀ now u, c = .approve now u → s.status ≠ .pendingReview) :
    s.call c = s ∨ ¬ InRound (s.call c) := by
  cases c with
  | submit now =>
      refine .inl (if_pos ?_)
      rcases hin with h | h <;> rw [h] <;> decide
  | approve now u =>
      have happroved := hin.resolve_left (happ now u rfl)
      simp only [ApprovalState.call, approve, happroved]
      exact .inr (by simp [InRound])
  | reject now u reason =>
      rw [ApprovalState.call, reject]
      split_ifs
      · exact .inl rfl
      · exact .inr (by simp [InRound, sendBack])
  | withdraw now =>
      refine .inr ?_
      rcases hin with h | h <;> simp [ApprovalState.call, withdraw, h, InRound]
  | checkTimeout now =>
      rw [ApprovalState.call, checkTimeout]
      split_ifs
      · exact .inl rfl
      · split
        · split_ifs
          · exact .inr (by simp [InRound, sendBack])
          · exact .inl rfl
        · exact .inl rfl

/-- A round is entered from a draft, at the first step. -/
theorem call_enters (hout : ¬ InRound s) (c : Call) (hin : InRound (s.call c)) :
    s.status = .draft ∧ (s.call c).status = .pendingReview ∧ (s.call c).currentStep = 0 := by
  have hpend : s.status ≠ .pendingReview := fun h => hout (.inl h)
  cases c with
  | submit now =>
      rw [ApprovalState.call, submit] at hin ⊢
      split_ifs at hin ⊢ with hdraft
      · exact absurd hin hout
      · exact absurd hin hout
      · exact ⟨not_not.mp hdraft, rfl, rfl⟩
  | approve now u =>
      cases hst : s.status with
      | pendingReview => exact absurd hst hpend
      | approved => exact absurd (.inr hst) hout
      | draft | active | deprecated | archived =>
          simp only [ApprovalState.call, approve, hst] at hin
          exact absurd hin hout
  | reject now u reason =>
      rw [ApprovalState.call, reject, if_pos hpend] at hin
      exact absurd hin hout
  | withdraw now =>
      cases hst : s.status <;> simp [ApprovalState.call, withdraw, hst, InRound] at hin
  | checkTimeout now =>
      rw [ApprovalState.call, checkTimeout, if_pos hpend] at hin
      exact absurd hin hout

/-- Recording an approval adds that of the caller to those since the round
    began. -/
theorem since_recorded (hle : p.mark ≤ p.state.approvals.length) (now : Nat) (u : String)
    {t : ApprovalState} (hlog : t.approvals = (recordApproval now p.state u).approvals) (i : Nat)
    (a : String) :
    Since { p with state := t } i a ↔ Since p i a ∨ (i = p.state.currentStep ∧ a = u) := by
  -- The approval stands behind the place where the round began.
  simp only [Since]
  rw [hlog, recordApproval, List.drop_append_of_le_length hle]
  simp only [List.mem_append, List.mem_singleton, or_and_right, exists_or, exists_eq_left]
  simp only [Approves, and_true, eq_comm (b := i), eq_comm (b := a)]

/-- A step is complete exactly if all its approvers but the caller have
    approved it before. -/
theorem satisfied_iff {now : Nat} {u : String} {step : ApprovalStep}
    (hget : s.steps[s.currentStep]? = some step) :
    stepSatisfied (recordApproval now s u) s.currentStep = true ↔
      ∀ a ∈ step.approverIds, a ≠ u → ∃ r ∈ s.approvals, Approves s.currentStep a r := by
  have hget' : (recordApproval now s u).steps[s.currentStep]? = some step := hget
  rw [stepSatisfied, hget']
  simp only [List.all_eq_true, List.any_eq_true, decide_eq_true_eq]
  refine forall₂_congr fun a _ => ?_
  rw [recordApproval]
  simp only [List.mem_append, List.mem_singleton, or_and_right, exists_or, exists_eq_left]
  simp only [Approves, true_and, and_true, eq_comm (a := u)]
  rw [or_comm, or_iff_not_imp_left]

/-- Recording an approval makes the log no shorter. -/
theorem mark_le_recorded (hle : p.mark ≤ p.state.approvals.length) (now : Nat) (u : String)
    {t : ApprovalState} (hlog : t.approvals = (recordApproval now p.state u).approvals) :
    p.mark ≤ t.approvals.length := by
  rw [hlog, recordApproval, List.length_append]
  exact Nat.le_add_right_of_le hle

/-- What was missing before the current step is still missing after an approval
    of the current step. -/
theorem missing_recorded {B : Prop} (h : Counted B p) (hB : B) (now : Nat) (u : String)
    {t : ApprovalState} (hlog : t.approvals = (recordApproval now p.state u).approvals)
    (hsteps : t.steps = p.state.steps) (hle : p.state.currentStep ≤ t.currentStep) :
    ∃ i step a, i < t.currentStep ∧ t.steps[i]? = some step ∧ step.required = true ∧
      a ∈ step.approverIds ∧ ¬ Since { p with state := t } i a := by
  rcases h.missing hB with ⟨i, step, a, hi, hget, hreq, ha, hmiss⟩
  refine ⟨i, step, a, Nat.lt_of_lt_of_le hi hle, by rwa [hsteps], hreq, ha, ?_⟩
  rw [since_recorded h.mark_le now u hlog, not_or, not_and]
  exact ⟨hmiss, fun hcur => absurd hcur (Nat.ne_of_lt hi)⟩

/-- An approval in review keeps what the round has collected. The caller's own
    approval is new, and the others are too unless the call borrows. -/
theorem counted_approve {B : Prop} (h : Counted B p) (hplaced : Placed p.state)
    (hpend : p.state.status = .pendingReview) (now : Nat) (u : String) :
    Counted (B ∨ Borrows p (.approve now u)) { p with state := approve now p.state u } := by
  rcases hplaced.current hpend with ⟨step, hget⟩
  rcases approve_cases now u step hpend hget with
    ⟨hne, hu, heq⟩ | ⟨hlist, ⟨hsat, heq⟩ | ⟨hsat, next, hlt, hle, hopt, heq⟩⟩
  · -- Someone off the list changes nothing, and so borrows nothing.
    have hnot : ¬ Borrows p (.approve now u) := by
      rintro ⟨-, step', hget', -, hu', -⟩
      rw [hget, Option.some.injEq] at hget'
      exact hu (hget' ▸ hu')
    rw [heq, or_iff_left hnot]
    exact h
  · -- A step that stays incomplete was not completed with anything.
    have hnot : ¬ Borrows p (.approve now u) := by
      rintro ⟨-, step', hget', -, -, hever, -⟩
      rw [hget, Option.some.injEq] at hget'
      rw [(satisfied_iff hget).mpr (hget' ▸ hever)] at hsat
      cases hsat
    have hlog : (approve now p.state u).approvals = (recordApproval now p.state u).approvals := by
      rw [heq]
    have hsince := since_recorded h.mark_le now u hlog
    rw [or_iff_left hnot]
    refine ⟨mark_le_recorded h.mark_le now u hlog, ?_, ?_, ?_⟩
    · intro hB i step' hi hget' hreq a ha
      rw [heq] at hi hget'
      exact (hsince i a).mpr (.inl (h.kept hB i step' hi hget' hreq a ha))
    · intro hB
      exact missing_recorded h hB now u hlog (by rw [heq]; rfl) (by rw [heq]; exact Nat.le_refl _)
    · intro happroved
      rw [heq] at happroved ⊢
      exact h.ended happroved
  · -- The step is complete. It was borrowed if someone else's approval is old.
    have hlog : (approve now p.state u).approvals = (recordApproval now p.state u).approvals := by
      rw [heq]
    have hsince := since_recorded h.mark_le now u hlog
    refine ⟨mark_le_recorded h.mark_le now u hlog, ?_, ?_, ?_⟩
    · intro hB i step' hi hget' hreq a ha
      rw [heq] at hi hget'
      rw [not_or] at hB
      rcases Nat.lt_trichotomy i p.state.currentStep with hbefore | rfl | hafter
      · exact (hsince i a).mpr (.inl (h.kept hB.1 i step' hbefore hget' hreq a ha))
      · by_cases hau : a = u
        · exact (hsince _ a).mpr (.inr ⟨rfl, hau⟩)
        · refine (hsince _ a).mpr (.inl (by_contra fun hold => hB.2 ?_))
          have hstep : step = step' := Option.some.inj (hget.symm.trans hget')
          subst hstep
          exact ⟨hpend, step, hget, hreq, hlist (List.ne_nil_of_mem ha),
            (satisfied_iff hget).mp hsat, a, ha, hau, hold⟩
      · rw [hopt i step' hafter hi hget'] at hreq
        cases hreq
    · rintro (hB | ⟨-, step', hget', hreq, -, -, a, ha, hau, hold⟩)
      · exact missing_recorded h hB now u hlog (by rw [heq]; rfl)
          (by rw [heq]; exact Nat.le_of_lt hlt)
      · refine ⟨p.state.currentStep, step', a, by rw [heq]; exact hlt, by rwa [heq], hreq, ha, ?_⟩
        rw [hsince, not_or, not_and]
        exact ⟨hold, fun _ => hau⟩
    · intro happroved
      rw [heq] at happroved ⊢
      by_contra hmore
      have hopen : ¬ p.state.steps.length ≤ next := hmore
      simp only [if_neg hopen] at happroved
      cases happroved

/-- What a round has collected so far, after any calls. -/
theorem counted_run (steps : List ApprovalStep) (calls : List Call)
    (hin : InRound ((fresh steps).run calls).state) :
    Counted (Borrowed steps calls) ((fresh steps).run calls) := by
  induction calls using List.reverseRecOn with
  | nil => rcases hin with h | h <;> cases h
  | append_singleton calls c ih =>
      have hplaced := (placed_run steps calls).2
      rw [run_concat, step_state] at hin
      by_cases hbefore : InRound ((fresh steps).run calls).state
      · -- Within a round the process only takes the new state.
        have hstep : (fresh steps).run (calls ++ [c]) =
            { (fresh steps).run calls with state := ((fresh steps).run calls).state.call c } := by
          rw [run_concat, Process.step, if_neg]
          rintro ⟨hdraft, -⟩
          rcases hbefore with h | h <;> rw [h] at hdraft <;> cases hdraft
        have hborrowed : Borrowed steps (calls ++ [c]) ↔
            Borrowed steps calls ∨ Borrows ((fresh steps).run calls) c :=
          borrowed_concat (by rw [hstep])
        rw [hborrowed, hstep]
        by_cases happ : ∃ now u, c = .approve now u ∧
            ((fresh steps).run calls).state.status = .pendingReview
        · rcases happ with ⟨now, u, rfl, hpend⟩
          exact counted_approve (ih hbefore) hplaced hpend now u
        · have hnot : ¬ Borrows ((fresh steps).run calls) c := by
            cases c with
            | approve now u => exact fun h => happ ⟨now, u, rfl, h.1⟩
            | submit | reject | withdraw | checkTimeout => exact id
          rw [or_iff_left hnot]
          have hkeep := call_inRound hbefore c
            (fun now u hc hpend => happ ⟨now, u, hc, hpend⟩)
          rw [hkeep.resolve_right (not_not.mpr hin)]
          exact ih hbefore
      · -- A round that begins has collected nothing yet.
        rcases call_enters hbefore c hin with ⟨hdraft, hpend, hzero⟩
        have hstep : (fresh steps).run (calls ++ [c]) =
            { state := ((fresh steps).run calls).state.call c
              round := ((fresh steps).run calls).round + 1
              mark := (((fresh steps).run calls).state.call c).approvals.length } := by
          rw [run_concat, Process.step, if_pos ⟨hdraft, hpend⟩]
        have hnot : ¬ Borrowed steps (calls ++ [c]) :=
          not_borrowed_of_begun (by rw [hstep]; exact Nat.lt_succ_self _)
        rw [hstep]
        refine ⟨Nat.le_refl _, ?_, fun hB => absurd hB hnot, ?_⟩
        · intro _ i step hi
          rw [hzero] at hi
          exact absurd hi (Nat.not_lt_zero i)
        · intro happroved
          rw [hpend] at happroved
          cases happroved

/-- A chain that is approved has the approval of everyone, from the round that
    ended in it, exactly if no call of that round completed a required step
    with the approval another approver gave before the round began. -/
theorem approved_renewed_iff (steps : List ApprovalStep) (calls : List Call)
    (happroved : ((fresh steps).run calls).state.status = .approved) :
    Renewed ((fresh steps).run calls) ↔ ¬ Borrowed steps calls := by
  have hcounted := counted_run steps calls (.inr happroved)
  constructor
  · intro hrenewed hB
    rcases hcounted.missing hB with ⟨i, step, a, -, hget, hreq, ha, hmiss⟩
    exact hmiss (hrenewed i step hget hreq a ha)
  · intro hB i step hget hreq a ha
    have hlt := (List.getElem?_eq_some_iff.mp hget).1
    exact hcounted.kept hB i step (Nat.lt_of_lt_of_le hlt (hcounted.ended happroved)) hget hreq a ha

/-- A rejection before anyone has approved leaves nothing to borrow. -/
theorem approved_renewed_iff_rejected :
    ((fresh [{ role := "data_owner", approverIds := ["alice"] }]).run
      [.submit 0, .reject 0 "alice" "", .submit 0, .approve 0 "alice"]).state.status = .approved ∧
    (Renewed ((fresh [{ role := "data_owner", approverIds := ["alice"] }]).run
        [.submit 0, .reject 0 "alice" "", .submit 0, .approve 0 "alice"]) ↔
      ¬ Borrowed [{ role := "data_owner", approverIds := ["alice"] }]
        [.submit 0, .reject 0 "alice" "", .submit 0, .approve 0 "alice"]) :=
  ⟨by decide, approved_renewed_iff _ _ (by decide)⟩

/-- Two approvers, of whom one approves and the other rejects. In the next
    round the other one approves, and the step is complete. -/
theorem old_approval_counts :
    ((fresh [{ role := "data_owner", approverIds := ["alice", "bob"] }]).run
      [.submit 0, .approve 0 "alice", .reject 0 "bob" "", .submit 0, .approve 0 "bob"]).state.status
        = .approved ∧
    ¬ Renewed ((fresh [{ role := "data_owner", approverIds := ["alice", "bob"] }]).run
      [.submit 0, .approve 0 "alice", .reject 0 "bob" "", .submit 0, .approve 0 "bob"]) := by
  refine ⟨by decide, fun h => ?_⟩
  have hsince := h 0 { role := "data_owner", approverIds := ["alice", "bob"] } rfl rfl "alice"
    (by decide)
  exact absurd hsince (by decide)

end Rounds

end Approval

end AgenticRag

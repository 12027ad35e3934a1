import Mathlib.Data.List.Basic

/-!
# The Approval of a Skill

A skill goes live through a chain of approval steps. Each step lists who may
approve it, and is complete once all of them have. A rejection or a timeout
sends the skill back to a draft, from which it may be submitted again. The log
of what was decided is only ever added to.

The methods change a state in place and never raise. A call that is not allowed
leaves the state as it is. The clock is read in microseconds, and what is stored
of it are whole seconds.

`Process` follows a state along the calls made on it. It also counts the rounds
and keeps how long the log was when the last one began. No method reads these.

## Main definitions

* `ApprovalState`: A chain, its status and its log.
* `Process`, `Process.run`: A state along a list of calls.
-/

namespace AgenticRag

namespace Approval

/-- How far a process has got. -/
inductive ApprovalStatus where
  | draft
  | pendingReview
  | approved
  | active
  | deprecated
  | archived
  deriving DecidableEq, Repr

/-- `APPROVAL_TRANSITIONS`. -/
def approvalTransitions : ApprovalStatus → List ApprovalStatus
  | .draft => [.pendingReview, .deprecated]
  | .pendingReview => [.approved, .draft, .deprecated]
  | .approved => [.active, .deprecated]
  | .active => [.deprecated]
  | .deprecated => [.archived]
  | .archived => []

/-- Who decides in a step. -/
structure ApprovalStep where
  role : String
  approverIds : List String := []
  timeoutHours : Int := 48
  required : Bool := true
  deriving DecidableEq, Repr

/-- A decision in a step. -/
inductive Decision where
  | approved
  | rejected
  | timeout
  deriving DecidableEq, Repr

/-- A decision as it is recorded. -/
structure ApprovalRecord where
  stepIndex : Nat
  approverId : String
  decision : Decision
  reason : String := ""
  timestamp : Nat
  deriving DecidableEq, Repr

/-- A state. The texts `started_at` and `updated_at` are empty until they are
    first set. -/
structure ApprovalState where
  steps : List ApprovalStep
  currentStep : Nat := 0
  status : ApprovalStatus := .draft
  approvals : List ApprovalRecord := []
  startedAt : Option Nat := none
  updatedAt : Option Nat := none
  deriving DecidableEq, Repr

/-- `_now_iso`: the whole seconds of the clock. -/
def nowIso (now : Nat) : Nat := now / 1000000

section Methods

variable (now : Nat) (s : ApprovalState)

/-- Hand in a draft. -/
def submit : ApprovalState :=
  if s.status ≠ .draft then s
  else if s.steps = [] then s
  else
    { s with
      -- The log is kept, and the date of the first start too.
      status := .pendingReview
      currentStep := 0
      startedAt := s.startedAt.or (some (nowIso now))
      updatedAt := some (nowIso now) }

/-- Whether a record is the approval of a step by someone. -/
def Approves (stepIndex : Nat) (approverId : String) (r : ApprovalRecord) : Prop :=
  r.stepIndex = stepIndex ∧ r.approverId = approverId ∧ r.decision = .approved

instance (stepIndex : Nat) (approverId : String) (r : ApprovalRecord) :
    Decidable (Approves stepIndex approverId r) :=
  inferInstanceAs (Decidable (_ ∧ _ ∧ _))

/-- Whether all of a step's approvers have approved it, anywhere in the log. -/
def stepSatisfied (stepIndex : Nat) : Bool :=
  match s.steps[stepIndex]? with
  | none => true
  | some step =>
      step.approverIds.all (fun a => s.approvals.any (fun r => Approves stepIndex a r))

/-- The first step that is required, from the given one on. -/
def skipOptional : List ApprovalStep → Nat → Nat
  | [], i => i
  | step :: rest, i => if step.required then i else skipOptional rest (i + 1)

/-- The log with the approval of the current step. -/
def recordApproval (approverId : String) : ApprovalState :=
  { s with
    approvals := s.approvals ++
      [{ stepIndex := s.currentStep
         approverId := approverId
         decision := .approved
         timestamp := nowIso now }]
    updatedAt := some (nowIso now) }

/-- Record an approval and go on. -/
def advanceChain (approverId : String) : ApprovalState :=
  match s.steps[s.currentStep]? with
  | none => s
  | some step =>
      if step.approverIds ≠ [] ∧ approverId ∉ step.approverIds then s
      else
        let recorded := recordApproval now s approverId
        if stepSatisfied recorded s.currentStep then
          -- The step is complete, and the next one that is required follows.
          let next := skipOptional (s.steps.drop (s.currentStep + 1)) (s.currentStep + 1)
          { recorded with
            currentStep := next
            status := if s.steps.length ≤ next then .approved else s.status }
        else recorded

/-- Approve a step. -/
def approve (approverId : String) : ApprovalState :=
  match s.status with
  | .pendingReview => advanceChain now s approverId
  -- Whoever approves an approved state activates it.
  | .approved => { s with status := .active, updatedAt := some (nowIso now) }
  | _ => s

/-- The state sent back to a draft, with what was decided in the log. -/
def sendBack (approverId : String) (decision : Decision) (reason : String) : ApprovalState :=
  { s with
    approvals := s.approvals ++
      [{ stepIndex := s.currentStep
         approverId := approverId
         decision := decision
         reason := reason
         timestamp := nowIso now }]
    status := .draft
    currentStep := 0
    updatedAt := some (nowIso now) }

/-- Send a process back. -/
def reject (approverId reason : String) : ApprovalState :=
  if s.status ≠ .pendingReview then s
  -- Nobody asks whether the step lists the caller.
  else sendBack now s approverId .rejected reason

/-- Withdraw a process. -/
def withdraw : ApprovalState :=
  match s.status with
  | .archived => s
  | .deprecated => { s with status := .archived, updatedAt := some (nowIso now) }
  | _ => { s with status := .deprecated, updatedAt := some (nowIso now) }

/-- The current step is over time once more than its hours have passed since
    the state was last changed. -/
def checkTimeout : ApprovalState :=
  if s.status ≠ .pendingReview then s
  else
    match s.steps[s.currentStep]?, s.updatedAt with
    | some step, some started =>
        if step.timeoutHours * 3600000000 < (now : Int) - started * 1000000 then
          sendBack now s "" .timeout s!"步骤 {step.role} 超时（{step.timeoutHours}h）"
        else s
    | _, _ => s

end Methods

section Runs

/-- A call of one of the methods, at some time. -/
inductive Call where
  | submit (now : Nat)
  | approve (now : Nat) (approverId : String)
  | reject (now : Nat) (approverId reason : String)
  | withdraw (now : Nat)
  | checkTimeout (now : Nat)
  deriving DecidableEq, Repr

/-- What a call does. -/
def ApprovalState.call (s : ApprovalState) : Call → ApprovalState
  | .submit now => Approval.submit now s
  | .approve now approverId => Approval.approve now s approverId
  | .reject now approverId reason => Approval.reject now s approverId reason
  | .withdraw now => Approval.withdraw now s
  | .checkTimeout now => Approval.checkTimeout now s

/-- A state, the number of rounds it was submitted for, and the length of its
    log when the last of them began. -/
structure Process where
  state : ApprovalState
  round : Nat := 0
  mark : Nat := 0
  deriving DecidableEq, Repr

/-- A round begins with the call that takes a draft into review. -/
def Process.step (p : Process) (c : Call) : Process :=
  let next := p.state.call c
  if p.state.status = .draft ∧ next.status = .pendingReview then
    { state := next, round := p.round + 1, mark := next.approvals.length }
  else { p with state := next }

/-- What calls in turn do. -/
def Process.run (p : Process) (calls : List Call) : Process := calls.foldl Process.step p

/-- A draft nobody has acted on. -/
def fresh (steps : List ApprovalStep) : Process := { state := { steps := steps } }

end Runs

end Approval

end AgenticRag

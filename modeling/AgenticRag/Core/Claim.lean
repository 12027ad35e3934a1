import AgenticRag.Core.Evidence

/-!
# Claims

The answer is taken apart into claims, and each claim is checked against the
evidence it cites, one pair at a time. A `PairVerdict` is what came of one
pair: a status, whether the verifier itself worked, and what each of its
three layers said. A claim gathers the verdicts of its pairs and keeps apart
the evidence that supports it and the evidence that contradicts it.

The layers answer in words of their own, so their results are texts.

## Main definitions

* `PairStatus`, `VerifierStatus`, `ClaimFinalStatus`: The status words.
* `aggregateVerifierStatus`: The status of several verdicts together.
-/

namespace AgenticRag

/-- The outcome of checking a claim against one piece of evidence. -/
inductive PairStatus where
  | supported
  | contradicted
  | insufficient
  | verifierError
  deriving DecidableEq, Repr

/-- A status as it is written. -/
def PairStatus.text : PairStatus → String
  | .supported => "supported"
  | .contradicted => "contradicted"
  | .insufficient => "insufficient"
  | .verifierError => "verifier_error"

/-- Whether the verifier worked. -/
inductive VerifierStatus where
  | ok
  | timeout
  | error
  | mixed
  | unknown
  | budgetExhausted
  deriving DecidableEq, Repr

/-- The final status of a claim. -/
inductive ClaimFinalStatus where
  | pending
  | supported
  | contradicted
  | insufficient
  | verifierError
  | truncated
  deriving DecidableEq, Repr

/-- The verdict on one pair of claim and evidence. -/
structure PairVerdict where
  evidenceId : String
  pairStatus : PairStatus := .insufficient
  verifierStatus : VerifierStatus := .unknown
  ruleResult : String := "unknown"
  nliResult : String := "unknown"
  llmResult : String := "unknown"
  isCounterEvidence : Bool := false
  deriving DecidableEq, Repr

/-- A claim of the answer. -/
structure Claim where
  claimId : String
  text : String
  span : Int × Int := (0, 0)
  rawDeclaredIndices : List Nat := []
  resolvedDeclaredIds : List String := []
  invalidIndices : List Nat := []
  unauthorizedIds : List String := []
  truncatedCitations : List Nat := []
  verifiedSupportIds : List String := []
  contradictingIds : List String := []
  pairVerdicts : List PairVerdict := []
  verifierStatus : VerifierStatus := .unknown
  finalStatus : ClaimFinalStatus := .pending
  modelIsRequired : Bool := false
  serverIsRequired : Bool := false
  riskLevel : String := "low"
  deriving DecidableEq, Repr

/-- Append a value unless it is there. -/
def addNew {α : Type} [DecidableEq α] (xs : List α) (x : α) : List α :=
  if x ∈ xs then xs else xs ++ [x]

/-- A claim with one more verdict. -/
def Claim.addPairVerdict (claim : Claim) (verdict : PairVerdict) : Claim :=
  let claim := { claim with pairVerdicts := claim.pairVerdicts ++ [verdict] }
  match verdict.pairStatus with
  | .supported =>
      { claim with verifiedSupportIds := addNew claim.verifiedSupportIds verdict.evidenceId }
  | .contradicted =>
      { claim with contradictingIds := addNew claim.contradictingIds verdict.evidenceId }
  | _ => claim

/-- The status of several verdicts together. A failure outranks a timeout,
    and a timeout an exhausted budget. -/
def aggregateVerifierStatus (statuses : List VerifierStatus) : VerifierStatus :=
  if statuses.isEmpty then .unknown
  else if ∀ s ∈ statuses, s = .ok then .ok
  else if .error ∈ statuses then .error
  else if .timeout ∈ statuses then .timeout
  else if .budgetExhausted ∈ statuses then .budgetExhausted
  else .mixed

/-- Whether a claim is critical, by the server's reckoning or the model's. -/
def Claim.isRequired (claim : Claim) : Bool :=
  claim.serverIsRequired || claim.modelIsRequired

/-- Whether some evidence supports a claim. -/
def Claim.hasVerifiedSupport (claim : Claim) : Bool :=
  !claim.verifiedSupportIds.isEmpty

@[simp] theorem mem_addNew {α : Type} [DecidableEq α] {xs : List α} {x y : α} :
    y ∈ addNew xs x ↔ y ∈ xs ∨ y = x := by
  rw [addNew]
  by_cases hx : x ∈ xs
  · rw [if_pos hx]
    exact ⟨Or.inl, fun h => h.elim id (fun he => he ▸ hx)⟩
  · rw [if_neg hx, List.mem_append, List.mem_singleton]

/-- Verdicts that aggregate to `ok` are all `ok`. -/
theorem forall_ok_of_aggregate {statuses : List VerifierStatus} (hne : statuses ≠ [])
    (h : aggregateVerifierStatus statuses ∉
      [VerifierStatus.timeout, .error, .mixed, .budgetExhausted]) :
    ∀ s ∈ statuses, s = .ok := by
  by_contra hall
  apply h
  -- With one that is not `ok` every branch that is left is a failure.
  rw [aggregateVerifierStatus, if_neg (by simpa using hne), if_neg hall]
  split_ifs <;> simp

end AgenticRag

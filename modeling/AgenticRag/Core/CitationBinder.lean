import AgenticRag.Core.Fusion
import AgenticRag.Core.PairVerifier

/-!
# The Citation Binder

Ties the citation numbers in the answer to the evidence of the snapshot and
has each pair checked. A number that is not in the snapshot is invalid, one
whose evidence belongs to another tenant is unauthorised, and the rest are
resolved. The resolved evidence is checked pair by pair; the evidence the
claim did not cite is searched for contradictions; and when no single pair
supports the claim, the cited evidence is tried together.

`bind` checks pairs by the overlap of their entities. `bindAsync` sends the
cited pairs to the pair verifier, all claims in one call, and keeps the
overlap check for the search and for the joint try.

A binder carries the pair budget it has used, and its pair verifier the calls
it has made, from one claim to the next. That is `BinderState`.

## Main definitions

* `VerificationBudget`: The limits of one round.
* `bindAsync`, `bind`: The whole loop.

## Theorems

* `indexToEvidence_eq`: The numbers are those of the snapshot.
-/

namespace AgenticRag

open Py Ordered

/-- The limits of one round of verification. -/
structure VerificationBudget where
  maxClaims : Nat := 30
  maxCitationsPerClaim : Nat := 5
  maxTotalPairs : Nat := 150
  maxLlmCalls : Nat := 50

/-- What a binder is made with. -/
structure CitationBinder where
  snapshot : EvidenceSnapshot
  tenantId : String
  budget : Option VerificationBudget := none
  pairVerifier : Option PairVerifier := none

/-- What a binder carries along: the pairs it has checked, whether its budget
    is spent, and the model calls of its pair verifier. -/
structure BinderState where
  pairBudgetUsed : Nat := 0
  pairBudgetExhausted : Bool := false
  llmCallsUsed : Nat := 0
  deriving DecidableEq

section Entities

/-- The pattern `\d+(?:\.\d+)?[%％]?`. -/
def numberEntity (_ : Option Char) (cs : List Char) : Option (Nat × List Char) :=
  let whole := (cs.takeWhile isDecimal).length
  if whole = 0 then none
  else
    let fraction := match cs.drop whole with
      | '.' :: rest =>
          let ds := (rest.takeWhile isDecimal).length
          if ds = 0 then 0 else ds + 1
      | _ => 0
    let sign := match cs.drop (whole + fraction) with
      | c :: _ => if c = '%' ∨ c = '％' then 1 else 0
      | [] => 0
    some (whole + fraction + sign, cs.take (whole + fraction + sign))

/-- The pattern `\d{4}年|\d{1,2}月|Q[1-4]|20\d{2}-\d{1,2}`, its alternatives
    in this order. -/
def dateEntity (_ : Option Char) (cs : List Char) : Option (Nat × List Char) :=
  let digitsAt := fun i n => ((cs.drop i).take n).length = n ∧ ((cs.drop i).take n).all isDecimal
  -- The first alternative that matches wins, the longer run of digits first.
  let length :=
    if digitsAt 0 4 ∧ cs[4]? = some '年' then 5
    else if digitsAt 0 2 ∧ cs[2]? = some '月' then 3
    else if digitsAt 0 1 ∧ cs[1]? = some '月' then 2
    else if cs[0]? = some 'Q' ∧ (cs[1]?.map (fun c => decide ('1' ≤ c ∧ c ≤ '4'))).getD false then 2
    else if cs.take 2 = ['2', '0'] ∧ digitsAt 2 2 ∧ cs[4]? = some '-' ∧ digitsAt 5 2 then 7
    else if cs.take 2 = ['2', '0'] ∧ digitsAt 2 2 ∧ cs[4]? = some '-' ∧ digitsAt 5 1 then 6
    else 0
  if length = 0 then none else some (length, cs.take length)

/-- The pattern `[\u4e00-\u9fa5]{2,}`. -/
def hanEntity (_ : Option Char) (cs : List Char) : Option (Nat × List Char) :=
  let run := cs.takeWhile (fun c => decide (0x4E00 ≤ c.toNat ∧ c.toNat ≤ 0x9FA5))
  if run.length < 2 then none else some (run.length, run)

/-- The pattern `[A-Z][a-zA-Z]{2,}`. -/
def nameEntity (_ : Option Char) : List Char → Option (Nat × List Char)
  | [] => none
  | c :: cs =>
      let run := cs.takeWhile Char.isAlpha
      if c.isUpper ∧ 2 ≤ run.length then some (run.length + 1, c :: run) else none

/-- The words a text can share with another. -/
def extractEntities (text : String) : List String :=
  let found := fun scan => (reFindall scan none 0 text.toList).map String.ofList
  (found numberEntity ++ found dateEntity ++ found hanEntity ++ found nameEntity).dedup

/-- The words that deny. -/
def negationWords : List String :=
  ["不", "没有", "无", "非", "未", "否认", "反对", "拒绝", "错", "假", "否", "并非", "并未", "相反",
   "冲突"]

/-- The status the overlap of entities gives. A negation on one side only is
    a contradiction once three tenths of the entities are shared. -/
def judgeOverlap (claimText evidenceContent : String) : PairStatus :=
  let claimEnts := extractEntities claimText
  let evEnts := extractEntities evidenceContent
  let overlap := (claimEnts.filter (· ∈ evEnts)).length
  if claimEnts.isEmpty then .insufficient
  else if negationWords.any (contains claimText) ≠ negationWords.any (contains evidenceContent) ∧
      3 * claimEnts.length ≤ 10 * overlap then .contradicted
  else if claimEnts.length ≤ 2 * overlap then .supported
  else .insufficient

/-- Whether a claim and evidence share a word. -/
def hasEntityOverlap (claimText : String) (ev : Evidence) : Bool :=
  let evEnts := extractEntities ev.content
  (extractEntities claimText).any (· ∈ evEnts)

end Entities

section Citations

/-- The pattern `\[(\d+)\]`, reading the number. -/
def citationScan (_ : Option Char) : List Char → Option (Nat × Nat)
  | '[' :: rest =>
      let ds := rest.takeWhile isDecimal
      if ds ≠ [] ∧ rest[ds.length]? = some ']' then some (ds.length + 2, intOfDigits ds) else none
  | _ => none

/-- The citation numbers in a text, in order and with repetitions. -/
def citationsIn (text : String) : List Nat :=
  reFindall citationScan none 0 text.toList

/-- The numbers a claim cites: those in its span of the answer, or else those
    in its own text. -/
def extractCitationsForClaim (claim : Claim) (answerText : String) : List Nat :=
  let cites :=
    if answerText ≠ "" ∧ claim.span.1 < claim.span.2 then
      citationsIn (slice answerText claim.span.1 claim.span.2)
    else []
  if cites.isEmpty then citationsIn claim.text else cites

variable (b : CitationBinder)

/-- The evidence a citation number stands for. -/
def CitationBinder.indexToEvidence (idx : Nat) : Option Evidence :=
  if idx = 0 then none else b.snapshot.evidences[idx - 1]?

/-- The binder and the snapshot number the evidence alike. -/
theorem indexToEvidence_eq (idx : Nat) :
    b.indexToEvidence idx = b.snapshot.getEvidenceByIndex idx := by
  unfold CitationBinder.indexToEvidence EvidenceSnapshot.getEvidenceByIndex
  by_cases hzero : idx = 0
  · rw [if_pos hzero, if_pos (.inl (by omega))]
  rw [if_neg hzero]
  by_cases hover : b.snapshot.evidences.length < idx
  · rw [if_pos (.inr hover), List.getElem?_eq_none (by omega)]
  · rw [if_neg (by omega)]

/-- The evidence by id, in the order of the snapshot. -/
def CitationBinder.evIdToEvidence : List (String × Evidence) :=
  dictOf ((b.snapshot.evidences.filter (fun ev => ev.evidenceId ≠ "")).map
    (fun ev => (ev.evidenceId, ev)))

/-- The citation numbers by id. -/
def CitationBinder.evIdToIndex : List (String × Nat) :=
  dictOf (((b.snapshot.evidences.zipIdx 1).filter (fun p => p.1.evidenceId ≠ "")).map
    (fun p => (p.1.evidenceId, p.2)))

/-- Sort one citation number. -/
def CitationBinder.classifyCitation (claim : Claim) (idx : Nat) : Claim :=
  match b.indexToEvidence idx with
  | none => { claim with invalidIndices := addNew claim.invalidIndices idx }
  | some ev =>
      if ev.evidenceId = "" then { claim with invalidIndices := addNew claim.invalidIndices idx }
      else if ev.tenantId ≠ b.tenantId then
        { claim with unauthorizedIds := addNew claim.unauthorizedIds ev.evidenceId }
      else { claim with resolvedDeclaredIds := addNew claim.resolvedDeclaredIds ev.evidenceId }

/-- A claim with its citations sorted out. -/
def CitationBinder.parseDeclaredCitations (claim : Claim) (citations : List Nat) : Claim :=
  citations.foldl b.classifyCitation
    { claim with
      rawDeclaredIndices := citations
      invalidIndices := []
      unauthorizedIds := []
      resolvedDeclaredIds := [] }

/-- Cut the resolved evidence to the budget. The second component is what is
    left to be checked. -/
def CitationBinder.truncateCitationsByBudget (claim : Claim) : Claim × List String :=
  let resolved := claim.resolvedDeclaredIds
  let claim := { claim with truncatedCitations := [] }
  match b.budget with
  | none => (claim, resolved)
  | some budget =>
      if resolved.length ≤ budget.maxCitationsPerClaim then (claim, resolved)
      else
        let keepIds := resolved.take budget.maxCitationsPerClaim
        let dropIds := resolved.drop budget.maxCitationsPerClaim
        ({ claim with
            truncatedCitations :=
              (dropIds.filterMap (fun evId => b.evIdToIndex.lookup evId)).foldl addNew []
            resolvedDeclaredIds := keepIds }, keepIds)

/-- The first half of the loop body: the numbers are read, sorted and cut,
    and the verdicts of an earlier round are cleared. -/
def CitationBinder.prepareClaim (claim : Claim) (answerText : String) : Claim × List String :=
  let parsed := b.parseDeclaredCitations claim (extractCitationsForClaim claim answerText)
  let cut := b.truncateCitationsByBudget parsed
  ({ cut.1 with pairVerdicts := [], verifiedSupportIds := [], contradictingIds := [] }, cut.2)

/-- Whether a position lies beyond the number of claims to be checked. -/
def CitationBinder.beyondMaxClaims (i : Nat) : Bool :=
  match b.budget with
  | none => false
  | some budget => decide (budget.maxClaims ≤ i)

/-- A claim that is left out. -/
def truncateClaim (claim : Claim) : Claim :=
  { claim with finalStatus := .truncated, verifierStatus := .unknown }

end Citations

section Checks

variable (b : CitationBinder)

/-- Check one pair by overlap. Evidence without text supports nothing. -/
def verifyPair (claim : Claim) (ev : Evidence) : PairVerdict :=
  let pairStatus := if ev.content = "" then .insufficient else judgeOverlap claim.text ev.content
  { evidenceId := ev.evidenceId
    pairStatus := pairStatus
    verifierStatus := .ok
    ruleResult := pairStatus.text }

/-- The verdict on a pair, within the budget. -/
def CitationBinder.verifyPairWithBudget (claim : Claim) (ev : Evidence) (st : BinderState) :
    PairVerdict × BinderState :=
  if st.pairBudgetExhausted then
    ({ evidenceId := ev.evidenceId
       pairStatus := .verifierError
       verifierStatus := .budgetExhausted }, st)
  else
    let st' := match b.budget with
      | none => st
      | some budget =>
          { st with
            pairBudgetUsed := st.pairBudgetUsed + 1
            pairBudgetExhausted := decide (budget.maxTotalPairs ≤ st.pairBudgetUsed + 1) }
    (verifyPair claim ev, st')

/-- Search the evidence for contradictions. Evidence the claim cites and
    evidence of other tenants is passed over, and a spent budget ends the
    search. -/
def CitationBinder.scanLoop (b : CitationBinder) (claim : Claim) :
    List (String × Evidence) → BinderState → List PairVerdict × BinderState
  | [], st => ([], st)
  | (evId, ev) :: rest, st =>
      if evId ∈ claim.resolvedDeclaredIds ∨ evId ∈ claim.unauthorizedIds then
        b.scanLoop claim rest st
      else if ev.tenantId ≠ b.tenantId then b.scanLoop claim rest st
      else if ¬ hasEntityOverlap claim.text ev then b.scanLoop claim rest st
      else if st.pairBudgetExhausted then ([], st)
      else
        let checked := b.verifyPairWithBudget claim ev st
        let later := b.scanLoop claim rest checked.2
        if checked.1.pairStatus = .contradicted then
          ({ checked.1 with isCounterEvidence := true } :: later.1, later.2)
        else later

/-- The evidence against a claim that it does not cite. -/
def CitationBinder.scanCounterEvidence (claim : Claim) (st : BinderState) :
    List PairVerdict × BinderState :=
  b.scanLoop claim b.evIdToEvidence st

/-- Try the cited evidence together. -/
def CitationBinder.verifyJointSupport (claim : Claim) (evidenceIds : List String) : PairVerdict :=
  let evidences := evidenceIds.filterMap (fun evId => b.evIdToEvidence.lookup evId)
  let contents := (evidences.map Evidence.content).filter (· ≠ "")
  let jointContent := join "\n" contents
  let pairStatus :=
    if jointContent = "" then .insufficient else judgeOverlap claim.text jointContent
  { evidenceId := join "," evidenceIds
    pairStatus := pairStatus
    verifierStatus := .ok
    llmResult := pairStatus.text }

/-- The second half of the loop body: the search for contradictions, the
    joint try and the aggregate of the verifier's status. -/
def CitationBinder.finishClaim (authIds : List String) (claim : Claim) (st : BinderState) :
    Claim × BinderState :=
  let counter := b.scanCounterEvidence claim st
  let claim := counter.1.foldl Claim.addPairVerdict claim
  let joint := b.verifyJointSupport claim authIds
  -- The joint verdict is recorded under all its ids and only when it supports.
  let claim :=
    if ¬ claim.hasVerifiedSupport ∧ 1 < authIds.length ∧ joint.pairStatus = .supported then
      { claim with
        verifiedSupportIds := claim.verifiedSupportIds ++ authIds
        pairVerdicts := claim.pairVerdicts ++ [joint] }
    else claim
  ({ claim with
      verifierStatus :=
        aggregateVerifierStatus (claim.pairVerdicts.map PairVerdict.verifierStatus) },
    counter.2)

end Checks

section Binding

variable (b : CitationBinder)

/-- The first loop of `bindAsync`. -/
def CitationBinder.prepareAll (claims : List Claim) (answerText : String) :
    List (Claim × List String) :=
  claims.zipIdx.map (fun p =>
    if b.beyondMaxClaims p.2 then (truncateClaim p.1, []) else b.prepareClaim p.1 answerText)

/-- The pairs of one prepared claim, under the position of the claim. -/
def CitationBinder.pairsOf (p : (Claim × List String) × Nat) :
    List ((Nat × String) × PairInput) :=
  if p.1.1.finalStatus = .truncated then []
  else p.1.2.filterMap (fun evId =>
    (b.evIdToEvidence.lookup evId).map (fun ev =>
      ((p.2, evId), ⟨p.1.1.text, ev.content, evId⟩)))

/-- The last loop of `bindAsync`, on one claim. -/
def CitationBinder.fillClaim (resultByKey : List ((Nat × String) × PairVerdict))
    (p : (Claim × List String) × Nat) (st : BinderState) : Claim × BinderState :=
  if p.1.1.finalStatus = .truncated then (p.1.1, st)
  else
    let verdicts := p.1.2.filterMap (fun evId => resultByKey.lookup (p.2, evId))
    b.finishClaim p.1.2 (verdicts.foldl Claim.addPairVerdict p.1.1) st

/-- Bind with the pair verifier, which must be there. -/
def CitationBinder.bindAsync (st : BinderState) (claims : List Claim) (answerText : String) :
    Except Exc (List Claim × BinderState) :=
  match b.pairVerifier with
  | none => .error .runtimeError
  | some pv =>
      let prepared := (b.prepareAll claims answerText).zipIdx
      -- The pairs of all claims go to the verifier in one call.
      let keyed := prepared.flatMap b.pairsOf
      match pv.verifyPairs st.llmCallsUsed (keyed.map Prod.snd) with
      | .error e => .error e
      | .ok (results, llmCallsUsed) =>
          let resultByKey :=
            dictOf ((keyed.map Prod.fst).zip (results.map PairResult.toPairVerdict))
          .ok (mapState (b.fillClaim resultByKey) prepared
            { st with llmCallsUsed := llmCallsUsed })

/-- Check the cited pairs of one claim by overlap. -/
def CitationBinder.verifyDeclared (claim : Claim) (authIds : List String) (st : BinderState) :
    Claim × BinderState :=
  let checked := mapState (b.verifyPairWithBudget claim)
    (authIds.filterMap (fun evId => b.evIdToEvidence.lookup evId)) st
  (checked.1.foldl Claim.addPairVerdict claim, checked.2)

/-- Bind one claim. -/
def CitationBinder.bindClaim (answerText : String) (p : Claim × Nat) (st : BinderState) :
    Claim × BinderState :=
  if b.beyondMaxClaims p.2 then (truncateClaim p.1, st)
  else
    let prepared := b.prepareClaim p.1 answerText
    let checked := b.verifyDeclared prepared.1 prepared.2 st
    b.finishClaim prepared.2 checked.1 checked.2

/-- Bind by overlap alone. -/
def CitationBinder.bind (st : BinderState) (claims : List Claim) (answerText : String) :
    List Claim × BinderState :=
  mapState (b.bindClaim answerText) claims.zipIdx st

end Binding

end AgenticRag

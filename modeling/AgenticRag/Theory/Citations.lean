import AgenticRag.Core.CitationBinder

/-!
# Every Citation Accounted For

The numbers a claim cites are read off its region of the answer and sorted:
numbers without evidence, evidence of other tenants, and evidence the claim may
use, of which the budget keeps the first so many and drops the rest. Each class
is kept in a list of its own, some by number and some by id, and each list is
built without repetition.

Where the ids of a snapshot are different and not empty, a number and an id say
the same (`lookup_evIdToIndex`). What each list holds can then be said number
by number: a number is in a class by what the snapshot has at it and, for the
last two classes, by where its id stands among those that were resolved. So a
number that was read falls in exactly one class.

A claim beyond the number of claims to be checked is not read at all and keeps
the lists it came with, so this is about the claims before that.

## Main definitions

* `Markers`: The citation marks of a text, one after the other.
* `Accounted`: What a bound claim says of its citations.

## Theorems

* `foldl_classifyCitation`: The three lists after sorting.
* `lookup_evIdToIndex`: Numbers and ids say the same.
* `bind_accounted`: Every citation is accounted for.
-/

namespace AgenticRag

open Py Ordered

section Marks

/-- A mark at the beginning of a text: a number in brackets, and what is
    behind it. -/
def MarkAt (text : List Char) (ds rest : List Char) : Prop :=
  text = '[' :: (ds ++ ']' :: rest) ∧ ds ≠ [] ∧ ∀ c ∈ ds, isDecimal c = true

/-- The numbers of the marks of a text, from left to right. -/
inductive Markers : List Char → List Nat → Prop where
  | nil : Markers [] []
  | mark {text ds rest : List Char} {ns : List Nat} :
      MarkAt text ds rest → Markers rest ns → Markers text (intOfDigits ds :: ns)
  | skip {c : Char} {cs : List Char} {ns : List Nat} :
      (∀ ds rest, ¬ MarkAt (c :: cs) ds rest) → Markers cs ns → Markers (c :: cs) ns

theorem isDecimal_bracket : isDecimal ']' = false := by decide

/-- The digits before a bracket are all the digits there are. -/
theorem takeWhile_digits {ds rest : List Char} (h : ∀ c ∈ ds, isDecimal c = true) :
    (ds ++ ']' :: rest).takeWhile isDecimal = ds := by
  rw [List.takeWhile_append_of_pos h, List.takeWhile_cons_of_neg (by simp [isDecimal_bracket]),
    List.append_nil]

/-- The scanner finds a mark where there is one, and nothing else. -/
theorem citationScan_eq_some_iff {before : Option Char} {text : List Char} {n number : Nat} :
    citationScan before text = some (n, number) ↔
      ∃ ds rest, MarkAt text ds rest ∧ n = ds.length + 2 ∧ number = intOfDigits ds := by
  constructor
  · intro h
    cases text with
    | nil => exact absurd h (by simp [citationScan])
    | cons c rest =>
        unfold citationScan at h
        -- The scanner answers at an opening bracket only.
        split at h
        · next tail heq =>
            cases heq
            dsimp only at h
            split_ifs at h with hmark
            cases h
            have hget : (rest.takeWhile isDecimal ++
                rest.dropWhile isDecimal)[(rest.takeWhile isDecimal).length]? =
                (rest.dropWhile isDecimal)[0]? := by
              rw [List.getElem?_append_right (le_refl _), Nat.sub_self]
            rw [List.takeWhile_append_dropWhile, hmark.2] at hget
            -- The bracket is the first character that is no digit.
            cases htail : rest.dropWhile isDecimal with
            | nil =>
                rw [htail] at hget
                cases hget
            | cons d tail =>
                rw [htail] at hget
                cases hget
                refine ⟨rest.takeWhile isDecimal, tail, ⟨?_, hmark.1, fun c hc =>
                  List.all_eq_true.mp List.all_takeWhile c hc⟩, rfl, rfl⟩
                rw [← htail, List.takeWhile_append_dropWhile]
        · cases h
  · rintro ⟨ds, rest, ⟨rfl, hne, hds⟩, rfl, rfl⟩
    rw [citationScan, takeWhile_digits hds]
    exact if_pos ⟨hne, by rw [List.getElem?_append_right (le_refl _), Nat.sub_self]; rfl⟩

theorem reFindall_skip {α : Type} (scan : Option Char → List Char → Option (Nat × α))
    (before : Option Char) (skipped rest : List Char) :
    ∃ before', reFindall scan before skipped.length (skipped ++ rest) =
      reFindall scan before' 0 rest := by
  induction skipped generalizing before with
  | nil => exact ⟨before, rfl⟩
  | cons c cs ih => exact ih (some c)

/-- The numbers that are read are those of the marks, in order. -/
theorem markers_reFindall (before : Option Char) (text : List Char) :
    Markers text (reFindall citationScan before 0 text) := by
  -- The induction is on the length, since a mark is skipped as a whole.
  induction hlen : text.length using Nat.strong_induction_on generalizing before text with
  | _ n ih =>
      cases text with
      | nil =>
          unfold reFindall
          exact .nil
      | cons c cs =>
          cases hscan : citationScan before (c :: cs) with
          | none =>
              have hstep : reFindall citationScan before 0 (c :: cs) =
                  reFindall citationScan (some c) 0 cs := by
                rw [reFindall, hscan]
              rw [hstep]
              refine .skip (fun ds rest hmark => ?_)
                (ih cs.length (by rw [← hlen, List.length_cons]; omega) (some c) cs rfl)
              have hfound : citationScan before (c :: cs) = some (ds.length + 2, intOfDigits ds) :=
                citationScan_eq_some_iff.mpr ⟨ds, rest, hmark, rfl, rfl⟩
              rw [hscan] at hfound
              cases hfound
          | some found =>
              rcases found with ⟨k, number⟩
              rcases citationScan_eq_some_iff.mp hscan with ⟨ds, rest, hmark, rfl, rfl⟩
              have htext : cs = (ds ++ [']']) ++ rest := by
                rw [(List.cons.inj hmark.1).2, List.append_assoc, List.singleton_append]
              -- The search goes on behind the mark.
              rcases reFindall_skip citationScan (some c) (ds ++ [']']) rest with ⟨before', hskip⟩
              have hstep : reFindall citationScan before 0 (c :: cs) =
                  intOfDigits ds :: reFindall citationScan before' 0 rest := by
                rw [reFindall, hscan, ← hskip, htext, List.length_append, List.length_singleton]
              rw [hstep]
              refine .mark hmark (ih rest.length ?_ before' rest rfl)
              rw [← hlen, List.length_cons, htext, List.length_append, List.length_append]
              omega

theorem markers_citationsIn (text : String) : Markers text.toList (citationsIn text) :=
  markers_reFindall none text.toList

/-- The text the marks of a claim are read from: its span of the answer, if
    there is a mark in it, and else its own text. -/
def claimRegion (claim : Claim) (answerText : String) : String :=
  if answerText ≠ "" ∧ claim.span.1 < claim.span.2 ∧
      citationsIn (slice answerText claim.span.1 claim.span.2) ≠ [] then
    slice answerText claim.span.1 claim.span.2
  else claim.text

theorem extractCitationsForClaim_eq (claim : Claim) (answerText : String) :
    extractCitationsForClaim claim answerText = citationsIn (claimRegion claim answerText) := by
  unfold extractCitationsForClaim claimRegion
  dsimp only
  by_cases hspan : answerText ≠ "" ∧ claim.span.1 < claim.span.2
  · rw [if_pos hspan]
    by_cases hnone : citationsIn (slice answerText claim.span.1 claim.span.2) = []
    · rw [hnone, List.isEmpty_nil, if_pos rfl, if_neg (fun h => h.2.2 rfl)]
    · rw [if_neg (by simpa using hnone), if_pos ⟨hspan.1, hspan.2, hnone⟩]
  · rw [if_neg hspan, List.isEmpty_nil, if_pos rfl, if_neg (fun h => hspan ⟨h.1, h.2.1⟩)]

end Marks

section Firsts

variable {α : Type} [DecidableEq α]

/-- A list without what comes again. -/
def firsts (xs : List α) : List α := xs.foldl addNew []

theorem addNew_nodup {xs : List α} (h : xs.Nodup) (x : α) : (addNew xs x).Nodup := by
  rw [addNew]
  split_ifs with hx
  · exact h
  · rw [← List.concat_eq_append]
    exact h.concat hx

theorem foldl_addNew_nodup (xs : List α) {acc : List α} (h : acc.Nodup) :
    (xs.foldl addNew acc).Nodup := by
  induction xs generalizing acc with
  | nil => exact h
  | cons x xs ih => exact ih (addNew_nodup h x)

theorem mem_foldl_addNew (xs acc : List α) {y : α} :
    y ∈ xs.foldl addNew acc ↔ y ∈ acc ∨ y ∈ xs := by
  induction xs generalizing acc with
  | nil => simp
  | cons x xs ih => rw [List.foldl_cons, ih, mem_addNew, List.mem_cons, or_assoc]

theorem firsts_nodup (xs : List α) : (firsts xs).Nodup := foldl_addNew_nodup xs List.nodup_nil

@[simp] theorem mem_firsts {xs : List α} {y : α} : y ∈ firsts xs ↔ y ∈ xs := by
  rw [firsts, mem_foldl_addNew]
  simp

end Firsts

section Classes

variable (b : CitationBinder)

/-- The evidence a number stands for, if it can be named. -/
def CitationBinder.namedEvidence (idx : Nat) : Option Evidence :=
  (b.indexToEvidence idx).filter (fun ev => ev.evidenceId ≠ "")

/-- The id behind a number, where it is the tenant's own. -/
def CitationBinder.ownId (idx : Nat) : Option String :=
  ((b.namedEvidence idx).filter (fun ev => ev.tenantId = b.tenantId)).map Evidence.evidenceId

/-- The id behind a number, where it is another tenant's. -/
def CitationBinder.foreignId (idx : Nat) : Option String :=
  ((b.namedEvidence idx).filter (fun ev => ev.tenantId ≠ b.tenantId)).map Evidence.evidenceId

/-- What one number adds to the three lists. -/
theorem classifyCitation_eq (claim : Claim) (idx : Nat) :
    b.classifyCitation claim idx =
      { claim with
        invalidIndices := ([idx].filter (fun i => (b.namedEvidence i).isNone)).foldl addNew
          claim.invalidIndices
        unauthorizedIds := ([idx].filterMap b.foreignId).foldl addNew claim.unauthorizedIds
        resolvedDeclaredIds :=
          ([idx].filterMap b.ownId).foldl addNew claim.resolvedDeclaredIds } := by
  unfold CitationBinder.classifyCitation CitationBinder.foreignId CitationBinder.ownId
    CitationBinder.namedEvidence
  cases hev : b.indexToEvidence idx with
  | none => simp [hev]
  | some ev =>
      by_cases hempty : ev.evidenceId = ""
      · simp [hev, hempty]
      · by_cases htenant : ev.tenantId = b.tenantId
        · simp [hev, hempty, htenant]
        · simp [hev, hempty, htenant]

/-- The three lists after sorting: each number in its class, and nothing
    twice. -/
theorem foldl_classifyCitation (citations : List Nat) (claim : Claim) :
    citations.foldl b.classifyCitation claim =
      { claim with
        invalidIndices := (citations.filter (fun i => (b.namedEvidence i).isNone)).foldl addNew
          claim.invalidIndices
        unauthorizedIds := (citations.filterMap b.foreignId).foldl addNew claim.unauthorizedIds
        resolvedDeclaredIds :=
          (citations.filterMap b.ownId).foldl addNew claim.resolvedDeclaredIds } := by
  induction citations generalizing claim with
  | nil => rfl
  | cons idx rest ih =>
      -- One number adds to the lists what a list of one does.
      have hsplit : idx :: rest = [idx] ++ rest := rfl
      rw [List.foldl_cons, ih, classifyCitation_eq, hsplit, List.filter_append,
        List.filterMap_append, List.filterMap_append, List.foldl_append, List.foldl_append,
        List.foldl_append]

/-- How many of a number of resolved ids are kept. -/
def CitationBinder.citationLimit (n : Nat) : Nat :=
  match b.budget with
  | none => n
  | some budget => budget.maxCitationsPerClaim

/-- The cut, whether there is anything to cut or not. -/
theorem truncateCitationsByBudget_eq (claim : Claim) :
    let limit := b.citationLimit claim.resolvedDeclaredIds.length
    b.truncateCitationsByBudget claim =
      ({ claim with
          truncatedCitations := firsts ((claim.resolvedDeclaredIds.drop limit).filterMap
            (fun evId => b.evIdToIndex.lookup evId))
          resolvedDeclaredIds := claim.resolvedDeclaredIds.take limit },
        claim.resolvedDeclaredIds.take limit) := by
  unfold CitationBinder.truncateCitationsByBudget CitationBinder.citationLimit
  cases b.budget with
  | none =>
      dsimp only
      rw [List.take_length, List.drop_length]
      rfl
  | some budget =>
      dsimp only
      split_ifs with hle
      · rw [List.take_of_length_le hle, List.drop_of_length_le hle]
        rfl
      · rfl

/-- The lists of a claim that say what it cites. -/
structure Declared where
  raw : List Nat
  invalid : List Nat
  unauthorized : List String
  resolved : List String
  truncated : List Nat

/-- What a claim declares. -/
def Claim.declared (claim : Claim) : Declared :=
  ⟨claim.rawDeclaredIndices, claim.invalidIndices, claim.unauthorizedIds,
    claim.resolvedDeclaredIds, claim.truncatedCitations⟩

/-- What citations are made into. -/
def CitationBinder.sorted (citations : List Nat) : Declared :=
  let resolved := firsts (citations.filterMap b.ownId)
  let limit := b.citationLimit resolved.length
  { raw := citations
    invalid := firsts (citations.filter (fun i => (b.namedEvidence i).isNone))
    unauthorized := firsts (citations.filterMap b.foreignId)
    resolved := resolved.take limit
    truncated := firsts ((resolved.drop limit).filterMap (fun evId => b.evIdToIndex.lookup evId)) }

/-- The first half of the loop body: the five lists come from the citations,
    the verdicts are cleared, and nothing else is touched. -/
theorem prepareClaim_eq (claim : Claim) (answerText : String) :
    let d := b.sorted (extractCitationsForClaim claim answerText)
    b.prepareClaim claim answerText =
      ({ claim with
          rawDeclaredIndices := d.raw
          invalidIndices := d.invalid
          unauthorizedIds := d.unauthorized
          resolvedDeclaredIds := d.resolved
          truncatedCitations := d.truncated
          pairVerdicts := []
          verifiedSupportIds := []
          contradictingIds := [] }, d.resolved) := by
  have hparse : ∀ citations, b.parseDeclaredCitations claim citations =
      { claim with
        rawDeclaredIndices := citations
        invalidIndices := firsts (citations.filter (fun i => (b.namedEvidence i).isNone))
        unauthorizedIds := firsts (citations.filterMap b.foreignId)
        resolvedDeclaredIds := firsts (citations.filterMap b.ownId) } := by
    intro citations
    unfold CitationBinder.parseDeclaredCitations
    rw [foldl_classifyCitation]
    rfl
  unfold CitationBinder.prepareClaim
  dsimp only
  rw [truncateCitationsByBudget_eq, hparse]
  rfl

/-- The verdicts leave what a claim cites as it is. -/
theorem addPairVerdict_declared (claim : Claim) (v : PairVerdict) :
    (claim.addPairVerdict v).declared = claim.declared := by
  unfold Claim.addPairVerdict
  cases v.pairStatus <;> rfl

theorem foldl_addPairVerdict_declared (vs : List PairVerdict) (claim : Claim) :
    (vs.foldl Claim.addPairVerdict claim).declared = claim.declared := by
  induction vs generalizing claim with
  | nil => rfl
  | cons v vs ih => rw [List.foldl_cons, ih, addPairVerdict_declared]

theorem bindClaim_declared {answerText : String} {claim : Claim} {i : Nat}
    (hin : b.beyondMaxClaims i = false) (st : BinderState) :
    (b.bindClaim answerText (claim, i) st).1.declared =
      b.sorted (extractCitationsForClaim claim answerText) := by
  have hfinish : ∀ (authIds : List String) (c : Claim) (st : BinderState),
      (b.finishClaim authIds c st).1.declared = c.declared := by
    intro authIds c st
    rw [← foldl_addPairVerdict_declared (b.scanCounterEvidence c st).1 c]
    unfold CitationBinder.finishClaim
    dsimp only
    split_ifs <;> rfl
  have hverify : ∀ (c : Claim) (authIds : List String) (st : BinderState),
      (b.verifyDeclared c authIds st).1.declared = c.declared :=
    fun c authIds st => foldl_addPairVerdict_declared _ c
  unfold CitationBinder.bindClaim
  rw [if_neg (by rw [hin]; exact Bool.false_ne_true)]
  dsimp only
  rw [hfinish, hverify, prepareClaim_eq]
  rfl

end Classes

section Accounts

/-- The ids of a snapshot are different and not empty. -/
structure DistinctIds (snapshot : EvidenceSnapshot) : Prop where
  nodup : (snapshot.evidences.map Evidence.evidenceId).Nodup
  named : ∀ ev ∈ snapshot.evidences, ev.evidenceId ≠ ""

/-- The four classes of a citation. -/
inductive CitationClass where
  | invalid
  | unauthorized
  | resolved
  | truncated
  deriving DecidableEq, Repr

variable (b : CitationBinder)

/-- A claim has a number in one of its classes: two of its lists hold numbers,
    and two hold ids, whose numbers are looked up. -/
def InClass (claim : Claim) : CitationClass → Nat → Prop
  | .invalid, idx => idx ∈ claim.invalidIndices
  | .unauthorized, idx => ∃ evId ∈ claim.unauthorizedIds, b.evIdToIndex.lookup evId = some idx
  | .resolved, idx => ∃ evId ∈ claim.resolvedDeclaredIds, b.evIdToIndex.lookup evId = some idx
  | .truncated, idx => idx ∈ claim.truncatedCitations

/-- Every number a claim cites is in one of its classes and only in one. No
    list has anything twice; what is resolved stands in the order in which it
    was cited first, and is no more than the budget allows. -/
structure Accounted (claim : Claim) : Prop where
  partition : ∀ idx ∈ claim.rawDeclaredIndices, ∃! k, InClass b claim k idx
  invalid_nodup : claim.invalidIndices.Nodup
  unauthorized_nodup : claim.unauthorizedIds.Nodup
  resolved_nodup : claim.resolvedDeclaredIds.Nodup
  truncated_nodup : claim.truncatedCitations.Nodup
  order : claim.resolvedDeclaredIds <+: firsts (claim.rawDeclaredIndices.filterMap b.ownId)
  limit : ∀ budget ∈ b.budget, claim.resolvedDeclaredIds.length ≤ budget.maxCitationsPerClaim

/-- The class of a number: what the snapshot has at it, and for the evidence of
    the tenant whether its id is among those that are kept. -/
def CitationBinder.classOf (b : CitationBinder) (kept : List String) (idx : Nat) :
    CitationClass :=
  match b.indexToEvidence idx with
  | none => .invalid
  | some ev =>
      if ev.tenantId ≠ b.tenantId then .unauthorized
      else if ev.evidenceId ∈ kept then .resolved
      else .truncated

variable {b}

theorem classOf_of_some {kept : List String} {idx : Nat} {ev : Evidence}
    (h : b.indexToEvidence idx = some ev) :
    b.classOf kept idx =
      if ev.tenantId ≠ b.tenantId then .unauthorized
      else if ev.evidenceId ∈ kept then .resolved
      else .truncated := by
  rw [CitationBinder.classOf, h]

theorem classOf_of_none {kept : List String} {idx : Nat} (h : b.indexToEvidence idx = none) :
    b.classOf kept idx = .invalid := by
  rw [CitationBinder.classOf, h]

section Fields

variable {claim : Claim} {citations : List Nat} (h : claim.declared = b.sorted citations)

include h

theorem invalidIndices_of_declared : claim.invalidIndices =
    firsts (citations.filter (fun i => (b.namedEvidence i).isNone)) :=
  congrArg Declared.invalid h

theorem unauthorizedIds_of_declared :
    claim.unauthorizedIds = firsts (citations.filterMap b.foreignId) :=
  congrArg Declared.unauthorized h

theorem resolvedDeclaredIds_of_declared : claim.resolvedDeclaredIds =
    (firsts (citations.filterMap b.ownId)).take
      (b.citationLimit (firsts (citations.filterMap b.ownId)).length) :=
  congrArg Declared.resolved h

theorem truncatedCitations_of_declared : claim.truncatedCitations =
    firsts (((firsts (citations.filterMap b.ownId)).drop
      (b.citationLimit (firsts (citations.filterMap b.ownId)).length)).filterMap
        (fun evId => b.evIdToIndex.lookup evId)) :=
  congrArg Declared.truncated h

end Fields

/-- A number that is not invalid has evidence, which decides its class. -/
theorem exists_of_classOf {kept : List String} {idx : Nat} {k : CitationClass}
    (hk : k ≠ .invalid) (h : b.classOf kept idx = k) :
    ∃ ev, b.indexToEvidence idx = some ev ∧
      (if ev.tenantId ≠ b.tenantId then CitationClass.unauthorized
      else if ev.evidenceId ∈ kept then .resolved
      else .truncated) = k := by
  cases hev : b.indexToEvidence idx with
  | none =>
      rw [classOf_of_none hev] at h
      exact absurd h.symm hk
  | some ev =>
      rw [classOf_of_some hev] at h
      exact ⟨ev, rfl, h⟩

variable (hids : DistinctIds b.snapshot)

include hids

/-- With different ids, a number is looked up by the id of its evidence. -/
theorem lookup_evIdToIndex {evId : String} {idx : Nat} :
    b.evIdToIndex.lookup evId = some idx ↔
      ∃ ev, b.indexToEvidence idx = some ev ∧ ev.evidenceId = evId := by
  -- No id comes twice, so no entry is written over.
  have hkeys : ((((b.snapshot.evidences.zipIdx 1).filter (fun p => p.1.evidenceId ≠ "")).map
      (fun p => (p.1.evidenceId, p.2))).map Prod.fst).Nodup := by
    have hall : ((b.snapshot.evidences.zipIdx 1).map (fun p => p.1.evidenceId)).Nodup := by
      have hmap := congrArg (List.map Evidence.evidenceId)
        (List.zipIdx_map_fst 1 b.snapshot.evidences)
      rw [List.map_map] at hmap
      exact hmap ▸ hids.nodup
    rw [List.map_map]
    exact hall.sublist (List.filter_sublist.map _)
  unfold CitationBinder.evIdToIndex CitationBinder.indexToEvidence
  rw [dictOf_of_nodup hkeys]
  constructor
  · intro h
    rcases List.mem_map.mp (mem_of_lookup h) with ⟨⟨ev, n⟩, hmem, heq⟩
    cases heq
    rcases List.mem_zipIdx (List.mem_filter.mp hmem).1 with ⟨hlow, hhigh, hev⟩
    refine ⟨ev, ?_, rfl⟩
    rw [if_neg (by omega), hev]
    exact List.getElem?_eq_getElem (by omega)
  · rintro ⟨ev, hev, rfl⟩
    split_ifs at hev with hzero
    refine lookup_of_mem _ hkeys (List.mem_map.mpr ⟨(ev, idx), ?_, rfl⟩)
    refine List.mem_filter.mpr ⟨?_, by simpa using hids.named ev (List.mem_of_getElem? hev)⟩
    rw [List.mem_zipIdx_iff_le_and_getElem?_sub]
    exact ⟨by omega, hev⟩

/-- Then a number has one id, and an id one number. -/
theorem index_unique {i j : Nat} {ev ev' : Evidence} (hi : b.indexToEvidence i = some ev)
    (hj : b.indexToEvidence j = some ev') (h : ev.evidenceId = ev'.evidenceId) : i = j := by
  have hlook := (lookup_evIdToIndex hids).mpr ⟨ev, hi, rfl⟩
  have hlook' := (lookup_evIdToIndex hids).mpr ⟨ev', hj, rfl⟩
  rw [h, hlook'] at hlook
  exact (Option.some.inj hlook).symm

theorem namedEvidence_eq (idx : Nat) : b.namedEvidence idx = b.indexToEvidence idx := by
  unfold CitationBinder.namedEvidence
  cases hev : b.indexToEvidence idx with
  | none => rfl
  | some ev =>
      have hmem : ev ∈ b.snapshot.evidences := by
        unfold CitationBinder.indexToEvidence at hev
        split_ifs at hev
        exact List.mem_of_getElem? hev
      rw [Option.filter_some, if_pos (by simpa using hids.named ev hmem)]

theorem ownId_eq_some_iff {idx : Nat} {evId : String} :
    b.ownId idx = some evId ↔
      ∃ ev, b.indexToEvidence idx = some ev ∧ ev.tenantId = b.tenantId ∧ ev.evidenceId = evId := by
  rw [CitationBinder.ownId, namedEvidence_eq hids, Option.map_eq_some_iff]
  simp only [Option.filter_eq_some_iff, decide_eq_true_eq, and_assoc]

theorem exists_of_ownId (n : Nat) (evId : String) (h : b.ownId n = some evId) :
    ∃ ev, b.indexToEvidence n = some ev ∧ ev.evidenceId = evId := by
  rcases (ownId_eq_some_iff hids).mp h with ⟨ev, hev, -, hname⟩
  exact ⟨ev, hev, hname⟩

theorem foreignId_eq_some_iff {idx : Nat} {evId : String} :
    b.foreignId idx = some evId ↔
      ∃ ev, b.indexToEvidence idx = some ev ∧ ev.tenantId ≠ b.tenantId ∧ ev.evidenceId = evId := by
  rw [CitationBinder.foreignId, namedEvidence_eq hids, Option.map_eq_some_iff]
  simp only [Option.filter_eq_some_iff, decide_eq_true_eq, and_assoc]

/-- A number whose id is in a list of ids of cited numbers is cited itself. -/
theorem cited_of_lookup {citations : List Nat} {idOf : Nat → Option String}
    (hidOf : ∀ n evId, idOf n = some evId →
      ∃ ev, b.indexToEvidence n = some ev ∧ ev.evidenceId = evId)
    {evId : String} {idx : Nat} (hmem : evId ∈ citations.filterMap idOf)
    (hlook : b.evIdToIndex.lookup evId = some idx) : idx ∈ citations ∧ idOf idx = some evId := by
  rcases List.mem_filterMap.mp hmem with ⟨n, hn, hid⟩
  rcases hidOf n evId hid with ⟨ev, hev, hname⟩
  rcases (lookup_evIdToIndex hids).mp hlook with ⟨ev', hev', hname'⟩
  have heq := index_unique hids hev hev' (hname.trans hname'.symm)
  subst heq
  exact ⟨hn, hid⟩

section Classes

variable {claim : Claim} {citations : List Nat} (hclaim : claim.declared = b.sorted citations)
  (idx : Nat)

include hclaim

theorem inClass_invalid_iff : InClass b claim .invalid idx ↔
    idx ∈ citations ∧ b.classOf claim.resolvedDeclaredIds idx = .invalid := by
  change idx ∈ claim.invalidIndices ↔ _
  rw [invalidIndices_of_declared hclaim, mem_firsts, List.mem_filter, namedEvidence_eq hids,
    Option.isNone_iff_eq_none]
  refine and_congr_right fun _ => ⟨classOf_of_none, fun hclass => ?_⟩
  cases hev : b.indexToEvidence idx with
  | none => rfl
  | some ev =>
      rw [classOf_of_some hev] at hclass
      split_ifs at hclass

theorem inClass_unauthorized_iff : InClass b claim .unauthorized idx ↔
    idx ∈ citations ∧ b.classOf claim.resolvedDeclaredIds idx = .unauthorized := by
  have hforeign : ∀ n evId, b.foreignId n = some evId →
      ∃ ev, b.indexToEvidence n = some ev ∧ ev.evidenceId = evId := by
    intro n evId h
    rcases (foreignId_eq_some_iff hids).mp h with ⟨ev, hev, -, hname⟩
    exact ⟨ev, hev, hname⟩
  change (∃ evId ∈ claim.unauthorizedIds, _) ↔ _
  rw [unauthorizedIds_of_declared hclaim]
  constructor
  · rintro ⟨evId, hmem, hlook⟩
    rcases cited_of_lookup hids hforeign (mem_firsts.mp hmem) hlook with ⟨hcited, hid⟩
    rcases (foreignId_eq_some_iff hids).mp hid with ⟨ev, hev, htenant, -⟩
    exact ⟨hcited, by rw [classOf_of_some hev, if_pos htenant]⟩
  · rintro ⟨hcited, hclass⟩
    rcases exists_of_classOf (by decide) hclass with ⟨ev, hev, hclass⟩
    split_ifs at hclass with htenant
    refine ⟨ev.evidenceId, mem_firsts.mpr (List.mem_filterMap.mpr ⟨idx, hcited, ?_⟩),
      (lookup_evIdToIndex hids).mpr ⟨ev, hev, rfl⟩⟩
    exact (foreignId_eq_some_iff hids).mpr ⟨ev, hev, htenant, rfl⟩

theorem inClass_resolved_iff : InClass b claim .resolved idx ↔
    idx ∈ citations ∧ b.classOf claim.resolvedDeclaredIds idx = .resolved := by
  change (∃ evId ∈ claim.resolvedDeclaredIds, _) ↔ _
  constructor
  · rintro ⟨evId, hmem, hlook⟩
    -- What is kept was resolved.
    have hin := List.mem_of_mem_take (resolvedDeclaredIds_of_declared hclaim ▸ hmem)
    rcases cited_of_lookup hids (exists_of_ownId hids) (mem_firsts.mp hin) hlook with
      ⟨hcited, hid⟩
    rcases (ownId_eq_some_iff hids).mp hid with ⟨ev, hev, htenant, rfl⟩
    exact ⟨hcited, by rw [classOf_of_some hev, if_neg (not_not.mpr htenant), if_pos hmem]⟩
  · rintro ⟨-, hclass⟩
    rcases exists_of_classOf (by decide) hclass with ⟨ev, hev, hclass⟩
    split_ifs at hclass with htenant hmem
    exact ⟨ev.evidenceId, hmem, (lookup_evIdToIndex hids).mpr ⟨ev, hev, rfl⟩⟩

theorem inClass_truncated_iff : InClass b claim .truncated idx ↔
    idx ∈ citations ∧ b.classOf claim.resolvedDeclaredIds idx = .truncated := by
  have hkept := resolvedDeclaredIds_of_declared hclaim
  change idx ∈ claim.truncatedCitations ↔ _
  rw [truncatedCitations_of_declared hclaim, mem_firsts, List.mem_filterMap]
  constructor
  · rintro ⟨evId, hmem, hlook⟩
    rcases cited_of_lookup hids (exists_of_ownId hids)
      (mem_firsts.mp (List.mem_of_mem_drop hmem)) hlook with ⟨hcited, hid⟩
    rcases (ownId_eq_some_iff hids).mp hid with ⟨ev, hev, htenant, rfl⟩
    -- What is dropped is not kept as well.
    have hnot : ev.evidenceId ∉ claim.resolvedDeclaredIds := by
      rw [hkept]
      exact fun hin => List.disjoint_take_drop (firsts_nodup _) (le_refl _) hin hmem
    exact ⟨hcited, by rw [classOf_of_some hev, if_neg (not_not.mpr htenant), if_neg hnot]⟩
  · rintro ⟨hcited, hclass⟩
    rcases exists_of_classOf (by decide) hclass with ⟨ev, hev, hclass⟩
    split_ifs at hclass with htenant hnot
    have hresolved : ev.evidenceId ∈ firsts (citations.filterMap b.ownId) :=
      mem_firsts.mpr (List.mem_filterMap.mpr
        ⟨idx, hcited, (ownId_eq_some_iff hids).mpr ⟨ev, hev, not_not.mp htenant, rfl⟩⟩)
    refine ⟨ev.evidenceId, ?_, (lookup_evIdToIndex hids).mpr ⟨ev, hev, rfl⟩⟩
    -- What the limit does not leave in is dropped.
    rw [← List.take_append_drop
      (b.citationLimit (firsts (citations.filterMap b.ownId)).length)
      (firsts (citations.filterMap b.ownId)), ← hkept] at hresolved
    exact (List.mem_append.mp hresolved).resolve_left hnot

/-- A claim whose lists come from its citations has a number in a class exactly
    when it cites the number and the class is that of the number. -/
theorem inClass_iff (k : CitationClass) :
    InClass b claim k idx ↔
      idx ∈ citations ∧ b.classOf claim.resolvedDeclaredIds idx = k := by
  cases k with
  | invalid => exact inClass_invalid_iff hids hclaim idx
  | unauthorized => exact inClass_unauthorized_iff hids hclaim idx
  | resolved => exact inClass_resolved_iff hids hclaim idx
  | truncated => exact inClass_truncated_iff hids hclaim idx

end Classes

/-- A claim whose lists come from its citations accounts for all of them. -/
theorem accounted_of_declared {claim : Claim} {citations : List Nat}
    (hclaim : claim.declared = b.sorted citations) : Accounted b claim := by
  have hraw : claim.rawDeclaredIndices = citations := congrArg Declared.raw hclaim
  have hinvalid := invalidIndices_of_declared hclaim
  have hforeign := unauthorizedIds_of_declared hclaim
  have hkept := resolvedDeclaredIds_of_declared hclaim
  have hdropped := truncatedCitations_of_declared hclaim
  refine
    { partition := fun idx hidx => ?_
      invalid_nodup := hinvalid ▸ firsts_nodup _
      unauthorized_nodup := hforeign ▸ firsts_nodup _
      resolved_nodup := ?_
      truncated_nodup := hdropped ▸ firsts_nodup _
      order := ?_
      limit := fun budget hbudget => ?_ }
  · refine ⟨b.classOf claim.resolvedDeclaredIds idx,
      (inClass_iff hids hclaim idx _).mpr ⟨hraw ▸ hidx, rfl⟩, fun k hk => ?_⟩
    exact ((inClass_iff hids hclaim idx k).mp hk).2.symm
  · rw [hkept]
    exact (firsts_nodup _).sublist (List.take_sublist _ _)
  · rw [hkept, hraw]
    exact List.take_prefix _ _
  · rw [hkept, List.length_take, CitationBinder.citationLimit, hbudget]
    exact min_le_left _ _

/-- Of the claims that are checked at all, every one accounts for the marks of
    its region when it is bound. -/
theorem bind_accounted {st : BinderState} {claims : List Claim} {answerText : String} {i : Nat}
    {claim bound : Claim} (hclaim : claims[i]? = some claim)
    (hbound : (b.bind st claims answerText).1[i]? = some bound)
    (hin : b.beyondMaxClaims i = false) :
    Accounted b bound ∧
      Markers (claimRegion claim answerText).toList bound.rawDeclaredIndices := by
  -- Whatever state the claims before it have left, the lists come from its marks.
  rcases getElem?_mapState _ _ _ _ _ hbound with ⟨⟨c, j⟩, st', hat, rfl⟩
  rw [List.getElem?_zipIdx, hclaim, Option.map_some, Option.some.injEq] at hat
  cases hat
  rw [Nat.zero_add]
  have hdeclared : (b.bindClaim answerText (claim, i) st').1.declared =
      b.sorted (extractCitationsForClaim claim answerText) := bindClaim_declared b hin st'
  refine ⟨accounted_of_declared hids hdeclared, ?_⟩
  have hraw : (b.bindClaim answerText (claim, i) st').1.rawDeclaredIndices =
      extractCitationsForClaim claim answerText := congrArg Declared.raw hdeclared
  rw [hraw, extractCitationsForClaim_eq]
  exact markers_citationsIn _

end Accounts

section Samples

/-- Two pieces of evidence of the tenant and one of another. -/
def threeEvidences : EvidenceSnapshot where
  snapshotId := "es_1"
  evidences :=
    [{ evidenceId := "e1", sourceType := .rag, content := "营收增长", tenantId := "t1" },
     { evidenceId := "e2", sourceType := .rag, content := "利润下降", tenantId := "t2" },
     { evidenceId := "e3", sourceType := .rag, content := "成本下降", tenantId := "t1" }]
  createdAt := ""
  toolRunId := ""
  attemptId := 1

theorem threeEvidences_distinct : DistinctIds threeEvidences :=
  ⟨by decide, by decide⟩

/-- A binder that keeps one citation of a claim. -/
def oneCitationBinder (maxClaims : Nat) : CitationBinder where
  snapshot := threeEvidences
  tenantId := "t1"
  budget := some { maxClaims := maxClaims, maxCitationsPerClaim := 1 }

/-- A claim that cites all there is, and something else, and one twice. -/
def citingClaim : Claim := { claimId := "c1", text := "营收增长[3][2][1][9][3]" }

theorem bind_accounted_citingClaim :
    DistinctIds (oneCitationBinder 1).snapshot ∧ (oneCitationBinder 1).beyondMaxClaims 0 = false ∧
      Accounted (oneCitationBinder 1)
        ((oneCitationBinder 1).bindClaim "" (citingClaim, 0) {}).1 ∧
      Markers (claimRegion citingClaim "").toList
        ((oneCitationBinder 1).bindClaim "" (citingClaim, 0) {}).1.rawDeclaredIndices := by
  have hids : DistinctIds (oneCitationBinder 1).snapshot := threeEvidences_distinct
  have hin : (oneCitationBinder 1).beyondMaxClaims 0 = false := by decide
  have hclaim : [citingClaim][0]? = some citingClaim := rfl
  have hbound : ((oneCitationBinder 1).bind {} [citingClaim] "").1[0]? =
      some ((oneCitationBinder 1).bindClaim "" (citingClaim, 0) {}).1 := rfl
  exact ⟨hids, hin, bind_accounted hids hclaim hbound hin⟩

/-- A claim beyond the number of claims to be checked is not read. -/
theorem beyond_claim_not_read :
    DistinctIds (oneCitationBinder 0).snapshot ∧
      citationsIn (claimRegion citingClaim "") = [3, 2, 1, 9, 3] ∧
      ((oneCitationBinder 0).bind {} [citingClaim] "").1.map Claim.rawDeclaredIndices = [[]] := by
  exact ⟨threeEvidences_distinct, by decide, by decide⟩

end Samples

end AgenticRag

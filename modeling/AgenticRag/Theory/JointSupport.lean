import AgenticRag.Theory.PairRequests

/-!
# Support and Contradiction Kept Apart

The evidence of a claim is collected in two lists, what supports it and what
contradicts it. A pair has one verdict, so a pair adds to one of them only, and
what the search finds is not cited and hence never among the support. Up to
there no evidence is in both.

The joint try is different. It is made when no cited pair supports the claim,
and where the cited evidence supports it together, all of it is entered as
support, whatever the pairs said one by one. A piece that contradicts the claim
by itself is then in both lists (`JointConflict`), and this is the only way.

## Main definitions

* `Separated`: The two lists as they are meant to be.
* `JointConflict`: The joint try supports a claim that a cited pair contradicts.

## Theorems

* `mem_idsWith_judged`: The ids a status collects among what is cited.
* `separated_boundAt_iff`: When a claim keeps the lists apart.
* `bind_separated_iff`: When a run does.
-/

namespace AgenticRag

open Py Ordered

/-- The support of a claim has nothing twice, is cited by the claim, and does
    not contradict it. -/
structure Separated (claim : Claim) : Prop where
  nodup : claim.verifiedSupportIds.Nodup
  cited : claim.verifiedSupportIds ⊆ claim.resolvedDeclaredIds
  disjoint : claim.verifiedSupportIds.Disjoint claim.contradictingIds

section Cited

variable (b : CitationBinder)

/-- A cited pair of a claim was verified with a status, when so many requests
    were made before. -/
def CitationBinder.CitedAs (status : PairStatus) (st : BinderState) (answerText : String)
    (claim : Claim) (k : Nat) : Prop :=
  ∃ (j : Nat) (ev : Evidence), (b.citedEvidence answerText claim)[j]? = some ev ∧
    b.spentAfter st (k + j) = false ∧ (verifyPair claim ev).pairStatus = status

/-- Together the cited evidence supports the claim, none of it does so alone,
    and some of it contradicts the claim. -/
def CitationBinder.JointConflict (st : BinderState) (answerText : String) (claim : Claim)
    (k : Nat) : Prop :=
  let ids := (b.prepareClaim claim answerText).2
  1 < ids.length ∧ (b.verifyJointSupport claim ids).pairStatus = .supported ∧
    ¬ b.CitedAs .supported st answerText claim k ∧ b.CitedAs .contradicted st answerText claim k

variable {b} {st : BinderState} {answerText : String} {claim : Claim} {k : Nat}

theorem evidenceId_of_mem_evIdToEvidence {evId : String} {ev : Evidence}
    (h : (evId, ev) ∈ b.evIdToEvidence) : ev.evidenceId = evId := by
  rcases List.mem_map.mp (mem_dictOf _ _ h) with ⟨e, -, heq⟩
  cases heq
  rfl

theorem evidenceId_of_lookup {evId : String} {ev : Evidence}
    (h : b.evIdToEvidence.lookup evId = some ev) : ev.evidenceId = evId :=
  evidenceId_of_mem_evIdToEvidence (mem_of_lookup h)

/-- What a claim cites is found again under its id, which is resolved. -/
theorem lookup_of_cited {ev : Evidence} (h : ev ∈ b.citedEvidence answerText claim) :
    ev.evidenceId ∈ (b.prepareClaim claim answerText).2 ∧
      b.evIdToEvidence.lookup ev.evidenceId = some ev := by
  rcases List.mem_filterMap.mp h with ⟨evId, hid, hlook⟩
  rw [evidenceId_of_lookup hlook]
  exact ⟨hid, hlook⟩

/-- What is searched is not cited. -/
theorem not_cited_of_searched {ev : Evidence} (h : ev ∈ b.searchedEvidence answerText claim) :
    ev.evidenceId ∉ (b.prepareClaim claim answerText).2 := by
  rcases List.mem_map.mp h with ⟨⟨evId, e⟩, hmem, rfl⟩
  rcases List.mem_filter.mp hmem with ⟨hin, hopen⟩
  have hid := evidenceId_of_mem_evIdToEvidence hin
  have hnot := not_or.mp ((isOpen_iff b).mp hopen).1
  have hprep := prepareClaim_eq b claim answerText
  dsimp only at hprep hid hnot ⊢
  rw [hid]
  rw [hprep] at hnot ⊢
  exact hnot.1

/-- The ids a status collects among the verdicts on a list of evidence. -/
theorem mem_idsWith_judged {status : PairStatus} (hstatus : status ≠ .verifierError)
    {evs : List Evidence} {evId : String} :
    evId ∈ idsWith status (b.judged st claim k evs) ↔
      ∃ (j : Nat) (ev : Evidence), evs[j]? = some ev ∧ b.spentAfter st (k + j) = false ∧
        (verifyPair claim ev).pairStatus = status ∧ ev.evidenceId = evId := by
  unfold idsWith CitationBinder.judged
  constructor
  · intro h
    rcases List.mem_map.mp h with ⟨v, hv, rfl⟩
    rcases List.mem_filter.mp hv with ⟨hmem, hv⟩
    rcases List.mem_map.mp hmem with ⟨⟨ev, n⟩, hat, rfl⟩
    rcases List.mem_zipIdx_iff_le_and_getElem?_sub.mp hat with ⟨hle, hev⟩
    dsimp only at hle hev hv
    have hn : k + (n - k) = n := by omega
    -- A refusal has no status of a verifier that worked.
    cases hspent : b.spentAfter st n with
    | true =>
        rw [hspent] at hv
        exact absurd (of_decide_eq_true hv).symm hstatus
    | false =>
        rw [hspent] at hv
        exact ⟨n - k, ev, hev, by rw [hn, hspent], of_decide_eq_true hv, rfl⟩
  · rintro ⟨j, ev, hev, hspent, hv, rfl⟩
    refine List.mem_map.mpr ⟨verifyPair claim ev, List.mem_filter.mpr ⟨?_, decide_eq_true hv⟩, rfl⟩
    refine List.mem_map.mpr ⟨(ev, k + j), ?_, ?_⟩
    · rw [List.mem_zipIdx_iff_le_and_getElem?_sub]
      exact ⟨by omega, by rw [Nat.add_sub_cancel_left]; exact hev⟩
    · simp only [hspent]
      rfl

/-- The ids of the cited pairs that support. -/
theorem mem_supporting {vs : List PairVerdict} {evId : String} :
    evId ∈ firsts (idsWith .supported
        (b.judged st claim k (b.citedEvidence answerText claim) ++ contradictionsIn vs)) ↔
      ∃ (j : Nat) (ev : Evidence), (b.citedEvidence answerText claim)[j]? = some ev ∧
        b.spentAfter st (k + j) = false ∧ (verifyPair claim ev).pairStatus = .supported ∧
        ev.evidenceId = evId := by
  rw [mem_firsts, idsWith_supported_append]
  exact mem_idsWith_judged (by decide)

/-- A cited id is among the contradictions by a pair of its own only. -/
theorem mem_contradicting {n : Nat} {evId : String}
    (hid : evId ∈ (b.prepareClaim claim answerText).2) :
    evId ∈ firsts (idsWith .contradicted
        (b.judged st claim k (b.citedEvidence answerText claim) ++
          contradictionsIn (b.judged st claim n (b.searchedEvidence answerText claim)))) ↔
      ∃ (j : Nat) (ev : Evidence), (b.citedEvidence answerText claim)[j]? = some ev ∧
        b.spentAfter st (k + j) = false ∧ (verifyPair claim ev).pairStatus = .contradicted ∧
        ev.evidenceId = evId := by
  have hfound : evId ∉ idsWith .contradicted
      (contradictionsIn (b.judged st claim n (b.searchedEvidence answerText claim))) := by
    intro hmem
    rcases List.mem_map.mp hmem with ⟨v, hv, rfl⟩
    rcases List.mem_map.mp (List.mem_of_mem_filter hv) with ⟨w, hw, rfl⟩
    rcases List.mem_map.mp (List.mem_of_mem_filter hw) with ⟨⟨ev, j⟩, hat, rfl⟩
    refine not_cited_of_searched (List.fst_mem_of_mem_zipIdx hat) ?_
    dsimp only at hid ⊢
    split_ifs at hid
    · exact hid
    · exact hid
  rw [mem_firsts, idsWith, List.filter_append, List.map_append, List.mem_append, ← idsWith,
    ← idsWith, or_iff_left hfound]
  exact mem_idsWith_judged (by decide)

theorem citedAs_iff {status : PairStatus} :
    b.CitedAs status st answerText claim k ↔
      ∃ (evId : String) (j : Nat) (ev : Evidence),
        (b.citedEvidence answerText claim)[j]? = some ev ∧ b.spentAfter st (k + j) = false ∧
          (verifyPair claim ev).pairStatus = status ∧ ev.evidenceId = evId := by
  constructor
  · rintro ⟨j, ev, hev, hspent, hstatus⟩
    exact ⟨ev.evidenceId, j, ev, hev, hspent, hstatus, rfl⟩
  · rintro ⟨-, j, ev, hev, hspent, hstatus, -⟩
    exact ⟨j, ev, hev, hspent, hstatus⟩

end Cited

section Separation

variable {b : CitationBinder} {st : BinderState} {answerText : String} {claim : Claim} {k : Nat}

theorem resolved_nodup (claim : Claim) (answerText : String) :
    (b.prepareClaim claim answerText).2.Nodup := by
  rw [prepareClaim_eq]
  exact (firsts_nodup _).sublist (List.take_sublist _ _)

/-- No pair supports a claim just when no id is entered as support. -/
theorem supporting_eq_nil_iff {vs : List PairVerdict} :
    firsts (idsWith .supported
        (b.judged st claim k (b.citedEvidence answerText claim) ++ contradictionsIn vs)) = [] ↔
      ¬ b.CitedAs .supported st answerText claim k := by
  rw [List.eq_nil_iff_forall_not_mem, citedAs_iff, not_exists]
  exact forall_congr' fun evId => not_congr mem_supporting

/-- No id is entered both ways by pairs of its own: one id is one piece of evidence,
    and one piece has one verdict. -/
theorem not_contradicting_of_supporting {vs : List PairVerdict} {n : Nat} {evId : String}
    (hin : evId ∈ firsts (idsWith .supported
      (b.judged st claim k (b.citedEvidence answerText claim) ++ contradictionsIn vs))) :
    evId ∉ firsts (idsWith .contradicted
      (b.judged st claim k (b.citedEvidence answerText claim) ++
        contradictionsIn (b.judged st claim n (b.searchedEvidence answerText claim)))) := by
  intro hout
  rcases mem_supporting.mp hin with ⟨j, ev, hev, -, hstatus, rfl⟩
  have hcited := lookup_of_cited (List.mem_of_getElem? hev)
  rcases (mem_contradicting hcited.1).mp hout with ⟨j', ev', hev', -, hstatus', hid⟩
  have hcited' := lookup_of_cited (List.mem_of_getElem? hev')
  rw [hid, hcited.2] at hcited'
  cases hcited'.2
  rw [hstatus] at hstatus'
  cases hstatus'

/-- The joint try counts where no pair supports the claim by itself. -/
def JointCounts (b : CitationBinder) (st : BinderState) (answerText : String) (claim : Claim)
    (k : Nat) : Prop :=
  1 < (b.prepareClaim claim answerText).2.length ∧
    (b.verifyJointSupport claim (b.prepareClaim claim answerText).2).pairStatus = .supported ∧
    ¬ b.CitedAs .supported st answerText claim k

theorem resolved_sorted (claim : Claim) (answerText : String) :
    (b.sorted (extractCitationsForClaim claim answerText)).resolved =
      (b.prepareClaim claim answerText).2 := by
  rw [prepareClaim_eq]

/-- Where the joint try counts, all that is cited is entered as support. -/
theorem boundAt_of_jointCounts (hjoint : JointCounts b st answerText claim k) :
    (b.boundAt st answerText claim k).verifiedSupportIds =
      (b.prepareClaim claim answerText).2 := by
  unfold CitationBinder.boundAt CitationBinder.record
  dsimp only
  rw [resolved_sorted,
    if_pos ⟨supporting_eq_nil_iff.mpr hjoint.2.2, hjoint.1, hjoint.2.1⟩]

/-- Elsewhere only what a pair supports is entered. -/
theorem boundAt_of_not_jointCounts (hjoint : ¬ JointCounts b st answerText claim k) :
    (b.boundAt st answerText claim k).verifiedSupportIds =
      firsts (idsWith .supported (b.judged st claim k (b.citedEvidence answerText claim) ++
        contradictionsIn (b.judged st claim (k + (b.citedEvidence answerText claim).length)
          (b.searchedEvidence answerText claim)))) := by
  unfold CitationBinder.boundAt CitationBinder.record
  dsimp only
  rw [resolved_sorted,
    if_neg (fun h => hjoint ⟨h.2.1, h.2.2, supporting_eq_nil_iff.mp h.1⟩)]

/-- A claim keeps the two lists apart unless the joint try goes against one of
    the pairs. -/
theorem separated_boundAt_iff :
    Separated (b.boundAt st answerText claim k) ↔ ¬ b.JointConflict st answerText claim k := by
  have hresolved : (b.boundAt st answerText claim k).resolvedDeclaredIds =
      (b.prepareClaim claim answerText).2 := resolved_sorted claim answerText
  have hcontra : (b.boundAt st answerText claim k).contradictingIds =
      firsts (idsWith .contradicted (b.judged st claim k (b.citedEvidence answerText claim) ++
        contradictionsIn (b.judged st claim (k + (b.citedEvidence answerText claim).length)
          (b.searchedEvidence answerText claim)))) := rfl
  by_cases hjoint : JointCounts b st answerText claim k
  · have hverified := boundAt_of_jointCounts hjoint
    have hconflict : b.JointConflict st answerText claim k ↔
        b.CitedAs .contradicted st answerText claim k :=
      ⟨fun h => h.2.2.2, fun h => ⟨hjoint.1, hjoint.2.1, hjoint.2.2, h⟩⟩
    rw [hconflict]
    constructor
    · rintro hsep ⟨j, ev, hev, hspent, hstatus⟩
      have hid := (lookup_of_cited (List.mem_of_getElem? hev)).1
      refine hsep.disjoint (hverified ▸ hid) ?_
      rw [hcontra, mem_contradicting hid]
      exact ⟨j, ev, hev, hspent, hstatus, rfl⟩
    · intro hnot
      refine ⟨hverified ▸ resolved_nodup claim answerText, ?_, ?_⟩
      · rw [hverified, hresolved]
        exact List.Subset.refl _
      intro evId hin hout
      rw [hverified] at hin
      rw [hcontra, mem_contradicting hin] at hout
      exact hnot (citedAs_iff.mpr ⟨evId, hout⟩)
  · have hverified := boundAt_of_not_jointCounts hjoint
    refine iff_of_true ⟨hverified ▸ firsts_nodup _, ?_, ?_⟩ (fun h => hjoint ⟨h.1, h.2.1, h.2.2.1⟩)
    · rw [hverified, hresolved]
      intro evId hin
      rcases mem_supporting.mp hin with ⟨j, ev, hev, -, -, rfl⟩
      exact (lookup_of_cited (List.mem_of_getElem? hev)).1
    · rw [hverified, hcontra]
      exact fun evId hin => not_contradicting_of_supporting hin

variable (b st) in
/-- A run keeps support and contradiction apart in every claim, exactly when no
    claim it checks is supported jointly against a cited pair and no claim
    beyond those brings mixed lists with it. -/
theorem bind_separated_iff (claims : List Claim) (answerText : String) :
    (∀ bound ∈ (b.bind st claims answerText).1, Separated bound) ↔
      ∀ (i : Nat) (claim : Claim), claims[i]? = some claim →
        if b.beyondMaxClaims i then Separated claim
        else ¬ b.JointConflict st answerText claim
          (b.requestsBefore answerText claims i).length := by
  have hat : ∀ (i : Nat) (claim : Claim), claims[i]? = some claim →
      (Separated (if b.beyondMaxClaims i then truncateClaim claim
        else b.boundAt st answerText claim (b.requestsBefore answerText claims i).length) ↔
      if b.beyondMaxClaims i then Separated claim
      else ¬ b.JointConflict st answerText claim
        (b.requestsBefore answerText claims i).length) := by
    intro i claim _
    split_ifs
    · exact ⟨fun h => ⟨h.nodup, h.cited, h.disjoint⟩, fun h => ⟨h.nodup, h.cited, h.disjoint⟩⟩
    · exact separated_boundAt_iff
  constructor
  · intro h i claim hclaim
    refine (hat i claim hclaim).mp (h _ (List.mem_of_getElem? (i := i) ?_))
    rw [getElem?_bind, hclaim]
    rfl
  · intro h bound hbound
    rcases List.mem_iff_getElem?.mp hbound with ⟨i, hi⟩
    rw [getElem?_bind] at hi
    rcases Option.map_eq_some_iff.mp hi with ⟨claim, hclaim, rfl⟩
    exact (hat i claim hclaim).mpr (h i claim hclaim)

end Separation

section Samples

/-- Two pieces of evidence that support a claim together, of which one
    contradicts it. -/
def halvesBinder : CitationBinder where
  snapshot :=
    { snapshotId := "es_1"
      evidences :=
        [{ evidenceId := "e1", sourceType := .rag, content := "营收100", tenantId := "t1" },
         { evidenceId := "e2", sourceType := .rag, content := "并未 200", tenantId := "t1" }]
      createdAt := ""
      toolRunId := ""
      attemptId := 1 }
  tenantId := "t1"

/-- A claim with two sources. -/
def halvesClaim : Claim := { claimId := "c1", text := "营收100 并未 200 [1][2]" }

/-- The first piece is support and contradiction at once. -/
theorem jointly_supported_and_contradicted :
    (halvesBinder.bind {} [halvesClaim] "").1.map (fun c =>
      (c.verifiedSupportIds, c.contradictingIds)) = [(["e1", "e2"], ["e1"])] ∧
      ¬ ∀ bound ∈ (halvesBinder.bind {} [halvesClaim] "").1, Separated bound := by
  have hlists : (halvesBinder.bind {} [halvesClaim] "").1.map (fun c =>
      (c.verifiedSupportIds, c.contradictingIds)) = [(["e1", "e2"], ["e1"])] := by
    decide
  refine ⟨hlists, fun h => ?_⟩
  rcases List.map_eq_singleton_iff.mp hlists with ⟨c, hc, heq⟩
  have hdisjoint := (h c (hc ▸ List.mem_singleton_self c)).disjoint
  rw [(Prod.mk.inj heq).1, (Prod.mk.inj heq).2] at hdisjoint
  exact hdisjoint List.mem_cons_self List.mem_cons_self

end Samples

end AgenticRag

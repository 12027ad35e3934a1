import AgenticRag.Core.Policy

/-!
# The Order of Policy Actions

Two things the ladder of the policy engine should not depend on, or only in
one direction. The order in which the claims are listed says nothing about the
answer, so it changes neither the score nor the action. And a claim that turns
out to be supported speaks for the answer, so the action never gets worse.

The second is a statement about every pair of branches at once: the same
change removes a ground to reject, lowers the share of failed verifications
and raises the score. The actions are ranked, and `rank` of the ladder is
monotone in what it reads.

## Main definitions

* `PolicyAction.rank`: How far an action lets the answer through.
* `Claim.supportedNow`: A claim that turned out to be supported.

## Theorems

* `rejectGround_of_supported`: Support adds no ground to reject.
* `computeWeightedScore_le_of_supported`: Support does not lower the score.
* `decide_stable`: The action is invariant under order and monotone in
  support.
-/

namespace AgenticRag

open Py

/-- How far an action lets the answer through. An answer that is to be written
    again and one that cannot be any more rank the same. -/
def PolicyAction.rank : PolicyAction → Nat
  | .reject => 0
  | .exhausted => 1
  | .regenerate => 1
  | .filter => 2
  | .pass => 3

/-- The claim, found to be supported. -/
def Claim.supportedNow (claim : Claim) : Claim :=
  { claim with finalStatus := .supported }

section Reordered

variable {claims claims' : List Claim}

theorem computeWeightedScore_perm (h : claims.Perm claims') :
    computeWeightedScore claims = computeWeightedScore claims' := by
  have htotal := (h.map claimWeight).sum_eq
  have hsupported :=
    ((h.filter (fun c => c.finalStatus = .supported)).map claimWeight).sum_eq
  simp only [computeWeightedScore]
  rw [htotal, hsupported]

theorem verifierErrorRatio_perm (h : claims.Perm claims') :
    verifierErrorRatio claims = verifierErrorRatio claims' := by
  rw [verifierErrorRatio, verifierErrorRatio, h.length_eq,
    (h.filter (fun c => c.finalStatus = .verifierError)).length_eq]

theorem rejectGround_perm (e : PolicyEngine) (runMode : RunMode) (h : claims.Perm claims') :
    e.RejectGround claims runMode ↔ e.RejectGround claims' runMode := by
  simp only [PolicyEngine.RejectGround, verifierErrorRatio_perm h, h.mem_iff]

end Reordered

section Supported

variable (before after : List Claim) (claim : Claim)

@[simp] theorem claimWeight_supportedNow : claimWeight claim.supportedNow = claimWeight claim :=
  rfl

@[simp] theorem finalStatus_supportedNow : claim.supportedNow.finalStatus = .supported :=
  rfl

/-- The total weight stays what it was. -/
theorem sum_weight_supportedNow :
    ((before ++ claim.supportedNow :: after).map claimWeight).sum =
      ((before ++ claim :: after).map claimWeight).sum := by
  simp

/-- Support does not lower the score: the whole weighs the same, and the
    supported part no less. -/
theorem computeWeightedScore_le_of_supported :
    computeWeightedScore (before ++ claim :: after) ≤
      computeWeightedScore (before ++ claim.supportedNow :: after) := by
  simp only [computeWeightedScore, sum_weight_supportedNow]
  split_ifs with hpos
  · refine div_le_div_of_nonneg_right ?_ hpos.le
    have hweight : 0 ≤ claimWeight claim := le_trans zero_le_one (one_le_claimWeight claim)
    -- The claim itself is the one summand that may come in.
    by_cases hstatus : claim.finalStatus = .supported
    · simp [hstatus]
    · simp [hstatus, hweight]
  · exact le_refl _

/-- Nor does it raise the share of the failed verifications. -/
theorem verifierErrorRatio_le_of_supported :
    verifierErrorRatio (before ++ claim.supportedNow :: after) ≤
      verifierErrorRatio (before ++ claim :: after) := by
  have hlength : (before ++ claim.supportedNow :: after).length =
      (before ++ claim :: after).length := by
    simp
  rw [verifierErrorRatio, verifierErrorRatio, hlength]
  refine div_le_div_of_nonneg_right ?_ (Nat.cast_nonneg _)
  refine Nat.cast_le.mpr ?_
  rw [List.filter_append, List.filter_append, List.filter_cons_of_neg (by simp),
    List.length_append, List.length_append]
  exact Nat.add_le_add_left (List.sublist_cons_self claim after |>.filter _ |>.length_le) _

/-- A claim of the new list that is not supported was in the old one. -/
theorem mem_of_mem_supportedNow {status : ClaimFinalStatus} (hstatus : status ≠ .supported)
    {c : Claim} (hc : c ∈ before ++ claim.supportedNow :: after) (hs : c.finalStatus = status) :
    c ∈ before ++ claim :: after := by
  rcases List.mem_append.mp hc with hbefore | hrest
  · exact List.mem_append_left _ hbefore
  · rcases List.mem_cons.mp hrest with rfl | hafter
    · exact absurd hs.symm hstatus
    · exact List.mem_append_right _ (List.mem_cons_of_mem _ hafter)

/-- Support adds no ground to reject. -/
theorem rejectGround_of_supported (e : PolicyEngine) (runMode : RunMode)
    (h : e.RejectGround (before ++ claim.supportedNow :: after) runMode) :
    e.RejectGround (before ++ claim :: after) runMode := by
  rcases h with ⟨c, hc, hreq, hs⟩ | ⟨hmode, c, hc, hreq, hs⟩ | hratio
  · exact Or.inl ⟨c, mem_of_mem_supportedNow before after claim (by decide) hc hs, hreq, hs⟩
  · exact Or.inr (Or.inl
      ⟨hmode, c, mem_of_mem_supportedNow before after claim (by decide) hc hs, hreq, hs⟩)
  · exact Or.inr (Or.inr
      (le_trans hratio (verifierErrorRatio_le_of_supported before after claim)))

end Supported

section Decision

variable (e : PolicyEngine) (u : Unicode) (runMode : RunMode) (regenerateCount : Nat)
  (snapshot : EvidenceSnapshot)

/-- The score of the decision is that of the claims, or one without any. -/
theorem decide_faithfulnessScore (claims : List Claim) :
    (e.decide u claims runMode regenerateCount snapshot).faithfulnessScore =
      if claims.isEmpty then 1 else computeWeightedScore claims := by
  simp only [PolicyEngine.decide]
  -- Every branch below the empty list quotes the same score.
  split_ifs <;> rfl

theorem decide_action_perm {claims claims' : List Claim} (h : claims.Perm claims') :
    (e.decide u claims runMode regenerateCount snapshot).action =
      (e.decide u claims' runMode regenerateCount snapshot).action := by
  by_cases hne : claims = []
  · subst hne
    rw [h.nil_eq]
  · have hne' : claims' ≠ [] := by
      intro hnil
      subst hnil
      exact hne h.eq_nil
    rw [decide_action e u claims runMode regenerateCount snapshot hne,
      decide_action e u claims' runMode regenerateCount snapshot hne',
      computeWeightedScore_perm h]
    simp only [rejectGround_perm e runMode h]

/-- Where nothing speaks for rejecting, the rank is a matter of the score. -/
theorem rank_action_of_not_rejectGround {claims : List Claim} (hne : claims ≠ [])
    (hground : ¬ e.RejectGround claims runMode) :
    (e.decide u claims runMode regenerateCount snapshot).action.rank =
      if e.passThreshold ≤ computeWeightedScore claims then 3
      else if e.filterThreshold ≤ computeWeightedScore claims then 2
      else 1 := by
  rw [decide_action e u claims runMode regenerateCount snapshot hne, if_neg hground]
  split_ifs <;> rfl

theorem decide_rank_le_of_supported (before after : List Claim) (claim : Claim) :
    (e.decide u (before ++ claim :: after) runMode regenerateCount snapshot).action.rank ≤
      (e.decide u (before ++ claim.supportedNow :: after) runMode regenerateCount
        snapshot).action.rank := by
  have hne : before ++ claim :: after ≠ [] := by simp
  have hne' : before ++ claim.supportedNow :: after ≠ [] := by simp
  have hscore := computeWeightedScore_le_of_supported before after claim
  by_cases hground : e.RejectGround (before ++ claim :: after) runMode
  · -- Nothing ranks below a rejection.
    rw [(decide_reject_iff e u _ runMode regenerateCount snapshot hne).mpr hground]
    exact Nat.zero_le _
  · have hground' : ¬ e.RejectGround (before ++ claim.supportedNow :: after) runMode :=
      fun h => hground (rejectGround_of_supported before after claim e runMode h)
    rw [rank_action_of_not_rejectGround e u runMode regenerateCount snapshot hne hground,
      rank_action_of_not_rejectGround e u runMode regenerateCount snapshot hne' hground']
    -- A threshold the old score reaches is reached by the new one.
    by_cases hpass : e.passThreshold ≤ computeWeightedScore (before ++ claim :: after)
    · rw [if_pos hpass, if_pos (le_trans hpass hscore)]
    · rw [if_neg hpass]
      by_cases hfilter : e.filterThreshold ≤ computeWeightedScore (before ++ claim :: after)
      · rw [if_pos hfilter, if_pos (le_trans hfilter hscore)]
        split_ifs <;> omega
      · rw [if_neg hfilter]
        split_ifs <;> omega

/-- The order of the claims changes neither the action nor the score, and a
    claim that turns out to be supported never moves the action down. -/
theorem decide_stable :
    (∀ claims claims' : List Claim, claims.Perm claims' →
      (e.decide u claims runMode regenerateCount snapshot).action =
          (e.decide u claims' runMode regenerateCount snapshot).action ∧
        (e.decide u claims runMode regenerateCount snapshot).faithfulnessScore =
          (e.decide u claims' runMode regenerateCount snapshot).faithfulnessScore) ∧
    ∀ (before after : List Claim) (claim : Claim),
      (e.decide u (before ++ claim :: after) runMode regenerateCount snapshot).action.rank ≤
        (e.decide u (before ++ { claim with finalStatus := .supported } :: after) runMode
          regenerateCount snapshot).action.rank := by
  refine ⟨fun claims claims' h => ⟨?_, ?_⟩, fun before after claim => ?_⟩
  · exact decide_action_perm e u runMode regenerateCount snapshot h
  · rw [decide_faithfulnessScore, decide_faithfulnessScore, computeWeightedScore_perm h,
      h.isEmpty_eq]
  · exact decide_rank_le_of_supported e u runMode regenerateCount snapshot before after claim

end Decision

/-- A critical claim that the evidence contradicts. -/
def deniedClaim : Claim :=
  { claimId := "c1", text := "revenue doubled", finalStatus := .contradicted
    serverIsRequired := true }

/-- A claim the evidence bears out. -/
def borneOutClaim : Claim :=
  { claimId := "c2", text := "revenue grew", finalStatus := .supported }

/-- A snapshot that holds no evidence. -/
def bareSnapshot : EvidenceSnapshot :=
  ⟨"es_empty", [], "2024-01-01T00:00:00", "run", 0, "1.0"⟩

/-- The claims of one answer in both orders, and the answer after its
    contradiction is resolved. -/
theorem decide_stable_two :
    ((({} : PolicyEngine).decide default [deniedClaim, borneOutClaim] .factual 0
            bareSnapshot).action =
          (({} : PolicyEngine).decide default [borneOutClaim, deniedClaim] .factual 0
            bareSnapshot).action ∧
        (({} : PolicyEngine).decide default [deniedClaim, borneOutClaim] .factual 0
            bareSnapshot).faithfulnessScore =
          (({} : PolicyEngine).decide default [borneOutClaim, deniedClaim] .factual 0
            bareSnapshot).faithfulnessScore) ∧
      (({} : PolicyEngine).decide default [deniedClaim, borneOutClaim] .factual 0
          bareSnapshot).action.rank ≤
        (({} : PolicyEngine).decide default
          [{ deniedClaim with finalStatus := .supported }, borneOutClaim] .factual 0
          bareSnapshot).action.rank := by
  have hstable := decide_stable {} default .factual 0 bareSnapshot
  exact ⟨hstable.1 _ _ (List.Perm.swap _ _ _), hstable.2 [] [borneOutClaim] deniedClaim⟩

end AgenticRag

import AgenticRag.Core.CitationBinder
import AgenticRag.Core.Policy

/-!
# Soundness of Support

What it means that a claim is shown as supported. The status comes at the end
of a long way: the citation numbers are read off the answer, sorted and cut to
the budget, the pairs of all claims are checked in one go and handed back by
position, the rest of the evidence is searched for contradictions, the cited
evidence is tried together, and an ordered table of rules reads the verdicts.

Two things carry the proof. Evidence enters the support of a claim only
through the list of ids that was resolved from the claim's own numbers
(`finishClaim_verifiedSupportIds`), since the search for contradictions adds
nothing but contradictions. And a claim that was never checked has no verdict,
so no layer can report support on it.

## Main definitions

* `CitesOwn`: The claim cites a piece of evidence of the binder's tenant.
* `Supported`: What a claim that is judged supported has behind it.

## Theorems

* `prepareClaim_cites`: What is resolved is cited and the tenant's own.
* `finishClaim_verifiedSupportIds`: Support comes from what was resolved.
* `bindAsync_sound`: A claim judged supported is supported.
-/

namespace AgenticRag

open Py Ordered

section Citing

variable (b : CitationBinder)

/-- The claim cites the evidence with the given id, by a number of its own,
    and the evidence belongs to the binder's tenant. -/
def CitesOwn (claim : Claim) (answerText evId : String) : Prop :=
  ∃ n ∈ extractCitationsForClaim claim answerText, ∃ ev,
    b.indexToEvidence n = some ev ∧ ev.tenantId = b.tenantId ∧ ev.evidenceId = evId

theorem mem_classifyCitation {claim : Claim} {idx : Nat} {evId : String}
    (h : evId ∈ (b.classifyCitation claim idx).resolvedDeclaredIds) :
    evId ∈ claim.resolvedDeclaredIds ∨
      ∃ ev, b.indexToEvidence idx = some ev ∧ ev.tenantId = b.tenantId ∧ ev.evidenceId = evId := by
  unfold CitationBinder.classifyCitation at h
  cases hev : b.indexToEvidence idx with
  | none => rw [hev] at h; exact .inl h
  | some ev =>
      rw [hev] at h
      simp only at h
      split_ifs at h with hempty htenant
      -- Evidence without an id is invalid, another tenant's is unauthorised.
      · exact .inl h
      · exact .inl h
      · rcases mem_addNew.mp h with hold | rfl
        · exact .inl hold
        · exact .inr ⟨ev, rfl, not_not.mp htenant, rfl⟩

/-- What is resolved goes back to one of the numbers. -/
theorem mem_foldl_classifyCitation (citations : List Nat) (claim : Claim) {evId : String}
    (h : evId ∈ (citations.foldl b.classifyCitation claim).resolvedDeclaredIds) :
    evId ∈ claim.resolvedDeclaredIds ∨
      ∃ n ∈ citations, ∃ ev,
        b.indexToEvidence n = some ev ∧ ev.tenantId = b.tenantId ∧ ev.evidenceId = evId := by
  induction citations generalizing claim with
  | nil => exact .inl h
  | cons n rest ih =>
      -- Either a later number resolved it, or it was there after this one.
      rcases ih (b.classifyCitation claim n) h with hold | ⟨m, hm, hev⟩
      · rcases mem_classifyCitation b hold with hstart | hev
        · exact .inl hstart
        · exact .inr ⟨n, List.mem_cons_self, hev⟩
      · exact .inr ⟨m, List.mem_cons_of_mem n hm, hev⟩

/-- The budget only takes evidence away. -/
theorem truncateCitationsByBudget_subset (claim : Claim) {evId : String}
    (h : evId ∈ (b.truncateCitationsByBudget claim).2) : evId ∈ claim.resolvedDeclaredIds := by
  unfold CitationBinder.truncateCitationsByBudget at h
  cases hbudget : b.budget with
  | none => rw [hbudget] at h; exact h
  | some budget =>
      rw [hbudget] at h
      simp only at h
      split_ifs at h
      · exact h
      · exact List.mem_of_mem_take h

/-- What is resolved for a claim is cited by it and the tenant's own. -/
theorem prepareClaim_cites (claim : Claim) (answerText : String) {evId : String}
    (h : evId ∈ (b.prepareClaim claim answerText).2) : CitesOwn b claim answerText evId := by
  have hresolved := truncateCitationsByBudget_subset b _ h
  -- The sorting starts from an empty list, so a number must have done it.
  rcases mem_foldl_classifyCitation b _ _ hresolved with hnone | hcited
  · cases hnone
  · exact hcited

end Citing

section Verdicts

theorem mem_addPairVerdict_verifiedSupportIds {claim : Claim} {v : PairVerdict} {evId : String}
    (h : evId ∈ (claim.addPairVerdict v).verifiedSupportIds) :
    evId ∈ claim.verifiedSupportIds ∨ v.pairStatus = .supported ∧ v.evidenceId = evId := by
  cases hstatus : v.pairStatus with
  | supported =>
      simp only [Claim.addPairVerdict, hstatus] at h
      rcases mem_addNew.mp h with hold | rfl
      · exact .inl hold
      · exact .inr ⟨rfl, rfl⟩
  | _ =>
      simp only [Claim.addPairVerdict, hstatus] at h
      exact .inl h

/-- Only a verdict of support adds to the support. -/
theorem mem_foldl_addPairVerdict_verifiedSupportIds (vs : List PairVerdict) (claim : Claim)
    {evId : String} (h : evId ∈ (vs.foldl Claim.addPairVerdict claim).verifiedSupportIds) :
    evId ∈ claim.verifiedSupportIds ∨
      ∃ v ∈ vs, v.pairStatus = .supported ∧ v.evidenceId = evId := by
  induction vs generalizing claim with
  | nil => exact .inl h
  | cons v rest ih =>
      rcases ih (claim.addPairVerdict v) h with hold | ⟨v', hv', hsupport⟩
      · rcases mem_addPairVerdict_verifiedSupportIds hold with hstart | hsupport
        · exact .inl hstart
        · exact .inr ⟨v, List.mem_cons_self, hsupport⟩
      · exact .inr ⟨v', List.mem_cons_of_mem v hv', hsupport⟩

variable (b : CitationBinder)

/-- The search for contradictions returns nothing else. -/
theorem scanLoop_contradicted (claim : Claim) (evs : List (String × Evidence)) (st : BinderState) :
    ∀ v ∈ (b.scanLoop claim evs st).1, v.pairStatus = .contradicted := by
  induction evs generalizing st with
  | nil => intro v hv; cases hv
  | cons e rest ih =>
      rcases e with ⟨evId, ev⟩
      intro v hv
      simp only [CitationBinder.scanLoop] at hv
      split_ifs at hv with hcited htenant hoverlap hspent hcontra
      -- Cited evidence and evidence of other tenants is passed over.
      · exact ih st v hv
      · exact ih st v hv
      -- A spent budget ends the search.
      · cases hv
      -- A verdict is kept only where it contradicts.
      · rcases List.mem_cons.mp hv with rfl | hlater
        · exact hcontra
        · exact ih _ v hlater
      · exact ih _ v hv
      · exact ih st v hv

/-- The support of a finished claim is what the pairs gave it or what was
    resolved for it. -/
theorem finishClaim_verifiedSupportIds (authIds : List String) (claim : Claim) (st : BinderState)
    {evId : String} (h : evId ∈ (b.finishClaim authIds claim st).1.verifiedSupportIds) :
    evId ∈ claim.verifiedSupportIds ∨ evId ∈ authIds := by
  -- A contradiction that is found adds nothing to the support.
  have hscan : ∀ {id : String}, id ∈ ((b.scanCounterEvidence claim st).1.foldl
      Claim.addPairVerdict claim).verifiedSupportIds → id ∈ claim.verifiedSupportIds := by
    intro id hid
    rcases mem_foldl_addPairVerdict_verifiedSupportIds _ _ hid with hold | ⟨v, hv, hsupport, -⟩
    · exact hold
    · rw [scanLoop_contradicted b claim _ st v hv] at hsupport
      cases hsupport
  simp only [CitationBinder.finishClaim] at h
  split_ifs at h
  -- The joint try counts all of the cited evidence as support.
  · rcases List.mem_append.mp h with hold | hjoint
    · exact .inl (hscan hold)
    · exact .inr hjoint
  · exact .inl (hscan h)

theorem finishClaim_verifierStatus (authIds : List String) (claim : Claim) (st : BinderState) :
    (b.finishClaim authIds claim st).1.verifierStatus =
      aggregateVerifierStatus
        ((b.finishClaim authIds claim st).1.pairVerdicts.map PairVerdict.verifierStatus) :=
  rfl

end Verdicts

section Binding

variable {b : CitationBinder}

/-- Every pair is filed under the evidence it is about. -/
theorem pairsOf_key {p : (Claim × List String) × Nat} {key : Nat × String} {pair : PairInput}
    (h : (key, pair) ∈ b.pairsOf p) : pair.evidenceId = key.2 := by
  unfold CitationBinder.pairsOf at h
  split_ifs at h
  · cases h
  · rcases List.mem_filterMap.mp h with ⟨evId, -, hpair⟩
    rcases Option.map_eq_some_iff.mp hpair with ⟨ev, -, heq⟩
    cases heq
    rfl

/-- The verdict filed under a key is about the evidence of the key. -/
theorem lookup_verdict_evidenceId {keyed : List ((Nat × String) × PairInput)}
    {results : List PairResult}
    (hkeyed : ∀ key pair, (key, pair) ∈ keyed → pair.evidenceId = key.2)
    (hresults : results.map PairResult.evidenceId = (keyed.map Prod.snd).map PairInput.evidenceId)
    {key : Nat × String} {v : PairVerdict}
    (h : (dictOf ((keyed.map Prod.fst).zip (results.map PairResult.toPairVerdict))).lookup key =
      some v) : v.evidenceId = key.2 := by
  have hmem : (key, v) ∈ (keyed.map Prod.fst).zip (results.map PairResult.toPairVerdict) :=
    mem_dictOf _ _ (mem_of_lookup h)
  -- The key and the verdict come from the same position of the two lists.
  rcases List.mem_iff_getElem?.mp hmem with ⟨i, hi⟩
  rcases List.getElem?_zip_eq_some.mp hi with ⟨hkey, hv⟩
  rw [List.getElem?_map] at hkey hv
  rcases Option.map_eq_some_iff.mp hkey with ⟨⟨key', pair⟩, hpair, rfl⟩
  rcases Option.map_eq_some_iff.mp hv with ⟨r, hr, rfl⟩
  -- The verifier answers the pairs in order, each under its evidence.
  have hid : r.evidenceId = pair.evidenceId := by
    have hat := congrArg (·[i]?) hresults
    simpa [hr, hpair] using hat
  exact hid.trans (hkeyed key' pair (List.mem_of_getElem? hpair))

/-- The support a claim gets from its pairs and its finish goes back to what
    was resolved for it. -/
theorem fillClaim_verifiedSupportIds
    {resultByKey : List ((Nat × String) × PairVerdict)}
    (hkeys : ∀ key v, resultByKey.lookup key = some v → v.evidenceId = key.2)
    {p : (Claim × List String) × Nat} {st : BinderState} (hfresh : p.1.1.verifiedSupportIds = [])
    {evId : String} (h : evId ∈ (b.fillClaim resultByKey p st).1.verifiedSupportIds) :
    evId ∈ p.1.2 := by
  unfold CitationBinder.fillClaim at h
  split_ifs at h
  · rw [hfresh] at h
    cases h
  · rcases finishClaim_verifiedSupportIds b _ _ _ h with hpairs | hauth
    -- The verdicts of the pairs were looked up by what was resolved.
    · rcases mem_foldl_addPairVerdict_verifiedSupportIds _ _ hpairs with hold | ⟨v, hv, -, rfl⟩
      · rw [hfresh] at hold
        cases hold
      · rcases List.mem_filterMap.mp hv with ⟨authId, hauth, hlookup⟩
        rw [hkeys _ _ hlookup]
        exact hauth
    · exact hauth

/-- What a claim that is judged supported has behind it. -/
structure Supported (b : CitationBinder) (u : Unicode) (answerText : String)
    (fresh claim : Claim) : Prop where
  verifierOk : ∀ v ∈ claim.pairVerdicts, v.verifierStatus = .ok
  uncontradicted : ∀ v ∈ claim.pairVerdicts, isContradiction u v.ruleResult = false ∧
    isContradiction u v.nliResult = false ∧ isContradiction u v.llmResult = false
  ownEvidence : ∃ evId ∈ claim.verifiedSupportIds, CitesOwn b fresh answerText evId
  ruleSupport : ∃ v ∈ claim.pairVerdicts, isRuleLlmSupport u v.ruleResult = true
  nliSupport : ∃ v ∈ claim.pairVerdicts, isNliSupport u v.nliResult = true
  llmSupport : ∃ v ∈ claim.pairVerdicts, isRuleLlmSupport u v.llmResult = true

/-- What the default matrix reads off a claim it judges supported. The status
    is taken to be the aggregate over the pairs, as a finished claim has it. -/
theorem supported_of_judge {u : Unicode} {answerText : String} {fresh claim : Claim}
    (hjudge : VerdictMatrix.default.judge u claim = .supported)
    (hstatus : claim.verifierStatus =
      aggregateVerifierStatus (claim.pairVerdicts.map PairVerdict.verifierStatus))
    (hsupport : ∀ evId ∈ claim.verifiedSupportIds, CitesOwn b fresh answerText evId) :
    Supported b u answerText fresh claim := by
  rcases (judge_default_supported u claim).mp hjudge with ⟨hok, hcontra, hverified, hlayers⟩
  simp only [allLayersSupported, aggregateLayers, Bool.and_eq_true, List.any_eq_true] at hlayers
  rcases hlayers with ⟨⟨hrule, hnli⟩, hllm⟩
  rcases hrule with ⟨v₀, hv₀, hrule₀⟩
  refine ⟨?_, ?_, ?_, ⟨v₀, hv₀, hrule₀⟩, hnli, hllm⟩
  -- There is a verdict, so an aggregate that is no failure means all worked.
  · intro v hv
    rw [hstatus] at hok
    have hne : claim.pairVerdicts.map PairVerdict.verifierStatus ≠ [] :=
      List.ne_nil_of_mem (List.mem_map_of_mem hv₀)
    exact forall_ok_of_aggregate hne hok _ (List.mem_map_of_mem hv)
  -- The contradiction rule stands before the support rule and did not match.
  · intro v hv
    have hnone : v.contradicts u = false := by
      have hall := List.any_eq_false.mp hcontra v hv
      exact Bool.eq_false_iff.mpr hall
    simpa [PairVerdict.contradicts, Bool.or_eq_false_iff, and_assoc] using hnone
  · have hsome : claim.verifiedSupportIds ≠ [] := by
      simpa [Claim.hasVerifiedSupport] using hverified
    rcases List.exists_mem_of_ne_nil _ hsome with ⟨evId, hev⟩
    exact ⟨evId, hev, hsupport evId hev⟩

/-- A claim without a verdict is not judged supported. -/
theorem judge_ne_supported_of_nil (u : Unicode) {claim : Claim} (h : claim.pairVerdicts = []) :
    VerdictMatrix.default.judge u claim ≠ .supported := by
  intro hjudge
  rcases (judge_default_supported u claim).mp hjudge with ⟨-, -, -, hlayers⟩
  simp [allLayersSupported, aggregateLayers, h] at hlayers

/-- What the first loop leaves at a position: no verdict, and evidence that the
    claim there cites. A claim that went through the loop has no support yet. -/
theorem getElem?_prepareAll {claims : List Claim} {answerText : String} {i : Nat}
    {p : Claim × List String} (h : (b.prepareAll claims answerText)[i]? = some p)
    (hfresh : ∀ c ∈ claims, c.pairVerdicts = []) :
    ∃ fresh, claims[i]? = some fresh ∧ p.1.pairVerdicts = [] ∧
      (p.1.finalStatus ≠ .truncated → p.1.verifiedSupportIds = []) ∧
      ∀ evId ∈ p.2, CitesOwn b fresh answerText evId := by
  rw [CitationBinder.prepareAll, List.getElem?_map, List.getElem?_zipIdx] at h
  cases hclaim : claims[i]? with
  | none => rw [hclaim] at h; cases h
  | some fresh =>
      rw [hclaim] at h
      simp only [Option.map_some, Option.some.injEq] at h
      refine ⟨fresh, rfl, ?_⟩
      split_ifs at h
      -- A claim beyond the limit is only marked, its fields stay.
      · subst h
        refine ⟨hfresh fresh (List.mem_of_getElem? hclaim), fun hne => absurd rfl hne, ?_⟩
        intro evId hev
        cases hev
      · subst h
        exact ⟨rfl, fun _ => rfl, fun evId hev => prepareClaim_cites b fresh answerText hev⟩

/-- A claim that is judged supported after binding is supported: its verifiers
    all worked, no layer contradicts it, evidence it cites itself supports it,
    and each layer reports support somewhere. -/
theorem bindAsync_sound (b : CitationBinder) (st : BinderState) (claims : List Claim)
    (answerText : String) (u : Unicode) (out : List Claim × BinderState)
    (hfresh : ∀ c ∈ claims, c.pairVerdicts = [])
    (hbind : b.bindAsync st claims answerText = .ok out)
    (i : Nat) (claim : Claim) (hclaim : out.1[i]? = some claim)
    (hjudge : VerdictMatrix.default.judge u claim = .supported) :
    ∃ fresh, claims[i]? = some fresh ∧ Supported b u answerText fresh claim := by
  unfold CitationBinder.bindAsync at hbind
  cases hpv : b.pairVerifier with
  | none => rw [hpv] at hbind; cases hbind
  | some pv =>
  rw [hpv] at hbind
  simp only at hbind
  split at hbind
  · cases hbind
  rename_i results llmCallsUsed hverify
  cases hbind
  -- The claim at the position was filled from what the first loop left there.
  rcases getElem?_mapState _ _ _ _ _ hclaim with ⟨⟨p, j⟩, st', hp, rfl⟩
  rw [List.getElem?_zipIdx] at hp
  rcases Option.map_eq_some_iff.mp hp with ⟨q, hq, heq⟩
  cases heq
  rcases getElem?_prepareAll hq hfresh with ⟨fresh, hfreshAt, hnoVerdict, hnoSupport, hcites⟩
  refine ⟨fresh, hfreshAt, ?_⟩
  -- A truncated claim comes back without a verdict.
  have hbound : p.1.finalStatus ≠ .truncated := by
    intro htruncated
    rw [CitationBinder.fillClaim, if_pos htruncated] at hjudge
    exact judge_ne_supported_of_nil u hnoVerdict hjudge
  refine supported_of_judge hjudge ?_ ?_
  · rw [CitationBinder.fillClaim, if_neg hbound]
    exact finishClaim_verifierStatus b _ _ _
  · intro evId hev
    have hresults := verifyPairs_evidenceId pv _ _ _ _ hverify
    refine hcites evId (fillClaim_verifiedSupportIds ?_ (hnoSupport hbound) hev)
    intro key v hlookup
    refine lookup_verdict_evidenceId ?_ hresults hlookup
    intro key' pair hpair
    rcases List.mem_flatMap.mp hpair with ⟨prepared, -, hmem⟩
    exact pairsOf_key hmem

/-- A binder whose rule layer finds the figures of a claim in its evidence. -/
def checkedBinder : CitationBinder :=
  { snapshot :=
      { snapshotId := "es_1"
        evidences := [{ evidenceId := "e1", sourceType := .rag, content := "收入为100万元",
                        tenantId := "t1" }]
        createdAt := ""
        toolRunId := ""
        attemptId := 1 }
    tenantId := "t1"
    budget := some {}
    pairVerifier := some
      { ruleCheckFact := fun _ _ => some
          { ruleResult := "SUPPORTED", extractedEntities := [[("value", .str "100")]] }
        callLlm := fun _ _ => none
        jsonLoads := fun _ => none
        unicode := default } }

/-- A claim not yet bound. -/
def freshClaim : Claim :=
  { claimId := "c1", text := "收入为100万元[1]" }

/-- The claim as the binder returns it. -/
def checkedClaim : Claim :=
  { freshClaim with
    rawDeclaredIndices := [1]
    resolvedDeclaredIds := ["e1"]
    verifiedSupportIds := ["e1"]
    pairVerdicts :=
      [{ evidenceId := "e1"
         pairStatus := .supported
         verifierStatus := .ok
         ruleResult := "SUPPORTED"
         nliResult := "entailment"
         llmResult := "SUPPORTED" }]
    verifierStatus := .ok }

theorem bindAsync_sound_checkedClaim :
    checkedBinder.bindAsync {} [freshClaim] "" = .ok ([checkedClaim], {}) ∧
      VerdictMatrix.default.judge default checkedClaim = .supported ∧
      ∃ fresh, [freshClaim][0]? = some fresh ∧
        Supported checkedBinder default "" fresh checkedClaim := by
  have hbind : checkedBinder.bindAsync {} [freshClaim] "" = .ok ([checkedClaim], {}) := by
    decide
  have hjudge : VerdictMatrix.default.judge default checkedClaim = .supported := by
    decide +kernel
  refine ⟨hbind, hjudge, bindAsync_sound checkedBinder {} [freshClaim] "" default _ ?_ hbind 0
    checkedClaim rfl hjudge⟩
  intro c hc
  rw [List.mem_singleton.mp hc]
  rfl

end Binding

end AgenticRag

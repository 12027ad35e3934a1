import AgenticRag.Core.CitationBinder

/-!
# Tenants and the Citation Binder

The evidence of other tenants lies in the same snapshot as the tenant's own,
under the same numbers and in the same tables. What a claim ends with must
nevertheless not depend on what that evidence says.

Two snapshots look alike to a tenant (`AgreeFor`) when they agree position by
position on id and owner, and on the whole record wherever the owner is the
tenant. `bind_noninterference` says that the binder cannot tell two such
snapshots apart: the claims come out the same, and so does the budget they
have used.

The argument follows the binder. Sorting a citation number asks for the id and
the owner only (`classifyCitation_agree`). Every id that is resolved belongs to
the tenant, so looking it up gives the same record on both sides
(`lookup_agree_of_owned`); this is where the ids must be distinct, since a
repeated id could resolve to one owner's record and be looked up as
another's. The search passes over foreign evidence before it reads it
(`scanLoop_agree`).

## Main definitions

* `AgreeFor`: Two snapshots look alike to a tenant.
* `OwnsId`: The tenant owns evidence of that id.

## Theorems

* `prepareClaim_owned`: What is left to check belongs to the tenant.
* `scanLoop_agree`: The search finds the same.
* `bind_noninterference`: The whole loop.
-/

namespace AgenticRag

open Py Ordered

/-- Two pieces of evidence that look alike to a tenant. -/
def Evidence.AgreeFor (tenantId : String) (ev ev' : Evidence) : Prop :=
  ev.evidenceId = ev'.evidenceId ∧ ev.tenantId = ev'.tenantId ∧
    (ev.tenantId = tenantId → ev = ev')

/-- Two lists of evidence that look alike to a tenant, position by
    position. -/
def AgreeFor (tenantId : String) (evidences evidences' : List Evidence) : Prop :=
  List.Forall₂ (Evidence.AgreeFor tenantId) evidences evidences'

/-- The tenant owns evidence of that id. -/
def OwnsId (tenantId : String) (evidences : List Evidence) (evId : String) : Prop :=
  ∃ ev ∈ evidences, ev.evidenceId = evId ∧ ev.tenantId = tenantId

section Tables

variable {b b' : CitationBinder}

/-- A citation number stands for evidence that looks alike. -/
theorem indexToEvidence_agree
    (h : AgreeFor b.tenantId b.snapshot.evidences b'.snapshot.evidences) (idx : Nat) :
    Option.Rel (Evidence.AgreeFor b.tenantId) (b.indexToEvidence idx) (b'.indexToEvidence idx) := by
  unfold CitationBinder.indexToEvidence
  by_cases hzero : idx = 0
  · rw [if_pos hzero, if_pos hzero]
    exact .none
  rw [if_neg hzero, if_neg hzero]
  rw [AgreeFor] at h
  generalize b.snapshot.evidences = evidences, b'.snapshot.evidences = evidences' at h ⊢
  generalize idx - 1 = i
  induction h generalizing i with
  | nil => exact .none
  | cons hev _ ih =>
      cases i with
      | zero => exact .some hev
      | succ i => exact ih i

/-- The table of records holds, id by id, records that look alike. -/
theorem evIdToEvidence_agree
    (h : AgreeFor b.tenantId b.snapshot.evidences b'.snapshot.evidences) :
    List.Forall₂ (fun p q => p.1 = q.1 ∧ Evidence.AgreeFor b.tenantId p.2 q.2)
      b.evIdToEvidence b'.evIdToEvidence := by
  refine dictOf_forall₂ (List.forall₂_map_left_iff.mpr (List.forall₂_map_right_iff.mpr ?_))
  rw [AgreeFor] at h
  generalize b.snapshot.evidences = evidences, b'.snapshot.evidences = evidences' at h ⊢
  induction h with
  | nil => exact .nil
  | @cons ev ev' _ _ hev _ ih =>
      by_cases hid : ev'.evidenceId = ""
      · rw [List.filter_cons_of_neg (by simp [hev.1, hid]), List.filter_cons_of_neg (by simp [hid])]
        exact ih
      · rw [List.filter_cons_of_pos (by simp [hev.1, hid]), List.filter_cons_of_pos (by simp [hid])]
        exact .cons ⟨hev.1, hev⟩ ih

/-- The table of numbers is the same. -/
theorem evIdToIndex_agree
    (h : AgreeFor b.tenantId b.snapshot.evidences b'.snapshot.evidences) :
    b.evIdToIndex = b'.evIdToIndex := by
  unfold CitationBinder.evIdToIndex
  congr 1
  rw [AgreeFor] at h
  generalize b.snapshot.evidences = evidences, b'.snapshot.evidences = evidences' at h ⊢
  generalize 1 = n
  induction h generalizing n with
  | nil => rfl
  | @cons ev ev' _ _ hev _ ih =>
      rw [List.zipIdx_cons, List.zipIdx_cons]
      by_cases hid : ev'.evidenceId = ""
      · rw [List.filter_cons_of_neg (by simp [hev.1, hid]),
          List.filter_cons_of_neg (by simp [hid]), ih]
      · rw [List.filter_cons_of_pos (by simp [hev.1, hid]),
          List.filter_cons_of_pos (by simp [hid]), List.map_cons, List.map_cons, ih, hev.1]

/-- An id of the tenant's own is looked up to the same record. -/
theorem lookup_agree_of_owned
    (h : AgreeFor b.tenantId b.snapshot.evidences b'.snapshot.evidences)
    (hids : (b.snapshot.evidences.map Evidence.evidenceId).Nodup) {evId : String}
    (howned : OwnsId b.tenantId b.snapshot.evidences evId) :
    b.evIdToEvidence.lookup evId = b'.evIdToEvidence.lookup evId := by
  have hrel := lookup_forall₂ (evIdToEvidence_agree h) evId
  cases hfound : b.evIdToEvidence.lookup evId with
  | none =>
      rw [hfound] at hrel
      cases hother : b'.evIdToEvidence.lookup evId with
      | none => rfl
      | some ev' => rw [hother] at hrel; cases hrel
  | some ev =>
      rw [hfound] at hrel
      cases hother : b'.evIdToEvidence.lookup evId with
      | none => rw [hother] at hrel; cases hrel
      | some ev' =>
          rw [hother] at hrel
          -- What is found carries the id, and only the tenant's record does.
          have hown : ev.tenantId = b.tenantId := by
            have hmem := mem_dictOf _ _ (mem_of_lookup hfound)
            rcases List.mem_map.mp hmem with ⟨e, he, heq⟩
            rcases howned with ⟨o, ho, hoid, hotenant⟩
            have hid : e.evidenceId = o.evidenceId :=
              (congrArg Prod.fst heq).trans hoid.symm
            have hsame : e = o :=
              List.inj_on_of_nodup_map hids (List.mem_of_mem_filter he) ho hid
            rw [← show e = ev from congrArg Prod.snd heq, hsame, hotenant]
          cases hrel with
          | some hagree => rw [hagree.2.2 hown]

end Tables

section Citations

variable {b b' : CitationBinder}

/-- A citation number is sorted by id and owner alone. -/
theorem classifyCitation_agree (htenant : b'.tenantId = b.tenantId)
    (h : AgreeFor b.tenantId b.snapshot.evidences b'.snapshot.evidences) (claim : Claim)
    (idx : Nat) : b.classifyCitation claim idx = b'.classifyCitation claim idx := by
  unfold CitationBinder.classifyCitation
  have hrel := indexToEvidence_agree h idx
  generalize b.indexToEvidence idx = found, b'.indexToEvidence idx = found' at hrel
  cases hrel with
  | none => rfl
  | some hev => simp only [hev.1, hev.2.1, htenant]

theorem parseDeclaredCitations_agree (htenant : b'.tenantId = b.tenantId)
    (h : AgreeFor b.tenantId b.snapshot.evidences b'.snapshot.evidences) (claim : Claim)
    (citations : List Nat) :
    b.parseDeclaredCitations claim citations = b'.parseDeclaredCitations claim citations := by
  have hclassify : b.classifyCitation = b'.classifyCitation :=
    funext fun c => funext fun idx => classifyCitation_agree htenant h c idx
  rw [CitationBinder.parseDeclaredCitations, CitationBinder.parseDeclaredCitations, hclassify]

/-- Citations are read and cut alike. -/
theorem prepareClaim_agree (htenant : b'.tenantId = b.tenantId) (hbudget : b'.budget = b.budget)
    (h : AgreeFor b.tenantId b.snapshot.evidences b'.snapshot.evidences) (claim : Claim)
    (answerText : String) : b.prepareClaim claim answerText = b'.prepareClaim claim answerText := by
  have hcut : b.truncateCitationsByBudget = b'.truncateCitationsByBudget := by
    funext c
    unfold CitationBinder.truncateCitationsByBudget
    rw [hbudget, evIdToIndex_agree h]
  rw [CitationBinder.prepareClaim, CitationBinder.prepareClaim,
    parseDeclaredCitations_agree htenant h, hcut]

/-- What sorting a number resolves belongs to the tenant. -/
theorem classifyCitation_owned {claim : Claim} {idx : Nat}
    (hclaim : ∀ evId ∈ claim.resolvedDeclaredIds,
      OwnsId b.tenantId b.snapshot.evidences evId) :
    ∀ evId ∈ (b.classifyCitation claim idx).resolvedDeclaredIds,
      OwnsId b.tenantId b.snapshot.evidences evId := by
  intro evId hmem
  unfold CitationBinder.classifyCitation at hmem
  cases hfound : b.indexToEvidence idx with
  | none =>
      rw [hfound] at hmem
      exact hclaim evId hmem
  | some ev =>
      simp only [hfound] at hmem
      split_ifs at hmem with hid howner
      · exact hclaim evId hmem
      · exact hclaim evId hmem
      · rcases mem_addNew.mp hmem with hold | hnew
        · exact hclaim evId hold
        -- The new id is that of evidence in the snapshot, and the owner was asked.
        · unfold CitationBinder.indexToEvidence at hfound
          split_ifs at hfound
          exact ⟨ev, List.mem_of_getElem? hfound, hnew.symm, not_not.mp howner⟩

theorem parseDeclaredCitations_owned (claim : Claim) (citations : List Nat) :
    ∀ evId ∈ (b.parseDeclaredCitations claim citations).resolvedDeclaredIds,
      OwnsId b.tenantId b.snapshot.evidences evId := by
  unfold CitationBinder.parseDeclaredCitations
  -- Nothing is resolved at the start, and each number keeps the fact.
  refine List.foldlRecOn citations b.classifyCitation
    (motive := fun c : Claim => ∀ evId ∈ c.resolvedDeclaredIds,
      OwnsId b.tenantId b.snapshot.evidences evId) ?_ ?_
  · intro evId hmem
    cases hmem
  · intro c hc idx _
    exact classifyCitation_owned hc

/-- What is left to check belongs to the tenant. -/
theorem prepareClaim_owned (claim : Claim) (answerText : String) :
    ∀ evId ∈ (b.prepareClaim claim answerText).2,
      OwnsId b.tenantId b.snapshot.evidences evId := by
  intro evId hmem
  apply parseDeclaredCitations_owned claim (extractCitationsForClaim claim answerText) evId
  unfold CitationBinder.prepareClaim CitationBinder.truncateCitationsByBudget at hmem
  cases hbudget : b.budget with
  | none =>
      simp only [hbudget] at hmem
      exact hmem
  | some budget =>
      simp only [hbudget] at hmem
      split_ifs at hmem
      · exact hmem
      · exact List.mem_of_mem_take hmem

end Citations

section Checks

variable {b b' : CitationBinder}

theorem verifyPairWithBudget_agree (hbudget : b'.budget = b.budget) :
    b.verifyPairWithBudget = b'.verifyPairWithBudget := by
  funext claim ev st
  rw [CitationBinder.verifyPairWithBudget, CitationBinder.verifyPairWithBudget, hbudget]

/-- The records of the tenant's ids are the same on both sides. -/
theorem filterMap_lookup_agree
    (h : AgreeFor b.tenantId b.snapshot.evidences b'.snapshot.evidences)
    (hids : (b.snapshot.evidences.map Evidence.evidenceId).Nodup) {authIds : List String}
    (howned : ∀ evId ∈ authIds, OwnsId b.tenantId b.snapshot.evidences evId) :
    authIds.filterMap (fun evId => b.evIdToEvidence.lookup evId) =
      authIds.filterMap (fun evId => b'.evIdToEvidence.lookup evId) :=
  List.filterMap_congr (fun evId hmem => lookup_agree_of_owned h hids (howned evId hmem))

/-- The search finds the same, whatever the foreign records hold. -/
theorem scanLoop_agree (htenant : b'.tenantId = b.tenantId) (hbudget : b'.budget = b.budget)
    (claim : Claim) {table table' : List (String × Evidence)}
    (h : List.Forall₂ (fun p q => p.1 = q.1 ∧ Evidence.AgreeFor b.tenantId p.2 q.2) table table')
    (st : BinderState) : b.scanLoop claim table st = b'.scanLoop claim table' st := by
  induction h generalizing st with
  | nil => rfl
  | @cons p q _ _ hpq _ ih =>
      rcases p with ⟨evId, ev⟩
      rcases q with ⟨evId', ev'⟩
      have hkey : evId = evId' := hpq.1
      have hev : Evidence.AgreeFor b.tenantId ev ev' := hpq.2
      subst hkey
      rw [CitationBinder.scanLoop, CitationBinder.scanLoop, ← hev.2.1, htenant]
      by_cases howner : ev.tenantId ≠ b.tenantId
      -- Foreign evidence is passed over on both sides before it is read.
      · rw [if_pos howner, if_pos howner, ih st]
      · rw [← hev.2.2 (not_not.mp howner), verifyPairWithBudget_agree hbudget]
        simp only [ih]

/-- The second half of the loop body comes out the same. -/
theorem finishClaim_agree (htenant : b'.tenantId = b.tenantId) (hbudget : b'.budget = b.budget)
    (h : AgreeFor b.tenantId b.snapshot.evidences b'.snapshot.evidences)
    (hids : (b.snapshot.evidences.map Evidence.evidenceId).Nodup) {authIds : List String}
    (howned : ∀ evId ∈ authIds, OwnsId b.tenantId b.snapshot.evidences evId) (claim : Claim)
    (st : BinderState) : b.finishClaim authIds claim st = b'.finishClaim authIds claim st := by
  have hscan : b.scanCounterEvidence claim st = b'.scanCounterEvidence claim st :=
    scanLoop_agree htenant hbudget claim (evIdToEvidence_agree h) st
  have hjoint : ∀ c : Claim, b.verifyJointSupport c authIds = b'.verifyJointSupport c authIds := by
    intro c
    rw [CitationBinder.verifyJointSupport, CitationBinder.verifyJointSupport,
      filterMap_lookup_agree h hids howned]
  rw [CitationBinder.finishClaim, CitationBinder.finishClaim, hscan]
  simp only [hjoint]

theorem verifyDeclared_agree (hbudget : b'.budget = b.budget)
    (h : AgreeFor b.tenantId b.snapshot.evidences b'.snapshot.evidences)
    (hids : (b.snapshot.evidences.map Evidence.evidenceId).Nodup) {authIds : List String}
    (howned : ∀ evId ∈ authIds, OwnsId b.tenantId b.snapshot.evidences evId) (claim : Claim)
    (st : BinderState) : b.verifyDeclared claim authIds st = b'.verifyDeclared claim authIds st := by
  rw [CitationBinder.verifyDeclared, CitationBinder.verifyDeclared,
    filterMap_lookup_agree h hids howned, verifyPairWithBudget_agree hbudget]

/-- The loop body comes out the same. -/
theorem bindClaim_agree (htenant : b'.tenantId = b.tenantId) (hbudget : b'.budget = b.budget)
    (h : AgreeFor b.tenantId b.snapshot.evidences b'.snapshot.evidences)
    (hids : (b.snapshot.evidences.map Evidence.evidenceId).Nodup) (answerText : String)
    (p : Claim × Nat) (st : BinderState) :
    b.bindClaim answerText p st = b'.bindClaim answerText p st := by
  have hbeyond : b.beyondMaxClaims p.2 = b'.beyondMaxClaims p.2 := by
    rw [CitationBinder.beyondMaxClaims, CitationBinder.beyondMaxClaims, hbudget]
  have howned := prepareClaim_owned (b := b) p.1 answerText
  rw [CitationBinder.bindClaim, CitationBinder.bindClaim, ← hbeyond,
    ← prepareClaim_agree htenant hbudget h]
  simp only [verifyDeclared_agree hbudget h hids howned,
    finishClaim_agree htenant hbudget h hids howned]

end Checks

/-- What `bind` makes of the claims does not depend on the evidence of other
    tenants. -/
theorem bind_noninterference (tenantId : String) (budget : Option VerificationBudget)
    (pairVerifier pairVerifier' : Option PairVerifier) (snapshot snapshot' : EvidenceSnapshot)
    (hids : (snapshot.evidences.map Evidence.evidenceId).Nodup)
    (hagree : AgreeFor tenantId snapshot.evidences snapshot'.evidences)
    (st : BinderState) (claims : List Claim) (answerText : String) :
    (CitationBinder.mk snapshot tenantId budget pairVerifier).bind st claims answerText =
      (CitationBinder.mk snapshot' tenantId budget pairVerifier').bind st claims answerText := by
  have hbody : (CitationBinder.mk snapshot tenantId budget pairVerifier).bindClaim answerText =
      (CitationBinder.mk snapshot' tenantId budget pairVerifier').bindClaim answerText := by
    funext p s
    apply bindClaim_agree
    · rfl
    · rfl
    · exact hagree
    · exact hids
  rw [CitationBinder.bind, CitationBinder.bind, hbody]

/-- A claim that cites one piece of the tenant's own and one of another
    tenant's, whose text differs between the two snapshots. -/
theorem bind_noninterference_foreign_text :
    let own : Evidence :=
      { evidenceId := "ev_1", sourceType := .rag, content := "2024年营收 5 亿元", tenantId := "a" }
    let foreign : Evidence :=
      { evidenceId := "ev_2", sourceType := .rag, content := "2024年没有营收", tenantId := "b" }
    let foreign' : Evidence := { foreign with content := "营收 7 亿元", relevanceScore := 1 }
    let claims : List Claim := [{ claimId := "claim_001", text := "营收 5 亿元[1][2]" }]
    (CitationBinder.mk ⟨"es_1", [own, foreign], "", "", 1, "1.0"⟩ "a" (some {}) none).bind {}
        claims "" =
      (CitationBinder.mk ⟨"es_1", [own, foreign'], "", "", 1, "1.0"⟩ "a" (some {}) none).bind {}
        claims "" := by
  intro own foreign foreign' claims
  refine bind_noninterference "a" (some {}) none none _ _ (by decide) ?_ {} claims ""
  exact .cons ⟨rfl, rfl, fun _ => rfl⟩
    (.cons ⟨rfl, rfl, fun h => absurd h (by decide)⟩ .nil)

end AgenticRag

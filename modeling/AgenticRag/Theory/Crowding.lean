import AgenticRag.Theory.SkillLegality

/-!
# Skills that Are Crowded Out

The words of a question lead to a skill that may be used, if they lead to any:
the candidates are tried one after the other, and those that may not be used are
passed over. That is so where the candidates are matched by keywords.

Where an index is there, though, its hits are cut short before anything is passed
over. The index covers the whole catalog, and the first of its hits may all be of
skills that may not be used (`usable_skill_crowded_out`). The fusion of two lists
of hits is cut, and what the reranker is given. `served_iff` says when the words
lead to a skill: when one that may be used is still there after the cuts, or the
keywords match one where they decide.

The configuration of a request can be such that looking at it raises an
exception, and then nothing is found either.

## Main definitions

* `keywordPath`: The part of the resolver that goes by the words.
* `Reaches`: One of them is still there after the cuts.

## Theorems

* `firstResolved_iff`: When one of the candidates is resolved.
* `scoredToSkills_ne_nil_iff`: When one of the hits is of such a skill.
* `served_iff`, `served_of_scored_iff`: When the words lead to a skill.
-/

namespace AgenticRag

namespace Skills

open Py Ordered Structured

section Trying

variable (casefold : String → String) (defaultAllowApproved : Bool)
  (registry : SkillCatalogSnapshot) (ctx : SkillResolveContext)

/-- A skill passes the filter. -/
def Passing (skill : ReportSkill) : Prop :=
  prefilterSkill casefold defaultAllowApproved registry skill ctx = .ok none

/-- A skill is kept by the filter. -/
def Refused (skill : ReportSkill) : Prop :=
  ∃ reason, prefilterSkill casefold defaultAllowApproved registry skill ctx = .ok (some reason)

/-- The filter can be run for a skill. -/
def Filtered (skill : ReportSkill) : Prop :=
  ∃ reason, prefilterSkill casefold defaultAllowApproved registry skill ctx = .ok reason

/-- A result with a skill that may be used, found by the words of the question. -/
def ByWords (result : SkillResolveResult) : Prop :=
  result.resolved = true ∧ ∃ set, result.skillSet = some set ∧ set.resolutionSource = .keyword ∧
    Passing casefold defaultAllowApproved registry ctx set.reportSkill

variable {casefold defaultAllowApproved registry ctx}

/-- Permissions that can be compared with those of one skill can be compared with
    those of any. -/
theorem permissionsCover_returns {required : List String} {covered : Bool}
    (h : permissionsCover required ctx = .ok covered) (required' : List String) :
    ∃ covered', permissionsCover required' ctx = .ok covered' := by
  unfold permissionsCover at h ⊢
  split
  next => exact ⟨true, rfl⟩
  next permissions hperms =>
    rw [hperms] at h
    rcases exists_of_bind_ok h with ⟨userSet, hset, -⟩
    rw [isSkillAvailable, hset]
    exact ⟨_, rfl⟩
  next => exact ⟨false, rfl⟩

theorem linkedSkill_returns {required : List String} {covered : Bool}
    (h : permissionsCover required ctx = .ok covered) {α : Type} (kind skillId : String)
    (base : α → SkillBase) (linked : Option α) :
    ∃ kept, linkedSkill kind base skillId ctx linked = .ok kept := by
  cases linked with
  | none => exact ⟨_, rfl⟩
  | some linked =>
      rw [linkedSkill]
      split_ifs
      · rcases permissionsCover_returns h (base linked).requiredPermissions with ⟨b, hb⟩
        rw [hb]
        cases b <;> exact ⟨_, rfl⟩
      · exact ⟨_, rfl⟩

/-- A skill that passes the filter is resolved, together with what is linked to
    it. -/
theorem resolveReportSkill_of_passes {skill : ReportSkill}
    (h : Passing casefold defaultAllowApproved registry ctx skill) :
    ∃ result, resolveReportSkill casefold defaultAllowApproved registry skill .keyword ctx false =
      .ok result ∧ ByWords casefold defaultAllowApproved registry ctx result := by
  have hcovered := (prefilterSkill_none casefold defaultAllowApproved registry h).2.2.1
  rcases linkedSkill_returns hcovered "Data" skill.skillId DataSkill.toSkillBase
    (registry.getDataForReport skill.skillId) with ⟨data, hdata⟩
  rcases linkedSkill_returns hcovered "Retrieval" skill.skillId RetrievalSkill.toSkillBase
    (registry.getRetrievalForReport skill.skillId) with ⟨retrieval, hretrieval⟩
  rw [resolveReportSkill, h]
  simp only [bind, Except.bind, hdata, hretrieval]
  exact ⟨_, rfl, rfl, _, rfl, rfl, h⟩

theorem resolveReportSkill_of_refused {skill : ReportSkill}
    (h : Refused casefold defaultAllowApproved registry ctx skill) :
    ∃ result, resolveReportSkill casefold defaultAllowApproved registry skill .keyword ctx false =
      .ok result ∧ result.resolved = false := by
  rcases h with ⟨reason, h⟩
  rw [resolveReportSkill, h]
  exact ⟨_, rfl, rfl⟩

theorem resolveReportSkill_filtered {skill : ReportSkill} {result : SkillResolveResult}
    (h : resolveReportSkill casefold defaultAllowApproved registry skill .keyword ctx false =
      .ok result) : Filtered casefold defaultAllowApproved registry ctx skill := by
  rcases exists_of_bind_ok h with ⟨reason, hreason, -⟩
  exact ⟨reason, hreason⟩

theorem passing_or_refused {skill : ReportSkill}
    (h : Filtered casefold defaultAllowApproved registry ctx skill) :
    Passing casefold defaultAllowApproved registry ctx skill ∨
      Refused casefold defaultAllowApproved registry ctx skill := by
  rcases h with ⟨reason, h⟩
  cases reason with
  | none => exact .inl h
  | some reason => exact .inr ⟨reason, h⟩

/-- One of the candidates is resolved exactly if one passes the filter, and those
    before it are kept by it. -/
theorem firstResolved_iff {candidates : List ReportSkill} :
    (∃ result, firstResolved casefold defaultAllowApproved registry ctx candidates =
        .ok (some result) ∧ ByWords casefold defaultAllowApproved registry ctx result) ↔
      ∃ before skill after, candidates = before ++ skill :: after ∧
        (∀ other ∈ before, Refused casefold defaultAllowApproved registry ctx other) ∧
        Passing casefold defaultAllowApproved registry ctx skill := by
  induction candidates with
  | nil => simp [firstResolved]
  | cons first rest ih =>
      constructor
      · rintro ⟨result, h, hwords⟩
        rcases exists_of_bind_ok h with ⟨tried, htried, h⟩
        rcases passing_or_refused (resolveReportSkill_filtered htried) with hpass | hrefused
        · exact ⟨[], first, rest, rfl, List.forall_mem_nil _, hpass⟩
        · rcases resolveReportSkill_of_refused hrefused with ⟨tried', htried', hfailed⟩
          rw [htried] at htried'
          cases htried'
          rw [hfailed, if_neg Bool.false_ne_true] at h
          rcases ih.mp ⟨result, h, hwords⟩ with ⟨before, skill, after, rfl, hbefore, hpass⟩
          exact ⟨first :: before, skill, after, rfl,
            List.forall_mem_cons.mpr ⟨hrefused, hbefore⟩, hpass⟩
      · rintro ⟨before, skill, after, heq, hbefore, hpass⟩
        rw [firstResolved]
        cases before with
        | nil =>
            cases heq
            rcases resolveReportSkill_of_passes hpass with ⟨result, hresult, hwords⟩
            rw [hresult]
            simp only [bind, Except.bind, hwords.1, if_pos]
            exact ⟨result, rfl, hwords⟩
        | cons other before =>
            cases heq
            rw [List.forall_mem_cons] at hbefore
            rcases resolveReportSkill_of_refused hbefore.1 with ⟨tried, htried, hfailed⟩
            rw [htried]
            simp only [bind, Except.bind, hfailed, Bool.false_eq_true, if_false]
            exact ih.mpr ⟨before, skill, after, rfl, hbefore.2, hpass⟩

/-- Where the filter can be run for all candidates, it takes one that passes. -/
theorem firstResolved_iff_of_filtered {candidates : List ReportSkill}
    (h : ∀ skill ∈ candidates, Filtered casefold defaultAllowApproved registry ctx skill) :
    (∃ result, firstResolved casefold defaultAllowApproved registry ctx candidates =
        .ok (some result) ∧ ByWords casefold defaultAllowApproved registry ctx result) ↔
      ∃ skill ∈ candidates, Passing casefold defaultAllowApproved registry ctx skill := by
  rw [firstResolved_iff]
  constructor
  · rintro ⟨before, skill, after, rfl, -, hpass⟩
    exact ⟨skill, List.mem_append_right _ List.mem_cons_self, hpass⟩
  · rintro ⟨skill, hskill, hpass⟩
    induction candidates with
    | nil => cases hskill
    | cons first rest ih =>
        rw [List.forall_mem_cons] at h
        rcases passing_or_refused h.1 with hfirst | hfirst
        · exact ⟨[], first, rest, rfl, List.forall_mem_nil _, hfirst⟩
        · rcases List.mem_cons.mp hskill with rfl | hskill
          · exact ⟨[], skill, rest, rfl, List.forall_mem_nil _, hpass⟩
          · rcases ih h.2 hskill with ⟨before, found, after, rfl, hbefore, hfound⟩
            exact ⟨first :: before, found, after, rfl,
              List.forall_mem_cons.mpr ⟨hfirst, hbefore⟩, hfound⟩

end Trying

section Recalling

variable (casefold : String → String) (defaultAllowApproved : Bool)
  (registry : SkillCatalogSnapshot) (ctx : SkillResolveContext)

/-- The report skills of the catalog. -/
def reports : List ReportSkill := registry.listAll.filterMap Skill.report?

/-- A skill passes the filter, as a test. -/
def passes (skill : ReportSkill) : Bool :=
  match prefilterSkill casefold defaultAllowApproved registry skill ctx with
  | .ok none => true
  | _ => false

/-- The report skills that pass. -/
def passingReports : List ReportSkill :=
  (reports registry).filter (passes casefold defaultAllowApproved registry ctx)

variable {casefold defaultAllowApproved registry ctx}

theorem passes_iff (skill : ReportSkill) :
    passes casefold defaultAllowApproved registry ctx skill = true ↔
      Passing casefold defaultAllowApproved registry ctx skill := by
  unfold passes Passing
  split <;> simp_all

theorem mem_passingReports {skill : ReportSkill} :
    skill ∈ passingReports casefold defaultAllowApproved registry ctx ↔
      skill ∈ reports registry ∧ Passing casefold defaultAllowApproved registry ctx skill := by
  rw [passingReports, List.mem_filter, passes_iff]

/-- The skills that pass are found exactly if the filter can be run for all. -/
theorem legalReports_eq_ok_iff (skills legal : List ReportSkill) :
    legalReports casefold defaultAllowApproved registry ctx skills = .ok legal ↔
      (∀ skill ∈ skills, Filtered casefold defaultAllowApproved registry ctx skill) ∧
        legal = skills.filter (passes casefold defaultAllowApproved registry ctx) := by
  induction skills generalizing legal with
  | nil => simp [legalReports, eq_comm]
  | cons skill rest ih =>
      rw [legalReports, List.forall_mem_cons, List.filter_cons]
      constructor
      · intro h
        rcases exists_of_bind_ok h with ⟨reason, hreason, h⟩
        rcases exists_of_bind_ok h with ⟨legal', hlegal', h⟩
        cases h
        rcases (ih legal').mp hlegal' with ⟨hrest, rfl⟩
        refine ⟨⟨⟨reason, hreason⟩, hrest⟩, ?_⟩
        rw [passes, hreason]
        cases reason <;> rfl
      · rintro ⟨⟨⟨reason, hreason⟩, hrest⟩, rfl⟩
        rw [hreason, (ih _).mpr ⟨hrest, rfl⟩, passes, hreason]
        cases reason <;> rfl

theorem mem_rankedKeywordCandidates {skill : ReportSkill} :
    skill ∈ rankedKeywordCandidates casefold registry ctx.userQuestion ↔
      skill ∈ reports registry ∧ skill.enabled = true ∧
        0 < keywordScore casefold skill.intentKeywords (casefold ctx.userQuestion) := by
  simp only [rankedKeywordCandidates, reports, List.mem_map, mem_sortDesc, List.mem_filter,
    decide_eq_true_eq]
  constructor
  · rintro ⟨entry, ⟨⟨found, hfound, rfl⟩, hscore⟩, rfl⟩
    exact ⟨hfound.1, hfound.2, hscore⟩
  · rintro ⟨hmem, henabled, hscore⟩
    exact ⟨_, ⟨⟨skill, ⟨hmem, henabled⟩, rfl⟩, hscore⟩, rfl⟩

/-- The skills of some hits are those of the reports. -/
theorem mem_of_scoredToSkills {results : List ScoredCard} {allReports : List ReportSkill}
    {skill : ReportSkill} (h : skill ∈ scoredToSkills results allReports) :
    skill ∈ allReports := by
  rcases List.mem_filterMap.mp h with ⟨sid, -, hlookup⟩
  rcases List.mem_map.mp (mem_dictOf _ _ (mem_of_lookup hlookup)) with ⟨found, hfound, heq⟩
  rw [Prod.mk.injEq] at heq
  exact heq.2 ▸ hfound

/-- There are skills among some hits exactly if a hit has the id of a report. -/
theorem scoredToSkills_ne_nil_iff (results : List ScoredCard) (allReports : List ReportSkill) :
    scoredToSkills results allReports ≠ [] ↔
      ∃ hit ∈ results, ∃ skill ∈ allReports, skill.skillId = hit.card.skillId := by
  constructor
  · intro hne
    rcases List.exists_mem_of_ne_nil _ hne with ⟨skill, hskill⟩
    rcases List.mem_filterMap.mp hskill with ⟨sid, hsid, hlookup⟩
    rcases List.mem_map.mp (mem_fromKeys.mp hsid) with ⟨hit, hhit, rfl⟩
    rcases List.mem_map.mp (mem_dictOf _ _ (mem_of_lookup hlookup)) with ⟨found, hfound, heq⟩
    rw [Prod.mk.injEq] at heq
    exact ⟨hit, hhit, found, hfound, heq.1⟩
  · rintro ⟨hit, hhit, skill, hskill, hid⟩
    have hkey : hit.card.skillId ∈
        (dictOf (allReports.map (fun skill => (skill.skillId, skill)))).map Prod.fst := by
      rw [dictOf, ← dictUpdate, mem_keys_dictUpdate]
      exact .inr (List.mem_map.mpr ⟨_, List.mem_map_of_mem hskill, hid⟩)
    cases hlookup : (dictOf (allReports.map (fun skill => (skill.skillId, skill)))).lookup
        hit.card.skillId with
    | none => exact absurd hkey (lookup_eq_none_iff_not_mem.mp hlookup)
    | some found =>
        exact List.ne_nil_of_mem (List.mem_filterMap.mpr
          ⟨_, mem_fromKeys.mpr (List.mem_map_of_mem hhit), hlookup⟩)

end Recalling

section Cutting

variable (config : HybridRecallConfig) (x : Retrievers)

/-- The hits of the vector index, where they take part. -/
def vectorHits : List ScoredCard :=
  match x.embedding, config.enableEmbedding with
  | some (.ok embeddingResults), true => embeddingResults
  | _, _ => []

/-- The hits of both indexes as one list. It is cut if both have some. -/
def pool (bm25Results embeddingResults : List ScoredCard) : List ScoredCard :=
  if embeddingResults = [] then bm25Results
  else if bm25Results = [] then embeddingResults
  else reciprocalRankFusion bm25Results embeddingResults config.rrfTopK 60

/-- The hits that are left where a reranker puts them in another order. -/
def uncut (hits : List ScoredCard) : List ScoredCard :=
  match x.reranker, config.enableReranker with
  | some rerank, true =>
      match rerank (hits.take config.rerankerMaxCandidates) with
      | .ok rank =>
          if rank.rerankDegraded then hits else hits.take config.rerankerMaxCandidates
      | .error _ => hits
  | _, _ => hits

variable {config x}

theorem embeddingRecallAndFuse_eq (bm25Results : List ScoredCard) :
    embeddingRecallAndFuse config x bm25Results =
      pool config bm25Results (vectorHits config x) := by
  unfold embeddingRecallAndFuse
  split
  next embeddingResults hvectors henabled =>
    rw [vectorHits, hvectors, henabled]
    simp only [pool, List.isEmpty_iff]
  next hother =>
    have hnone : vectorHits config x = [] := by
      unfold vectorHits
      split
      next embeddingResults hvectors henabled =>
        exact (hother embeddingResults hvectors henabled).elim
      next => rfl
    rw [hnone]
    exact (if_pos rfl).symm

/-- Another order loses no id. -/
theorem exists_reorder_iff (hits : List ScoredCard) (rank : SkillRankDecision) (sid : String) :
    (∃ hit ∈ reorder hits rank, hit.card.skillId = sid) ↔
      ∃ hit ∈ hits, hit.card.skillId = sid := by
  have hkeys : ∀ id hit, (dictOf (hits.map (fun hit => (hit.card.skillId, hit)))).lookup id =
      some hit → hit ∈ hits ∧ hit.card.skillId = id := by
    intro id hit hlookup
    rcases List.mem_map.mp (mem_dictOf _ _ (mem_of_lookup hlookup)) with ⟨found, hfound, heq⟩
    rw [Prod.mk.injEq] at heq
    exact ⟨heq.2 ▸ hfound, heq.2 ▸ heq.1⟩
  constructor
  · rintro ⟨hit, hhit, hid⟩
    rcases List.mem_append.mp hhit with hhit | hhit
    · rcases List.mem_filterMap.mp hhit with ⟨c, -, hc⟩
      rcases Option.map_eq_some_iff.mp hc with ⟨found, hlookup, rfl⟩
      exact ⟨found, (hkeys _ _ hlookup).1, hid⟩
    · exact ⟨hit, (List.mem_filter.mp hhit).1, hid⟩
  · rintro ⟨hit, hhit, rfl⟩
    by_cases hranked : hit.card.skillId ∈ rank.candidates.map (·.skillId)
    · rcases List.mem_map.mp hranked with ⟨c, hc, hid⟩
      have hmem : hit.card.skillId ∈
          (dictOf (hits.map (fun hit => (hit.card.skillId, hit)))).map Prod.fst := by
        rw [dictOf, ← dictUpdate, mem_keys_dictUpdate]
        exact .inr (List.mem_map.mpr ⟨_, List.mem_map_of_mem hhit, rfl⟩)
      cases hlookup : (dictOf (hits.map (fun hit => (hit.card.skillId, hit)))).lookup
          hit.card.skillId with
      | none => exact absurd hmem (lookup_eq_none_iff_not_mem.mp hlookup)
      | some found =>
          refine ⟨{ card := found.card, score := c.score, source := .reranker },
            List.mem_append_left _ (List.mem_filterMap.mpr ⟨c, hc, ?_⟩), (hkeys _ _ hlookup).2⟩
          rw [hid, hlookup]
          rfl
    · refine ⟨hit, List.mem_append_right _ (List.mem_filter.mpr ⟨hhit, ?_⟩), rfl⟩
      simpa using hranked

theorem exists_rerankRecallResults_iff (hits : List ScoredCard) (sid : String) :
    (∃ hit ∈ rerankRecallResults config x hits, hit.card.skillId = sid) ↔
      ∃ hit ∈ uncut config x hits, hit.card.skillId = sid := by
  unfold rerankRecallResults
  split
  next rerank hreranker henabled =>
    rw [uncut, hreranker, henabled]
    simp only
    cases rerank (hits.take config.rerankerMaxCandidates) with
    | error e => exact Iff.rfl
    | ok rank =>
        simp only
        split_ifs
        · exact Iff.rfl
        · exact exists_reorder_iff _ rank sid
  next hother =>
    have hall : uncut config x hits = hits := by
      unfold uncut
      split
      next rerank hreranker henabled => exact (hother rerank hreranker henabled).elim
      next => rfl
    rw [hall]

end Cutting

section Serving

variable (casefold : String → String) (defaultAllowApproved : Bool)
  (registry : SkillCatalogSnapshot) (config : HybridRecallConfig) (x : Retrievers)
  (ctx : SkillResolveContext)

/-- The part of `resolve` that goes by the words of a question. -/
def keywordPath : Except Exc (Option SkillResolveResult) := do
  let candidates ← hybridRecallCandidates casefold defaultAllowApproved registry config x ctx
  firstResolved casefold defaultAllowApproved registry ctx candidates

/-- The words lead to a skill that may be used. -/
def Served : Prop :=
  ∃ result, keywordPath casefold defaultAllowApproved registry config x ctx = .ok (some result) ∧
    ByWords casefold defaultAllowApproved registry ctx result

/-- The request, or else the configuration, switches the index on or off. -/
def Switched (on : Bool) : Prop :=
  ∃ routerConfig, pyGet ctx.config "skill_router" (.dict []) = .dict routerConfig ∧
    (pyGet routerConfig "enabled" (.bool config.enabled)).truthy = on

/-- The hits decide: the index can be searched, and some are found. There are
    cards of skills that pass, and one of them has a domain of the question. -/
structure Decides (bm25Results : List ScoredCard) : Prop where
  search : x.bm25 = some (.ok bm25Results)
  cards : buildCardsForRecall registry
    (passingReports casefold defaultAllowApproved registry ctx) ≠ []
  domain : filterByDomain (buildCardsForRecall registry
    (passingReports casefold defaultAllowApproved registry ctx))
    (classifyDomainsByRule ctx.userQuestion) ≠ []
  found : pool config bm25Results (vectorHits config x) ≠ []

/-- A skill that passes is there when the candidates are tried. -/
inductive Reaches : Prop where
  /-- The index is switched off. The keywords match a skill that passes, and those
      they match better are kept by the filter. -/
  | keywords (hoff : Switched config ctx false) (before : List ReportSkill) (skill : ReportSkill)
      (after : List ReportSkill)
      (hranked : rankedKeywordCandidates casefold registry ctx.userQuestion =
        before ++ skill :: after)
      (hbefore : ∀ other ∈ before, Refused casefold defaultAllowApproved registry ctx other)
      (hpass : Passing casefold defaultAllowApproved registry ctx skill)
  /-- The hits decide, and one that is left after the cuts is of a skill that
      passes. -/
  | hits (hon : Switched config ctx true)
      (hfiltered : ∀ skill ∈ reports registry,
        Filtered casefold defaultAllowApproved registry ctx skill)
      (bm25Results : List ScoredCard)
      (hdecides : Decides casefold defaultAllowApproved registry config x ctx bm25Results)
      (skill : ReportSkill) (hskill : skill ∈ reports registry)
      (hpass : Passing casefold defaultAllowApproved registry ctx skill) (hit : ScoredCard)
      (hhit : hit ∈ uncut config x (pool config bm25Results (vectorHits config x)))
      (hid : hit.card.skillId = skill.skillId)
  /-- The hits do not decide, and the keywords match a skill that passes. -/
  | fallback (hon : Switched config ctx true)
      (hfiltered : ∀ skill ∈ reports registry,
        Filtered casefold defaultAllowApproved registry ctx skill)
      (hnone : ∀ bm25Results,
        ¬ Decides casefold defaultAllowApproved registry config x ctx bm25Results)
      (skill : ReportSkill) (hskill : skill ∈ reports registry)
      (hpass : Passing casefold defaultAllowApproved registry ctx skill)
      (hscore : 0 < keywordScore casefold skill.intentKeywords (casefold ctx.userQuestion))

variable {casefold defaultAllowApproved registry config x ctx}

theorem hybridRecallCandidates_off (hoff : Switched config ctx false) :
    hybridRecallCandidates casefold defaultAllowApproved registry config x ctx =
      .ok (rankedKeywordCandidates casefold registry ctx.userQuestion) := by
  rcases hoff with ⟨routerConfig, hconfig, henabled⟩
  rw [hybridRecallCandidates, hconfig]
  simp only [asMapping, bind, Except.bind, henabled]
  rfl

/-- With the index switched on, every report is filtered first. -/
theorem hybridRecallCandidates_filtered {candidates : List ReportSkill}
    (hon : Switched config ctx true)
    (h : hybridRecallCandidates casefold defaultAllowApproved registry config x ctx =
      .ok candidates) :
    ∀ skill ∈ reports registry, Filtered casefold defaultAllowApproved registry ctx skill := by
  rcases hon with ⟨routerConfig, hconfig, henabled⟩
  rcases exists_of_bind_ok h with ⟨router, hrouter, h⟩
  rw [hconfig] at hrouter
  cases hrouter
  rw [henabled, if_neg (not_not_intro rfl)] at h
  rcases exists_of_bind_ok h with ⟨allReports, hreports, -⟩
  exact ((legalReports_eq_ok_iff _ _).mp hreports).1

theorem legalReports_of_filtered
    (hfiltered : ∀ skill ∈ reports registry,
      Filtered casefold defaultAllowApproved registry ctx skill) :
    legalReports casefold defaultAllowApproved registry ctx
      (registry.listAll.filterMap Skill.report?) =
        .ok (passingReports casefold defaultAllowApproved registry ctx) :=
  (legalReports_eq_ok_iff _ _).mpr ⟨hfiltered, rfl⟩

/-- Hits that decide give the candidates. -/
theorem hybridRecallCandidates_hits {bm25Results : List ScoredCard}
    (hon : Switched config ctx true)
    (hfiltered : ∀ skill ∈ reports registry,
      Filtered casefold defaultAllowApproved registry ctx skill)
    (h : Decides casefold defaultAllowApproved registry config x ctx bm25Results) :
    hybridRecallCandidates casefold defaultAllowApproved registry config x ctx =
      .ok (scoredToSkills
        (rerankRecallResults config x (pool config bm25Results (vectorHits config x)))
        (passingReports casefold defaultAllowApproved registry ctx)) := by
  rcases hon with ⟨routerConfig, hconfig, henabled⟩
  have hlegal := legalReports_of_filtered hfiltered
  have hpassing : passingReports casefold defaultAllowApproved registry ctx ≠ [] := by
    intro hnil
    exact h.cards (by rw [hnil]; simp [buildCardsForRecall, fromKeys, dictOf])
  rw [hybridRecallCandidates, hconfig]
  simp only [asMapping, bind, Except.bind, henabled, hlegal, h.search, embeddingRecallAndFuse_eq,
    List.isEmpty_iff, hpassing, h.cards, h.domain, h.found]
  rfl

/-- Where they do not, the keywords do, unless there is no skill that passes. -/
theorem hybridRecallCandidates_fallback (hon : Switched config ctx true)
    (hfiltered : ∀ skill ∈ reports registry,
      Filtered casefold defaultAllowApproved registry ctx skill)
    (hnone : ∀ bm25Results,
      ¬ Decides casefold defaultAllowApproved registry config x ctx bm25Results) :
    hybridRecallCandidates casefold defaultAllowApproved registry config x ctx =
      .ok (if passingReports casefold defaultAllowApproved registry ctx = [] then []
        else rankedKeywordCandidates casefold registry ctx.userQuestion) := by
  rcases hon with ⟨routerConfig, hconfig, henabled⟩
  have hlegal := legalReports_of_filtered hfiltered
  rw [hybridRecallCandidates, hconfig]
  simp only [asMapping, bind, Except.bind, henabled, hlegal, embeddingRecallAndFuse_eq,
    List.isEmpty_iff]
  rw [if_neg (not_not_intro trivial)]
  by_cases hpassing : passingReports casefold defaultAllowApproved registry ctx = []
  · rw [if_pos hpassing, if_pos hpassing]
    rfl
  rw [if_neg hpassing, if_neg hpassing]
  split
  · rfl
  next search hsearch =>
    split_ifs with hcards
    · rfl
    · rw [not_or] at hcards
      cases search with
      | error e => rfl
      | ok bm25Results =>
          simp only
          split_ifs with hfound
          · rfl
          · exact (hnone bm25Results ⟨hsearch, hcards.1, hcards.2, hfound⟩).elim

theorem switched_of_ok {candidates : List ReportSkill}
    (h : hybridRecallCandidates casefold defaultAllowApproved registry config x ctx =
      .ok candidates) : Switched config ctx false ∨ Switched config ctx true := by
  rcases exists_of_bind_ok h with ⟨routerConfig, hconfig, -⟩
  have hdict := eq_dict_of_asMapping hconfig
  cases henabled : (pyGet routerConfig "enabled" (.bool config.enabled)).truthy with
  | false => exact .inl ⟨routerConfig, hdict, henabled⟩
  | true => exact .inr ⟨routerConfig, hdict, henabled⟩

theorem served_iff_of_candidates {candidates : List ReportSkill}
    (h : hybridRecallCandidates casefold defaultAllowApproved registry config x ctx =
      .ok candidates) :
    Served casefold defaultAllowApproved registry config x ctx ↔
      ∃ result, firstResolved casefold defaultAllowApproved registry ctx candidates =
        .ok (some result) ∧ ByWords casefold defaultAllowApproved registry ctx result := by
  rw [Served, keywordPath, h]
  rfl

/-- Hits that decide lead to a skill exactly if one that is left after the cuts is
    of a skill that passes. -/
theorem served_iff_of_decides {bm25Results : List ScoredCard} (hon : Switched config ctx true)
    (hfiltered : ∀ skill ∈ reports registry,
      Filtered casefold defaultAllowApproved registry ctx skill)
    (h : Decides casefold defaultAllowApproved registry config x ctx bm25Results) :
    Served casefold defaultAllowApproved registry config x ctx ↔
      ∃ skill ∈ reports registry, Passing casefold defaultAllowApproved registry ctx skill ∧
        ∃ hit ∈ uncut config x (pool config bm25Results (vectorHits config x)),
          hit.card.skillId = skill.skillId := by
  have hpassing : ∀ skill ∈ scoredToSkills
      (rerankRecallResults config x (pool config bm25Results (vectorHits config x)))
      (passingReports casefold defaultAllowApproved registry ctx),
        Passing casefold defaultAllowApproved registry ctx skill := fun skill hskill =>
    (mem_passingReports.mp (mem_of_scoredToSkills hskill)).2
  rw [served_iff_of_candidates (hybridRecallCandidates_hits hon hfiltered h),
    firstResolved_iff_of_filtered fun skill hskill => ⟨none, hpassing skill hskill⟩]
  constructor
  · rintro ⟨skill, hskill, -⟩
    rcases (scoredToSkills_ne_nil_iff _ _).mp (List.ne_nil_of_mem hskill) with
      ⟨hit, hhit, found, hfound, hid⟩
    rcases mem_passingReports.mp hfound with ⟨hmem, hpass⟩
    exact ⟨found, hmem, hpass, (exists_rerankRecallResults_iff _ _).mp ⟨hit, hhit, hid.symm⟩⟩
  · rintro ⟨skill, hskill, hpass, hleft⟩
    rcases (exists_rerankRecallResults_iff _ _).mpr hleft with ⟨hit, hhit, hid⟩
    rcases List.exists_mem_of_ne_nil _ ((scoredToSkills_ne_nil_iff _ _).mpr
      ⟨hit, hhit, skill, mem_passingReports.mpr ⟨hskill, hpass⟩, hid.symm⟩) with ⟨found, hfound⟩
    exact ⟨found, hfound, hpassing found hfound⟩

/-- A skill that passes is enabled, so the keywords look at it. -/
theorem served_iff_of_fallback (hon : Switched config ctx true)
    (hfiltered : ∀ skill ∈ reports registry,
      Filtered casefold defaultAllowApproved registry ctx skill)
    (hnone : ∀ bm25Results,
      ¬ Decides casefold defaultAllowApproved registry config x ctx bm25Results) :
    Served casefold defaultAllowApproved registry config x ctx ↔
      ∃ skill ∈ reports registry, Passing casefold defaultAllowApproved registry ctx skill ∧
        0 < keywordScore casefold skill.intentKeywords (casefold ctx.userQuestion) := by
  rw [served_iff_of_candidates (hybridRecallCandidates_fallback hon hfiltered hnone),
    firstResolved_iff_of_filtered]
  · constructor
    · rintro ⟨skill, hskill, hpass⟩
      split_ifs at hskill
      · cases hskill
      · rcases mem_rankedKeywordCandidates.mp hskill with ⟨hmem, -, hscore⟩
        exact ⟨skill, hmem, hpass, hscore⟩
    · rintro ⟨skill, hskill, hpass, hscore⟩
      have hne : passingReports casefold defaultAllowApproved registry ctx ≠ [] :=
        List.ne_nil_of_mem (mem_passingReports.mpr ⟨hskill, hpass⟩)
      have henabled := (prefilterSkill_none casefold defaultAllowApproved registry hpass).1
      rw [if_neg hne]
      exact ⟨skill, mem_rankedKeywordCandidates.mpr ⟨hskill, henabled, hscore⟩, hpass⟩
  · intro skill hskill
    split_ifs at hskill
    · cases hskill
    · exact hfiltered skill (mem_rankedKeywordCandidates.mp hskill).1

/-- The words lead to a skill exactly if one that passes is there when the
    candidates are tried. -/
theorem served_iff : Served casefold defaultAllowApproved registry config x ctx ↔
    Reaches casefold defaultAllowApproved registry config x ctx := by
  constructor
  · intro h
    rcases h with ⟨result, hpath, hwords⟩
    rcases exists_of_bind_ok hpath with ⟨candidates, hcandidates, hfound⟩
    rcases switched_of_ok hcandidates with hoff | hon
    · rw [hybridRecallCandidates_off hoff] at hcandidates
      cases hcandidates
      rcases firstResolved_iff.mp ⟨result, hfound, hwords⟩ with
        ⟨before, skill, after, hranked, hbefore, hpass⟩
      exact .keywords hoff before skill after hranked hbefore hpass
    · have hfiltered := hybridRecallCandidates_filtered hon hcandidates
      by_cases hdecides : ∃ bm25Results,
          Decides casefold defaultAllowApproved registry config x ctx bm25Results
      · rcases hdecides with ⟨bm25Results, hdecides⟩
        rcases (served_iff_of_decides hon hfiltered hdecides).mp ⟨result, hpath, hwords⟩ with
          ⟨skill, hskill, hpass, hit, hhit, hid⟩
        exact .hits hon hfiltered bm25Results hdecides skill hskill hpass hit hhit hid
      · have hnone := not_exists.mp hdecides
        rcases (served_iff_of_fallback hon hfiltered hnone).mp ⟨result, hpath, hwords⟩ with
          ⟨skill, hskill, hpass, hscore⟩
        exact .fallback hon hfiltered hnone skill hskill hpass hscore
  · intro h
    cases h with
    | keywords hoff before skill after hranked hbefore hpass =>
        rw [served_iff_of_candidates (hybridRecallCandidates_off hoff), firstResolved_iff]
        exact ⟨before, skill, after, hranked, hbefore, hpass⟩
    | hits hon hfiltered bm25Results hdecides skill hskill hpass hit hhit hid =>
        exact (served_iff_of_decides hon hfiltered hdecides).mpr
          ⟨skill, hskill, hpass, hit, hhit, hid⟩
    | fallback hon hfiltered hnone skill hskill hpass hscore =>
        exact (served_iff_of_fallback hon hfiltered hnone).mpr ⟨skill, hskill, hpass, hscore⟩

end Serving

section Scores

variable (casefold : String → String) (defaultAllowApproved : Bool)
  (registry : SkillCatalogSnapshot) (config : HybridRecallConfig) (sources : RecallSources)
  (ctx : SkillResolveContext)

/-- The index gives a card of an id a positive score. -/
def IndexScores (index : BM25Index) (skillId : String) : Prop :=
  index.tokenize ctx.userQuestion ≠ [] ∧
    ∃ (i : Nat) (card : SkillCard) (score : ℚ), index.cards[i]? = some card ∧
      card.skillId = skillId ∧
      (index.scoreAll (index.tokenize ctx.userQuestion))[i]? = some score ∧ 0 < score

/-- The vector index finds a card of an id. -/
def VectorScores (skillId : String) : Prop :=
  config.enableEmbedding = true ∧
    ∃ found, sources.vectors = some (.ok found) ∧ ∃ hit ∈ found, hit.card.skillId = skillId

/-- A report skill that passes the filter has a positive score, for its keywords
    or, where the index is switched on, in one of the indexes. -/
def Scored : Prop :=
  ∃ skill ∈ reports registry, Passing casefold defaultAllowApproved registry ctx skill ∧
    (0 < keywordScore casefold skill.intentKeywords (casefold ctx.userQuestion) ∨
      Switched config ctx true ∧ ∃ index, sources.index = some index ∧
        (IndexScores ctx index skill.skillId ∨ VectorScores config sources skill.skillId))

/-- If a skill that passes has a score, the words lead to one, exactly if one is
    then still there when the candidates are tried. -/
theorem served_of_scored_iff :
    (Scored casefold defaultAllowApproved registry config sources ctx →
      Served casefold defaultAllowApproved registry config
        (sources.retrievers ctx.userQuestion) ctx) ↔
      (Scored casefold defaultAllowApproved registry config sources ctx →
        Reaches casefold defaultAllowApproved registry config
          (sources.retrievers ctx.userQuestion) ctx) := by
  rw [served_iff]

end Scores

section Crowded

/-- A report that is open to all, and one that is not. -/
def crowdedCatalog : SkillCatalogSnapshot where
  skillsById := [("open", .report { skillId := "open", reportType := "a" }),
    ("barred", .report { skillId := "barred", reportType := "b", allowedTenants := ["t2"] })]
  cardsByKey := [(("open", "1"), { skillId := "open" }), (("barred", "1"), { skillId := "barred" })]

/-- An index that ranks the second higher, and gives one hit. -/
def crowdedSources : RecallSources where
  index := some {
    cards := [{ skillId := "open" }, { skillId := "barred" }]
    tokenize := fun text => [text]
    scoreAll := fun _ => [1, 2] }
  bm25TopK := 1

/-- A question of the first tenant. -/
def crowdedRequest : SkillResolveContext where
  userQuestion := "q"
  tenantId := "t1"

/-- The hit is of the skill that may not be used, and the other is not found. -/
theorem usable_skill_crowded_out :
    Scored id false crowdedCatalog {} crowdedSources crowdedRequest ∧
      ¬ Served id false crowdedCatalog {} (crowdedSources.retrievers "q") crowdedRequest := by
  constructor
  · refine ⟨{ skillId := "open", reportType := "a" }, List.mem_cons_self, rfl, .inr ⟨?_, ?_⟩⟩
    · exact ⟨[], rfl, rfl⟩
    · exact ⟨_, rfl, .inl ⟨List.cons_ne_nil _ _, 0, _, 1, rfl, rfl, rfl, one_pos⟩⟩
  · rintro ⟨result, hpath, -⟩
    have hnone : (keywordPath id false crowdedCatalog {} (crowdedSources.retrievers "q")
        crowdedRequest).toOption.any Option.isNone = true := by
      decide +kernel
    rw [hpath] at hnone
    cases hnone

end Crowded

end Skills

end AgenticRag

import AgenticRag.Core.SkillRecall

/-!
# The Skill Resolver

A request is given a report skill by the first of five ways that leads to one:
the id it names, the type of report it names, the words of its question, the
default of its tenant, and the generic report. On every way the skill is
filtered first, and the skills linked to it are left out if they are disabled
or not permitted.

The words of a question are matched by recall where an index is there, and by
keywords else. What the retrievers and the reranker answer is a parameter; what
they raise is caught.

## Main definitions

* `prefilterSkill`: Why a skill may not be used.
* `resolve`: The resolver.
-/

namespace AgenticRag

namespace Skills

open Py Ordered Structured

/-- The texts of the results of the resolver and of the router. -/
structure SkillResolveResult where
  skillSet : Option ResolvedSkillSet := none
  resolved : Bool
  fallbackUsed : Bool := false
  reason : String
  warnings : List String := []

/-- No skill, and why. -/
def failure (reason : String) : SkillResolveResult := { resolved := false, reason := reason }

section Prefilter

variable (casefold : String → String) (defaultAllowApproved : Bool)
  (registry : SkillCatalogSnapshot)

/-- The permissions a request brings cover what a skill requires. A request
    that brings none is let through; permissions that are no list are not. -/
def permissionsCover (required : List String) (ctx : SkillResolveContext) : Except Exc Bool :=
  match pyGet ctx.config "permissions" .none with
  | .none => .ok true
  | .list permissions => isSkillAvailable permissions required
  | _ => .ok false

/-- `_skill_requires_graph`. -/
def skillRequiresGraph (skill : ReportSkill) : Except Exc Bool :=
  requiresGraph casefold skill (registry.getDataForReport skill.skillId)
    (registry.getRetrievalForReport skill.skillId)

/-- A skill that reads databases. -/
def skillRequiresDb (skill : ReportSkill) : Bool :=
  (registry.getDataForReport skill.skillId).isSome || skill.requiredEvidenceTypes.contains "db"

/-- `_runtime_capability_ok`: no tool the skill depends on is switched off. -/
def resolverCapabilityOk (skill : ReportSkill) (ctx : SkillResolveContext) : Except Exc Bool :=
  if !toolEnabled ctx.config "db_tool" && skillRequiresDb registry skill then .ok false
  else if toolEnabled ctx.config "graph_tool" then .ok true
  else do return !(← skillRequiresGraph casefold registry skill)

/-- `_prefilter_skill`: the reason a skill may not be used, if there is one. -/
def prefilterSkill (skill : ReportSkill) (ctx : SkillResolveContext) :
    Except Exc (Option String) := do
  if ¬ (skill.enabled ∧ isSelectable defaultAllowApproved "active" ctx.tenantId none) then
    return some "SKILL_PERMISSION_DENIED"
  else if ¬ tenantAllowed skill.allowedTenants ctx.tenantId then
    return some "SKILL_PERMISSION_DENIED"
  else if ¬ (← permissionsCover skill.requiredPermissions ctx) then
    return some "SKILL_PERMISSION_DENIED"
  else if ¬ (← resolverCapabilityOk casefold registry skill ctx) then
    return some "SKILL_PERMISSION_DENIED"
  else return none

/-- A linked skill that may be used, and a warning where there is none. -/
def linkedSkill {α : Type} (kind : String) (base : α → SkillBase) (skillId : String)
    (ctx : SkillResolveContext) : Option α → Except Exc (Option α × List String)
  | none => .ok (none, [s!"No {kind.toLower} skill linked to '{skillId}'"])
  | some linked => do
      -- A linked skill that may not be used is left out, and the report is not refused.
      if ¬ (base linked).enabled then
        return (none, [s!"{kind} skill '{(base linked).skillId}' is disabled"])
      else if ¬ (← permissionsCover (base linked).requiredPermissions ctx) then
        return (none, [s!"{kind} skill '{(base linked).skillId}' permission denied"])
      else return (some linked, [])

/-- `_resolve_report_skill`. -/
def resolveReportSkill (skill : ReportSkill) (source : ResolutionSource)
    (ctx : SkillResolveContext) (fallbackUsed : Bool) : Except Exc SkillResolveResult := do
  match ← prefilterSkill casefold defaultAllowApproved registry skill ctx with
  | some reason => return failure reason
  | none =>
      let (dataSkill, dataWarnings) ← linkedSkill "Data" DataSkill.toSkillBase skill.skillId ctx
        (registry.getDataForReport skill.skillId)
      let (retrievalSkill, retrievalWarnings) ← linkedSkill "Retrieval"
        RetrievalSkill.toSkillBase skill.skillId ctx (registry.getRetrievalForReport skill.skillId)
      let warnings := dataWarnings ++ retrievalWarnings
      return {
        skillSet := some {
          reportSkill := skill
          dataSkill := dataSkill
          retrievalSkill := retrievalSkill
          resolutionSource := source
          fallbackUsed := fallbackUsed
          warnings := warnings }
        resolved := true
        fallbackUsed := fallbackUsed
        reason := "RESOLVED"
        warnings := warnings }

end Prefilter

section Recall

/-- The settings of the recall. -/
structure HybridRecallConfig where
  enabled : Bool := true
  rrfTopK : Nat := 20
  rerankerMaxCandidates : Nat := 10
  enableEmbedding : Bool := true
  enableReranker : Bool := true

/-- What the retrievers and the reranker answer a request. Each is missing where
    it is not available. -/
structure Retrievers where
  bm25 : Option (Except Exc (List ScoredCard)) := none
  embedding : Option (Except Exc (List ScoredCard)) := none
  reranker : Option (List ScoredCard → Except Exc SkillRankDecision) := none

/-- The indexes and the reranker that a request is answered from. `vectors` are the
    hits of the vector index with a positive score, by falling score. -/
structure RecallSources where
  index : Option BM25Index := none
  bm25TopK : Nat := 20
  vectors : Option (Except Exc (List ScoredCard)) := none
  embeddingTopK : Nat := 20
  reranker : Option (List ScoredCard → Except Exc SkillRankDecision) := none

/-- What they answer a question. The first of the hits is given even if none was
    asked for. -/
def RecallSources.retrievers (sources : RecallSources) (question : String) : Retrievers where
  bm25 := sources.index.map (fun index => index.search question sources.bm25TopK)
  embedding := sources.vectors.map (fun found =>
    found.map (fun hits => hits.take (max 1 sources.embeddingTopK)))
  reranker := sources.reranker

variable (casefold : String → String) (defaultAllowApproved : Bool)
  (registry : SkillCatalogSnapshot) (config : HybridRecallConfig)

/-- The lengths of the keywords of a skill that a question contains. -/
def keywordScore (keywords : List String) (question : String) : Nat :=
  ((keywords.filter (fun kw => contains question (casefold kw))).map String.length).sum

/-- `_ranked_keyword_candidates`. -/
def rankedKeywordCandidates (userQuestion : String) : List ReportSkill :=
  let candidates := (registry.listAll.filterMap Skill.report?).filter (fun skill => skill.enabled)
  let scored := candidates.map (fun skill =>
    (keywordScore casefold skill.intentKeywords (casefold userQuestion), skill))
  (sortDesc Prod.fst (scored.filter (fun entry => 0 < entry.1))).map Prod.snd

/-- `_embedding_recall_and_fuse`. -/
def embeddingRecallAndFuse (x : Retrievers) (bm25Results : List ScoredCard) : List ScoredCard :=
  match x.embedding, config.enableEmbedding with
  | some (.ok embeddingResults), true =>
      -- A single list of hits keeps its scores.
      if embeddingResults.isEmpty then bm25Results
      else if bm25Results.isEmpty then embeddingResults
      else reciprocalRankFusion bm25Results embeddingResults config.rrfTopK 60
  | _, _ => bm25Results

/-- The hits in the order of a ranking, and behind them those it leaves out. -/
def reorder (truncated : List ScoredCard) (rank : SkillRankDecision) : List ScoredCard :=
  let scoredById := dictOf (truncated.map (fun hit => (hit.card.skillId, hit)))
  rank.candidates.filterMap (fun c => (scoredById.lookup c.skillId).map (fun hit =>
    { card := hit.card, score := c.score, source := .reranker })) ++
  truncated.filter (fun hit => !(rank.candidates.map (·.skillId)).contains hit.card.skillId)

/-- `_rerank_recall_results`. -/
def rerankRecallResults (x : Retrievers) (recallResults : List ScoredCard) : List ScoredCard :=
  match x.reranker, config.enableReranker with
  | some rerank, true =>
      let truncated := recallResults.take config.rerankerMaxCandidates
      match rerank truncated with
      -- A ranking that fell back on the scores says nothing new.
      | .ok rank => if rank.rerankDegraded then recallResults else reorder truncated rank
      | .error _ => recallResults
  | _, _ => recallResults

/-- `_build_cards_for_recall`: the first card under the id of each of some
    skills. -/
def buildCardsForRecall (skills : List ReportSkill) : List SkillCard :=
  let ids := (registry.cardsByKey.map (fun kv => kv.1.1)).filter (fun sid =>
    (skills.map (·.skillId)).contains sid)
  (fromKeys ids).filterMap registry.getCard

/-- `_scored_to_skills`: the skills of the hits, each once. -/
def scoredToSkills (results : List ScoredCard) (allReports : List ReportSkill) :
    List ReportSkill :=
  let reportById := dictOf (allReports.map (fun skill => (skill.skillId, skill)))
  (fromKeys (results.map (·.card.skillId))).filterMap (fun sid => reportById.lookup sid)

/-- The skills that pass the filter. -/
def legalReports (ctx : SkillResolveContext) : List ReportSkill → Except Exc (List ReportSkill)
  | [] => .ok []
  | skill :: rest => do
      let reason ← prefilterSkill casefold defaultAllowApproved registry skill ctx
      let legal ← legalReports ctx rest
      return if reason.isNone then skill :: legal else legal

/-- `_hybrid_recall_candidates`. -/
def hybridRecallCandidates (x : Retrievers) (ctx : SkillResolveContext) :
    Except Exc (List ReportSkill) := do
  let ranked := rankedKeywordCandidates casefold registry ctx.userQuestion
  let routerConfig ← asMapping (pyGet ctx.config "skill_router" (.dict []))
  -- The keywords are not filtered here. Each candidate is checked when it is tried.
  if ¬ (pyGet routerConfig "enabled" (.bool config.enabled)).truthy then return ranked
  else
    let allReports ← legalReports casefold defaultAllowApproved registry ctx
      (registry.listAll.filterMap Skill.report?)
    if allReports.isEmpty then return []
    else
      match x.bm25 with
      | none => return ranked
      | some search =>
          let cards := buildCardsForRecall registry allReports
          let domainFiltered := filterByDomain cards (classifyDomainsByRule ctx.userQuestion)
          if cards.isEmpty ∨ domainFiltered.isEmpty then return ranked
          else
            match search with
            | .error _ => return ranked
            | .ok bm25Results =>
                let recallResults := embeddingRecallAndFuse config x bm25Results
                if recallResults.isEmpty then return ranked
                else return scoredToSkills (rerankRecallResults config x recallResults) allReports

end Recall

section Resolve

variable (casefold : String → String) (defaultAllowApproved : Bool)
  (registry : SkillCatalogSnapshot) (config : HybridRecallConfig)

/-- `_route_report_type`. -/
def routeReportType (ctx : SkillResolveContext) : Option String :=
  match ctx.metadata with
  | .dict metadata => match pyGet metadata "report_type" .none with
    | .str reportType => some reportType
    | _ => none
  | _ => none

/-- The type of report a request names, itself or through the router. -/
def requestedReportType (ctx : SkillResolveContext) : Option String :=
  match ctx.reportType.filter (· ≠ "") with
  | some reportType => some reportType
  | none => (routeReportType ctx).filter (· ≠ "")

/-- `_tenant_default_skill`. -/
def tenantDefaultSkill (ctx : SkillResolveContext) : Option String :=
  let default := match pyGet ctx.config "default_skill_id" .none with
    | .str value => some value
    | _ => none
  match pyGet ctx.config "tenant_defaults" (.dict []) with
  | .dict defaults => match pyGet defaults ctx.tenantId .none with
    | .str value => some value
    | _ => default
  | _ => default

/-- The report skill of an id. -/
def reportById (skillId : String) : Option ReportSkill :=
  (registry.getById skillId).bind Skill.report?

/-- The first of some skills that can be used. -/
def firstResolved (ctx : SkillResolveContext) :
    List ReportSkill → Except Exc (Option SkillResolveResult)
  | [] => .ok none
  | skill :: rest => do
      let result ← resolveReportSkill casefold defaultAllowApproved registry skill .keyword ctx false
      if result.resolved then return some result else firstResolved ctx rest

/-- What is left if nothing was matched: the default of the tenant, or the
    generic report. -/
def resolveDefault (ctx : SkillResolveContext) : Except Exc SkillResolveResult :=
  match ((tenantDefaultSkill ctx).filter (· ≠ "")).bind (reportById registry) with
  | some skill =>
      resolveReportSkill casefold defaultAllowApproved registry skill .tenantDefault ctx false
  | none =>
      match reportById registry "generic_analysis" with
      | some skill =>
          resolveReportSkill casefold defaultAllowApproved registry skill .fallback ctx true
      | none => .ok (failure "NO_SKILL_AVAILABLE")

/-- `SkillResolver.resolve`. -/
def resolve (x : Retrievers) (ctx : SkillResolveContext) : Except Exc SkillResolveResult :=
  match ctx.skillId with
  -- A skill that is named and not found is not replaced by another.
  | some skillId =>
      if strip skillId = "" then .ok (failure "SKILL_NOT_FOUND")
      else
        match reportById registry (strip skillId) with
        | some skill =>
            resolveReportSkill casefold defaultAllowApproved registry skill .skillId ctx false
        | none => .ok (failure "SKILL_NOT_FOUND")
  | none =>
      match (requestedReportType ctx).bind registry.getReportByType with
      | some skill =>
          resolveReportSkill casefold defaultAllowApproved registry skill .reportType ctx false
      | none => do
          let candidates ← hybridRecallCandidates casefold defaultAllowApproved registry config x ctx
          match ← firstResolved casefold defaultAllowApproved registry ctx candidates with
          | some result => return result
          | none => resolveDefault casefold defaultAllowApproved registry ctx

end Resolve

end Skills

end AgenticRag

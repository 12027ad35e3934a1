import AgenticRag.Core.SkillResolver

/-!
# The Skill Router

The router takes a question through stages. A skill or a type of report that is
named outright is filtered by itself and decides at once. Else the cards of the
catalog are filtered, those of the domains of the question are kept, and hits
are recalled from the index, or by keywords where the index gives none. The
hits are put in order, by a language model where one is at hand, and the
decision is made on the first of them.

## Main definitions

* `SkillRouter`, `cardsById`: The router and its catalog.
* `route`: The router.
-/

namespace AgenticRag

namespace Skills

open Py Ordered Structured

/-- Which stage a card was found in. -/
inductive RouteSource where
  | skillId
  | semantic
  | composition
  deriving DecidableEq, Repr

/-- The name of a source. -/
def RouteSource.name : RouteSource → String
  | .skillId => "skill_id"
  | .semantic => "semantic"
  | .composition => "composition"

/-- Why no card was chosen. -/
inductive RouteFailure where
  | emptyQuery
  | noCandidatesAfterFilter
  | noReportSkills
  | noRecallResults
  | clarify (candidates : List SkillCard) (reason : DecisionReason)
  | noSkill (reason : DecisionReason)
  | fallback (reason : DecisionReason)

/-- A card, or why there is none. -/
inductive RouteResult where
  | routed (card : SkillCard) (source : RouteSource)
  | failed (why : RouteFailure)

section Texts

variable (u : Unicode) (fixed3 : ℚ → String)

/-- The text of a reason, given how a number is written with three digits. -/
def DecisionReason.text : DecisionReason → String
  | .noCandidates => "NO_CANDIDATES"
  | .top1ScoreBelowThreshold score => s!"TOP1_SCORE_BELOW_THRESHOLD({fixed3 score})"
  | .criticalSkillLowConfidence score => s!"CRITICAL_SKILL_LOW_CONFIDENCE({fixed3 score})"
  | .top1ScoreBelowAbsolute score => s!"TOP1_SCORE_BELOW_ABSOLUTE({fixed3 score})"
  | .insufficientMargin margin => s!"INSUFFICIENT_MARGIN({fixed3 margin})"
  | .ambiguity reason => s!"AMBIGUITY({reason})"
  | .multiIntentComposition => "MULTI_INTENT_COMPOSITION"
  | .selected score => s!"SELECTED(score={fixed3 score})"

/-- The text of a failure. -/
def RouteFailure.text : RouteFailure → String
  | .emptyQuery => "EMPTY_QUERY"
  | .noCandidatesAfterFilter => "NO_CANDIDATES_AFTER_FILTER"
  | .noReportSkills => "NO_REPORT_SKILLS"
  | .noRecallResults => "NO_RECALL_RESULTS"
  | .clarify _ reason => s!"CLARIFY:{reason.text fixed3}"
  | .noSkill reason => s!"NO_SKILL:{reason.text fixed3}"
  | .fallback reason => s!"FALLBACK:{reason.text fixed3}"

/-- The warnings of a result: the candidates of a question back. -/
def RouteFailure.warnings : RouteFailure → List String
  | .clarify candidates _ =>
      [s!"clarify_candidates: {(Val.list (candidates.map (Val.str ·.skillId))).toStr u}"]
  | _ => []

/-- What the router returns: the text of a result names the skill. -/
def RouteResult.result : RouteResult → SkillResolveResult
  | .routed card source =>
      { resolved := true, reason := s!"ROUTED:{source.name}:{card.skillId}" }
  | .failed why =>
      { resolved := false, reason := why.text fixed3, warnings := why.warnings u }

end Texts

/-- The cards and how they are searched. -/
structure SkillRouter where
  cardsByKey : List ((String × String) × SkillCard)
  bm25 : Option BM25Index := none
  reranker : Option SkillReranker := none
  defaultAllowApproved : Bool := false
  thresholds : DecisionThresholds := {}
  bm25TopK : Nat := 20
  rrfTopK : Nat := 20

/-- What the model answers when it is called for a ranking: the event loop may
    refuse to run, and the call may fail. -/
abbrev LlmCall := Nat → Option (Option String)

section Stages

variable (casefold : String → String) (dec : Decoder) (r : SkillRouter)

/-- The cards by the id of their skill, of which a later version takes the
    place. -/
def SkillRouter.cardsById : List (String × SkillCard) :=
  dictOf (r.cardsByKey.map (fun kv => (kv.1.1, kv.2)))

/-- The card of a skill id that is named outright, if it is of a report. -/
def SkillRouter.namedCard (ctx : SkillResolveContext) : Option SkillCard :=
  match ctx.skillId.filter (· ≠ "") with
  | some skillId => (r.cardsById.lookup (strip skillId)).filter (fun card =>
      card.skillType = .report)
  | none => none

/-- `_strong_signal_match`. -/
def SkillRouter.strongSignalMatch (ctx : SkillResolveContext) : Option SkillCard :=
  match r.namedCard ctx with
  | some card => some card
  | none =>
      match requestedReportType ctx with
      | some reportType =>
          (r.cardsById.map Prod.snd).find? (fun card => card.reportType = some reportType)
      | none => none

/-- The hits of the index. What it raises is caught. -/
def SkillRouter.bm25Results (query : String) : List ScoredCard :=
  match r.bm25 with
  | none => []
  | some index =>
      match index.search query r.bm25TopK with
      | .ok results => results
      | .error _ => []

/-- `_hybrid_recall`. The cards that were filtered are passed to it, and it does
    not look at them. -/
def SkillRouter.hybridRecall (query : String) (_cards : List SkillCard) : List ScoredCard :=
  (r.bm25Results query).take r.rrfTopK

/-- `_keyword_fallback`. -/
def keywordFallback (query : String) (cards : List SkillCard) : List ScoredCard :=
  let scored := cards.map (fun card =>
    { card := card, score := (keywordScore casefold card.intents (casefold query) : ℚ)
      source := .keyword : ScoredCard })
  (sortDesc (·.score) (scored.filter (fun hit => 0 < hit.score))).take 20

/-- The order of the hits as they were recalled. -/
def recallOnly (hits : List ScoredCard) : SkillRankDecision where
  candidates := (hits.take 5).map (fun hit =>
    { skillId := hit.card.skillId, score := hit.score, reason := "recall_only" })
  rerankDegraded := true

/-- One call of the reranker. -/
def callReranker (rr : SkillReranker) (hits : List ScoredCard) :
    Option (Option String) → Except Exc SkillRankDecision
  | none => .error .runtimeError
  | some reply => rr.rerank dec reply hits

/-- The order of the hits: as recalled, or as the model gives it. A runtime
    error leads to a second call. -/
def SkillRouter.rank (llm : Option LlmCall) (hits : List ScoredCard) :
    Except Exc SkillRankDecision :=
  match r.reranker, llm with
  | some rr, some call =>
      match callReranker dec rr hits (call 0) with
      | .error .runtimeError => callReranker dec rr hits (call 1)
      | result => result
  | _, _ => .ok (recallOnly hits)

/-- `_build_decision_result`. -/
def buildDecisionResult : DecisionResult → RouteResult
  | .select _ (some card) _ => .routed card .semantic
  | .composition _ (some card) _ => .routed card .composition
  | .clarify candidates reason => .failed (.clarify candidates reason)
  | .noSkill reason => .failed (.noSkill reason)
  | .select _ none reason => .failed (.fallback reason)
  | .composition _ none reason => .failed (.fallback reason)

/-- The last two stages: the order of the hits, and the decision. -/
def SkillRouter.decideOn (llm : Option LlmCall) (hits : List ScoredCard) :
    Except Exc RouteResult := do
  let rank ← r.rank dec llm hits
  let candidatesById := dictOf (hits.map (fun hit => (hit.card.skillId, hit.card)))
  return buildDecisionResult (r.thresholds.decide rank candidatesById)

/-- The stages behind the filter. -/
def SkillRouter.recallAndDecide (llm : Option LlmCall) (query : String)
    (passed : List SkillCard) : Except Exc RouteResult :=
  let reportCards := passed.filter (fun card => card.skillType = .report)
  if passed.isEmpty then .ok (.failed .noCandidatesAfterFilter)
  else if reportCards.isEmpty then .ok (.failed .noReportSkills)
  else
    let domainFiltered := filterByDomain reportCards (classifyDomainsByRule query)
    let recalled := r.hybridRecall query domainFiltered
    -- The keywords are only tried where the index found nothing at all.
    let hits := if recalled.isEmpty then keywordFallback casefold query domainFiltered else recalled
    if hits.isEmpty then .ok (.failed .noRecallResults)
    else r.decideOn dec llm hits

/-- The cards of the catalog are filtered, and the other stages follow. -/
def SkillRouter.search (llm : Option LlmCall) (ctx : SkillResolveContext) :
    Except Exc RouteResult := do
  let passed ← applyFilter r.defaultAllowApproved (.fromResolveContext ctx)
    (r.cardsById.map Prod.snd)
  r.recallAndDecide casefold dec llm (strip ctx.userQuestion) passed

/-- `SkillRouter.route`. -/
def SkillRouter.route (llm : Option LlmCall) (ctx : SkillResolveContext) :
    Except Exc RouteResult :=
  if strip ctx.userQuestion = "" then .ok (.failed .emptyQuery)
  else
    match r.strongSignalMatch ctx with
    | none => r.search casefold dec llm ctx
    | some card =>
        match check r.defaultAllowApproved card (.fromResolveContext ctx) with
        | .error e => .error e
        | .ok none => .ok (.routed card .skillId)
        -- A card that was named and is filtered leaves the question to the search.
        | .ok (some _) => r.search casefold dec llm ctx

end Stages

end Skills

end AgenticRag

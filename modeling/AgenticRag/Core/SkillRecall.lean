import AgenticRag.Core.SkillCard
import AgenticRag.Lib.Json

/-!
# Recall, Reranking and Decision

What a question is matched with is found in three steps. The index of the
catalog gives the cards that share words with the question, by falling score.
A language model may put the first of them in another order. The decision takes
the first card if its score is high enough, and clear of the second.

The scores of the index are a parameter, as is what the model answers: a text,
or nothing where the call fails. The answer is a text that is decoded, so any
field of it may have a value of any kind.

## Main definitions

* `ScoredCard`, `BM25Index.search`: The hits of a question.
* `DecisionThresholds.decide`: What becomes of it.
-/

namespace AgenticRag

namespace Skills

open Py Ordered Structured

section Domains

/-- The words of a domain. -/
def domainKeywordRules : List (String × List String) :=
  [("quality", ["质量", "品质", "不良", "缺陷", "客诉", "良率", "8D", "IQC", "OQC"]),
    ("production", ["产线", "产能", "稼动", "OEE", "工单", "排程", "生产"]),
    ("cost", ["成本", "费用", "预算", "利润", "财务", "支出"]),
    ("delivery", ["交付", "物流", "出货", "库存", "周转", "准时率"]),
    ("operations", ["运营", "综合", "月报", "周报", "看板", "KPI"])]

/-- The three domains with the most keywords in a question, or the generic
    one. -/
def classifyDomainsByRule (query : String) : List String :=
  let scored := (domainKeywordRules.map (fun rule =>
    (rule.1, (rule.2.filter (fun kw => contains query kw)).length))).filter (fun d => 0 < d.2)
  if scored.isEmpty then ["generic"] else ((sortDesc Prod.snd scored).take 3).map Prod.fst

/-- The cards of some domains, together with the generic ones. -/
def filterByDomain (cards : List SkillCard) (domains : List String) : List SkillCard :=
  if domains.contains "generic" then cards
  else
    cards.filter (fun card => card.domains.contains "generic" ||
      card.domains.any (fun d => domains.contains d))

end Domains

section Retrieval

/-- Where a score comes from. -/
inductive ScoreSource where
  | bm25
  | embedding
  | rrf
  | keyword
  | reranker
  deriving DecidableEq, Repr

/-- The name of a source. -/
def ScoreSource.name : ScoreSource → String
  | .bm25 => "bm25"
  | .embedding => "embedding"
  | .rrf => "rrf"
  | .keyword => "keyword"
  | .reranker => "reranker"

/-- A card and its score. -/
structure ScoredCard where
  card : SkillCard
  score : ℚ
  source : ScoreSource

/-- The index over the cards of a catalog. How words are told apart and how
    documents are scored is a parameter. -/
structure BM25Index where
  cards : List SkillCard
  tokenize : String → List String
  scoreAll : List String → List ℚ

/-- The cards by their id, of which a later one takes the place. -/
def BM25Index.cardsById (index : BM25Index) : List (String × SkillCard) :=
  dictOf (index.cards.map (fun card => (card.skillId, card)))

/-- The card of a row. -/
def BM25Index.hit (index : BM25Index) (row : ℚ × Nat) : Except Exc ScoredCard :=
  match index.cards[row.2]? with
  | none => .error .indexError
  | some card =>
      match index.cardsById.lookup card.skillId with
      | none => .error .keyError
      | some card => .ok { card := card, score := row.1, source := .bm25 }

/-- `BM25Retriever.search`: the rows with a score, by falling score. The first
    of them is given even if none was asked for. -/
def BM25Index.search (index : BM25Index) (query : String) (topK : Nat) :
    Except Exc (List ScoredCard) :=
  let tokens := index.tokenize query
  if tokens.isEmpty ∨ index.cards.isEmpty then .ok []
  else
    let ranked := (sortDesc Prod.fst (index.scoreAll tokens).zipIdx).filter (fun row => 0 < row.1)
    (ranked.take (max 1 topK)).mapM index.hit

/-- One hit adds to the score of its id. -/
def addRank (k : Nat) (scores : List (String × ℚ)) (hit : ScoredCard × Nat) :
    List (String × ℚ) :=
  dictSet hit.1.card.skillId
    ((scores.lookup hit.1.card.skillId).getD 0 + 1 / ((k : ℚ) + hit.2 + 1)) scores

/-- `reciprocal_rank_fusion`. -/
def reciprocalRankFusion (bm25Results embeddingResults : List ScoredCard) (topK : Nat)
    (k : Nat) : List ScoredCard :=
  let scores := embeddingResults.zipIdx.foldl (addRank k)
    (bm25Results.zipIdx.foldl (addRank k) [])
  let cardsById := dictOf ((bm25Results ++ embeddingResults).map (fun hit =>
    (hit.card.skillId, hit.card)))
  ((sortDesc Prod.snd scores).take topK).filterMap (fun entry =>
    (cardsById.lookup entry.1).map (fun card =>
      { card := card, score := entry.2, source := .rrf }))

end Retrieval

section Reranking

/-- A skill and the model's score. -/
structure RankedCandidate where
  skillId : String
  score : ℚ
  reason : String := ""

/-- What the model says of the cards. -/
structure SkillRankDecision where
  candidates : List RankedCandidate := []
  multiIntent : Bool := false
  missingContext : List String := []
  ambiguityReason : Option String := none
  rerankDegraded : Bool := false

/-- How texts are decoded. The nesting an answer needs is well within what the
    decoder allows. -/
structure Decoder where
  unicode : Unicode
  readFloat : String → Option (ℚ × String)
  floatText : String → Option ℚ
  decodeDepth : Nat
  deep : 3 ≤ decodeDepth

variable (dec : Decoder)

/-- The least number that is too large for a float. -/
def floatBound : Nat := 2 ^ 1024 - 2 ^ 970

/-- A score as the model writes it, held between zero and one. What is no
    number counts as zero. -/
def readScore : Val → Except Exc ℚ
  | .bool b => .ok (if b then 1 else 0)
  | .int i => if floatBound ≤ i.natAbs then .error .overflowError else .ok (max 0 (min 1 (i : ℚ)))
  | .float q _ => .ok (max 0 (min 1 q))
  | .str s => .ok (max 0 (min 1 ((dec.floatText s).getD 0)))
  -- `min(1.0, nan)` is 1.
  | .object "inf" _ => .ok 1
  | .object "nan" _ => .ok 1
  | _ => .ok 0

/-- One candidate of an answer, unless it is none of those asked about. -/
def parseCandidate (validIds : List String) : Val → Except Exc (Option RankedCandidate)
  | .dict item =>
      match pyGet item "skill_id" (.str "") with
      | .str skillId => do
          if validIds.contains skillId then
            return some {
              skillId := skillId
              score := ← readScore dec (pyGet item "score" (.int 0))
              reason := (pyGet item "reason" (.str "")).toStr dec.unicode }
          else return none
      | .list _ => .error .typeError
      | .dict _ => .error .typeError
      | _ => .ok none
  | _ => .ok none

/-- Reads the entries in turn. -/
def parseCandidates (validIds : List String) : List Val → Except Exc (List RankedCandidate)
  | [] => .ok []
  | item :: rest => do
      let candidate ← parseCandidate dec validIds item
      return candidate.toList ++ (← parseCandidates validIds rest)

/-- The order of the hits by their scores. -/
def fallbackToRecallScores (candidates : List ScoredCard) : SkillRankDecision where
  candidates := ((sortDesc (·.score) candidates).take 5).map (fun hit =>
    { skillId := hit.card.skillId, score := hit.score
      reason := s!"recall fallback (source={hit.source.name})" })
  rerankDegraded := true

/-- The settings of the reranker. -/
structure SkillReranker where
  maxCandidates : Nat := 10
  outputTopK : Nat := 5

/-- A reason that the schema of an answer takes: a text, or none. -/
def ambiguityOf : Val → Except Exc (Option String)
  | .none => .ok none
  | .str s => .ok (some s)
  | _ => .error .valueError

/-- `_parse_output`. What cannot be decoded or names no candidate falls back to
    the scores. -/
def SkillReranker.parseOutput (rr : SkillReranker) (rawOutput : String)
    (candidates : List ScoredCard) : Except Exc SkillRankDecision :=
  match Json.loads dec.readFloat dec.decodeDepth rawOutput with
  | .error .decode => .ok (fallbackToRecallScores candidates)
  | .error .digits => .error .valueError
  | .error _ => .error .runtimeError
  | .ok v => do
      let data ← asMapping v
      let items ← pyIter (pyGet data "candidates" (.list []))
      let ranked ← parseCandidates dec (candidates.map (·.card.skillId)) items
      -- Ids the model made up are gone by now.
      if ranked.isEmpty then return fallbackToRecallScores candidates
      else
        return {
          candidates := ranked.take rr.outputTopK
          multiIntent := (pyGet data "multi_intent" (.bool false)).truthy
          missingContext := ← textsOf (pyGet data "missing_context" (.list []))
          ambiguityReason := ← ambiguityOf (pyGet data "ambiguity_reason" .none) }

/-- `rerank`. The model answers with a text, or its call fails. -/
def SkillReranker.rerank (rr : SkillReranker) (reply : Option String)
    (candidates : List ScoredCard) : Except Exc SkillRankDecision :=
  let truncated := candidates.take rr.maxCandidates
  match reply with
  | none => .ok (fallbackToRecallScores truncated)
  | some text => rr.parseOutput dec text truncated

end Reranking

section Decision

/-- When the model is believed. -/
structure DecisionThresholds where
  absoluteThreshold : ℚ := 3 / 4
  marginThreshold : ℚ := 3 / 20
  compositionConfidence : ℚ := 7 / 10
  criticalAbsoluteThreshold : ℚ := 17 / 20
  noSkillConfidence : ℚ := 2 / 5

/-- Why a skill is chosen, or not. -/
inductive DecisionReason where
  | noCandidates
  | top1ScoreBelowThreshold (score : ℚ)
  | criticalSkillLowConfidence (score : ℚ)
  | top1ScoreBelowAbsolute (score : ℚ)
  | insufficientMargin (margin : ℚ)
  | ambiguity (reason : String)
  | multiIntentComposition
  | selected (score : ℚ)

/-- What becomes of a ranking. The card is missing if its id is not among those
    that were ranked. -/
inductive DecisionResult where
  | select (skillId : String) (card : Option SkillCard) (reason : DecisionReason)
  | composition (skillId : String) (card : Option SkillCard) (reason : DecisionReason)
  | clarify (candidates : List SkillCard) (reason : DecisionReason)
  | noSkill (reason : DecisionReason)

/-- A critical skill whose score is too low for one. -/
def criticalLow (t : DecisionThresholds) (card : Option SkillCard) (score : ℚ) : Bool :=
  match card with
  | some card => card.riskLevel = .critical && score < t.criticalAbsoluteThreshold
  | none => false

/-- The margin between the first two scores, if it is too small. -/
def smallMargin (t : DecisionThresholds) (top1 : RankedCandidate) (rest : List RankedCandidate) :
    Option ℚ :=
  match rest with
  | [] => none
  | top2 :: _ =>
      if top1.score - top2.score < t.marginThreshold then some (top1.score - top2.score) else none

/-- The two cards a question back is about. -/
def clarifyCards (candidates : List RankedCandidate) (candidatesById : List (String × SkillCard)) :
    List SkillCard :=
  (candidates.take 2).filterMap (fun c => candidatesById.lookup c.skillId)

/-- `DecisionPolicy.decide`. -/
def DecisionThresholds.decide (t : DecisionThresholds) (rank : SkillRankDecision)
    (candidatesById : List (String × SkillCard)) : DecisionResult :=
  match rank.candidates with
  | [] => .noSkill .noCandidates
  | top1 :: rest =>
      let card := candidatesById.lookup top1.skillId
      let clarify := DecisionResult.clarify (clarifyCards rank.candidates candidatesById)
      -- The checks are made in this order, and the first that fails decides.
      if top1.score < t.noSkillConfidence then .noSkill (.top1ScoreBelowThreshold top1.score)
      else if criticalLow t card top1.score then clarify (.criticalSkillLowConfidence top1.score)
      else if top1.score < t.absoluteThreshold then clarify (.top1ScoreBelowAbsolute top1.score)
      else
        match smallMargin t top1 rest with
        | some margin => clarify (.insufficientMargin margin)
        | none =>
            match rank.ambiguityReason.filter (· ≠ "") with
            | some reason => clarify (.ambiguity reason)
            | none =>
                if rank.multiIntent ∧ rest ≠ [] then
                  .composition top1.skillId card .multiIntentComposition
                else .select top1.skillId card (.selected top1.score)

end Decision

end Skills

end AgenticRag

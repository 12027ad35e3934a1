import AgenticRag.Core.SkillRouter
import AgenticRag.Lib.JsonRoundTrip

/-!
# Recall Past the Filter

Only cards that pass the filter are meant to be searched. A card that is named
outright is filtered, and so are those that keywords are looked up in. The index
is not: it is built over the whole catalog, and its hits are ranked and chosen
from as they come (`barred_card_routed`).

What the language model does with the hits is open, so the condition is about
all it could choose. A hit is electable if it leads by its own score, or if the
model may put it first. Every card the router chooses passes the filter exactly
if every electable hit does, whenever the request comes as far as the recall
(`routed_legal_iff`).

## Main definitions

* `RoutedLegal`: Every card the router chooses passes the filter.
* `Electable`: A hit may be chosen.

## Theorems

* `rank_cases`: What the order of the hits can be.
* `search_spec`: The hits of the index.
* `routed_legal_iff`: When every card the router chooses passes.
-/

namespace AgenticRag

namespace Skills

open Py Ordered Structured

section Decisions

variable (t : DecisionThresholds)

/-- A score is high enough for a card. -/
structure Accepts (card : SkillCard) (score : ℚ) : Prop where
  skill : t.noSkillConfidence ≤ score
  critical : card.riskLevel = .critical → t.criticalAbsoluteThreshold ≤ score
  absolute : t.absoluteThreshold ≤ score

/-- The first of some scores is clear of the second. -/
def Clear (score : ℚ) (rest : List ℚ) : Prop :=
  ∀ second ∈ rest.head?, t.marginThreshold ≤ score - second

theorem accepts_mono {card : SkillCard} {score score' : ℚ} (h : Accepts t card score)
    (hle : score ≤ score') : Accepts t card score' :=
  ⟨h.skill.trans hle, fun hcritical => (h.critical hcritical).trans hle, h.absolute.trans hle⟩

theorem smallMargin_eq_none_iff (top1 : RankedCandidate) (rest : List RankedCandidate) :
    smallMargin t top1 rest = none ↔ Clear t top1.score (rest.map (·.score)) := by
  cases rest with
  | nil => simp [smallMargin, Clear]
  | cons top2 rest => simp [smallMargin, Clear]

theorem criticalLow_some (card : SkillCard) (score : ℚ) :
    criticalLow t (some card) score = false ↔
      (card.riskLevel = .critical → t.criticalAbsoluteThreshold ≤ score) := by
  simp [criticalLow]

/-- A ranking that leads to a card has it first, with a score that is high
    enough and clear of the second. -/
theorem decide_routed {rank : SkillRankDecision} {byId : List (String × SkillCard)}
    {card : SkillCard} {source : RouteSource}
    (h : buildDecisionResult (t.decide rank byId) = .routed card source) :
    ∃ top1 rest, rank.candidates = top1 :: rest ∧ byId.lookup top1.skillId = some card ∧
      Accepts t card top1.score ∧ Clear t top1.score (rest.map (·.score)) := by
  rw [DecisionThresholds.decide] at h
  split at h
  · cases h
  next top1 rest hcandidates =>
    simp only at h
    by_cases hskill : top1.score < t.noSkillConfidence
    · rw [if_pos hskill] at h
      cases h
    by_cases hcritical : criticalLow t (byId.lookup top1.skillId) top1.score = true
    · rw [if_neg hskill, if_pos hcritical] at h
      cases h
    by_cases habsolute : top1.score < t.absoluteThreshold
    · rw [if_neg hskill, if_neg hcritical, if_pos habsolute] at h
      cases h
    rw [if_neg hskill, if_neg hcritical, if_neg habsolute] at h
    split at h
    · cases h
    next hmargin =>
      split at h
      · cases h
      -- Both decisions that name a skill need its card to be there.
      · have hcard : byId.lookup top1.skillId = some card := by
          cases hfound : byId.lookup top1.skillId <;> rw [hfound] at h <;> split_ifs at h <;>
            cases h <;> rfl
        rw [hcard] at hcritical
        refine ⟨top1, rest, hcandidates, hcard, ⟨not_lt.mp hskill, ?_, not_lt.mp habsolute⟩,
          (smallMargin_eq_none_iff t top1 rest).mp hmargin⟩
        exact (criticalLow_some t card top1.score).mp (Bool.eq_false_of_not_eq_true hcritical)

/-- A ranking with a card first, a score that is high enough and clear, and
    nothing else to say leads to the card. -/
theorem decide_first {rank : SkillRankDecision} {byId : List (String × SkillCard)}
    {card : SkillCard} {top1 : RankedCandidate} {rest : List RankedCandidate}
    (hcandidates : rank.candidates = top1 :: rest) (hcard : byId.lookup top1.skillId = some card)
    (haccepts : Accepts t card top1.score) (hclear : Clear t top1.score (rest.map (·.score)))
    (hambiguity : rank.ambiguityReason = none) (hmulti : rank.multiIntent = false) :
    buildDecisionResult (t.decide rank byId) = .routed card .semantic := by
  have hcritical : ¬ criticalLow t (some card) top1.score = true := by
    rw [Bool.not_eq_true, criticalLow_some]
    exact haccepts.critical
  rw [DecisionThresholds.decide, hcandidates]
  simp only [hcard]
  rw [if_neg (not_lt.mpr haccepts.skill), if_neg hcritical,
    if_neg (not_lt.mpr haccepts.absolute), (smallMargin_eq_none_iff t top1 rest).mpr hclear,
    hambiguity, hmulti]
  rfl

end Decisions

section Hits

/-- Hits as the index gives them: an id has one card, and the scores fall. -/
structure Determined (hits : List ScoredCard) : Prop where
  card : ∀ a ∈ hits, ∀ b ∈ hits, a.card.skillId = b.card.skillId → a.card = b.card
  sorted : hits.Pairwise (fun a b => b.score ≤ a.score)

theorem Determined.take {hits : List ScoredCard} (h : Determined hits) (n : Nat) :
    Determined (hits.take n) :=
  ⟨fun a ha b hb => h.card a (List.mem_of_mem_take ha) b (List.mem_of_mem_take hb),
    h.sorted.sublist (List.take_sublist n hits)⟩

/-- The hit of a row has its score, and the card its id stands for. -/
theorem hit_spec {index : BM25Index} {row : ℚ × Nat} {hit : ScoredCard}
    (h : index.hit row = .ok hit) :
    hit.score = row.1 ∧ index.cardsById.lookup hit.card.skillId = some hit.card := by
  rw [BM25Index.hit] at h
  split at h
  · cases h
  next listed hlisted =>
    split at h
    · cases h
    next card hcard =>
      cases h
      -- The card is the one its own id stands for, though the row may list another.
      refine ⟨rfl, ?_⟩
      rcases List.mem_map.mp (mem_dictOf _ _ (mem_of_lookup hcard)) with ⟨c, -, heq⟩
      rw [Prod.mk.injEq] at heq
      rw [← heq.2, heq.1, hcard, heq.2]

theorem hits_spec {index : BM25Index} {rows : List (ℚ × Nat)} {hits : List ScoredCard}
    (h : List.Forall₂ (fun row hit => index.hit row = .ok hit) rows hits) :
    (∀ hit ∈ hits, index.cardsById.lookup hit.card.skillId = some hit.card) ∧
      hits.map (·.score) = rows.map Prod.fst := by
  induction h with
  | nil => exact ⟨fun hit hmem => absurd hmem List.not_mem_nil, rfl⟩
  | cons hrow _ ih =>
      rcases hit_spec hrow with ⟨hscore, hcard⟩
      refine ⟨fun hit hmem => ?_, ?_⟩
      · rcases List.mem_cons.mp hmem with rfl | hmem
        · exact hcard
        · exact ih.1 hit hmem
      · rw [List.map_cons, List.map_cons, hscore, ih.2]

/-- The hits of the index. -/
theorem search_spec {index : BM25Index} {query : String} {topK : Nat} {hits : List ScoredCard}
    (h : index.search query topK = .ok hits) : Determined hits := by
  rw [BM25Index.search] at h
  split_ifs at h
  · cases h
    exact ⟨fun a ha => absurd ha List.not_mem_nil, .nil⟩
  · rcases hits_spec (forall₂_of_mapM_ok h) with ⟨hcards, hscores⟩
    constructor
    · intro a ha b hb hid
      have hcard := hcards a ha
      rw [hid, hcards b hb] at hcard
      exact (Option.some.inj hcard).symm
    · -- The rows are in falling order, and cutting them keeps it.
      have hrows := ((sortDesc_pairwise Prod.fst (index.scoreAll
        (index.tokenize query)).zipIdx).filter (fun row => decide (0 < row.1))).sublist
          (List.take_sublist (max 1 topK) _)
      have hfalling : (hits.map (·.score)).Pairwise (fun a b => b ≤ a) := by
        rw [hscores, List.pairwise_map]
        exact hrows
      exact List.pairwise_map.mp hfalling

variable (r : SkillRouter)

theorem determined_hybridRecall (query : String) (cards : List SkillCard) :
    Determined (r.hybridRecall query cards) := by
  have hresults : Determined (r.bm25Results query) := by
    rw [SkillRouter.bm25Results]
    split
    · exact ⟨fun a ha => absurd ha List.not_mem_nil, .nil⟩
    · split
      next hsearch => exact search_spec hsearch
      · exact ⟨fun a ha => absurd ha List.not_mem_nil, .nil⟩
  exact hresults.take r.rrfTopK

/-- The card that an id of the hits stands for. -/
theorem Determined.lookup {hits : List ScoredCard} (h : Determined hits) {hit : ScoredCard}
    (hmem : hit ∈ hits) :
    (dictOf (hits.map (fun hit => (hit.card.skillId, hit.card)))).lookup hit.card.skillId =
      some hit.card := by
  refine lookup_dictOf_of_mem (List.mem_map_of_mem hmem) fun card hcard => ?_
  rcases List.mem_map.mp hcard with ⟨other, hother, heq⟩
  rw [Prod.mk.injEq] at heq
  rw [← heq.2]
  exact h.card other hother hit hmem heq.1

end Hits

section Ranking

variable (dec : Decoder) (r : SkillRouter)

/-- A score that is read is at most one. -/
theorem readScore_le_one {v : Val} {score : ℚ} (h : readScore dec v = .ok score) : score ≤ 1 := by
  have hclamp : ∀ q : ℚ, max 0 (min 1 q) ≤ 1 := fun q =>
    max_le zero_le_one (min_le_left 1 q)
  unfold readScore at h
  split at h
  · cases h
    split_ifs
    · exact le_refl 1
    · exact zero_le_one
  · split_ifs at h
    cases h
    exact hclamp _
  · cases h
    exact hclamp _
  · cases h
    exact hclamp _
  · cases h
    exact le_refl 1
  · cases h
    exact le_refl 1
  · cases h
    exact zero_le_one

theorem parseCandidate_spec {validIds : List String} {item : Val} {c : RankedCandidate}
    (h : parseCandidate dec validIds item = .ok (some c)) : c.skillId ∈ validIds ∧ c.score ≤ 1 := by
  unfold parseCandidate at h
  split at h
  · split at h
    · split_ifs at h with hvalid
      · rcases exists_of_bind_ok h with ⟨score, hscore, h⟩
        cases h
        exact ⟨List.contains_iff_mem.mp hvalid, readScore_le_one dec hscore⟩
      · cases h
    · cases h
    · cases h
    · cases h
  · cases h

theorem parseCandidates_spec {validIds : List String} {items : List Val}
    {ranked : List RankedCandidate} (h : parseCandidates dec validIds items = .ok ranked) :
    ∀ c ∈ ranked, c.skillId ∈ validIds ∧ c.score ≤ 1 := by
  induction items generalizing ranked with
  | nil =>
      cases h
      exact fun c hc => absurd hc List.not_mem_nil
  | cons item items ih =>
      rcases exists_of_bind_ok h with ⟨candidate, hcandidate, h⟩
      rcases exists_of_bind_ok h with ⟨rest, hrest, h⟩
      cases h
      intro c hc
      rcases List.mem_append.mp hc with hc | hc
      · rw [Option.mem_toList] at hc
        exact parseCandidate_spec dec (hc ▸ hcandidate)
      · exact ih hrest c hc

/-- One call of the reranker gives the order by the scores, or one of the
    model. -/
theorem callReranker_cases {rr : SkillReranker} {hits : List ScoredCard}
    {reply : Option (Option String)} {rank : SkillRankDecision}
    (h : callReranker dec rr hits reply = .ok rank) :
    rank = fallbackToRecallScores (hits.take rr.maxCandidates) ∨
      ∃ ranked : List RankedCandidate, rank.candidates = ranked.take rr.outputTopK ∧
        ∀ c ∈ ranked, c.skillId ∈ (hits.take rr.maxCandidates).map (·.card.skillId) ∧
          c.score ≤ 1 := by
  unfold callReranker SkillReranker.rerank at h
  split at h
  · cases h
  · simp only at h
    split at h
    · cases h
      exact .inl rfl
    · unfold SkillReranker.parseOutput at h
      split at h
      · cases h
        exact .inl rfl
      · cases h
      · cases h
      · rcases exists_of_bind_ok h with ⟨data, -, h⟩
        rcases exists_of_bind_ok h with ⟨items, -, h⟩
        rcases exists_of_bind_ok h with ⟨ranked, hranked, h⟩
        split_ifs at h
        · cases h
          exact .inl rfl
        · rcases exists_of_bind_ok h with ⟨missing, -, h⟩
          rcases exists_of_bind_ok h with ⟨ambiguity, -, h⟩
          cases h
          exact .inr ⟨ranked, rfl, parseCandidates_spec dec hranked⟩

/-- What the order of the hits can be: as they were recalled, or by their
    scores, or one of the model. -/
theorem rank_cases {llm : Option LlmCall} {hits : List ScoredCard} {rank : SkillRankDecision}
    (h : r.rank dec llm hits = .ok rank) :
    rank = recallOnly hits ∨
      ∃ rr, r.reranker = some rr ∧
        (rank = fallbackToRecallScores (hits.take rr.maxCandidates) ∨
          ∃ ranked : List RankedCandidate, rank.candidates = ranked.take rr.outputTopK ∧
            ∀ c ∈ ranked, c.skillId ∈ (hits.take rr.maxCandidates).map (·.card.skillId) ∧
              c.score ≤ 1) := by
  unfold SkillRouter.rank at h
  split at h
  next rr call hrr =>
    refine .inr ⟨rr, hrr, ?_⟩
    split at h
    · exact callReranker_cases dec h
    · exact callReranker_cases dec h
  · cases h
    exact .inl rfl

end Ranking

section Election

variable (dec : Decoder) (r : SkillRouter) {hits : List ScoredCard}

/-- The first of some hits has a score that is high enough and clear of the
    second. -/
def Leads (t : DecisionThresholds) (hits : List ScoredCard) (card : SkillCard) : Prop :=
  ∃ hit rest, hits = hit :: rest ∧ hit.card = card ∧ Accepts t card hit.score ∧
    Clear t hit.score (rest.map (·.score))

/-- A hit may be chosen: it leads by its score, or the model may put it
    first. -/
def Electable (hits : List ScoredCard) (card : SkillCard) : Prop :=
  Leads r.thresholds (hits.take 5) card ∨
    ∃ rr, r.reranker = some rr ∧
      (Leads r.thresholds ((hits.take rr.maxCandidates).take 5) card ∨
        (0 < rr.outputTopK ∧ (∃ hit ∈ hits.take rr.maxCandidates, hit.card = card) ∧
          Accepts r.thresholds card 1))

/-- A ranking in the order of some of the hits. -/
def InOrder (hits : List ScoredCard) (rank : SkillRankDecision) : Prop :=
  rank.candidates.map (fun c => (c.skillId, c.score)) =
    hits.map (fun hit => (hit.card.skillId, hit.score))

theorem inOrder_recallOnly (hits : List ScoredCard) : InOrder (hits.take 5) (recallOnly hits) := by
  rw [InOrder, recallOnly, List.map_map]
  rfl

theorem inOrder_fallback (hdet : Determined hits) :
    InOrder (hits.take 5) (fallbackToRecallScores hits) := by
  rw [InOrder, fallbackToRecallScores, sortDesc_of_pairwise ScoredCard.score hdet.sorted,
    List.map_map]
  rfl

/-- A ranking in the order of some of the hits leads to the card that leads
    them. -/
theorem leads_of_inOrder {part : List ScoredCard} {rank : SkillRankDecision} {card : SkillCard}
    {source : RouteSource} (hdet : Determined hits) (hsub : ∀ hit ∈ part, hit ∈ hits)
    (horder : InOrder part rank)
    (h : buildDecisionResult (r.thresholds.decide rank
      (dictOf (hits.map (fun hit => (hit.card.skillId, hit.card))))) = .routed card source) :
    Leads r.thresholds part card := by
  rcases decide_routed r.thresholds h with ⟨top1, rest, hcandidates, hcard, haccepts, hclear⟩
  rw [InOrder, hcandidates] at horder
  cases part with
  | nil => cases horder
  | cons hit others =>
      simp only [List.map_cons, List.cons.injEq, Prod.mk.injEq] at horder
      rcases horder with ⟨⟨hid, hscore⟩, hothers⟩
      rw [hid, hdet.lookup (hsub hit List.mem_cons_self), Option.some.injEq] at hcard
      -- The scores are those of the hits, so the margin is too.
      have hscores := congrArg (List.map Prod.snd) hothers
      simp only [List.map_map, Function.comp_def] at hscores
      rw [hscore] at haccepts hclear
      rw [hscores] at hclear
      exact ⟨hit, others, rfl, hcard, haccepts, hclear⟩

theorem routed_of_leads {part : List ScoredCard} {rank : SkillRankDecision} {card : SkillCard}
    (hdet : Determined hits) (hsub : ∀ hit ∈ part, hit ∈ hits) (horder : InOrder part rank)
    (hambiguity : rank.ambiguityReason = none) (hmulti : rank.multiIntent = false)
    (h : Leads r.thresholds part card) :
    buildDecisionResult (r.thresholds.decide rank
      (dictOf (hits.map (fun hit => (hit.card.skillId, hit.card))))) = .routed card .semantic := by
  rcases h with ⟨hit, others, rfl, rfl, haccepts, hclear⟩
  rw [InOrder] at horder
  cases hcandidates : rank.candidates with
  | nil =>
      rw [hcandidates] at horder
      cases horder
  | cons top1 rest =>
      rw [hcandidates] at horder
      simp only [List.map_cons, List.cons.injEq, Prod.mk.injEq] at horder
      rcases horder with ⟨⟨hid, hscore⟩, hothers⟩
      have hscores := congrArg (List.map Prod.snd) hothers
      simp only [List.map_map, Function.comp_def] at hscores
      refine decide_first r.thresholds hcandidates ?_ ?_ ?_ hambiguity hmulti
      · rw [hid]
        exact hdet.lookup (hsub hit List.mem_cons_self)
      · rw [hscore]
        exact haccepts
      · rw [hscore, hscores]
        exact hclear

/-- A card that is chosen from the hits is electable. -/
theorem electable_of_decideOn {llm : Option LlmCall} {card : SkillCard} {source : RouteSource}
    (hdet : Determined hits) (h : r.decideOn dec llm hits = .ok (.routed card source)) :
    Electable r hits card := by
  rcases exists_of_bind_ok h with ⟨rank, hrank, h⟩
  have hrouted := Except.ok.inj h
  rcases rank_cases dec r hrank with rfl | ⟨rr, hrr, rfl | ⟨ranked, hcandidates, hranked⟩⟩
  · exact .inl (leads_of_inOrder r hdet (fun hit => List.mem_of_mem_take)
      (inOrder_recallOnly hits) hrouted)
  · refine .inr ⟨rr, hrr, .inl (leads_of_inOrder r hdet ?_
      (inOrder_fallback (hdet.take rr.maxCandidates)) hrouted)⟩
    exact fun hit hmem => List.mem_of_mem_take (List.mem_of_mem_take hmem)
  · rcases decide_routed r.thresholds hrouted with ⟨top1, rest, htop, hcard, haccepts, -⟩
    rw [hcandidates] at htop
    -- The first of the ranking is one of the hits, with a score of at most one.
    have hmem : top1 ∈ ranked := by
      refine List.mem_of_mem_take (i := rr.outputTopK) ?_
      rw [htop]
      exact List.mem_cons_self
    rcases hranked top1 hmem with ⟨hid, hscore⟩
    rcases List.mem_map.mp hid with ⟨hit, hhit, hid⟩
    rw [← hid, hdet.lookup (List.mem_of_mem_take hhit), Option.some.injEq] at hcard
    refine .inr ⟨rr, hrr, .inr ⟨?_, ⟨hit, hhit, hcard⟩, accepts_mono _ haccepts hscore⟩⟩
    cases hk : rr.outputTopK with
    | zero =>
        rw [hk, List.take_zero] at htop
        cases htop
    | succ k => exact Nat.succ_pos k

/-- The answer of a model that puts one skill first. -/
def pick (skillId : String) : Val :=
  .dict [("candidates", .list [.dict [("skill_id", .str skillId), ("score", .int 1)]])]

/-- It is read as such. -/
theorem parseOutput_pick (rr : SkillReranker) {hit : ScoredCard} (hmem : hit ∈ hits) :
    ∃ rank, rr.parseOutput dec (pick hit.card.skillId).dumps hits = .ok rank ∧
      rank.candidates.map (fun c => (c.skillId, c.score)) =
        ([(hit.card.skillId, 1)] : List (String × ℚ)).take rr.outputTopK ∧
      rank.ambiguityReason = none ∧ rank.multiIntent = false := by
  have hplain : Json.Plain dec.readFloat dec.decodeDepth (pick hit.card.skillId) := by
    rcases Nat.exists_eq_add_of_le' dec.deep with ⟨depth, hdepth⟩
    rw [hdepth]
    simp [pick, Json.Plain]
    decide
  have hscore : readScore dec (.int 1) = .ok 1 := by
    rw [readScore, if_neg (by decide +kernel)]
    norm_num
  have hvalid : (hits.map (·.card.skillId)).contains hit.card.skillId = true :=
    List.contains_iff_mem.mpr (List.mem_map_of_mem hmem)
  have hcandidates : parseCandidates dec (hits.map (·.card.skillId))
      [.dict [("skill_id", .str hit.card.skillId), ("score", .int 1)]] =
        .ok [{ skillId := hit.card.skillId, score := 1, reason := "" }] := by
    have hfirst : parseCandidate dec (hits.map (·.card.skillId))
        (.dict [("skill_id", .str hit.card.skillId), ("score", .int 1)]) =
          .ok (some { skillId := hit.card.skillId, score := 1, reason := "" }) := by
      have hid : pyGet [("skill_id", .str hit.card.skillId), ("score", .int 1)] "skill_id"
        (.str "") = .str hit.card.skillId := rfl
      have hone : pyGet [("skill_id", .str hit.card.skillId), ("score", .int 1)] "score"
        (.int 0) = .int 1 := rfl
      have hreason : pyGet [("skill_id", .str hit.card.skillId), ("score", .int 1)] "reason"
        (.str "") = .str "" := rfl
      simp only [parseCandidate, hid, hone, hreason, hscore, if_pos hvalid, bind, Except.bind, pure,
        Except.pure, Val.toStr]
    rw [parseCandidates, hfirst]
    rfl
  rw [SkillReranker.parseOutput, Json.loads_dumps hplain]
  change ∃ rank, (parseCandidates dec (hits.map (·.card.skillId))
      [.dict [("skill_id", .str hit.card.skillId), ("score", .int 1)]] >>= fun ranked => _) =
        Except.ok rank ∧ _
  rw [hcandidates]
  refine ⟨_, rfl, ?_, rfl, rfl⟩
  rw [List.map_take]
  rfl

/-- Whatever is electable is chosen by some model. -/
theorem decideOn_of_electable {card : SkillCard} (hdet : Determined hits)
    (h : Electable r hits card) :
    ∃ llm, r.decideOn dec llm hits = .ok (.routed card .semantic) := by
  rcases h with hleads | ⟨rr, hrr, hleads | ⟨hpos, ⟨hit, hhit, rfl⟩, haccepts⟩⟩
  -- Without a model the hits stay in the order of the recall.
  · refine ⟨none, ?_⟩
    have hrank : r.rank dec none hits = .ok (recallOnly hits) := by
      unfold SkillRouter.rank
      cases r.reranker <;> rfl
    rw [SkillRouter.decideOn, hrank]
    exact congrArg Except.ok (routed_of_leads r hdet (fun hit => List.mem_of_mem_take)
      (inOrder_recallOnly hits) rfl rfl hleads)
  -- A model whose call fails leaves the order to the scores.
  · refine ⟨some fun _ => some none, ?_⟩
    have hrank : r.rank dec (some fun _ => some none) hits =
        .ok (fallbackToRecallScores (hits.take rr.maxCandidates)) := by
      unfold SkillRouter.rank
      rw [hrr]
      rfl
    rw [SkillRouter.decideOn, hrank]
    exact congrArg Except.ok (routed_of_leads r hdet
      (fun hit hmem => List.mem_of_mem_take (List.mem_of_mem_take hmem))
      (inOrder_fallback (hdet.take rr.maxCandidates)) rfl rfl hleads)
  -- Any other hit is put first by a model that answers with it alone.
  · rcases parseOutput_pick dec rr hhit with ⟨rank, hparsed, hcandidates, hambiguity, hmulti⟩
    refine ⟨some fun _ => some (some (pick hit.card.skillId).dumps), ?_⟩
    have hrank : r.rank dec (some fun _ => some (some (pick hit.card.skillId).dumps)) hits =
        .ok rank := by
      unfold SkillRouter.rank
      rw [hrr]
      simp only [callReranker, SkillReranker.rerank, hparsed]
    rw [SkillRouter.decideOn, hrank]
    refine congrArg Except.ok ?_
    rcases Nat.exists_eq_add_of_le' hpos with ⟨k, hk⟩
    rw [hk] at hcandidates
    cases htop : rank.candidates with
    | nil =>
        rw [htop] at hcandidates
        cases hcandidates
    | cons top1 rest =>
        rw [htop] at hcandidates
        simp only [List.map_cons, List.take_succ_cons, List.take_nil, List.cons.injEq,
          Prod.mk.injEq, List.map_eq_nil_iff] at hcandidates
        rcases hcandidates with ⟨⟨hid, hscore⟩, rfl⟩
        refine decide_first r.thresholds htop ?_ ?_ ?_ hambiguity hmulti
        · rw [hid]
          exact hdet.lookup (List.mem_of_mem_take hhit)
        · rw [hscore]
          exact haccepts
        · intro second hsecond
          cases hsecond

end Election

section Routing

variable (casefold : String → String) (dec : Decoder) (r : SkillRouter) (ctx : SkillResolveContext)

/-- A card passes the filter for a request. -/
def Passes (card : SkillCard) : Prop :=
  check r.defaultAllowApproved card (.fromResolveContext ctx) = .ok none

/-- Every card the router chooses passes the filter, whatever the model
    answers. -/
def RoutedLegal : Prop :=
  ∀ llm card source, r.route casefold dec llm ctx = .ok (.routed card source) → Passes r ctx card

/-- A request comes as far as the recall: it has a question, what it names
    outright is filtered out, and some report of the catalog is not. -/
structure Recalls : Prop where
  query : strip ctx.userQuestion ≠ ""
  unnamed : ∀ card, r.strongSignalMatch ctx = some card →
    ∃ reason, check r.defaultAllowApproved card (.fromResolveContext ctx) = .ok (some reason)
  report : ∃ passed, applyFilter r.defaultAllowApproved (.fromResolveContext ctx)
      (r.cardsById.map Prod.snd) = .ok passed ∧ ∃ card ∈ passed, card.skillType = .report

/-- What the index gives for the question of a request. -/
def recalled : List ScoredCard := r.hybridRecall (strip ctx.userQuestion) []

/-- The filtered cards make no difference to it. -/
theorem hybridRecall_eq_recalled (cards : List SkillCard) :
    r.hybridRecall (strip ctx.userQuestion) cards = recalled r ctx := rfl

theorem determined_recalled : Determined (recalled r ctx) :=
  determined_hybridRecall r (strip ctx.userQuestion) []

theorem passes_of_applyFilter {cards passed : List SkillCard}
    (h : applyFilter r.defaultAllowApproved (.fromResolveContext ctx) cards = .ok passed) :
    ∀ card ∈ passed, Passes r ctx card := by
  induction cards generalizing passed with
  | nil =>
      cases h
      exact fun card hcard => absurd hcard List.not_mem_nil
  | cons first rest ih =>
      rcases exists_of_bind_ok h with ⟨reason, hreason, h⟩
      rcases exists_of_bind_ok h with ⟨others, hothers, h⟩
      cases h
      intro card hcard
      cases reason with
      | some reason => exact ih hothers card hcard
      | none =>
          rcases List.mem_cons.mp hcard with rfl | hcard
          · exact hreason
          · exact ih hothers card hcard

theorem mem_of_filterByDomain {cards : List SkillCard} {domains : List String} {card : SkillCard}
    (h : card ∈ filterByDomain cards domains) : card ∈ cards := by
  rw [filterByDomain] at h
  split_ifs at h
  · exact h
  · exact (List.mem_filter.mp h).1

/-- The keywords are looked up in the cards that are given. -/
theorem mem_of_keywordFallback {query : String} {cards : List SkillCard} {hit : ScoredCard}
    (h : hit ∈ keywordFallback casefold query cards) : hit.card ∈ cards := by
  have hmem := (List.mem_filter.mp ((mem_sortDesc _).mp (List.mem_of_mem_take h))).1
  rcases List.mem_map.mp hmem with ⟨card, hcard, rfl⟩
  exact hcard

/-- A card that is chosen is one of the hits. -/
theorem mem_of_decideOn {llm : Option LlmCall} {hits : List ScoredCard} {card : SkillCard}
    {source : RouteSource} (h : r.decideOn dec llm hits = .ok (.routed card source)) :
    ∃ hit ∈ hits, hit.card = card := by
  rcases exists_of_bind_ok h with ⟨rank, -, h⟩
  rcases decide_routed r.thresholds (Except.ok.inj h) with ⟨top1, rest, -, hcard, -⟩
  rcases List.mem_map.mp (mem_dictOf _ _ (mem_of_lookup hcard)) with ⟨hit, hhit, heq⟩
  exact ⟨hit, hhit, (Prod.mk.inj heq).2⟩

/-- Where the index gives hits, the decision is made on them. -/
theorem recallAndDecide_of_recalled {llm : Option LlmCall} {passed : List SkillCard}
    (hreport : ∃ card ∈ passed, card.skillType = .report) (hhits : recalled r ctx ≠ []) :
    r.recallAndDecide casefold dec llm (strip ctx.userQuestion) passed =
      r.decideOn dec llm (recalled r ctx) := by
  rcases hreport with ⟨card, hcard, htype⟩
  have hpassed : passed.isEmpty = false := List.isEmpty_eq_false_iff.mpr (List.ne_nil_of_mem hcard)
  have hreports : (passed.filter (fun card => card.skillType = .report)).isEmpty = false :=
    List.isEmpty_eq_false_iff.mpr (List.ne_nil_of_mem
      (List.mem_filter.mpr ⟨hcard, decide_eq_true htype⟩))
  have hempty : (recalled r ctx).isEmpty = false := List.isEmpty_eq_false_iff.mpr hhits
  simp only [SkillRouter.recallAndDecide, hpassed, hreports, hybridRecall_eq_recalled, hempty,
    Bool.false_eq_true, if_false]

/-- What the stages behind the filter choose passes it, or is an electable
    hit. -/
theorem recallAndDecide_routed {llm : Option LlmCall} {passed : List SkillCard} {card : SkillCard}
    {source : RouteSource} (hpasses : ∀ card ∈ passed, Passes r ctx card)
    (h : r.recallAndDecide casefold dec llm (strip ctx.userQuestion) passed =
      .ok (.routed card source)) :
    Passes r ctx card ∨
      ((∃ card ∈ passed, card.skillType = .report) ∧ Electable r (recalled r ctx) card) := by
  rw [SkillRouter.recallAndDecide] at h
  simp only at h
  split_ifs at h with hnone hreports hrecall hkeyword
  · cases h
  · cases h
  · cases h
  · -- The keywords are looked up in cards that have passed.
    rcases mem_of_decideOn dec r h with ⟨hit, hhit, rfl⟩
    have hmem := mem_of_filterByDomain (mem_of_keywordFallback casefold hhit)
    exact .inl (hpasses hit.card (List.mem_filter.mp hmem).1)
  · rw [hybridRecall_eq_recalled] at h
    refine .inr ⟨?_, electable_of_decideOn dec r (determined_recalled r ctx) h⟩
    rcases List.exists_mem_of_ne_nil _ (mt List.isEmpty_iff.mpr hreports) with ⟨report, hmem⟩
    rw [List.mem_filter, decide_eq_true_eq] at hmem
    exact ⟨report, hmem⟩

/-- Every card the router chooses passes the filter exactly if every electable
    hit does, whenever a request comes as far as the recall. -/
theorem routed_legal_iff :
    RoutedLegal casefold dec r ctx ↔
      (Recalls r ctx → ∀ card, Electable r (recalled r ctx) card → Passes r ctx card) := by
  constructor
  · intro hlegal hrecalls card helect
    rcases decideOn_of_electable dec r (determined_recalled r ctx) helect with ⟨llm, hllm⟩
    -- A hit that can be chosen is there, so the keywords are not tried.
    have hhits : recalled r ctx ≠ [] := by
      rcases mem_of_decideOn dec r hllm with ⟨hit, hhit, -⟩
      exact List.ne_nil_of_mem hhit
    rcases hrecalls.report with ⟨passed, hpassed, hreport⟩
    have hsearch : r.search casefold dec llm ctx = .ok (.routed card .semantic) := by
      rw [SkillRouter.search, hpassed]
      exact (recallAndDecide_of_recalled casefold dec r ctx hreport hhits).trans hllm
    refine hlegal llm card .semantic ?_
    rw [SkillRouter.route, if_neg hrecalls.query]
    split
    · exact hsearch
    next named hnamed =>
      rcases hrecalls.unnamed named hnamed with ⟨reason, hreason⟩
      rw [hreason]
      exact hsearch
  · intro hcond llm card source hroute
    -- What is named outright is checked, so only the search can let a card slip.
    have hsearch : (∀ named, r.strongSignalMatch ctx = some named →
        ∃ reason, check r.defaultAllowApproved named (.fromResolveContext ctx) =
          .ok (some reason)) → strip ctx.userQuestion ≠ "" →
        r.search casefold dec llm ctx = .ok (.routed card source) → Passes r ctx card := by
      intro hunnamed hquery h
      rcases exists_of_bind_ok h with ⟨passed, hpassed, h⟩
      rcases recallAndDecide_routed casefold dec r ctx (passes_of_applyFilter r ctx hpassed) h with
        hpasses | ⟨hreport, helect⟩
      · exact hpasses
      · exact hcond ⟨hquery, hunnamed, passed, hpassed, hreport⟩ card helect
    rw [SkillRouter.route] at hroute
    split_ifs at hroute with hquery
    · cases hroute
    · split at hroute
      next hnamed =>
        refine hsearch (fun named h => ?_) hquery hroute
        rw [hnamed] at h
        cases h
      next named hnamed =>
        split at hroute
        · cases hroute
        next hcheck =>
          cases hroute
          exact hcheck
        next reason hcheck =>
          refine hsearch (fun named' h => ?_) hquery hroute
          rw [hnamed, Option.some.injEq] at h
          exact ⟨reason, h ▸ hcheck⟩

/-- A catalog with a report that is open to all, and one that is not. -/
def barredCatalog : SkillRouter where
  cardsByKey := [(("open", "1"), { skillId := "open" }),
    (("barred", "1"), { skillId := "barred", allowedTenants := ["t2"] })]
  bm25 := some {
    cards := [{ skillId := "open" }, { skillId := "barred", allowedTenants := ["t2"] }]
    tokenize := fun text => [text]
    scoreAll := fun _ => [0, 1] }

/-- A decoder without floats. -/
def plainDecoder : Decoder where
  unicode := default
  readFloat := fun _ => none
  floatText := fun _ => none
  decodeDepth := 3
  deep := le_refl 3

/-- The card a request was sent to. -/
def RouteResult.card : RouteResult → Option SkillCard
  | .routed card _ => some card
  | .failed _ => none

/-- Its index finds the one that is not, and the router chooses it. -/
theorem barred_card_routed :
    ¬ RoutedLegal id plainDecoder barredCatalog { userQuestion := "q", tenantId := "t1" } := by
  intro hlegal
  have hrouted : (barredCatalog.route id plainDecoder none
      { userQuestion := "q", tenantId := "t1" }).toOption.any (fun result =>
        result.card.any (fun card => (check false card (.fromResolveContext
          { userQuestion := "q", tenantId := "t1" })).toOption.any Option.isSome)) = true := by
    decide +kernel
  rcases exists_of_any hrouted with ⟨result, hroute, hcard⟩
  cases result with
  | failed why => cases hcard
  | routed card source =>
      have hpasses : check false card (.fromResolveContext
        { userQuestion := "q", tenantId := "t1" }) = .ok none := hlegal none card source hroute
      rw [RouteResult.card, Option.any_some, hpasses] at hcard
      cases hcard

end Routing

end Skills

end AgenticRag

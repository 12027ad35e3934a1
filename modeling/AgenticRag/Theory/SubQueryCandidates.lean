import AgenticRag.Theory.DynamicTruncation

/-!
# What Is Handed to Reranking

The lists of several searches are fused by reciprocal rank, and the fused list is
cut before it is reranked, with the bounds that are meant for relevance scores. A
sum of reciprocal ranks never reaches them: a chunk that comes first in all of five
lists scores five sixty-firsts, and the bound is three tenths. So nothing is strong
enough, and what is handed over are the few chunks that are always kept.

## Main definitions

* `ranking`: The chunks that were hit, by falling score.
* `FewWanted`: Few documents are wanted, and the first of the ranking hold as many.

## Theorems

* `mergedChunks_eq`: What the fused list is.
* `length_candidates`: What is left of it after the cut.
* `handsEnough_of_fewWanted`, `handsEnough_iff`: When enough is handed over.
-/

namespace AgenticRag

namespace Retrieval

open Py Ordered

section Merging

variable {lists : List (List Chunk)}

/-- The sum a hit's chunk gets. -/
def rrfScore (lists : List (List Chunk)) (hit : Hit Chunk) : ℚ :=
  total (fun hit => chunkKey hit.doc) (reciprocalRank rrfK) (hits lists) (chunkKey hit.doc)

/-- The first hits of the chunks, by falling score. -/
def rankedHits (lists : List (List Chunk)) : List (Hit Chunk) :=
  fused (fun hit => chunkKey hit.doc) (reciprocalRank rrfK) (hits lists)

/-- A hit's chunk with its score written into it. -/
def scored (lists : List (List Chunk)) (hit : Hit Chunk) : Chunk :=
  { hit.doc with
    rrfScore := some (rrfScore lists hit)
    rerankScore := some (rrfScore lists hit) }

theorem sliceTo_map {α β : Type*} (f : α → β) (n : Int) (xs : List α) :
    sliceTo n (xs.map f) = (sliceTo n xs).map f := by
  rw [sliceTo, sliceTo, List.length_map, List.map_take]

/-- The fused list holds the chunks ranked first, with their scores. -/
theorem mergedChunks_eq (lists : List (List Chunk)) (retrievalTopK : Int) :
    mergedChunks lists retrievalTopK =
      (sliceTo retrievalTopK (rankedHits lists)).map (scored lists) := by
  -- The mapping of scores holds each key once, and sorting moves key and score together.
  have hsorted : sortDesc Prod.snd (rrfScores lists) =
      (rankedHits lists).map (fun hit => (chunkKey hit.doc, rrfScore lists hit)) := by
    rw [rrfScores, accumulate_eq, sortDesc_map]
    rfl
  -- What is looked up for a key is the first hit with it.
  have hchunk : ∀ hit ∈ sliceTo retrievalTopK (rankedHits lists),
      (chunkMap lists).lookup (chunkKey hit.doc) = some hit.doc := by
    intro hit hhit
    rw [chunkMap, keepFirst_eq]
    exact lookup_map_firstsOn Hit.doc
      ((fused_perm _ _ _).mem_iff.mp ((sliceTo_front _ _).subset hhit))
  rw [mergedChunks, hsorted, sliceTo_map, List.filterMap_map, ← List.filterMap_eq_map]
  refine List.filterMap_congr (fun hit hhit => ?_)
  rw [Function.comp_apply, hchunk hit hhit]
  rfl

theorem mergedChunks_pairwise (lists : List (List Chunk)) (retrievalTopK : Int) :
    (mergedChunks lists retrievalTopK).Pairwise (fun a b => b.relevance ≤ a.relevance) := by
  rw [mergedChunks_eq, List.pairwise_map]
  exact (sortDesc_pairwise _ _).sublist (sliceTo_front retrievalTopK (rankedHits lists)).sublist

/-- The chunks that were hit, by falling score. -/
def ranking (lists : List (List Chunk)) : List Chunk := (rankedHits lists).map Hit.doc

/-- The number of documents chunks are of. A chunk that does not say which
    document it is of counts by itself. -/
def countDocuments (chunks : List Chunk) : Nat := (dedupOn Chunk.document [] chunks).length

/-- Merging keeps the documents of the chunks. -/
theorem length_deduped_mergedChunks (lists : List (List Chunk)) (retrievalTopK : Int) :
    (deduped (mergedChunks lists retrievalTopK)).length =
      countDocuments (sliceTo retrievalTopK (ranking lists)) := by
  -- The merged chunks are in falling order, so sorting them again changes nothing.
  rw [deduped, sortDesc_of_pairwise _ (mergedChunks_pairwise lists retrievalTopK), mergedChunks_eq,
    dedupOn_map, List.length_map, countDocuments, ranking, sliceTo_map, dedupOn_map,
    List.length_map]
  rfl

end Merging

section Handing

variable (retrievalTopK rerankTopK : Int) (results : List (Option (List Chunk)))

/-- The lists of the searches, with none for those that failed. -/
def resultLists : List (List Chunk) := results.map (fun r => r.getD [])

/-- The documents that are wanted: all that were hit, up to the number that is
    reranked. -/
def wanted : Int := min rerankTopK (countDocuments (ranking (resultLists results)))

/-- As many candidates are handed to reranking as are wanted. -/
def HandsEnough : Prop :=
  wanted rerankTopK results ≤ (candidates retrievalTopK results).length

/-- No more than three documents are wanted, and the chunks ranked first are of
    so many. -/
def FewWanted : Prop :=
  wanted rerankTopK results ≤ 3 ∧
    wanted rerankTopK results ≤
      countDocuments (sliceTo retrievalTopK (ranking (resultLists results)))

variable {retrievalTopK rerankTopK results}

/-- Enough is handed over where few documents are wanted. -/
theorem handsEnough_of_fewWanted (h : FewWanted retrievalTopK rerankTopK results) :
    HandsEnough retrievalTopK rerankTopK results := by
  have hmin := min_le_length_dynamicTruncation {}
    (mergedChunks (resultLists results) retrievalTopK)
  rw [length_deduped_mergedChunks] at hmin
  exact (le_min h.1 h.2).trans hmin

/-- Of up to five lists without repetition no sum of reciprocal ranks reaches the
    bound. -/
theorem rrfScore_lt (hfive : results.length ≤ 5)
    (hnodup : ∀ docs ∈ resultLists results, (docs.map chunkKey).Nodup) (hit : Hit Chunk) :
    rrfScore (resultLists results) hit < 3 / 10 := by
  have hlength : ((resultLists results).length : ℚ) ≤ 5 := by
    rw [resultLists, List.length_map]
    exact_mod_cast hfive
  -- Five first places of a list are five sixty-firsts.
  have htotal := total_hits_le (k := 60) hnodup (chunkKey hit.doc)
  have hsum : rrfScore (resultLists results) hit ≤
      (resultLists results).length * (1 / ((60 : Nat) + 1 : ℚ)) := htotal
  push_cast at hsum
  linarith

/-- Then three are handed over, or as many as there are. -/
theorem length_candidates (retrievalTopK : Int) (hfive : results.length ≤ 5)
    (hnodup : ∀ docs ∈ resultLists results, (docs.map chunkKey).Nodup) :
    ((candidates retrievalTopK results).length : Int) =
      min 3 (countDocuments (sliceTo retrievalTopK (ranking (resultLists results))) : Int) := by
  have hweak : ∀ doc ∈ mergedChunks (resultLists results) retrievalTopK,
      doc.relevance < 3 / 10 := by
    intro doc hdoc
    rw [mergedChunks_eq] at hdoc
    rcases List.mem_map.mp hdoc with ⟨hit, -, rfl⟩
    exact rrfScore_lt hfive hnodup hit
  rw [← length_deduped_mergedChunks]
  exact length_dynamicTruncation_of_lt (by norm_num) hweak

end Handing

/-- Where few documents are wanted enough are handed over, and of up to five lists
    that name no chunk twice enough are handed over only then. -/
theorem handsEnough_iff (retrievalTopK rerankTopK : Int) (results : List (Option (List Chunk))) :
    (FewWanted retrievalTopK rerankTopK results → HandsEnough retrievalTopK rerankTopK results) ∧
      (results.length ≤ 5 → (∀ docs ∈ resultLists results, (docs.map chunkKey).Nodup) →
        (HandsEnough retrievalTopK rerankTopK results ↔
          FewWanted retrievalTopK rerankTopK results)) := by
  refine ⟨handsEnough_of_fewWanted, fun hfive hnodup => ⟨fun henough => ?_,
    handsEnough_of_fewWanted⟩⟩
  -- Three are handed over, or as many as there are.
  rw [HandsEnough, length_candidates retrievalTopK hfive hnodup] at henough
  exact ⟨henough.trans (min_le_left _ _), henough.trans (min_le_right _ _)⟩

/-- A numbered document. -/
def sampleChunk (n : Nat) : Chunk where
  objectId := n
  chunkId := "c" ++ toString n
  docId := "d" ++ toString n

/-- Two searches that each find two documents. -/
def sampleResults : List (Option (List Chunk)) :=
  [some [sampleChunk 1, sampleChunk 2], some [sampleChunk 3, sampleChunk 4]]

/-- Four documents are hit, up to twenty are reranked, and three are handed over. -/
theorem not_handsEnough_sample : ¬ HandsEnough 100 20 sampleResults := by
  have hperm : (ranking (resultLists sampleResults)).Perm
      [sampleChunk 1, sampleChunk 2, sampleChunk 3, sampleChunk 4] := by
    have hfirsts : (firstsOn (fun hit : Hit Chunk => chunkKey hit.doc)
        (hits (resultLists sampleResults))).map Hit.doc =
          [sampleChunk 1, sampleChunk 2, sampleChunk 3, sampleChunk 4] := by
      decide
    exact hfirsts ▸ (fused_perm _ _ _).map Hit.doc
  have hdistinct : ((ranking (resultLists sampleResults)).filterMap Chunk.document).Nodup :=
    (hperm.filterMap Chunk.document).nodup_iff.mpr (by decide)
  -- Whatever the order, the four chunks are of four documents.
  have hcount : countDocuments (ranking (resultLists sampleResults)) = 4 := by
    rw [countDocuments, dedupOn_of_nodup hdistinct (fun _ hi => absurd hi List.not_mem_nil),
      hperm.length_eq]
    rfl
  intro h
  rw [HandsEnough, wanted, hcount, length_candidates 100 (by decide) (by decide)] at h
  have hthree := h.trans (min_le_left _ _)
  revert hthree
  decide

end Retrieval

end AgenticRag

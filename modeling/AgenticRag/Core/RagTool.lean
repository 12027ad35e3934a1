import AgenticRag.Lib.PyText
import AgenticRag.Lib.RankFusion

/-!
# The Retrieval Tool

How the retrieval tool cuts a list of chunks before it goes on with it. The
chunks are ranked by their relevance, of the chunks of one document the best
is kept, and what is too weak is left out: by a bound, by a share of the best
score, and from where the score falls too far at once. If too little is left
the best few are taken whatever they score.

A question that was taken apart is searched for part by part. The lists that come
back are fused by reciprocal rank, the first of the fused ranking are cut, and what
is left is handed to reranking.

A score is a rational number here, and an identifier an empty text where the
dictionary has none or an empty one. The fields of a chunk that nothing here
reads are left out.

## Main definitions

* `Chunk`: A retrieved chunk.
* `candidates`: What is handed to reranking.
-/

namespace AgenticRag

namespace Retrieval

open Py Ordered

/-- A retrieved chunk, as far as the merges and the cut read it. -/
structure Chunk where
  /-- What the built-in `id` gives for the dictionary. -/
  objectId : Nat
  chunkId : String := ""
  id : String := ""
  docId : String := ""
  content : String := ""
  contentWithWeight : String := ""
  text : String := ""
  rerankScore : Option ℚ := none
  similarity : Option ℚ := none
  score : Option ℚ := none
  rrfScore : Option ℚ := none
  deriving DecidableEq

/-- The relevance of a chunk and the field it comes from. -/
def getDocumentRelevanceScore (doc : Chunk) : ℚ × String :=
  match doc.rerankScore, doc.similarity, doc.score with
  | some s, _, _ => (s, "rerank_score")
  | none, some s, _ => (s, "similarity")
  | none, none, some s => (s, "score")
  | none, none, none => (0, "none")

/-- How relevant a document is. -/
def Chunk.relevance (doc : Chunk) : ℚ := (getDocumentRelevanceScore doc).1

/-- The document a chunk is of, if it says so. -/
def Chunk.document (doc : Chunk) : Option String :=
  if doc.docId = "" then none else some doc.docId

/-- The slice `xs[:n]`. -/
def sliceTo {α : Type*} (n : Int) (xs : List α) : List α := xs.take (sliceIndex xs.length n)

/-- The settings of the cut, with the defaults of the tool. -/
structure TruncationConfig where
  relevanceThreshold : ℚ := 3 / 10
  relativeScoreRatio : ℚ := 3 / 10
  scoreDropThreshold : ℚ := 3 / 10
  minKeep : Int := 3

/-- What is known of a cut. -/
structure TruncationMetadata where
  topScore : ℚ
  avgScore : ℚ
  resultCount : Nat
  deriving DecidableEq

/-- The chunks by falling relevance, the best one of each document. -/
def deduped (docs : List Chunk) : List Chunk :=
  dedupOn Chunk.document [] (sortDesc Chunk.relevance docs)

/-- What is left of a ranking after the bound, the share of the best score and
    the fall from one score to the next. The fall is exact: that from 0.9 to 0.6 is the
    threshold, while the difference of the floats lies above it. -/
def filtered (config : TruncationConfig) (topScore : ℚ) (ranked : List Chunk) : List Chunk :=
  cutAtCliff Chunk.relevance config.scoreDropThreshold
    (atLeast Chunk.relevance (topScore * config.relativeScoreRatio)
      (atLeast Chunk.relevance config.relevanceThreshold ranked))

/-- The chunks taken of a ranking with a best score. -/
def selected (config : TruncationConfig) (topScore : ℚ) (ranked : List Chunk) : List Chunk :=
  let strong := filtered config topScore ranked
  if (strong.length : Int) < config.minKeep then sliceTo config.minKeep ranked else strong

/-- The mean relevance. -/
def avgScore (docs : List Chunk) : ℚ :=
  if docs.isEmpty then 0 else (docs.map Chunk.relevance).sum / docs.length

/-- The cut, and what is reported of it. -/
def dynamicTruncation (config : TruncationConfig) (docs : List Chunk) :
    List Chunk × TruncationMetadata :=
  match deduped docs with
  | [] => ([], { topScore := 0, avgScore := 0, resultCount := 0 })
  | top :: rest =>
      -- The best score is that of the ranking, whatever is taken of it.
      let kept := selected config top.relevance (top :: rest)
      (kept, {
        topScore := top.relevance
        avgScore := avgScore kept
        resultCount := kept.length })

section SubQueries

/-- The first text that is not empty. -/
def firstNonEmpty (texts : List String) (default : String) : String :=
  (texts.find? (fun t => t ≠ "")).getD default

/-- What a chunk is known by: the number of the chunk before that of its document,
    and where it has none the number of the object. -/
def chunkKey (chunk : Chunk) : String :=
  firstNonEmpty [chunk.chunkId, chunk.id, chunk.docId] (toString chunk.objectId)

/-- The constant of the ranks. -/
def rrfK : Int := 60

variable (lists : List (List Chunk))

/-- The score of each document. -/
def rrfScores : List (String × ℚ) :=
  accumulate (fun hit => chunkKey hit.doc) (reciprocalRank rrfK) (hits lists)

/-- The first document of each key. -/
def chunkMap : List (String × Chunk) :=
  keepFirst (fun hit => chunkKey hit.doc) Hit.doc (hits lists)

/-- The chunks ranked first, with their scores written into them. -/
def mergedChunks (retrievalTopK : Int) : List Chunk :=
  (sliceTo retrievalTopK (sortDesc Prod.snd (rrfScores lists))).filterMap (fun p =>
    ((chunkMap lists).lookup p.1).map (fun chunk =>
      { chunk with
        rrfScore := some p.2
        -- The score of the fusion stands in the place of that of the reranking.
        rerankScore := some p.2 }))

/-- What is handed to reranking. A search that failed has no list. -/
def candidates (retrievalTopK : Int) (results : List (Option (List Chunk))) : List Chunk :=
  (dynamicTruncation {} (mergedChunks (results.map (fun r => r.getD [])) retrievalTopK)).1

end SubQueries

end Retrieval

end AgenticRag

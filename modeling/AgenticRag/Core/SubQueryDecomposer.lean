import AgenticRag.Core.RagTool
import AgenticRag.Lib.PyVal

/-!
# Merging Sub-Query Results

How the component that takes a question apart merges what its parts found. The
lists are fused by reciprocal rank, and of documents that are duplicates of each
other only the one ranked first is kept. Without embeddings a duplicate is one with
the same text, and what is kept learns which searches found it; with embeddings it
is one that is similar enough, and it is passed over, as is a document that has no
embedding.

A list may hold entries that are not dictionaries, `none` here. They take a place
and are passed over.

## Main definitions

* `docText`, `docHash`, `docKey`: What a document says, and what it is known by.
* `mergedDocs`, `mergeSubQueryResults`: The merged list, and its cut.
-/

namespace AgenticRag

namespace Retrieval

open Py Ordered

/-- What is taken from outside: the digest of a text, and the norm and the product
    of vectors. -/
structure SubQueryEnv where
  md5 : String → String
  norm : List ℚ → ℚ
  dot : List ℚ → List ℚ → ℚ

section Documents

variable (env : SubQueryEnv)

/-- The text of a document. -/
def docText (doc : Chunk) : String :=
  firstNonEmpty [doc.content, doc.contentWithWeight, doc.text] ""

/-- The hash of a document. -/
def docHash (doc : Chunk) : String := take (env.md5 (docText doc)) 16

/-- What a document is known by: its number before that of the chunk, and where it
    has none a digest of its text. -/
def docKey (doc : Chunk) : String :=
  firstNonEmpty [doc.id, doc.docId, doc.chunkId] (docHash env doc)

/-- How alike two vectors are. -/
def cosineSimilarity (a b : List ℚ) : ℚ :=
  if a.isEmpty ∨ b.isEmpty then 0
  else if env.norm a = 0 ∨ env.norm b = 0 then 0
  else env.dot a b / (env.norm a * env.norm b)

end Documents

/-- A document of the merged list. -/
structure MergedDoc where
  doc : Chunk
  subQuerySources : List Nat
  rrfScore : ℚ
  deriving DecidableEq

/-- The numbers of a set, in order. -/
def sortedSet (xs : List Nat) : List Nat := xs.dedup.insertionSort (· ≤ ·)

section Merging

variable (env : SubQueryEnv) (k : Int) (resultsPerQuery : List (List (Option Chunk)))

/-- The dictionaries with their places. -/
def docHits : List (Hit Chunk) :=
  (hits resultsPerQuery).filterMap (fun hit => hit.doc.map (fun doc =>
    { query := hit.query, rank := hit.rank, doc := doc }))

/-- The key of a hit. -/
def hitKey (hit : Hit Chunk) : String := docKey env hit.doc

/-- The score of each document. -/
def scoresById : List (String × ℚ) :=
  accumulate (hitKey env) (reciprocalRank k) (docHits resultsPerQuery)

/-- The first document of each key. -/
def docById : List (String × Chunk) := keepFirst (hitKey env) Hit.doc (docHits resultsPerQuery)

/-- The searches that found a document. -/
def sourcesById (docId : String) : List Nat :=
  sortedSet (((groupBy (hitKey env) (docHits resultsPerQuery)).lookup docId).getD []
    |>.map Hit.query)

/-- The documents by falling score. -/
def entries : List MergedDoc :=
  let score := fun docId => ((scoresById env k resultsPerQuery).lookup docId).getD 0
  (sortDesc (fun p => score p.1) (docById env resultsPerQuery)).map (fun p =>
    { doc := p.2
      subQuerySources := sourcesById env resultsPerQuery p.1
      rrfScore := score p.1 })

/-- A step without embeddings: the first with the same text learns of the searches,
    or the document goes to the end. -/
def mergeByContent : List MergedDoc → MergedDoc → List MergedDoc
  | [], new => [new]
  | existing :: rest, new =>
      if docText existing.doc = docText new.doc then
        { existing with
          subQuerySources := sortedSet (existing.subQuerySources ++ new.subQuerySources) } :: rest
      else existing :: mergeByContent rest new

/-- A step with embeddings: the document goes to the end with its embedding, unless
    it has none or one that is similar to an earlier one. -/
def mergeByEmbedding (dedupThreshold : ℚ) (embeddingFn : Chunk → Option (List ℚ))
    (merged : List (MergedDoc × List ℚ)) (new : MergedDoc) : List (MergedDoc × List ℚ) :=
  match embeddingFn new.doc with
  | none => merged
  | some emb =>
      if merged.any (fun existing =>
        decide (dedupThreshold ≤ cosineSimilarity env emb existing.2)) then merged
      else merged ++ [(new, emb)]

/-- The merged list before it is cut. -/
def mergedDocs (dedupThreshold : ℚ) (embeddingFn : Option (Chunk → Option (List ℚ))) :
    List MergedDoc :=
  match embeddingFn with
  | none => (entries env k resultsPerQuery).foldl mergeByContent []
  | some embed => ((entries env k resultsPerQuery).foldl
      (mergeByEmbedding env dedupThreshold embed) []).map Prod.fst

/-- The merged list. A place that the constant takes to zero has no score. -/
def mergeSubQueryResults (topK : Int) (dedupThreshold : ℚ)
    (embeddingFn : Option (Chunk → Option (List ℚ))) : Except Exc (List MergedDoc) :=
  if (docHits resultsPerQuery).any (fun hit => decide (k + hit.rank + 1 = 0)) then
    .error .zeroDivisionError
  else .ok (sliceTo topK (mergedDocs env k resultsPerQuery dedupThreshold embeddingFn))

end Merging

end Retrieval

end AgenticRag

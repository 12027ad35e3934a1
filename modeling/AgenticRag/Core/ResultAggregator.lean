import AgenticRag.Core.Fusion
import AgenticRag.Core.RagTool

/-!
# Result Aggregator

What the steps of a plan returned is put together once all have run. The
documents of the knowledge base are ranked by relevance, of the documents with
one id the first is kept, and the list is cut. The rows of the databases are
marked with the database they come from.

A mark is written into the dictionary of the row, and two steps may have returned
the same dictionary: a `Row` has an identity, and `Gathered.addDb` marks all rows
that are the dictionary it marks. The relevance written into a document depends on
the document alone. Scores are rational numbers. What is only logged is left out.

## Main definitions

* `Row`, `Row.tag`: A row of a database, and its mark.
* `aggregate`: What the results add up to.
-/

namespace AgenticRag

namespace Aggregator

open Py Ordered Retrieval

/-- A row of a database. -/
structure Row where
  /-- What the built-in `id` gives for the dictionary. -/
  objectId : Nat
  cells : Dict

/-- The result of a step, as far as it is read here. -/
structure ToolResult where
  success : Bool := false
  ragDocs : List Chunk := []
  ragScoreSource : String := ""
  dbRows : List Row := []
  dbId : String := "unknown"
  dbQualityScore : ℚ := 0
  webDocs : List WebDoc := []
  restDocs : List RestDoc := []
  restQualityScore : ℚ := 0
  reportArtifacts : List Dict := []
  reportSummary : String := ""
  reportQualityScore : ℚ := 0

/-- A document with its relevance written into it. -/
structure ScoredDoc where
  doc : Chunk
  relevanceScore : ℚ

/-- A document and its score. -/
def scored (doc : Chunk) : ScoredDoc :=
  ⟨doc, (getDocumentRelevanceScore doc).1⟩

/-- The id of a document, that of its chunk where the document has none. -/
def ScoredDoc.id (d : ScoredDoc) : Option String :=
  let docId := orElse d.doc.docId d.doc.chunkId
  if docId = "" then none else some docId

/-- A row with the database it comes from. -/
def Row.tag (dbId : String) (row : Row) : Row :=
  { row with cells := dictSet "_source_db" (.str dbId) row.cells }

/-- The step returned this very dictionary. -/
def ToolResult.holds (r : ToolResult) (objectId : Nat) : Bool :=
  r.dbRows.any (fun row => row.objectId == objectId)

/-- What the loop over the results collects. The set of score sources is a list
    without repetitions. -/
structure Gathered where
  ragDocs : List Chunk := []
  dbRows : List Row := []
  webDocs : List WebDoc := []
  restDocs : List RestDoc := []
  reportArtifacts : List Dict := []
  latestReportSummary : String := ""
  maxReportScore : ℚ := 0
  maxDbScore : ℚ := 0
  maxRestScore : ℚ := 0
  dbSources : List String := []
  scoreSources : List String := []

/-- Adds a step's documents. -/
def Gathered.addRag (g : Gathered) (r : ToolResult) : Gathered :=
  if r.ragDocs.isEmpty then g
  else { g with
    ragDocs := g.ragDocs ++ r.ragDocs
    scoreSources :=
      if r.ragScoreSource = "" then g.scoreSources else g.scoreSources.insert r.ragScoreSource }

/-- Adds a step's rows. -/
def Gathered.addDb (g : Gathered) (r : ToolResult) : Gathered :=
  if r.dbRows.isEmpty then g
  else { g with
    -- A dictionary that was gathered before is marked there as well.
    dbRows := g.dbRows.map (fun row => if r.holds row.objectId then row.tag r.dbId else row) ++
      r.dbRows.map (Row.tag r.dbId)
    maxDbScore := max g.maxDbScore r.dbQualityScore
    dbSources := g.dbSources ++ [r.dbId] }

/-- Adds a step's answers. -/
def Gathered.addRest (g : Gathered) (r : ToolResult) : Gathered :=
  if r.restDocs.isEmpty then g
  else { g with
    restDocs := g.restDocs ++ r.restDocs
    maxRestScore := max g.maxRestScore r.restQualityScore }

/-- Adds a step's reports. -/
def Gathered.addReport (g : Gathered) (r : ToolResult) : Gathered :=
  if r.reportArtifacts.isEmpty then g
  else { g with
    reportArtifacts := g.reportArtifacts ++ r.reportArtifacts
    latestReportSummary := orElse r.reportSummary g.latestReportSummary
    maxReportScore := max g.maxReportScore r.reportQualityScore }

/-- One turn of the loop. A step that failed is skipped. -/
def Gathered.add (g : Gathered) (r : ToolResult) : Gathered :=
  if r.success then
    let g := (g.addRag r).addDb r
    ({ g with webDocs := g.webDocs ++ r.webDocs }.addRest r).addReport r
  else g

/-- The documents by relevance, of those with one id the first. -/
def rankedDocs (docs : List Chunk) : List ScoredDoc :=
  dedupOn ScoredDoc.id [] (sortDesc ScoredDoc.relevanceScore (docs.map scored))

/-- Where the scores are from. -/
def aggregateScoreSource : List String → String
  | [] => "base"
  | [source] => source
  | _ => "mixed"

/-- The rows of all steps. -/
structure AggregatedDbResult where
  rows : List Row
  rowCount : Nat
  source : String
  isAggregated : Bool := true
  sourceDbs : List String

/-- What the results of a plan add up to. -/
structure Aggregated where
  ragDocs : List ScoredDoc
  ragQualityScore : ℚ
  ragHasRelevant : Bool
  ragRelevantCount : Nat
  ragTopScore : ℚ
  ragAvgScore : ℚ
  ragResultCount : Nat
  ragScoreSource : String
  dbResult : AggregatedDbResult
  dbQualityScore : ℚ
  webDocs : List WebDoc
  restDocs : List RestDoc
  restQualityScore : ℚ
  reportArtifacts : List Dict
  reportSummary : String
  reportQualityScore : ℚ

/-- How many documents are kept. -/
def aggregationMaxKeep : Int := 20

/-- Puts the results together. -/
def aggregate (toolResults : List ToolResult) (maxKeep : Int := aggregationMaxKeep) : Aggregated :=
  let g := toolResults.foldl Gathered.add {}
  let ragDocs := sliceTo maxKeep (rankedDocs g.ragDocs)
  let scores := ragDocs.map ScoredDoc.relevanceScore
  -- Without documents all of these are zero.
  let topScore := scores.max?.getD 0
  let avgScore := if scores.isEmpty then 0 else scores.sum / scores.length
  { ragDocs := ragDocs
    -- The quality is the average, whatever the steps said.
    ragQualityScore := avgScore
    ragHasRelevant := decide (0 < ragDocs.length)
    ragRelevantCount := ragDocs.length
    ragTopScore := topScore
    ragAvgScore := avgScore
    ragResultCount := ragDocs.length
    ragScoreSource := aggregateScoreSource g.scoreSources
    dbResult :=
      { rows := g.dbRows
        rowCount := g.dbRows.length
        source := if 1 < g.dbSources.length then "multi_db" else g.dbSources.headD ""
        sourceDbs := g.dbSources }
    dbQualityScore := g.maxDbScore
    webDocs := g.webDocs
    restDocs := g.restDocs
    restQualityScore := g.maxRestScore
    reportArtifacts := g.reportArtifacts
    reportSummary := g.latestReportSummary
    reportQualityScore := g.maxReportScore }

end Aggregator

end AgenticRag

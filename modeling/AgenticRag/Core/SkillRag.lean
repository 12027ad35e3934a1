import AgenticRag.Core.RagTool
import AgenticRag.Core.ReactPolicy
import AgenticRag.Core.SkillPlanner
import AgenticRag.Core.State

/-!
# Retrieval for a Skill

A retrieval skill declares targets: a knowledge base, how many documents to
take, templates for the query, and filters. A request for a skill is prepared
from one of its targets. The templates and the filters have variables in braces,
filled from the request and its context; a template that misses one is skipped,
unless the target is required.

The retrieval tool does not know the filters. It evaluates the chunks it has
found, by their scores, and where these leave it in doubt by a grader, and
hands back documents with the evaluation. Only then are the filters put to the
documents, and the first of what passes are taken.

The registry, the texts `float` reads and what the grader answers are
parameters. A score is a rational number. Of what the tool returns only the
documents and their evaluation are kept here, the rest being handed through.

## Main definitions

* `RagToolInput`, `PreparedSkillRagRequest`: A prepared request.
* `matchesFilters`, `applyFilters`, `invokePrepared`: What is returned of them.
-/

namespace AgenticRag

namespace SkillRag

open Py Ordered Structured

/-- The input of the retrieval tool, as a skill fills it. -/
structure RagToolInput where
  query : String
  tenantId : String
  kbIds : List String
  topK : Int
  documentFilters : Val
  metadataFilters : Val
  similarityThreshold : Val
  keywordsSimilarityWeight : Val
  rerankId : String

/-- A retrieval, ready to run. -/
structure PreparedSkillRagRequest where
  targetId : String
  inputData : RagToolInput

/-- The built-in `float`. What it reads off a text is a parameter. -/
def toFloat (parse : String → Except Exc Val) : Val → Except Exc Val
  | .bool b => .ok (if b then .float 1 "1.0" else .float 0 "0.0")
  | .int i => .ok (.float i (toString i ++ ".0"))
  | .float q text => .ok (.float q text)
  | .str s => parse s
  | .object "inf" r => .ok (.object "inf" r)
  | .object "-inf" r => .ok (.object "-inf" r)
  | .object "nan" r => .ok (.object "nan" r)
  | _ => .error .typeError

section Rendering

variable (u : Unicode) (context : Dict)

/-- A variable without a value raises. -/
def fillPiece : Skills.TemplatePiece → Except Exc (List Char)
  | .char c => .ok [c]
  | .slot name => do return ((← Skills.pyItem context name).toStr u).toList

/-- A template, filled in. -/
def renderText (text : String) : Except Exc String := do
  return String.ofList (← (Skills.templatePieces text).mapM (fillPiece u context)).flatten

mutual

/-- `_render_value`. The keys of mappings are left alone. -/
def renderValue : Val → Except Exc Val
  | .str s => do return .str (← renderText u context s)
  | .list xs => do return .list (← renderValues xs)
  | .dict kvs => do return .dict (← renderEntries kvs)
  | v => .ok v

/-- Values, filled in. -/
def renderValues : List Val → Except Exc (List Val)
  | [] => .ok []
  | v :: vs => do return (← renderValue v) :: (← renderValues vs)

/-- Entries, filled in. -/
def renderEntries : List (String × Val) → Except Exc (List (String × Val))
  | [] => .ok []
  | (k, v) :: rest => do return (k, ← renderValue v) :: (← renderEntries rest)

end

end Rendering

section Query

variable (u : Unicode)

/-- The ids of the templates that are asked for. -/
def selectedIds (input : Dict) : Except Exc (List Val) := do
  let templateId := pyGet input "query_template_id" .none
  let ids ← pySet (pyGet input "query_template_ids" (.list []))
  let ids ← if templateId.truthy then pySet (.list (ids ++ [templateId])) else .ok ids
  return ids.foldl (fun seen v => if seen.any (keyEq v) then seen else seen ++ [v]) []

/-- The id of a template. -/
def templateIdOf (template : Val) : Except Exc Val := do
  return pyGet (← asMapping template) "template_id" .none

/-- The templates that are asked for, or all of them. -/
def selectTemplates (target input : Dict) : Except Exc Val := do
  let ids ← selectedIds input
  let templates := pyGet target "query_templates" (.list [])
  if ids.isEmpty then return templates
  else
    let declared ← pyIter templates
    let selected ← declared.filterM (fun template => do inSet (← templateIdOf template) ids)
    if selected.length = ids.length then return .list selected
    else
      let _ ← Skills.pyItem target "target_id"
      let known ← declared.mapM templateIdOf
      -- The ids that are not known are joined for the message.
      let _ ← (ids.filter (fun v => !known.any (keyEq v))).mapM (fun v => match v with
        | .str s => Except.ok s
        | _ => .error .typeError)
      .error .valueError

/-- `_missing_template_context`, which names the target. -/
def missingTemplateContext {α : Type} (target : Dict) : Except Exc α := do
  let _ ← Skills.pyItem target "target_id"
  .error .valueError

/-- The query a template gives, if all its variables have values. -/
def templateQuery (target context template : Dict) : Except Exc (Option String) :=
  let text := (pyGet template "query" (.str "")).toStr u
  if (Skills.variablesOf text).all (fun name => (pyGet context name .none).truthy) then
    (renderText u context text).map some
  else if (pyGet target "required" .none).truthy then missingTemplateContext target
  else .ok none

/-- The queries of the templates. -/
def buildQuery : QueryBuilder := fun _ target input context => do
  let templates ← selectTemplates target input
  if templates.truthy then
    let queries ← (← pyIter templates).mapM (fun template => do
      templateQuery u target context (← asMapping template))
    if queries.reduceOption.isEmpty then return none
    else return some (join "\n" queries.reduceOption)
  else
    -- Without templates the question of the request is the query.
    let query := strip ((pyGet input "query" (.str "")).toStr u)
    if query = "" then missingTemplateContext target else return some query

end Query

section Prepare

variable (u : Unicode) (parse : String → Except Exc Val) (registry : Val → Option Skill)

/-- `_build_context`. The input goes over the context it brings. -/
def buildContext (input : Dict) : Except Exc Dict :=
  match pyGet input "context" (.dict []) with
  | .dict given => .ok (dictUpdate given input)
  | _ => .error .valueError

/-- The request for a target. The knowledge base and the number of documents are
    those of the target. -/
def requestFor (target context : Dict) (query : String) : Except Exc PreparedSkillRagRequest := do
  let kbId ← Skills.pyItem target "kb_id"
  let topK ← (pyGet target "top_k" (.int 5)).toInt
  let documentFilters ← renderValue u context (pyGet target "document_filters" (.dict []))
  let metadataFilters ← renderValue u context (pyGet target "metadata_filters" (.dict []))
  let similarityThreshold ←
    toFloat parse (pyGet target "similarity_threshold" (.float (1 / 5) "0.2"))
  let keywordsSimilarityWeight ←
    toFloat parse (pyGet target "keywords_similarity_weight" (.float (1 / 2) "0.5"))
  let targetId ← Skills.pyItem target "target_id"
  return {
    targetId := targetId.toStr u
    inputData := {
      query := query
      tenantId := (pyGet context "tenant_id" (.str "")).toStr u
      kbIds := [kbId.toStr u]
      topK := topK
      documentFilters := documentFilters
      metadataFilters := metadataFilters
      similarityThreshold := similarityThreshold
      keywordsSimilarityWeight := keywordsSimilarityWeight
      rerankId := (pyGet target "rerank_id" (.str "")).toStr u } }

/-- The skill of a request, its context and the target. -/
def resolve (input : Dict) : Except Exc (RetrievalSkill × Dict × Dict) := do
  let skillId := pyGet input "retrieval_skill_id" .none
  if ¬ skillId.truthy then .error .valueError
  else
    match ← getById registry skillId with
    | some (.retrieval skill) =>
        let context ← buildContext input
        requireSkillContext skill context
        let target ← selectTarget u skill (pyGet input "rag_target_id" .none)
        return (skill, context, target)
    | _ => .error .valueError

/-- `SkillRAGExecutor.prepare`. A target that is skipped has no request. -/
def prepare (input : Dict) : Except Exc (Option PreparedSkillRagRequest) := do
  let (skill, context, target) ← resolve u registry input
  match ← buildQuery u skill target input context with
  | none => return none
  | some query => return some (← requestFor u parse target context query)

end Prepare

section Quality

/-- What the grader says of so many chunks: a score, and of each chunk whether it
    is relevant. -/
structure Grading (count : Nat) where
  qualityScore : ℚ
  relevance : List Bool
  complete : relevance.length = count

/-- How good documents are. -/
structure Evaluation where
  qualityScore : ℚ
  hasRelevant : Bool
  relevantCount : Nat
  topScore : ℚ
  scoreSource : ScoreSource

/-- From where a document is relevant. -/
def relevantThreshold : ℚ := 1 / 2

/-- A score as a number. What cannot be compared with one raises. -/
def scoreNumber : Val → Except Exc ℚ
  | .bool b => .ok (if b then 1 else 0)
  | .int i => .ok i
  | .float q _ => .ok q
  | _ => .error .typeError

/-- What a chunk has as its score. -/
def scoreValue (chunk : Dict) : Val :=
  pyGet chunk "rerank_score" (pyGet chunk "similarity" (pyGet chunk "score" (.float 0 "0.0")))

/-- The mean. -/
def average (scores : List ℚ) : ℚ := if scores = [] then 0 else scores.sum / scores.length

/-- Whether the scores leave it open how good the chunks are. -/
def inDoubt (baseQualityScore : ℚ) : Bool :=
  decide (2 / 5 ≤ baseQualityScore ∧ baseQualityScore < 7 / 10)

/-- The best score. Without scores it is zero. -/
def topScore (scores : List ℚ) : ℚ := scores.max?.getD 0

/-- The evaluation by the scores. -/
def baseEvaluation (scores : List ℚ) : Evaluation :=
  let relevantCount := scores.countP (fun s => relevantThreshold ≤ s)
  { qualityScore := average scores
    hasRelevant := decide (0 < relevantCount)
    relevantCount := relevantCount
    topScore := topScore scores
    scoreSource := .base }

/-- `_evaluate_quality`. There is no grading where the grader is switched off, is
    not told the query and the tenant, or fails. -/
def evaluateQuality (chunks : List Dict) (grading : Option (Grading chunks.length)) :
    Except Exc Evaluation := do
  let scores ← chunks.mapM (fun chunk => scoreNumber (scoreValue chunk))
  match grading with
  | none => return baseEvaluation scores
  | some graded =>
      if inDoubt (average scores) then
        return {
          qualityScore := average scores * (2 / 5) + graded.qualityScore * (3 / 5)
          hasRelevant := graded.relevance.any id
          relevantCount := graded.relevance.countP id
          topScore := topScore scores
          scoreSource := .graderMerged }
      else return baseEvaluation scores

/-- `get_document_relevance_score`, without the source. A score of `None` is passed
    over. -/
def documentRelevanceScore (parse : String → Except Exc Val) (chunk : Dict) : Except Exc Val :=
  let rerankScore := pyGet chunk "rerank_score" .none
  let similarity := pyGet chunk "similarity" .none
  let score := pyGet chunk "score" .none
  if !isNone rerankScore then toFloat parse rerankScore
  else if !isNone similarity then toFloat parse similarity
  else if !isNone score then toFloat parse score
  else .ok (.float 0 "0.0")

/-- The document for a chunk. -/
def formatDoc (parse : String → Except Exc Val) (chunk : Dict) : Except Exc Dict := do
  let score ← documentRelevanceScore parse chunk
  return [("content", pyGet chunk "content_with_weight" (pyGet chunk "content" (.str ""))),
    ("score", score),
    ("source", pyGet chunk "docnm_kwd" (.str "unknown")),
    ("chunk_id", pyGet chunk "chunk_id" (.str "")),
    ("doc_id", pyGet chunk "doc_id" (.str "")),
    ("doc_type", pyGet chunk "doc_type" (.str "")),
    ("status", pyGet chunk "status" (.str "")),
    ("metadata", pyGet chunk "metadata" (.dict []))]

/-- Documents and their quality. -/
structure RagToolOutput where
  docs : List Dict
  quality : Evaluation

/-- What the retrieval tool hands back for the chunks it has kept. -/
def ragToolOutput (parse : String → Except Exc Val) (chunks : List Dict)
    (grading : Option (Grading chunks.length)) : Except Exc RagToolOutput := do
  let quality ← evaluateQuality chunks grading
  let docs ← chunks.mapM (formatDoc parse)
  return { docs := docs, quality := quality }

end Quality

section Filters

/-- What a filter reads off a document: a key of its own, or one of its metadata. -/
def documentValue (doc : Dict) (key : String) : Val :=
  let metadata : Dict := match pyGet doc "metadata" (.dict []) with
    | .dict kvs => kvs
    | _ => []
  pyGet doc key (pyGet metadata key .none)

/-- A document passes the filters. -/
def matchesDocumentFilters (doc : Dict) : List (String × Val) → Except Exc Bool
  | [] => .ok true
  | (key, allowedValues) :: rest => do
      let value := documentValue doc key
      if isNone value then return false
      else if ← React.pyIn value allowedValues then matchesDocumentFilters doc rest
      else return false

/-- The metadata pass the filters. -/
def matchesMetadataFilters (doc : Dict) (filters : Dict) : Bool :=
  filters.all (fun kv =>
    !isNone (documentValue doc kv.1) && pyEq (documentValue doc kv.1) kv.2)

/-- `_matches_filters`. -/
def matchesFilters (doc : Dict) (documentFilters metadataFilters : Val) : Except Exc Bool := do
  if ← matchesDocumentFilters doc (← asMapping documentFilters) then
    return matchesMetadataFilters doc (← asMapping metadataFilters)
  else return false

/-- `_apply_filters`. The evaluation goes through as it is. -/
def applyFilters (result : RagToolOutput) (inputData : RagToolInput) :
    Except Exc RagToolOutput := do
  let docs ← result.docs.filterM (fun doc =>
    matchesFilters doc inputData.documentFilters inputData.metadataFilters)
  return { result with docs := Retrieval.sliceTo inputData.topK docs }

/-- `SkillRAGExecutor.invoke_prepared`, after the retrieval tool has answered. -/
def invokePrepared (prepared : PreparedSkillRagRequest) (result : RagToolOutput) :
    Except Exc RagToolOutput :=
  applyFilters result prepared.inputData

end Filters

end SkillRag

end AgenticRag

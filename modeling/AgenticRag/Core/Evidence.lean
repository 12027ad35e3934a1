import AgenticRag.Lib.PyVal

/-!
# Evidence

The record every tool result is turned into before the workflow looks at it,
and the normalisers that do the turning. Each tool has its own result shape
and its own normaliser; `normalizeToolResult` picks one by the tool's name.

A normaliser cuts the text it keeps, masks telephone and identity numbers in
it, and derives the `evidenceId` from the source and the text as retrieved,
before either was done. A database result is split into its rows, one piece
of evidence for each, and a result without rows becomes a single piece that
says so.

What lies outside the repository is a parameter. `Runtime` holds the hash
function, the tokeniser, the clock and the Unicode database.

## Main definitions

* `SourceType`: The kinds of source.
* `normalizeToolResult`: The normaliser of a tool.

## Theorems

* `mem_normalizeDbEvidence`, `mem_normalizeGraphEvidence`: The pieces a
  database result and a graph result are turned into.
-/

namespace AgenticRag

open Py

/-- The kinds of source a piece of evidence may come from. -/
inductive SourceType where
  | rag
  | db
  | web
  | rest
  | report
  | graph
  deriving DecidableEq, Repr

/-- The name of a source. -/
def SourceType.text : SourceType → String
  | .rag => "rag"
  | .db => "db"
  | .web => "web"
  | .rest => "rest"
  | .report => "report"
  | .graph => "graph"

/-- A piece of evidence. -/
structure Evidence where
  evidenceId : String
  sourceType : SourceType
  title : String := ""
  content : String := ""
  structuredData : Dict := []
  sourceUri : String := ""
  tenantId : String := ""
  confidence : ℚ := 0
  relevanceScore : ℚ := 0
  authorityScore : ℚ := 0
  freshnessScore : ℚ := 0
  createdAt : String := ""
  metadata : Dict := []

/-- What the workflow takes from its surroundings: the hexadecimal digest of
    `hashlib.sha256`, the tokeniser behind `num_tokens_from_string`, the
    reading of the clock and the Unicode database. -/
structure Runtime where
  sha256 : String → String
  numTokens : String → Nat
  nowIso : String
  unicode : Unicode

instance : Inhabited Runtime :=
  ⟨{ sha256 := id, numTokens := String.length, nowIso := "", unicode := default }⟩

/-- The source a tool's results are filed under. -/
def toolSourceTypeMap : List (String × SourceType) :=
  [("rag_search", .rag), ("rag", .rag), ("db_query", .db), ("database", .db),
   ("web_search", .web), ("web", .web), ("rest", .rest), ("rest_search", .rest),
   ("graph", .graph), ("graph_tool", .graph), ("report", .report)]

/-- The authority a source has by default. -/
def defaultAuthorityScore : SourceType → ℚ
  | .db => 95 / 100
  | .rest => 90 / 100
  | .graph => 90 / 100
  | .rag => 80 / 100
  | .report => 85 / 100
  | .web => 50 / 100

/-- The value of a text, or another when it is empty: Python's `a or b`. -/
def orElse (a b : String) : String :=
  if a = "" then b else a

/-- A score as the tools report it, absent and zero both giving the
    default. -/
def scoreOr (score : Option ℚ) (fallback : ℚ) : ℚ :=
  match score with
  | none => fallback
  | some q => if q = 0 then fallback else q

/-- The value of a score held between zero and one. -/
def clamp01 (q : ℚ) : ℚ :=
  max 0 (min 1 q)

section Shared

variable (rt : Runtime)

/-- The id of a piece of evidence. -/
def makeEvidenceId (sourceUri content : String) : String :=
  let raw := sourceUri ++ "|" ++ take content 200
  "ev_" ++ take (rt.sha256 raw) 16

/-- A character of `\w`. -/
def isWord (c : Char) : Bool :=
  rt.unicode.isAlnum c || c == '_'

/-- The pattern `\s+`. -/
def spaceScan (_ : Option Char) (cs : List Char) : Option Nat :=
  let n := (cs.takeWhile isSpace).length
  if n = 0 then none else some n

/-- The pattern `'[^']*'`. -/
def quotedScan (_ : Option Char) : List Char → Option Nat
  | '\'' :: rest =>
      let body := rest.takeWhile (· != '\'')
      if body.length < rest.length then some (body.length + 2) else none
  | _ => none

/-- The pattern `\b\d+\b`. A run of digits holds no boundary inside, so only
    the whole run can match. -/
def numberScan (before : Option Char) (cs : List Char) : Option Nat :=
  let ds := cs.takeWhile isDecimal
  if ds ≠ [] ∧ atBoundary (isWord rt) before cs.head? ∧
      atBoundary (isWord rt) ds.getLast? cs[ds.length]? then some ds.length
  else none

/-- A statement without its constants. -/
def makeSqlFingerprint (sql : String) : String :=
  if sql = "" then "unknown"
  else
    let normalized := reSub spaceScan [' '] none 0 (strip (rt.unicode.upper sql)).toList
    let normalized := reSub quotedScan ['?'] none 0 normalized
    let normalized := reSub (numberScan rt) ['?'] none 0 normalized
    take (rt.sha256 (String.ofList normalized)) 16

/-- The text cut to a number of characters, and whether anything was cut. -/
def truncateContent (content : String) (maxChars : Nat) : String × Bool :=
  if content = "" then ("", false)
  else if content.length ≤ maxChars then (content, false)
  else (take content maxChars ++ "…", true)

/-- The pattern `\b1[3-9]\d{9}\b`. -/
def phoneScan (before : Option Char) (cs : List Char) : Option Nat :=
  let m := cs.take 11
  if m.length = 11 ∧ m[0]? = some '1' ∧
      (m[1]?.map (fun c => decide ('3' ≤ c ∧ c ≤ '9'))).getD false ∧
      (m.drop 2).all isDecimal ∧ atBoundary (isWord rt) before cs.head? ∧
      atBoundary (isWord rt) m.getLast? cs[11]? then some 11
  else none

/-- The pattern `\b\d{17}[\dXx]\b`. -/
def identityScan (before : Option Char) (cs : List Char) : Option Nat :=
  let m := cs.take 18
  if m.length = 18 ∧ (m.take 17).all isDecimal ∧
      (m[17]?.map (fun c => isDecimal c || c == 'X' || c == 'x')).getD false ∧
      atBoundary (isWord rt) before cs.head? ∧
      atBoundary (isWord rt) m.getLast? cs[18]? then some 18
  else none

/-- Masks telephone and identity numbers. -/
def scrubSensitive (content : String) : String :=
  if content = "" then content
  else
    let masked := reSub (phoneScan rt) "1XX-XXXX-XXXX".toList none 0 content.toList
    String.ofList (reSub (identityScan rt) "ID-XXXXXXXX".toList none 0 masked)

variable {rt} in
/-- A text without digits holds nothing to mask. -/
theorem scrubSensitive_of_no_digits {content : String}
    (h : ∀ c ∈ content.toList, isDecimal c = false) : scrubSensitive rt content = content := by
  have hphone : ∀ before suffix, suffix <:+ content.toList →
      phoneScan rt before suffix = none := by
    intro before suffix hsuffix
    unfold phoneScan
    refine if_neg ?_
    rintro ⟨hlength, hfirst, -⟩
    -- The first character of a number would be a digit of the text.
    have hmem : '1' ∈ suffix := List.mem_of_mem_take (List.mem_of_getElem? hfirst)
    exact absurd (h '1' (hsuffix.subset hmem)) (by decide)
  have hidentity : ∀ before suffix, suffix <:+ content.toList →
      identityScan rt before suffix = none := by
    intro before suffix hsuffix
    unfold identityScan
    refine if_neg ?_
    rintro ⟨hlength, hdigits, -⟩
    cases suffix with
    | nil => cases hlength
    | cons c cs =>
        have hdigit : isDecimal c = true :=
          List.all_eq_true.mp hdigits c (by simp)
        rw [h c (hsuffix.subset List.mem_cons_self)] at hdigit
        cases hdigit
  unfold scrubSensitive
  by_cases hempty : content = ""
  · rw [if_pos hempty]
  · simp only [if_neg hempty, reSub_of_no_match _ none _ hphone,
      reSub_of_no_match _ none _ hidentity, String.ofList_toList]

end Shared

/-- A document of the knowledge base as the retrieval tool returns it. -/
structure RagDoc where
  content : String := ""
  text : String := ""
  score : Option ℚ := none
  kbId : String := ""
  docId : String := ""
  documentId : String := ""
  chunkId : String := ""
  title : String := ""
  page : String := ""
  docUri : String := ""
  uri : String := ""
  stepId : String := ""

/-- The result of a database query. A row maps column names to values. -/
structure DbResult where
  sql : String := ""
  rows : List Dict := []
  columns : List String := []
  rowCount : Option Int := none
  source : String := ""
  tables : List String := []
  executionTimeMs : Val := .int 0
  queryId : String := ""
  sqlFingerprint : String := ""
  asOf : Option String := none
  qualityScore : Option ℚ := none
  stepId : String := ""
  explorationVerdict : String := ""

/-- A page found on the web. -/
structure WebDoc where
  content : String := ""
  snippet : String := ""
  score : Option ℚ := none
  url : String := ""
  title : String := ""
  publishedAt : String := ""
  fetchedAt : Option String := none

/-- What a document of the REST tool carries: a text or an object. -/
inductive RestData where
  | text (s : String)
  | object (kvs : Dict)

/-- A document of the REST tool. -/
structure RestDoc where
  content : RestData := .text ""
  data : RestData := .text ""
  qualityScore : Option ℚ := none
  function : String := ""
  endpoint : String := ""
  method : String := "GET"
  erpDomain : Option String := none
  title : String := ""

/-- The result of the graph question service. -/
structure GraphResult where
  error : String := ""
  rows : List Val := []
  rowCount : Option Int := none
  answer : String := ""
  qualityScore : Option ℚ := none
  title : String := ""
  sourceType : String := ""

/-- Keep the entries whose text is not empty. -/
def provenanceOf (fields : List (String × String)) : Dict :=
  (fields.filter (fun kv => kv.2 != "")).map (fun kv => (kv.1, Val.str kv.2))

/-- Write the provenance into the metadata, unless it is empty. -/
def attachProvenanceToEvidence (ev : Evidence) (provenance : Dict) : Evidence :=
  if provenance.isEmpty then ev
  else { ev with metadata := ev.metadata ++ [("provenance", .dict provenance)] }

section Normalizers

variable (rt : Runtime) (tenantId query : String)

/-- Where a document is from. -/
def buildRagProvenance (doc : RagDoc) (docId : String) : Dict :=
  provenanceOf [("kb_id", doc.kbId), ("doc_id", docId), ("chunk_id", doc.chunkId),
    ("doc_title", doc.title), ("doc_uri", orElse doc.docUri doc.uri),
    ("retrieval_query", query), ("step_id", doc.stepId)]

/-- A document as evidence. -/
def ragEvidence (doc : RagDoc) : Evidence :=
  let contentRaw := orElse doc.content doc.text
  let cut := truncateContent contentRaw 2000
  let score := scoreOr doc.score 0
  let docId := orElse doc.docId doc.documentId
  let sourceUri :=
    if doc.kbId ≠ "" then "kb://" ++ doc.kbId ++ "/" ++ docId ++ "/" ++ doc.chunkId
    else "rag://" ++ orElse doc.chunkId "unknown"
  attachProvenanceToEvidence
    -- The id is taken from the text as retrieved, the content is cut and masked.
    { evidenceId := makeEvidenceId rt sourceUri contentRaw
      sourceType := .rag
      title := orElse doc.title ("知识库文档片段 " ++ doc.chunkId)
      content := scrubSensitive rt cut.1
      structuredData := []
      sourceUri := sourceUri
      tenantId := tenantId
      confidence := clamp01 score
      relevanceScore := clamp01 score
      authorityScore := defaultAuthorityScore .rag
      freshnessScore := 1
      createdAt := rt.nowIso
      metadata := [("kb_id", .str doc.kbId), ("doc_id", .str docId),
        ("chunk_id", .str doc.chunkId), ("page", .str doc.page),
        ("truncated", .bool cut.2), ("query", .str query)] }
    (buildRagProvenance query doc docId)

/-- Documents as evidence. -/
def normalizeRagEvidence (ragDocs : List RagDoc) : List Evidence :=
  ragDocs.map (ragEvidence rt tenantId query)

/-- The value of a column, empty when the row does not have it. -/
def cell (row : Dict) (col : String) : Val :=
  (row.lookup col).getD (.str "")

/-- An entry of a row as it is written into a row key. -/
def columnEq (kv : String × Val) : String :=
  kv.1 ++ "=" ++ kv.2.toStr rt.unicode

/-- Whether a value is the empty text, which does not identify a row. -/
def isEmptyText : Val → Bool
  | .str s => s == ""
  | _ => false

/-- What a row is known by. -/
def extractRowKey (row : Dict) (firstCol : String) : String :=
  if row.isEmpty then "unknown"
  else
    -- A column that looks like a key comes before the first column.
    let keyed := ["id", "ID", "Id", "exception_id", "uid", "uuid", "key"].filterMap (fun pk =>
      match row.lookup pk with
      | some v => if isEmptyText v then none else some (columnEq rt (pk, v))
      | none => none)
    match keyed with
    | key :: _ => key
    | [] =>
        match row.lookup firstCol with
        | some v => if firstCol ≠ "" then columnEq rt (firstCol, v)
            else join "_" ((row.take 3).map (columnEq rt))
        | none => join "_" ((row.take 3).map (columnEq rt))

/-- What the rows of one database result have in common. -/
structure DbContext where
  tablePath : String
  sqlFingerprint : String
  asOf : String
  rowCount : Int
  provenance : List String → Dict

/-- What the rows of a result share. -/
def dbContext (r : DbResult) : DbContext :=
  let fingerprint := orElse r.sqlFingerprint (makeSqlFingerprint rt r.sql)
  let firstTable := r.tables.headD ""
  { tablePath := if r.tables.isEmpty then "unknown" else join "/" r.tables
    sqlFingerprint := fingerprint
    asOf := r.asOf.getD rt.nowIso
    rowCount := r.rowCount.getD r.rows.length
    provenance := fun rowKeys =>
      provenanceOf [("db_id", orElse r.source (headOfSplit firstTable '.')),
        ("table_name", firstTable), ("query_id", r.queryId), ("sql_fingerprint", fingerprint)] ++
      (if rowKeys.isEmpty then [] else [("row_keys", .list (rowKeys.map Val.str))]) ++
      provenanceOf [("step_id", r.stepId)] }

/-- The metadata every piece of database evidence carries. -/
def dbMetadata (r : DbResult) (ctx : DbContext) (rowCount : Int) (truncated : List (String × Val))
    (marks : Dict) : Dict :=
  [("sql", .str r.sql), ("tables", .list (r.tables.map Val.str)), ("row_count", .int rowCount),
   ("query_time_ms", r.executionTimeMs), ("source", .str r.source)] ++ truncated ++
  [("natural_query", .str query), ("query_id", .str r.queryId),
   ("sql_fingerprint", .str ctx.sqlFingerprint), ("as_of", .str ctx.asOf)] ++ marks

/-- The evidence that a query found no rows. -/
def zeroRowsEvidence (r : DbResult) : Evidence :=
  let ctx := dbContext rt r
  let sourceUri := "db://" ++ ctx.tablePath ++ "/" ++ r.queryId ++ "/" ++ ctx.sqlFingerprint ++
    "?as_of=" ++ ctx.asOf ++ "&zero_rows=true"
  attachProvenanceToEvidence
    { evidenceId := makeEvidenceId rt sourceUri "ZERO_ROWS"
      sourceType := .db
      title := "数据库查询结果（0 行）"
      content := ""
      structuredData := [("row_count", .int 0)]
      sourceUri := sourceUri
      tenantId := tenantId
      confidence := 1
      relevanceScore := 3 / 10
      authorityScore := defaultAuthorityScore .db
      freshnessScore := 1
      createdAt := rt.nowIso
      metadata := dbMetadata query r ctx 0 [] [("zero_rows", .bool true)] }
    (ctx.provenance [])

/-- The evidence of one row, under the row key and the title given for it. -/
def rowEvidence (r : DbResult) (row : Dict) (rowKey title : String) (marks : Dict) : Evidence :=
  let ctx := dbContext rt r
  let sourceUri := "db://" ++ ctx.tablePath ++ "/" ++ r.queryId ++ "/" ++ ctx.sqlFingerprint ++
    "/" ++ rowKey ++ "?as_of=" ++ ctx.asOf
  let contentRaw := (Val.dict row).dumps
  let cut := truncateContent contentRaw 2000
  let quality := scoreOr r.qualityScore (8 / 10)
  attachProvenanceToEvidence
    { evidenceId := makeEvidenceId rt sourceUri contentRaw
      sourceType := .db
      title := title
      content := scrubSensitive rt cut.1
      structuredData := row
      sourceUri := sourceUri
      tenantId := tenantId
      confidence := clamp01 quality
      relevanceScore := clamp01 quality
      authorityScore := defaultAuthorityScore .db
      freshnessScore := 1
      createdAt := rt.nowIso
      metadata := dbMetadata query r ctx ctx.rowCount [("truncated", .bool cut.2)]
        (marks ++ [("row_key", .str rowKey)]) }
    (ctx.provenance [rowKey])

/-- Whether the statement aggregates, read off its text. -/
def isAggregate (sql : String) : Bool :=
  let sqlUpper := strip (rt.unicode.upper sql)
  ["COUNT(", "SUM(", "AVG(", "MAX(", "MIN(", "GROUP BY"].any (contains sqlUpper)

/-- The evidence of a database result. Splitting by rows reads the first
    column off the first row and fails when that row has none. -/
def normalizeDbEvidence (dbResult : Option DbResult) : Except Exc (List Evidence) :=
  match dbResult with
  | none => .ok []
  | some r =>
      match r.rows with
      | [] => .ok [zeroRowsEvidence rt tenantId query r]
      | first :: _ =>
          if isAggregate rt r.sql ∧ r.rows.length ≤ 5 then
            .ok (r.rows.map (fun row =>
              rowEvidence rt tenantId query r row
                ("aggregate_" ++ join "_" (row.map (columnEq rt)))
                ("数据库聚合查询结果（" ++ toString r.rows.length ++ " 行）")
                [("is_aggregate", .bool true)]))
          else
            match first with
            | [] => .error .indexError
            | (firstCol, _) :: _ =>
                .ok (r.rows.map (fun row =>
                  rowEvidence rt tenantId query r row (extractRowKey rt row firstCol)
                    ("数据库查询结果行（" ++ firstCol ++ "=" ++
                      (cell row firstCol).toStr rt.unicode ++ "）") []))

/-- A page as evidence. -/
def webEvidence (doc : WebDoc) : Evidence :=
  let contentRaw := orElse doc.content doc.snippet
  let cut := truncateContent contentRaw 2000
  let score := scoreOr doc.score (1 / 2)
  let fetchedAt := doc.fetchedAt.getD rt.nowIso
  -- The id is taken from the address even where it is empty.
  { evidenceId := makeEvidenceId rt doc.url contentRaw
    sourceType := .web
    title := orElse doc.title (orElse doc.url "Web 搜索结果")
    content := scrubSensitive rt cut.1
    structuredData := []
    sourceUri := orElse doc.url "web://unknown"
    tenantId := tenantId
    confidence := clamp01 score
    relevanceScore := clamp01 score
    authorityScore := defaultAuthorityScore .web
    freshnessScore := 7 / 10
    createdAt := fetchedAt
    metadata := [("url", .str doc.url), ("title", .str doc.title),
      ("published_at", .str doc.publishedAt), ("fetched_at", .str fetchedAt),
      ("truncated", .bool cut.2), ("query", .str query)] }

/-- Pages as evidence. -/
def normalizeWebEvidence (webDocs : List WebDoc) : List Evidence :=
  webDocs.map (webEvidence rt tenantId query)

/-- The text of a REST document: its content, or else its data, an object
    being written as JSON. -/
def restContentRaw (doc : RestDoc) : String :=
  let text : RestData → String := fun d =>
    match d with
    | .text s => s
    | .object kvs => if kvs.isEmpty then "" else (Val.dict kvs).dumps
  orElse (text doc.content) (text doc.data)

/-- An answer of a service as evidence. -/
def restEvidence (erpDomain : String) (doc : RestDoc) : Evidence :=
  let contentRaw := restContentRaw doc
  let cut := truncateContent contentRaw 2000
  let quality := scoreOr doc.qualityScore (85 / 100)
  let docErpDomain := doc.erpDomain.getD erpDomain
  let sourceUri :=
    if docErpDomain ≠ "" then
      "rest://" ++ docErpDomain ++ "/" ++ doc.function ++ "/" ++ doc.endpoint
    else "rest://" ++ orElse doc.function "unknown"
  { evidenceId := makeEvidenceId rt sourceUri contentRaw
    sourceType := .rest
    title := orElse doc.title ("ERP 查询结果（" ++ orElse doc.function "未知" ++ "）")
    content := scrubSensitive rt cut.1
    structuredData := match doc.data with
      | .object kvs => kvs
      | .text _ => []
    sourceUri := sourceUri
    tenantId := tenantId
    confidence := clamp01 quality
    relevanceScore := clamp01 quality
    authorityScore := defaultAuthorityScore .rest
    freshnessScore := 1
    createdAt := rt.nowIso
    metadata := [("function", .str doc.function), ("endpoint", .str doc.endpoint),
      ("method", .str doc.method), ("erp_domain", .str docErpDomain),
      ("truncated", .bool cut.2), ("query", .str query)] }

/-- Answers of a service as evidence. -/
def normalizeRestEvidence (restDocs : List RestDoc) (erpDomain : String) : List Evidence :=
  restDocs.map (restEvidence rt tenantId query erpDomain)

/-- The first truthy value among the given keys of a row. -/
def firstTruthy (row : Dict) (keys : List String) : Option Val :=
  (keys.filterMap (fun k => row.lookup k)).find? Val.truthy

/-- Where a graph's rows are from. -/
def extractGraphSourceUri (rows : List Val) : String :=
  match rows with
  | .dict row :: _ =>
      let label := (firstTruthy row ["label", "Label", "_label"]).map (Val.toStr rt.unicode)
      let keyed := ["id", "ID", "Id", "name", "Name", "uuid", "uid"].filterMap (fun pk =>
        match row.lookup pk with
        | none => none
        | some .none => none
        | some v => if isEmptyText v then none else some (columnEq rt (pk, v)))
      let key := ((firstTruthy row ["key", "Key", "_key"]).map (Val.toStr rt.unicode)).or
        keyed.head?
      if label.isSome ∨ key.isSome then
        "graph://neo4j/" ++ label.getD "graph" ++ "/" ++ key.getD "unknown"
      else "graph://neo4j/graph"
  | _ => "graph://neo4j/graph"

/-- A graph's answer, or its rows. -/
def graphContentRaw (r : GraphResult) : String :=
  if r.answer ≠ "" then r.answer
  else join "\n" (r.rows.map (fun row =>
    match row with
    | .dict kvs => (Val.dict kvs).dumps
    | v => v.toStr rt.unicode))

/-- The number of rows the graph service reports, or else the number there
    are. -/
def GraphResult.reportedRows (r : GraphResult) : Int :=
  r.rowCount.getD r.rows.length

/-- A graph's answer as evidence. -/
def graphEvidence (r : GraphResult) : Evidence :=
  let contentRaw := graphContentRaw rt r
  let cut := truncateContent contentRaw 2000
  let quality := scoreOr r.qualityScore (85 / 100)
  let sourceUri := extractGraphSourceUri rt r.rows
  { evidenceId := makeEvidenceId rt sourceUri contentRaw
    sourceType := .graph
    title := orElse r.title ("图谱查询结果（" ++ toString r.reportedRows ++ " 行）")
    content := scrubSensitive rt cut.1
    structuredData := [("rows", .list r.rows), ("row_count", .int r.reportedRows)]
    sourceUri := sourceUri
    tenantId := tenantId
    confidence := clamp01 quality
    relevanceScore := clamp01 quality
    authorityScore := defaultAuthorityScore .graph
    freshnessScore := 1
    createdAt := rt.nowIso
    metadata := [("row_count", .int r.reportedRows), ("source_type", .str r.sourceType),
      ("truncated", .bool cut.2), ("query", .str query)] }

/-- The evidence of a graph result. A result with an error, or one that
    reports no rows, gives none. -/
def normalizeGraphEvidence (graphResult : Option GraphResult) : List Evidence :=
  match graphResult with
  | none => []
  | some r =>
      if r.error ≠ "" ∨ r.reportedRows = 0 then [] else [graphEvidence rt tenantId query r]

/-- A tool's result in the shape its normaliser reads. -/
inductive ToolPayload where
  | ragDocs (docs : List RagDoc)
  | dbResult (r : Option DbResult)
  | webDocs (docs : List WebDoc)
  | restDocs (docs : List RestDoc) (erpDomain : String)
  | graphResult (r : Option GraphResult)

/-- The evidence of a tool's result. A report is normalised as a database
    result, and a tool that is not in the map gives nothing. -/
def normalizeToolResult (toolName : String) (result : ToolPayload) :
    Except Exc (List Evidence) :=
  match toolSourceTypeMap.lookup toolName, result with
  | some .rag, .ragDocs docs => .ok (normalizeRagEvidence rt tenantId query docs)
  | some .db, .dbResult r => normalizeDbEvidence rt tenantId query r
  | some .web, .webDocs docs => .ok (normalizeWebEvidence rt tenantId query docs)
  | some .report, .dbResult r => normalizeDbEvidence rt tenantId query r
  | some .rest, .restDocs docs erpDomain =>
      .ok (normalizeRestEvidence rt tenantId query docs erpDomain)
  | some .graph, .graphResult r => .ok (normalizeGraphEvidence rt tenantId query r)
  | _, _ => .ok []

variable {rt tenantId query}

/-- A piece of database evidence says that there are no rows, or is a row, with
    at most the mark of an aggregate. -/
theorem mem_normalizeDbEvidence {dbResult : Option DbResult} {db : List Evidence}
    (h : normalizeDbEvidence rt tenantId query dbResult = .ok db) {ev : Evidence} (hev : ev ∈ db) :
    ∃ r, ev = zeroRowsEvidence rt tenantId query r ∨
      ∃ row rowKey title marks, ev = rowEvidence rt tenantId query r row rowKey title marks ∧
        (marks = [] ∨ marks = [("is_aggregate", .bool true)]) := by
  unfold normalizeDbEvidence at h
  cases dbResult with
  | none => cases h; cases hev
  | some r =>
      refine ⟨r, ?_⟩
      simp only at h
      split at h
      -- Without rows there is one piece that says so.
      · cases h
        exact .inl (List.mem_singleton.mp hev)
      · right
        split_ifs at h
        -- The few rows of an aggregate are marked as such.
        · cases h
          rcases List.mem_map.mp hev with ⟨row, -, rfl⟩
          exact ⟨row, _, _, _, rfl, .inr rfl⟩
        -- Other rows are split, if the first one has a column.
        · split at h
          · cases h
          · cases h
            rcases List.mem_map.mp hev with ⟨row, -, rfl⟩
            exact ⟨row, _, _, _, rfl, .inl rfl⟩

theorem mem_normalizeGraphEvidence {graphResult : Option GraphResult} {ev : Evidence}
    (hev : ev ∈ normalizeGraphEvidence rt tenantId query graphResult) :
    ∃ r, ev = graphEvidence rt tenantId query r := by
  unfold normalizeGraphEvidence at hev
  cases graphResult with
  | none => cases hev
  | some r =>
      simp only at hev
      split_ifs at hev
      · cases hev
      · exact ⟨r, List.mem_singleton.mp hev⟩

end Normalizers

end AgenticRag

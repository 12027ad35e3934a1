import AgenticRag.Core.DagScheduler
import AgenticRag.Core.Graph
import AgenticRag.Core.ReportTool

/-!
# Reports in a Plan

A plan may have a step that writes a report. The adapter of the report tool turns
the tool's output into fields of its own, the dispatcher hands them on as the
result of the step, and the results of all steps are put together. The node that
runs the plan writes what they add up to into the state.

What a failure looks like changes on the way. The tool returns the report and an
error code; the adapter keeps the code and leaves the report out; the aggregation
only looks at reports; and the node writes no field about reports at all.

What the report is written from goes the other way: the evidence of the state, and
what the steps before have found. The adapter makes evidence of the latter, under
identifiers of its own.

The base class calls the adapter inside a guard. Whether the call gets through is
left open. How a number is written is a parameter, and so is what the results of
the other tools add up to.

## Main definitions

* `ReportArtifact.toDict`: A report as a mapping.
* `readReport`: What the last node reads of such fields.
-/

namespace AgenticRag

namespace Report

open Py Ordered Plan

section Mappings

variable (floatText : ℚ → String)

/-- A number as a value. -/
def floatVal (q : ℚ) : Val := .float q (floatText q)

/-- Texts as a value. -/
def strList (xs : List String) : Val := .list (xs.map .str)

/-- The entry of a key that may be missing. -/
def optional (key : String) (text : Option String) : Dict :=
  (text.map (fun t => (key, Val.str t))).toList

/-- The name of a status. -/
def PublishStatus.text : PublishStatus → String
  | .draft => "draft"
  | .pendingReview => "pending_review"
  | .approved => "approved"
  | .published => "published"
  | .rejected => "rejected"

/-- A section as a dictionary. -/
def ReportSection.toDict (sec : ReportSection) : Dict :=
  optional "section_id" sec.sectionId ++ optional "title" sec.title ++
  [("section_type", .str sec.sectionType), ("content", .str sec.content),
    ("evidence_refs", strList sec.evidenceRefs), ("claim_refs", strList sec.claimRefs)]

/-- A chart as a dictionary. -/
def ChartSpec.toDict (chart : ChartSpec) : Dict :=
  optional "chart_id" chart.chartId ++ optional "chart_type" chart.chartType ++
  optional "title" chart.title ++
  [("series", .list (chart.series.map .dict)), ("data", .list (chart.data.map .dict)),
    ("evidence_refs", strList chart.evidenceRefs), ("claim_refs", strList chart.claimRefs),
    ("notes", .str chart.notes)]

/-- A table as a dictionary. -/
def TableSpec.toDict (table : TableSpec) : Dict :=
  optional "table_id" table.tableId ++ optional "title" table.title ++
  [("columns", strList table.columns), ("rows", .list (table.rows.map .list)),
    ("evidence_refs", strList table.evidenceRefs), ("claim_refs", strList table.claimRefs)]

/-- A claim as a dictionary. -/
def ReportClaim.toDict (claim : ReportClaim) : Dict :=
  optional "claim_id" claim.claimId ++
  [("text", .str claim.text), ("claim_type", .str claim.claimType),
    ("evidence_refs", strList claim.evidenceRefs), ("support_status", .str claim.supportStatus)] ++
  (claim.confidence.map (fun q => ("confidence", floatVal floatText q))).toList ++
  [("needs_human_review", .bool claim.needsHumanReview), ("review_reason", .str claim.reviewReason)]

/-- A source as a dictionary. -/
def DataSourceRef.toDict (src : DataSourceRef) : Dict :=
  [("source_type", .str src.sourceType), ("db_id", .str src.dbId),
    ("table_name", .str src.tableName), ("query_id", .str src.queryId), ("kb_id", .str src.kbId),
    ("doc_id", .str src.docId), ("chunk_id", .str src.chunkId), ("doc_title", .str src.docTitle),
    ("used_by_sections", strList src.usedBySections)]

/-- An issue as a dictionary. -/
def VerificationIssue.toDict (i : VerificationIssue) : Dict :=
  [("code", .str i.code), ("severity", .str i.severity.text), ("message", .str i.message)] ++
  optional "section_id" i.sectionId ++ optional "chart_id" i.chartId ++
  optional "table_id" i.tableId ++ optional "field" i.field

/-- A verification as a dictionary. -/
def VerificationResult.toDict (v : VerificationResult) : Dict :=
  [("passed", .bool v.passed), ("score", floatVal floatText v.score),
    ("issues", .list (v.issues.map (fun i => .dict i.toDict))),
    ("warnings", strList v.warnings), ("checks_performed", strList v.checksPerformed),
    ("checked_at", .str v.checkedAt)]

/-- A review as a dictionary. -/
def HumanReviewResult.toDict (r : HumanReviewResult) : Dict :=
  [("action", .str r.action),
    ("comments", .list (r.comments.map (fun c => .dict [("reviewer_id", .str c.reviewerId),
      ("comment", .str c.comment), ("skill_type", .str c.skillType)]))),
    ("approved", .bool r.approved), ("publish_allowed", .bool r.publishAllowed)]

/-- A report as the tools pass it around. -/
def ReportArtifact.toDict (a : ReportArtifact) : Dict :=
  [("report_id", .str a.reportId)] ++ optional "title" a.title ++
  [("report_type", .str a.reportType), ("format", .str a.format)] ++
  optional "language" a.language ++
  [("objective", .str a.objective), ("audience", .str a.audience), ("summary", .str a.summary),
    ("sections", .list (a.sections.map (fun sec => .dict sec.toDict))),
    ("charts", .list (a.charts.map (fun chart => .dict chart.toDict))),
    ("tables", .list (a.tables.map (fun table => .dict table.toDict))),
    ("evidence_refs", strList a.evidenceRefs),
    ("claims", .list (a.claims.map (fun c => .dict (c.toDict floatText)))),
    ("data_sources", .list (a.dataSources.map (fun src => .dict src.toDict))),
    ("human_review_result", .dict ((a.humanReviewResult.map HumanReviewResult.toDict).getD []))] ++
  (a.publishStatus.map (fun s => ("publish_status", Val.str s.text))).toList ++
  [("publish_status_reason", .str a.publishStatusReason),
    ("verification_result",
      .dict ((a.verificationResult.map (VerificationResult.toDict floatText)).getD [])),
    ("tenant_id", .str a.tenantId), ("user_id", .str a.userId), ("created_at", .str a.createdAt),
    ("file_uri", .str a.fileUri), ("file_size_bytes", .int a.fileSizeBytes),
    ("partial", .bool a.isPartial), ("failed_sections", strList a.failedSections),
    ("coverage_score", floatVal floatText a.coverageScore)]

end Mappings

section Collecting

variable (u : Unicode)

/-- The evidence made of a document that a step has found. -/
def ragEvidence (stepId : String) (state : Dict) (n : Nat) (doc : Dict) : Dict :=
  [("evidence_id", .str ("ev_" ++ stepId ++ "_" ++ toString n)),
    ("source_type", .str "rag"),
    ("title", pyGet doc "title" (.str "")),
    ("content", pyGet doc "content" (.str "")),
    ("structured_data", .dict []),
    ("source_uri", .str ("rag://" ++ (pyGet doc "doc_id" (.str "")).toStr u ++ "/" ++
      (pyGet doc "chunk_id" (.str "")).toStr u)),
    ("tenant_id", pyGet state "tenant_id" (.str "")),
    ("confidence", pyGet doc "score" (.float (1 / 2) "0.5")),
    ("relevance_score", pyGet doc "score" (.float (1 / 2) "0.5")),
    ("authority_score", .float (4 / 5) "0.8"),
    ("freshness_score", .float 1 "1.0"),
    ("created_at", .str ""),
    ("metadata", .dict [("step_id", .str stepId)])]

/-- The rows of a database result, and the columns of the first. -/
def tabular : Val → Except Exc (List String × List Val)
  | .list (first :: rest) => do
      let row ← asMapping first
      return (row.map Prod.fst, first :: rest)
  | .dict _ => .error .keyError
  | .str _ => .error .attributeError
  | _ => .error .typeError

/-- The evidence made of a database result. All of them get the same
    identifier. -/
def dbEvidence (stepId : String) (state result db : Dict) : Except Exc Dict := do
  let (columns, rows) ← tabular (pyGet db "rows" .none)
  return [("evidence_id", .str ("ev_" ++ stepId ++ "_db")),
    ("source_type", .str "db"),
    ("title", .str ("DB 查询结果（" ++ (pyGet db "row_count" (.int 0)).toStr u ++ " 行）")),
    ("content", pyGet db "formatted_result" (.str "")),
    ("structured_data",
      .dict [("columns", strList columns), ("rows", .list (rows.take 100))]),
    ("source_uri", .str ("db://" ++ (pyGet db "source" (.str "unknown")).toStr u)),
    ("tenant_id", pyGet state "tenant_id" (.str "")),
    ("confidence", pyGet result "db_quality_score" (.float (1 / 2) "0.5")),
    ("relevance_score", .float (4 / 5) "0.8"),
    ("authority_score", .float (19 / 20) "0.95"),
    ("freshness_score", .float 1 "1.0"),
    ("created_at", .str ""),
    ("metadata", .dict [("step_id", .str stepId), ("sql", pyGet db "sql" (.str ""))])]

/-- The documents of a result. -/
def ragDocs (result : ToolResult) : Except Exc (List Dict) :=
  if (pyGet result "rag_docs" .none).truthy then do
    (← pyIter (pyGet result "rag_docs" .none)).mapM asMapping
  else return []

/-- What was collected so far, with the evidence of one more result. -/
def collectResult (stepId : String) (state : Dict) (collected : List Dict) (result : ToolResult) :
    Except Exc (List Dict) :=
  if (pyGet result "success" (.bool false)).truthy then do
    let docs ← ragDocs result
    -- The documents are numbered by what there is already.
    let collected := docs.foldl
      (fun collected doc => collected ++ [ragEvidence u stepId state collected.length doc])
      collected
    let db ← asMapping (pyGet result "db_result" (.dict []))
    if (pyGet db "rows" .none).truthy then
      return collected ++ [← dbEvidence u stepId state result db]
    else return collected
  else return collected

/-- The evidence of earlier steps. -/
def collectEvidence (stepId : String) (state : Dict) (previous : Results) :
    Except Exc (List Dict) :=
  previous.foldlM (fun collected r => collectResult u stepId state collected r.2) []

/-- The evidence of the state. -/
def stateEvidence (state : Dict) : Val := pyOr (pyGet state "evidence" (.list [])) (.list [])

/-- The evidence the report tool is handed. -/
def allEvidence (stepId : String) (state : Dict) (previous : Results) : Except Exc (List Val) := do
  let collected ← collectEvidence u stepId state previous
  match stateEvidence state with
  | .list items => return items ++ collected.map .dict
  | _ => .error .typeError

/-- What the adapter hands to the report tool. -/
def reportInput (s : PlanStep) (state : Dict) (previous : Results) : Except Exc Dict := do
  let extra := s.args.extra
  let evidence ← allEvidence u s.stepId state previous
  return [("title", pyGet extra "title" (.str "")),
    ("report_type", pyGet extra "report_type" (.str "business_analysis")),
    ("skill_id", pyGet extra "skill_id" .none),
    ("data_skill_id", pyGet extra "data_skill_id" .none),
    ("retrieval_skill_id", pyGet extra "retrieval_skill_id" .none),
    ("skill_set", pyGet extra "skill_set" (pyGet state "skill_set" .none)),
    ("objective",
      if s.args.query = "" then pyGet state "user_question" (.str "") else .str s.args.query),
    ("format", pyGet extra "format" (pyGet state "report_format" (.str "markdown"))),
    ("language", pyGet state "query_lang" (.str "zh_CN")),
    ("tenant_id", pyGet state "tenant_id" (.str "")),
    ("user_id", pyGet state "user_id" (.str "")),
    ("evidence", .list evidence),
    ("max_sections", pyGet extra "max_sections" (.int 10)),
    ("max_charts", pyGet extra "max_charts" (.int 6)),
    ("max_tables", pyGet extra "max_tables" (.int 8))]

end Collecting

section Adapter

/-- What an adapter returns. -/
structure ToolOutcome where
  success : Bool := true
  tool : String := ""
  errorCode : String := ""
  error : String := ""
  latencyMs : Nat := 0
  payload : Dict := []

/-- The fields of an outcome, the payload over the common ones. -/
def ToolOutcome.toStateFields (o : ToolOutcome) : Dict :=
  dictUpdate
    ([("success", .bool o.success), ("tool", .str o.tool), ("latency_ms", .int o.latencyMs)] ++
      (if o.error = "" then [] else [("error", .str o.error)]) ++
      (if o.errorCode = "" then [] else [("error_code", .str o.errorCode)]))
    o.payload

variable (floatText : ℚ → String)

/-- The fields of the report tool. A report is only among them if the tool was
    successful. -/
def reportPayload (result : Output) : Dict :=
  let artifact := (result.artifact.map (ReportArtifact.toDict floatText)).getD []
  [("report_artifacts", .list (if result.success then [.dict artifact] else [])),
    ("report_summary", .str result.summary),
    ("report_quality_score", floatVal floatText result.qualityScore),
    ("report_error", .str result.errorMessage),
    ("report_error_code", .str result.errorCode),
    ("report_file_uri", .str result.fileUri),
    ("report_download_url", .str result.downloadUrl),
    ("report_partial", .bool result.isPartial),
    ("report_claims", pyOr (pyGet artifact "claims" (.list [])) (.list [])),
    ("report_data_sources", pyOr (pyGet artifact "data_sources" (.list [])) (.list [])),
    ("report_human_review", pyOr (pyGet artifact "human_review_result" (.dict [])) (.dict [])),
    ("report_publish_status", ((result.publishStatus.map (fun s => Val.str s.text)).getD
      (pyGet artifact "publish_status" (.str "draft")))),
    ("report_needs_human_review", .bool (result.needsHumanReview.getD false))]

/-- What the adapter of the report tool makes of an output. It is a success
    whatever the output says. -/
def reportOutcome (result : Output) : ToolOutcome :=
  { success := true, tool := "report", payload := reportPayload floatText result }

/-- `BaseTool.invoke`: a call that raises becomes a failure. -/
def guarded (name : String) (latencyMs : Nat) (call : Except String ToolOutcome) : ToolOutcome :=
  -- The outcome of an adapter is taken as it is, whatever it says.
  let o := match call with
    | .ok o => o
    | .error message => { success := false, errorCode := "TOOL_EXECUTION_FAILED", error := message }
  { o with tool := name, latencyMs := latencyMs }

/-- `ToolDispatcher.dispatch`: the result of a step. -/
def dispatch (s : PlanStep) (elapsedMs : Nat) (o : ToolOutcome) : ToolResult :=
  let result := o.toStateFields
  let success := (pyGet result "success" (.bool true)).truthy
  let result := dictSet "step_id" (.str s.stepId) result
  let result := dictSet "tool" (.str s.tool.name) result
  let result := dictSet "success" (.bool success) result
  dictSet "latency_ms" (pyOr (pyGet result "latency_ms" .none) (.int elapsedMs)) result

end Adapter

section Aggregation

/-- What the results of a plan add up to. -/
structure Aggregated extends PlanResult where
  reportArtifacts : List Val := []
  reportSummary : Val := .str ""
  reportQualityScore : ℚ := 0

/-- The number a score is. The results of reports have no others. -/
def scoreOf : Val → ℚ
  | .float q _ => q
  | .int n => n
  | _ => 0

/-- The results that say they were successful. -/
def successful (results : List ToolResult) : List ToolResult :=
  results.filter (fun r => (pyGet r "success" (.bool false)).truthy)

/-- `ResultAggregator.aggregate`. Of the results with reports the reports are
    taken, the last summary that is not empty, and the highest score. -/
def aggregate (others : List ToolResult → PlanResult) (results : List ToolResult) : Aggregated :=
  -- A result without reports has no say in the summary and the score.
  let withReports := (successful results).filter (fun r => !(getList r "report_artifacts").isEmpty)
  { others (successful results) with
    reportArtifacts := withReports.flatMap (fun r => getList r "report_artifacts")
    reportSummary := withReports.foldl (fun latest r =>
      pyOr (pyGet r "report_summary" .none) latest) (.str "")
    reportQualityScore := withReports.foldl (fun best r =>
      max best (scoreOf (pyGet r "report_quality_score" (.float 0 "0.0")))) 0 }

end Aggregation

section Reading

/-- The text under a key, or a default. -/
def getText (d : Dict) (key fallback : String) : String :=
  match d.lookup key with
  | some (.str s) => s
  | _ => fallback

/-- A flag, false if absent. -/
def getFlag (d : Dict) (key : String) : Bool :=
  (pyGet d key (.bool false)).truthy

/-- What the last node reads of the fields, were they in the state. -/
def readReport (d : Dict) : ReportState where
  artifacts := (getList d "report_artifacts").filterMap (fun v =>
    match v with
    | .dict kvs => some kvs
    | _ => none)
  errorCode := getText d "report_error_code" ""
  publishStatus := (d.lookup "report_publish_status").map
    (fun _ => getText d "report_publish_status" "")
  needsHumanReview := (d.lookup "report_needs_human_review").map
    (fun _ => getFlag d "report_needs_human_review")
  summary := getText d "report_summary" ""
  downloadUrl := getText d "report_download_url" ""
  fileUri := getText d "report_file_uri" ""
  isPartial := getFlag d "report_partial"
  qualityScore := pyGet d "report_quality_score" (.float 0 "0.0")
  claimCount := (getList d "report_claims").length
  dataSourceCount := (getList d "report_data_sources").length
  humanReview := getDict d "report_human_review"

end Reading

end Report

end AgenticRag

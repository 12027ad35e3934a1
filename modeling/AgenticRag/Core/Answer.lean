import AgenticRag.Core.State

/-!
# The Answering Nodes

The nodes at the end of the workflow. Three of them write the final answer:
the renderer, the fallback, and the last node, which runs after either.

## Main definitions

* `answerRendererNode`: Render the answer tree.
* `finalAnswerText`, `finalAnswerNode`: The last node.
-/

namespace AgenticRag

open Py

/-- Render the answer tree, brought up to date with the verified claims.
    Without a tree the raw answer is passed on. -/
def answerRendererNode (s : AgentState) : AgentState :=
  match s.answerAst with
  | none => { s with finalAnswer := s.generatedAnswer }
  | some ast =>
      { s with
        finalAnswer := (syncClaimStatuses (buildClaimStatusMap s.claims) ast).render }

section Fallback

/-- The words for a reason to stop. -/
def terminationPrefix (reason : String) : String :=
  if reason = "same_action_loop" then "检索未发现新信息"
  else if reason = "rerank_declining" then "检索质量持续下降"
  else if reason = "budget_exhausted" then "已达到推理上限"
  else if reason = "policy_denied" then "部分操作被安全策略限制"
  else if reason = "retrieval_infra_error" then "检索服务暂时不可用"
  else "处理过程被中断"

/-- The answer where there is nothing to say. -/
def defaultFallbackMessage : String := "当前信息不足以回答，建议人工介入"

/-- The first three texts that are not empty, as list items. -/
def findingLines (texts : List String) : List String :=
  ((texts.take 3).filter (· ≠ "")).map (fun text => "- " ++ take text 200 ++ "...")

/-- The answer of the fallback node: the reason, the message, and what was
    found so far. -/
def fallbackAnswer (s : AgentState) : String :=
  let reasonLine := "**" ++ terminationPrefix s.terminationReason ++ "**"
  let sourceLine := if s.terminationSource = "" then [] else ["（来源：" ++ s.terminationSource ++ "）"]
  let message := "\n" ++ orElse s.fallbackMessage defaultFallbackMessage
  -- Pages from the web open the section and are not listed in it.
  let findings :=
    if ¬ s.evidence.isEmpty then
      "\n\n### 已获取的部分信息" :: findingLines (s.evidence.map Evidence.content)
    else if ¬ s.ragDocs.isEmpty then
      "\n\n### 已获取的部分信息" ::
        findingLines (s.ragDocs.map (fun doc => orElse doc.content doc.text))
    else if ¬ s.webDocs.isEmpty then ["\n\n### 已获取的部分信息"]
    else []
  let rowCount := (s.dbResult.bind DbResult.rowCount).getD 0
  let dbLine :=
    if 0 < rowCount then ["\n- 数据库查询返回 " ++ toString rowCount ++ " 条记录"] else []
  join "\n" ([reasonLine] ++ sourceLine ++ [message] ++ findings ++ dbLine)

/-- The node for want of information. -/
def fallbackNode (s : AgentState) : AgentState :=
  { s with finalAnswer := fallbackAnswer s, qualityDecision := .fallback }

end Fallback

/-- The observability node records the run and changes nothing the other
    nodes read. -/
def observabilityNode (s : AgentState) : AgentState :=
  s

section FinalAnswer

/-- The value under a key, or a default. -/
def getOr (d : Dict) (key : String) (fallback : Val) : Val :=
  (d.lookup key).getD fallback

/-- The dictionary under a key, empty where there is none. -/
def getDict (d : Dict) (key : String) : Dict :=
  match d.lookup key with
  | some (.dict kvs) => kvs
  | _ => []

/-- The list under a key, empty where there is none. -/
def getList (d : Dict) (key : String) : List Val :=
  match d.lookup key with
  | some (.list xs) => xs
  | _ => []

/-- The answer about a report that failed. -/
def reportFailed (r : ReportState) (artifact : Dict) : Dict :=
  let issues := getList (getDict artifact "verification_result") "issues"
  let messages := issues.filterMap (fun issue =>
    match issue with
    | .dict kvs => some (getOr kvs "message" (.str ""))
    | _ => none)
  [("type", .str "report_failed"),
   ("title", getOr artifact "title" (.str "分析报告")),
   ("summary", .str "报告生成过程中发现部分数字无法与数据来源匹配，当前未导出正式报告。"),
   ("issues", .list messages),
   ("action", .str "regenerate"),
   ("report_id", getOr artifact "report_id" (.str "")),
   ("publish_status", .str (r.publishStatus.getD "draft")),
   ("needs_human_review", .bool (r.needsHumanReview.getD false))]

/-- Whether a value is the given text. -/
def isText (v : Val) (text : String) : Bool :=
  match v with
  | .str s => s == text
  | _ => false

/-- The answer about a report that was made. -/
def reportGenerated (r : ReportState) (artifact : Dict) : Dict :=
  let verification := getDict artifact "verification_result"
  let publishStatus := getOr artifact "publish_status" (.str "approved")
  let count := fun key => Val.int (getList artifact key).length
  [("type", .str "report_generated"),
   ("title", getOr artifact "title" (.str "分析报告")),
   ("summary", getOr artifact "summary" (.str r.summary)),
   ("download_url", .str r.downloadUrl),
   ("file_uri", .str r.fileUri),
   ("format", getOr artifact "format" (.str "markdown")),
   ("sections", count "sections"),
   ("charts", count "charts"),
   ("tables", count "tables"),
   ("report_id", getOr artifact "report_id" (.str "")),
   ("partial", .bool ((getOr artifact "partial" .none).truthy || r.isPartial)),
   ("verification", .dict [("passed", getOr verification "passed" (.bool false)),
     ("score", getOr verification "score" (.float 0 "0.0"))]),
   ("quality_score", r.qualityScore),
   ("publish_status", (r.publishStatus.map Val.str).getD publishStatus),
   ("needs_human_review",
     .bool (r.needsHumanReview.getD (isText publishStatus "pending_review"))),
   ("claim_count", .int r.claimCount),
   ("data_source_count", .int r.dataSourceCount),
   ("human_review", .dict r.humanReview)]

/-- The answer that announces a report, or the failure of one. -/
def buildReportResponse (r : ReportState) : Dict :=
  let artifact := r.artifacts.headD []
  let verification := getDict artifact "verification_result"
  if r.errorCode = "REPORT_VERIFICATION_FAILED" ∨
      (¬ verification.isEmpty ∧ ¬ (getOr verification "passed" (.bool true)).truthy) then
    reportFailed r artifact
  else reportGenerated r artifact

/-- The refusal in a language. -/
def getRejectionMessage : QueryLang → String
  | .zhCN => "抱歉，根据现有参考资料无法回答您的问题。建议您提供更多相关信息。"
  | .zhTW => "抱歉，根據現有參考資料無法回答您的問題。建議您提供更多相關資訊。"
  | .en => "I'm sorry, I cannot answer your question based on the available references. " ++
      "Please provide more relevant information."

/-- How the bare context is introduced. -/
def conservativeOpening : QueryLang → String
  | .zhCN => "根据现有参考资料，以下是相关信息：\n\n"
  | .zhTW => "根據現有參考資料，以下是相關資訊：\n\n"
  | .en => "Based on the available references, here is the relevant information:\n\n"

/-- The bare context as an answer. -/
def getConservativeAnswer (mergedContext : String) (queryLang : QueryLang) : String :=
  if mergedContext = "" then getRejectionMessage queryLang
  else conservativeOpening queryLang ++ take mergedContext 2000

/-- The answer the last node gives. A report comes first; a rejected or
    exhausted answer is replaced; anything else is the raw answer. -/
def finalAnswerText (s : AgentState) : String :=
  if ¬ s.report.artifacts.isEmpty then (Val.dict (buildReportResponse s.report)).dumps
  else
    match s.hallucinationAction with
    | .reject => getRejectionMessage s.queryLang
    | .exhausted => getConservativeAnswer s.mergedContext s.queryLang
    -- What the renderer or the fallback wrote before is not read.
    | .filter => s.generatedAnswer
    | _ => s.generatedAnswer

/-- The last node. -/
def finalAnswerNode (s : AgentState) : AgentState :=
  { s with finalAnswer := finalAnswerText s }

end FinalAnswer

end AgenticRag

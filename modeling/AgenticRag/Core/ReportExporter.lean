import AgenticRag.Core.ReportArtifact
import AgenticRag.Lib.Html

/-!
# The Report Exporter

A report as a text, in Markdown and in HTML. Both renderers go through the
report's fields in their own order and with their own defaults. Markdown is
put together line by line and takes the texts as they are. HTML fills a
template, and every text of the report goes through `escape` on its way there.

## Main definitions

* `renderMarkdown`: The report in Markdown.
* `exportReport`: The exporter.
-/

namespace AgenticRag

namespace Report

open Py

section Markdown

/-- A line of a Markdown table. -/
def markdownRow (cells : List String) : String :=
  "| " ++ join " | " cells ++ " |"

/-- A section in Markdown. -/
def renderMarkdownSection (sec : ReportSection) (includeRefs : Bool) : String :=
  let content := if sec.needsHumanReview then sec.content ++ "\n\n（需人工核实）" else sec.content
  let refs :=
    if includeRefs && !sec.evidenceRefs.isEmpty then
      ["> **引用依据**: " ++
        join ", " (sec.evidenceRefs.map (fun ref => "[" ++ ref ++ "](#" ++ ref ++ ")")), ""]
    else []
  let claims :=
    if sec.claimRefs.isEmpty then []
    else ["> 本章节关联 " ++ toString sec.claimRefs.length ++ " 个 Claim", ""]
  join "\n" (["## " ++ sec.title.getD "未命名章节", "", content, ""] ++ refs ++ claims)

/-- The line that says where a chart or a table comes from. -/
def markdownSource (refs : List String) : List String :=
  if refs.isEmpty then [] else ["", "> 来源: " ++ join ", " refs]

/-- A chart in Markdown. -/
def renderMarkdownChart (u : Unicode) (chart : ChartSpec) : String :=
  let cell := fun (row : Dict) (key : String) => (pyGet row key (.str "")).toStr u
  let body :=
    if chart.chartType.getD "table" = "kpi" then
      if chart.series.isEmpty then []
      else ["> " ++ join " | " (chart.series.map (fun s =>
        "**" ++ cell s "name" ++ "**: " ++ cell s "value"))]
    else
      match chart.data with
      | [] => ["（无数据）"]
      | first :: _ =>
          let columns := first.map Prod.fst
          [markdownRow columns, markdownRow (List.replicate columns.length "---")] ++
            (chart.data.take 20).map (fun row => markdownRow (columns.map (cell row)))
  join "\n" (["### " ++ chart.title.getD "图表", ""] ++ body ++ markdownSource chart.evidenceRefs ++
    [""])

/-- A table in Markdown. -/
def renderMarkdownTable (u : Unicode) (table : TableSpec) : String :=
  let body :=
    if table.columns.isEmpty || table.rows.isEmpty then ["（无数据）"]
    else
      [markdownRow table.columns, markdownRow (List.replicate table.columns.length "---")] ++
        (table.rows.take 50).map (fun row => markdownRow (row.map (Val.toStr u)))
  join "\n" (["### " ++ table.title.getD "数据表", ""] ++ body ++ markdownSource table.evidenceRefs ++
    [""])

/-- What a source was used for. -/
def usedFor (src : DataSourceRef) : String :=
  if src.usedBySections.isEmpty then "通用分析" else join "、" src.usedBySections

/-- A source in Markdown. -/
def markdownDataSource (src : DataSourceRef) : String :=
  if src.sourceType = "db" then
    "- 数据库：`" ++ src.dbId ++ "." ++ src.tableName ++ "`，查询 ID：`" ++ src.queryId ++
      "`，用于：" ++ usedFor src
  else if src.sourceType = "rag" then
    "- 知识库：`" ++ src.kbId ++ "`，文档：《" ++ src.docTitle ++ "》（doc_id: `" ++ src.docId ++
      "`，chunk_id: `" ++ src.chunkId ++ "`），用于：" ++ usedFor src
  else "- " ++ src.sourceType ++ " 来源"

/-- A claim in Markdown. -/
def markdownClaim (c : ReportClaim) : String :=
  let mark :=
    if c.supportStatus = "unsupported" then "（未经验证）"
    else if c.needsHumanReview then "（需人工核实）"
    else ""
  "- `" ++ c.claimId.getD "" ++ "` [" ++ c.claimType ++ "] " ++ take c.text 80 ++ mark ++
    " → refs: " ++ join ", " c.evidenceRefs

/-- The lines about the report that are not empty. -/
def markdownMetadata (a : ReportArtifact) : List String :=
  (if a.reportType = "" then [] else ["**报告类型**: " ++ a.reportType]) ++
  (if a.createdAt = "" then [] else ["**生成时间**: " ++ a.createdAt]) ++
  (if a.tenantId = "" then [] else ["**租户**: " ++ a.tenantId])

/-- The verification in Markdown. -/
def markdownVerification (vr : VerificationResult) : List String :=
  ["---", "## 验证结果", "", "- 验证通过: " ++ (if vr.passed then "是" else "否"),
    "- 质量分: " ++ fixed2 vr.score] ++
  (if vr.issues.isEmpty then [] else ["- 问题数: " ++ toString vr.issues.length]) ++ [""]

/-- The report in Markdown. -/
def renderMarkdown (u : Unicode) (a : ReportArtifact) (includeRefs : Bool) : String :=
  join "\n" (
    ["# " ++ a.title.getD "未命名报告", ""] ++
    (if (markdownMetadata a).isEmpty then [] else [join "  \n" (markdownMetadata a), ""]) ++
    (if a.summary = "" then [] else ["> **摘要**: " ++ a.summary, ""]) ++
    ["---", ""] ++
    a.sections.map (fun sec => renderMarkdownSection sec includeRefs) ++
    a.charts.map (renderMarkdownChart u) ++
    a.tables.map (renderMarkdownTable u) ++
    a.appendix.flatMap (fun app => ["## 附录: " ++ app.title.getD "未命名", "", app.content, ""]) ++
    (match a.verificationResult with
      | none => []
      | some vr => markdownVerification vr) ++
    (if includeRefs && !a.evidenceRefs.isEmpty then
      ["---", "## Evidence 引用", ""] ++ a.evidenceRefs.map (fun ref => "- `" ++ ref ++ "`") ++ [""]
    else []) ++
    (if a.dataSources.isEmpty then []
    else ["---", "## 数据来源", ""] ++ a.dataSources.map markdownDataSource ++ [""]) ++
    (if a.claims.isEmpty then []
    else ["---", "## Claim 血缘", ""] ++ a.claims.map markdownClaim ++ [""]))

end Markdown

section Html

open Html

/-- A text as paragraphs, with its line breaks. -/
def markdownToHtmlSafe (text : String) : String :=
  if text = "" then ""
  else
    join "" (((split (escape text) "\n\n").filter (fun p => strip p ≠ "")).map (fun p =>
      "<p>" ++ replace p "\n" "<br>" ++ "</p>"))

/-- References as code. -/
def htmlRefs (refs : List String) : String :=
  join " " (refs.map (fun ref => "<code>" ++ escape ref ++ "</code>"))

/-- The line that says what a part of the report rests on. -/
def htmlEvidence (label : String) (refs : List String) : String :=
  if refs.isEmpty then "" else "<div class=\"evidence\">" ++ label ++ ": " ++ htmlRefs refs ++ "</div>"

/-- A section in HTML. -/
def renderHtmlSection (sec : ReportSection) (includeRefs : Bool) : String :=
  "<div class=\"section\">" ++ "<h2>" ++ escape (sec.title.getD "未命名章节") ++ "</h2>" ++
    markdownToHtmlSafe sec.content ++
    (if includeRefs then htmlEvidence "<strong>引用依据</strong>" sec.evidenceRefs else "") ++ "</div>"

/-- A cell of a table between its tags. -/
def htmlCell (start stop text : String) : String :=
  start ++ escape text ++ stop

/-- A table with its headings. -/
def htmlTable (columns : List String) (rows : List (List String)) : String :=
  "<table><thead><tr>" ++ join "" (columns.map (htmlCell "<th>" "</th>")) ++ "</tr></thead><tbody>" ++
    join "" (rows.map (fun row =>
      "<tr>" ++ join "" (row.map (htmlCell "<td>" "</td>")) ++ "</tr>")) ++
    "</tbody></table>"

/-- A chart in HTML. -/
def renderHtmlChart (u : Unicode) (chart : ChartSpec) : String :=
  let cell := fun (row : Dict) (key : String) => (pyGet row key (.str "")).toStr u
  let inner :=
    if chart.chartType.getD "table" = "kpi" then
      if chart.series.isEmpty then ""
      else "<div class=\"kpi\">" ++ join " | " (chart.series.map (fun s =>
        "<strong>" ++ escape (cell s "name") ++ "</strong>: " ++ escape (cell s "value"))) ++ "</div>"
    else
      match chart.data with
      | [] => "<em>（无数据）</em>"
      | first :: _ =>
          let columns := first.map Prod.fst
          htmlTable columns ((chart.data.take 20).map (fun row => columns.map (cell row)))
  "<div class=\"chart\"><h3>" ++ escape (chart.title.getD "图表") ++ "</h3>" ++ inner ++
    htmlEvidence "来源" chart.evidenceRefs ++ "</div>"

/-- A table in HTML. -/
def renderHtmlTable (u : Unicode) (table : TableSpec) : String :=
  if table.columns.isEmpty || table.rows.isEmpty then
    "<div class=\"chart\"><h3>" ++ escape (table.title.getD "数据表") ++
      "</h3><em>（无数据）</em></div>"
  else
    "<div class=\"chart\"><h3>" ++ escape (table.title.getD "数据表") ++ "</h3>" ++
      htmlTable table.columns ((table.rows.take 50).map (fun row => row.map (Val.toStr u))) ++
      htmlEvidence "来源" table.evidenceRefs ++ "</div>"

/-- The line below the title. -/
def htmlMetadata (a : ReportArtifact) : String :=
  join " | " (
    (if a.reportType = "" then [] else ["报告类型: " ++ escape a.reportType]) ++
    (if a.createdAt = "" then [] else ["生成时间: " ++ escape a.createdAt]) ++
    (if a.tenantId = "" then [] else ["租户: " ++ escape a.tenantId]))

/-- The summary in HTML. -/
def htmlSummary (a : ReportArtifact) : String :=
  if a.summary = "" then ""
  else "<div class=\"summary\"><strong>摘要</strong>: " ++ markdownToHtmlSafe a.summary ++ "</div>"

/-- The verification in HTML. -/
def htmlVerification (a : ReportArtifact) (includeRefs : Bool) : String :=
  (match a.verificationResult with
    | none => ""
    | some vr =>
        "<p>验证: " ++ (if vr.passed then "通过" else "未通过") ++ " | 质量分: " ++ fixed2 vr.score ++
          " | 问题数: " ++ toString vr.issues.length ++ "</p>") ++
  (if includeRefs && !a.evidenceRefs.isEmpty then
    "<p>Evidence 引用: " ++ htmlRefs a.evidenceRefs ++ "</p>"
  else "")

/-- What a source was used for. -/
def htmlUsedFor (src : DataSourceRef) : String :=
  if src.usedBySections.isEmpty then "通用分析" else escape (join "、" src.usedBySections)

/-- A source in HTML. -/
def htmlDataSource (src : DataSourceRef) : String :=
  if src.sourceType = "db" then
    "<li>数据库 <code>" ++ escape src.dbId ++ "." ++ escape src.tableName ++ "</code>，查询 ID <code>" ++
      escape src.queryId ++ "</code>，用于：" ++ htmlUsedFor src ++ "</li>"
  else if src.sourceType = "rag" then
    "<li>知识库 <code>" ++ escape src.kbId ++ "</code>，文档《<code>" ++ escape src.docTitle ++
      "</code>》（doc_id <code>" ++ escape src.docId ++ "</code>，chunk_id <code>" ++
      escape src.chunkId ++ "</code>），用于：" ++ htmlUsedFor src ++ "</li>"
  else "<li>" ++ escape src.sourceType ++ " 来源</li>"

/-- The sources in HTML. -/
def htmlDataSources (a : ReportArtifact) : String :=
  if a.dataSources.isEmpty then ""
  else
    "<details class=\"data-sources\"><summary>数据来源</summary><ul>" ++
      join "" (a.dataSources.map htmlDataSource) ++ "</ul></details>"

/-- A claim in HTML. -/
def htmlClaim (c : ReportClaim) : String :=
  let mark :=
    if c.supportStatus = "unsupported" then "<span class=\"unverified\">（未经验证）</span>"
    else if c.needsHumanReview then "<span class=\"needs-review\">（需人工核实）</span>"
    else ""
  "<li><code>" ++ escape (c.claimId.getD "") ++ "</code> [" ++ escape c.claimType ++ "] " ++
    escape (take c.text 80) ++ " " ++ mark ++ " → refs: " ++ htmlRefs c.evidenceRefs ++ "</li>"

/-- The claims in HTML. -/
def htmlClaims (a : ReportArtifact) : String :=
  if a.claims.isEmpty then ""
  else
    "<details class=\"claim-lineage\"><summary>Claim 血缘</summary><ul>" ++
      join "" (a.claims.map htmlClaim) ++ "</ul></details>"

/-- The body of the page. -/
def htmlContent (u : Unicode) (a : ReportArtifact) (includeRefs : Bool) : String :=
  join "\n" (a.sections.map (fun sec => renderHtmlSection sec includeRefs) ++
    a.charts.map (renderHtmlChart u) ++ a.tables.map (renderHtmlTable u)) ++
  htmlDataSources a ++ htmlClaims a

/-- The rules of the page's style. -/
def htmlStyle : List String :=
  ["body \x7b font-family: -apple-system, \"Helvetica Neue\", \"Microsoft YaHei\", sans-serif; " ++
    "max-width: 960px; margin: 24px auto; padding: 0 16px; color: #1a1a1a; line-height: 1.6; \x7d\n",
   "h1, h2, h3 \x7b color: #2c3e50; \x7d\n",
   "h1 \x7b border-bottom: 2px solid #2c3e50; padding-bottom: 8px; \x7d\n",
   "h2 \x7b border-bottom: 1px solid #ddd; padding-bottom: 4px; margin-top: 32px; \x7d\n",
   ".meta \x7b color: #666; font-size: 0.9em; margin-bottom: 24px; \x7d\n",
   ".summary \x7b background: #f5f7fa; border-left: 4px solid #4a90e2; padding: 12px 16px; " ++
    "margin: 16px 0; \x7d\n",
   ".evidence \x7b background: #fafafa; padding: 8px 12px; margin: 8px 0; font-size: 0.9em; " ++
    "color: #555; border-left: 2px solid #ddd; \x7d\n",
   "table \x7b border-collapse: collapse; width: 100%; margin: 16px 0; \x7d\n",
   "th, td \x7b border: 1px solid #ddd; padding: 8px; text-align: left; \x7d\n",
   "th \x7b background: #f5f7fa; \x7d\n",
   ".section \x7b margin: 24px 0; \x7d\n",
   ".chart \x7b background: #fafbfc; padding: 12px; margin: 16px 0; border: 1px solid #eee; \x7d\n",
   ".kpi \x7b font-size: 1.1em; padding: 8px 0; \x7d\n",
   ".footnote \x7b color: #888; font-size: 0.85em; margin-top: 32px; border-top: 1px solid #eee; " ++
    "padding-top: 16px; \x7d\n",
   ".unverified \x7b color: #d9534f; font-size: 0.85em; font-weight: bold; \x7d\n",
   ".needs-review \x7b color: #f0ad4e; font-size: 0.85em; font-weight: bold; \x7d\n",
   ".data-sources, .claim-lineage \x7b background: #fafbfc; border: 1px solid #eee; " ++
    "padding: 8px 12px; margin: 16px 0; \x7d\n",
   ".data-sources summary, .claim-lineage summary \x7b cursor: pointer; font-weight: bold; " ++
    "color: #2c3e50; \x7d\n"]

/-- The page, with a field for everything that is filled in. -/
def htmlTemplate : List TemplatePart :=
  [.text "<!DOCTYPE html>\n<html lang=\"", .field "language", .text "\">\n<head>\n",
   .text "<meta charset=\"UTF-8\">\n",
   .text ("<meta http-equiv=\"Content-Security-Policy\" content=\"default-src 'self'; " ++
    "script-src 'none'; style-src 'self' 'unsafe-inline'; img-src 'self' data:;\">\n"),
   .text "<title>", .field "title", .text "</title>\n<style>\n"] ++
  htmlStyle.map .text ++
  [.text "</style>\n</head>\n<body>\n<h1>", .field "safe_title",
   .text "</h1>\n<div class=\"meta\">\n", .field "metadata_html", .text "\n</div>\n",
   .field "summary_html", .text "\n", .field "content_html",
   .text "\n<div class=\"footnote\">\n<p>报告 ID: <code>", .field "report_id",
   .text "</code> | 生成时间: ", .field "created_at", .text "</p>\n", .field "verification_html",
   .text "\n</div>\n</body>\n</html>\n"]

/-- The values of the fields. -/
def htmlFields (u : Unicode) (a : ReportArtifact) (includeRefs : Bool) : List (String × String) :=
  [("language", escape (a.language.getD "zh_CN")),
   ("title", escape (a.title.getD "未命名报告")),
   ("safe_title", escape (a.title.getD "未命名报告")),
   ("metadata_html", htmlMetadata a),
   ("summary_html", htmlSummary a),
   ("content_html", htmlContent u a includeRefs),
   ("report_id", escape a.reportId),
   ("created_at", escape a.createdAt),
   ("verification_html", htmlVerification a includeRefs)]

/-- The report in HTML. -/
def renderHtml (u : Unicode) (a : ReportArtifact) (includeRefs : Bool) : Except Exc String :=
  format htmlTemplate (htmlFields u a includeRefs)

end Html

/-- The exporter: the text of the report and the extension of its file. -/
def exportReport (u : Unicode) (a : ReportArtifact) (fmt : String) :
    Except Exc (String × String) :=
  let fmt := u.lower fmt
  if fmt = "markdown" ∨ fmt = "md" then .ok (renderMarkdown u a true, "md")
  else if fmt = "html" then (renderHtml u a true).map (·, "html")
  else .error .valueError

end Report

end AgenticRag

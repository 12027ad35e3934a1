import AgenticRag.Core.ReportExporter
import AgenticRag.Lib.Pieces

/-!
# The Pieces of a Rendered Report

Where each part of a rendered report comes from. The renderers put texts of
the report between texts of their own; here the same is written as lists of
pieces, in which a text of the report names the field it was taken from, and
the text of the pieces is shown to be what the renderers write.

A section's text becomes paragraphs in HTML. Each line of it is a piece, and
the tags between the lines are the renderer's own.

## Main definitions

* `Field`: The fields of a report that are printed.
* `titlesAndData`: The contents of a report that are printed, other than its
  summary, the texts of its sections and the cells of its tables.

## Theorems

* `flat_markdownPieces`, `flat_htmlPieces`: The pieces make up the text the
  renderers write.
* `every_pageRest`: A property of every piece of a page.
-/

namespace AgenticRag

namespace Report

open Py Html

/-- The fields of a report that are printed. -/
inductive Field where
  | language
  | title
  | metadata
  | summary
  | sectionTitle
  | sectionText
  | chartTitle
  | chartData
  | kpi
  | tableTitle
  | tableColumn
  | tableCell
  | appendixTitle
  | appendixText
  | reference
  | dataSource
  | claimLabel
  | claimText
  | reportId
  deriving DecidableEq, Repr

/-- A title, or the text that stands for a missing one. -/
def titlePiece (field : Field) (title : Option String) (fallback : String) : Piece Field :=
  match title with
  | some s => .user field s
  | none => .own fallback

@[simp] theorem flat_titlePiece (field : Field) (title : Option String) (fallback : String)
    (ps : List (Piece Field)) :
    flat (titlePiece field title fallback :: ps) = title.getD fallback ++ flat ps := by
  cases title <;> rfl

/-- The fields that are contents of the report: its titles and texts, its
    data, its claims and its sources. -/
def Field.isContent : Field → Bool
  | .language => false
  | .metadata => false
  | .reference => false
  | .claimLabel => false
  | .reportId => false
  | _ => true

section Markdown

/-- A line of a Markdown table. -/
def rowPieces (cells : List (Piece Field)) : List (Piece Field) :=
  [.own "| "] ++ joined [.own " | "] (cells.map ([·])) ++ [.own " |"]

theorem flat_rowPieces (cells : List (Piece Field)) :
    flat (rowPieces cells) = markdownRow (cells.map Piece.text) := by
  have hcell : (cells.map ([·])).map flat = cells.map Piece.text := by
    rw [List.map_map]
    exact List.map_congr_left (fun p _ => by
      show p.text ++ "" = p.text
      rw [String.append_empty])
  simp only [rowPieces, markdownRow, flat_append, flat_joined, hcell, flat_own, flat_nil,
    String.append_empty]

/-- The texts of a list, with a separator between them. -/
def listPieces (field : Field) (sep : String) (texts : List String) : List (Piece Field) :=
  joined [.own sep] (texts.map (fun s => [.user field s]))

theorem flat_listPieces (field : Field) (sep : String) (texts : List String) :
    flat (listPieces field sep texts) = join sep texts := by
  have htexts : (texts.map (fun s => [Piece.user field s])).map flat = texts := by
    rw [List.map_map]
    conv_rhs => rw [← List.map_id texts]
    exact List.map_congr_left (fun s _ => String.append_empty)
  rw [listPieces, flat_joined, htexts, flat_own, flat_nil, String.append_empty]

/-- The reference to a piece of evidence, as a link. -/
def linkPieces (ref : String) : List (Piece Field) :=
  [.own "[", .user .reference ref, .own "](#", .user .reference ref, .own ")"]

/-- The lines of a section. -/
def markdownSectionLines (sec : ReportSection) (includeRefs : Bool) : List (List (Piece Field)) :=
  [[.own "## ", titlePiece .sectionTitle sec.title "未命名章节"], [],
    .user .sectionText sec.content ::
      (if sec.needsHumanReview then [.own "\n\n（需人工核实）"] else []), []] ++
  (if includeRefs && !sec.evidenceRefs.isEmpty then
    [.own "> **引用依据**: " :: joined [.own ", "] (sec.evidenceRefs.map linkPieces), []]
  else []) ++
  (if sec.claimRefs.isEmpty then []
  else [[.own ("> 本章节关联 " ++ toString sec.claimRefs.length ++ " 个 Claim")], []])

/-- The lines of some references. -/
def sourceLines (refs : List String) : List (List (Piece Field)) :=
  if refs.isEmpty then [] else [[], .own "> 来源: " :: listPieces .reference ", " refs]

/-- The text of a cell of a chart. -/
def chartCell (u : Unicode) (row : Dict) (key : String) : String :=
  (pyGet row key (.str "")).toStr u

/-- The pieces of a figure. -/
def markdownKpi (u : Unicode) (s : Dict) : List (Piece Field) :=
  [.own "**", .user .kpi (chartCell u s "name"), .own "**: ", .user .kpi (chartCell u s "value")]

/-- The lines within a chart. -/
def markdownChartBody (u : Unicode) (chart : ChartSpec) : List (List (Piece Field)) :=
  if chart.chartType.getD "table" = "kpi" then
    if chart.series.isEmpty then []
    else [.own "> " :: joined [.own " | "] (chart.series.map (markdownKpi u))]
  else
    match chart.data with
    | [] => [[.own "（无数据）"]]
    | first :: _ =>
        let columns := first.map Prod.fst
        [rowPieces (columns.map (.user .chartData)),
          rowPieces (List.replicate columns.length (.own "---"))] ++
          (chart.data.take 20).map (fun row =>
            rowPieces (columns.map (fun key => .user .chartData (chartCell u row key))))

/-- The lines of a chart. -/
def markdownChartLines (u : Unicode) (chart : ChartSpec) : List (List (Piece Field)) :=
  [[.own "### ", titlePiece .chartTitle chart.title "图表"], []] ++ markdownChartBody u chart ++
    sourceLines chart.evidenceRefs ++ [[]]

/-- The lines of a table. -/
def markdownTableLines (u : Unicode) (table : TableSpec) : List (List (Piece Field)) :=
  [[.own "### ", titlePiece .tableTitle table.title "数据表"], []] ++
  (if table.columns.isEmpty || table.rows.isEmpty then [[.own "（无数据）"]]
  else
    [rowPieces (table.columns.map (.user .tableColumn)),
      rowPieces (List.replicate table.columns.length (.own "---"))] ++
      (table.rows.take 50).map (fun row =>
        rowPieces (row.map (fun cell => .user .tableCell (cell.toStr u))))) ++
  sourceLines table.evidenceRefs ++ [[]]

/-- What a source is used for. -/
def usedForPieces (src : DataSourceRef) : List (Piece Field) :=
  if src.usedBySections.isEmpty then [.own "通用分析"]
  else listPieces .dataSource "、" src.usedBySections

/-- The pieces of a source. -/
def markdownSourcePieces (src : DataSourceRef) : List (Piece Field) :=
  if src.sourceType = "db" then
    [.own "- 数据库：`", .user .dataSource src.dbId, .own ".", .user .dataSource src.tableName,
      .own "`，查询 ID：`", .user .dataSource src.queryId, .own "`，用于："] ++ usedForPieces src
  else if src.sourceType = "rag" then
    [.own "- 知识库：`", .user .dataSource src.kbId, .own "`，文档：《",
      .user .dataSource src.docTitle, .own "》（doc_id: `", .user .dataSource src.docId,
      .own "`，chunk_id: `", .user .dataSource src.chunkId, .own "`），用于："] ++ usedForPieces src
  else [.own "- ", .user .dataSource src.sourceType, .own " 来源"]

/-- The pieces of a claim. -/
def markdownClaimPieces (c : ReportClaim) : List (Piece Field) :=
  [.own "- `", .user .claimLabel (c.claimId.getD ""), .own "` [", .user .claimLabel c.claimType,
    .own "] ", .user .claimText (take c.text 80),
    .own (if c.supportStatus = "unsupported" then "（未经验证）"
      else if c.needsHumanReview then "（需人工核实）"
      else ""),
    .own " → refs: "] ++ listPieces .reference ", " c.evidenceRefs

/-- The lines below the title. -/
def markdownMetadataLines (a : ReportArtifact) : List (List (Piece Field)) :=
  (if a.reportType = "" then [] else [[.own "**报告类型**: ", .user .metadata a.reportType]]) ++
  (if a.createdAt = "" then [] else [[.own "**生成时间**: ", .user .metadata a.createdAt]]) ++
  (if a.tenantId = "" then [] else [[.own "**租户**: ", .user .metadata a.tenantId]])

/-- The lines of the report in Markdown, in pieces. -/
def markdownLines (u : Unicode) (a : ReportArtifact) (includeRefs : Bool) :
    List (List (Piece Field)) :=
  [[.own "# ", titlePiece .title a.title "未命名报告"], []] ++
  (if (markdownMetadataLines a).isEmpty then []
  else [joined [.own "  \n"] (markdownMetadataLines a), []]) ++
  (if a.summary = "" then [] else [[.own "> **摘要**: ", .user .summary a.summary], []]) ++
  [[.own "---"], []] ++
  a.sections.map (fun sec => joined [.own "\n"] (markdownSectionLines sec includeRefs)) ++
  a.charts.map (fun chart => joined [.own "\n"] (markdownChartLines u chart)) ++
  a.tables.map (fun table => joined [.own "\n"] (markdownTableLines u table)) ++
  a.appendix.flatMap (fun app =>
    [[.own "## 附录: ", titlePiece .appendixTitle app.title "未命名"], [],
      [.user .appendixText app.content], []]) ++
  (match a.verificationResult with
    | none => []
    | some vr => (markdownVerification vr).map (fun line => [.own line])) ++
  (if includeRefs && !a.evidenceRefs.isEmpty then
    [[.own "---"], [.own "## Evidence 引用"], []] ++
      a.evidenceRefs.map (fun ref => [.own "- `", .user .reference ref, .own "`"]) ++ [[]]
  else []) ++
  (if a.dataSources.isEmpty then []
  else [[.own "---"], [.own "## 数据来源"], []] ++ a.dataSources.map markdownSourcePieces ++ [[]]) ++
  (if a.claims.isEmpty then []
  else [[.own "---"], [.own "## Claim 血缘"], []] ++ a.claims.map markdownClaimPieces ++ [[]])

/-- The pieces of a report. -/
def markdownPieces (u : Unicode) (a : ReportArtifact) (includeRefs : Bool) : List (Piece Field) :=
  joined [.own "\n"] (markdownLines u a includeRefs)

/-- Lines in pieces, joined into a text. -/
theorem flat_lines (lines : List (List (Piece Field))) :
    flat (joined [.own "\n"] lines) = join "\n" (lines.map flat) := by
  rw [flat_joined, flat_own, flat_nil, String.append_empty]

theorem flat_section (sec : ReportSection) (includeRefs : Bool) :
    flat (joined [.own "\n"] (markdownSectionLines sec includeRefs)) =
      renderMarkdownSection sec includeRefs := by
  have hlink : sec.evidenceRefs.map (fun ref => flat (linkPieces ref)) =
      sec.evidenceRefs.map (fun ref => "[" ++ ref ++ "](#" ++ ref ++ ")") :=
    List.map_congr_left (fun ref _ => by simp [linkPieces, String.append_assoc])
  rw [flat_lines, renderMarkdownSection, markdownSectionLines]
  congr 1
  split <;> split <;> split <;> simp [List.map_map, Function.comp_def, hlink]

theorem flat_sourceLines (refs : List String) :
    (sourceLines refs).map flat = markdownSource refs := by
  rw [sourceLines, markdownSource]
  split <;> simp [flat_listPieces]

theorem flat_chart (u : Unicode) (chart : ChartSpec) :
    flat (joined [.own "\n"] (markdownChartLines u chart)) = renderMarkdownChart u chart := by
  rw [flat_lines, renderMarkdownChart, markdownChartLines, markdownChartBody]
  congr 1
  split
  · split <;> simp [List.map_map, Function.comp_def, flat_sourceLines, markdownKpi, chartCell,
      String.append_assoc]
  · cases chart.data <;> simp [List.map_map, Function.comp_def, flat_sourceLines, flat_rowPieces,
      chartCell, Piece.text]

theorem flat_table (u : Unicode) (table : TableSpec) :
    flat (joined [.own "\n"] (markdownTableLines u table)) = renderMarkdownTable u table := by
  rw [flat_lines, renderMarkdownTable, markdownTableLines]
  congr 1
  split <;> simp [List.map_map, Function.comp_def, flat_sourceLines, flat_rowPieces, Piece.text]

theorem flat_usedFor (src : DataSourceRef) : flat (usedForPieces src) = usedFor src := by
  rw [usedForPieces, usedFor]
  split
  · rw [flat_own, flat_nil, String.append_empty]
  · exact flat_listPieces _ _ _

theorem flat_source (src : DataSourceRef) :
    flat (markdownSourcePieces src) = markdownDataSource src := by
  rw [markdownSourcePieces, markdownDataSource]
  split
  · simp [flat_usedFor, String.append_assoc]
  · split <;> simp [flat_usedFor, String.append_assoc]

theorem flat_claim (c : ReportClaim) : flat (markdownClaimPieces c) = markdownClaim c := by
  simp [markdownClaimPieces, markdownClaim, flat_listPieces, String.append_assoc]

theorem flat_metadata (a : ReportArtifact) :
    (markdownMetadataLines a).map flat = markdownMetadata a := by
  rw [markdownMetadataLines, markdownMetadata]
  split <;> split <;> split <;> simp

/-- The pieces make up the report in Markdown. -/
theorem flat_markdownPieces (u : Unicode) (a : ReportArtifact) (includeRefs : Bool) :
    flat (markdownPieces u a includeRefs) = renderMarkdown u a includeRefs := by
  have hmeta : (markdownMetadataLines a).isEmpty = (markdownMetadata a).isEmpty := by
    rw [← flat_metadata, List.isEmpty_map]
  have happendix : (a.appendix.flatMap (fun app => [[.own "## 附录: ",
        titlePiece .appendixTitle app.title "未命名"], [], [.user .appendixText app.content], []])).map
        flat =
      a.appendix.flatMap (fun app => ["## 附录: " ++ app.title.getD "未命名", "", app.content, ""]) := by
    simp [List.map_flatMap]
  have hverification : (match a.verificationResult with
        | none => []
        | some vr => (markdownVerification vr).map (fun line => [Piece.own (κ := Field) line])).map
        flat =
      (match a.verificationResult with
        | none => []
        | some vr => markdownVerification vr) := by
    cases a.verificationResult <;> simp [Function.comp_def]
  have hmetadata : flat (joined [.own "  \n"] (markdownMetadataLines a)) =
      join "  \n" (markdownMetadata a) := by
    rw [flat_joined, flat_metadata, flat_own, flat_nil, String.append_empty]
  rw [markdownPieces, flat_lines, renderMarkdown, markdownLines]
  simp only [List.map_append, happendix, hverification, hmeta]
  congr 1
  cases a.verificationResult <;>
    simp [-flat_joined, apply_ite (List.map flat), List.map_map, Function.comp_def, flat_section,
      flat_chart, flat_table, flat_source, flat_claim, hmetadata, String.append_assoc]

end Markdown

section Html

/-- A text of the report on a page. -/
def escaped (field : Field) (s : String) : Piece Field :=
  .user field (escape s)

/-- A title on a page, or the text that stands for a missing one. -/
def escapedTitle (field : Field) (title : Option String) (fallback : String) : Piece Field :=
  match title with
  | some s => escaped field s
  | none => .own fallback

/-- A paragraph: its lines, with a break between them. -/
def paragraphPieces (field : Field) (p : String) : List (Piece Field) :=
  [.own "<p>"] ++ joined [.own "<br>"] ((split p "\n").map (fun line => [.user field line])) ++
    [.own "</p>"]

/-- A text as paragraphs. -/
def safePieces (field : Field) (text : String) : List (Piece Field) :=
  if text = "" then []
  else
    ((split (escape text) "\n\n").filter (fun p => strip p ≠ "")).flatMap (paragraphPieces field)

/-- The pieces of a reference. -/
def codePieces (ref : String) : List (Piece Field) :=
  [.own "<code>", escaped .reference ref, .own "</code>"]

/-- The pieces of some references. -/
def htmlRefPieces (refs : List String) : List (Piece Field) :=
  joined [.own " "] (refs.map codePieces)

/-- The pieces of the evidence. -/
def evidencePieces (label : String) (refs : List String) : List (Piece Field) :=
  if refs.isEmpty then []
  else
    [.own "<div class=\"evidence\">", .own label, .own ": "] ++ htmlRefPieces refs ++ [.own "</div>"]

/-- The pieces of a section. -/
def htmlSectionPieces (sec : ReportSection) (includeRefs : Bool) : List (Piece Field) :=
  [.own "<div class=\"section\">", .own "<h2>", escapedTitle .sectionTitle sec.title "未命名章节",
    .own "</h2>"] ++ safePieces .sectionText sec.content ++
  (if includeRefs then evidencePieces "<strong>引用依据</strong>" sec.evidenceRefs else []) ++
  [.own "</div>"]

/-- A cell of a table, with its tags. -/
def cellPieces (start stop : String) (field : Field) (text : String) : List (Piece Field) :=
  [.own start, escaped field text, .own stop]

/-- A table with its headings. -/
def tablePieces (heading cell : Field) (columns : List String) (rows : List (List String)) :
    List (Piece Field) :=
  [.own "<table><thead><tr>"] ++ columns.flatMap (cellPieces "<th>" "</th>" heading) ++
    [.own "</tr></thead><tbody>"] ++
    rows.flatMap (fun row =>
      [.own "<tr>"] ++ row.flatMap (cellPieces "<td>" "</td>" cell) ++ [.own "</tr>"]) ++
    [.own "</tbody></table>"]

/-- The pieces of a figure. -/
def htmlKpi (u : Unicode) (s : Dict) : List (Piece Field) :=
  [.own "<strong>", escaped .kpi (chartCell u s "name"), .own "</strong>: ",
    escaped .kpi (chartCell u s "value")]

/-- The pieces within a chart. -/
def htmlChartBody (u : Unicode) (chart : ChartSpec) : List (Piece Field) :=
  if chart.chartType.getD "table" = "kpi" then
    if chart.series.isEmpty then []
    else
      [.own "<div class=\"kpi\">"] ++ joined [.own " | "] (chart.series.map (htmlKpi u)) ++
        [.own "</div>"]
  else
    match chart.data with
    | [] => [.own "<em>（无数据）</em>"]
    | first :: _ =>
        let columns := first.map Prod.fst
        tablePieces .chartData .chartData columns
          ((chart.data.take 20).map (fun row => columns.map (chartCell u row)))

/-- The pieces of a chart. -/
def htmlChartPieces (u : Unicode) (chart : ChartSpec) : List (Piece Field) :=
  [.own "<div class=\"chart\"><h3>", escapedTitle .chartTitle chart.title "图表", .own "</h3>"] ++
    htmlChartBody u chart ++ evidencePieces "来源" chart.evidenceRefs ++ [.own "</div>"]

/-- The pieces of a table. -/
def htmlTablePieces (u : Unicode) (table : TableSpec) : List (Piece Field) :=
  [.own "<div class=\"chart\"><h3>", escapedTitle .tableTitle table.title "数据表", .own "</h3>"] ++
  (if table.columns.isEmpty || table.rows.isEmpty then [.own "<em>（无数据）</em>"]
  else
    tablePieces .tableColumn .tableCell table.columns
      ((table.rows.take 50).map (fun row => row.map (Val.toStr u))) ++
      evidencePieces "来源" table.evidenceRefs) ++
  [.own "</div>"]

/-- The pieces below the title. -/
def htmlMetadataPieces (a : ReportArtifact) : List (Piece Field) :=
  joined [.own " | "] (
    (if a.reportType = "" then [] else [[.own "报告类型: ", escaped .metadata a.reportType]]) ++
    (if a.createdAt = "" then [] else [[.own "生成时间: ", escaped .metadata a.createdAt]]) ++
    (if a.tenantId = "" then [] else [[.own "租户: ", escaped .metadata a.tenantId]]))

/-- The pieces of the summary. -/
def htmlSummaryPieces (a : ReportArtifact) : List (Piece Field) :=
  if a.summary = "" then []
  else
    [.own "<div class=\"summary\"><strong>摘要</strong>: "] ++ safePieces .summary a.summary ++
      [.own "</div>"]

/-- The pieces of the verification. -/
def htmlVerificationPieces (a : ReportArtifact) (includeRefs : Bool) : List (Piece Field) :=
  (match a.verificationResult with
    | none => []
    | some vr =>
        [.own "<p>验证: ", .own (if vr.passed then "通过" else "未通过"), .own " | 质量分: ",
          .own (fixed2 vr.score), .own " | 问题数: ", .own (toString vr.issues.length),
          .own "</p>"]) ++
  (if includeRefs && !a.evidenceRefs.isEmpty then
    [.own "<p>Evidence 引用: "] ++ htmlRefPieces a.evidenceRefs ++ [.own "</p>"]
  else [])

/-- What a source is used for. -/
def htmlUsedForPieces (src : DataSourceRef) : List (Piece Field) :=
  if src.usedBySections.isEmpty then [.own "通用分析"]
  else [escaped .dataSource (join "、" src.usedBySections)]

/-- The pieces of a source. -/
def htmlSourcePieces (src : DataSourceRef) : List (Piece Field) :=
  if src.sourceType = "db" then
    [.own "<li>数据库 <code>", escaped .dataSource src.dbId, .own ".",
      escaped .dataSource src.tableName, .own "</code>，查询 ID <code>",
      escaped .dataSource src.queryId, .own "</code>，用于："] ++ htmlUsedForPieces src ++
      [.own "</li>"]
  else if src.sourceType = "rag" then
    [.own "<li>知识库 <code>", escaped .dataSource src.kbId, .own "</code>，文档《<code>",
      escaped .dataSource src.docTitle, .own "</code>》（doc_id <code>",
      escaped .dataSource src.docId, .own "</code>，chunk_id <code>",
      escaped .dataSource src.chunkId, .own "</code>），用于："] ++ htmlUsedForPieces src ++
      [.own "</li>"]
  else [.own "<li>", escaped .dataSource src.sourceType, .own " 来源</li>"]

/-- The pieces of the sources. -/
def htmlSourcesPieces (a : ReportArtifact) : List (Piece Field) :=
  if a.dataSources.isEmpty then []
  else
    [.own "<details class=\"data-sources\"><summary>数据来源</summary><ul>"] ++
      a.dataSources.flatMap htmlSourcePieces ++ [.own "</ul></details>"]

/-- The pieces of a claim. -/
def htmlClaimPieces (c : ReportClaim) : List (Piece Field) :=
  [.own "<li><code>", escaped .claimLabel (c.claimId.getD ""), .own "</code> [",
    escaped .claimLabel c.claimType, .own "] ", escaped .claimText (take c.text 80), .own " ",
    .own (if c.supportStatus = "unsupported" then "<span class=\"unverified\">（未经验证）</span>"
      else if c.needsHumanReview then "<span class=\"needs-review\">（需人工核实）</span>"
      else ""),
    .own " → refs: "] ++ htmlRefPieces c.evidenceRefs ++ [.own "</li>"]

/-- The pieces of the claims. -/
def htmlClaimsPieces (a : ReportArtifact) : List (Piece Field) :=
  if a.claims.isEmpty then []
  else
    [.own "<details class=\"claim-lineage\"><summary>Claim 血缘</summary><ul>"] ++
      a.claims.flatMap htmlClaimPieces ++ [.own "</ul></details>"]

/-- The pieces of the body. -/
def htmlContentPieces (u : Unicode) (a : ReportArtifact) (includeRefs : Bool) :
    List (Piece Field) :=
  joined [.own "\n"] (a.sections.map (fun sec => htmlSectionPieces sec includeRefs) ++
    a.charts.map (htmlChartPieces u) ++ a.tables.map (htmlTablePieces u)) ++
  htmlSourcesPieces a ++ htmlClaimsPieces a

/-- The page up to the language it is in. -/
def pageStart : List (Piece Field) :=
  [.own "<!DOCTYPE html>\n<html lang=\""]

/-- The page behind the language it is in. -/
def pageRest (u : Unicode) (a : ReportArtifact) (includeRefs : Bool) : List (Piece Field) :=
  [.own "<meta charset=\"UTF-8\">\n",
    .own ("<meta http-equiv=\"Content-Security-Policy\" content=\"default-src 'self'; " ++
      "script-src 'none'; style-src 'self' 'unsafe-inline'; img-src 'self' data:;\">\n"),
    .own "<title>", escapedTitle .title a.title "未命名报告", .own "</title>\n<style>\n"] ++
  htmlStyle.map .own ++
  [.own "</style>\n</head>\n<body>\n<h1>", escapedTitle .title a.title "未命名报告",
    .own "</h1>\n<div class=\"meta\">\n"] ++ htmlMetadataPieces a ++ [.own "\n</div>\n"] ++
  htmlSummaryPieces a ++ [.own "\n"] ++ htmlContentPieces u a includeRefs ++
  [.own "\n<div class=\"footnote\">\n<p>报告 ID: <code>", escaped .reportId a.reportId,
    .own "</code> | 生成时间: ", escaped .metadata a.createdAt, .own "</p>\n"] ++
  htmlVerificationPieces a includeRefs ++ [.own "\n</div>\n</body>\n</html>\n"]

/-- The report in HTML, in pieces. -/
def htmlPieces (u : Unicode) (a : ReportArtifact) (includeRefs : Bool) : List (Piece Field) :=
  pageStart ++ [escapedTitle .language a.language "zh_CN"] ++ [.own "\">\n<head>\n"] ++
    pageRest u a includeRefs

@[simp] theorem flat_escaped (field : Field) (s : String) (ps : List (Piece Field)) :
    flat (escaped field s :: ps) = escape s ++ flat ps := rfl

theorem flat_escapedTitle (field : Field) (title : Option String) {fallback : String}
    (hkept : escape fallback = fallback) (ps : List (Piece Field)) :
    flat (escapedTitle field title fallback :: ps) = escape (title.getD fallback) ++ flat ps := by
  cases title with
  | none => rw [escapedTitle, flat_own, Option.getD_none, hkept]
  | some s => rfl

theorem flat_safe (field : Field) (text : String) :
    flat (safePieces field text) = markdownToHtmlSafe text := by
  have hparagraph : ∀ p, flat (paragraphPieces field p) =
      "<p>" ++ replace p "\n" "<br>" ++ "</p>" := by
    intro p
    -- Every line of a paragraph is a piece, with a break of the page in between.
    have hlines : ((split p "\n").map (fun line => [Piece.user field line])).map flat =
        split p "\n" := by
      rw [List.map_map]
      conv_rhs => rw [← List.map_id (split p "\n")]
      exact List.map_congr_left (fun s _ => String.append_empty)
    rw [replace_eq_join_split p "<br>" (by decide)]
    simp [paragraphPieces, -List.map_map, hlines, String.append_assoc]
  rw [safePieces, markdownToHtmlSafe]
  split
  · rfl
  · rw [flat_flatMap]
    simp only [hparagraph]

theorem flat_htmlRefs (refs : List String) : flat (htmlRefPieces refs) = htmlRefs refs := by
  simp [htmlRefPieces, htmlRefs, codePieces, Function.comp_def, String.append_assoc]

theorem flat_evidence (label : String) (refs : List String) :
    flat (evidencePieces label refs) = htmlEvidence label refs := by
  rw [evidencePieces]
  delta htmlEvidence
  split <;> simp [flat_htmlRefs, String.append_assoc]

theorem flat_htmlSection (sec : ReportSection) (includeRefs : Bool) :
    flat (htmlSectionPieces sec includeRefs) = renderHtmlSection sec includeRefs := by
  have hkept : escape "未命名章节" = "未命名章节" := by decide
  rw [htmlSectionPieces]
  delta renderHtmlSection
  split <;> simp [-String.reduceAppend, flat_escapedTitle _ _ hkept, flat_safe, flat_evidence,
    String.append_assoc]

theorem flat_htmlTable (heading cell : Field) (columns : List String) (rows : List (List String)) :
    flat (tablePieces heading cell columns rows) = htmlTable columns rows := by
  have hcell : ∀ start stop, htmlCell start stop = fun text => start ++ escape text ++ stop :=
    fun _ _ => rfl
  rw [tablePieces]
  delta htmlTable
  simp [cellPieces, hcell, String.append_assoc]

theorem flat_htmlChart (u : Unicode) (chart : ChartSpec) :
    flat (htmlChartPieces u chart) = renderHtmlChart u chart := by
  have hkept : escape "图表" = "图表" := by decide
  rw [htmlChartPieces, htmlChartBody]
  delta renderHtmlChart
  split
  · split <;> simp [flat_escapedTitle _ _ hkept, flat_evidence, htmlKpi, chartCell,
      Function.comp_def, String.append_assoc]
  · cases chart.data <;> simp [-String.reduceAppend, flat_escapedTitle _ _ hkept, flat_evidence,
      flat_htmlTable, chartCell, Function.comp_def, String.append_assoc]

theorem flat_htmlTableSpec (u : Unicode) (table : TableSpec) :
    flat (htmlTablePieces u table) = renderHtmlTable u table := by
  have hkept : escape "数据表" = "数据表" := by decide
  rw [htmlTablePieces]
  delta renderHtmlTable
  split <;> simp [flat_escapedTitle _ _ hkept, flat_evidence, flat_htmlTable, String.append_assoc]

theorem flat_htmlMetadata (a : ReportArtifact) : flat (htmlMetadataPieces a) = htmlMetadata a := by
  rw [htmlMetadataPieces, htmlMetadata]
  split <;> split <;> split <;> simp

theorem flat_htmlSummary (a : ReportArtifact) : flat (htmlSummaryPieces a) = htmlSummary a := by
  rw [htmlSummaryPieces, htmlSummary]
  split <;> simp [flat_safe, String.append_assoc]

theorem flat_htmlVerification (a : ReportArtifact) (includeRefs : Bool) :
    flat (htmlVerificationPieces a includeRefs) = htmlVerification a includeRefs := by
  have hrefs : flat (if includeRefs && !a.evidenceRefs.isEmpty then
        [.own "<p>Evidence 引用: "] ++ htmlRefPieces a.evidenceRefs ++ [.own "</p>"] else []) =
      if includeRefs && !a.evidenceRefs.isEmpty then
        "<p>Evidence 引用: " ++ htmlRefs a.evidenceRefs ++ "</p>" else "" := by
    split <;> simp [flat_htmlRefs, String.append_assoc]
  rw [htmlVerificationPieces, htmlVerification, flat_append, hrefs]
  cases a.verificationResult <;> simp [String.append_assoc]

theorem flat_htmlUsedFor (src : DataSourceRef) :
    flat (htmlUsedForPieces src) = htmlUsedFor src := by
  rw [htmlUsedForPieces, htmlUsedFor]
  split <;> simp

theorem flat_htmlSource (src : DataSourceRef) : flat (htmlSourcePieces src) = htmlDataSource src := by
  rw [htmlSourcePieces, htmlDataSource]
  split
  · simp [flat_htmlUsedFor, String.append_assoc]
  · split <;> simp [flat_htmlUsedFor, String.append_assoc]

theorem flat_htmlSources (a : ReportArtifact) : flat (htmlSourcesPieces a) = htmlDataSources a := by
  rw [htmlSourcesPieces, htmlDataSources]
  split <;> simp [flat_htmlSource, String.append_assoc]

theorem flat_htmlClaim (c : ReportClaim) : flat (htmlClaimPieces c) = htmlClaim c := by
  rw [htmlClaimPieces]
  delta htmlClaim
  simp [-String.reduceAppend, flat_htmlRefs, String.append_assoc]

theorem flat_htmlClaims (a : ReportArtifact) : flat (htmlClaimsPieces a) = htmlClaims a := by
  rw [htmlClaimsPieces, htmlClaims]
  split <;> simp [flat_htmlClaim, String.append_assoc]

theorem flat_htmlContent (u : Unicode) (a : ReportArtifact) (includeRefs : Bool) :
    flat (htmlContentPieces u a includeRefs) = htmlContent u a includeRefs := by
  simp [htmlContentPieces, htmlContent, flat_htmlSection, flat_htmlChart, flat_htmlTableSpec,
    flat_htmlSources, flat_htmlClaims, Function.comp_def, String.append_assoc]

/-- A template that begins with texts. -/
theorem format_texts (texts : List String) (template : List TemplatePart)
    (fields : List (String × String)) :
    format (texts.map .text ++ template) fields =
      (format template fields).map (join "" texts ++ ·) := by
  induction texts with
  | nil =>
      rw [List.map_nil, List.nil_append]
      cases format template fields <;> simp [join, Except.map]
  | cons t texts ih =>
      rw [List.map_cons, List.cons_append, format, ih, join_empty_cons]
      cases format template fields <;> simp [Except.map, String.append_assoc]

/-- The pieces make up the report in HTML, and no field of the page is
    missing. -/
theorem flat_htmlPieces (u : Unicode) (a : ReportArtifact) (includeRefs : Bool) :
    renderHtml u a includeRefs = .ok (flat (htmlPieces u a includeRefs)) := by
  have htitle : escape "未命名报告" = "未命名报告" := by decide
  have hlanguage : escape "zh_CN" = "zh_CN" := by decide
  have hstyle : flat (htmlStyle.map (Piece.own (κ := Field))) = join "" htmlStyle := by
    -- Which rules of style there are does not matter.
    generalize htmlStyle = rules
    induction rules with
    | nil => rfl
    | cons r rules ih => rw [List.map_cons, flat_own, ih, join_empty_cons]
  rw [renderHtml, htmlTemplate, htmlFields]
  simp only [List.cons_append, List.nil_append, format, format_texts, List.lookup_cons,
    String.reduceBEq, Except.map]
  congr 1
  simp [-String.reduceAppend, htmlPieces, pageStart, pageRest, flat_escapedTitle _ _ htitle,
    flat_escapedTitle _ _ hlanguage, hstyle, flat_htmlMetadata, flat_htmlSummary, flat_htmlContent,
    flat_htmlVerification, String.append_assoc]

end Html

section Walk

/-- The texts the renderer adds on its own, other than around the language of
    the page. -/
def ownTexts : List String :=
  ["<meta http-equiv=\"Content-Security-Policy\" content=\"default-src 'self'; " ++
      "script-src 'none'; style-src 'self' 'unsafe-inline'; img-src 'self' data:;\">\n",
    "<meta charset=\"UTF-8\">\n", "<title>", "未命名报告", "</title>\n<style>\n",
    "</style>\n</head>\n<body>\n<h1>", "</h1>\n<div class=\"meta\">\n", "\n</div>\n", "\n",
    "\n<div class=\"footnote\">\n<p>报告 ID: <code>", "</code> | 生成时间: ", "</p>\n",
    "\n</div>\n</body>\n</html>\n", "报告类型: ", "生成时间: ", "租户: ", " | ",
    "<div class=\"summary\"><strong>摘要</strong>: ", "</div>", "<p>", "<br>", "</p>",
    "<div class=\"section\">", "<h2>", "未命名章节", "</h2>", "<div class=\"evidence\">",
    "<strong>引用依据</strong>", "来源", ": ", "<code>", "</code>", " ",
    "<div class=\"chart\"><h3>", "图表", "数据表", "</h3>", "<em>（无数据）</em>",
    "<div class=\"kpi\">", "<strong>", "</strong>: ", "<table><thead><tr>", "<th>", "</th>",
    "</tr></thead><tbody>", "<tr>", "<td>", "</td>", "</tr>", "</tbody></table>",
    "<p>验证: ", "通过", "未通过", " | 质量分: ", " | 问题数: ", "<p>Evidence 引用: ",
    "<details class=\"data-sources\"><summary>数据来源</summary><ul>", "</ul></details>",
    "<li>数据库 <code>", ".", "</code>，查询 ID <code>", "</code>，用于：", "通用分析", "</li>",
    "<li>知识库 <code>", "</code>，文档《<code>", "</code>》（doc_id <code>",
    "</code>，chunk_id <code>", "</code>），用于：", "<li>", " 来源</li>",
    "<details class=\"claim-lineage\"><summary>Claim 血缘</summary><ul>", "<li><code>",
    "</code> [", "] ", "<span class=\"unverified\">（未经验证）</span>",
    "<span class=\"needs-review\">（需人工核实）</span>", "", " → refs: "]

/-- The texts around the language of the page, and the language of a page that
    names none. -/
def languageTexts : List String :=
  ["<!DOCTYPE html>\n<html lang=\"", "zh_CN", "\">\n<head>\n"]

/-- A character of a number. -/
def isNumeral (c : Char) : Bool :=
  c.isDigit || c == '.' || c == '-'

/-- A text the renderer adds on its own: one of a fixed list, or a number. -/
def OwnText (t : String) : Prop :=
  t ∈ languageTexts ++ ownTexts ++ htmlStyle ∨ ∀ c ∈ t.toList, isNumeral c = true

theorem isNumeral_toString (n : Nat) : ∀ c ∈ (toString n).toList, isNumeral c = true := by
  intro c hc
  -- A number is written in digits.
  have hdigit : c.isDigit = true := Nat.isDigit_of_mem_toDigits (by decide) (Nat.le_refl 10)
    (by simpa [Nat.repr] using hc)
  rw [isNumeral, hdigit, Bool.true_or, Bool.true_or]

theorem isNumeral_append {s t : String} (hs : ∀ c ∈ s.toList, isNumeral c = true)
    (ht : ∀ c ∈ t.toList, isNumeral c = true) : ∀ c ∈ (s ++ t).toList, isNumeral c = true := by
  intro c hc
  rw [String.toList_append] at hc
  exact (List.mem_append.mp hc).elim (hs c) (ht c)

theorem isNumeral_fixed2 (q : ℚ) : ∀ c ∈ (fixed2 q).toList, isNumeral c = true := by
  have hpad : ∀ p : Prop, ∀ [Decidable p], ∀ c ∈ (if p then "0" else "").toList,
      isNumeral c = true := by
    intro p _
    split <;> decide
  have hdigits := isNumeral_append (isNumeral_append (isNumeral_append
    (isNumeral_toString (roundHalfEven (|q| * 100) / 100)) (t := ".") (by decide))
    (hpad (roundHalfEven (|q| * 100) % 100 < 10)))
    (isNumeral_toString (roundHalfEven (|q| * 100) % 100))
  rw [fixed2]
  split
  · exact isNumeral_append (s := "-") (by decide) hdigits
  · exact hdigits

/-- The data of a chart that is printed. -/
def chartValues (u : Unicode) (chart : ChartSpec) : List String :=
  if chart.chartType.getD "table" = "kpi" then
    chart.series.flatMap (fun s => [chartCell u s "name", chartCell u s "value"])
  else
    match chart.data with
    | [] => []
    | first :: _ =>
        first.map Prod.fst ++
          (chart.data.take 20).flatMap (fun row => (first.map Prod.fst).map (chartCell u row))

/-- The texts of a chart that are printed. -/
def chartTexts (u : Unicode) (chart : ChartSpec) : List String :=
  chart.title.toList ++ chartValues u chart

/-- The title and the headings of a table. -/
def tableTexts (table : TableSpec) : List String :=
  table.title.toList ++ (if table.columns.isEmpty || table.rows.isEmpty then [] else table.columns)

/-- The texts of an appendix. -/
def appendixTexts (app : AppendixItem) : List String :=
  app.title.toList ++ [app.content]

/-- The sections a source was used by, one by one and in one text. -/
def usedByTexts (src : DataSourceRef) : List String :=
  if src.usedBySections.isEmpty then []
  else src.usedBySections ++ [join "、" src.usedBySections]

/-- The texts of a source that are printed. -/
def sourceTexts (src : DataSourceRef) : List String :=
  if src.sourceType = "db" then [src.dbId, src.tableName, src.queryId] ++ usedByTexts src
  else if src.sourceType = "rag" then
    [src.kbId, src.docTitle, src.docId, src.chunkId] ++ usedByTexts src
  else [src.sourceType]

/-- The contents of a report that are printed, other than its summary, the
    texts of its sections and the cells of its tables. -/
def titlesAndData (u : Unicode) (a : ReportArtifact) : List String :=
  a.title.toList ++ a.sections.flatMap (fun sec => sec.title.toList) ++
  a.charts.flatMap (chartTexts u) ++ a.tables.flatMap tableTexts ++
  a.appendix.flatMap appendixTexts ++ a.dataSources.flatMap sourceTexts ++
  a.claims.map (fun c => take c.text 80)

/-- A property that the renderer's own texts have, and what a page shows of a
    report besides its contents. -/
structure HoldsOnPage (P : Piece Field → Prop) : Prop where
  own : ∀ t ∈ ownTexts, P (.own t)
  style : ∀ t ∈ htmlStyle, P (.own t)
  number : ∀ t : String, (∀ c ∈ t.toList, isNumeral c = true) → P (.own t)
  label : ∀ field s, field.isContent = false → P (escaped field s)

/-- A property of texts in whichever field of a page. -/
def HoldsOf (P : Piece Field → Prop) (texts : List String) : Prop :=
  ∀ s ∈ texts, ∀ field, P (escaped field s)

/-- What else a property has to hold of, for every piece of the page of a report
    to have it: its titles and data, the paragraphs of its texts, and its
    cells. -/
structure HoldsOfTexts (P : Piece Field → Prop) (u : Unicode) (a : ReportArtifact) : Prop where
  data : HoldsOf P (titlesAndData u a)
  summary : Every P (safePieces .summary a.summary)
  sections : ∀ sec ∈ a.sections, Every P (safePieces .sectionText sec.content)
  cells : ∀ table ∈ a.tables, ∀ row ∈ table.rows, ∀ cell ∈ row,
    P (escaped .tableCell (Val.toStr u cell))

variable {P : Piece Field → Prop}

theorem holdsOf_title {title : Option String} {texts : List String}
    (h : HoldsOf P (title.toList ++ texts)) (field : Field) {fallback : String}
    (hfallback : P (.own fallback)) : P (escapedTitle field title fallback) := by
  cases title with
  | none => exact hfallback
  | some s => exact h s List.mem_cons_self field

theorem every_htmlRefs (h : HoldsOnPage P) (refs : List String) : Every P (htmlRefPieces refs) := by
  have hown := h.own
  simp only [ownTexts, List.forall_mem_cons] at hown
  have href : ∀ ref, P (escaped .reference ref) := fun ref => h.label _ ref rfl
  refine (every_joined ?_).mpr (List.forall_mem_map.mpr (fun ref _ => ?_))
  · simp only [every_cons, every_nil, hown, and_true]
  · simp only [codePieces, every_cons, every_nil, hown, href, and_true]

theorem every_evidence (h : HoldsOnPage P) {label : String} (hlabel : P (.own label))
    (refs : List String) : Every P (evidencePieces label refs) := by
  have hown := h.own
  simp only [ownTexts, List.forall_mem_cons] at hown
  rw [evidencePieces]
  split
  · exact every_nil
  · simp only [every_append, every_cons, every_nil, hown, hlabel, every_htmlRefs h, and_true]

theorem every_section (h : HoldsOnPage P) {sec : ReportSection}
    (htitles : HoldsOf P sec.title.toList)
    (hcontent : Every P (safePieces .sectionText sec.content)) (includeRefs : Bool) :
    Every P (htmlSectionPieces sec includeRefs) := by
  have hown := h.own
  simp only [ownTexts, List.forall_mem_cons] at hown
  rw [← List.append_nil sec.title.toList] at htitles
  have htitle : P (escapedTitle .sectionTitle sec.title "未命名章节") :=
    holdsOf_title htitles _ (by simp only [hown])
  rw [htmlSectionPieces]
  split <;> simp only [every_append, every_cons, every_nil, hown, htitle, hcontent,
    every_evidence h, and_true]

theorem every_table (h : HoldsOnPage P) {heading cell : Field} {columns : List String}
    {rows : List (List String)} (hcolumns : ∀ s ∈ columns, P (escaped heading s))
    (hcells : ∀ row ∈ rows, ∀ s ∈ row, P (escaped cell s)) :
    Every P (tablePieces heading cell columns rows) := by
  have hown := h.own
  simp only [ownTexts, List.forall_mem_cons] at hown
  -- A row is the same for headings and for data, up to the tags.
  have hcell : ∀ start stop field (texts : List String), P (.own start) → P (.own stop) →
      (∀ s ∈ texts, P (escaped field s)) →
      Every P (texts.flatMap (cellPieces start stop field)) := by
    intro start stop field texts hstart hstop htexts
    refine every_flatMap.mpr (fun text htext => ?_)
    simp only [cellPieces, every_cons, every_nil, hstart, hstop, htexts text htext, and_true]
  have hhead : Every P (columns.flatMap (cellPieces "<th>" "</th>" heading)) :=
    hcell _ _ _ _ (by simp only [hown]) (by simp only [hown]) hcolumns
  have hrows : Every P (rows.flatMap (fun row =>
      [.own "<tr>"] ++ row.flatMap (cellPieces "<td>" "</td>" cell) ++ [.own "</tr>"])) := by
    refine every_flatMap.mpr (fun row hrow => ?_)
    have hrow := hcell "<td>" "</td>" _ _ (by simp only [hown]) (by simp only [hown])
      (hcells row hrow)
    simp only [every_append, every_cons, every_nil, hown, hrow, and_true]
  simp only [tablePieces, every_append, every_cons, every_nil, hown, hhead, hrows, and_true]

theorem every_chartBody (h : HoldsOnPage P) {u : Unicode} {chart : ChartSpec}
    (hdata : HoldsOf P (chartValues u chart)) : Every P (htmlChartBody u chart) := by
  have hown := h.own
  simp only [ownTexts, List.forall_mem_cons] at hown
  rw [chartValues] at hdata
  rw [htmlChartBody]
  split
  next hkpi =>
    rw [if_pos hkpi, HoldsOf, List.forall_mem_flatMap] at hdata
    have hkpis : Every P (joined [.own " | "] (chart.series.map (htmlKpi u))) := by
      refine (every_joined ?_).mpr (List.forall_mem_map.mpr (fun s hs => ?_))
      · simp only [every_cons, every_nil, hown, and_true]
      · have hname := hdata s hs (chartCell u s "name") List.mem_cons_self .kpi
        have hvalue := hdata s hs (chartCell u s "value") (by simp) .kpi
        simp only [htmlKpi, every_cons, every_nil, hown, hname, hvalue, and_true]
    split <;> simp only [every_append, every_cons, every_nil, hown, hkpis, and_true]
  next hkpi =>
    rw [if_neg hkpi] at hdata
    cases hrows : chart.data with
    | nil => simp only [every_cons, every_nil, hown, and_true]
    | cons first rest =>
        simp only [hrows, HoldsOf, List.forall_mem_append, List.forall_mem_flatMap] at hdata
        refine every_table h (fun s hs => hdata.1 s hs _) ?_
        exact List.forall_mem_map.mpr (fun row hrow s hs => hdata.2 row hrow s hs _)

theorem every_chart (h : HoldsOnPage P) {u : Unicode} {chart : ChartSpec}
    (htexts : HoldsOf P (chartTexts u chart)) : Every P (htmlChartPieces u chart) := by
  have hown := h.own
  simp only [ownTexts, List.forall_mem_cons] at hown
  have hbody := every_chartBody h (List.forall_mem_append.mp htexts).2
  have htitle : P (escapedTitle .chartTitle chart.title "图表") :=
    holdsOf_title htexts _ (by simp only [hown])
  simp only [htmlChartPieces, every_append, every_cons, every_nil, hown, htitle, hbody,
    every_evidence h, and_true]

theorem every_tableSpec (h : HoldsOnPage P) (u : Unicode) {table : TableSpec}
    (htexts : HoldsOf P (tableTexts table))
    (hcells : ∀ row ∈ table.rows, ∀ cell ∈ row, P (escaped .tableCell (Val.toStr u cell))) :
    Every P (htmlTablePieces u table) := by
  have hown := h.own
  simp only [ownTexts, List.forall_mem_cons] at hown
  have htitle : P (escapedTitle .tableTitle table.title "数据表") :=
    holdsOf_title htexts _ (by simp only [hown])
  have hcolumns := (List.forall_mem_append.mp htexts).2
  rw [htmlTablePieces]
  split
  · simp only [every_append, every_cons, every_nil, hown, htitle, and_true]
  next hfull =>
    rw [if_neg hfull] at hcolumns
    have htable : Every P (tablePieces .tableColumn .tableCell table.columns
        ((table.rows.take 50).map (fun row => row.map (Val.toStr u)))) := by
      refine every_table h (fun s hs => hcolumns s hs _)
        (List.forall_mem_map.mpr (fun row hrow => ?_))
      exact List.forall_mem_map.mpr (hcells row (List.mem_of_mem_take hrow))
    simp only [every_append, every_cons, every_nil, hown, htitle, htable, every_evidence h,
      and_true]

theorem every_metadata (h : HoldsOnPage P) (a : ReportArtifact) :
    Every P (htmlMetadataPieces a) := by
  have hown := h.own
  simp only [ownTexts, List.forall_mem_cons] at hown
  have hmeta : ∀ s, P (escaped .metadata s) := fun s => h.label _ s rfl
  refine (every_joined ?_).mpr ?_
  · simp only [every_cons, every_nil, hown, and_true]
  · split <;> split <;> split <;> simp [every_cons, every_nil, hown, hmeta]

theorem every_summary (h : HoldsOnPage P) {a : ReportArtifact}
    (hsummary : Every P (safePieces .summary a.summary)) : Every P (htmlSummaryPieces a) := by
  have hown := h.own
  simp only [ownTexts, List.forall_mem_cons] at hown
  rw [htmlSummaryPieces]
  split <;> simp only [every_append, every_cons, every_nil, hown, hsummary, and_true]

theorem every_verification (h : HoldsOnPage P) (a : ReportArtifact) (includeRefs : Bool) :
    Every P (htmlVerificationPieces a includeRefs) := by
  have hown := h.own
  simp only [ownTexts, List.forall_mem_cons] at hown
  have hscore : ∀ vr : VerificationResult, P (.own (fixed2 vr.score)) :=
    fun vr => h.number _ (isNumeral_fixed2 vr.score)
  have hcount : ∀ vr : VerificationResult, P (.own (toString vr.issues.length)) :=
    fun vr => h.number _ (isNumeral_toString _)
  have hpassed : ∀ vr : VerificationResult, P (.own (if vr.passed then "通过" else "未通过")) := by
    intro vr
    split <;> simp only [hown]
  rw [htmlVerificationPieces, every_append]
  refine ⟨?_, ?_⟩
  · cases a.verificationResult <;> simp only [every_cons, every_nil, hown, hscore, hcount,
      hpassed, and_true]
  · split <;> simp only [every_append, every_cons, every_nil, hown, every_htmlRefs h, and_true]

theorem every_usedFor (h : HoldsOnPage P) {src : DataSourceRef}
    (htexts : HoldsOf P (usedByTexts src)) : Every P (htmlUsedForPieces src) := by
  have hown := h.own
  simp only [ownTexts, List.forall_mem_cons] at hown
  rw [htmlUsedForPieces]
  split
  · simp only [every_cons, every_nil, hown, and_true]
  next hused =>
    rw [usedByTexts, if_neg hused] at htexts
    exact every_cons.mpr ⟨htexts _ (List.mem_append_right _ List.mem_cons_self) _, every_nil⟩

theorem every_source (h : HoldsOnPage P) {src : DataSourceRef}
    (htexts : HoldsOf P (sourceTexts src)) : Every P (htmlSourcePieces src) := by
  have hown := h.own
  simp only [ownTexts, List.forall_mem_cons] at hown
  rw [sourceTexts] at htexts
  rw [htmlSourcePieces]
  split
  next hdb =>
    rw [if_pos hdb] at htexts
    have hfields := (List.forall_mem_append.mp htexts).1
    have hused := every_usedFor h (List.forall_mem_append.mp htexts).2
    simp only [List.forall_mem_cons] at hfields
    simp only [every_append, every_cons, every_nil, hown, hfields, hused, and_true]
  next hdb =>
    rw [if_neg hdb] at htexts
    split
    next hrag =>
      rw [if_pos hrag] at htexts
      have hfields := (List.forall_mem_append.mp htexts).1
      have hused := every_usedFor h (List.forall_mem_append.mp htexts).2
      simp only [List.forall_mem_cons] at hfields
      simp only [every_append, every_cons, every_nil, hown, hfields, hused, and_true]
    next hrag =>
      rw [if_neg hrag] at htexts
      have hsource := htexts _ List.mem_cons_self .dataSource
      simp only [every_cons, every_nil, hown, hsource, and_true]

theorem every_sources (h : HoldsOnPage P) {a : ReportArtifact}
    (htexts : HoldsOf P (a.dataSources.flatMap sourceTexts)) : Every P (htmlSourcesPieces a) := by
  have hown := h.own
  simp only [ownTexts, List.forall_mem_cons] at hown
  have hsources : Every P (a.dataSources.flatMap htmlSourcePieces) :=
    every_flatMap.mpr (fun src hsrc => every_source h (List.forall_mem_flatMap.mp htexts src hsrc))
  rw [htmlSourcesPieces]
  split <;> simp only [every_append, every_cons, every_nil, hown, hsources, and_true]

theorem every_claims (h : HoldsOnPage P) {a : ReportArtifact}
    (htexts : HoldsOf P (a.claims.map (fun c => take c.text 80))) :
    Every P (htmlClaimsPieces a) := by
  have hown := h.own
  simp only [ownTexts, List.forall_mem_cons] at hown
  have hlabel : ∀ s, P (escaped .claimLabel s) := fun s => h.label _ s rfl
  have hclaims : Every P (a.claims.flatMap htmlClaimPieces) := by
    refine every_flatMap.mpr (fun c hc => ?_)
    have htext := List.forall_mem_map.mp htexts c hc .claimText
    rw [htmlClaimPieces]
    split
    · simp only [every_append, every_cons, every_nil, hown, hlabel, htext, every_htmlRefs h,
        and_true]
    · split <;> simp only [every_append, every_cons, every_nil, hown, hlabel, htext,
        every_htmlRefs h, and_true]
  rw [htmlClaimsPieces]
  split <;> simp only [every_append, every_cons, every_nil, hown, hclaims, and_true]

theorem every_content (h : HoldsOnPage P) {u : Unicode} {a : ReportArtifact}
    (htexts : HoldsOfTexts P u a) (includeRefs : Bool) :
    Every P (htmlContentPieces u a includeRefs) := by
  have hown := h.own
  simp only [ownTexts, List.forall_mem_cons] at hown
  have hdata := htexts.data
  simp only [HoldsOf, titlesAndData, List.forall_mem_append, List.forall_mem_flatMap] at hdata
  rcases hdata with ⟨⟨⟨⟨⟨⟨-, hsections⟩, hcharts⟩, htables⟩, -⟩, hsources⟩, hclaims⟩
  rw [htmlContentPieces, every_append, every_append]
  refine ⟨⟨(every_joined ?_).mpr ?_, every_sources h (List.forall_mem_flatMap.mpr hsources)⟩,
    every_claims h hclaims⟩
  · simp only [every_cons, every_nil, hown, and_true]
  · simp only [List.forall_mem_append, List.forall_mem_map]
    refine ⟨⟨fun sec hsec => ?_, fun chart hchart => every_chart h (hcharts chart hchart)⟩,
      fun table htable => every_tableSpec h u (htables table htable) (htexts.cells table htable)⟩
    exact every_section h (hsections sec hsec) (htexts.sections sec hsec) includeRefs

/-- A property of every piece behind the language of the page. -/
theorem every_pageRest (h : HoldsOnPage P) {u : Unicode} {a : ReportArtifact}
    (htexts : HoldsOfTexts P u a) (includeRefs : Bool) : Every P (pageRest u a includeRefs) := by
  have hown := h.own
  simp only [ownTexts, List.forall_mem_cons] at hown
  have htitle : P (escapedTitle .title a.title "未命名报告") := by
    have hdata := htexts.data
    simp only [titlesAndData, List.append_assoc] at hdata
    exact holdsOf_title hdata _ (by simp only [hown])
  have hid : P (escaped .reportId a.reportId) := h.label _ _ rfl
  have hcreated : P (escaped .metadata a.createdAt) := h.label _ _ rfl
  have hstyle : Every P (htmlStyle.map .own) := every_map.mpr h.style
  simp only [pageRest, every_append, every_cons, every_nil, hown, hstyle, htitle, hid, hcreated,
    every_metadata h, every_summary h htexts.summary, every_content h htexts,
    every_verification h, and_true]

end Walk

end Report

end AgenticRag

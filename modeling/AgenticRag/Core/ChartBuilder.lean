import AgenticRag.Core.ClaimBuilder
import AgenticRag.Core.SectionGenerator

/-!
# Charts and Tables from Evidence

The charts and tables of a report are made of database evidence alone, without a
model. Each piece that has rows gives at most one of either kind, which refers to
this piece. What raises makes the piece a failed one, and no more are made than
are asked for.

Rows are read as dictionaries and columns as texts. Something else raises here at
once, where the source raises when it comes to it.

## Main definitions

* `buildFrom`: The loop both builders make.
* `writeContents`: The contents of a report: sections, charts, tables and claims.
-/

namespace AgenticRag

namespace Report

open Py

/-- A piece of evidence that something was not made of. -/
structure FailedEvidence where
  evidenceId : Option String
  error : String

section Reading

/-- The rows of a piece of evidence. -/
def EvidenceItem.rows (item : EvidenceItem) : Except Exc (List Dict) :=
  match pyOr (pyGet item.structuredData "rows" (.list [])) (.list []) with
  | .list rows => rows.mapM asMapping
  | _ => .error .typeError

/-- A value that has to be text. -/
def asText : Val → Except Exc String
  | .str s => .ok s
  | _ => .error .typeError

/-- The columns of a piece of evidence. -/
def EvidenceItem.columns (item : EvidenceItem) : Except Exc (List String) :=
  match pyOr (pyGet item.structuredData "columns" (.list [])) (.list []) with
  | .list columns => columns.mapM asText
  | _ => .error .typeError

/-- The references to a piece of evidence. -/
def EvidenceItem.refs (item : EvidenceItem) : List String :=
  let id := item.evidenceId.getD ""
  if id = "" then [] else [id]

/-- The evidence that is of a database. -/
def fromDatabase (evidence : List EvidenceItem) : List EvidenceItem :=
  evidence.filter (fun item => item.sourceType = some "db")

end Reading

section Loop

variable {α : Type} (showExc : Exc → String) (limit : Nat)
  (build : EvidenceItem → Nat → Except Exc (Option α))

/-- Make something of each piece, until there is enough. -/
def buildFrom : List EvidenceItem → List α → List FailedEvidence → List α × List FailedEvidence
  | [], built, failed => (built, failed)
  | item :: rest, built, failed =>
      if limit ≤ built.length then (built, failed)
      else
        match build item built.length with
        | .ok (some x) => buildFrom rest (built ++ [x]) failed
        | .ok none => buildFrom rest built failed
        | .error e => buildFrom rest built
            (failed ++ [{ evidenceId := item.evidenceId, error := showExc e }])

end Loop

section Charts

/-- The columns that hold a number in one of the first rows. -/
def findNumericColumns (rows : List Dict) (columns : List String) : List String :=
  columns.filter (fun col => (rows.take 5).any (fun row =>
    match row.lookup col with
    | some (.int _) => true
    | some (.float _ _) => true
    | _ => false))

/-- The id of a chart. -/
def chartId (item : EvidenceItem) (index : Nat) : String :=
  "chart_" ++ item.evidenceId.getD "" ++ "_" ++ toString index

/-- The one row of a piece, number by number. -/
def buildKpiChart (item : EvidenceItem) (row : Dict) (numeric : List String) (index : Nat) :
    ChartSpec where
  chartId := some (chartId item index)
  chartType := some "kpi"
  title := some (item.title.getD ("关键指标 " ++ toString (index + 1)))
  series := numeric.filterMap (fun col =>
    match row.lookup col with
    | none => none
    | some .none => none
    | some v => some [("name", .str col), ("value", v)])
  data := [row]
  evidenceRefs := item.refs

/-- The rows of a piece with a column of labels and one of values. -/
def buildBarChart (item : EvidenceItem) (rows : List Dict) (xCol yCol : String) (index : Nat) :
    ChartSpec where
  chartId := some (chartId item index)
  chartType := some "bar"
  title := some (item.title.getD ("对比分析 " ++ toString (index + 1)))
  series := [[("name", .str yCol),
    ("data", .list (rows.map (fun row => pyGet row yCol (.int 0))))]]
  data := rows.map (fun row => Ordered.dictOf
    [(xCol, pyGet row xCol (.str "")), (yCol, pyGet row yCol (.int 0))])
  evidenceRefs := item.refs

/-- A chart that is a table. -/
def buildTableChart (item : EvidenceItem) (rows : List Dict) (index : Nat) : ChartSpec where
  chartId := some (chartId item index)
  chartType := some "table"
  title := some (item.title.getD ("数据表 " ++ toString (index + 1)))
  data := rows
  evidenceRefs := item.refs

/-- The chart of a piece, if it has rows. -/
def buildChart (item : EvidenceItem) (index : Nat) : Except Exc (Option ChartSpec) := do
  let rows ← item.rows
  if rows.isEmpty then return none
  else
    let columns ← item.columns
    let preview := rows.take 50
    let numeric := findNumericColumns preview columns
    if numeric.isEmpty then return some (buildTableChart item preview index)
    else
      match preview, columns with
      | [row], _ => return some (buildKpiChart item row numeric index)
      | _, [xCol, yCol] => return some (buildBarChart item preview xCol yCol index)
      | _, _ => return some (buildTableChart item preview index)

/-- The charts of a report. -/
def buildCharts (showExc : Exc → String) (evidence : List EvidenceItem) (maxCharts : Nat) :
    List ChartSpec × List FailedEvidence :=
  buildFrom showExc maxCharts buildChart (fromDatabase evidence) [] []

end Charts

section Tables

/-- The table of a piece, if it has rows and columns. -/
def buildTable (maxRows : Nat) (item : EvidenceItem) (index : Nat) :
    Except Exc (Option TableSpec) := do
  let rows ← item.rows
  if rows.isEmpty then return none
  else
    let columns ← item.columns
    if columns.isEmpty then return none
    else
      return some {
        tableId := some ("table_" ++ item.evidenceId.getD "" ++ "_" ++ toString index)
        title := some (item.title.getD ("数据表 " ++ toString (index + 1)))
        columns := columns
        rows := (rows.take maxRows).map (fun row =>
          columns.map (fun col => pyGet row col (.str "")))
        evidenceRefs := item.refs }

/-- The tables of a report. -/
def buildTables (showExc : Exc → String) (maxRows : Nat) (evidence : List EvidenceItem)
    (maxTables : Nat) : List TableSpec × List FailedEvidence :=
  buildFrom showExc maxTables (buildTable maxRows) (fromDatabase evidence) [] []

end Tables

section Contents

/-- The content of a section as the builder of claims cuts it. Only a text can be
    cut and put behind another. -/
def contentText : Val → Except Exc String
  | .str s => .ok s
  | v => if v.truthy then .error .typeError else .ok ""

/-- A section as the builder of claims reads it. -/
def GeneratedSection.read (sec : GeneratedSection) : Except Exc ReportSection := do
  return {
    sectionId := some sec.sectionId
    title := some sec.title
    sectionType := sec.sectionType
    content := ← contentText sec.content
    evidenceRefs := sec.evidenceRefs }

/-- How many of each kind a report may have. -/
structure ContentLimits where
  maxCharts : Nat := 6
  maxTables : Nat := 8
  maxTableRows : Nat := 100

/-- The contents of a report: what the four builders make of a plan and evidence. -/
def writeContents (g : GeneratorEnv) (b : ClaimBuilder) (limits : ContentLimits)
    (llm : Option Llm) (plan : List PlanSection) (evidence : List EvidenceItem) :
    Except Exc ClaimBuilder.Claimed := do
  let sections := (generateSections g llm evidence plan).1
  let charts := (buildCharts g.showExc evidence limits.maxCharts).1
  let tables := (buildTables g.showExc limits.maxTableRows evidence limits.maxTables).1
  -- Nothing catches what the builder of claims raises.
  return b.build (← sections.mapM GeneratedSection.read) charts tables evidence

end Contents

end Report

end AgenticRag

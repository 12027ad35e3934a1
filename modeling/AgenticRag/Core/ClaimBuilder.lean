import AgenticRag.Core.ReportArtifact

/-!
# The Claims of a Report

Every section, chart and table of a report makes one claim, which rests on the
evidence its maker refers to. A claim of a kind that needs evidence and has none
is dropped. The confidence of a claim is the mean over its evidence, and a claim
below the threshold is marked for review.

The identifier of a claim is a digest of its kind and text; the digest is a
parameter.

## Main definitions

* `ClaimBuilder`: The digest and the threshold.
* `ClaimBuilder.build`: The claims of a report.
-/

namespace AgenticRag

namespace Report

open Py

/-- The kinds of claim that are dropped without evidence. -/
def claimTypesRequireEvidence : List String := ["metric", "comparison", "trend", "fact"]

/-- The kinds of claim that are kept without evidence, as unsupported. -/
def claimTypesAllowNoEvidence : List String := ["recommendation"]

/-- What the builder of claims is set up with. -/
structure ClaimBuilder where
  md5 : String → String
  lowConfidenceThreshold : ℚ := 7 / 10

section Evidence

/-- The piece of evidence under an identifier, the last one that has it. A piece
    without one is under the empty text. -/
def evidenceUnder (evidence : List EvidenceItem) (ref : String) : Option EvidenceItem :=
  evidence.reverse.find? (fun item => item.evidenceId.getD "" == ref)

/-- `round(q, 4)`. -/
def round4 (q : ℚ) : ℚ :=
  let digits : ℚ := roundHalfEven (|q| * 10000) / 10000
  if q < 0 then -digits else digits

/-- The mean confidence of the evidence that is there. -/
def computeConfidence (evidence : List EvidenceItem) (refs : List String) : ℚ :=
  let confs := (refs.filterMap (evidenceUnder evidence)).map (fun item => item.confidence.getD 0)
  if confs.isEmpty then 0 else round4 (confs.sum / confs.length)

end Evidence

/-- `text.rstrip(chars)`. -/
def rstrip (chars text : String) : String :=
  String.ofList ((text.toList.reverse.dropWhile chars.toList.contains).reverse)

namespace ClaimBuilder

variable (b : ClaimBuilder)

/-- The id of a claim. -/
def makeClaimId (text claimType : String) : String :=
  "claim_" ++ take (b.md5 (claimType ++ "|" ++ take text 200)) 12

/-- A claim, unless it is of a kind that needs evidence and has none. -/
def createClaim (evidence : List EvidenceItem) (text claimType : String) (refs : List String) :
    Option ReportClaim :=
  let claim : ReportClaim :=
    { claimId := some (b.makeClaimId text claimType)
      text := take text 500
      claimType := claimType
      evidenceRefs := refs }
  -- Names that lead nowhere count as evidence here.
  if claimTypesRequireEvidence.contains claimType ∧ refs.isEmpty then none
  else if claimTypesAllowNoEvidence.contains claimType ∧ refs.isEmpty then
    some { claim with
      supportStatus := "unsupported"
      confidence := some 0
      needsHumanReview := true
      reviewReason := "recommendation 类型 Claim 未找到支撑 Evidence，建议人工确认" }
  else
    let confidence := computeConfidence evidence refs
    some { claim with
      supportStatus := "supported"
      confidence := some confidence
      needsHumanReview := decide (confidence < b.lowConfidenceThreshold)
      reviewReason :=
        if confidence < b.lowConfidenceThreshold then
          "Claim 支撑 Evidence 置信度 " ++ fixed2 confidence ++ "，低于阈值 " ++
            fixed2 b.lowConfidenceThreshold
        else "" }

/-- What a section claims: its title and the start of its text. -/
def sectionText (sec : ReportSection) : String :=
  let text := rstrip "：\n" (strip (sec.title.getD "" ++ "：\n" ++ take sec.content 200))
  if text = "" then "（章节内容）" else text

/-- The claim of a section. -/
def sectionClaim (evidence : List EvidenceItem) (sec : ReportSection) : Option ReportClaim :=
  b.createClaim evidence (sectionText sec) "fact" sec.evidenceRefs

/-- The claim of a chart. -/
def chartClaim (evidence : List EvidenceItem) (chart : ChartSpec) : Option ReportClaim :=
  b.createClaim evidence (chart.title.getD "图表") "metric" chart.evidenceRefs

/-- The claim of a table. -/
def tableClaim (evidence : List EvidenceItem) (table : TableSpec) : Option ReportClaim :=
  b.createClaim evidence (table.title.getD "表格") "fact" table.evidenceRefs

/-- The references to claims with one more. They are a set, whose order nothing
    depends on. -/
def withClaim (refs : List String) (claim : Option ReportClaim) : List String :=
  match claim.bind ReportClaim.claimId with
  | none => refs
  | some id => if refs.contains id then refs else refs ++ [id]

/-- The claims of a report, and its contents with references to them. -/
structure Claimed where
  sections : List ReportSection
  charts : List ChartSpec
  tables : List TableSpec
  claims : List ReportClaim

/-- The claims of a report. -/
def build (sections : List ReportSection) (charts : List ChartSpec) (tables : List TableSpec)
    (evidence : List EvidenceItem) : Claimed where
  sections := sections.map (fun sec =>
    { sec with claimRefs := withClaim sec.claimRefs (b.sectionClaim evidence sec) })
  charts := charts.map (fun chart =>
    { chart with claimRefs := withClaim chart.claimRefs (b.chartClaim evidence chart) })
  tables := tables.map (fun table =>
    { table with claimRefs := withClaim table.claimRefs (b.tableClaim evidence table) })
  claims := sections.filterMap (b.sectionClaim evidence) ++
    charts.filterMap (b.chartClaim evidence) ++ tables.filterMap (b.tableClaim evidence)

end ClaimBuilder

end Report

end AgenticRag

import AgenticRag.Lib.PyVal

/-!
# Report Artifacts

The records a report is made of. The tool that writes reports passes them
around as dictionaries and reads each field with a default of its own, often
a different one in each place, so a field is optional here where an absent
key and an empty text are told apart. Numbers of a report are rational.

The evidence a report is written from is read the same way. Nothing
guarantees that a piece has an identifier or says where it came from.

## Main definitions

* `EvidenceItem`: A piece of evidence as the report tool reads it.
* `ReportArtifact`: The report.
-/

namespace AgenticRag

namespace Report

open Py

/-- A piece of evidence as the report tool reads it. -/
structure EvidenceItem where
  evidenceId : Option String := none
  sourceType : Option String := none
  title : Option String := none
  content : String := ""
  structuredData : Dict := []
  metadata : Dict := []
  confidence : Option ℚ := none

/-- A section of a report. -/
structure ReportSection where
  sectionId : Option String := none
  title : Option String := none
  sectionType : String := ""
  content : String := ""
  evidenceRefs : List String := []
  claimRefs : List String := []
  needsHumanReview : Bool := false

/-- A chart of a report. -/
structure ChartSpec where
  chartId : Option String := none
  chartType : Option String := none
  title : Option String := none
  series : List Dict := []
  data : List Dict := []
  evidenceRefs : List String := []
  claimRefs : List String := []
  notes : String := ""

/-- A table of a report. -/
structure TableSpec where
  tableId : Option String := none
  title : Option String := none
  columns : List String := []
  rows : List (List Val) := []
  evidenceRefs : List String := []
  claimRefs : List String := []

/-- A part of the appendix. -/
structure AppendixItem where
  title : Option String := none
  content : String := ""

/-- A claim the report makes, with the evidence it rests on. -/
structure ReportClaim where
  claimId : Option String := none
  text : String := ""
  claimType : String := ""
  evidenceRefs : List String := []
  supportStatus : String := ""
  confidence : Option ℚ := none
  needsHumanReview : Bool := false
  reviewReason : String := ""

/-- A source of the report's data. -/
structure DataSourceRef where
  sourceType : String := ""
  dbId : String := ""
  tableName : String := ""
  queryId : String := ""
  kbId : String := ""
  docId : String := ""
  chunkId : String := ""
  docTitle : String := ""
  usedBySections : List String := []

/-- How serious a finding is. -/
inductive Severity where
  | low
  | medium
  | high
  | critical
  deriving DecidableEq, Repr

/-- The name of a severity. -/
def Severity.text : Severity → String
  | .low => "low"
  | .medium => "medium"
  | .high => "high"
  | .critical => "critical"

/-- A finding that fails the verification. -/
def Severity.isBlocking : Severity → Bool
  | .high => true
  | .critical => true
  | _ => false

/-- Something the verifier found. -/
structure VerificationIssue where
  code : String
  severity : Severity
  message : String
  sectionId : Option String := none
  chartId : Option String := none
  tableId : Option String := none
  field : Option String := none

/-- What the verifier says about a report. -/
structure VerificationResult where
  passed : Bool
  score : ℚ
  issues : List VerificationIssue
  warnings : List String
  checksPerformed : List String
  checkedAt : String

/-- How far a report is on its way to being published. -/
inductive PublishStatus where
  | draft
  | pendingReview
  | approved
  | published
  | rejected
  deriving DecidableEq, Repr

/-- A report may be handed out. -/
def PublishStatus.isPublic : PublishStatus → Bool
  | .approved => true
  | .published => true
  | _ => false

/-- A comment on a report under review. -/
structure ReviewComment where
  reviewerId : String
  comment : String
  skillType : String

/-- The state of the review of a report. -/
structure HumanReviewResult where
  action : String
  comments : List ReviewComment
  approved : Bool
  publishAllowed : Bool

/-- A report. -/
structure ReportArtifact where
  reportId : String := ""
  title : Option String := none
  reportType : String := ""
  format : String := "markdown"
  language : Option String := none
  objective : String := ""
  audience : String := ""
  summary : String := ""
  sections : List ReportSection := []
  charts : List ChartSpec := []
  tables : List TableSpec := []
  appendix : List AppendixItem := []
  evidenceRefs : List String := []
  claims : List ReportClaim := []
  dataSources : List DataSourceRef := []
  humanReviewResult : Option HumanReviewResult := none
  publishStatus : Option PublishStatus := none
  publishStatusReason : String := ""
  verificationResult : Option VerificationResult := none
  tenantId : String := ""
  userId : String := ""
  createdAt : String := ""
  fileUri : String := ""
  fileSizeBytes : Nat := 0
  isPartial : Bool := false
  failedSections : List String := []
  coverageScore : ℚ := 0

end Report

end AgenticRag

import AgenticRag.Core.ClaimBuilder
import AgenticRag.Core.HumanReview
import AgenticRag.Core.ReportExporter

/-!
# The Report Tool

The tool writes a report from evidence that has been collected before. It checks
its input and the evidence, has the contents written, builds the claims, decides
whether the report needs a review, and drafts the report. The draft is then
verified, exported and stored.

The status of a report is decided with the draft, before it is verified. A report
that fails the verification is returned with the status it has, and so is one
that cannot be exported or stored. An approved report becomes published once it
is stored, and only an approved one is given an address to download it from.

What writes the contents (the planner, the generator of sections with its model,
the builders of charts and tables, the collector of sources), what resolves a
skill and what stores a file are parameters, and each may raise. The times a
report took are left out.

## Main definitions

* `ReportInput`, `ReportSkillSet`, `ToolConfig`: What the tool is given.
* `invoke`: The tool.
-/

namespace AgenticRag

namespace Report

open Py Ordered

section Input

/-- The input of the tool. A field that is missing is `none`. -/
structure ReportInput where
  title : Option String := none
  reportType : Option String := none
  skillId : Option String := none
  dataSkillId : Option String := none
  retrievalSkillId : Option String := none
  hasSkillSet : Bool := false
  objective : Option String := none
  audience : Option String := none
  format : Option String := none
  language : Option String := none
  tenantId : Option String := none
  userId : Option String := none
  evidence : Option (List EvidenceItem) := none
  maxSections : Option Nat := none
  maxCharts : Option Nat := none
  maxTables : Option Nat := none

/-- Evidence a skill asks for. -/
structure EvidenceRequirement where
  required : Bool := false
  evidenceId : String := ""
  sourceTargetId : Option String := none
  tableName : Option String := none

/-- The skills of a request, as far as the tool reads them. The requirements are
    those of the data skill and of the retrieval skill. -/
structure ReportSkillSet where
  skillId : String
  reportType : String
  defaultFormat : Option String := none
  publishPolicy : Dict := []
  claimRules : List ClaimRule := []
  coreSections : List String := []
  minEvidenceCount : Option Nat := none
  minDbEvidenceCount : Option Nat := none
  minRagEvidenceCount : Option Nat := none
  evidenceRequirements : List EvidenceRequirement := []

/-- The safety part of the configuration. -/
structure Safety where
  scanSensitiveData : Bool := true
  requireVerifiedEvidence : Bool := true

/-- The settings of the tool. -/
structure ToolConfig where
  minEvidenceCount : Nat := 1
  review : ReviewConfig := {}
  safety : Safety := {}

/-- The types of a report. -/
def allowedReportTypes : List String :=
  ["business_analysis", "quality_analysis", "operations_analysis", "factory_performance",
    "delivery_analysis", "production_daily", "cost_analysis", "trend_analysis", "comparison",
    "knowledge_summary", "management_briefing"]

/-- The formats of a report. -/
def allowedFormatsStage1 : List String := ["markdown", "html"]

/-- Nothing is given. -/
def ReportInput.isEmpty (x : ReportInput) : Bool :=
  x.title.isNone && x.reportType.isNone && x.skillId.isNone && x.dataSkillId.isNone &&
  x.retrievalSkillId.isNone && !x.hasSkillSet && x.objective.isNone && x.audience.isNone &&
  x.format.isNone && x.language.isNone && x.tenantId.isNone && x.userId.isNone &&
  x.evidence.isNone && x.maxSections.isNone && x.maxCharts.isNone && x.maxTables.isNone

/-- What is wrong with the input, if anything is. -/
def validateInput (x : ReportInput) : Option String :=
  let reportType := x.reportType.getD ""
  let fmt := x.format.getD "markdown"
  if x.isEmpty then some "input_data 不能为空"
  else if reportType = "" then some "report_type 不能为空"
  else if ¬ allowedReportTypes.contains reportType then some ("不支持的 report_type: " ++ reportType)
  else if ¬ allowedFormatsStage1.contains fmt then
    some ("阶段一不支持的报告格式: " ++ fmt ++ "（仅支持 markdown / html）")
  else if x.tenantId.getD "" = "" then some "tenant_id 不能为空"
  else none

/-- The input with what the skill gives where it is missing. -/
def effectiveInput (x : ReportInput) : Option ReportSkillSet → ReportInput
  | none => x
  | some skills =>
      { x with
        reportType := some (x.reportType.getD skills.reportType)
        format := some (x.format.getD
          (if skills.defaultFormat.getD "" = "" then "markdown"
          else skills.defaultFormat.getD "")) }

end Input

section Evidence

/-- A piece of evidence is what a requirement asks for. -/
def EvidenceRequirement.metBy (r : EvidenceRequirement) (item : EvidenceItem) : Bool :=
  let said := fun key (target : String) =>
    match pyGet item.metadata key .none with
    | .str text => text == target
    | _ => false
  item.evidenceId == some r.evidenceId || r.sourceTargetId.any (said "source_target_id") ||
    r.tableName.any (said "table_name")

/-- How much of the evidence is from a source. -/
def countSource (evidence : List EvidenceItem) (sourceType : String) : Nat :=
  evidence.countP (fun item => item.sourceType == some sourceType)

/-- The evidence the skills ask for that is not there, each once. -/
def missingRequiredEvidence (skills : ReportSkillSet) (evidence : List EvidenceItem) :
    List String :=
  let missing :=
    (skills.evidenceRequirements.filter (fun r => r.required && !evidence.any r.metBy)).map
      EvidenceRequirement.evidenceId ++
    (if countSource evidence "db" < skills.minDbEvidenceCount.getD 0 then
      ["minimum_db_evidence"] else []) ++
    (if countSource evidence "rag" < skills.minRagEvidenceCount.getD 0 then
      ["minimum_rag_evidence"] else [])
  (dictOf (missing.map (fun id => (id, ())))).map Prod.fst

end Evidence

/-- What the tool returns. An output without a report has no status. -/
structure Output where
  success : Bool
  errorMessage : String := ""
  errorCode : String := ""
  artifact : Option ReportArtifact := none
  summary : String := ""
  qualityScore : ℚ := 0
  sectionCount : Nat := 0
  chartCount : Nat := 0
  tableCount : Nat := 0
  evidenceCount : Nat := 0
  fileUri : String := ""
  downloadUrl : String := ""
  isPartial : Bool := false
  publishMode : String := "full"
  publishStatus : Option PublishStatus := none
  needsHumanReview : Option Bool := none
  missingRequiredEvidence : List String := []

/-- An output for an error. -/
def errorOutput (errorMessage errorCode : String) : Output :=
  { success := false, errorMessage := errorMessage, errorCode := errorCode }

/-- The output where evidence is missing. -/
def skillEvidenceError (skills : ReportSkillSet) (missing : List String) : Output :=
  { errorOutput ("Skill '" ++ skills.skillId ++ "' 缺少必需证据: " ++ join ", " missing)
      "REPORT_EVIDENCE_INSUFFICIENT" with
    isPartial := true
    publishMode :=
      if policyFlag skills.publishPolicy "allow_summary_only" then "summary_only" else "partial"
    missingRequiredEvidence := missing }

section Writing

/-- What the planner gives: the title, and which planned sections have their
    evidence. -/
structure ReportPlan where
  title : String
  ready : List Bool

/-- A file that was stored. -/
structure Stored where
  fileUri : String
  downloadUrl : String
  fileSizeBytes : Nat

/-- What the tool calls. An exception is its text where the tool catches it. -/
structure Writers where
  verifier : VerifierEnv
  md5 : String → String
  showExc : Exc → String
  reportId : String
  now : String
  resolveSkillSet : ReportInput → Except String (Option ReportSkillSet)
  plan : ReportInput → Option ReportSkillSet → List EvidenceItem → Except String ReportPlan
  generateSections : ReportPlan → List EvidenceItem →
    Except String (List ReportSection × List String)
  buildCharts : List EvidenceItem → Nat → Except Exc (List ChartSpec)
  buildTables : List EvidenceItem → Nat → Except Exc (List TableSpec)
  collectSources : List EvidenceItem → ClaimBuilder.Claimed → Except Exc (List DataSourceRef)
  save : String → String → String → String → Except String Stored

/-- The first paragraphs of the sections, cut at 500 characters. -/
def buildSummary (sections : List ReportSection) : String :=
  if sections.isEmpty then "报告章节未生成。"
  else
    let texts := (sections.map (fun sec => strip sec.content)).filter (· ≠ "")
    let combined := join "\n" (texts.map (fun text => (split text "\n\n").headD ""))
    if 500 < combined.length then take combined 500 ++ "…" else combined

/-- The references of the contents, each once and in their order. -/
def collectEvidenceRefs (c : ClaimBuilder.Claimed) : List String :=
  let refs := c.sections.flatMap ReportSection.evidenceRefs ++
    c.charts.flatMap ChartSpec.evidenceRefs ++ c.tables.flatMap TableSpec.evidenceRefs
  (dictOf ((refs.filter (· ≠ "")).map (fun ref => (ref, ())))).map Prod.fst

/-- The share of planned sections that have their evidence. -/
def computeCoverage (plan : ReportPlan) : ℚ :=
  if plan.ready.isEmpty then 0
  else roundHalfEven ((plan.ready.count true : ℚ) / plan.ready.length * 100) / 100

end Writing

section Drafting

/-- A report before it is verified, with what it is verified against. -/
structure Draft where
  artifact : ReportArtifact
  evidence : List EvidenceItem
  options : VerifyOptions

/-- What drafting ends in. -/
inductive Composed where
  | refused (o : Output)
  | drafted (d : Draft)

variable (w : Writers) (cfg : ToolConfig)

/-- The builder of claims that goes with the configuration. -/
def claimBuilder : ClaimBuilder where
  md5 := w.md5
  lowConfidenceThreshold := cfg.review.lowConfidenceThreshold

/-- The draft of a report, from its contents. The status is decided here. -/
def draft (x : ReportInput) (skills : Option ReportSkillSet) (evidence : List EvidenceItem)
    (plan : ReportPlan) (c : ClaimBuilder.Claimed) (sources : List DataSourceRef)
    (failed : List String) : Draft :=
  let policy := (skills.map ReportSkillSet.publishPolicy).getD []
  let reportType := x.reportType.getD ""
  -- The status is set before there is a verification.
  let (status, reason, review) := evaluate cfg.review c.claims policy reportType
  { artifact :=
      { reportId := w.reportId
        title := some plan.title
        reportType := reportType
        format := x.format.getD "markdown"
        language := some (x.language.getD "zh_CN")
        objective := x.objective.getD ""
        audience := x.audience.getD ""
        summary := buildSummary c.sections
        sections := c.sections
        charts := c.charts
        tables := c.tables
        evidenceRefs := collectEvidenceRefs c
        claims := c.claims
        dataSources := sources
        humanReviewResult := some review
        publishStatus := some status
        publishStatusReason := reason
        tenantId := x.tenantId.getD ""
        userId := x.userId.getD ""
        createdAt := w.now
        isPartial := !failed.isEmpty
        failedSections := failed
        coverageScore := computeCoverage plan }
    evidence := evidence
    options :=
      { maxSections := x.maxSections.getD 10
        maxCharts := x.maxCharts.getD 6
        maxTables := x.maxTables.getD 8
        scanSensitive := cfg.safety.scanSensitiveData
        claimRules := (skills.map ReportSkillSet.claimRules).getD []
        publishPolicy := policy
        coreSections := (skills.map ReportSkillSet.coreSections).getD [] } }

/-- The contents of a report and its draft, for an input that was accepted. -/
def write (x : ReportInput) (skills : Option ReportSkillSet) (evidence : List EvidenceItem) :
    Except Exc Composed :=
  match w.plan x skills evidence with
  | .error message => .ok (.refused (errorOutput ("章节规划失败: " ++ message) "REPORT_PLAN_FAILED"))
  | .ok plan =>
      match w.generateSections plan evidence with
      | .error message =>
          .ok (.refused (errorOutput ("章节生成失败: " ++ message)
            "REPORT_SECTION_GENERATION_FAILED"))
      | .ok (sections, failed) => do
          let charts ← w.buildCharts evidence (x.maxCharts.getD 6)
          let tables ← w.buildTables evidence (x.maxTables.getD 8)
          let c := (claimBuilder w cfg).build sections charts tables evidence
          let sources ← w.collectSources evidence c
          return .drafted (draft w cfg x skills evidence plan c sources failed)

/-- The evidence that is at least needed. -/
def minEvidence (skills : Option ReportSkillSet) : Nat :=
  max cfg.minEvidenceCount ((skills.bind ReportSkillSet.minEvidenceCount).getD 0)

/-- The first five steps of the tool: the checks, and the draft. -/
def compose (input : ReportInput) : Except Exc Composed :=
  match w.resolveSkillSet input with
  | .error message => .ok (.refused (errorOutput message "REPORT_INPUT_INVALID"))
  | .ok skills =>
      let x := effectiveInput input skills
      match validateInput x with
      | some message => .ok (.refused (errorOutput message "REPORT_INPUT_INVALID"))
      | none =>
          let evidence := x.evidence.getD []
          let missing := (skills.map (missingRequiredEvidence · evidence)).getD []
          -- What the skills require is checked before how much there is.
          match skills, missing with
          | some s, _ :: _ => .ok (.refused (skillEvidenceError s missing))
          | _, _ =>
              if evidence.length < minEvidence cfg skills then
                .ok (.refused (errorOutput ("证据不足：当前 " ++ toString evidence.length ++
                  " 条，期望至少 " ++ toString (minEvidence cfg skills) ++ " 条")
                  "REPORT_EVIDENCE_INSUFFICIENT"))
              else write w cfg x skills evidence

end Drafting

section Publishing

variable (w : Writers) (cfg : ToolConfig)

/-- The parts of an output that only depend on the report. -/
def reportOutput (a : ReportArtifact) (evidence : List EvidenceItem) (v : VerificationResult) :
    Output :=
  { success := true
    artifact := some a
    qualityScore := v.score
    sectionCount := a.sections.length
    chartCount := a.charts.length
    tableCount := a.tables.length
    evidenceCount := evidence.length
    publishStatus := a.publishStatus
    needsHumanReview := some (a.publishStatus == some .pendingReview) }

/-- An output for a report that was not exported or not stored. -/
def unfinished (a : ReportArtifact) (evidence : List EvidenceItem) (v : VerificationResult)
    (success : Bool) (errorMessage errorCode summary : String) : Output :=
  { reportOutput a evidence v with
    success := success
    errorMessage := errorMessage
    errorCode := errorCode
    summary := summary
    isPartial := true
    publishMode := "partial" }

/-- The output for a report that failed the verification. -/
def verificationFailed (a : ReportArtifact) (evidence : List EvidenceItem)
    (v : VerificationResult) : Output :=
  unfinished a evidence v false "报告验证未通过，无法导出" "REPORT_VERIFICATION_FAILED"
    "报告生成过程中发现部分数字无法与数据来源匹配，当前未导出正式报告。"

/-- The output for a report that was stored. An approved one is published. -/
def finished (a : ReportArtifact) (evidence : List EvidenceItem) (v : VerificationResult)
    (stored : Stored) : Output :=
  let isPublic := a.publishStatus.any PublishStatus.isPublic
  let final := if a.publishStatus = some .approved then some .published else a.publishStatus
  let a := { a with
    publishStatus := final
    fileUri := stored.fileUri
    fileSizeBytes := stored.fileSizeBytes }
  let isPending := final == some .pendingReview
  { reportOutput a evidence v with
    errorMessage :=
      if isPending then "报告进入人工审核（" ++ a.publishStatusReason ++ "）"
      else if final = some .rejected then "报告被驳回: " ++ a.publishStatusReason
      else ""
    errorCode :=
      if isPending then "REPORT_PUBLISH_PENDING"
      else if final = some .rejected then "REPORT_REJECTED"
      else ""
    summary := a.summary
    fileUri := stored.fileUri
    downloadUrl := if isPublic then stored.downloadUrl else ""
    isPartial := a.isPartial || isPending
    publishMode := if a.isPartial || isPending then "partial" else "full" }

/-- The last five steps of the tool: the draft is verified, exported and
    stored. -/
def publish (d : Draft) : Output :=
  let v := verify w.verifier d.artifact d.evidence d.options
  let a := { d.artifact with verificationResult := some v }
  if cfg.safety.requireVerifiedEvidence ∧ v.passed = false then
    verificationFailed a d.evidence v
  else
    match exportReport w.verifier.unicode a a.format with
    | .error e =>
        unfinished a d.evidence v false ("导出失败: " ++ w.showExc e) "REPORT_EXPORT_FAILED"
          "报告生成成功但导出失败。"
    | .ok (content, extension) =>
        let tenant := if a.tenantId = "" then "unknown" else a.tenantId
        match w.save tenant a.reportId content extension with
        | .error message =>
            -- The report can still be shown, so this counts as a success.
            unfinished a d.evidence v true ("存储失败: " ++ message) "REPORT_STORAGE_FAILED"
              "报告生成成功但存储失败，可内联查看。"
        | .ok stored => finished a d.evidence v stored

/-- `ReportTool.invoke`. -/
def invoke (input : ReportInput) : Except Exc Output := do
  match ← compose w cfg input with
  | .refused o => return o
  | .drafted d => return publish w cfg d

end Publishing

end Report

end AgenticRag

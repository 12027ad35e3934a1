import AgenticRag.Core.SensitiveScanner

/-!
# The Report Verifier

The checks a report has to pass before it is exported. None of them asks a
model: they look at the structure of the report, at the references it makes
to evidence, and at the text for sensitive data. An issue of high or critical
severity fails the report, and the others only lower its score.

Which numbers a section names is decided by a pattern, and the check on them
asks only whether the section has references at all.

## Main definitions

* `numberPattern`, `numbersIn`: The numbers of a text.
* `verify`: The verifier.
-/

namespace AgenticRag

namespace Report

open Py

/-- The pattern `\b\d+(?:\.\d+)?%?\b`. -/
def numberPattern (u : Unicode) : Regex :=
  bounded u (.seq (many1 digit) (.seq (opt (.seq (lit ".") (many1 digit))) (opt (lit "%"))))

/-- The numbers of a text. -/
def numbersIn (u : Unicode) (text : String) : List String :=
  (finditer (numberPattern u) text).map Match.text

/-- What the verifier takes from its surroundings: the Unicode database with
    the folding of case, how a set is written out, and the clock. -/
structure VerifierEnv where
  unicode : Unicode
  casefold : String → String
  showSet : List (Option String) → String
  now : String

instance : Inhabited VerifierEnv :=
  ⟨{ unicode := default, casefold := String.toLower, showSet := fun _ => "", now := "" }⟩

/-- A rule of the skill about the claims of a report. -/
structure ClaimRule where
  ruleId : String := ""
  forbiddenTerms : List String := []
  claimTypes : List String := []
  requiredSourceTypes : List String := []

/-- The arguments of the verifier other than the report and the evidence. -/
structure VerifyOptions where
  maxSections : Nat := 10
  maxCharts : Nat := 6
  maxTables : Nat := 8
  scanSensitive : Bool := true
  claimRules : List ClaimRule := []
  publishPolicy : Dict := []
  coreSections : List String := []

/-- Whether a flag of a policy is set. -/
def policyFlag (policy : Dict) (key : String) : Bool :=
  (pyGet policy key (.bool false)).truthy

/-- The identifiers of the evidence that has one. -/
def validEvidenceIds (evidence : List EvidenceItem) : List String :=
  (evidence.filterMap EvidenceItem.evidenceId).filter (· ≠ "")

/-- The name of a section in a message. -/
def ReportSection.label (sec : ReportSection) : String :=
  sec.title.getD (sec.sectionId.getD "unknown")

/-- What a chart is called. -/
def ChartSpec.label (chart : ChartSpec) : String :=
  chart.title.getD (chart.chartId.getD "unknown")

/-- What a table is called. -/
def TableSpec.label (table : TableSpec) : String :=
  table.title.getD (table.tableId.getD "unknown")

section Checks

variable (env : VerifierEnv)

/-- An issue with a section. -/
def sectionIssue (code : String) (severity : Severity) (sec : ReportSection) (message : String) :
    VerificationIssue :=
  { code := code
    severity := severity
    message := message
    sectionId := some (sec.sectionId.getD "unknown") }

/-- Every section has references, other than one with recommendations. -/
def sectionRefIssues (artifact : ReportArtifact) : List VerificationIssue :=
  (artifact.sections.filter (fun sec =>
    sec.evidenceRefs.isEmpty && sec.sectionType != "recommendation")).map (fun sec =>
      sectionIssue "VER_SECTION_NO_REFS" .high sec
        ("章节「" ++ sec.label ++ "」没有任何 evidence_refs"))

/-- Warns of advice without evidence. -/
def sectionRefWarnings (artifact : ReportArtifact) : List String :=
  (artifact.sections.filter (fun sec =>
    sec.evidenceRefs.isEmpty && sec.sectionType == "recommendation")).map (fun sec =>
      "章节「" ++ sec.label ++ "」(recommendation) 无 evidence_refs，" ++
        "建议由人工补充或标注 unsupported")

/-- A section with numbers has references. -/
def numberIssues (artifact : ReportArtifact) : List VerificationIssue :=
  (artifact.sections.filter (fun sec =>
    !(numbersIn env.unicode sec.content).isEmpty && sec.evidenceRefs.isEmpty)).map (fun sec =>
      sectionIssue "VER_NUMBERS_NO_REFS" .high sec
        ("章节「" ++ sec.label ++ "」包含数字但无 evidence_refs"))

/-- Every chart has references. -/
def chartRefIssues (artifact : ReportArtifact) : List VerificationIssue :=
  (artifact.charts.filter (fun chart => chart.evidenceRefs.isEmpty)).map (fun chart =>
    { code := "VER_CHART_NO_REFS"
      severity := .high
      message := "图表「" ++ chart.label ++ "」没有绑定 evidence"
      chartId := some (chart.chartId.getD "unknown") })

/-- Every table has references. -/
def tableRefIssues (artifact : ReportArtifact) : List VerificationIssue :=
  (artifact.tables.filter (fun table => table.evidenceRefs.isEmpty)).map (fun table =>
    { code := "VER_TABLE_NO_REFS"
      severity := .high
      message := "表格「" ++ table.label ++ "」没有绑定 evidence"
      tableId := some (table.tableId.getD "unknown") })

/-- The references that lead to no evidence. -/
def danglingRefs (evidence : List EvidenceItem) (refs : List String) : List String :=
  refs.filter (fun ref => !(validEvidenceIds evidence).contains ref)

/-- Every reference leads to evidence. -/
def refIssues (artifact : ReportArtifact) (evidence : List EvidenceItem) :
    List VerificationIssue :=
  artifact.sections.flatMap (fun sec => (danglingRefs evidence sec.evidenceRefs).map (fun ref =>
    sectionIssue "VER_REF_NOT_EXIST" .high sec
      ("章节「" ++ sec.label ++ "」引用了不存在的 evidence_id: " ++ ref))) ++
  artifact.charts.flatMap (fun chart =>
    (danglingRefs evidence chart.evidenceRefs).map (fun ref =>
      { code := "VER_REF_NOT_EXIST"
        severity := .high
        message := "图表「" ++ chart.label ++ "」引用了不存在的 evidence_id: " ++ ref
        chartId := some (chart.chartId.getD "unknown") })) ++
  artifact.tables.flatMap (fun table =>
    (danglingRefs evidence table.evidenceRefs).map (fun ref =>
      { code := "VER_REF_NOT_EXIST"
        severity := .high
        message := "表格「" ++ table.label ++ "」引用了不存在的 evidence_id: " ++ ref
        tableId := some (table.tableId.getD "unknown") }))

/-- The issue a finding becomes. -/
def sensitiveIssue (severity : Severity) (finding : Finding) : VerificationIssue :=
  { code := "VER_SENSITIVE_" ++ finding.code
    severity := severity
    message := "检测到 " ++ severity.text ++ " 级敏感信息: " ++ finding.name ++
      "（位置: " ++ finding.location ++ "）"
    field := some finding.location }

/-- No finding is of high or critical severity. Where there are critical ones,
    only these are listed. -/
def sensitiveIssues (findings : List Finding) : List VerificationIssue :=
  if hasCritical findings then
    (findings.filter (fun f => f.severity == .critical)).map (sensitiveIssue .critical)
  else if hasHigh findings then
    (findings.filter (fun f => f.severity.isBlocking)).map (sensitiveIssue .high)
  else []

/-- Warns of what is little sensitive. -/
def sensitiveWarnings (findings : List Finding) : List String :=
  if hasCritical findings || hasHigh findings then []
  else findings.map (fun f =>
    "检测到 " ++ f.severity.text ++ " 级敏感信息: " ++ f.name ++ "（位置: " ++ f.location ++ "）")

/-- Every section has a text. -/
def contentIssues (artifact : ReportArtifact) : List VerificationIssue :=
  (artifact.sections.filter (fun sec => strip sec.content == "")).map (fun sec =>
    sectionIssue "VER_EMPTY_CONTENT" .medium sec ("章节「" ++ sec.label ++ "」内容为空"))

/-- No two sections have the same identifier. -/
def duplicateIssues (artifact : ReportArtifact) : List VerificationIssue :=
  let ids := artifact.sections.map ReportSection.sectionId
  let duplicates := (ids.filter (fun x => 1 < ids.count x)).dedup
  if duplicates.isEmpty then []
  else
    [{ code := "VER_DUPLICATE_SECTIONS"
       severity := .medium
       message := "发现重复的章节 ID: " ++ env.showSet duplicates }]

/-- One of the limits on how much a report holds. -/
def limitIssue (code what : String) (count limit : Nat) : List VerificationIssue :=
  if limit < count then
    [{ code := code
       severity := .medium
       message := what ++ " " ++ toString count ++ " 超过限制 " ++ toString limit }]
  else []

/-- Too much of something. -/
def quantityIssues (artifact : ReportArtifact) (o : VerifyOptions) : List VerificationIssue :=
  limitIssue "VER_TOO_MANY_SECTIONS" "章节数" artifact.sections.length o.maxSections ++
  limitIssue "VER_TOO_MANY_CHARTS" "图表数" artifact.charts.length o.maxCharts ++
  limitIssue "VER_TOO_MANY_TABLES" "表格数" artifact.tables.length o.maxTables

/-- The source of the evidence under an identifier, the last one that has it. -/
def sourceOf (evidence : List EvidenceItem) (ref : String) : Option String :=
  ((evidence.reverse.find? (fun item => item.evidenceId == some ref)).bind
    EvidenceItem.sourceType)

/-- A text list as Python writes it. -/
def showList (texts : List String) : String :=
  Val.repr env.unicode (.list (texts.map Val.str))

/-- The texts of a set in their order. -/
def sortedSet (texts : List String) : List String :=
  texts.dedup.insertionSort (fun a b => a ≤ b)

/-- A rule of the skill speaks about a section. -/
def ruleApplies (rule : ClaimRule) (sec : ReportSection) : Bool :=
  (rule.claimTypes.contains "recommendation" && sec.sectionType == "recommendation") ||
  ((rule.claimTypes.contains "metric" || rule.claimTypes.contains "comparison") &&
    !(numbersIn env.unicode (env.casefold sec.content)).isEmpty)

/-- The sources a rule asks for that the references of a section do not have. -/
def sourceMissing (evidence : List EvidenceItem) (rule : ClaimRule) (sec : ReportSection) : Bool :=
  !rule.requiredSourceTypes.isEmpty &&
  !rule.requiredSourceTypes.all (fun source =>
    (sec.evidenceRefs.map (sourceOf evidence)).contains (some source))

/-- What a rule finds in a section. -/
def ruleIssues (evidence : List EvidenceItem) (sec : ReportSection) (rule : ClaimRule) :
    List VerificationIssue :=
  (if rule.forbiddenTerms.any (fun term =>
      contains (env.casefold sec.content) (env.casefold term)) then
    [sectionIssue "VER_SKILL_FORBIDDEN_CLAIM" .high sec
      ("章节包含 Skill 禁止声明: " ++ rule.ruleId)]
  else []) ++
  (if ruleApplies env rule sec && sec.evidenceRefs.isEmpty then
    [sectionIssue "VER_SKILL_CLAIM_NO_REFS" .high sec
      ("Skill 规则 " ++ rule.ruleId ++ " 要求声明关联 Evidence")]
  else []) ++
  (if ruleApplies env rule sec && sourceMissing evidence rule sec then
    [sectionIssue "VER_SKILL_CLAIM_SOURCE_MISMATCH" .high sec
      ("Skill 规则 " ++ rule.ruleId ++ " 要求 Evidence 来源: " ++
        showList env (sortedSet rule.requiredSourceTypes))]
  else [])

/-- The sections keep to the rules of the skill. -/
def skillIssues (artifact : ReportArtifact) (evidence : List EvidenceItem) (o : VerifyOptions) :
    List VerificationIssue :=
  artifact.sections.flatMap (fun sec => o.claimRules.flatMap (ruleIssues env evidence sec))

/-- The core sections that the report does not have. -/
def missingSections (artifact : ReportArtifact) (o : VerifyOptions) : List String :=
  o.coreSections.filter (fun id => !(artifact.sections.map ReportSection.sectionId).contains (some id))

/-- The report has its core sections where the policy asks for them. -/
def policyIssues (artifact : ReportArtifact) (o : VerifyOptions) : List VerificationIssue :=
  if policyFlag o.publishPolicy "require_all_core_sections" &&
      !(missingSections artifact o).isEmpty then
    [{ code := "VER_SKILL_CORE_SECTION_MISSING"
       severity := .high
       message := "Skill 发布策略要求的核心章节缺失: " ++
         showList env (sortedSet (missingSections artifact o)) }]
  else []

/-- An issue with a claim. -/
def claimIssue (code : String) (severity : Severity) (claim : ReportClaim) (message : String) :
    VerificationIssue :=
  { code := code
    severity := severity
    message := message
    field := some ("claim:" ++ claim.claimId.getD "unknown") }

/-- The kinds of claim that rest on evidence. -/
def requireEvidenceTypes : List String := ["metric", "comparison", "trend", "fact"]

/-- What the verifier says about one claim. -/
def claimIssues (evidence : List EvidenceItem) (claim : ReportClaim) : List VerificationIssue :=
  let id := claim.claimId.getD "unknown"
  (if requireEvidenceTypes.contains claim.claimType && claim.evidenceRefs.isEmpty then
    [claimIssue "VER_CLAIM_MISSING_EVIDENCE" .high claim
      ("Claim " ++ id ++ " (" ++ claim.claimType ++ ") 缺少 evidence_refs")]
  else []) ++
  (danglingRefs evidence claim.evidenceRefs).map (fun ref =>
    claimIssue "VER_CLAIM_EVIDENCE_NOT_EXIST" .high claim
      ("Claim " ++ id ++ " 引用了不存在的 evidence_id: " ++ ref)) ++
  (if claim.needsHumanReview then
    [claimIssue "VER_CLAIM_NEEDS_HUMAN_REVIEW" .medium claim
      ("Claim " ++ id ++ " 需要人工核实: " ++ claim.reviewReason)]
  else []) ++
  (if claim.supportStatus == "unsupported" then
    [claimIssue "VER_CLAIM_UNSUPPORTED" .low claim
      ("Claim " ++ id ++ " (" ++ claim.claimType ++ ") 标记为 unsupported，" ++
        "导出时将显示「未经验证」")]
  else [])

/-- The lineage of the claims. -/
def checkClaimLineage (artifact : ReportArtifact) (evidence : List EvidenceItem) :
    List VerificationIssue :=
  artifact.claims.flatMap (claimIssues evidence)

end Checks

section Result

/-- What an issue takes from the score. -/
def issueWeight : Severity → ℚ
  | .critical => 30 / 100
  | .high => 20 / 100
  | .medium => 10 / 100
  | .low => 5 / 100

/-- The score the issues leave. -/
def calculateScore (issues : List VerificationIssue) (totalChecks : Nat) : ℚ :=
  if issues.isEmpty then 1
  else
    let penalty := (issues.map (fun i => issueWeight i.severity)).sum
    -- The more checks there are, the less an issue weighs.
    let maxPenalty := max (20 / 100 * totalChecks) 1
    roundHalfEven (max 0 (1 - penalty / maxPenalty) * 100) / 100

/-- The checks, in the order they are made. -/
def checksPerformed (artifact : ReportArtifact) (o : VerifyOptions) : List String :=
  ["section_has_evidence_refs", "numbers_from_structured_evidence", "charts_have_evidence",
    "tables_have_evidence", "refs_exist_in_evidence"] ++
  (if o.scanSensitive then ["sensitive_data_scan"] else []) ++
  ["unauthorized_data_check", "language_consistency", "section_uniqueness", "quantity_limits"] ++
  (if o.claimRules.isEmpty then [] else ["skill_claim_rules"]) ++
  (if o.publishPolicy.isEmpty then [] else ["skill_publish_policy"]) ++
  (if artifact.claims.isEmpty then [] else ["claim_lineage_check"])

variable (env : VerifierEnv)

/-- What the scan finds, where it is asked for. -/
def sensitiveFindings (artifact : ReportArtifact) (o : VerifyOptions) : List Finding :=
  if o.scanSensitive then scanArtifact env.unicode artifact else []

/-- The issues of a report, in the order of the checks. -/
def verifyIssues (artifact : ReportArtifact) (evidence : List EvidenceItem) (o : VerifyOptions) :
    List VerificationIssue :=
  sectionRefIssues artifact ++ numberIssues env artifact ++ chartRefIssues artifact ++
  tableRefIssues artifact ++ refIssues artifact evidence ++
  sensitiveIssues (sensitiveFindings env artifact o) ++ contentIssues artifact ++
  duplicateIssues env artifact ++ quantityIssues artifact o ++
  skillIssues env artifact evidence o ++ policyIssues env artifact o ++
  checkClaimLineage artifact evidence

/-- The verifier. -/
def verify (artifact : ReportArtifact) (evidence : List EvidenceItem) (o : VerifyOptions) :
    VerificationResult :=
  let issues := verifyIssues env artifact evidence o
  let checks := checksPerformed artifact o
  -- Medium and low issues lower the score, and nothing else.
  { passed := !issues.any (fun i => i.severity.isBlocking)
    score := calculateScore issues checks.length
    issues := issues
    warnings := sectionRefWarnings artifact ++
      sensitiveWarnings (sensitiveFindings env artifact o)
    checksPerformed := checks
    checkedAt := env.now }

end Result

end Report

end AgenticRag

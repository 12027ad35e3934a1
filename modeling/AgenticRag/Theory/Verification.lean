import AgenticRag.Core.ReportVerifier
import AgenticRag.Lib.RegexFirst
import AgenticRag.Theory.Scanning

/-!
# What the Verifier Accepts

The verifier lists issues and passes a report without a serious one. Here is
what that comes to, said about the report itself: `Accepts` has one condition
for each of the checks that can fail a report, and a report passes if and only
if it meets them all (`verify_passed_iff`).

The numbers of a section are to come from the evidence it refers to. The check
on them asks only for a reference, and of the evidence the verifier reads the
identifiers and the sources, never what it says (`accepts_of_sameSources`). So
what it passes has its numbers from its evidence, whatever that says, if and
only if there are no numbers in it (`numbers_supported_iff`).

## Main definitions

* `Accepts`: The conditions a report has to meet.
* `Supported`: A number occurs in the evidence a section refers to.

## Theorems

* `verify_passed_iff`: A report passes if and only if it meets the conditions.
* `accepts_of_sameSources`: What the evidence says makes no difference.
* `numbers_supported_iff`: When the numbers of passed reports are supported.
-/

namespace AgenticRag

namespace Report

open Py

/-- The references of a part of a report all lead to evidence. -/
def RefsExist (evidence : List EvidenceItem) (refs : List String) : Prop :=
  ∀ ref ∈ refs, ref ∈ validEvidenceIds evidence

/-- A section keeps to a rule of the skill. -/
structure KeepsRule (env : VerifierEnv) (evidence : List EvidenceItem) (sec : ReportSection)
    (rule : ClaimRule) : Prop where
  allowed : ∀ term ∈ rule.forbiddenTerms,
    contains (env.casefold sec.content) (env.casefold term) = false
  refs : ruleApplies env rule sec = true → sec.evidenceRefs ≠ []
  sources : ruleApplies env rule sec = true → sourceMissing evidence rule sec = false

/-- The conditions a report has to meet. -/
structure Accepts (env : VerifierEnv) (a : ReportArtifact) (evidence : List EvidenceItem)
    (o : VerifyOptions) : Prop where
  sectionRefs : ∀ sec ∈ a.sections, sec.evidenceRefs = [] → sec.sectionType = "recommendation"
  numberRefs : ∀ sec ∈ a.sections, numbersIn env.unicode sec.content ≠ [] → sec.evidenceRefs ≠ []
  chartRefs : ∀ chart ∈ a.charts, chart.evidenceRefs ≠ []
  tableRefs : ∀ table ∈ a.tables, table.evidenceRefs ≠ []
  sectionsExist : ∀ sec ∈ a.sections, RefsExist evidence sec.evidenceRefs
  chartsExist : ∀ chart ∈ a.charts, RefsExist evidence chart.evidenceRefs
  tablesExist : ∀ table ∈ a.tables, RefsExist evidence table.evidenceRefs
  clean : o.scanSensitive = true → ∀ text ∈ scannedTexts env.unicode a, Clean env.unicode text
  rules : ∀ sec ∈ a.sections, ∀ rule ∈ o.claimRules, KeepsRule env evidence sec rule
  core : policyFlag o.publishPolicy "require_all_core_sections" = true → missingSections a o = []
  claimRefs : ∀ claim ∈ a.claims, claim.claimType ∈ requireEvidenceTypes → claim.evidenceRefs ≠ []
  claimsExist : ∀ claim ∈ a.claims, RefsExist evidence claim.evidenceRefs

section Clear

/-- No issue fails the report. -/
def Clear (issues : List VerificationIssue) : Prop :=
  ∀ i ∈ issues, i.severity.isBlocking = false

theorem clear_nil : Clear [] := List.forall_mem_nil _

theorem clear_append {is js : List VerificationIssue} :
    Clear (is ++ js) ↔ Clear is ∧ Clear js :=
  List.forall_mem_append

theorem clear_flatMap {α : Type} {f : α → List VerificationIssue} {xs : List α} :
    Clear (xs.flatMap f) ↔ ∀ x ∈ xs, Clear (f x) := by
  constructor
  · exact fun h x hx i hi => h i (List.mem_flatMap.mpr ⟨x, hx, hi⟩)
  · intro h i hi
    rcases List.mem_flatMap.mp hi with ⟨x, hx, hi⟩
    exact h x hx i hi

/-- Issues that each fail the report. -/
theorem clear_map {α : Type} {f : α → VerificationIssue} {xs : List α}
    (hf : ∀ x, (f x).severity.isBlocking = true) : Clear (xs.map f) ↔ xs = [] := by
  constructor
  · intro h
    rw [List.eq_nil_iff_forall_not_mem]
    intro x hx
    have hnot := h (f x) (List.mem_map_of_mem hx)
    rw [hf x] at hnot
    cases hnot
  · rintro rfl
    exact clear_nil

/-- Issues that never do. -/
theorem clear_minor {α : Type} {f : α → VerificationIssue} (xs : List α)
    (hf : ∀ x, (f x).severity.isBlocking = false) : Clear (xs.map f) := by
  intro i hi
  rcases List.mem_map.mp hi with ⟨x, -, rfl⟩
  exact hf x

theorem clear_if {P : Prop} [Decidable P] {i : VerificationIssue}
    (hi : i.severity.isBlocking = true) : Clear (if P then [i] else []) ↔ ¬ P := by
  split
  next h => exact iff_of_false (fun hclear => by
    have hnot := hclear i List.mem_cons_self
    rw [hi] at hnot
    cases hnot) (not_not.mpr h)
  next h => exact iff_of_true clear_nil h

theorem clear_if_minor {P : Prop} [Decidable P] {i : VerificationIssue}
    (hi : i.severity.isBlocking = false) : Clear (if P then [i] else []) := by
  split
  · exact List.forall_mem_singleton.mpr hi
  · exact clear_nil

theorem danglingRefs_eq_nil {evidence : List EvidenceItem} {refs : List String} :
    danglingRefs evidence refs = [] ↔ RefsExist evidence refs := by
  simp [danglingRefs, RefsExist, List.filter_eq_nil_iff]

theorem clear_sensitiveIssues (findings : List Finding) :
    Clear (sensitiveIssues findings) ↔ hasHigh findings = false := by
  have hcritical : hasCritical findings = true → hasHigh findings = true := by
    simp only [hasCritical, hasHigh, List.any_eq_true, beq_iff_eq]
    rintro ⟨f, hf, hsev⟩
    exact ⟨f, hf, by rw [hsev]; rfl⟩
  rw [sensitiveIssues]
  split
  next h =>
    rw [clear_map (fun _ => rfl), hcritical h]
    simp only [hasCritical, List.any_eq_true] at h
    rcases h with ⟨f, hf, hsev⟩
    refine iff_of_false (fun hnil => ?_) (fun h => by cases h)
    exact List.not_mem_nil (hnil ▸ List.mem_filter.mpr ⟨hf, hsev⟩)
  · split
    next h =>
      rw [clear_map (fun _ => rfl), h]
      simp only [hasHigh, List.any_eq_true] at h
      rcases h with ⟨f, hf, hsev⟩
      refine iff_of_false (fun hnil => ?_) (fun h => by cases h)
      exact List.not_mem_nil (hnil ▸ List.mem_filter.mpr ⟨hf, hsev⟩)
    next h => exact iff_of_true clear_nil (Bool.eq_false_iff.mpr h)

end Clear

section Checks

variable (env : VerifierEnv) (a : ReportArtifact) (evidence : List EvidenceItem) (o : VerifyOptions)

theorem clear_sectionRefIssues : Clear (sectionRefIssues a) ↔
    ∀ sec ∈ a.sections, sec.evidenceRefs = [] → sec.sectionType = "recommendation" := by
  rw [sectionRefIssues, clear_map (fun _ => rfl), List.filter_eq_nil_iff]
  refine forall₂_congr (fun sec _ => ?_)
  simp only [Bool.and_eq_true, List.isEmpty_iff, bne_iff_ne, ne_eq, not_and, not_not]

theorem clear_numberIssues : Clear (numberIssues env a) ↔
    ∀ sec ∈ a.sections, numbersIn env.unicode sec.content ≠ [] → sec.evidenceRefs ≠ [] := by
  rw [numberIssues, clear_map (fun _ => rfl), List.filter_eq_nil_iff]
  refine forall₂_congr (fun sec _ => ?_)
  simp only [Bool.and_eq_true, Bool.not_eq_true', List.isEmpty_eq_false_iff, List.isEmpty_iff,
    ne_eq, not_and]

theorem clear_chartRefIssues : Clear (chartRefIssues a) ↔
    ∀ chart ∈ a.charts, chart.evidenceRefs ≠ [] := by
  rw [chartRefIssues, clear_map (fun _ => rfl), List.filter_eq_nil_iff]
  simp only [List.isEmpty_iff, ne_eq]

theorem clear_tableRefIssues : Clear (tableRefIssues a) ↔
    ∀ table ∈ a.tables, table.evidenceRefs ≠ [] := by
  rw [tableRefIssues, clear_map (fun _ => rfl), List.filter_eq_nil_iff]
  simp only [List.isEmpty_iff, ne_eq]

theorem clear_refIssues : Clear (refIssues a evidence) ↔
    ((∀ sec ∈ a.sections, RefsExist evidence sec.evidenceRefs) ∧
      ∀ chart ∈ a.charts, RefsExist evidence chart.evidenceRefs) ∧
      ∀ table ∈ a.tables, RefsExist evidence table.evidenceRefs := by
  simp only [refIssues, clear_append, clear_flatMap, ← danglingRefs_eq_nil]
  refine and_congr (and_congr ?_ ?_) ?_
  · exact forall₂_congr (fun sec _ => clear_map (fun _ => rfl))
  · exact forall₂_congr (fun chart _ => clear_map (fun _ => rfl))
  · exact forall₂_congr (fun table _ => clear_map (fun _ => rfl))

theorem clear_findings : Clear (sensitiveIssues (sensitiveFindings env a o)) ↔
    (o.scanSensitive = true → ∀ text ∈ scannedTexts env.unicode a, Clean env.unicode text) := by
  rw [clear_sensitiveIssues, sensitiveFindings]
  split
  next h =>
    rw [hasHigh_scanArtifact]
    exact ⟨fun hclean _ => hclean, fun hclean => hclean h⟩
  next h => exact iff_of_true rfl (fun hscan => absurd hscan h)

theorem clear_contentIssues : Clear (contentIssues a) :=
  clear_minor _ (fun _ => rfl)

theorem clear_duplicateIssues : Clear (duplicateIssues env a) := by
  dsimp only [duplicateIssues]
  split
  · exact clear_nil
  · exact List.forall_mem_singleton.mpr rfl

theorem clear_quantityIssues : Clear (quantityIssues a o) := by
  rw [quantityIssues, clear_append, clear_append]
  exact ⟨⟨clear_if_minor rfl, clear_if_minor rfl⟩, clear_if_minor rfl⟩

theorem clear_ruleIssues (sec : ReportSection) (rule : ClaimRule) :
    Clear (ruleIssues env evidence sec rule) ↔ KeepsRule env evidence sec rule := by
  rw [ruleIssues, clear_append, clear_append, clear_if rfl, clear_if rfl, clear_if rfl]
  simp only [Bool.and_eq_true, not_and, List.isEmpty_iff, List.any_eq_true, not_exists,
    Bool.not_eq_true]
  exact ⟨fun ⟨⟨h₁, h₂⟩, h₃⟩ => ⟨h₁, h₂, h₃⟩, fun ⟨h₁, h₂, h₃⟩ => ⟨⟨h₁, h₂⟩, h₃⟩⟩

theorem clear_skillIssues : Clear (skillIssues env a evidence o) ↔
    ∀ sec ∈ a.sections, ∀ rule ∈ o.claimRules, KeepsRule env evidence sec rule := by
  simp only [skillIssues, clear_flatMap, clear_ruleIssues]

theorem clear_policyIssues : Clear (policyIssues env a o) ↔
    (policyFlag o.publishPolicy "require_all_core_sections" = true → missingSections a o = []) := by
  rw [policyIssues, clear_if rfl]
  simp only [Bool.and_eq_true, Bool.not_eq_true', List.isEmpty_eq_false_iff, ne_eq, not_and,
    not_not]

theorem clear_claimLineage : Clear (checkClaimLineage a evidence) ↔
    (∀ claim ∈ a.claims, claim.claimType ∈ requireEvidenceTypes → claim.evidenceRefs ≠ []) ∧
      ∀ claim ∈ a.claims, RefsExist evidence claim.evidenceRefs := by
  rw [checkClaimLineage, clear_flatMap, ← forall₂_and]
  refine forall₂_congr (fun claim _ => ?_)
  rw [claimIssues, clear_append, clear_append, clear_append, clear_if rfl, clear_map (fun _ => rfl),
    danglingRefs_eq_nil]
  simp only [Bool.and_eq_true, List.contains_iff_mem, List.isEmpty_iff, not_and, ne_eq]
  exact ⟨fun h => h.1.1, fun h => ⟨⟨h, clear_if_minor rfl⟩, clear_if_minor rfl⟩⟩

/-- A report passes if and only if it meets the conditions. -/
theorem verify_passed_iff :
    (verify env a evidence o).passed = true ↔ Accepts env a evidence o := by
  have hpassed : (verify env a evidence o).passed = true ↔
      Clear (verifyIssues env a evidence o) := by
    simp only [verify, Bool.not_eq_true', List.any_eq_false, Bool.not_eq_true, Clear]
  rw [hpassed]
  simp only [verifyIssues, clear_append, clear_sectionRefIssues, clear_numberIssues,
    clear_chartRefIssues, clear_tableRefIssues, clear_refIssues, clear_findings,
    clear_contentIssues, clear_duplicateIssues, clear_quantityIssues, clear_skillIssues,
    clear_policyIssues, clear_claimLineage, and_true]
  constructor
  · rintro ⟨⟨⟨⟨⟨⟨⟨⟨h₁, h₂⟩, h₃⟩, h₄⟩, ⟨h₅, h₆⟩, h₇⟩, h₈⟩, h₉⟩, h₁₀⟩, h₁₁, h₁₂⟩
    exact ⟨h₁, h₂, h₃, h₄, h₅, h₆, h₇, h₈, h₉, h₁₀, h₁₁, h₁₂⟩
  · rintro ⟨h₁, h₂, h₃, h₄, h₅, h₆, h₇, h₈, h₉, h₁₀, h₁₁, h₁₂⟩
    exact ⟨⟨⟨⟨⟨⟨⟨⟨h₁, h₂⟩, h₃⟩, h₄⟩, ⟨h₅, h₆⟩, h₇⟩, h₈⟩, h₉⟩, h₁₀⟩, h₁₁, h₁₂⟩

end Checks

section Numbers

/-- A number occurs in the text or in the data of evidence that a section
    refers to. -/
def Supported (u : Unicode) (evidence : List EvidenceItem) (sec : ReportSection)
    (number : String) : Prop :=
  ∃ item ∈ evidence, (∃ id ∈ sec.evidenceRefs, item.evidenceId = some id) ∧
    (contains item.content number = true ∨
      contains ((Val.dict item.structuredData).toStr u) number = true)

/-- The numbers of a section all occur in the evidence it refers to. -/
def NumbersSupported (u : Unicode) (evidence : List EvidenceItem) (sec : ReportSection) : Prop :=
  ∀ number ∈ numbersIn u sec.content, Supported u evidence sec number

/-- Two lists of evidence have the same identifiers and sources, one by one. -/
def SameSources (evidence evidence' : List EvidenceItem) : Prop :=
  evidence'.map (fun item => (item.evidenceId, item.sourceType)) =
    evidence.map (fun item => (item.evidenceId, item.sourceType))

theorem SameSources.validEvidenceIds_eq {evidence evidence' : List EvidenceItem}
    (h : SameSources evidence evidence') :
    validEvidenceIds evidence' = validEvidenceIds evidence := by
  have hids := congrArg (List.filterMap Prod.fst) h
  rw [List.filterMap_map, List.filterMap_map] at hids
  exact congrArg (List.filter (· ≠ "")) hids

/-- The source under an identifier is found among the pairs of the two. -/
theorem sourceOf_eq (evidence : List EvidenceItem) (ref : String) :
    sourceOf evidence ref =
      ((evidence.map (fun item => (item.evidenceId, item.sourceType))).reverse.find?
        (fun pair => pair.1 == some ref)).bind Prod.snd := by
  rw [sourceOf, ← List.map_reverse, List.find?_map, Option.bind_map]
  rfl

theorem SameSources.sourceOf_eq {evidence evidence' : List EvidenceItem}
    (h : SameSources evidence evidence') (ref : String) :
    sourceOf evidence' ref = sourceOf evidence ref := by
  rw [Report.sourceOf_eq, Report.sourceOf_eq, h]

/-- What the evidence says makes no difference to the verifier. -/
theorem accepts_of_sameSources {env : VerifierEnv} {a : ReportArtifact}
    {evidence evidence' : List EvidenceItem} {o : VerifyOptions}
    (hsame : SameSources evidence evidence') (h : Accepts env a evidence o) :
    Accepts env a evidence' o := by
  have hrefs : ∀ refs, RefsExist evidence refs → RefsExist evidence' refs := by
    intro refs hexist ref href
    rw [hsame.validEvidenceIds_eq]
    exact hexist ref href
  have hmissing : ∀ rule sec, sourceMissing evidence' rule sec = sourceMissing evidence rule sec := by
    intro rule sec
    rw [sourceMissing, sourceMissing, funext hsame.sourceOf_eq]
  have hrule : ∀ sec rule, KeepsRule env evidence sec rule → KeepsRule env evidence' sec rule := by
    intro sec rule hkeeps
    refine ⟨hkeeps.allowed, hkeeps.refs, fun happlies => ?_⟩
    rw [hmissing]
    exact hkeeps.sources happlies
  exact
    { sectionRefs := h.sectionRefs
      numberRefs := h.numberRefs
      chartRefs := h.chartRefs
      tableRefs := h.tableRefs
      sectionsExist := fun sec hsec => hrefs _ (h.sectionsExist sec hsec)
      chartsExist := fun chart hchart => hrefs _ (h.chartsExist chart hchart)
      tablesExist := fun table htable => hrefs _ (h.tablesExist table htable)
      clean := h.clean
      rules := fun sec hsec rule hr => hrule sec rule (h.rules sec hsec rule hr)
      core := h.core
      claimRefs := h.claimRefs
      claimsExist := fun claim hclaim => hrefs _ (h.claimsExist claim hclaim) }

/-- A number has a digit. -/
theorem exists_digit_of_mem_numbersIn {u : Unicode} {text number : String}
    (h : number ∈ numbersIn u text) : ∃ c ∈ number.toList, isDecimal c = true := by
  rcases List.mem_map.mp h with ⟨m, hm, rfl⟩
  refine exists_of_mem_finditer ?_ ?_ hm
  · rfl
  · exact .inr (.inl (.inl ⟨Nat.one_pos, fun c hc => hc⟩))

/-- The evidence with nothing in it but identifiers and sources. -/
def silenced (evidence : List EvidenceItem) : List EvidenceItem :=
  evidence.map (fun item => { evidenceId := item.evidenceId, sourceType := item.sourceType })

theorem sameSources_silenced (evidence : List EvidenceItem) :
    SameSources evidence (silenced evidence) := by
  rw [SameSources, silenced, List.map_map]
  rfl

/-- Evidence that says nothing supports no number. -/
theorem not_supported_silenced {u : Unicode} {evidence : List EvidenceItem} {sec : ReportSection}
    {text number : String} (h : number ∈ numbersIn u text) :
    ¬ Supported u (silenced evidence) sec number := by
  rcases exists_digit_of_mem_numbersIn h with ⟨c, hc, hdigit⟩
  rintro ⟨item, hitem, -, hcontains⟩
  rcases List.mem_map.mp hitem with ⟨original, -, rfl⟩
  -- There are no digits in an empty text, nor in an empty dictionary.
  have hnone : ∀ silence : String, silence.toList.any isDecimal = false →
      ¬ contains silence number = true := by
    intro silence hsilence hpart
    have hmem := (of_decide_eq_true hpart).subset hc
    have hany : silence.toList.any isDecimal = true := List.any_eq_true.mpr ⟨c, hmem, hdigit⟩
    rw [hsilence] at hany
    cases hany
  rcases hcontains with hcontent | hdata
  · exact hnone "" rfl hcontent
  · have hempty : (Val.dict []).toStr u = "{}" := by
      simp [Val.toStr, Val.repr, Val.reprDict, join]
    exact hnone _ (by rw [hempty]; rfl) hdata

/-- What passes has its numbers from its evidence, whatever the evidence says
    under its identifiers and sources, if and only if the report does not meet
    the verifier's conditions or there are no numbers in its sections. -/
theorem numbers_supported_iff (env : VerifierEnv) (a : ReportArtifact)
    (evidence : List EvidenceItem) (o : VerifyOptions) :
    (∀ evidence', SameSources evidence evidence' → (verify env a evidence' o).passed = true →
        ∀ sec ∈ a.sections, NumbersSupported env.unicode evidence' sec) ↔
      (¬ Accepts env a evidence o ∨
        ∀ sec ∈ a.sections, numbersIn env.unicode sec.content = []) := by
  constructor
  · intro h
    refine or_iff_not_imp_left.mpr (fun haccepts sec hsec => ?_)
    have hsame := sameSources_silenced evidence
    have hpassed : (verify env a (silenced evidence) o).passed = true :=
      (verify_passed_iff env a _ o).mpr (accepts_of_sameSources hsame (not_not.mp haccepts))
    refine List.eq_nil_iff_forall_not_mem.mpr (fun number hnumber => ?_)
    exact not_supported_silenced hnumber (h _ hsame hpassed sec hsec number hnumber)
  · rintro (hrefused | hnumbers) evidence' hsame hpassed sec hsec number hnumber
    · have hback : SameSources evidence' evidence := hsame.symm
      exact absurd (accepts_of_sameSources hback ((verify_passed_iff env a evidence' o).mp hpassed))
        hrefused
    · rw [hnumbers sec hsec] at hnumber
      cases hnumber

/-- A report whose only section names a number that its evidence does not
    have. -/
def inventedNumber : ReportArtifact where
  sections :=
    [{ sectionId := some "overview", sectionType := "overview", content := "5",
       evidenceRefs := ["ev_1"] }]

/-- Evidence of another number. -/
def unrelatedEvidence : List EvidenceItem :=
  [{ evidenceId := some "ev_1", sourceType := some "rag", content := "3" }]

theorem inventedNumber_passes :
    (verify default inventedNumber unrelatedEvidence {}).passed = true ∧
      ¬ ∀ sec ∈ inventedNumber.sections,
        NumbersSupported (default : VerifierEnv).unicode unrelatedEvidence sec := by
  refine ⟨by decide, fun h => ?_⟩
  have hnumber : "5" ∈ numbersIn (default : VerifierEnv).unicode "5" := by decide
  rcases h _ List.mem_cons_self "5" hnumber with ⟨item, hitem, -, hcontains⟩
  rw [unrelatedEvidence, List.mem_singleton] at hitem
  rw [hitem] at hcontains
  exact absurd hcontains (by decide)

end Numbers

end Report

end AgenticRag

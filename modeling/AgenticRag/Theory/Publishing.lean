import AgenticRag.Core.ReportTool
import AgenticRag.Theory.Verification

/-!
# What May Be Published

When a report is handed out: with an address to download it from, or with the
status of an approved or published one. The status is decided with the draft, and
none of the later steps takes it back, so a draft that needs no review is handed
out whatever the verification says of it (`handedOut_publish`). Hence the tool
only hands out what was verified and needs no review exactly if every draft it
makes passes the verification or needs a review (`publishing_gated_iff`).

## Main definitions

* `HandedOut`: An output that hands a report out.
* `NeedsReview`: Why a draft needs a review.

## Theorems

* `compose_spec`: What a draft, or an output without one, looks like.
* `handedOut_publish`: Which drafts are handed out.
* `publishing_gated_iff`: When everything that is handed out is cleared.
-/

namespace AgenticRag

namespace Report

open Py

section Statements

/-- A report that may be handed out by its status. -/
def IsPublic (status : Option PublishStatus) : Prop := status.any PublishStatus.isPublic = true

/-- An output that hands a report out. -/
def HandedOut (o : Output) : Prop :=
  o.downloadUrl ≠ "" ∨ IsPublic o.publishStatus ∨
    ∃ a, o.artifact = some a ∧ IsPublic a.publishStatus

/-- An output whose report was verified and needs no review. -/
def Cleared (review : ReviewConfig) (policy : Dict) (o : Output) : Prop :=
  ∃ a v, o.artifact = some a ∧ a.verificationResult = some v ∧ v.passed = true ∧
    (shouldRequireHumanReview review a.claims policy a.reportType).1 = false

/-- The publish policy a request is under. -/
def policyOf (w : Writers) (input : ReportInput) : Dict :=
  match w.resolveSkillSet input with
  | .ok skills => (skills.map ReportSkillSet.publishPolicy).getD []
  | .error _ => []

/-- Whatever the tool hands out is cleared, with the safety settings at their
    defaults. -/
def Gated (w : Writers) (cfg : ToolConfig) (input : ReportInput) : Prop :=
  ∀ o, invoke w { cfg with safety := {} } input = .ok o → HandedOut o →
    Cleared cfg.review (policyOf w input) o

/-- Why a draft needs a review: the policy asks for it, reports of its type always
    need one, or too many of its claims are weak. -/
inductive NeedsReview (review : ReviewConfig) (d : Draft) : Prop where
  | policy (h : policyFlag d.options.publishPolicy "require_human_review" = true)
  | type (h : d.artifact.reportType ∈ highSensitivitySkillTypes)
  | weak (hne : d.artifact.claims ≠ [])
      (h : review.lowConfidenceRatioThreshold < lowConfidenceRatio review d.artifact.claims)

end Statements

section Review

variable {review : ReviewConfig} {d : Draft}

theorem requires_iff :
    (shouldRequireHumanReview review d.artifact.claims d.options.publishPolicy
      d.artifact.reportType).1 = true ↔ NeedsReview review d := by
  rw [shouldRequireHumanReview]
  by_cases hpolicy : policyFlag d.options.publishPolicy "require_human_review" = true
  · rw [if_pos hpolicy]
    exact iff_of_true rfl (.policy hpolicy)
  rw [if_neg hpolicy]
  by_cases htype : highSensitivitySkillTypes.contains d.artifact.reportType = true
  · rw [if_pos htype]
    exact iff_of_true rfl (.type (List.contains_iff_mem.mp htype))
  rw [if_neg htype]
  -- What is left is a reason in the claims.
  have hweak : NeedsReview review d → d.artifact.claims ≠ [] ∧
      review.lowConfidenceRatioThreshold < lowConfidenceRatio review d.artifact.claims := by
    intro hneeds
    cases hneeds with
    | policy h => exact absurd h hpolicy
    | type h => exact absurd (List.contains_iff_mem.mpr h) htype
    | weak hne h => exact ⟨hne, h⟩
  by_cases hempty : d.artifact.claims.isEmpty = true
  · rw [if_pos hempty]
    exact iff_of_false Bool.false_ne_true fun h => (hweak h).1 (List.isEmpty_iff.mp hempty)
  rw [if_neg hempty]
  by_cases hratio : review.lowConfidenceRatioThreshold <
      lowConfidenceRatio review d.artifact.claims
  · rw [if_pos hratio]
    exact iff_of_true rfl (.weak (fun h => hempty (List.isEmpty_iff.mpr h)) hratio)
  · rw [if_neg hratio]
    exact iff_of_false Bool.false_ne_true fun h => hratio (hweak h).2

/-- The status a report starts with is public if it needs no review. -/
theorem isPublic_evaluate (claims : List ReportClaim) (policy : Dict) (skillType : String) :
    IsPublic (some (evaluate review claims policy skillType).1) ↔
      (shouldRequireHumanReview review claims policy skillType).1 = false := by
  rw [evaluate]
  cases hrequires : (shouldRequireHumanReview review claims policy skillType).1 <;>
    simp [hrequires, IsPublic, PublishStatus.isPublic]

end Review

section Composing

variable {w : Writers} {cfg : ToolConfig} {input : ReportInput} {c : Composed}

/-- An output without a report hands nothing out. -/
structure Bare (o : Output) : Prop where
  artifact : o.artifact = none
  publishStatus : o.publishStatus = none
  downloadUrl : o.downloadUrl = ""

theorem bare_errorOutput (message code : String) : Bare (errorOutput message code) :=
  ⟨rfl, rfl, rfl⟩

theorem not_handedOut_of_bare {o : Output} (h : Bare o) : ¬ HandedOut o := by
  rintro (hurl | hstatus | ⟨a, ha, -⟩)
  · exact hurl h.downloadUrl
  · rw [IsPublic, h.publishStatus] at hstatus
    cases hstatus
  · rw [h.artifact] at ha
    cases ha

/-- Drafting ends in an output without a report, or in a draft under the skills
    it was given. -/
theorem write_cases {x : ReportInput} {skills : Option ReportSkillSet}
    {evidence : List EvidenceItem} (h : write w cfg x skills evidence = .ok c) :
    (∃ o, c = .refused o ∧ Bare o) ∨
      ∃ plan claimed sources failed,
        c = .drafted (draft w cfg x skills evidence plan claimed sources failed) := by
  rw [write] at h
  split at h
  · cases h
    exact .inl ⟨_, rfl, bare_errorOutput _ _⟩
  next plan _ =>
    split at h
    · cases h
      exact .inl ⟨_, rfl, bare_errorOutput _ _⟩
    next sections failed _ =>
      rcases exists_of_bind_ok h with ⟨charts, -, h⟩
      rcases exists_of_bind_ok h with ⟨tables, -, h⟩
      rcases exists_of_bind_ok h with ⟨sources, -, h⟩
      cases h
      exact .inr ⟨plan, _, sources, failed, rfl⟩

/-- What the first steps of the tool end in. -/
theorem compose_cases (h : compose w cfg input = .ok c) :
    (∃ o, c = .refused o ∧ Bare o) ∨
      ∃ skills x evidence plan claimed sources failed, w.resolveSkillSet input = .ok skills ∧
        c = .drafted (draft w cfg x skills evidence plan claimed sources failed) := by
  rw [compose] at h
  split at h
  · cases h
    exact .inl ⟨_, rfl, bare_errorOutput _ _⟩
  next skills hskills =>
    dsimp only at h
    split at h
    · cases h
      exact .inl ⟨_, rfl, bare_errorOutput _ _⟩
    · split at h
      · cases h
        exact .inl ⟨_, rfl, rfl, rfl, rfl⟩
      · split_ifs at h
        · cases h
          exact .inl ⟨_, rfl, bare_errorOutput _ _⟩
        · rcases write_cases h with hrefused | ⟨plan, claimed, sources, failed, hdraft⟩
          · exact .inl hrefused
          · exact .inr ⟨_, _, _, plan, claimed, sources, failed, hskills, hdraft⟩

/-- A draft is under the policy of the request, and its status is public exactly
    if it needs no review. -/
theorem drafted_spec {d : Draft} (h : compose w cfg input = .ok (.drafted d)) :
    d.options.publishPolicy = policyOf w input ∧
      (IsPublic d.artifact.publishStatus ↔ ¬ NeedsReview cfg.review d) := by
  rcases compose_cases h with ⟨o, hc, -⟩ | ⟨skills, x, evidence, plan, claimed, sources, failed,
    hskills, hc⟩
  · cases hc
  · cases hc
    refine ⟨by rw [policyOf, hskills]; rfl, ?_⟩
    rw [← requires_iff, Bool.not_eq_true]
    exact isPublic_evaluate _ _ _

end Composing

section Publishing

variable (w : Writers) (cfg : ToolConfig)

theorem handedOut_unfinished (a : ReportArtifact) (evidence : List EvidenceItem)
    (v : VerificationResult) (success : Bool) (errorMessage errorCode summary : String) :
    HandedOut (unfinished a evidence v success errorMessage errorCode summary) ↔
      IsPublic a.publishStatus := by
  constructor
  · rintro (hurl | hstatus | ⟨a', ha, hstatus⟩)
    · exact absurd rfl hurl
    · exact hstatus
    · cases ha
      exact hstatus
  · exact fun h => .inr (.inl h)

/-- Publishing an approved report keeps it public, and no other is made so. -/
theorem isPublic_final (status : Option PublishStatus) :
    IsPublic (if status = some .approved then some .published else status) ↔ IsPublic status := by
  by_cases h : status = some .approved
  · rw [if_pos h, h]
    exact iff_of_true rfl rfl
  · rw [if_neg h]

theorem handedOut_finished (a : ReportArtifact) (evidence : List EvidenceItem)
    (v : VerificationResult) (stored : Stored) :
    HandedOut (finished a evidence v stored) ↔ IsPublic a.publishStatus := by
  constructor
  · rintro (hurl | hstatus | ⟨a', ha, hstatus⟩)
    · by_contra hnot
      exact hurl (if_neg hnot)
    · exact (isPublic_final _).mp hstatus
    · cases ha
      exact (isPublic_final _).mp hstatus
  · exact fun h => .inr (.inl ((isPublic_final _).mpr h))

/-- What the verification of a draft says. -/
def verdict (d : Draft) : VerificationResult :=
  verify w.verifier d.artifact d.evidence d.options

/-- The outputs a draft can become. -/
theorem publish_cases (d : Draft) :
    (∃ success errorMessage errorCode summary, publish w cfg d =
      unfinished { d.artifact with verificationResult := some (verdict w d) } d.evidence
        (verdict w d) success errorMessage errorCode summary) ∨
    ∃ stored, publish w cfg d =
      finished { d.artifact with verificationResult := some (verdict w d) } d.evidence
        (verdict w d) stored := by
  rw [publish]
  split
  · exact .inl ⟨_, _, _, _, rfl⟩
  · split
    · exact .inl ⟨_, _, _, _, rfl⟩
    · dsimp only
      split
      · exact .inl ⟨_, _, _, _, rfl⟩
      · exact .inr ⟨_, rfl⟩

/-- A draft is handed out exactly if its status is public, whatever the
    verification says. -/
theorem handedOut_publish (d : Draft) :
    HandedOut (publish w cfg d) ↔ IsPublic d.artifact.publishStatus := by
  rcases publish_cases w cfg d with ⟨_, _, _, _, h⟩ | ⟨_, h⟩ <;> rw [h]
  · exact handedOut_unfinished _ _ _ _ _ _ _
  · exact handedOut_finished _ _ _ _

/-- The report of an output is the draft with the verdict on it. -/
theorem artifact_publish (d : Draft) :
    ∃ a, (publish w cfg d).artifact = some a ∧ a.claims = d.artifact.claims ∧
      a.reportType = d.artifact.reportType ∧ a.verificationResult = some (verdict w d) := by
  rcases publish_cases w cfg d with ⟨_, _, _, _, h⟩ | ⟨_, h⟩ <;> rw [h] <;>
    exact ⟨_, rfl, rfl, rfl, rfl⟩

theorem cleared_publish (review : ReviewConfig) (d : Draft) :
    Cleared review d.options.publishPolicy (publish w cfg d) ↔
      Accepts w.verifier d.artifact d.evidence d.options ∧ ¬ NeedsReview review d := by
  rw [← verify_passed_iff, ← requires_iff, Bool.not_eq_true]
  rcases artifact_publish w cfg d with ⟨a, ha, hclaims, htype, hverdict⟩
  constructor
  · rintro ⟨a', v, ha', hv, hpassed, hrequires⟩
    rw [ha, Option.some.injEq] at ha'
    rw [← ha', hverdict, Option.some.injEq] at hv
    rw [← ha', hclaims, htype] at hrequires
    rw [← hv] at hpassed
    exact ⟨hpassed, hrequires⟩
  · rintro ⟨hpassed, hrequires⟩
    exact ⟨a, verdict w d, ha, hverdict, hpassed, by rw [hclaims, htype]; exact hrequires⟩

/-- Whatever the tool hands out is cleared exactly if every draft of the input
    needs a review or meets the verifier's conditions. -/
theorem publishing_gated_iff (input : ReportInput) :
    Gated w cfg input ↔ ∀ d, compose w { cfg with safety := {} } input = .ok (.drafted d) →
      NeedsReview cfg.review d ∨ Accepts w.verifier d.artifact d.evidence d.options := by
  constructor
  · intro hgated d hd
    rcases drafted_spec hd with ⟨hpolicy, hpublic⟩
    by_cases hneeds : NeedsReview cfg.review d
    · exact .inl hneeds
    · have hinvoke : invoke w { cfg with safety := {} } input =
          .ok (publish w { cfg with safety := {} } d) := by
        rw [invoke, hd]
        rfl
      have hcleared := hgated _ hinvoke ((handedOut_publish _ _ d).mpr (hpublic.mpr hneeds))
      rw [← hpolicy, cleared_publish] at hcleared
      exact .inr hcleared.1
  · intro hdrafts o ho hout
    rcases exists_of_bind_ok ho with ⟨c, hc, ho⟩
    cases c with
    | refused o' =>
        cases ho
        rcases compose_cases hc with ⟨_, hrefused, hbare⟩ | ⟨_, _, _, _, _, _, _, -, hdraft⟩
        · cases hrefused
          exact absurd hout (not_handedOut_of_bare hbare)
        · cases hdraft
    | drafted d =>
        cases ho
        rcases drafted_spec hc with ⟨hpolicy, hpublic⟩
        have hfree := hpublic.mp ((handedOut_publish _ _ d).mp hout)
        rw [← hpolicy, cleared_publish]
        exact ⟨(hdrafts d hc).resolve_left hfree, hfree⟩

/-- A request for a report of one section, from one piece of evidence. -/
def leakRequest : ReportInput where
  reportType := some "business_analysis"
  tenantId := some "t1"
  maxSections := some 1
  evidence := some
    [{ evidenceId := some "ev_1", sourceType := some "rag", content := "x", confidence := some 1 }]

/-- Its section, into which the model writes a password. -/
def leakSection : ReportSection where
  sectionId := some "overview"
  title := some "一、业务概览"
  sectionType := "overview"
  content := "pwd=1"
  evidenceRefs := ["ev_1"]

/-- Where the report is stored. -/
def leakFile : Stored where
  fileUri := "file:///reports/t1/rpt_0000000000000000.md"
  downloadUrl := "/api/v1/reports/t1/rpt_0000000000000000/download?expires=0"
  fileSizeBytes := 1

/-- The tool with that model. -/
def leakWriters : Writers where
  verifier := default
  md5 := fun _ => "06b1d38adbeeb24b134613dc5b1194cc"
  showExc := fun _ => ""
  reportId := "rpt_0000000000000000"
  now := "2026-01-01T00:00:00Z"
  resolveSkillSet := fun _ => .ok none
  plan := fun _ _ _ => .ok { title := "业务分析报告", ready := [true] }
  generateSections := fun _ _ => .ok ([leakSection], [])
  buildCharts := fun _ _ => .ok []
  buildTables := fun _ _ => .ok []
  collectSources := fun _ _ => .ok [{ sourceType := "rag", usedBySections := ["overview"] }]
  save := fun _ _ _ _ => .ok leakFile

/-- The report fails the verification and is returned as approved. -/
theorem failed_report_approved : ¬ Gated leakWriters {} leakRequest := by
  intro hgated
  have hout : (invoke leakWriters {} leakRequest).toOption.any (fun o =>
      o.publishStatus == some .approved &&
        o.artifact.any (fun a => a.verificationResult.any (fun v => !v.passed))) = true := by
    decide +kernel
  rcases exists_of_any hout with ⟨o, ho, hfacts⟩
  rw [Bool.and_eq_true, beq_iff_eq] at hfacts
  rcases hfacts with ⟨hstatus, hfailed⟩
  have hpublic : IsPublic o.publishStatus := by
    rw [hstatus]
    rfl
  rcases hgated o ho (.inr (.inl hpublic)) with ⟨a, v, ha, hv, hpassed, -⟩
  rw [ha, Option.any_some, hv, Option.any_some, hpassed] at hfailed
  cases hfailed

end Publishing

end Report

end AgenticRag

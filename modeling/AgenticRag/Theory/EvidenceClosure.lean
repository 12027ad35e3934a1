import AgenticRag.Core.ChartBuilder
import AgenticRag.Lib.JsonRoundTrip
import AgenticRag.Theory.ClaimLineage
import AgenticRag.Theory.Verification
import Mathlib.Data.List.ReduceOption

/-!
# References Lead to Evidence

Whatever a model answers, every planned section is written or has failed, and what
is written refers to given evidence only. References a model made up are dropped,
charts and tables refer to the piece they are made of, and a claim has the
references of what it is made for. So the verifier finds no reference that leads
nowhere.

The contents are there only if the claims can be built, though. A claim starts with
the text of its section, and an answer may hold something else there: the content
of an answer is the one field that nothing checks. Then the builder raises and there
is no report at all.

## Main definitions

* `Splits`: A list taken apart into two, in its order.
* `SaysText`: Every answer that is used has a text for its content.

## Theorems

* `generateSections_splits`: Every section is written or has failed.
* `refersTo_writeContents`: What is written refers to given evidence.
* `contained_iff`: When the builders do what they have to do.
-/

namespace AgenticRag

namespace Report

open Py

section Splitting

/-- A list taken apart into two: every element goes to one of them, and both keep its
    order. -/
inductive Splits {α β γ : Type} (left : α → β → Prop) (right : α → γ → Prop) :
    List α → List β → List γ → Prop
  | nil : Splits left right [] [] []
  | toLeft {a b as bs cs} (h : left a b) (rest : Splits left right as bs cs) :
      Splits left right (as ++ [a]) (bs ++ [b]) cs
  | toRight {a c as bs cs} (h : right a c) (rest : Splits left right as bs cs) :
      Splits left right (as ++ [a]) bs (cs ++ [c])

variable (g : GeneratorEnv) (llm : Option Llm) (evidence : List EvidenceItem)

/-- A section is what was planned. -/
def Writes (ps : PlanSection) (sec : GeneratedSection) : Prop :=
  sec.sectionId = ps.sectionId.getD "unknown" ∧ sec.title = ps.title.getD "" ∧
    sec.sectionType = ps.sectionType.getD "analysis"

/-- A failure names what was planned. -/
def FailsAt (ps : PlanSection) (f : FailedSection) : Prop :=
  f.sectionId = ps.sectionId ∧ f.title = ps.title

variable {g llm evidence}

/-- What a section is that a model wrote. -/
theorem generateWithLlm_ok {call : Llm} {place : Nat} {ps : PlanSection} {sec : GeneratedSection}
    (h : generateWithLlm g evidence call place ps = .ok sec) :
    ∃ text result, call place (sectionPrompt evidence ps) = .ok (.str text) ∧
      parseLlmOutput g text (relevantEvidence evidence ps) = .ok result ∧
      Writes ps sec ∧ sec.content = result.content ∧ sec.evidenceRefs = result.evidenceRefs := by
  -- A section comes of an answer that is a text and is read.
  unfold generateWithLlm at h
  split at h
  · cases h
  · next text hcall =>
      split at h
      · cases h
      · next result hparse =>
          cases h
          exact ⟨text, result, hcall, hparse, ⟨rfl, rfl, rfl⟩, rfl, rfl⟩
  · cases h

theorem content_generateWithTemplate (ps : PlanSection) :
    (generateWithTemplate evidence ps).content =
      .str (templateContent (ps.title.getD "") (relevantEvidence evidence ps)).1 := rfl

theorem writes_of_generateOne {place : Nat} {ps : PlanSection} {sec : GeneratedSection}
    (h : generateOne g llm evidence place ps = .ok sec) : Writes ps sec := by
  unfold generateOne at h
  cases llm with
  | none =>
      cases h
      exact ⟨rfl, rfl, rfl⟩
  | some call =>
      rcases generateWithLlm_ok h with ⟨-, -, -, -, hwrites, -⟩
      exact hwrites

theorem generateSections_concat (plan : List PlanSection) (ps : PlanSection) :
    generateSections g llm evidence (plan ++ [ps]) =
      generateStep g llm evidence (generateSections g llm evidence plan) (ps, plan.length) := by
  rw [generateSections, List.zipIdx_append, List.foldl_append]
  simp only [List.zipIdx_singleton, List.foldl_cons, List.foldl_nil, Nat.zero_add]
  rfl

/-- Every planned section is written or has failed, in the order of the plan. -/
theorem generateSections_splits (plan : List PlanSection) :
    Splits Writes FailsAt plan (generateSections g llm evidence plan).1
      (generateSections g llm evidence plan).2 := by
  induction plan using List.reverseRecOn with
  | nil => exact .nil
  | append_singleton plan ps ih =>
      -- The last planned section is written or fails, and those before are dealt with.
      rw [generateSections_concat, generateStep]
      cases hone : generateOne g llm evidence plan.length ps with
      | ok sec => exact .toLeft (writes_of_generateOne hone) ih
      | error message => exact .toRight ⟨rfl, rfl⟩ ih

/-- What is written is written from a planned section. -/
theorem mem_generateSections {plan : List PlanSection} {sec : GeneratedSection} :
    sec ∈ (generateSections g llm evidence plan).1 ↔
      ∃ place ps, plan[place]? = some ps ∧ generateOne g llm evidence place ps = .ok sec := by
  induction plan using List.reverseRecOn with
  | nil => simp [generateSections]
  | append_singleton plan ps ih =>
      have hstep : sec ∈ (generateSections g llm evidence (plan ++ [ps])).1 ↔
          sec ∈ (generateSections g llm evidence plan).1 ∨
            generateOne g llm evidence plan.length ps = .ok sec := by
        rw [generateSections_concat, generateStep]
        cases hone : generateOne g llm evidence plan.length ps with
        | ok sec' => simp [eq_comm]
        | error message => simp
      rw [hstep, ih]
      constructor
      · rintro (⟨place, ps', hget, hone⟩ | hone)
        · have hlt := (List.getElem?_eq_some_iff.mp hget).1
          exact ⟨place, ps', by rwa [List.getElem?_append_left hlt], hone⟩
        · exact ⟨plan.length, ps, List.getElem?_concat_length, hone⟩
      · rintro ⟨place, ps', hget, hone⟩
        by_cases hlt : place < plan.length
        · rw [List.getElem?_append_left hlt] at hget
          exact .inl ⟨place, ps', hget, hone⟩
        · -- The place is that of the last section.
          have hle := (List.getElem?_eq_some_iff.mp hget).1
          rw [List.length_append, List.length_singleton] at hle
          have hplace : place = plan.length := by omega
          subst hplace
          rw [List.getElem?_concat_length] at hget
          cases hget
          exact .inr hone

end Splitting

section Answers

variable {g : GeneratorEnv} {llm : Option Llm} {evidence : List EvidenceItem}

/-- What an answer is read as: a text, or an object whose references and confidence
    can be read. -/
theorem parseLlmOutput_eq_ok {text : String} {result : ParsedAnswer} :
    parseLlmOutput g text evidence = .ok result ↔
      (answerData g text = .ok none ∧ result =
        { content := .str text
          evidenceRefs := orFirst evidence (validEvidenceIds evidence)
          confidence := 1 / 2 }) ∨
      ∃ data refs confidence, answerData g text = .ok (some data) ∧
        knownRefs evidence (pyGet data "evidence_refs" (.list [])) = .ok refs ∧
        answerConfidence g data = .ok confidence ∧ result =
          { content := pyGet data "content" (.str "")
            evidenceRefs := orFirst evidence refs
            confidence := confidence } := by
  constructor
  · intro h
    rcases exists_of_bind_ok h with ⟨data, hdata, h⟩
    cases data with
    | none =>
        cases h
        exact .inl ⟨hdata, rfl⟩
    | some data =>
        rcases exists_of_bind_ok h with ⟨refs, hrefs, h⟩
        rcases exists_of_bind_ok h with ⟨confidence, hconfidence, h⟩
        cases h
        exact .inr ⟨data, refs, confidence, hdata, hrefs, hconfidence, rfl⟩
  · rintro (⟨hdata, rfl⟩ | ⟨data, refs, confidence, hdata, hrefs, hconfidence, rfl⟩)
    · rw [parseLlmOutput, hdata]
      rfl
    · rw [parseLlmOutput, hdata]
      show (knownRefs evidence _ >>= fun refs =>
        answerConfidence g data >>= fun confidence => _) = _
      rw [hrefs, hconfidence]
      rfl

/-- A reference that is kept is to some evidence. -/
theorem mem_of_knownRefs {refs : Val} {known : List String}
    (h : knownRefs evidence refs = .ok known) {ref : String} (href : ref ∈ known) :
    ref ∈ evidence.filterMap EvidenceItem.evidenceId := by
  rcases exists_of_bind_ok h with ⟨items, -, h⟩
  rcases exists_of_bind_ok h with ⟨found, hfound, h⟩
  cases h
  rcases exists_of_mem_mapM hfound (List.reduceOption_mem_iff.mp href) with ⟨item, -, hitem⟩
  -- Only a text is ever kept; anything else is no reference, or raises.
  cases item with
  | str s =>
      have hkept := Except.ok.inj hitem
      by_cases hs : (evidence.filterMap EvidenceItem.evidenceId).contains s
      · rw [if_pos hs, Option.some.injEq] at hkept
        rw [← hkept]
        simpa using hs
      · rw [if_neg hs] at hkept
        cases hkept
  | list xs => cases hitem
  | dict kvs => cases hitem
  | none => cases hitem
  | bool b => cases hitem
  | int i => cases hitem
  | float q text => cases hitem
  | object text reprText => cases hitem

/-- Every piece of evidence has an identifier. -/
def Named (evidence : List EvidenceItem) : Prop :=
  ∀ item ∈ evidence, item.evidenceId.getD "" ≠ ""

theorem mem_validEvidenceIds {item : EvidenceItem} (hitem : item ∈ evidence)
    (hid : item.evidenceId.getD "" ≠ "") :
    item.evidenceId.getD "" ∈ validEvidenceIds evidence := by
  cases hsome : item.evidenceId with
  | none =>
      rw [hsome] at hid
      exact absurd rfl hid
  | some id =>
      rw [hsome] at hid
      exact List.mem_filter.mpr ⟨List.mem_filterMap.mpr ⟨item, hitem, hsome⟩, by simpa using hid⟩

/-- The references of an answer are to evidence of the report. -/
theorem refsExist_of_parse (hnamed : Named evidence) {ps : PlanSection} {text : String}
    {result : ParsedAnswer}
    (h : parseLlmOutput g text (relevantEvidence evidence ps) = .ok result) :
    RefsExist evidence result.evidenceRefs := by
  have hsub : ∀ item ∈ relevantEvidence evidence ps, item ∈ evidence :=
    fun item hitem => List.mem_of_mem_filter hitem
  -- References to relevant evidence, or else to the first of it.
  have hfirst : ∀ refs, (∀ ref ∈ refs,
      ref ∈ (relevantEvidence evidence ps).filterMap EvidenceItem.evidenceId) →
        RefsExist evidence (orFirst (relevantEvidence evidence ps) refs) := by
    intro refs hrefs ref href
    have hitem : ∃ item ∈ relevantEvidence evidence ps, item.evidenceId.getD "" = ref := by
      rw [orFirst] at href
      split_ifs at href
      · rcases List.mem_map.mp href with ⟨item, hitem, heq⟩
        exact ⟨item, List.mem_of_mem_take hitem, heq⟩
      · rcases List.mem_filterMap.mp (hrefs ref href) with ⟨item, hitem, hid⟩
        exact ⟨item, hitem, by rw [hid, Option.getD_some]⟩
    rcases hitem with ⟨item, hitem, rfl⟩
    exact mem_validEvidenceIds (hsub item hitem) (hnamed item (hsub item hitem))
  -- A text refers to all of the evidence, an object to what it names of it.
  rcases parseLlmOutput_eq_ok.mp h with
    ⟨-, rfl⟩ | ⟨data, refs, confidence, -, hrefs, -, rfl⟩
  · exact hfirst _ (fun ref href => List.mem_of_mem_filter href)
  · exact hfirst _ (fun ref href => mem_of_knownRefs hrefs href)

/-- So are those of every section that is written. -/
theorem refsExist_of_generateOne (hnamed : Named evidence) {place : Nat} {ps : PlanSection}
    {sec : GeneratedSection} (h : generateOne g llm evidence place ps = .ok sec) :
    RefsExist evidence sec.evidenceRefs := by
  unfold generateOne at h
  -- Without a model the template names the first pieces of the evidence.
  cases llm with
  | some call =>
      rcases generateWithLlm_ok h with ⟨text, result, -, hparse, -, -, hrefs⟩
      rw [hrefs]
      exact refsExist_of_parse hnamed hparse
  | none =>
      cases h
      intro ref href
      rw [generateWithTemplate, templateContent] at href
      split_ifs at href
      · cases href
      · rcases List.mem_filter.mp href with ⟨hid, hne⟩
        rcases List.mem_filterMap.mp hid with ⟨item, hitem, hid⟩
        have hmem := mem_validEvidenceIds (List.mem_of_mem_filter hitem)
          (hnamed item (List.mem_of_mem_filter hitem))
        rwa [hid, Option.getD_some] at hmem

end Answers

section Builders

variable {evidence : List EvidenceItem} {showExc : Exc → String}

/-- What the loop makes is made of a piece of evidence. -/
theorem mem_buildFrom {α : Type} {limit : Nat} {build : EvidenceItem → Nat → Except Exc (Option α)}
    {items : List EvidenceItem} {built : List α} {failed : List FailedEvidence} {x : α}
    (h : x ∈ (buildFrom showExc limit build items built failed).1) :
    x ∈ built ∨ ∃ item ∈ items, ∃ index, build item index = .ok (some x) := by
  -- One case for each way through the loop; only the third makes something.
  fun_induction buildFrom showExc limit build items built failed with
  | case1 built failed => exact .inl h
  | case2 item rest built failed hfull => exact .inl h
  | case3 item rest built failed hroom y hy ih =>
      rcases ih h with hx | ⟨item', hitem', index, hindex⟩
      · rcases List.mem_append.mp hx with hx | hx
        · exact .inl hx
        · rw [List.mem_singleton.mp hx]
          exact .inr ⟨item, List.mem_cons_self, _, hy⟩
      · exact .inr ⟨item', List.mem_cons_of_mem _ hitem', index, hindex⟩
  | case4 item rest built failed hroom hnone ih =>
      rcases ih h with hx | ⟨item', hitem', index, hindex⟩
      · exact .inl hx
      · exact .inr ⟨item', List.mem_cons_of_mem _ hitem', index, hindex⟩
  | case5 item rest built failed hroom e he ih =>
      rcases ih h with hx | ⟨item', hitem', index, hindex⟩
      · exact .inl hx
      · exact .inr ⟨item', List.mem_cons_of_mem _ hitem', index, hindex⟩

theorem refsExist_refs {item : EvidenceItem} (hitem : item ∈ evidence) :
    RefsExist evidence item.refs := by
  intro ref href
  rw [EvidenceItem.refs] at href
  split_ifs at href with hid
  · cases href
  · rw [List.mem_singleton.mp href]
    exact mem_validEvidenceIds hitem hid

/-- A chart refers to the piece it is made of. -/
theorem evidenceRefs_buildChart {item : EvidenceItem} {index : Nat} {chart : ChartSpec}
    (h : buildChart item index = .ok (some chart)) : chart.evidenceRefs = item.refs := by
  rcases exists_of_bind_ok h with ⟨rows, -, h⟩
  dsimp only at h
  split_ifs at h
  · cases h
  · rcases exists_of_bind_ok h with ⟨columns, -, h⟩
    split_ifs at h
    · cases h
      rfl
    · split at h
      · cases h
        rfl
      · cases h
        rfl
      · cases h
        rfl

/-- A table refers to the piece it is made of. -/
theorem evidenceRefs_buildTable {maxRows : Nat} {item : EvidenceItem} {index : Nat}
    {table : TableSpec} (h : buildTable maxRows item index = .ok (some table)) :
    table.evidenceRefs = item.refs := by
  rcases exists_of_bind_ok h with ⟨rows, -, h⟩
  split_ifs at h
  · cases h
  · rcases exists_of_bind_ok h with ⟨columns, -, h⟩
    split_ifs at h
    · cases h
    · cases h
      rfl

/-- What refers to the piece it is made of refers to given evidence. -/
theorem refsExist_buildFrom {α : Type} {limit : Nat}
    {build : EvidenceItem → Nat → Except Exc (Option α)} {refs : α → List String}
    (hbuild : ∀ item index x, build item index = .ok (some x) → refs x = item.refs) {x : α}
    (h : x ∈ (buildFrom showExc limit build (fromDatabase evidence) [] []).1) :
    RefsExist evidence (refs x) := by
  rcases mem_buildFrom h with h | ⟨item, hitem, index, hindex⟩
  · cases h
  · rw [hbuild item index x hindex]
    exact refsExist_refs (List.mem_of_mem_filter hitem)

theorem refsExist_buildCharts {maxCharts : Nat} {chart : ChartSpec}
    (h : chart ∈ (buildCharts showExc evidence maxCharts).1) :
    RefsExist evidence chart.evidenceRefs :=
  refsExist_buildFrom (fun _ _ _ hchart => evidenceRefs_buildChart hchart) h

theorem refsExist_buildTables {maxRows maxTables : Nat} {table : TableSpec}
    (h : table ∈ (buildTables showExc maxRows evidence maxTables).1) :
    RefsExist evidence table.evidenceRefs :=
  refsExist_buildFrom (fun _ _ _ htable => evidenceRefs_buildTable htable) h

end Builders

section Contents

/-- The contents of a report refer to given evidence only. -/
structure RefersTo (evidence : List EvidenceItem) (c : ClaimBuilder.Claimed) : Prop where
  sections : ∀ sec ∈ c.sections, RefsExist evidence sec.evidenceRefs
  charts : ∀ chart ∈ c.charts, RefsExist evidence chart.evidenceRefs
  tables : ∀ table ∈ c.tables, RefsExist evidence table.evidenceRefs
  claims : ∀ claim ∈ c.claims, RefsExist evidence claim.evidenceRefs

variable {g : GeneratorEnv} {b : ClaimBuilder} {limits : ContentLimits} {llm : Option Llm}
  {plan : List PlanSection} {evidence : List EvidenceItem}

/-- A claim has the references of what it is made for. -/
theorem refsExist_claims {α : Type} {text : α → String} {refs : α → List String}
    {claimType : String} (htype : claimType ∈ claimTypesRequireEvidence) {xs : List α}
    (h : ∀ x ∈ xs, RefsExist evidence (refs x)) {claim : ReportClaim}
    (hclaim : claim ∈ xs.filterMap (fun x =>
      b.createClaim evidence (text x) claimType (refs x))) :
    RefsExist evidence claim.evidenceRefs := by
  rcases List.mem_filterMap.mp hclaim with ⟨x, hx, hmade⟩
  rcases ClaimBuilder.createClaim_cases b evidence htype (text x) (refs x) with
    ⟨-, hnone⟩ | ⟨-, c, hsome, -, -, hrefs, -⟩
  · rw [hnone] at hmade
    cases hmade
  · rw [hsome] at hmade
    cases hmade
    rw [hrefs]
    exact h x hx

/-- The builder of claims keeps the references. -/
theorem refersTo_build {sections : List ReportSection} {charts : List ChartSpec}
    {tables : List TableSpec} (hsections : ∀ sec ∈ sections, RefsExist evidence sec.evidenceRefs)
    (hcharts : ∀ chart ∈ charts, RefsExist evidence chart.evidenceRefs)
    (htables : ∀ table ∈ tables, RefsExist evidence table.evidenceRefs) :
    RefersTo evidence (b.build sections charts tables evidence) where
  sections sec hsec := by
    rcases List.mem_map.mp hsec with ⟨sec', hsec', rfl⟩
    exact hsections sec' hsec'
  charts chart hchart := by
    rcases List.mem_map.mp hchart with ⟨chart', hchart', rfl⟩
    exact hcharts chart' hchart'
  tables table htable := by
    rcases List.mem_map.mp htable with ⟨table', htable', rfl⟩
    exact htables table' htable'
  claims claim hclaim := by
    rcases List.mem_append.mp hclaim with hclaim | hclaim
    · rcases List.mem_append.mp hclaim with hclaim | hclaim
      · exact refsExist_claims (by decide) hsections hclaim
      · exact refsExist_claims (by decide) hcharts hclaim
    · exact refsExist_claims (by decide) htables hclaim

/-- Whatever is written refers to given evidence. -/
theorem refersTo_writeContents (hnamed : Named evidence) {c : ClaimBuilder.Claimed}
    (h : writeContents g b limits llm plan evidence = .ok c) : RefersTo evidence c := by
  rcases exists_of_bind_ok h with ⟨sections, hsections, h⟩
  cases h
  refine refersTo_build (fun sec hsec => ?_) (fun chart hchart => refsExist_buildCharts hchart)
    (fun table htable => refsExist_buildTables htable)
  -- Reading a section for its claim keeps the references.
  rcases exists_of_mem_mapM hsections hsec with ⟨written, hwritten, hread⟩
  rcases mem_generateSections.mp hwritten with ⟨place, ps, -, hone⟩
  rcases exists_of_bind_ok hread with ⟨content, -, hread⟩
  cases hread
  exact refsExist_of_generateOne hnamed hone

end Contents

section Verifying

/-- A code that says nothing of references that lead nowhere. -/
def Quiet (code : String) : Prop :=
  code ≠ "VER_REF_NOT_EXIST" ∧ code ≠ "VER_CLAIM_EVIDENCE_NOT_EXIST"

instance (code : String) : Decidable (Quiet code) := inferInstanceAs (Decidable (_ ∧ _))

variable {env : VerifierEnv} {a : ReportArtifact} {evidence : List EvidenceItem} {o : VerifyOptions}

theorem quiet_map {α : Type} {f : α → VerificationIssue} {xs : List α}
    (hf : ∀ x, Quiet (f x).code) : ∀ i ∈ xs.map f, Quiet i.code :=
  List.forall_mem_map.mpr (fun x _ => hf x)

theorem quiet_if {P : Prop} [Decidable P] {i : VerificationIssue} (hi : Quiet i.code) :
    ∀ j ∈ (if P then [i] else []), Quiet j.code := by
  split_ifs
  · exact List.forall_mem_singleton.mpr hi
  · exact List.forall_mem_nil _

theorem quiet_claimIssue {code : String} {severity : Severity} {claim : ReportClaim}
    {message : String} (h : Quiet code) : Quiet (claimIssue code severity claim message).code := h

theorem quiet_sectionIssue {code : String} {severity : Severity} {sec : ReportSection}
    {message : String} (h : Quiet code) : Quiet (sectionIssue code severity sec message).code := h

theorem quiet_append {is js : List VerificationIssue} (his : ∀ i ∈ is, Quiet i.code)
    (hjs : ∀ j ∈ js, Quiet j.code) : ∀ i ∈ is ++ js, Quiet i.code :=
  List.forall_mem_append.mpr ⟨his, hjs⟩

theorem quiet_flatMap {α : Type} {f : α → List VerificationIssue} {xs : List α}
    (h : ∀ x ∈ xs, ∀ i ∈ f x, Quiet i.code) : ∀ i ∈ xs.flatMap f, Quiet i.code := by
  intro i hi
  rcases List.mem_flatMap.mp hi with ⟨x, hx, hi⟩
  exact h x hx i hi

/-- A code of sensitive data begins otherwise. -/
theorem quiet_sensitive (code : String) : Quiet ("VER_SENSITIVE_" ++ code) := by
  -- The fifth letter tells them apart.
  constructor <;> intro h <;> simpa using congrArg (fun s => s.toList.drop 4 |>.head?) h

theorem quiet_sensitiveIssues (findings : List Finding) :
    ∀ i ∈ sensitiveIssues findings, Quiet i.code := by
  unfold sensitiveIssues
  split_ifs
  · exact quiet_map (fun f => quiet_sensitive f.code)
  · exact quiet_map (fun f => quiet_sensitive f.code)
  · exact List.forall_mem_nil _

/-- Where all references lead to evidence, no issue says that one does not. -/
theorem quiet_verify (hsections : ∀ sec ∈ a.sections, RefsExist evidence sec.evidenceRefs)
    (hcharts : ∀ chart ∈ a.charts, RefsExist evidence chart.evidenceRefs)
    (htables : ∀ table ∈ a.tables, RefsExist evidence table.evidenceRefs)
    (hclaims : ∀ claim ∈ a.claims, RefsExist evidence claim.evidenceRefs) :
    ∀ i ∈ (verify env a evidence o).issues, Quiet i.code := by
  have hrefs : refIssues a evidence = [] := by
    simp only [refIssues, List.append_eq_nil_iff, List.flatMap_eq_nil_iff, List.map_eq_nil_iff,
      danglingRefs_eq_nil]
    exact ⟨⟨hsections, hcharts⟩, htables⟩
  -- Of the issues of a claim only those of its references could be meant.
  have hlineage : ∀ i ∈ checkClaimLineage a evidence, Quiet i.code := by
    refine quiet_flatMap (fun claim hclaim => ?_)
    rw [claimIssues, danglingRefs_eq_nil.mpr (hclaims claim hclaim), List.map_nil, List.append_nil]
    exact quiet_append (quiet_append (quiet_if (quiet_claimIssue (by decide)))
      (quiet_if (quiet_claimIssue (by decide)))) (quiet_if (quiet_claimIssue (by decide)))
  have hskill : ∀ i ∈ skillIssues env a evidence o, Quiet i.code :=
    quiet_flatMap (fun sec _ => quiet_flatMap (fun rule _ =>
      quiet_append (quiet_append (quiet_if (quiet_sectionIssue (by decide)))
        (quiet_if (quiet_sectionIssue (by decide)))) (quiet_if (quiet_sectionIssue (by decide)))))
  have hlimit : ∀ {code what : String} {count limit : Nat}, Quiet code →
      ∀ i ∈ limitIssue code what count limit, Quiet i.code := fun hcode => quiet_if hcode
  have hquantity : ∀ i ∈ quantityIssues a o, Quiet i.code :=
    quiet_append (quiet_append (hlimit (by decide)) (hlimit (by decide))) (hlimit (by decide))
  have hduplicate : ∀ i ∈ duplicateIssues env a, Quiet i.code := by
    rw [duplicateIssues]
    split_ifs
    · exact List.forall_mem_nil _
    · exact List.forall_mem_singleton.mpr (show Quiet "VER_DUPLICATE_SECTIONS" by decide)
  have hpolicy : ∀ i ∈ policyIssues env a o, Quiet i.code :=
    quiet_if (show Quiet "VER_SKILL_CORE_SECTION_MISSING" by decide)
  have hcontents : ∀ i ∈ sectionRefIssues a ++ numberIssues env a ++ chartRefIssues a ++
      tableRefIssues a, Quiet i.code :=
    quiet_append (quiet_append (quiet_append
      (quiet_map (fun _ => quiet_sectionIssue (by decide)))
      (quiet_map (fun _ => quiet_sectionIssue (by decide))))
      (quiet_map (fun _ => show Quiet "VER_CHART_NO_REFS" by decide)))
      (quiet_map (fun _ => show Quiet "VER_TABLE_NO_REFS" by decide))
  have hcontent : ∀ i ∈ contentIssues a, Quiet i.code :=
    quiet_map (fun _ => quiet_sectionIssue (by decide))
  rw [verify]
  dsimp only
  rw [verifyIssues, hrefs, List.append_nil]
  exact quiet_append (quiet_append (quiet_append (quiet_append (quiet_append (quiet_append
    (quiet_append hcontents (quiet_sensitiveIssues _)) hcontent) hduplicate) hquantity) hskill)
    hpolicy) hlineage

end Verifying

section Containing

variable (g : GeneratorEnv) (b : ClaimBuilder) (limits : ContentLimits) (llm : Option Llm)
  (plan : List PlanSection) (evidence : List EvidenceItem)

/-- A content that can be cut as a text. -/
def IsText (v : Val) : Prop := v.truthy = true → ∃ s, v = .str s

/-- What the four builders have to do: every planned section is written or has
    failed, there are contents, they refer to given evidence, and the verifier has
    nothing to say about references that lead nowhere. -/
structure Contained : Prop where
  splits : Splits Writes FailsAt plan (generateSections g llm evidence plan).1
    (generateSections g llm evidence plan).2
  written : ∃ c, writeContents g b limits llm plan evidence = .ok c ∧ RefersTo evidence c ∧
    ∀ (env : VerifierEnv) (a : ReportArtifact) (o : VerifyOptions), a.sections = c.sections →
      a.charts = c.charts → a.tables = c.tables → a.claims = c.claims →
        ∀ i ∈ (verify env a evidence o).issues, Quiet i.code

/-- Every object a model answers with, and whose references and confidence can be
    read, has for its content a text or nothing. -/
def SaysText : Prop :=
  ∀ call, llm = some call → ∀ place ps, plan[place]? = some ps →
    ∀ text data, call place (sectionPrompt evidence ps) = .ok (.str text) →
      answerData g text = .ok (some data) →
        ∀ refs confidence, knownRefs (relevantEvidence evidence ps)
            (pyGet data "evidence_refs" (.list [])) = .ok refs →
          answerConfidence g data = .ok confidence → IsText (pyGet data "content" (.str ""))

variable {g b limits llm plan evidence}

theorem contentText_ok_iff {v : Val} : (∃ s, contentText v = .ok s) ↔ IsText v := by
  have hother (h : contentText v = if v.truthy then .error .typeError else .ok "")
      (hne : ∀ s, v ≠ .str s) : (∃ s, contentText v = .ok s) ↔ IsText v := by
    rw [h, IsText]
    cases v.truthy with
    | true => simp [hne]
    | false => simp
  -- Only a text has a rule of its own.
  cases v with
  | str s => exact iff_of_true ⟨s, rfl⟩ (fun _ => ⟨s, rfl⟩)
  | none => exact hother rfl (fun _ h => by cases h)
  | bool b => exact hother rfl (fun _ h => by cases h)
  | int i => exact hother rfl (fun _ h => by cases h)
  | float q text => exact hother rfl (fun _ h => by cases h)
  | list xs => exact hother rfl (fun _ h => by cases h)
  | dict kvs => exact hother rfl (fun _ h => by cases h)
  | object text reprText => exact hother rfl (fun _ h => by cases h)

/-- The claims can be built exactly when all contents are texts. -/
theorem writeContents_ok_iff :
    (∃ c, writeContents g b limits llm plan evidence = .ok c) ↔
      ∀ sec ∈ (generateSections g llm evidence plan).1, IsText sec.content := by
  have hread : (∃ c, writeContents g b limits llm plan evidence = .ok c) ↔
      ∃ secs, (generateSections g llm evidence plan).1.mapM GeneratedSection.read = .ok secs := by
    constructor
    · rintro ⟨c, h⟩
      rcases exists_of_bind_ok h with ⟨secs, hsecs, -⟩
      exact ⟨secs, hsecs⟩
    · rintro ⟨secs, hsecs⟩
      rw [writeContents, hsecs]
      exact ⟨_, rfl⟩
  -- Nothing but reading a section can raise.
  rw [hread, exists_mapM_ok_iff]
  refine forall₂_congr (fun sec _ => ?_)
  rw [← contentText_ok_iff, GeneratedSection.read]
  cases contentText sec.content with
  | error e => exact iff_of_false (fun ⟨_, h⟩ => by cases h) (fun ⟨_, h⟩ => by cases h)
  | ok text => exact iff_of_true ⟨_, rfl⟩ ⟨text, rfl⟩

/-- The contents are texts exactly when the answers that are used say texts. -/
theorem isText_sections_iff :
    (∀ sec ∈ (generateSections g llm evidence plan).1, IsText sec.content) ↔
      SaysText g llm plan evidence := by
  constructor
  · intro h call hcall place ps hps text data hanswer hdata refs confidence hrefs hconfidence
    -- An answer that is used makes a section with its content.
    subst hcall
    have hparse := parseLlmOutput_eq_ok.mpr
      (.inr ⟨data, refs, confidence, hdata, hrefs, hconfidence, rfl⟩)
    have hone : ∃ sec, generateOne g (some call) evidence place ps = .ok sec ∧
        sec.content = pyGet data "content" (.str "") := by
      simp only [generateOne, generateWithLlm, hanswer, hparse]
      exact ⟨_, rfl, rfl⟩
    rcases hone with ⟨sec, hsec, hcontent⟩
    exact hcontent ▸ h sec (mem_generateSections.mpr ⟨place, ps, hps, hsec⟩)
  · intro h sec hsec
    -- The content of a section is a template's, a whole answer, or said by an answer.
    rcases mem_generateSections.mp hsec with ⟨place, ps, hps, hone⟩
    cases hllm : llm with
    | none =>
        rw [hllm] at hone
        have hsec : generateWithTemplate evidence ps = sec := Except.ok.inj hone
        rw [← hsec, content_generateWithTemplate]
        exact fun _ => ⟨_, rfl⟩
    | some call =>
        simp only [hllm, generateOne] at hone
        rcases generateWithLlm_ok hone with ⟨text, result, hcall, hparse, -, hcontent, -⟩
        rw [hcontent]
        rcases parseLlmOutput_eq_ok.mp hparse with
          ⟨-, rfl⟩ | ⟨data, refs, confidence, hdata, hrefs, hconfidence, rfl⟩
        · exact fun _ => ⟨text, rfl⟩
        · exact h call hllm place ps hps text data hcall hdata refs confidence hrefs hconfidence

/-- The builders do what they have to do exactly when the answers that are used say
    texts. -/
theorem contained_iff (hnamed : Named evidence) :
    Contained g b limits llm plan evidence ↔ SaysText g llm plan evidence := by
  have hok : (∃ c, writeContents g b limits llm plan evidence = .ok c) ↔ _ := writeContents_ok_iff
  rw [← isText_sections_iff, ← hok]
  -- All but raising is right in any case.
  constructor
  · intro h
    rcases h.written with ⟨c, hc, -⟩
    exact ⟨c, hc⟩
  · rintro ⟨c, hc⟩
    have hrefers := refersTo_writeContents hnamed hc
    refine
      { splits := generateSections_splits plan
        written := ⟨c, hc, hrefers, fun env a o hsections hcharts htables hclaims => ?_⟩ }
    exact quiet_verify (hsections ▸ hrefers.sections) (hcharts ▸ hrefers.charts)
      (htables ▸ hrefers.tables) (hclaims ▸ hrefers.claims)

/-- A generator that is not asked for floats. -/
def plainGenerator : GeneratorEnv where
  readFloat := fun _ => none
  decodeDepth := 10
  toFloat := fun _ => .error .valueError
  showExc := fun _ => "error"

/-- A builder with one digest. -/
def plainBuilder : ClaimBuilder where
  md5 := fun _ => "d41d8cd98f00b204e9800998ecf8427e"

/-- A model that answers every prompt with an object. -/
def answering (data : Dict) : Option Llm := some (fun _ _ => .ok (.str (Val.dumps (.dict data))))

theorem answerData_of_loads {text : String} {data : Dict}
    (h : Json.loads g.readFloat g.decodeDepth (answerText text) = .ok (.dict data)) :
    answerData g text = .ok (some data) := by
  unfold answerData
  generalize Json.loads g.readFloat g.decodeDepth (answerText text) = answer at h
  subst h
  rfl

/-- The object is read back, if its text is not taken for something around it. -/
theorem answerData_dumps {data : Dict} (hplain : Json.Plain g.readFloat g.decodeDepth (.dict data))
    (htext : answerText (Val.dumps (.dict data)) = Val.dumps (.dict data)) :
    answerData g (Val.dumps (.dict data)) = .ok (some data) :=
  answerData_of_loads (htext.symm ▸ Json.loads_dumps hplain)

/-- One piece of evidence. -/
def onePiece : List EvidenceItem := [{ evidenceId := some "ev_1", sourceType := some "rag" }]

theorem contained_iff_empty :
    Contained plainGenerator plainBuilder {} (answering []) [{}] onePiece := by
  refine (contained_iff (by simp [Named, onePiece])).mpr ?_
  intro call hcall place ps _ text data hanswer hdata refs confidence _ _ _
  cases hcall
  cases hanswer
  have hread : answerData plainGenerator (Val.dumps (.dict [])) = .ok (some []) :=
    answerData_dumps (by simp [Json.Plain, plainGenerator]) (by decide)
  rw [hread] at hdata
  cases hdata
  exact ⟨"", rfl⟩

/-- An answer whose content is a number. -/
def numberAnswer : Dict := [("content", .int 5)]

/-- A model that answers with a number for a content leaves the report without
    contents. -/
theorem not_contained_number :
    ¬ Contained plainGenerator plainBuilder {} (answering numberAnswer) [{}] onePiece := by
  intro h
  rcases h.written with ⟨c, hc, -⟩
  have hdigits : (Nat.toDigits 10 5).length ≤ maxStrDigits := by decide
  have hread : answerData plainGenerator (Val.dumps (.dict numberAnswer)) =
      .ok (some numberAnswer) :=
    answerData_dumps (by simp [Json.Plain, plainGenerator, numberAnswer, hdigits]) (by decide)
  -- The answer is used for the section, and its content is a number.
  have hnumber := isText_sections_iff.mp (writeContents_ok_iff.mp ⟨c, hc⟩) _ rfl 0 {} rfl
    (Val.dumps (.dict numberAnswer)) numberAnswer rfl hread [] (7 / 10) rfl rfl rfl
  rcases hnumber with ⟨s, hs⟩
  cases hs

end Containing

end Report

end AgenticRag

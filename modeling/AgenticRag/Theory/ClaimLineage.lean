import AgenticRag.Core.ClaimBuilder
import Mathlib.Data.List.Nodup

/-!
# The Lineage of Claims

What the claims of a report are meant to say about it. A recommendation may stand
without evidence, and then says so; nothing else may. And a claim is named in the
section, the chart or the table it was made for, so two of these that make a claim
each should not share its identifier.

The kind of a claim is the kind of its container. Sections and tables state facts
and charts state metrics, so no claim is ever a recommendation, and a section that
is one is dropped without evidence like any other. Identifiers are digests of the
kind and the first 200 characters of the text, so they are shared where these are
(`lineage_iff`).

## Main definitions

* `Lineage`: What the claims should be.
* `TellsApart`: The digest does not clash.

## Theorems

* `createClaim_cases`: The claim of a container.
* `map_claimId`: The identifiers of the claims.
* `lineage_iff`: When the claims are what they should be.
-/

namespace AgenticRag

namespace Report

open Py

namespace ClaimBuilder

variable (b : ClaimBuilder)

/-- What the claims of a report should be. -/
structure Lineage (sections : List ReportSection) (charts : List ChartSpec)
    (tables : List TableSpec) (evidence : List EvidenceItem) : Prop where
  kept : ∀ sec ∈ sections, sec.sectionType = "recommendation" → sec.evidenceRefs = [] →
    ∃ c ∈ (b.build sections charts tables evidence).claims,
      c.text = take (sectionText sec) 500 ∧ c.evidenceRefs = [] ∧
        c.supportStatus = "unsupported" ∧ c.needsHumanReview
  dropped : ∀ c ∈ (b.build sections charts tables evidence).claims,
    claimTypesRequireEvidence.contains c.claimType → c.evidenceRefs ≠ []
  distinct : ((b.build sections charts tables evidence).claims.map ReportClaim.claimId).Nodup

/-- What the identifier of a claim is a digest of. -/
def claimKey (claimType text : String) : String := claimType ++ "|" ++ take text 200

/-- The keys of the containers that have evidence. -/
def keysOf {α : Type} (claimType : String) (text : α → String) (refs : α → List String)
    (xs : List α) : List String :=
  (xs.filter (fun x => !(refs x).isEmpty)).map (fun x => claimKey claimType (text x))

/-- The keys of all claims. -/
def claimKeys (sections : List ReportSection) (charts : List ChartSpec)
    (tables : List TableSpec) : List String :=
  keysOf "fact" sectionText ReportSection.evidenceRefs sections ++
    keysOf "metric" (fun chart => chart.title.getD "图表") ChartSpec.evidenceRefs charts ++
    keysOf "fact" (fun table => table.title.getD "表格") TableSpec.evidenceRefs tables

/-- The first digits of the digest tell the keys apart. -/
def TellsApart (keys : List String) : Prop :=
  ∀ k ∈ keys, ∀ k' ∈ keys, take (b.md5 k) 12 = take (b.md5 k') 12 → k = k'

instance (keys : List String) : Decidable (b.TellsApart keys) :=
  inferInstanceAs (Decidable (∀ k ∈ keys, ∀ k' ∈ keys, _ → _))

variable {b} {evidence : List EvidenceItem}

/-- The claim of a container: there is none without evidence, and otherwise it is
    one that is supported. -/
theorem createClaim_cases (b : ClaimBuilder) (evidence : List EvidenceItem) {claimType : String}
    (htype : claimType ∈ claimTypesRequireEvidence) (text : String) (refs : List String) :
    (refs = [] ∧ b.createClaim evidence text claimType refs = none) ∨
    (refs ≠ [] ∧ ∃ c, b.createClaim evidence text claimType refs = some c ∧
      c.claimId = some ("claim_" ++ take (b.md5 (claimKey claimType text)) 12) ∧
      c.claimType = claimType ∧ c.evidenceRefs = refs ∧ c.supportStatus = "supported") := by
  have hcontains : claimTypesRequireEvidence.contains claimType = true := by simpa using htype
  unfold createClaim
  -- All three kinds need evidence, so the branch without it is the first one.
  cases refs with
  | nil => exact .inl ⟨rfl, if_pos ⟨hcontains, rfl⟩⟩
  | cons ref refs =>
      refine .inr ⟨List.cons_ne_nil _ _, ?_⟩
      dsimp only
      rw [if_neg (fun h => by cases h.2), if_neg (fun h => by cases h.2)]
      exact ⟨_, rfl, rfl, rfl, rfl, rfl⟩

variable {α : Type} {text : α → String} {refs : α → List String} {claimType : String}

/-- What is said of a claim made for one of some containers. -/
theorem of_mem_claims (htype : claimType ∈ claimTypesRequireEvidence) {xs : List α}
    {c : ReportClaim}
    (hc : c ∈ xs.filterMap (fun x => b.createClaim evidence (text x) claimType (refs x))) :
    c.evidenceRefs ≠ [] ∧ c.supportStatus = "supported" := by
  rcases List.mem_filterMap.mp hc with ⟨x, -, hx⟩
  rcases createClaim_cases b evidence htype (text x) (refs x) with
    ⟨-, hnone⟩ | ⟨hrefs, c', hsome, -, -, hc', hstatus⟩
  · rw [hnone] at hx
    cases hx
  · rw [hsome] at hx
    cases hx
    exact ⟨hc'.symm ▸ hrefs, hstatus⟩

/-- The identifiers of the claims made for some containers. -/
theorem map_claimId (htype : claimType ∈ claimTypesRequireEvidence) (xs : List α) :
    (xs.filterMap (fun x => b.createClaim evidence (text x) claimType (refs x))).map
        ReportClaim.claimId =
      (keysOf claimType text refs xs).map (fun k => some ("claim_" ++ take (b.md5 k) 12)) := by
  induction xs with
  | nil => rfl
  | cons x xs ih =>
      rw [List.filterMap_cons]
      -- A container without evidence has neither claim nor key.
      rcases createClaim_cases b evidence htype (text x) (refs x) with
        ⟨hrefs, hnone⟩ | ⟨hrefs, c, hsome, hid, -⟩
      · rw [hnone, keysOf, List.filter_cons_of_neg (by simp [hrefs])]
        exact ih
      · rw [hsome, keysOf, List.filter_cons_of_pos (by simpa using hrefs), List.map_cons,
          List.map_cons, hid, List.map_cons]
        exact congrArg _ ih

variable {sections : List ReportSection} {charts : List ChartSpec} {tables : List TableSpec}

theorem of_mem_build {c : ReportClaim} (hc : c ∈ (b.build sections charts tables evidence).claims) :
    c.evidenceRefs ≠ [] ∧ c.supportStatus = "supported" := by
  -- Claims of sections, of charts and of tables.
  rcases List.mem_append.mp hc with hc | hc
  · rcases List.mem_append.mp hc with hc | hc
    · exact of_mem_claims (by decide) hc
    · exact of_mem_claims (by decide) hc
  · exact of_mem_claims (by decide) hc

theorem map_claimId_build :
    (b.build sections charts tables evidence).claims.map ReportClaim.claimId =
      (claimKeys sections charts tables).map (fun k => some ("claim_" ++ take (b.md5 k) 12)) := by
  rw [claimKeys, List.map_append, List.map_append, ← map_claimId (by decide),
    ← map_claimId (by decide), ← map_claimId (by decide), ← List.map_append, ← List.map_append]
  rfl

/-- Where the digest does not clash, the claims are what they should be exactly if
    every recommendation has evidence and no two containers with evidence make
    claims of one kind that begin alike. -/
theorem lineage_iff (hmd5 : b.TellsApart (claimKeys sections charts tables)) :
    b.Lineage sections charts tables evidence ↔
      (∀ sec ∈ sections, sec.sectionType = "recommendation" → sec.evidenceRefs ≠ []) ∧
        (claimKeys sections charts tables).Nodup := by
  constructor
  · intro h
    refine ⟨fun sec hsec htype hrefs => ?_, ?_⟩
    -- A claim that is kept has evidence.
    · rcases h.kept sec hsec htype hrefs with ⟨c, hc, -, hempty, -⟩
      exact (of_mem_build hc).1 hempty
    · have hdistinct := h.distinct
      rw [map_claimId_build] at hdistinct
      exact hdistinct.of_map _
  · rintro ⟨hrecommended, hkeys⟩
    refine ⟨fun sec hsec htype hrefs => absurd hrefs (hrecommended sec hsec htype),
      fun c hc _ => (of_mem_build hc).1, ?_⟩
    rw [map_claimId_build]
    refine hkeys.map_on (fun k hk k' hk' h => hmd5 k hk k' hk' ?_)
    exact String.append_right_inj _ |>.mp (Option.some.inj h)

/-- The digests of three keys. -/
def sampleBuilder : ClaimBuilder where
  md5 key :=
    if key = "fact|收入：\n增长" then "baba4537d1b22304785d5994fe019aee"
    else if key = "fact|产量" then "bc7bdd703dcaf003e19d684019ff60e2"
    else if key = "metric|产量" then "b7051619d7e53c84afe7695d78b966a5"
    else ""

/-- A section with a fact. -/
def incomeSection : ReportSection where
  title := some "收入"
  sectionType := "overview"
  content := "增长"
  evidenceRefs := ["ev_0"]

/-- A chart with evidence. -/
def outputChart : ChartSpec where
  title := some "产量"
  evidenceRefs := ["ev_1"]

/-- A table with evidence. -/
def outputTable : TableSpec where
  title := some "产量"
  evidenceRefs := ["ev_1"]

theorem lineage_iff_output :
    sampleBuilder.TellsApart (claimKeys [incomeSection] [outputChart] [outputTable]) ∧
    (sampleBuilder.Lineage [incomeSection] [outputChart] [outputTable] [] ↔
      (∀ sec ∈ [incomeSection], sec.sectionType = "recommendation" → sec.evidenceRefs ≠ []) ∧
        (claimKeys [incomeSection] [outputChart] [outputTable]).Nodup) := by
  have hmd5 : sampleBuilder.TellsApart (claimKeys [incomeSection] [outputChart] [outputTable]) := by
    decide
  exact ⟨hmd5, lineage_iff hmd5⟩

/-- A section with advice. -/
def adviceSection : ReportSection where
  title := some "建议"
  sectionType := "recommendation"
  content := "扩大产能"

/-- A recommendation without evidence is dropped, and two tables of one title share
    the identifier of their claims. -/
theorem not_lineage_advice :
    ¬ sampleBuilder.Lineage [adviceSection] [] [] [] ∧
      ¬ sampleBuilder.Lineage [] [] [outputTable, outputTable] [] := by
  constructor
  · intro h
    rcases h.kept _ List.mem_cons_self rfl rfl with ⟨c, hc, -⟩
    cases hc
  · intro h
    have hdistinct := h.distinct
    rw [map_claimId_build] at hdistinct
    revert hdistinct
    decide

end ClaimBuilder

end Report

end AgenticRag

import AgenticRag.Theory.Rendering
import AgenticRag.Theory.Verification

/-!
# Sensitive Data in a Rendered Report

What of a report's contents the renderers print, against what the scan looked
at. The scan goes through the summary, the sections, the rows of the tables and
the notes of the charts; the renderers print these, other than the notes, and
many more fields. For the fields the scan knows, a report that passed has clean
texts in both renderings: a cell is cut off from its row at spaces, a line from
its text at line breaks, and escaping neither hides nor makes up a match. So
what is printed of a passed report is clean if and only if its titles and its
data are (`emitted_clean_iff`).

## Main definitions

* `emitted`: The texts of a report that the renderers print.
* `Safe`: A piece that is clean if it is content.

## Theorems

* `every_safe_markdown`, `every_safe_html`: The pieces of a report whose scanned
  texts are clean.
* `emitted_clean_iff`: When everything that is printed is clean.
-/

namespace AgenticRag

namespace Report

open Py Html

/-- The texts of a report that the renderers print, with their fields. -/
def emitted (u : Unicode) (a : ReportArtifact) (includeRefs : Bool) : List (Field × String) :=
  given (markdownPieces u a includeRefs) ++ given (htmlPieces u a includeRefs)

section Scanned

variable {u : Unicode}

/-- The ends of a part that a separator cuts off. -/
theorem endsWith_of_before {sep a : List Char} (hsep : ∀ c ∈ sep, IsSeparator c) (hne : sep ≠ [])
    (h : a = [] ∨ sep <:+ a) : EndsWith IsSeparator a.getLast? := by
  intro c hc
  rcases h with rfl | ⟨t, rfl⟩
  · cases hc
  · rw [List.getLast?_append_of_ne_nil _ hne] at hc
    exact hsep c (List.mem_of_getLast? hc)

theorem endsWith_of_behind {sep b : List Char} (hsep : ∀ c ∈ sep, IsSeparator c) (hne : sep ≠ [])
    (h : b = [] ∨ sep <+: b) : EndsWith IsSeparator b.head? := by
  intro c hc
  rcases h with rfl | ⟨t, rfl⟩
  · cases hc
  · rw [List.head?_append_of_ne_nil _ hne] at hc
    exact hsep c (List.mem_of_head? hc)

/-- A piece of a clean text that is split at line breaks is clean. -/
theorem clean_split {text sep p : String} (h : Clean u text) (hne : sep ≠ "")
    (hsep : ∀ c ∈ sep.toList, IsSeparator c) (hp : p ∈ split text sep) : Clean u p := by
  have hlist : sep.toList ≠ [] := fun hnil => hne (String.toList_eq_nil_iff.mp hnil)
  rcases mem_split hne hp with ⟨a, b, hsplit, ha, hb⟩
  exact clean_of_part h hsplit (endsWith_of_before hsep hlist ha) (endsWith_of_behind hsep hlist hb)

theorem isSeparator_lineBreaks : ∀ c ∈ "\n\n".toList, IsSeparator c := by
  unfold IsSeparator
  decide

theorem isSeparator_lineBreak : ∀ c ∈ "\n".toList, IsSeparator c := by
  unfold IsSeparator
  decide

/-- The cells of a row that is clean are clean. -/
theorem clean_cell {row : List Val} (h : Clean u (rowText u row)) {cell : Val}
    (hcell : cell ∈ row) :
    Clean u (cell.toStr u) := by
  have hsep : ∀ c ∈ " ".toList, IsSeparator c := by
    unfold IsSeparator
    decide
  rcases mem_join " " (List.mem_map_of_mem hcell) with ⟨a, b, hsplit, ha, hb⟩
  exact clean_of_part h hsplit (endsWith_of_before hsep (by decide) ha)
    (endsWith_of_behind hsep (by decide) hb)

end Scanned

section Safe

variable {u : Unicode}

/-- All texts are clean. -/
def AllClean (u : Unicode) (texts : List String) : Prop :=
  ∀ s ∈ texts, Clean u s

@[simp] theorem allClean_nil : AllClean u [] := List.forall_mem_nil _

@[simp] theorem allClean_cons {s : String} {texts : List String} :
    AllClean u (s :: texts) ↔ Clean u s ∧ AllClean u texts :=
  List.forall_mem_cons

@[simp] theorem allClean_append {ss ts : List String} :
    AllClean u (ss ++ ts) ↔ AllClean u ss ∧ AllClean u ts :=
  List.forall_mem_append

@[simp] theorem allClean_map {α : Type} {f : α → String} {xs : List α} :
    AllClean u (xs.map f) ↔ ∀ x ∈ xs, Clean u (f x) :=
  List.forall_mem_map

@[simp] theorem allClean_flatMap {α : Type} {f : α → List String} {xs : List α} :
    AllClean u (xs.flatMap f) ↔ ∀ x ∈ xs, AllClean u (f x) :=
  List.forall_mem_flatMap

/-- A piece that is clean if it is content of the report. -/
def Safe (u : Unicode) : Py.Piece Field → Prop
  | .own _ => True
  | .user field s => field.isContent = true → Clean u s

@[simp] theorem safe_own (s : String) : Safe u (.own s) := trivial

@[simp] theorem safe_user (field : Field) (s : String) :
    Safe u (.user field s) ↔ (field.isContent = true → Clean u s) := Iff.rfl

@[simp] theorem safe_escaped (field : Field) (s : String) :
    Safe u (escaped field s) ↔ (field.isContent = true → Clean u s) := by
  rw [escaped, safe_user, clean_escape]

theorem safe_title (field : Field) (h : field.isContent = true) (title : Option String)
    (fallback : String) :
    Safe u (titlePiece field title fallback) ↔ AllClean u title.toList := by
  cases title <;> simp [titlePiece, h]

/-- The lines of a text, each of safe pieces. -/
def SafeLines (u : Unicode) (lines : List (List (Py.Piece Field))) : Prop :=
  ∀ line ∈ lines, Every (Safe u) line

@[simp] theorem safeLines_nil : SafeLines u [] := List.forall_mem_nil _

@[simp] theorem safeLines_cons {line : List (Py.Piece Field)}
    {lines : List (List (Py.Piece Field))} :
    SafeLines u (line :: lines) ↔ Every (Safe u) line ∧ SafeLines u lines :=
  List.forall_mem_cons

@[simp] theorem safeLines_append {ls ms : List (List (Py.Piece Field))} :
    SafeLines u (ls ++ ms) ↔ SafeLines u ls ∧ SafeLines u ms :=
  List.forall_mem_append

@[simp] theorem safeLines_map {α : Type} {f : α → List (Py.Piece Field)} {xs : List α} :
    SafeLines u (xs.map f) ↔ ∀ x ∈ xs, Every (Safe u) (f x) :=
  List.forall_mem_map

@[simp] theorem safeLines_flatMap {α : Type} {f : α → List (List (Py.Piece Field))} {xs : List α} :
    SafeLines u (xs.flatMap f) ↔ ∀ x ∈ xs, SafeLines u (f x) :=
  List.forall_mem_flatMap

@[simp] theorem every_safe_joined {sep : String} {lines : List (List (Py.Piece Field))} :
    Every (Safe u) (joined [.own sep] lines) ↔ SafeLines u lines :=
  every_joined (every_cons.mpr ⟨safe_own sep, every_nil⟩)

@[simp] theorem every_safe_list {field : Field} {sep : String} {texts : List String} :
    Every (Safe u) (listPieces field sep texts) ↔
      (field.isContent = true → AllClean u texts) := by
  rw [listPieces, every_safe_joined, safeLines_map]
  simp only [every_cons, every_nil, safe_user, and_true]
  exact ⟨fun h hfield s hs => h s hs hfield, fun h s hs hfield => h hfield s hs⟩

@[simp] theorem every_safe_row {cells : List (Py.Piece Field)} :
    Every (Safe u) (rowPieces cells) ↔ Every (Safe u) cells := by
  simp only [rowPieces, every_append, every_cons, every_nil, safe_own, every_safe_joined,
    safeLines_map, true_and, and_true]
  rfl

@[simp] theorem every_safe_replicate (n : Nat) (s : String) :
    Every (Safe u) (List.replicate n (.own s)) := by
  intro p hp
  rw [List.eq_of_mem_replicate hp]
  exact safe_own s

/-- The paragraphs made of a clean text. -/
theorem every_safe_paragraphs {text : String} (h : Clean u text) (field : Field) :
    Every (Safe u) (safePieces field text) := by
  rw [safePieces]
  split
  · exact every_nil
  · refine every_flatMap.mpr (fun p hp => ?_)
    -- A part of a clean text is clean, and so is an escaped one.
    have hp := clean_split (clean_escape.mpr h) (by decide) isSeparator_lineBreaks
      (List.mem_filter.mp hp).1
    simp only [paragraphPieces, every_append, every_cons, every_nil, safe_own, every_safe_joined,
      safeLines_map, safe_user, true_and, and_true]
    exact fun line hline _ => clean_split hp (by decide) isSeparator_lineBreak hline

end Safe

section Markdown

variable {u : Unicode}

theorem safe_sourceLines (refs : List String) :
    SafeLines u (sourceLines refs) := by
  rw [sourceLines]
  split <;> simp [Field.isContent]

theorem safe_sectionLines {sec : ReportSection} (h : Clean u sec.content) (includeRefs : Bool) :
    SafeLines u (markdownSectionLines sec includeRefs) ↔
      AllClean u sec.title.toList := by
  rw [← safe_title .sectionTitle rfl sec.title "未命名章节", markdownSectionLines]
  split <;> split <;> split <;> simp [linkPieces, h, Field.isContent]

theorem safe_chartBody (chart : ChartSpec) :
    SafeLines u (markdownChartBody u chart) ↔
      AllClean u (chartValues u chart) := by
  rw [markdownChartBody, chartValues]
  split
  · split
    next hnone => simp [List.isEmpty_iff.mp hnone]
    · simp [markdownKpi, Field.isContent]
  · cases chart.data with
    | nil => simp
    | cons first rest =>
        simp only [safeLines_append, safeLines_cons, safeLines_nil, safeLines_map, every_safe_row,
          every_map, every_safe_replicate, safe_user, Field.isContent, allClean_append,
          allClean_map, allClean_flatMap, List.forall_mem_map, true_implies, and_true]

theorem safe_chartLines (chart : ChartSpec) :
    SafeLines u (markdownChartLines u chart) ↔
      AllClean u (chartTexts u chart) := by
  rw [chartTexts, allClean_append, ← safe_chartBody, markdownChartLines,
    ← safe_title .chartTitle rfl chart.title "图表"]
  simp [safe_sourceLines]

/-- The lines of a table whose cells are clean. -/
theorem safe_tableLines {table : TableSpec}
    (h : ∀ row ∈ table.rows, ∀ cell ∈ row, Clean u (cell.toStr u)) :
    SafeLines u (markdownTableLines u table) ↔
      AllClean u (tableTexts table) := by
  have hrows : SafeLines u ((table.rows.take 50).map (fun row =>
      rowPieces (row.map (fun cell => .user .tableCell (cell.toStr u))))) := by
    refine List.forall_mem_map.mpr (fun row hrow => every_safe_row.mpr (every_map.mpr ?_))
    exact fun cell hcell _ => h row (List.mem_of_mem_take hrow) cell hcell
  rw [tableTexts, allClean_append, markdownTableLines,
    ← safe_title .tableTitle rfl table.title "数据表"]
  split
  · simp [safe_sourceLines]
  · simp [-List.map_take, hrows, safe_sourceLines, Field.isContent, AllClean]

theorem safe_appendix (app : AppendixItem) :
    SafeLines u [[.own "## 附录: ", titlePiece .appendixTitle app.title "未命名"], [],
      [.user .appendixText app.content], []] ↔
      AllClean u (appendixTexts app) := by
  rw [appendixTexts, allClean_append, ← safe_title .appendixTitle rfl app.title "未命名"]
  simp [Field.isContent]

theorem safe_metadataLines (a : ReportArtifact) :
    SafeLines u (markdownMetadataLines a) := by
  rw [markdownMetadataLines]
  split <;> split <;> split <;> simp [Field.isContent]

theorem safe_markdownClaim (c : ReportClaim) :
    Every (Safe u) (markdownClaimPieces c) ↔ Clean u (take c.text 80) := by
  simp [markdownClaimPieces, Field.isContent]

/-- What is left to ask of a report whose scanned texts are clean, for its lines
    in Markdown to be safe. -/
theorem safe_markdownLines {a : ReportArtifact} (h : AllClean u (scannedTexts u a))
    (includeRefs : Bool) : SafeLines u (markdownLines u a includeRefs) ↔
      (((((AllClean u a.title.toList ∧ ∀ sec ∈ a.sections, AllClean u sec.title.toList) ∧
        ∀ chart ∈ a.charts, AllClean u (chartTexts u chart)) ∧
        ∀ table ∈ a.tables, AllClean u (tableTexts table)) ∧
        ∀ app ∈ a.appendix, AllClean u (appendixTexts app)) ∧
        ∀ src ∈ a.dataSources, Every (Safe u) (markdownSourcePieces src)) ∧
        ∀ c ∈ a.claims, Clean u (take c.text 80) := by
  simp only [scannedTexts, allClean_append, allClean_cons, allClean_nil, allClean_map,
    allClean_flatMap, and_true] at h
  -- The summary, the sections and the cells were scanned.
  rcases h with ⟨⟨⟨hsummary, hsections⟩, htables⟩, -⟩
  have hmetadata : SafeLines u (if (markdownMetadataLines a).isEmpty then []
      else [joined [.own "  \n"] (markdownMetadataLines a), []]) := by
    split <;> simp [safe_metadataLines]
  have hsummary : SafeLines u (if a.summary = "" then []
      else [[.own "> **摘要**: ", .user .summary a.summary], []]) := by
    split <;> simp [hsummary]
  have hrefs : SafeLines u (if includeRefs && !a.evidenceRefs.isEmpty then
      [[.own "---"], [.own "## Evidence 引用"], []] ++
        a.evidenceRefs.map (fun ref => [.own "- `", .user .reference ref, .own "`"]) ++ [[]]
      else []) := by
    split <;> simp [Field.isContent]
  have hsources : SafeLines u (if a.dataSources.isEmpty then []
      else [[.own "---"], [.own "## 数据来源"], []] ++ a.dataSources.map markdownSourcePieces ++
        [[]]) ↔ ∀ src ∈ a.dataSources, Every (Safe u) (markdownSourcePieces src) := by
    split
    next hnone => simp [List.isEmpty_iff.mp hnone]
    · simp
  have hclaims : SafeLines u (if a.claims.isEmpty then []
      else [[.own "---"], [.own "## Claim 血缘"], []] ++ a.claims.map markdownClaimPieces ++ [[]]) ↔
      ∀ c ∈ a.claims, Clean u (take c.text 80) := by
    split
    next hnone => simp [List.isEmpty_iff.mp hnone]
    · simp [safe_markdownClaim]
  have hsection : ∀ sec ∈ a.sections, (SafeLines u (markdownSectionLines sec includeRefs) ↔
      AllClean u sec.title.toList) :=
    fun sec hsec => safe_sectionLines (hsections sec hsec) includeRefs
  have htable : ∀ table ∈ a.tables, (SafeLines u (markdownTableLines u table) ↔
      AllClean u (tableTexts table)) := fun table ht => safe_tableLines
    (fun row hrow cell hcell => clean_cell (htables table ht row hrow) hcell)
  rw [← safe_title .title rfl a.title "未命名报告", markdownLines]
  simp only [safeLines_append, safeLines_map, safeLines_flatMap, every_safe_joined, hmetadata,
    hsummary, hrefs, hsources, hclaims, forall₂_congr hsection,
    forall₂_congr htable, safe_chartLines, safe_appendix, and_true]
  cases a.verificationResult <;> simp

end Markdown

section Html

variable {u : Unicode}

theorem safe_onPage : HoldsOnPage (Safe u) where
  own := fun t _ => safe_own t
  style := fun t _ => safe_own t
  number := fun t _ => safe_own t
  label := fun field s hfield => by
    rw [safe_escaped, hfield]
    intro hcontent
    cases hcontent

/-- The sources of a report, in both renderings. -/
theorem safe_source (src : DataSourceRef) :
    Every (Safe u) (markdownSourcePieces src) ∧ Every (Safe u) (htmlSourcePieces src) ↔
      AllClean u (sourceTexts src) := by
  -- The page prints the sections one by one, and Markdown all in one.
  have hused : Every (Safe u) (usedForPieces src) ∧ Every (Safe u) (htmlUsedForPieces src) ↔
      AllClean u (usedByTexts src) := by
    rw [usedForPieces, htmlUsedForPieces, usedByTexts]
    split <;> simp [Field.isContent]
  rw [markdownSourcePieces, htmlSourcePieces, sourceTexts]
  split
  · simp [← hused, Field.isContent]
    tauto
  · split
    · simp [← hused, Field.isContent]
      tauto
    · simp [Field.isContent]

/-- The sources are a part of the page. -/
theorem every_source_of_page {P : Py.Piece Field → Prop} {a : ReportArtifact} {includeRefs : Bool}
    (h : Every P (htmlPieces u a includeRefs)) {src : DataSourceRef} (hsrc : src ∈ a.dataSources) :
    Every P (htmlSourcePieces src) := by
  simp only [htmlPieces, pageRest, htmlContentPieces, every_append] at h
  have hsources : Every P (htmlSourcesPieces a) := h.2.1.1.1.2.1.2
  rw [htmlSourcesPieces] at hsources
  split at hsources
  next hnone =>
    rw [List.isEmpty_iff.mp hnone] at hsrc
    exact absurd hsrc List.not_mem_nil
  · simp only [every_append, every_flatMap] at hsources
    exact hsources.1.2 src hsrc

/-- The page of a report whose texts are clean. -/
theorem every_safe_html {a : ReportArtifact} (h : AllClean u (scannedTexts u a))
    (hdata : AllClean u (titlesAndData u a)) (includeRefs : Bool) :
    Every (Safe u) (htmlPieces u a includeRefs) := by
  simp only [scannedTexts, allClean_append, allClean_cons, allClean_nil, allClean_map,
    allClean_flatMap, and_true] at h
  rcases h with ⟨⟨⟨hsummary, hsections⟩, htables⟩, -⟩
  have hlanguage : Safe u (escapedTitle .language a.language "zh_CN") := by
    cases a.language <;> simp [escapedTitle, Field.isContent]
  have hrest := every_pageRest safe_onPage
    { data := fun s hs field => (safe_escaped field s).mpr (fun _ => hdata s hs)
      summary := every_safe_paragraphs hsummary _
      sections := fun sec hsec => every_safe_paragraphs (hsections sec hsec) _
      cells := fun table htable row hrow cell hcell => (safe_escaped _ _).mpr
        (fun _ => clean_cell (htables table htable row hrow) hcell) } includeRefs
  simp only [htmlPieces, pageStart, every_append, every_cons, every_nil, safe_own, hlanguage, hrest,
    and_true]

/-- A report whose scanned texts are clean is printed without anything sensitive
    if and only if its titles and its data are clean. -/
theorem every_safe_iff {a : ReportArtifact} (h : AllClean u (scannedTexts u a))
    (includeRefs : Bool) :
    Every (Safe u) (markdownPieces u a includeRefs) ∧ Every (Safe u) (htmlPieces u a includeRefs) ↔
      AllClean u (titlesAndData u a) := by
  have hlines := safe_markdownLines h includeRefs
  rw [markdownPieces, every_safe_joined]
  constructor
  · rintro ⟨hmarkdown, hhtml⟩
    rcases hlines.mp hmarkdown with ⟨⟨hparts, hsources⟩, hclaims⟩
    simp only [titlesAndData, allClean_append, allClean_flatMap, allClean_map]
    -- A source is only covered by both renderings together.
    refine ⟨⟨hparts, fun src hsrc => ?_⟩, hclaims⟩
    exact (safe_source src).mp ⟨hsources src hsrc, every_source_of_page hhtml hsrc⟩
  · intro hdata
    refine ⟨hlines.mpr ?_, every_safe_html h hdata includeRefs⟩
    simp only [titlesAndData, allClean_append, allClean_flatMap, allClean_map] at hdata
    exact ⟨⟨hdata.1.1, fun src hsrc => ((safe_source src).mpr (hdata.1.2 src hsrc)).1⟩, hdata.2⟩

end Html

section Emission

/-- Nothing that the renderers print of the contents of a report holds a match
    of a pattern of high or critical severity. -/
def EmittedClean (u : Unicode) (a : ReportArtifact) : Prop :=
  ∀ includeRefs field s, (field, s) ∈ emitted u a includeRefs → field.isContent = true → Clean u s

theorem emittedClean_iff {u : Unicode} {a : ReportArtifact} (h : AllClean u (scannedTexts u a)) :
    EmittedClean u a ↔ AllClean u (titlesAndData u a) := by
  have hemitted : ∀ includeRefs,
      (∀ field s, (field, s) ∈ emitted u a includeRefs → field.isContent = true → Clean u s) ↔
        Every (Safe u) (markdownPieces u a includeRefs ++ htmlPieces u a includeRefs) := by
    intro includeRefs
    have hgiven : emitted u a includeRefs =
        given (markdownPieces u a includeRefs ++ htmlPieces u a includeRefs) :=
      List.filterMap_append.symm
    simp only [hgiven, mem_given]
    constructor
    · intro hall p hp
      cases p with
      | own s => exact safe_own s
      | user field s => exact hall field s hp
    · exact fun hall field s hp => hall _ hp
  simp only [EmittedClean, hemitted, every_append, every_safe_iff h, forall_const]

/-- If a report passes a verification that scans it then all that is printed of
    its contents is clean: this is so if and only if its titles and its data
    are, or the report does not meet the verifier's conditions. -/
theorem emitted_clean_iff (env : VerifierEnv) (a : ReportArtifact) (evidence : List EvidenceItem)
    (o : VerifyOptions) (hscan : o.scanSensitive = true) :
    ((verify env a evidence o).passed = true → EmittedClean env.unicode a) ↔
      (Accepts env a evidence o → AllClean env.unicode (titlesAndData env.unicode a)) := by
  rw [verify_passed_iff]
  exact imp_congr_right (fun haccepts => emittedClean_iff (haccepts.clean hscan))

/-- A report with a password in its title. -/
def leakedTitle : ReportArtifact where
  title := some "pwd=1"
  sections :=
    [{ sectionId := some "overview", sectionType := "overview", content := "3",
       evidenceRefs := ["ev_1"] }]

theorem emitted_clean_iff_leakedTitle :
    ((verify default leakedTitle unrelatedEvidence {}).passed = true →
        EmittedClean (default : VerifierEnv).unicode leakedTitle) ↔
      (Accepts default leakedTitle unrelatedEvidence {} →
        AllClean (default : VerifierEnv).unicode
          (titlesAndData (default : VerifierEnv).unicode leakedTitle)) :=
  emitted_clean_iff default leakedTitle unrelatedEvidence {} rfl

theorem leakedTitle_emitted :
    (verify default leakedTitle unrelatedEvidence {}).passed = true ∧
      ({} : VerifyOptions).scanSensitive = true ∧
      ¬ EmittedClean (default : VerifierEnv).unicode leakedTitle := by
  refine ⟨by decide, rfl, fun h => ?_⟩
  have hpassword := h false .title "pwd=1" (List.mem_append_left _ (mem_given.mpr ?_)) rfl
  · have hfound : ∃ p ∈ sensitivePatterns (default : VerifierEnv).unicode,
        p.severity.isBlocking = true ∧ finditer p.pattern "pwd=1" ≠ [] := by
      decide
    rcases hfound with ⟨p, hp, hblocking, hmatch⟩
    exact hmatch (hpassword p hp hblocking)
  · exact List.mem_cons_of_mem _ List.mem_cons_self

end Emission

end Report

end AgenticRag

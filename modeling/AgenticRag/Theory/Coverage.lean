import AgenticRag.Core.EvidenceFusion

/-!
# Coverage

Which tool results reach the evidence. Five tools leave results in the state,
and the fusion node reads four of them: the documents of the REST tool are
never normalised, although the graph routes questions to that tool and a
normaliser for it exists.

The other four can fall out as well. A round may raise before anything is
normalised, a database row without columns raises, compression may empty every
retrieved document, and a graph result that reports no rows is passed over
whatever rows it holds. `fusion_covers_iff` says that this is the whole list.

## Main definitions

* `Contributes`: A source has new evidence in the merged list.
* `NothingIgnored`: What a state must be like for that.

## Theorems

* `normalizeCurrentToolResults_eq`: The evidence of the four tools.
* `fusion_covers_iff`: When every tool result contributes.
-/

namespace AgenticRag

open Py

section Normalizers

variable (rt : Runtime) (tenantId query : String)

@[simp] theorem attachProvenanceToEvidence_sourceType (ev : Evidence) (provenance : Dict) :
    (attachProvenanceToEvidence ev provenance).sourceType = ev.sourceType := by
  unfold attachProvenanceToEvidence
  split_ifs <;> rfl

theorem normalizeRagEvidence_sourceType (docs : List RagDoc) :
    ∀ ev ∈ normalizeRagEvidence rt tenantId query docs, ev.sourceType = .rag := by
  intro ev hev
  rcases List.mem_map.mp hev with ⟨doc, -, rfl⟩
  simp [ragEvidence]

theorem normalizeWebEvidence_sourceType (docs : List WebDoc) :
    ∀ ev ∈ normalizeWebEvidence rt tenantId query docs, ev.sourceType = .web := by
  intro ev hev
  rcases List.mem_map.mp hev with ⟨doc, -, rfl⟩
  rfl

theorem normalizeGraphEvidence_sourceType (graphResult : Option GraphResult) :
    ∀ ev ∈ normalizeGraphEvidence rt tenantId query graphResult, ev.sourceType = .graph := by
  intro ev hev
  rcases mem_normalizeGraphEvidence hev with ⟨r, rfl⟩
  rfl

theorem normalizeDbEvidence_sourceType {dbResult : Option DbResult} {db : List Evidence}
    (h : normalizeDbEvidence rt tenantId query dbResult = .ok db) :
    ∀ ev ∈ db, ev.sourceType = .db := by
  intro ev hev
  rcases mem_normalizeDbEvidence h hev with ⟨r, rfl | ⟨row, rowKey, title, marks, rfl, -⟩⟩
  · simp [zeroRowsEvidence]
  · simp [rowEvidence]

/-- The rows of a database result can be normalised: there are none, or the
    first has a column, or they are the few rows of an aggregate. -/
def RowsReadable (r : DbResult) : Prop :=
  r.rows.head? ≠ some [] ∨ (isAggregate rt r.sql = true ∧ r.rows.length ≤ 5)

/-- A database result gives evidence, or raises where its rows cannot be
    read. -/
theorem normalizeDbEvidence_ok_iff (r : DbResult) :
    (∃ db, normalizeDbEvidence rt tenantId query (some r) = .ok db ∧ db ≠ []) ↔
      RowsReadable rt r := by
  unfold normalizeDbEvidence RowsReadable
  cases hrows : r.rows with
  | nil => simp [hrows]
  | cons first rest =>
      simp only [hrows, List.head?_cons]
      by_cases hagg : isAggregate rt r.sql = true ∧ (first :: rest).length ≤ 5
      · rw [if_pos hagg]
        exact iff_of_true ⟨_, rfl, by simp⟩ (.inr hagg)
      -- Splitting by rows reads the first column off the first row.
      · rw [if_neg hagg, or_iff_left hagg]
        cases first with
        | nil => simp
        | cons col cols => exact iff_of_true ⟨_, rfl, by simp⟩ (by simp)

/-- The evidence of the four tools, in order. -/
theorem normalizeCurrentToolResults_eq (t : ToolOutputs) :
    normalizeCurrentToolResults rt tenantId query t =
      (normalizeDbEvidence rt tenantId query t.dbResult).map (fun db =>
        normalizeRagEvidence rt tenantId query t.ragDocs ++ db ++
          normalizeWebEvidence rt tenantId query t.webDocs ++
          normalizeGraphEvidence rt tenantId query t.graphResult) := by
  -- A result that is not there gives what its normaliser gives on nothing.
  have hrag : (if t.ragDocs.isEmpty then .ok [] else
      normalizeToolResult rt tenantId query "rag_search" (.ragDocs t.ragDocs)) =
        (.ok (normalizeRagEvidence rt tenantId query t.ragDocs) : Except Exc _) := by
    cases t.ragDocs <;> rfl
  have hdb : (if t.dbResult.isNone then .ok [] else
      normalizeToolResult rt tenantId query "db_query" (.dbResult t.dbResult)) =
        normalizeDbEvidence rt tenantId query t.dbResult := by
    cases t.dbResult <;> rfl
  have hweb : (if t.webDocs.isEmpty then .ok [] else
      normalizeToolResult rt tenantId query "web_search" (.webDocs t.webDocs)) =
        (.ok (normalizeWebEvidence rt tenantId query t.webDocs) : Except Exc _) := by
    cases t.webDocs <;> rfl
  have hgraph : (if t.graphResult.isNone then .ok [] else
      normalizeToolResult rt tenantId query "graph" (.graphResult t.graphResult)) =
        (.ok (normalizeGraphEvidence rt tenantId query t.graphResult) : Except Exc _) := by
    cases t.graphResult <;> rfl
  -- Only the database can raise.
  rw [normalizeCurrentToolResults, hrag, hdb, hweb, hgraph]
  cases normalizeDbEvidence rt tenantId query t.dbResult <;> rfl

end Normalizers

section Fusing

variable (rt : Runtime) (llm : Option ChatModel) (s : AgentState)

/-- A source has new evidence in the merged list. -/
def Contributes (new merged : List Evidence) (st : SourceType) : Prop :=
  ∃ ev ∈ new, ev ∈ merged ∧ ev.sourceType = st

/-- Every tool result that is there contributes to the list that is cut by
    source. -/
def Covers : Prop :=
  ∃ new merged, s.newEvidences rt llm = .ok new ∧ s.mergedEvidences rt llm = .ok merged ∧
    (s.ragDocs ≠ [] → Contributes new merged .rag) ∧
    (s.dbResult ≠ none → Contributes new merged .db) ∧
    (s.webDocs ≠ [] → Contributes new merged .web) ∧
    ((∃ r, s.restResult = some r ∧ r.docs ≠ []) → Contributes new merged .rest) ∧
    ((∃ g, s.graphResult = some g ∧ g.error = "" ∧ g.rows ≠ []) → Contributes new merged .graph)

/-- The tokens that are left for evidence. -/
def AgentState.windowLeft : Int :=
  (TokenBudgetScheduler.new s.totalTokenBudget).totalBudget - s.lockedTokens - outputReserveTokens

/-- What a state must be like for every tool result to contribute. -/
structure NothingIgnored : Prop where
  /-- The overflow is not measured against a window of zero. -/
  window : s.windowLeft ≠ 0 ∨ (s.toolTokens rt).total = 0
  /-- The REST tool left no documents. -/
  rest : ∀ r, s.restResult = some r → r.docs = []
  /-- A graph result with rows does not report that it has none. -/
  graph : ∀ g, s.graphResult = some g → g.error = "" → g.rows ≠ [] → g.rowCount ≠ some 0
  /-- Compression leaves one of the documents with a text. -/
  rag : ∀ level, s.roundLevel rt = .ok level → s.ragDocs ≠ [] →
    llm.isSome = true ∧ s.compresses rt level .rag = true →
      ∃ doc ∈ s.compressedDocs rt llm level, doc.content ≠ ""
  /-- The rows of the database result, compressed or not, can be read. -/
  db : ∀ level r, s.roundLevel rt = .ok level →
    (s.workingOutputs rt llm level).dbResult = some r → RowsReadable rt r

variable {rt llm s}

theorem roundLevel_ok_iff :
    (∃ level, s.roundLevel rt = .ok level) ↔ s.windowLeft ≠ 0 ∨ (s.toolTokens rt).total = 0 := by
  unfold AgentState.roundLevel TokenBudgetScheduler.calculateOverflowRatio
  change (∃ level, Except.map determineLevel (if ((s.toolTokens rt).total : Int) ≤ s.windowLeft
    then _ else if s.windowLeft = 0 then _ else _) = .ok level) ↔ _
  by_cases hfits : ((s.toolTokens rt).total : Int) ≤ s.windowLeft
  · rw [if_pos hfits]
    refine iff_of_true ⟨_, rfl⟩ ?_
    omega
  · rw [if_neg hfits]
    by_cases hzero : s.windowLeft = 0
    · rw [if_pos hzero]
      refine iff_of_false (fun ⟨level, h⟩ => by cases h) ?_
      omega
    · rw [if_neg hzero]
      exact iff_of_true ⟨_, rfl⟩ (.inl hzero)

/-- The new evidence of a round that reads its rows. -/
theorem newEvidences_eq {level : CompressLevel} (hlevel : s.roundLevel rt = .ok level) :
    s.newEvidences rt llm =
      (normalizeDbEvidence rt s.tenantId s.userQuestion
        (s.workingOutputs rt llm level).dbResult).map (fun db =>
          normalizeRagEvidence rt s.tenantId s.userQuestion
            (s.workingOutputs rt llm level).ragDocs ++ db ++
          normalizeWebEvidence rt s.tenantId s.userQuestion s.webDocs ++
          normalizeGraphEvidence rt s.tenantId s.userQuestion s.graphResult) := by
  have hbind : s.newEvidences rt llm = normalizeCurrentToolResults rt s.tenantId s.userQuestion
      (s.workingOutputs rt llm level) := by
    unfold AgentState.newEvidences
    rw [hlevel]
    rfl
  rw [hbind, normalizeCurrentToolResults_eq]
  rfl

theorem contributes_iff {old new : List Evidence} {st : SourceType} :
    Contributes new (mergeEvidences old new) st ↔ ∃ ev ∈ new, ev.sourceType = st := by
  rw [mergeEvidences_eq]
  constructor
  · rintro ⟨ev, hev, -, hst⟩
    exact ⟨ev, hev, hst⟩
  · rintro ⟨ev, hev, hst⟩
    exact ⟨ev, hev, List.mem_append_right _ hev, hst⟩

/-- The pieces of a list put together from four sources, told apart by their
    source. -/
theorem exists_sourceType_iff {rag db web graph : List Evidence}
    (hrag : ∀ ev ∈ rag, ev.sourceType = .rag) (hdb : ∀ ev ∈ db, ev.sourceType = .db)
    (hweb : ∀ ev ∈ web, ev.sourceType = .web) (hgraph : ∀ ev ∈ graph, ev.sourceType = .graph)
    (st : SourceType) :
    (∃ ev ∈ rag ++ db ++ web ++ graph, ev.sourceType = st) ↔
      (st = .rag ∧ rag ≠ []) ∨ (st = .db ∧ db ≠ []) ∨ (st = .web ∧ web ≠ []) ∨
        (st = .graph ∧ graph ≠ []) := by
  -- All pieces of a group have its source, so it is enough that there is one.
  have hone : ∀ (group : List Evidence) (k : SourceType), (∀ ev ∈ group, ev.sourceType = k) →
      ((∃ ev ∈ group, ev.sourceType = st) ↔ st = k ∧ group ≠ []) := by
    intro group k hgroup
    constructor
    · rintro ⟨ev, hev, rfl⟩
      exact ⟨hgroup ev hev, List.ne_nil_of_mem hev⟩
    · rintro ⟨rfl, hne⟩
      rcases List.exists_mem_of_ne_nil _ hne with ⟨ev, hev⟩
      exact ⟨ev, hev, hgroup ev hev⟩
  rw [← hone rag _ hrag, ← hone db _ hdb, ← hone web _ hweb, ← hone graph _ hgraph]
  simp only [List.mem_append, or_and_right, exists_or, or_assoc]

theorem normalizeGraphEvidence_ne_nil_iff {g : GraphResult} (herror : g.error = "")
    (hrows : g.rows ≠ []) :
    normalizeGraphEvidence rt s.tenantId s.userQuestion (some g) ≠ [] ↔ g.rowCount ≠ some 0 := by
  cases hcount : g.rowCount with
  | none => simp [normalizeGraphEvidence, GraphResult.reportedRows, herror, hcount, hrows]
  | some n => simp [normalizeGraphEvidence, GraphResult.reportedRows, herror, hcount]

theorem workingOutputs_ragDocs_ne_nil_iff {level : CompressLevel} (hdocs : s.ragDocs ≠ []) :
    (s.workingOutputs rt llm level).ragDocs ≠ [] ↔
      (llm.isSome = true ∧ s.compresses rt level .rag = true →
        ∃ doc ∈ s.compressedDocs rt llm level, doc.content ≠ "") := by
  simp only [AgentState.workingOutputs]
  split_ifs with hcompress
  · rw [ne_eq, List.filter_eq_nil_iff]
    simp [hcompress]
  · exact iff_of_true hdocs (fun h => absurd h hcompress)

theorem workingOutputs_dbResult_eq_none_iff {level : CompressLevel} :
    (s.workingOutputs rt llm level).dbResult = none ↔ s.dbResult = none := by
  simp only [AgentState.workingOutputs, Option.map_eq_none_iff]

theorem normalizeWebEvidence_ne_nil_iff (docs : List WebDoc) :
    normalizeWebEvidence rt s.tenantId s.userQuestion docs ≠ [] ↔ docs ≠ [] := by
  simp [normalizeWebEvidence]

theorem normalizeRagEvidence_ne_nil_iff (docs : List RagDoc) :
    normalizeRagEvidence rt s.tenantId s.userQuestion docs ≠ [] ↔ docs ≠ [] := by
  simp [normalizeRagEvidence]

/-- What a round that raises nothing covers. -/
theorem covers_iff_of_ok {level : CompressLevel} (hlevel : s.roundLevel rt = .ok level)
    {db : List Evidence}
    (hdb : normalizeDbEvidence rt s.tenantId s.userQuestion
      (s.workingOutputs rt llm level).dbResult = .ok db) :
    Covers rt llm s ↔
      (s.ragDocs ≠ [] → (s.workingOutputs rt llm level).ragDocs ≠ []) ∧
      (s.dbResult ≠ none → db ≠ []) ∧
      (∀ r, s.restResult = some r → r.docs = []) ∧
      (∀ g, s.graphResult = some g → g.error = "" → g.rows ≠ [] → g.rowCount ≠ some 0) := by
  -- Both lists are there, and the merged one holds all of the new evidence.
  have hnew : s.newEvidences rt llm = .ok _ :=
    (newEvidences_eq hlevel).trans (congrArg (Except.map _) hdb)
  have hmerged : s.mergedEvidences rt llm = .ok _ := congrArg (Except.map _) hnew
  have hsource := exists_sourceType_iff
    (normalizeRagEvidence_sourceType rt s.tenantId s.userQuestion
      (s.workingOutputs rt llm level).ragDocs)
    (normalizeDbEvidence_sourceType rt s.tenantId s.userQuestion hdb)
    (normalizeWebEvidence_sourceType rt s.tenantId s.userQuestion s.webDocs)
    (normalizeGraphEvidence_sourceType rt s.tenantId s.userQuestion s.graphResult)
  have hcovers : Covers rt llm s ↔ _ :=
    ⟨fun ⟨new, merged, hn, hm, hall⟩ => by
      cases hnew.symm.trans hn
      cases hmerged.symm.trans hm
      exact hall, fun hall => ⟨_, _, hnew, hmerged, hall⟩⟩
  rw [hcovers]
  -- No group is of the source `rest`, so its documents must not be there.
  simp only [contributes_iff, hsource, normalizeRagEvidence_ne_nil_iff,
    normalizeWebEvidence_ne_nil_iff, reduceCtorEq, false_and, true_and, or_false, false_or]
  constructor
  · rintro ⟨hrag, hdb', -, hrest, hgraph⟩
    refine ⟨hrag, hdb', fun r hr => ?_, fun g hg herror hrows => ?_⟩
    · by_contra hdocs
      exact hrest ⟨r, hr, hdocs⟩
    · have hne := hgraph ⟨g, hg, herror, hrows⟩
      rw [hg] at hne
      exact (normalizeGraphEvidence_ne_nil_iff herror hrows).mp hne
  · rintro ⟨hrag, hdb', hrest, hgraph⟩
    refine ⟨hrag, hdb', id, ?_, ?_⟩
    · rintro ⟨r, hr, hdocs⟩
      exact hdocs (hrest r hr)
    · rintro ⟨g, hg, herror, hrows⟩
      rw [hg]
      exact (normalizeGraphEvidence_ne_nil_iff herror hrows).mpr (hgraph g hg herror hrows)

/-- A round that raises covers nothing. -/
theorem ok_of_covers (h : Covers rt llm s) :
    ∃ level db, s.roundLevel rt = .ok level ∧
      normalizeDbEvidence rt s.tenantId s.userQuestion
        (s.workingOutputs rt llm level).dbResult = .ok db := by
  rcases h with ⟨new, -, hnew, -⟩
  cases hlevel : s.roundLevel rt with
  | error e =>
      unfold AgentState.newEvidences at hnew
      rw [hlevel] at hnew
      cases hnew
  | ok level =>
      rw [newEvidences_eq hlevel] at hnew
      cases hdb : normalizeDbEvidence rt s.tenantId s.userQuestion
          (s.workingOutputs rt llm level).dbResult with
      | error e => rw [hdb] at hnew; cases hnew
      | ok db => exact ⟨level, db, rfl, hdb⟩

/-- Every tool result that is there contributes exactly when nothing raises,
    the REST tool left no documents, the graph reports its rows and compression
    leaves a document. -/
theorem fusion_covers_iff (rt : Runtime) (llm : Option ChatModel) (s : AgentState) :
    Covers rt llm s ↔ NothingIgnored rt llm s := by
  constructor
  · intro hcovers
    rcases ok_of_covers hcovers with ⟨level, db, hlevel, hdb⟩
    rcases (covers_iff_of_ok hlevel hdb).mp hcovers with ⟨hrag, hne, hrest, hgraph⟩
    refine ⟨roundLevel_ok_iff.mp ⟨level, hlevel⟩, hrest, hgraph, ?_, ?_⟩
    · intro level' hlevel' hdocs
      cases hlevel.symm.trans hlevel'
      exact (workingOutputs_ragDocs_ne_nil_iff hdocs).mp (hrag hdocs)
    · intro level' r hlevel' hr
      cases hlevel.symm.trans hlevel'
      have hsome : s.dbResult ≠ none := by
        intro hnone
        have hworking : (s.workingOutputs rt llm level).dbResult = none :=
          workingOutputs_dbResult_eq_none_iff.mpr hnone
        rw [hr] at hworking
        cases hworking
      rw [hr] at hdb
      exact (normalizeDbEvidence_ok_iff rt s.tenantId s.userQuestion r).mp ⟨db, hdb, hne hsome⟩
  · rintro ⟨hwindow, hrest, hgraph, hrag, hreadable⟩
    rcases roundLevel_ok_iff.mpr hwindow with ⟨level, hlevel⟩
    have hrag' : s.ragDocs ≠ [] → (s.workingOutputs rt llm level).ragDocs ≠ [] :=
      fun hdocs => (workingOutputs_ragDocs_ne_nil_iff hdocs).mpr (hrag level hlevel hdocs)
    -- The database gives evidence or is not there, and the round raises nothing.
    cases hr : (s.workingOutputs rt llm level).dbResult with
    | none =>
        have hdb : normalizeDbEvidence rt s.tenantId s.userQuestion
            (s.workingOutputs rt llm level).dbResult = .ok [] := by
          rw [hr]
          rfl
        have hnone := workingOutputs_dbResult_eq_none_iff.mp hr
        exact (covers_iff_of_ok hlevel hdb).mpr
          ⟨hrag', fun hsome => absurd hnone hsome, hrest, hgraph⟩
    | some r =>
        rcases (normalizeDbEvidence_ok_iff rt s.tenantId s.userQuestion r).mpr
          (hreadable level r hlevel hr) with ⟨db, hok, hne⟩
        exact (covers_iff_of_ok hlevel (hr ▸ hok)).mpr ⟨hrag', fun _ => hne, hrest, hgraph⟩

/-- The answer of an enterprise system, and nothing else. -/
def stockQuery : AgentState :=
  { restResult := some { docs := [{ title := "库存", content := .text "300 件" }] } }

/-- A round over it raises nothing and has no evidence of it. -/
theorem rest_documents_ignored :
    ∃ s : AgentState, (∃ r, s.restResult = some r ∧ r.docs ≠ []) ∧ ∀ rt llm,
      (∃ new, s.newEvidences rt llm = .ok new) ∧ ¬ Covers rt llm s := by
  refine ⟨stockQuery, ⟨_, rfl, by simp⟩, fun rt llm => ⟨?_, ?_⟩⟩
  -- The window is the default one, and no other tool has a result.
  · have hwindow : stockQuery.windowLeft ≠ 0 := by decide
    rcases roundLevel_ok_iff.mpr (.inl hwindow) with ⟨level, hlevel⟩
    exact ⟨_, newEvidences_eq hlevel⟩
  · intro hcovers
    rcases ok_of_covers hcovers with ⟨level, db, hlevel, hdb⟩
    cases ((covers_iff_of_ok hlevel hdb).mp hcovers).2.2.1 _ rfl

end Fusing

end AgenticRag

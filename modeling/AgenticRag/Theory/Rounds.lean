import AgenticRag.Theory.Coverage

/-!
# Rounds of Fusion

The evidence over the rounds of one request. A round merges the evidence of
the current tool results into what the earlier rounds left, cuts every source
to its quota, drops repeated ids, ranks what is left and cuts it again.

The merge replaces by source and tool run. No normaliser writes a tool run into
its evidence (`normalized_untagged`), so within one request a source is
replaced as a whole: what is listed of a source after a round that found
something for it was found in that round.

## Main definitions

* `Normalized`: Evidence that comes from a tool result.
* `ExactRound`: What a round does with the evidence.

## Theorems

* `normalized_untagged`: Evidence of a tool result names no tool run.
* `runRounds_normalized`: The rounds keep to evidence of tool results.
* `rounds_exact`: Every round of every request is exact.
-/

namespace AgenticRag

open Py Ordered

section Untagged

/-- Evidence that comes from a tool result. -/
def Normalized (rt : Runtime) (ev : Evidence) : Prop :=
  ∃ tenantId query toolName payload evidences,
    normalizeToolResult rt tenantId query toolName payload = .ok evidences ∧ ev ∈ evidences

variable (rt : Runtime) (tenantId query : String)

theorem extractToolRunId_attachProvenanceToEvidence (ev : Evidence) (provenance : Dict) :
    extractToolRunId (attachProvenanceToEvidence ev provenance) = extractToolRunId ev := by
  unfold attachProvenanceToEvidence
  split_ifs
  · rfl
  · simp [extractToolRunId, metadataText, List.lookup_append, List.lookup_cons]

theorem untagged_of_lookup {ev : Evidence} (hrun : ev.metadata.lookup "tool_run_id" = none)
    (hid : ev.metadata.lookup "run_id" = none) : extractToolRunId ev = "" := by
  simp [extractToolRunId, metadataText, orElse, hrun, hid]

theorem untagged_ragEvidence (doc : RagDoc) :
    extractToolRunId (ragEvidence rt tenantId query doc) = "" :=
  (extractToolRunId_attachProvenanceToEvidence _ _).trans (untagged_of_lookup rfl rfl)

theorem untagged_zeroRowsEvidence (r : DbResult) :
    extractToolRunId (zeroRowsEvidence rt tenantId query r) = "" :=
  (extractToolRunId_attachProvenanceToEvidence _ _).trans (untagged_of_lookup rfl rfl)

theorem untagged_webEvidence (doc : WebDoc) :
    extractToolRunId (webEvidence rt tenantId query doc) = "" :=
  untagged_of_lookup rfl rfl

theorem untagged_restEvidence (erpDomain : String) (doc : RestDoc) :
    extractToolRunId (restEvidence rt tenantId query erpDomain doc) = "" :=
  untagged_of_lookup rfl rfl

theorem untagged_graphEvidence (r : GraphResult) :
    extractToolRunId (graphEvidence rt tenantId query r) = "" :=
  untagged_of_lookup rfl rfl

/-- A row names no tool run, unless its marks do. -/
theorem untagged_rowEvidence (r : DbResult) (row : Dict) (rowKey title : String) (marks : Dict)
    (hrun : marks.lookup "tool_run_id" = none) (hid : marks.lookup "run_id" = none) :
    extractToolRunId (rowEvidence rt tenantId query r row rowKey title marks) = "" := by
  refine (extractToolRunId_attachProvenanceToEvidence _ _).trans (untagged_of_lookup ?_ ?_)
  · simp [dbMetadata, List.lookup_append, List.lookup_cons, hrun]
  · simp [dbMetadata, List.lookup_append, List.lookup_cons, hid]

theorem untagged_normalizeDbEvidence {dbResult : Option DbResult} {db : List Evidence}
    (h : normalizeDbEvidence rt tenantId query dbResult = .ok db) :
    ∀ ev ∈ db, extractToolRunId ev = "" := by
  intro ev hev
  rcases mem_normalizeDbEvidence h hev with ⟨r, rfl | ⟨row, rowKey, title, marks, rfl, hmarks⟩⟩
  · exact untagged_zeroRowsEvidence rt tenantId query r
  -- The mark of an aggregate is not a tool run.
  · rcases hmarks with rfl | rfl
    · exact untagged_rowEvidence rt tenantId query r row rowKey title _ rfl rfl
    · exact untagged_rowEvidence rt tenantId query r row rowKey title _ rfl rfl

/-- Evidence of a tool result names no tool run. -/
theorem normalized_untagged {rt : Runtime} {ev : Evidence} (h : Normalized rt ev) :
    extractToolRunId ev = "" := by
  rcases h with ⟨tenantId, query, toolName, payload, evidences, hok, hev⟩
  unfold normalizeToolResult at hok
  -- One case for each source a tool may be filed under, in the map's order.
  split at hok
  · cases hok
    rcases List.mem_map.mp hev with ⟨doc, -, rfl⟩
    exact untagged_ragEvidence rt tenantId query doc
  · exact untagged_normalizeDbEvidence rt tenantId query hok ev hev
  · cases hok
    rcases List.mem_map.mp hev with ⟨doc, -, rfl⟩
    exact untagged_webEvidence rt tenantId query doc
  · exact untagged_normalizeDbEvidence rt tenantId query hok ev hev
  · cases hok
    rcases List.mem_map.mp hev with ⟨doc, -, rfl⟩
    exact untagged_restEvidence rt tenantId query _ doc
  · cases hok
    rcases mem_normalizeGraphEvidence hev with ⟨r, rfl⟩
    exact untagged_graphEvidence rt tenantId query r
  · cases hok
    cases hev

end Untagged

section Rounds

/-- One round of fusion: the state the node sees, its evidence left open, and
    the model that compresses. -/
structure Round where
  llm : Option ChatModel
  state : AgentState

variable (rt : Runtime)

/-- The state of a round that follows on some evidence. -/
def Round.stateAfter (r : Round) (old : List Evidence) : AgentState :=
  { r.state with evidence := old }

/-- The evidence a round leaves. -/
def fuseRound (r : Round) (old : List Evidence) : Except Exc (List Evidence) :=
  (evidenceFusionNode rt r.llm (r.stateAfter old)).map AgentState.evidence

/-- The evidence the rounds of a request leave, one after another. A round
    that raises ends the request. -/
def runRounds : List Round → List Evidence → Except Exc (List Evidence)
  | [], evidences => .ok evidences
  | r :: rest, evidences => do
      let next ← fuseRound rt r evidences
      runRounds rest next

/-- What a round does with the evidence of the rounds before it and its own. -/
structure ExactRound (old new merged out : List Evidence) : Prop where
  /-- What survives of the earlier rounds has no key of the current one, and
      the current round is there as a whole. -/
  merge : merged =
    old.filter (fun ev => decide (∀ n ∈ new, replacementKey n ≠ replacementKey ev)) ++ new
  idle : new = [] → merged = old
  /-- A source that found something lists nothing from before. -/
  fresh : ∀ ev ∈ out, (∃ n ∈ new, n.sourceType = ev.sourceType) → ev ∈ new
  distinct : (out.map Evidence.evidenceId).Nodup
  perSource : ∀ st, (out.filter (fun ev => ev.sourceType = st)).length ≤ defaultSourceQuota.limit st
  total : out.length ≤ defaultMaxEvidenceCount
  /-- The cut of a source keeps nothing lighter than what it drops. -/
  sourceCut : ∀ st,
    (applySourceQuota merged defaultSourceQuota).filter (fun ev => ev.sourceType = st) =
        (sourceGroup merged st).take (defaultSourceQuota.limit st) ∧
      ∀ kept ∈ (sourceGroup merged st).take (defaultSourceQuota.limit st),
        ∀ dropped ∈ (sourceGroup merged st).drop (defaultSourceQuota.limit st),
          evidenceWeight dropped ≤ evidenceWeight kept
  /-- Nor does the cut of the whole list. -/
  finalCut :
    out = (sortDesc evidenceWeight (dedupById [] (applySourceQuota merged defaultSourceQuota))).take
        defaultMaxEvidenceCount ∧
      ∀ kept ∈ out, ∀ dropped ∈
        (sortDesc evidenceWeight (dedupById [] (applySourceQuota merged defaultSourceQuota))).drop
          defaultMaxEvidenceCount, evidenceWeight dropped ≤ evidenceWeight kept

variable {rt}

/-- The stages of a round that raises nothing. -/
theorem fuseRound_ok {r : Round} {old out : List Evidence} (h : fuseRound rt r old = .ok out) :
    ∃ new, (r.stateAfter old).newEvidences rt r.llm = .ok new ∧
      (r.stateAfter old).mergedEvidences rt r.llm = .ok (mergeEvidences old new) ∧
      out = (fuseEvidences (applySourceQuota (mergeEvidences old new) defaultSourceQuota)
        defaultMaxEvidenceCount ((r.stateAfter old).toolTokens rt).total).fused := by
  unfold fuseRound evidenceFusionNode at h
  cases hlevel : (r.stateAfter old).roundLevel rt with
  | error e => rw [hlevel] at h; cases h
  | ok level =>
      cases hnew : (r.stateAfter old).newEvidences rt r.llm with
      | error e =>
          -- What raises in the normalisation is raised by the node.
          rw [hlevel, AgentState.mergedEvidences, hnew] at h
          cases h
      | ok new =>
          have hmerged : (r.stateAfter old).mergedEvidences rt r.llm =
              .ok (mergeEvidences old new) := by
            rw [AgentState.mergedEvidences, hnew]
            rfl
          rw [hlevel, hmerged] at h
          cases h
          exact ⟨new, rfl, hmerged, rfl⟩

/-- The new evidence of a round comes from tool results. -/
theorem newEvidences_normalized {s : AgentState} {llm : Option ChatModel} {new : List Evidence}
    (h : s.newEvidences rt llm = .ok new) : ∀ ev ∈ new, Normalized rt ev := by
  intro ev hev
  cases hlevel : s.roundLevel rt with
  | error e =>
      unfold AgentState.newEvidences at h
      rw [hlevel] at h
      cases h
  | ok level =>
      rw [newEvidences_eq hlevel] at h
      cases hdb : normalizeDbEvidence rt s.tenantId s.userQuestion
          (s.workingOutputs rt llm level).dbResult with
      | error e => rw [hdb] at h; cases h
      | ok db =>
          rw [hdb] at h
          cases h
          -- The four parts of the list come from the four normalisers.
          simp only [List.mem_append] at hev
          rcases hev with ((hrag | hdb') | hweb) | hgraph
          · exact ⟨_, _, "rag", .ragDocs _, _, rfl, hrag⟩
          · exact ⟨_, _, "db_query", .dbResult _, _, hdb, hdb'⟩
          · exact ⟨_, _, "web", .webDocs _, _, rfl, hweb⟩
          · exact ⟨_, _, "graph", .graphResult _, _, rfl, hgraph⟩

theorem mem_mergeEvidences {old new : List Evidence} {ev : Evidence}
    (h : ev ∈ mergeEvidences old new) :
    (ev ∈ old ∧ ∀ n ∈ new, replacementKey n ≠ replacementKey ev) ∨ ev ∈ new := by
  rw [mergeEvidences_eq] at h
  rcases List.mem_append.mp h with hold | hnew
  · left
    rcases List.mem_filter.mp hold with ⟨hmem, hkey⟩
    refine ⟨hmem, fun n hn heq => ?_⟩
    exact of_decide_eq_true hkey (List.mem_map.mpr ⟨n, hn, heq⟩)
  · exact .inr hnew

/-- What a round lists was in the merged list. -/
theorem mem_applySourceQuota {evidences : List Evidence} {quota : SourceQuota} {ev : Evidence}
    (h : ev ∈ applySourceQuota evidences quota) : ev ∈ evidences := by
  have hgroup : ev ∈ (applySourceQuota evidences quota).filter
      (fun e => e.sourceType = ev.sourceType) := List.mem_filter.mpr ⟨h, by simp⟩
  rw [applySourceQuota_filter] at hgroup
  exact (mem_sourceGroup.mp (List.mem_of_mem_take hgroup)).1

theorem fuseRound_normalized {r : Round} {old out : List Evidence}
    (hold : ∀ ev ∈ old, Normalized rt ev) (h : fuseRound rt r old = .ok out) :
    ∀ ev ∈ out, Normalized rt ev := by
  rcases fuseRound_ok h with ⟨new, hnew, -, rfl⟩
  intro ev hev
  rcases mem_mergeEvidences (mem_applySourceQuota (mem_fused hev).1) with ⟨hmem, -⟩ | hmem
  · exact hold ev hmem
  · exact newEvidences_normalized hnew ev hmem

/-- The rounds of a request keep to evidence of tool results. -/
theorem runRounds_normalized {history : List Round} {start old : List Evidence}
    (hstart : ∀ ev ∈ start, Normalized rt ev) (h : runRounds rt history start = .ok old) :
    ∀ ev ∈ old, Normalized rt ev := by
  induction history generalizing start with
  | nil => cases h; exact hstart
  | cons r rest ih =>
      rw [runRounds] at h
      cases hround : fuseRound rt r start with
      | error e => rw [hround] at h; cases h
      | ok next =>
          -- The evidence of the first round is what the rest start from.
          rw [hround] at h
          exact ih (fuseRound_normalized hstart hround) h

/-- Of a source that found something, the merge of untagged evidence keeps the
    new evidence only. -/
theorem fresh_of_untagged {old new : List Evidence}
    (hold : ∀ ev ∈ old, extractToolRunId ev = "") (hnew : ∀ ev ∈ new, extractToolRunId ev = "")
    {ev : Evidence} (hev : ev ∈ mergeEvidences old new)
    (hfound : ∃ n ∈ new, n.sourceType = ev.sourceType) : ev ∈ new := by
  rcases hfound with ⟨n, hn, hsource⟩
  rcases mem_mergeEvidences hev with ⟨hmem, hkey⟩ | hmem
  -- An old piece of the source has the key of the new one, so it was replaced.
  · refine absurd ?_ (hkey n hn)
    rw [replacementKey, replacementKey, hsource, hnew n hn, hold ev hmem]
  · exact hmem

/-- No source has more pieces in the fused list than its quota. -/
theorem fused_perSource_le (evidences : List Evidence) (quota : SourceQuota) (maxCount : Nat)
    (tokenBudget : Int) (st : SourceType) :
    ((fuseEvidences (applySourceQuota evidences quota) maxCount tokenBudget).fused.filter
      (fun ev => ev.sourceType = st)).length ≤ quota.limit st := by
  -- Ranking permutes, deduplication and the last cut only take away.
  have hranked := (sortDesc_perm evidenceWeight
    (dedupById [] (applySourceQuota evidences quota))).filter (fun ev => ev.sourceType = st)
  calc ((fuseEvidences (applySourceQuota evidences quota) maxCount tokenBudget).fused.filter
        (fun ev => ev.sourceType = st)).length
      ≤ ((sortDesc evidenceWeight (dedupById [] (applySourceQuota evidences quota))).filter
          (fun ev => ev.sourceType = st)).length :=
        ((List.take_sublist _ _).filter _).length_le
    _ = ((dedupById [] (applySourceQuota evidences quota)).filter
          (fun ev => ev.sourceType = st)).length := hranked.length_eq
    _ ≤ ((applySourceQuota evidences quota).filter (fun ev => ev.sourceType = st)).length :=
        ((dedupById_sublist _ _).filter _).length_le
    _ ≤ quota.limit st := by
        rw [applySourceQuota_filter]
        exact List.length_take_le _ _

/-- Every round of every request is exact, whatever the tools return: it
    replaces by source and tool run, keeps to the quotas and to the limit, and
    cuts off the lightest. -/
theorem rounds_exact (rt : Runtime) (start : List Evidence) (history : List Round) (last : Round)
    (old out : List Evidence) (hstart : ∀ ev ∈ start, Normalized rt ev)
    (hhistory : runRounds rt history start = .ok old) (hlast : fuseRound rt last old = .ok out) :
    ∃ new merged, (last.stateAfter old).newEvidences rt last.llm = .ok new ∧
      (last.stateAfter old).mergedEvidences rt last.llm = .ok merged ∧
      ExactRound old new merged out := by
  have hold := runRounds_normalized hstart hhistory
  rcases fuseRound_ok hlast with ⟨new, hnew, hmerged, rfl⟩
  have hnewNormalized := newEvidences_normalized hnew
  refine ⟨new, mergeEvidences old new, hnew, hmerged, ?_, ?_, ?_, ?_, ?_, ?_, ?_, ?_⟩
  -- The merge, with its test on keys written out.
  · rw [mergeEvidences_eq]
    congr 1
    refine List.filter_congr ?_
    intro ev _
    rw [decide_eq_decide]
    simp only [List.mem_map, not_exists, not_and]
  · rintro rfl
    rw [mergeEvidences_eq]
    simp
  -- No piece of either round names a tool run.
  · intro ev hev
    exact fresh_of_untagged (fun e he => normalized_untagged (hold e he))
      (fun e he => normalized_untagged (hnewNormalized e he))
      (mem_applySourceQuota (mem_fused hev).1)
  · exact fused_ids_nodup _ _ _
  · exact fused_perSource_le _ _ _ _
  · exact List.length_take_le _ _
  -- Both cuts take the front of a ranked list.
  · intro st
    refine ⟨applySourceQuota_filter _ _ st, ?_⟩
    intro kept hkept dropped hdropped
    exact key_le_of_take_drop evidenceWeight (sortDesc_pairwise evidenceWeight _) _ hkept hdropped
  · refine ⟨rfl, ?_⟩
    intro kept hkept dropped hdropped
    exact key_le_of_take_drop evidenceWeight (sortDesc_pairwise evidenceWeight _) _ hkept hdropped

/-- A retrieval of one document, and one of another. -/
def firstRetrieval : Round :=
  { llm := none, state := { ragDocs := [{ content := "差旅标准", chunkId := "k1" }] } }

/-- A retrieval that adds a piece. -/
def secondRetrieval : Round :=
  { llm := none, state := { ragDocs := [{ content := "报销标准", chunkId := "k2" }] } }

theorem rounds_exact_retrievals :
    ∃ old out, runRounds default [firstRetrieval] [] = .ok old ∧
      fuseRound default secondRetrieval old = .ok out ∧
      ∃ new merged, (secondRetrieval.stateAfter old).newEvidences default none = .ok new ∧
        (secondRetrieval.stateAfter old).mergedEvidences default none = .ok merged ∧
        ExactRound old new merged out := by
  have hboth : ((runRounds default [firstRetrieval] []).bind
      (fuseRound default secondRetrieval)).isOk = true := by decide
  cases hhistory : runRounds default [firstRetrieval] [] with
  | error e => rw [hhistory] at hboth; cases hboth
  | ok old =>
      cases hlast : fuseRound default secondRetrieval old with
      | error e =>
          rw [hhistory] at hboth
          change (fuseRound default secondRetrieval old).isOk = true at hboth
          rw [hlast] at hboth
          cases hboth
      | ok out =>
          exact ⟨old, out, rfl, hlast, rounds_exact default [] [firstRetrieval] secondRetrieval old
            out (fun ev hev => absurd hev List.not_mem_nil) hhistory hlast⟩

end Rounds

end AgenticRag

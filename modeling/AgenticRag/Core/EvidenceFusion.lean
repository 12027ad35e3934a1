import AgenticRag.Core.State

/-!
# The Evidence Fusion Node

One round of fusion. The tokens of the tool results are counted, the overflow
picks a compression level, the results of the tools that overflow are
compressed, and what is left is normalised, merged with the evidence of the
earlier rounds, cut by source, fused and frozen.

The node can fail in two places. The overflow divides by the window that is
left, and a database result is split by the columns of its first row.

Compression rewrites the retrieved documents in place, so the documents in
the state are the compressed ones afterwards, those without any text
included; only the round at hand leaves these out.

## Main definitions

* `splitDbToTables`, `compressDbForFusion`: Compression of database results.
* `evidenceFusionNode`: The node.
-/

namespace AgenticRag

open Py

/-- How much evidence is kept. -/
def defaultMaxEvidenceCount : Nat := 20

/-- The results of the separate database queries of a plan, or else the one
    result there is. -/
def splitDbToTables (toolResults : List StepResult) (r : DbResult) : List DbResult :=
  let dbResults := toolResults.filterMap (fun tr =>
    if tr.tool = "database" ∨ tr.tool = "db" ∨ tr.tool = "db_query" then
      match tr.result.or tr.dbResult with
      | some d => if d.rows.isEmpty then none else some d
      | none => none
    else none)
  if ¬ dbResults.isEmpty then dbResults
  else if ¬ r.rows.isEmpty then [r]
  else []

/-- A database result, cut to its quota. -/
def compressDbForFusion (rt : Runtime) (toolResults : List StepResult) (r : DbResult)
    (level : CompressLevel) (dbQuota : Nat) : DbResult :=
  match splitDbToTables toolResults r with
  | [] => r
  | [table] =>
      let compressed := compressDbResult rt table dbQuota level
      { r with rows := compressed.rows, columns := compressed.columns }
  | tables =>
      -- Each query gets its share of the quota, and the columns of the last one
      -- that has any are kept. The quota is a count of tokens, of which there are
      -- never so many that its split raises.
      let quotas := (allocateDbQuota tables dbQuota).toOption.getD []
      let compressed := (tables.zip quotas).map (fun p => compressDbResult rt p.1 p.2 level)
      { r with
        rows := compressed.flatMap CompressedDb.rows
        columns := compressed.foldl (fun cols c => if c.columns.isEmpty then cols else c.columns)
          r.columns }

section Round

variable (rt : Runtime) (llm : Option ChatModel) (s : AgentState)

/-- The tokens of the tool results at hand. -/
def AgentState.toolTokens : TokenCounts :=
  countToolTokens rt s.toToolOutputs

/-- The compression level of the round. -/
def AgentState.roundLevel : Except Exc CompressLevel :=
  ((TokenBudgetScheduler.new s.totalTokenBudget).calculateOverflowRatio (s.toolTokens rt)
    s.lockedTokens).map determineLevel

/-- Whether a tool's results are compressed at a level. -/
def AgentState.compresses (level : CompressLevel) (tool : SourceType) : Bool :=
  decide (level ∈ [CompressLevel.moderate, .severe, .compact]) &&
    decide (tool ∈ (identifyOverflownTools (s.toolTokens rt)).1)

/-- The retrieved documents after compression, those without text
    included. -/
def AgentState.compressedDocs (level : CompressLevel) : List RagDoc :=
  match llm with
  | some chat =>
      if s.compresses rt level .rag then
        compressRagChunks rt chat s.ragDocs s.userQuestion level
      else s.ragDocs
  | none => s.ragDocs

/-- The tool results the round normalises. -/
def AgentState.workingOutputs (level : CompressLevel) : ToolOutputs :=
  { s.toToolOutputs with
    ragDocs :=
      if llm.isSome ∧ s.compresses rt level .rag then
        (s.compressedDocs rt llm level).filter (fun doc => doc.content ≠ "")
      else s.ragDocs
    dbResult := s.dbResult.map (fun r =>
      if s.compresses rt level .db ∧ ¬ r.rows.isEmpty then
        compressDbForFusion rt s.toolResults r level ((s.toolTokens rt).get .db)
      else r) }

/-- The evidence of the current tool results. -/
def AgentState.newEvidences : Except Exc (List Evidence) := do
  let level ← s.roundLevel rt
  normalizeCurrentToolResults rt s.tenantId s.userQuestion (s.workingOutputs rt llm level)

/-- The list that is cut by source: the earlier evidence merged with the
    new. -/
def AgentState.mergedEvidences : Except Exc (List Evidence) :=
  (s.newEvidences rt llm).map (mergeEvidences s.evidence)

/-- One round of fusion. -/
def evidenceFusionNode : Except Exc AgentState := do
  let level ← s.roundLevel rt
  let merged ← s.mergedEvidences rt llm
  -- The quota by source comes before the ids are made unique.
  let quotaApplied := applySourceQuota merged defaultSourceQuota
  let fused := (fuseEvidences quotaApplied defaultMaxEvidenceCount (s.toolTokens rt).total).fused
  let snapshot := EvidenceSnapshot.build rt fused s.toolRunId s.attemptId
  .ok { s with
    ragDocs := s.compressedDocs rt llm level
    evidence := fused
    evidenceSnapshotId := snapshot.snapshotId
    toolTokenCounts := s.toolTokens rt
    overflownTools := (identifyOverflownTools (s.toolTokens rt)).1
    compressionLevel := level }

end Round

end AgenticRag

import AgenticRag.Core.Evidence
import AgenticRag.Lib.Binary64

/-!
# Fusion

How the evidence of one round joins the evidence already collected. The new
evidence of a tool replaces the old evidence of the same tool run, each
source is cut to a quota, and what is left is stripped of repeated ids,
ranked by weight and cut to a fixed number. The result is frozen into a
snapshot, whose positions are the numbers citations refer to.

The ranking is `sortDesc` at `evidenceWeight`, so two pieces of equal weight
keep the order they came in. A weight is a sum of doubles and is rounded as one,
so weights can be equal where the scores are not.

## Main definitions

* `ToolOutputs`: The tool results a round of fusion reads.
* `EvidenceSnapshot`: The frozen evidence list.

## Theorems

* `fused_pairwise`: The fused evidence is ranked.
* `mem_fused`: It holds nothing but what came in.
-/

namespace AgenticRag

open Py Ordered
open Binary64 (toDouble)

/-- The result of a REST call, as far as the workflow reads it. -/
structure RestResult where
  docs : List RestDoc := []
  erpDomain : String := ""

/-- The result of one step of an execution plan, as far as fusion reads it. -/
structure StepResult where
  tool : String := ""
  result : Option DbResult := none
  dbResult : Option DbResult := none

/-- The tool results in the workflow state. An absent result and an empty
    dictionary are both `none`. -/
structure ToolOutputs where
  ragDocs : List RagDoc := []
  dbResult : Option DbResult := none
  webDocs : List WebDoc := []
  restResult : Option RestResult := none
  graphResult : Option GraphResult := none
  toolResults : List StepResult := []

/-- The evidence of the current tool results, in the order the tools are
    listed here. -/
def normalizeCurrentToolResults (rt : Runtime) (tenantId query : String) (t : ToolOutputs) :
    Except Exc (List Evidence) := do
  -- The result of the REST tool is not read.
  let rag ← (if t.ragDocs.isEmpty then .ok []
    else normalizeToolResult rt tenantId query "rag_search" (.ragDocs t.ragDocs))
  let db ← (if t.dbResult.isNone then .ok []
    else normalizeToolResult rt tenantId query "db_query" (.dbResult t.dbResult))
  let web ← (if t.webDocs.isEmpty then .ok []
    else normalizeToolResult rt tenantId query "web_search" (.webDocs t.webDocs))
  let graph ← (if t.graphResult.isNone then .ok []
    else normalizeToolResult rt tenantId query "graph" (.graphResult t.graphResult))
  .ok (rag ++ db ++ web ++ graph)

/-- The weight of a piece, as doubles give it. A score of zero counts as one
    half, as an absent one does. -/
def evidenceWeight (ev : Evidence) : ℚ :=
  let authority := scoreOr (some ev.authorityScore) (1 / 2)
  let relevance := scoreOr (some ev.relevanceScore) (1 / 2)
  let freshness := scoreOr (some ev.freshnessScore) (1 / 2)
  toDouble
    (toDouble (toDouble (authority * toDouble (4 / 10)) +
        toDouble (relevance * toDouble (4 / 10))) +
      toDouble (freshness * toDouble (2 / 10)))

/-- The text under a key, empty when there is none. -/
def metadataText (metadata : Dict) (key : String) : String :=
  match metadata.lookup key with
  | some (.str s) => s
  | _ => ""

/-- The run of a tool that a piece is from. -/
def extractToolRunId (ev : Evidence) : String :=
  orElse (metadataText ev.metadata "tool_run_id") (metadataText ev.metadata "run_id")

/-- The key under which a round replaces evidence. -/
def replacementKey (ev : Evidence) : SourceType × String :=
  (ev.sourceType, extractToolRunId ev)

/-- New evidence takes the place of old. -/
def mergeWithReplacement (old new : List Evidence) : List Evidence :=
  if new.isEmpty then old
  else if old.isEmpty then new
  else
    let newKeys := new.map replacementKey
    old.filter (fun ev => replacementKey ev ∉ newKeys) ++ new

/-- The merge as the fusion node calls it. -/
def mergeEvidences (old new : List Evidence) : List Evidence :=
  if ¬ new.isEmpty ∧ ¬ old.isEmpty then mergeWithReplacement old new
  else if ¬ new.isEmpty then new
  else old

/-- The merge keeps the old evidence whose key is not among the new, followed
    by the new. -/
theorem mergeEvidences_eq (old new : List Evidence) :
    mergeEvidences old new =
      old.filter (fun ev => replacementKey ev ∉ new.map replacementKey) ++ new := by
  unfold mergeEvidences mergeWithReplacement
  cases new with
  | nil => simp
  | cons n ns =>
      cases old with
      | nil => simp
      | cons o os => simp

/-- How many pieces of a source are kept, five when the table is silent. -/
abbrev SourceQuota := List (SourceType × Nat)

/-- How much a source may have. -/
def defaultSourceQuota : SourceQuota :=
  [(.rag, 10), (.db, 10), (.web, 5), (.report, 5), (.graph, 8)]

/-- What a source may have. -/
def SourceQuota.limit (quota : SourceQuota) (st : SourceType) : Nat :=
  (quota.lookup st).getD 5

/-- The heaviest of each source. -/
def applySourceQuota (evidences : List Evidence) (quota : SourceQuota) : List Evidence :=
  (groupBy Evidence.sourceType evidences).flatMap (fun g =>
    (sortDesc evidenceWeight g.2).take (quota.limit g.1))

/-- The pieces of a source, the heaviest first. -/
def sourceGroup (evidences : List Evidence) (st : SourceType) : List Evidence :=
  sortDesc evidenceWeight (evidences.filter (fun ev => ev.sourceType = st))

theorem mem_sourceGroup {evidences : List Evidence} {st : SourceType} {ev : Evidence} :
    ev ∈ sourceGroup evidences st ↔ ev ∈ evidences ∧ ev.sourceType = st := by
  rw [sourceGroup, mem_sortDesc, List.mem_filter, decide_eq_true_eq]

/-- The cut keeps of every source its heaviest pieces. -/
theorem applySourceQuota_filter (evidences : List Evidence) (quota : SourceQuota)
    (st : SourceType) :
    (applySourceQuota evidences quota).filter (fun ev => ev.sourceType = st) =
      (sourceGroup evidences st).take (quota.limit st) := by
  -- Of each group, the pieces of the source are all of it or none.
  have hgroup : ∀ g ∈ groupBy Evidence.sourceType evidences,
      ((sortDesc evidenceWeight g.2).take (quota.limit g.1)).filter
          (fun ev => ev.sourceType = st) =
        if g.1 = st then (sortDesc evidenceWeight g.2).take (quota.limit st) else [] := by
    rintro ⟨k, g⟩ hg
    have hsource : ∀ ev ∈ (sortDesc evidenceWeight g).take (quota.limit k), ev.sourceType = k := by
      intro ev hev
      have hmem := (mem_sortDesc evidenceWeight).mp (List.mem_of_mem_take hev)
      rw [(mem_groupBy Evidence.sourceType evidences k g hg).1] at hmem
      simpa using (List.mem_filter.mp hmem).2
    by_cases hk : k = st
    · subst hk
      rw [if_pos rfl]
      exact List.filter_eq_self.mpr (fun ev hev => decide_eq_true (hsource ev hev))
    · rw [if_neg hk]
      refine List.filter_eq_nil_iff.mpr (fun ev hev => ?_)
      rw [hsource ev hev]
      simpa using hk
  rw [applySourceQuota, List.filter_flatMap, List.flatMap_congr hgroup,
    flatMap_bucket _ (groupBy_keys_nodup _ _) st
      (fun g => (sortDesc evidenceWeight g).take (quota.limit st)) (by simp [sortDesc]),
    lookup_groupBy, sourceGroup]

/-- A pair of pieces from different sources whose openings share little. -/
structure Conflict where
  type : String
  evidenceIds : List String
  description : String

/-- The share of the opening characters of one text that occur in the opening
    of the other. -/
def headOverlap (high low : String) : ℚ :=
  let highHead := (take high 50).toList
  let lowHead := (take low 50).toList
  (highHead.countP (· ∈ lowHead) : ℚ) / max highHead.length 1

/-- The conflicts between two sources. -/
def conflictsBetween (highEvs lowEvs : List Evidence) (type description : String) :
    List Conflict :=
  highEvs.flatMap (fun high => lowEvs.filterMap (fun low =>
    if high.content ≠ "" ∧ low.content ≠ "" ∧ headOverlap high.content low.content < 3 / 10 then
      some ⟨type, [high.evidenceId, low.evidenceId], description⟩
    else none))

/-- Sources that say different things. -/
def detectConflicts (evidences : List Evidence) : List Conflict :=
  let dbEvs := evidences.filter (fun e => e.sourceType = .db)
  let restEvs := evidences.filter (fun e => e.sourceType = .rest)
  let webEvs := evidences.filter (fun e => e.sourceType = .web)
  conflictsBetween dbEvs restEvs "db_rest_low_overlap"
      "DB 事实与 ERP 系统数据相关性较低，需人工核查" ++
    conflictsBetween dbEvs webEvs "db_web_low_overlap"
      "DB 事实与 Web 结果相关性较低，需人工核查" ++
    conflictsBetween restEvs webEvs "rest_web_low_overlap"
      "ERP 系统数据与 Web 结果相关性较低，需人工核查"

/-- Drop the pieces without an id and those whose id was seen before. -/
def dedupById : List String → List Evidence → List Evidence
  | _, [] => []
  | seen, ev :: rest =>
      if ev.evidenceId = "" ∨ ev.evidenceId ∈ seen then dedupById seen rest
      else ev :: dedupById (ev.evidenceId :: seen) rest

/-- What `fuse_evidences` returns. -/
structure FusionResult where
  fused : List Evidence
  fusedCount : Nat
  conflicts : List Conflict
  tokenBudget : Int
  droppedCount : Nat

/-- The heaviest evidence, each id once. -/
def fuseEvidences (evidences : List Evidence) (maxCount : Nat) (tokenBudget : Int) :
    FusionResult :=
  let ranked := sortDesc evidenceWeight (dedupById [] evidences)
  let fused := ranked.take maxCount
  { fused := fused
    fusedCount := fused.length
    conflicts := detectConflicts ranked
    tokenBudget := tokenBudget
    droppedCount := ranked.length - fused.length }

section Fused

theorem mem_dedupById {seen : List String} {evidences : List Evidence} {ev : Evidence}
    (h : ev ∈ dedupById seen evidences) :
    ev ∈ evidences ∧ ev.evidenceId ≠ "" ∧ ev.evidenceId ∉ seen := by
  induction evidences generalizing seen with
  | nil => cases h
  | cons e rest ih =>
      rw [dedupById] at h
      split_ifs at h with hskip
      -- A piece that is skipped leaves what was seen as it is.
      · rcases ih h with ⟨hmem, hid⟩
        exact ⟨List.mem_cons_of_mem e hmem, hid⟩
      · rw [not_or] at hskip
        rcases List.mem_cons.mp h with rfl | hrest
        · exact ⟨List.mem_cons_self, hskip⟩
        · rcases ih hrest with ⟨hmem, hne, hseen⟩
          exact ⟨List.mem_cons_of_mem e hmem, hne, fun hin => hseen (List.mem_cons_of_mem _ hin)⟩

theorem dedupById_sublist (seen : List String) (evidences : List Evidence) :
    (dedupById seen evidences).Sublist evidences := by
  induction evidences generalizing seen with
  | nil => exact List.Sublist.refl _
  | cons e rest ih =>
      rw [dedupById]
      split_ifs
      · exact (ih seen).cons e
      · exact (ih _).cons_cons e

theorem dedupById_ids_nodup (seen : List String) (evidences : List Evidence) :
    ((dedupById seen evidences).map Evidence.evidenceId).Nodup := by
  induction evidences generalizing seen with
  | nil => exact List.nodup_nil
  | cons e rest ih =>
      rw [dedupById]
      split_ifs
      · exact ih seen
      · rw [List.map_cons, List.nodup_cons]
        refine ⟨fun hmem => ?_, ih _⟩
        -- What comes later has an id that was not seen, this one included.
        rcases List.mem_map.mp hmem with ⟨ev, hev, hid⟩
        exact (mem_dedupById hev).2.2 (hid ▸ List.mem_cons_self)

variable (evidences : List Evidence) (maxCount : Nat) (tokenBudget : Int)

/-- The fused evidence is ranked. -/
theorem fused_pairwise :
    (fuseEvidences evidences maxCount tokenBudget).fused.Pairwise
      (fun a b => evidenceWeight b ≤ evidenceWeight a) :=
  (sortDesc_pairwise evidenceWeight _).sublist (List.take_sublist _ _)

theorem fused_ids_nodup :
    ((fuseEvidences evidences maxCount tokenBudget).fused.map Evidence.evidenceId).Nodup := by
  -- Ranking permutes the ids, and the cut only drops some.
  have hranked : ((sortDesc evidenceWeight (dedupById [] evidences)).map
      Evidence.evidenceId).Nodup :=
    (((sortDesc_perm evidenceWeight _).map _).nodup_iff).mpr (dedupById_ids_nodup [] evidences)
  exact hranked.sublist ((List.take_sublist _ _).map _)

theorem mem_fused {evidences : List Evidence} {maxCount : Nat} {tokenBudget : Int} {ev : Evidence}
    (h : ev ∈ (fuseEvidences evidences maxCount tokenBudget).fused) :
    ev ∈ evidences ∧ ev.evidenceId ≠ "" := by
  have hranked := (mem_sortDesc evidenceWeight).mp (List.mem_of_mem_take h)
  exact ⟨(mem_dedupById hranked).1, (mem_dedupById hranked).2.1⟩

end Fused

/-- The frozen evidence list. Citations refer to its positions, counted from
    one. -/
structure EvidenceSnapshot where
  snapshotId : String
  evidences : List Evidence
  createdAt : String
  toolRunId : String
  attemptId : Int
  schemaVersion : String := "1.0"

/-- The id of some evidence. -/
def makeSnapshotId (rt : Runtime) (evidences : List Evidence) : String :=
  if evidences.isEmpty then "es_empty"
  else
    let evIds := (evidences.map Evidence.evidenceId).insertionSort (fun a b => a ≤ b)
    "es_" ++ take (rt.sha256 (join "|" evIds)) 16

/-- A snapshot of evidence. -/
def EvidenceSnapshot.build (rt : Runtime) (evidences : List Evidence) (toolRunId : String)
    (attemptId : Int) : EvidenceSnapshot :=
  { snapshotId := makeSnapshotId rt evidences
    evidences := evidences
    createdAt := rt.nowIso
    toolRunId := toolRunId
    attemptId := attemptId }

/-- The piece that a citation names. -/
def EvidenceSnapshot.getEvidenceByIndex (s : EvidenceSnapshot) (index : Nat) : Option Evidence :=
  if index < 1 ∨ s.evidences.length < index then none else s.evidences[index - 1]?

end AgenticRag

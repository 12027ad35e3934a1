import AgenticRag.Core.ResultAggregator
import AgenticRag.Theory.DynamicTruncation

/-!
# What the Results Add Up To

The aggregated result of a plan speaks of the successful steps only, and of all they
returned. A row carries the mark of the last of them that returned this very
dictionary, which is the step's own where no two steps share one (`Describes.own`);
where they do, both entries carry the mark of the later (`shared_row_marked`).

The documents that are not in the list are accounted for: they were cut, and score no
more than any that was kept, or they have the id of a document that is ranked and
scores as much (`Ranked`). The figures are those of the list after the cut.

## Main definitions

* `successful`, `successfulDocs`: What is put together.
* `Describes`: What the aggregated result has to say.

## Theorems

* `gathered_foldl`: What the loop collects.
* `rankedDocs_ranked`: The ranking and the cut.
* `aggregate_describes`: The aggregated result of any list of results.
-/

namespace AgenticRag

namespace Aggregator

open Py Ordered Retrieval

section Loop

variable (results : List ToolResult)

/-- The steps that did not fail. -/
def successful : List ToolResult :=
  results.filter ToolResult.success

/-- The documents of the successful steps, with their scores. -/
def successfulDocs : List ScoredDoc :=
  (successful results).flatMap (fun r => r.ragDocs.map scored)

/-- The database of the last successful step that returned this dictionary. -/
def lastDbId (results : List ToolResult) (objectId : Nat) : Option String :=
  ((successful results).filter (fun r => r.holds objectId)).getLast?.map ToolResult.dbId

/-- A row with the mark it has in the end. -/
def marked (results : List ToolResult) (row : Row) : Row :=
  (lastDbId results row.objectId).elim row row.tag

/-- What one turn of the loop adds for a successful step. -/
structure Added (g g' : Gathered) (r : ToolResult) : Prop where
  ragDocs : g'.ragDocs = g.ragDocs ++ r.ragDocs
  dbRows : g'.dbRows =
    g.dbRows.map (fun row => if r.holds row.objectId then row.tag r.dbId else row) ++
      r.dbRows.map (Row.tag r.dbId)
  webDocs : g'.webDocs = g.webDocs ++ r.webDocs
  restDocs : g'.restDocs = g.restDocs ++ r.restDocs
  reportArtifacts : g'.reportArtifacts = g.reportArtifacts ++ r.reportArtifacts
  dbSources : g'.dbSources = g.dbSources ++ (if r.dbRows.isEmpty then [] else [r.dbId])

variable {results} {g : Gathered} {r : ToolResult}

theorem addRag_eq : g.addRag r = { g with
    ragDocs := g.ragDocs ++ r.ragDocs
    scoreSources := (g.addRag r).scoreSources } := by
  unfold Gathered.addRag
  split_ifs with hempty hsource
  · rw [List.isEmpty_iff.mp hempty, List.append_nil]
  · rfl
  · rfl

theorem addDb_eq : g.addDb r = { g with
    dbRows := g.dbRows.map (fun row => if r.holds row.objectId then row.tag r.dbId else row) ++
      r.dbRows.map (Row.tag r.dbId)
    maxDbScore := (g.addDb r).maxDbScore
    dbSources := g.dbSources ++ (if r.dbRows.isEmpty then [] else [r.dbId]) } := by
  unfold Gathered.addDb
  split_ifs with hempty
  · -- No dictionary is among none.
    have hnone : ∀ row : Row, (if r.holds row.objectId then row.tag r.dbId else row) = row := by
      intro row
      rw [ToolResult.holds, List.isEmpty_iff.mp hempty]
      exact if_neg Bool.false_ne_true
    rw [funext hnone, List.map_id', List.isEmpty_iff.mp hempty, List.map_nil, List.append_nil,
      List.append_nil]
  · rfl

theorem addRest_eq : g.addRest r = { g with
    restDocs := g.restDocs ++ r.restDocs
    maxRestScore := (g.addRest r).maxRestScore } := by
  unfold Gathered.addRest
  split_ifs with hempty
  · rw [List.isEmpty_iff.mp hempty, List.append_nil]
  · rfl

theorem addReport_eq : g.addReport r = { g with
    reportArtifacts := g.reportArtifacts ++ r.reportArtifacts
    latestReportSummary := (g.addReport r).latestReportSummary
    maxReportScore := (g.addReport r).maxReportScore } := by
  unfold Gathered.addReport
  split_ifs with hempty
  · rw [List.isEmpty_iff.mp hempty, List.append_nil]
  · rfl

theorem added_add (h : r.success = true) : Added g (g.add r) r := by
  rw [Gathered.add, if_pos h, addReport_eq, addRest_eq, addDb_eq, addRag_eq]
  exact ⟨rfl, rfl, rfl, rfl, rfl, rfl⟩

/-- What the loop has collected of some results. -/
structure Collected (results : List ToolResult) (g : Gathered) : Prop where
  ragDocs : g.ragDocs = (successful results).flatMap ToolResult.ragDocs
  dbRows : g.dbRows = (successful results).flatMap (fun r => r.dbRows.map (marked results))
  webDocs : g.webDocs = (successful results).flatMap ToolResult.webDocs
  restDocs : g.restDocs = (successful results).flatMap ToolResult.restDocs
  reportArtifacts : g.reportArtifacts = (successful results).flatMap ToolResult.reportArtifacts
  dbSources : g.dbSources =
    (successful results).flatMap (fun r => if r.dbRows.isEmpty then [] else [r.dbId])

theorem tag_tag (dbId dbId' : String) (row : Row) : (row.tag dbId').tag dbId = row.tag dbId := by
  simp only [Row.tag, dictSet_dictSet]

/-- Another successful step marks the dictionaries it returned, and no others. -/
theorem marked_append (h : r.success = true) (row : Row) : marked (results ++ [r]) row =
    if r.holds row.objectId then row.tag r.dbId else marked results row := by
  have hlast : successful (results ++ [r]) = successful results ++ [r] := by
    rw [successful, List.filter_append, List.filter_cons_of_pos h]
    rfl
  rw [marked, lastDbId, hlast, List.filter_append]
  split_ifs with hholds
  · rw [List.filter_cons_of_pos (by exact hholds), List.filter_nil, List.getLast?_concat]
    rfl
  · rw [List.filter_cons_of_neg (by exact hholds), List.filter_nil, List.append_nil]
    rfl

/-- The rows of some steps, before and after another is marked. -/
theorem map_marked_append (h : r.success = true) (rows : List Row) :
    (rows.map (marked results)).map
        (fun row => if r.holds row.objectId then row.tag r.dbId else row) =
      rows.map (marked (results ++ [r])) := by
  rw [List.map_map]
  refine List.map_congr_left (fun row _ => ?_)
  have hid : (marked results row).objectId = row.objectId := by
    unfold marked
    cases lastDbId results row.objectId <;> rfl
  rw [marked_append h, Function.comp_apply, hid]
  split_ifs
  · unfold marked
    cases lastDbId results row.objectId with
    | none => rfl
    | some dbId => exact tag_tag r.dbId dbId row
  · rfl

theorem collected_foldl (results : List ToolResult) :
    Collected results (results.foldl Gathered.add {}) := by
  induction results using List.reverseRecOn with
  | nil => exact ⟨rfl, rfl, rfl, rfl, rfl, rfl⟩
  | append_singleton results r ih =>
      rw [List.foldl_append, List.foldl_cons, List.foldl_nil]
      by_cases h : r.success = true
      · have hlast : successful (results ++ [r]) = successful results ++ [r] := by
          rw [successful, List.filter_append, List.filter_cons_of_pos h]
          rfl
        have hadd := added_add (g := results.foldl Gathered.add {}) h
        constructor <;> rw [hlast, List.flatMap_append, List.flatMap_singleton]
        · rw [hadd.ragDocs, ih.ragDocs]
        · rw [hadd.dbRows, ih.dbRows, List.map_flatMap]
          simp only [map_marked_append h]
          congr 1
          refine List.map_congr_left (fun row hrow => ?_)
          have hholds : r.holds row.objectId = true :=
            List.any_eq_true.mpr ⟨row, hrow, beq_self_eq_true _⟩
          rw [marked_append h, if_pos hholds]
        · rw [hadd.webDocs, ih.webDocs]
        · rw [hadd.restDocs, ih.restDocs]
        · rw [hadd.reportArtifacts, ih.reportArtifacts]
        · rw [hadd.dbSources, ih.dbSources]
      · have hlast : successful (results ++ [r]) = successful results := by
          rw [successful, List.filter_append, List.filter_cons_of_neg h]
          exact List.append_nil _
        have hmarked : marked (results ++ [r]) = marked results := by
          funext row
          rw [marked, lastDbId, hlast]
          rfl
        have hrows := ih.dbRows
        rw [← hmarked] at hrows
        rw [Gathered.add, if_neg h]
        exact ⟨hlast ▸ ih.ragDocs, hlast ▸ hrows, hlast ▸ ih.webDocs, hlast ▸ ih.restDocs,
          hlast ▸ ih.reportArtifacts, hlast ▸ ih.dbSources⟩

/-- A step that failed changes nothing. -/
theorem foldl_add_successful (results : List ToolResult) (g : Gathered) :
    (successful results).foldl Gathered.add g = results.foldl Gathered.add g := by
  rw [successful, List.foldl_filter]
  refine congrArg (fun step => results.foldl step g) (funext₂ (fun g r => ?_))
  split_ifs with h
  · rfl
  · rw [Gathered.add, if_neg h]

end Loop

section Ranking

/-- A list of documents in falling order, with what was cut behind it and what has the
    id of another. -/
structure Ranked (maxKeep : Int) (docs kept dropped repeated : List ScoredDoc) : Prop where
  accounts : (kept ++ dropped ++ repeated).Perm docs
  sorted : (kept ++ dropped).Pairwise (fun a b => b.relevanceScore ≤ a.relevanceScore)
  distinct : ((kept ++ dropped).filterMap ScoredDoc.id).Nodup
  repeats : ∀ d ∈ repeated, d.id ≠ none ∧ ∃ k ∈ kept ++ dropped, k.id = d.id
  /-- A document that is ranked has the highest score of those with its id. -/
  best : ∀ k ∈ kept ++ dropped, ∀ d ∈ docs, k.id ≠ none → d.id = k.id →
    d.relevanceScore ≤ k.relevanceScore
  cut : ∀ k ∈ kept, ∀ d ∈ dropped, d.relevanceScore ≤ k.relevanceScore
  size : 0 ≤ maxKeep → (kept.length : Int) ≤ maxKeep ∧
    (dropped = [] ∨ (kept.length : Int) = maxKeep)

variable (maxKeep : Int) (docs : List Chunk)

theorem rankedDocs_ranked : ∃ dropped repeated,
    Ranked maxKeep (docs.map scored) (sliceTo maxKeep (rankedDocs docs)) dropped repeated := by
  have hsorted := sortDesc_pairwise ScoredDoc.relevanceScore (docs.map scored)
  have hperm := sortDesc_perm ScoredDoc.relevanceScore (docs.map scored)
  have hdistinct : ((rankedDocs docs).filterMap ScoredDoc.id).Nodup := (dedupOn_nodup [] _).1
  have hranked : (rankedDocs docs).Pairwise (fun a b => b.relevanceScore ≤ a.relevanceScore) :=
    hsorted.sublist (dedupOn_sublist [] _)
  -- Whatever has an id has it from a document that scores as much.
  have hexists : ∀ d ∈ docs.map scored, ∀ i, d.id = some i →
      ∃ k ∈ rankedDocs docs, k.id = some i ∧ d.relevanceScore ≤ k.relevanceScore :=
    fun d hd i hi => exists_mem_dedupOn (R := fun k d : ScoredDoc =>
      d.relevanceScore ≤ k.relevanceScore) (fun _ => le_refl _) hsorted (hperm.mem_iff.mpr hd) hi
      List.not_mem_nil
  obtain ⟨repeated, hall, hrepeated⟩ : ∃ repeated, (rankedDocs docs ++ repeated).Perm
      (sortDesc ScoredDoc.relevanceScore (docs.map scored)) ∧ ∀ d ∈ repeated, ∃ i, d.id = some i :=
    dedupOn_perm [] _
  have haccounts := hall.trans hperm
  refine ⟨(rankedDocs docs).drop (sliceIndex (rankedDocs docs).length maxKeep), repeated, ?_⟩
  have hsplit : sliceTo maxKeep (rankedDocs docs) ++
      (rankedDocs docs).drop (sliceIndex (rankedDocs docs).length maxKeep) = rankedDocs docs :=
    List.take_append_drop _ _
  refine ⟨?_, ?_, ?_, ?_, ?_, ?_, ?_⟩
  · rw [hsplit]
    exact haccounts
  · rw [hsplit]
    exact hranked
  · rw [hsplit]
    exact hdistinct
  · intro d hd
    rcases hrepeated d hd with ⟨i, hi⟩
    rcases hexists d (haccounts.mem_iff.mp (List.mem_append_right _ hd)) i hi with ⟨k, hk, hki, -⟩
    rw [hsplit, hi]
    exact ⟨Option.some_ne_none i, k, hk, hki⟩
  · intro k hk d hd hid hsame
    rw [hsplit] at hk
    rcases Option.ne_none_iff_exists'.mp hid with ⟨i, hi⟩
    rcases hexists d hd i (hsame.trans hi) with ⟨c, hc, hci, hle⟩
    exact eq_of_nodup_filterMap hdistinct hc hk hci hi ▸ hle
  · rw [← hsplit, List.pairwise_append] at hranked
    exact hranked.2.2
  · intro hpos
    have hlength := length_sliceTo hpos (rankedDocs docs)
    refine ⟨by omega, ?_⟩
    rw [List.drop_eq_nil_iff, sliceIndex_of_nonneg hpos]
    omega

end Ranking

section Figures

/-- What the aggregated result has to say of the results. -/
structure Describes (results : List ToolResult) (maxKeep : Int) (agg : Aggregated) : Prop where
  rag : ∃ dropped repeated, Ranked maxKeep (successfulDocs results) agg.ragDocs dropped repeated
  rows : agg.dbResult.rows = (successful results).flatMap (fun r => r.dbRows.map (marked results))
  /-- The mark is the database of a step, unless a later one has the dictionary too. -/
  own : ∀ before r after, results = before ++ r :: after → r.success = true → ∀ row ∈ r.dbRows,
    (∀ r' ∈ after, r'.success = true → ∀ row' ∈ r'.dbRows, row'.objectId ≠ row.objectId) →
      marked results row = row.tag r.dbId
  /-- The mark is the id of the database, and nothing else is changed. -/
  tag : ∀ dbId (row : Row), (row.tag dbId).cells.lookup "_source_db" = some (.str dbId) ∧
    (row.tag dbId).objectId = row.objectId ∧
    ∀ col, col ≠ "_source_db" → (row.tag dbId).cells.lookup col = row.cells.lookup col
  rowCount : agg.dbResult.rowCount = agg.dbResult.rows.length
  sourceDbs : agg.dbResult.sourceDbs =
    (successful results).flatMap (fun r => if r.dbRows.isEmpty then [] else [r.dbId])
  webDocs : agg.webDocs = (successful results).flatMap ToolResult.webDocs
  restDocs : agg.restDocs = (successful results).flatMap ToolResult.restDocs
  reportArtifacts : agg.reportArtifacts = (successful results).flatMap ToolResult.reportArtifacts
  count : agg.ragResultCount = agg.ragDocs.length ∧ agg.ragRelevantCount = agg.ragDocs.length ∧
    (agg.ragHasRelevant = true ↔ agg.ragDocs ≠ [])
  top : (∀ d ∈ agg.ragDocs, d.relevanceScore ≤ agg.ragTopScore) ∧
    (agg.ragDocs ≠ [] → ∃ d ∈ agg.ragDocs, d.relevanceScore = agg.ragTopScore) ∧
    (agg.ragDocs = [] → agg.ragTopScore = 0)
  average : agg.ragAvgScore * agg.ragDocs.length = (agg.ragDocs.map ScoredDoc.relevanceScore).sum ∧
    (agg.ragDocs = [] → agg.ragAvgScore = 0) ∧ agg.ragQualityScore = agg.ragAvgScore

theorem lookup_tag (dbId : String) (row : Row) (col : String) :
    (row.tag dbId).cells.lookup col =
      if col = "_source_db" then some (.str dbId) else row.cells.lookup col :=
  lookup_dictSet _ _ _ _

/-- The last step that has a dictionary is the one whose mark it carries. -/
theorem marked_own {before after : List ToolResult} {r : ToolResult} (h : r.success = true)
    {row : Row} (hrow : row ∈ r.dbRows) (hlater : ∀ r' ∈ after, r'.success = true →
      ∀ row' ∈ r'.dbRows, row'.objectId ≠ row.objectId) :
    marked (before ++ r :: after) row = row.tag r.dbId := by
  have hholds : r.holds row.objectId = true :=
    List.any_eq_true.mpr ⟨row, hrow, beq_self_eq_true _⟩
  have hnone : (successful after).filter (fun r' => r'.holds row.objectId) = [] := by
    refine List.filter_eq_nil_iff.mpr (fun r' hr' hheld => ?_)
    rcases List.mem_filter.mp hr' with ⟨hmem, hsuccess⟩
    rcases List.any_eq_true.mp hheld with ⟨row', hrow', hsame⟩
    exact hlater r' hmem hsuccess row' hrow' (eq_of_beq hsame)
  rw [marked, lastDbId, successful, List.filter_append, List.filter_cons_of_pos h, ← successful,
    ← successful, List.filter_append, List.filter_cons_of_pos (by exact hholds), hnone,
    List.getLast?_concat]
  rfl

/-- The best of some scores, zero if there are none. -/
theorem max?_getD_spec (scores : List ℚ) : (∀ s ∈ scores, s ≤ scores.max?.getD 0) ∧
    (scores ≠ [] → scores.max?.getD 0 ∈ scores) := by
  cases hmax : scores.max? with
  | none =>
      rw [List.max?_eq_none_iff] at hmax
      rw [hmax]
      exact ⟨List.forall_mem_nil _, fun h => absurd rfl h⟩
  | some best =>
      rw [List.max?_eq_some_iff] at hmax
      exact ⟨hmax.2, fun _ => hmax.1⟩

theorem average_mul (scores : List ℚ) :
    (if scores.isEmpty then 0 else scores.sum / scores.length) * (scores.length : ℚ) =
      scores.sum := by
  split_ifs with hempty
  · rw [List.isEmpty_iff.mp hempty, List.sum_nil, zero_mul]
  · have hne : scores ≠ [] := fun h => hempty (List.isEmpty_iff.mpr h)
    have hpos : (scores.length : ℚ) ≠ 0 := by
      exact_mod_cast (List.length_pos_iff.mpr hne).ne'
    exact div_mul_cancel₀ _ hpos

/-- The aggregated result takes nothing from the steps that failed, and describes what
    the others returned. -/
theorem aggregate_describes (results : List ToolResult) (maxKeep : Int) :
    aggregate results maxKeep = aggregate (successful results) maxKeep ∧
      Describes results maxKeep (aggregate results maxKeep) := by
  have hcollected := collected_foldl results
  have hdocs : successfulDocs results = (results.foldl Gathered.add {}).ragDocs.map scored := by
    rw [hcollected.ragDocs, List.map_flatMap]
    rfl
  constructor
  · unfold aggregate
    rw [foldl_add_successful]
  have hmax := max?_getD_spec ((aggregate results maxKeep).ragDocs.map ScoredDoc.relevanceScore)
  refine ⟨?_, hcollected.dbRows, ?_, ?_, rfl, hcollected.dbSources, hcollected.webDocs,
    hcollected.restDocs, hcollected.reportArtifacts, ⟨rfl, rfl, ?_⟩, ⟨?_, ?_, ?_⟩, ⟨?_, ?_, rfl⟩⟩
  · rw [hdocs]
    exact rankedDocs_ranked maxKeep _
  · rintro before r after rfl hsuccess row hrow hlater
    exact marked_own hsuccess hrow hlater
  · intro dbId row
    refine ⟨?_, rfl, fun col hcol => ?_⟩
    · rw [lookup_tag, if_pos rfl]
    · rw [lookup_tag, if_neg hcol]
  · exact decide_eq_true_iff.trans List.length_pos_iff
  · exact fun d hd => hmax.1 _ (List.mem_map_of_mem hd)
  · intro hne
    exact List.mem_map.mp (hmax.2 (fun h => hne (List.map_eq_nil_iff.mp h)))
  · intro hnil
    change (List.max? ((aggregate results maxKeep).ragDocs.map ScoredDoc.relevanceScore)).getD 0 = 0
    rw [hnil]
    rfl
  · have hlength : (((aggregate results maxKeep).ragDocs.map ScoredDoc.relevanceScore).length : ℚ) =
        (aggregate results maxKeep).ragDocs.length := by
      rw [List.length_map]
    rw [← hlength]
    exact average_mul _
  · intro hnil
    have hempty :
        ((aggregate results maxKeep).ragDocs.map ScoredDoc.relevanceScore).isEmpty = true := by
      rw [hnil]
      rfl
    exact if_pos hempty

/-- Two steps on two databases that return the same dictionary. -/
def sharingSteps : List ToolResult :=
  [{ success := true, dbRows := [⟨0, [("x", .int 1)]⟩], dbId := "sales" },
    { success := true, dbRows := [⟨0, [("x", .int 1)]⟩], dbId := "hr" }]

/-- Both entries carry the mark of the later step. -/
theorem shared_row_marked :
    (aggregate sharingSteps).dbResult.rows.map (fun row => row.cells.lookup "_source_db") =
        [some (.str "hr"), some (.str "hr")] ∧
      (aggregate sharingSteps).dbResult.rows ≠
        (successful sharingSteps).flatMap (fun r => r.dbRows.map (Row.tag r.dbId)) := by
  refine ⟨rfl, fun heq => ?_⟩
  have hmarks := congrArg (List.map (fun row => row.cells.lookup "_source_db")) heq
  exact absurd (Val.str.inj (Option.some.inj (List.cons.inj hmarks).1)) (by decide)

end Figures

end Aggregator

end AgenticRag

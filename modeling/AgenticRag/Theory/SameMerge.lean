import AgenticRag.Core.SubQueryDecomposer
import AgenticRag.Theory.SubQueryCandidates

/-!
# Two Merges of the Same Lists

The retrieval tool and the component that takes questions apart fuse lists the same
way, but know a chunk by different numbers: the tool by that of the chunk first, the
component by that of the document. Where the two numbers tell the same chunks apart
the merges give the same list, score by score. Two chunks of one document are where
they do not.

## Main definitions

* `SameMerge`: The merges identify, score and rank the same.
* `NoDuplicates`: Chunks known by different numbers have different texts.

## Theorems

* `entries_eq`: What the component ranks.
* `foldl_mergeByContent`: Different texts are all kept.
* `sameMerge_iff`: When the merges are the same.
-/

namespace AgenticRag

namespace Retrieval

open Py Ordered

section Entries

variable (env : SubQueryEnv) (k : Int) (results : List (List (Option Chunk)))

/-- The score of a hit's document. -/
def docScore (hit : Hit Chunk) : ℚ :=
  total (hitKey env) (reciprocalRank k) (docHits results) (hitKey env hit)

/-- The entry of a hit's document. -/
def entryOf (hit : Hit Chunk) : MergedDoc where
  doc := hit.doc
  subQuerySources := sourcesById env results (hitKey env hit)
  rrfScore := docScore env k results hit

/-- The first hits of the documents, by falling score. -/
def rankedDocs : List (Hit Chunk) := fused (hitKey env) (reciprocalRank k) (docHits results)

theorem entries_eq :
    entries env k results = (rankedDocs env k results).map (entryOf env k results) := by
  -- A score is looked up for every document, and is there.
  have hscore : ∀ hit ∈ firstsOn (hitKey env) (docHits results),
      ((scoresById env k results).lookup (hitKey env hit)).getD 0 = docScore env k results hit := by
    intro hit hhit
    have hmem : hitKey env hit ∈ (docHits results).map (hitKey env) :=
      List.mem_map_of_mem ((firstsOn_sublist _ _).subset hhit)
    rw [scoresById, lookup_accumulate, if_pos hmem]
    rfl
  simp only [entries, docById, keepFirst_eq]
  rw [sortDesc_map, List.map_map, sortDesc_congr hscore]
  refine List.map_congr_left (fun hit hhit => ?_)
  rw [Function.comp_apply, hscore hit ((mem_sortDesc _).mp hhit)]
  rfl

theorem entries_pairwise :
    (entries env k results).Pairwise (fun a b => b.rrfScore ≤ a.rrfScore) := by
  rw [entries_eq, List.pairwise_map]
  exact sortDesc_pairwise _ _

/-- The documents of the entries are known by different numbers. -/
theorem entries_keys_nodup : ((entries env k results).map (fun e => docKey env e.doc)).Nodup := by
  rw [entries_eq, List.map_map]
  exact ((fused_perm _ _ _).map _).nodup_iff.mpr (firstsOn_nodup _ _)

end Entries

section Contents

theorem mergeByContent_of_new {merged : List MergedDoc} {new : MergedDoc}
    (h : ∀ existing ∈ merged, docText existing.doc ≠ docText new.doc) :
    mergeByContent merged new = merged ++ [new] := by
  induction merged with
  | nil => rfl
  | cons existing rest ih =>
      rw [mergeByContent, if_neg (h existing List.mem_cons_self),
        ih (fun e he => h e (List.mem_cons_of_mem _ he)), List.cons_append]

/-- Documents with different texts are all kept as they are. -/
theorem foldl_mergeByContent {merged new : List MergedDoc}
    (h : ((merged ++ new).map (fun e => docText e.doc)).Nodup) :
    new.foldl mergeByContent merged = merged ++ new := by
  induction new generalizing merged with
  | nil => rw [List.foldl_nil, List.append_nil]
  | cons e rest ih =>
      -- The next document has none of the texts that are there.
      have hnew : ∀ existing ∈ merged, docText existing.doc ≠ docText e.doc := by
        rw [List.map_append, List.nodup_append] at h
        exact fun existing hexisting => h.2.2 _ (List.mem_map_of_mem hexisting) _
          (List.mem_map_of_mem List.mem_cons_self)
      rw [List.append_cons] at h
      rw [List.foldl_cons, mergeByContent_of_new hnew, ih h, ← List.append_cons]

end Contents

section Same

variable (env : SubQueryEnv) (lists : List (List Chunk))

/-- The number a chunk's document is known by. -/
def Chunk.documentNumber (chunk : Chunk) : String :=
  if chunk.id = "" then chunk.docId else chunk.id

/-- The chunk the retrieval tool makes of a merged document. -/
def MergedDoc.chunk (m : MergedDoc) : Chunk :=
  { m.doc with
    rrfScore := some m.rrfScore
    rerankScore := some m.rrfScore }

/-- Lists of dictionaries, as the component is given them. -/
def dictionaries : List (List (Option Chunk)) := lists.map (fun docs => docs.map some)

/-- The two merges tell the same chunks apart, give each the same score, and rank
    them the same. -/
structure SameMerge (n : Int) (dedupThreshold : ℚ) : Prop where
  identified : ∀ a ∈ hits lists, ∀ b ∈ hits lists,
    chunkKey a.doc = chunkKey b.doc ↔ docKey env a.doc = docKey env b.doc
  scored : ∀ hit ∈ hits lists, (rrfScores lists).lookup (chunkKey hit.doc) =
    (scoresById env rrfK (dictionaries lists)).lookup (docKey env hit.doc)
  ranked : ∃ merged,
    mergeSubQueryResults env rrfK (dictionaries lists) n dedupThreshold none = .ok merged ∧
      mergedChunks lists n = merged.map MergedDoc.chunk

/-- Every chunk carries its number and that of its document. -/
def CarryNumbers : Prop := ∀ hit ∈ hits lists, hit.doc.chunkId ≠ "" ∧ hit.doc.docId ≠ ""

/-- Chunks known by different numbers have different texts. -/
def NoDuplicates : Prop :=
  ∀ a ∈ hits lists, ∀ b ∈ hits lists, docText a.doc = docText b.doc →
    docKey env a.doc = docKey env b.doc

/-- Chunks have one number exactly when their documents have. -/
def OneChunkEach : Prop :=
  ∀ a ∈ hits lists, ∀ b ∈ hits lists,
    a.doc.chunkId = b.doc.chunkId ↔ a.doc.documentNumber = b.doc.documentNumber

instance : Decidable (CarryNumbers lists) :=
  inferInstanceAs (Decidable (∀ hit ∈ hits lists, hit.doc.chunkId ≠ "" ∧ hit.doc.docId ≠ ""))

instance : Decidable (NoDuplicates env lists) :=
  inferInstanceAs (Decidable (∀ a ∈ hits lists, ∀ b ∈ hits lists,
    docText a.doc = docText b.doc → docKey env a.doc = docKey env b.doc))

instance : Decidable (OneChunkEach lists) :=
  inferInstanceAs (Decidable (∀ a ∈ hits lists, ∀ b ∈ hits lists,
    a.doc.chunkId = b.doc.chunkId ↔ a.doc.documentNumber = b.doc.documentNumber))

variable {env lists}

theorem docHits_dictionaries (lists : List (List Chunk)) :
    docHits (dictionaries lists) = hits lists := by
  have hlist : ∀ (query : Nat) (docs : List Chunk),
      (hitsOf query (docs.map some)).filterMap (fun hit => hit.doc.map (fun doc =>
        { query := hit.query, rank := hit.rank, doc := doc })) = hitsOf query docs := by
    intro query docs
    rw [hitsOf, List.zipIdx_map, List.map_map, List.filterMap_map, hitsOf,
      ← List.filterMap_eq_map]
    rfl
  rw [docHits, hits, dictionaries, List.zipIdx_map, List.flatMap_map, List.filterMap_flatMap,
    hits]
  exact List.flatMap_congr (fun q _ => hlist q.2 q.1)

theorem chunkKey_eq {chunk : Chunk} (h : chunk.chunkId ≠ "") : chunkKey chunk = chunk.chunkId := by
  simp [chunkKey, firstNonEmpty, h]

theorem docKey_eq {chunk : Chunk} (h : chunk.docId ≠ "") :
    docKey env chunk = chunk.documentNumber := by
  by_cases hid : chunk.id = ""
  · simp [docKey, firstNonEmpty, Chunk.documentNumber, hid, h]
  · simp [docKey, firstNonEmpty, Chunk.documentNumber, hid]

/-- Merges that tell the same chunks apart are the same. -/
theorem sameMerge_of_identified (n : Int) (dedupThreshold : ℚ) (hdup : NoDuplicates env lists)
    (h : ∀ a ∈ hits lists, ∀ b ∈ hits lists,
      chunkKey a.doc = chunkKey b.doc ↔ docKey env a.doc = docKey env b.doc) :
    SameMerge env lists n dedupThreshold := by
  -- The keys only matter by which of them are equal.
  have hranked : rankedHits lists = rankedDocs env rrfK (dictionaries lists) := by
    rw [rankedHits, rankedDocs, docHits_dictionaries]
    exact fused_congr h
  have hscore : ∀ hit ∈ hits lists,
      rrfScore lists hit = docScore env rrfK (dictionaries lists) hit := by
    intro hit hhit
    rw [rrfScore, docScore, docHits_dictionaries]
    exact total_congr h hhit
  have hmem : ∀ hit ∈ rankedHits lists, hit ∈ hits lists := fun hit hhit =>
    (firstsOn_sublist _ _).subset ((fused_perm _ _ _).mem_iff.mp hhit)
  refine
    { identified := h
      scored := fun hit hhit => ?_
      ranked := ⟨sliceTo n (mergedDocs env rrfK (dictionaries lists) dedupThreshold none), ?_, ?_⟩ }
  · have htool : chunkKey hit.doc ∈ (hits lists).map (fun hit => chunkKey hit.doc) :=
      List.mem_map_of_mem hhit
    have hcomponent : docKey env hit.doc ∈ (hits lists).map (hitKey env) :=
      List.mem_map_of_mem hhit
    rw [rrfScores, lookup_accumulate, if_pos htool, scoresById, docHits_dictionaries,
      lookup_accumulate, if_pos hcomponent]
    exact congrArg some (total_congr h hhit)
  · -- A place that counts from sixty has a score.
    rw [mergeSubQueryResults, if_neg]
    intro hany
    rcases List.any_eq_true.mp hany with ⟨hit, -, hzero⟩
    rw [decide_eq_true_iff, rrfK] at hzero
    omega
  · have hkept : mergedDocs env rrfK (dictionaries lists) dedupThreshold none =
        entries env rrfK (dictionaries lists) := by
      refine foldl_mergeByContent ?_
      rw [List.nil_append]
      -- Documents with one text are known by one number, and there is one entry each.
      have hkeys := entries_keys_nodup env rrfK (dictionaries lists)
      refine hkeys.of_map.map_on (fun e he f hf htext => ?_)
      refine List.inj_on_of_nodup_map hkeys he hf ?_
      rw [entries_eq] at he hf
      rcases List.mem_map.mp he with ⟨a, ha, rfl⟩
      rcases List.mem_map.mp hf with ⟨b, hb, rfl⟩
      exact hdup a (hmem a (hranked ▸ ha)) b (hmem b (hranked ▸ hb)) htext
    rw [mergedChunks_eq, hkept, entries_eq, ← hranked, sliceTo_map, List.map_map]
    refine List.map_congr_left (fun hit hhit => ?_)
    rw [scored, hscore hit (hmem hit ((sliceTo_front _ _).subset hhit))]
    rfl

/-- The merges are the same exactly when every document that is hit is hit by one
    chunk and every chunk is of one document. -/
theorem sameMerge_iff (n : Int) (dedupThreshold : ℚ) (hcarry : CarryNumbers lists)
    (hdup : NoDuplicates env lists) :
    SameMerge env lists n dedupThreshold ↔ OneChunkEach lists := by
  -- The keys are the two numbers, as all hits carry them.
  have hiff : OneChunkEach lists ↔ ∀ a ∈ hits lists, ∀ b ∈ hits lists,
      chunkKey a.doc = chunkKey b.doc ↔ docKey env a.doc = docKey env b.doc := by
    refine forall₂_congr (fun a ha => forall₂_congr (fun b hb => ?_))
    rw [chunkKey_eq (hcarry a ha).1, chunkKey_eq (hcarry b hb).1, docKey_eq (hcarry a ha).2,
      docKey_eq (hcarry b hb).2]
  exact ⟨fun h => hiff.mpr h.identified,
    fun h => sameMerge_of_identified n dedupThreshold hdup (hiff.mp h)⟩

/-- A digest and an embedding space that are not asked. -/
def plainEnv : SubQueryEnv where
  md5 := fun _ => "d41d8cd98f00b204e9800998ecf8427e"
  norm := fun _ => 0
  dot := fun _ _ => 0

/-- The chunk of a document, as a store gives it. -/
def numbered (n : Nat) (chunkId docId : String) : Chunk where
  objectId := n
  chunkId := chunkId
  docId := docId
  content := chunkId

theorem sameMerge_iff_numbered :
    SameMerge plainEnv [[numbered 0 "c1" "d1", numbered 1 "c2" "d2"], [numbered 2 "c1" "d1"]] 10
      (92 / 100) :=
  (sameMerge_iff 10 (92 / 100) (by decide) (by decide)).mpr (by decide)

/-- Two chunks of one document are two for the tool and one for the component. -/
theorem not_sameMerge_chunks :
    ¬ SameMerge plainEnv [[numbered 0 "c1" "d1"], [numbered 1 "c2" "d1"]] 10 (92 / 100) := by
  intro h
  have hsame := h.identified { query := 0, rank := 0, doc := numbered 0 "c1" "d1" } (by decide)
    { query := 1, rank := 0, doc := numbered 1 "c2" "d1" } (by decide)
  revert hsame
  decide

end Same

end Retrieval

end AgenticRag

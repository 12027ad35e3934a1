import AgenticRag.Theory.SameMerge

/-!
# Which Searches Found a Document

Every document that comes into the merge is to be found in the list that comes out,
itself or through the document it was judged a duplicate of, and what stands for it
there is to name the searches that found it.

Without embeddings it is so. The document that is kept learns of the searches of
every duplicate. With embeddings a duplicate is passed over, and with it its
searches, and a document without an embedding is passed over altogether. So it is
so exactly when nothing is lost at these two steps.

## Main definitions

* `judged`: Whether a document is judged a duplicate of another.
* `LosesNothing`: The steps that pass a document over lose nothing.

## Theorems

* `foldl_mergeByContent_sources`: Without embeddings every search is named.
* `tracks_iff`: When the merge keeps track.
-/

namespace AgenticRag

namespace Retrieval

open Py Ordered

section Judging

variable (env : SubQueryEnv) (dedupThreshold : ℚ)
  (embeddingFn : Option (Chunk → Option (List ℚ)))

/-- Whether the similarity of two embeddings is high enough. -/
def similarTo (x y : Option (List ℚ)) : Bool :=
  x.any (fun a => y.any (fun b => decide (dedupThreshold ≤ cosineSimilarity env a b)))

/-- Whether a document is judged a duplicate of another that was kept before. -/
def judged (doc kept : Chunk) : Bool :=
  match embeddingFn with
  | none => decide (docText kept = docText doc)
  | some embed => similarTo env dedupThreshold (embed doc) (embed kept)

/-- What stands for a document in a merged list: the document, or else the first it
    is judged a duplicate of. -/
def standIn (merged : List MergedDoc) (doc : Chunk) : Option MergedDoc :=
  (merged.find? (fun m => docKey env m.doc = docKey env doc)).or
    (merged.find? (fun m => judged env dedupThreshold embeddingFn doc m.doc))

variable {env dedupThreshold embeddingFn}

/-- What stands for a document is in the list. -/
theorem mem_of_standIn {merged : List MergedDoc} {doc : Chunk} {m : MergedDoc}
    (h : standIn env dedupThreshold embeddingFn merged doc = some m) : m ∈ merged := by
  rcases Option.or_eq_some_iff.mp h with h | ⟨-, h⟩
  · exact List.mem_of_find?_eq_some h
  · exact List.mem_of_find?_eq_some h

end Judging

section Sources

variable {env : SubQueryEnv} {k : Int} {results : List (List (Option Chunk))}

@[simp] theorem mem_sortedSet {xs : List Nat} {n : Nat} : n ∈ sortedSet xs ↔ n ∈ xs := by
  rw [sortedSet, List.mem_insertionSort, List.mem_dedup]

/-- The searches of a document are those it was found by. -/
theorem mem_sourcesById {docId : String} {n : Nat} :
    n ∈ sourcesById env results docId ↔
      ∃ hit ∈ docHits results, hitKey env hit = docId ∧ hit.query = n := by
  rw [sourcesById, lookup_groupBy, mem_sortedSet, List.mem_map]
  simp only [List.mem_filter, decide_eq_true_eq, and_assoc]

theorem mem_entries {e : MergedDoc} (h : e ∈ entries env k results) :
    ∃ hit ∈ firstsOn (hitKey env) (docHits results), e = entryOf env k results hit := by
  rw [entries_eq] at h
  rcases List.mem_map.mp h with ⟨hit, hhit, rfl⟩
  exact ⟨hit, (fused_perm _ _ _).mem_iff.mp hhit, rfl⟩

/-- A document is found in the entries by its number. -/
theorem entryOf_mem {hit : Hit Chunk} (h : hit ∈ firstsOn (hitKey env) (docHits results)) :
    entryOf env k results hit ∈ entries env k results := by
  rw [entries_eq]
  exact List.mem_map_of_mem ((fused_perm _ _ _).mem_iff.mpr h)

theorem entries_ext {e f : MergedDoc} (he : e ∈ entries env k results)
    (hf : f ∈ entries env k results) (h : docKey env e.doc = docKey env f.doc) : e = f :=
  List.inj_on_of_nodup_map (entries_keys_nodup env k results) he hf h

end Sources

section Contents

/-- A step without embeddings keeps the documents and their scores, and adds the new
    one if its text is new. -/
theorem map_mergeByContent (merged : List MergedDoc) (new : MergedDoc) :
    (mergeByContent merged new).map (fun m => (m.doc, m.rrfScore)) =
      merged.map (fun m => (m.doc, m.rrfScore)) ++
        if docText new.doc ∈ merged.map (fun m => docText m.doc) then []
        else [(new.doc, new.rrfScore)] := by
  induction merged with
  | nil => rfl
  | cons existing rest ih =>
      -- The first document with the text takes over the searches, and nothing else changes.
      by_cases htext : docText existing.doc = docText new.doc
      · simp [mergeByContent, htext]
      · rw [mergeByContent, if_neg htext, List.map_cons, ih]
        simp [Ne.symm htext]

/-- What is in the list stays, with at least its searches. -/
theorem exists_of_mem_mergeByContent {merged : List MergedDoc} (new : MergedDoc) {m : MergedDoc}
    (h : m ∈ merged) : ∃ m' ∈ mergeByContent merged new,
      docText m'.doc = docText m.doc ∧ m.subQuerySources ⊆ m'.subQuerySources := by
  induction merged with
  | nil => cases h
  | cons existing rest ih =>
      rw [mergeByContent]
      -- Only a document with the new text is changed, and it gains searches.
      split_ifs with htext
      · rcases List.mem_cons.mp h with rfl | h
        · exact ⟨_, List.mem_cons_self, rfl, fun n hn => by simp [hn]⟩
        · exact ⟨m, List.mem_cons_of_mem _ h, rfl, List.Subset.refl _⟩
      · rcases List.mem_cons.mp h with rfl | h
        · exact ⟨m, List.mem_cons_self, rfl, List.Subset.refl _⟩
        · rcases ih h with ⟨m', hm', hkept⟩
          exact ⟨m', List.mem_cons_of_mem _ hm', hkept⟩

/-- The new document's searches are those of a document with its text. -/
theorem exists_new_mergeByContent (merged : List MergedDoc) (new : MergedDoc) :
    ∃ m ∈ mergeByContent merged new,
      docText m.doc = docText new.doc ∧ new.subQuerySources ⊆ m.subQuerySources := by
  induction merged with
  | nil => exact ⟨new, List.mem_cons_self, rfl, List.Subset.refl _⟩
  | cons existing rest ih =>
      rw [mergeByContent]
      split_ifs with htext
      · exact ⟨_, List.mem_cons_self, htext, fun n hn => by simp [hn]⟩
      · rcases ih with ⟨m, hm, hkept⟩
        exact ⟨m, List.mem_cons_of_mem _ hm, hkept⟩

theorem foldl_mergeByContent_concat (es : List MergedDoc) (e : MergedDoc) :
    (es ++ [e]).foldl mergeByContent [] = mergeByContent (es.foldl mergeByContent []) e := by
  rw [List.foldl_append, List.foldl_cons, List.foldl_nil]

/-- Without embeddings documents are kept in their order, with their scores. -/
theorem foldl_mergeByContent_sublist (es : List MergedDoc) :
    ((es.foldl mergeByContent []).map (fun m => (m.doc, m.rrfScore))).Sublist
      (es.map (fun e => (e.doc, e.rrfScore))) := by
  induction es using List.reverseRecOn with
  | nil => exact .slnil
  | append_singleton es e ih =>
      rw [foldl_mergeByContent_concat, map_mergeByContent, List.map_append]
      refine ih.append ?_
      split_ifs
      · exact List.nil_sublist _
      · exact List.Sublist.refl _

/-- No text is kept twice. -/
theorem foldl_mergeByContent_nodup (es : List MergedDoc) :
    ((es.foldl mergeByContent []).map (fun m => docText m.doc)).Nodup := by
  induction es using List.reverseRecOn with
  | nil => exact List.nodup_nil
  | append_singleton es e ih =>
      have hmap := congrArg (List.map (fun p : Chunk × ℚ => docText p.1))
        (map_mergeByContent (es.foldl mergeByContent []) e)
      simp only [List.map_append, List.map_map] at hmap
      rw [foldl_mergeByContent_concat]
      refine (congrArg List.Nodup hmap).mpr ?_
      split_ifs with hmem
      · rw [List.map_nil, List.append_nil]
        exact ih
      · exact List.nodup_append.mpr ⟨ih, List.nodup_singleton _, fun a ha b hb => by
          rw [List.map_singleton, List.mem_singleton] at hb
          exact fun heq => hmem (hb ▸ heq ▸ ha)⟩

/-- Without embeddings every search is named by the document with its text. -/
theorem foldl_mergeByContent_sources (es : List MergedDoc) {e : MergedDoc} (he : e ∈ es) :
    ∃ m ∈ es.foldl mergeByContent [],
      docText m.doc = docText e.doc ∧ e.subQuerySources ⊆ m.subQuerySources := by
  induction es using List.reverseRecOn with
  | nil => cases he
  | append_singleton es e' ih =>
      rw [foldl_mergeByContent_concat]
      -- The document came before, or is the last one.
      rcases List.mem_append.mp he with he | he
      · rcases ih he with ⟨m, hm, htext, hsources⟩
        rcases exists_of_mem_mergeByContent e' hm with ⟨m', hm', htext', hsources'⟩
        exact ⟨m', hm', htext'.trans htext, List.Subset.trans hsources hsources'⟩
      · rw [List.mem_singleton.mp he]
        exact exists_new_mergeByContent _ _

end Contents

section Embeddings

variable (env : SubQueryEnv) (dedupThreshold : ℚ) (embed : Chunk → Option (List ℚ))

/-- The documents the steps with embeddings keep. -/
def keptDocs (es : List MergedDoc) : List MergedDoc :=
  (es.foldl (mergeByEmbedding env dedupThreshold embed) []).map Prod.fst

/-- The first kept document a document is judged a duplicate of. -/
def firstJudged (kept : List MergedDoc) (doc : Chunk) : Option MergedDoc :=
  kept.find? (fun m => judged env dedupThreshold (some embed) doc m.doc)

variable {env dedupThreshold embed}

/-- The embeddings that are kept are those of the documents. -/
theorem embed_of_mem_foldl {es : List MergedDoc} {p : MergedDoc × List ℚ}
    (h : p ∈ es.foldl (mergeByEmbedding env dedupThreshold embed) []) :
    embed p.1.doc = some p.2 := by
  induction es using List.reverseRecOn with
  | nil => cases h
  | append_singleton es e ih =>
      rw [List.foldl_append, List.foldl_cons, List.foldl_nil, mergeByEmbedding] at h
      -- A document is put in together with the embedding it was judged by.
      cases hemb : embed e.doc with
      | none =>
          rw [hemb] at h
          exact ih h
      | some emb =>
          rw [hemb] at h
          dsimp only at h
          split_ifs at h
          · exact ih h
          · rcases List.mem_append.mp h with h | h
            · exact ih h
            · rw [List.mem_singleton.mp h]
              exact hemb

/-- A document is kept if it has an embedding and is not judged a duplicate. -/
theorem keptDocs_concat (es : List MergedDoc) (e : MergedDoc) :
    keptDocs env dedupThreshold embed (es ++ [e]) =
      if embed e.doc = none ∨
          (firstJudged env dedupThreshold embed (keptDocs env dedupThreshold embed es) e.doc).isSome
        then keptDocs env dedupThreshold embed es
        else keptDocs env dedupThreshold embed es ++ [e] := by
  rw [keptDocs, List.foldl_append, List.foldl_cons, List.foldl_nil, mergeByEmbedding]
  cases hemb : embed e.doc with
  | none => rw [if_pos (.inl rfl), keptDocs]
  | some emb =>
      -- The source compares embeddings, and these are the embeddings of the documents.
      have hany : (es.foldl (mergeByEmbedding env dedupThreshold embed) []).any (fun existing =>
          decide (dedupThreshold ≤ cosineSimilarity env emb existing.2)) =
            (firstJudged env dedupThreshold embed (keptDocs env dedupThreshold embed es)
              e.doc).isSome := by
        rw [firstJudged, List.isSome_find?, keptDocs, List.any_map, Bool.eq_iff_iff,
          List.any_eq_true, List.any_eq_true]
        refine exists_congr (fun p => and_congr_right (fun hp => ?_))
        rw [Function.comp_apply, judged, similarTo, hemb, embed_of_mem_foldl hp, Option.any_some,
          Option.any_some]
      dsimp only
      rw [hany]
      by_cases hdup : (firstJudged env dedupThreshold embed
          (keptDocs env dedupThreshold embed es) e.doc).isSome
      · rw [if_pos hdup, if_pos (.inr hdup), keptDocs]
      · rw [if_neg hdup, if_neg (not_or.mpr ⟨Option.some_ne_none emb, hdup⟩), List.map_append,
          List.map_singleton, keptDocs]

theorem exists_keptDocs_append (env : SubQueryEnv) (dedupThreshold : ℚ)
    (embed : Chunk → Option (List ℚ)) (es fs : List MergedDoc) :
    ∃ tail, keptDocs env dedupThreshold embed (es ++ fs) =
      keptDocs env dedupThreshold embed es ++ tail ∧ tail.Sublist fs := by
  induction fs using List.reverseRecOn with
  | nil => exact ⟨[], by rw [List.append_nil, List.append_nil], .slnil⟩
  | append_singleton fs f ih =>
      -- What is kept is never taken back.
      rcases ih with ⟨tail, hkept, htail⟩
      rw [← List.append_assoc, keptDocs_concat]
      split_ifs
      · exact ⟨tail, hkept, htail.trans (List.sublist_append_left fs [f])⟩
      · exact ⟨tail ++ [f], by rw [hkept, List.append_assoc], htail.append (List.Sublist.refl _)⟩

theorem keptDocs_sublist (es : List MergedDoc) :
    (keptDocs env dedupThreshold embed es).Sublist es := by
  rcases exists_keptDocs_append env dedupThreshold embed [] es with ⟨tail, hkept, htail⟩
  rw [List.nil_append] at hkept
  rw [hkept]
  exact htail

/-- No kept document is judged a duplicate of one before it. -/
theorem keptDocs_pairwise (es : List MergedDoc) :
    (keptDocs env dedupThreshold embed es).Pairwise
      (fun a b => judged env dedupThreshold (some embed) b.doc a.doc = false) := by
  induction es using List.reverseRecOn with
  | nil => exact .nil
  | append_singleton es e ih =>
      rw [keptDocs_concat]
      split_ifs with hpass
      · exact ih
      · refine List.pairwise_append.mpr ⟨ih, List.pairwise_singleton _ _, fun a ha b hb => ?_⟩
        rw [List.mem_singleton.mp hb]
        -- The new document was compared with all that are kept.
        have hnone := (not_or.mp hpass).2
        rw [firstJudged, List.isSome_find?, List.any_eq_true] at hnone
        exact Bool.eq_false_iff.mpr (fun h => hnone ⟨a, ha, h⟩)

/-- What stands for a document: the first kept before that it is judged a duplicate
    of, or itself. -/
theorem standIn_keptDocs {before after : List MergedDoc} {e : MergedDoc}
    (hnodup : ((before ++ e :: after).map (fun e => docKey env e.doc)).Nodup) :
    standIn env dedupThreshold (some embed)
        (keptDocs env dedupThreshold embed (before ++ e :: after)) e.doc =
      if embed e.doc = none then none
      else (firstJudged env dedupThreshold embed (keptDocs env dedupThreshold embed before)
        e.doc).or (some e) := by
  rcases exists_keptDocs_append env dedupThreshold embed (before ++ [e]) after with
    ⟨tail, hkept, htail⟩
  rw [List.append_assoc, List.singleton_append] at hkept
  rw [List.map_append, List.map_cons, List.nodup_append] at hnodup
  rw [List.nodup_cons] at hnodup
  -- No other document has the number.
  have hbefore : ∀ m ∈ keptDocs env dedupThreshold embed before,
      docKey env m.doc ≠ docKey env e.doc := fun m hm =>
    hnodup.2.2 _ (List.mem_map_of_mem ((keptDocs_sublist before).subset hm)) _ List.mem_cons_self
  have hafter : ∀ m ∈ tail, docKey env m.doc ≠ docKey env e.doc := fun m hm heq =>
    hnodup.2.1.1 (heq ▸ List.mem_map_of_mem (f := fun e => docKey env e.doc) (htail.subset hm))
  have hown : (keptDocs env dedupThreshold embed before ++ tail).find?
      (fun m => docKey env m.doc = docKey env e.doc) = none := by
    refine List.find?_eq_none.mpr (fun m hm => ?_)
    rw [decide_eq_true_iff]
    exact (List.mem_append.mp hm).elim (hbefore m) (hafter m)
  rw [standIn, hkept, keptDocs_concat]
  by_cases hemb : embed e.doc = none
  · -- Without an embedding nothing is judged.
    have hjudged : (keptDocs env dedupThreshold embed before ++ tail).find?
        (fun m => judged env dedupThreshold (some embed) e.doc m.doc) = none := by
      refine List.find?_eq_none.mpr (fun m _ => ?_)
      rw [judged, similarTo, hemb, Option.any_none]
      exact Bool.false_ne_true
    rw [if_pos (.inl hemb), if_pos hemb, hown, hjudged, Option.or_none]
  · rw [if_neg hemb]
    -- A duplicate is passed over, and anything else stands for itself.
    cases hfirst : firstJudged env dedupThreshold embed
        (keptDocs env dedupThreshold embed before) e.doc with
    | some m =>
        rw [if_pos (.inr (by rw [Option.isSome_some])), hown, Option.none_or, List.find?_append]
        rw [firstJudged] at hfirst
        rw [hfirst, Option.some_or, Option.some_or]
    | none =>
        have hnew : ¬ (embed e.doc = none ∨ (none : Option MergedDoc).isSome = true) :=
          not_or.mpr ⟨hemb, Bool.false_ne_true⟩
        have hnone : (keptDocs env dedupThreshold embed before).find?
            (fun m => docKey env m.doc = docKey env e.doc) = none :=
          List.find?_eq_none.mpr (fun m hm => by simpa using hbefore m hm)
        rw [if_neg hnew, List.append_assoc, List.find?_append, hnone, Option.none_or,
          List.singleton_append, List.find?_cons_of_pos (by simp), Option.some_or, Option.none_or]

end Embeddings

section Tracking

variable (env : SubQueryEnv) (k : Int) (results : List (List (Option Chunk))) (topK : Int)
  (dedupThreshold : ℚ) (embeddingFn : Option (Chunk → Option (List ℚ)))

/-- The document that is merged for a hit: the first with its number. -/
def firstDoc (hit : Hit Chunk) : Chunk :=
  ((docById env results).lookup (hitKey env hit)).getD hit.doc

/-- What stands for a document before the list is cut. -/
def standsFor (doc : Chunk) : Option MergedDoc :=
  standIn env dedupThreshold embeddingFn (mergedDocs env k results dedupThreshold embeddingFn) doc

/-- Every document is stood for, by one that names its searches if it is not cut off,
    the list is in falling order, and none in it is a duplicate of an earlier one. -/
structure Tracks (out : List MergedDoc) : Prop where
  represented : ∀ hit ∈ docHits results, ∃ m,
    standsFor env k results dedupThreshold embeddingFn (firstDoc env results hit) = some m ∧
      (m ∈ out → hit.query ∈ m.subQuerySources)
  sorted : out.Pairwise (fun a b => b.rrfScore ≤ a.rrfScore)
  distinct : out.Pairwise (fun a b => judged env dedupThreshold embeddingFn b.doc a.doc = false)

/-- The steps with embeddings lose nothing: a document has an embedding, and the first
    of those kept so far that it is judged a duplicate of is cut off or was found by
    every search that found it. -/
def LosesNothing : Prop :=
  ∀ embed, embeddingFn = some embed →
    ∀ before e after, entries env k results = before ++ e :: after →
      embed e.doc ≠ none ∧
        ∀ m, firstJudged env dedupThreshold embed (keptDocs env dedupThreshold embed before) e.doc =
            some m →
          m ∈ sliceTo topK (mergedDocs env k results dedupThreshold embeddingFn) →
            e.subQuerySources ⊆ m.subQuerySources

variable {env k results topK dedupThreshold embeddingFn}

theorem firstDoc_eq {hit first : Hit Chunk}
    (hfirst : first ∈ firstsOn (hitKey env) (docHits results))
    (hkey : hitKey env first = hitKey env hit) : firstDoc env results hit = first.doc := by
  rw [firstDoc, docById, keepFirst_eq, ← hkey, lookup_map_firstsOn Hit.doc hfirst,
    Option.getD_some]

/-- Every hit is represented exactly when every entry is, with all of its searches. -/
theorem represented_iff (out : List MergedDoc) :
    (∀ hit ∈ docHits results, ∃ m,
        standsFor env k results dedupThreshold embeddingFn (firstDoc env results hit) = some m ∧
          (m ∈ out → hit.query ∈ m.subQuerySources)) ↔
      ∀ e ∈ entries env k results, ∃ m,
        standsFor env k results dedupThreshold embeddingFn e.doc = some m ∧
          (m ∈ out → e.subQuerySources ⊆ m.subQuerySources) := by
  constructor
  · intro h e he
    rcases mem_entries he with ⟨first, hfirst, rfl⟩
    have hself : firstDoc env results first = first.doc := firstDoc_eq hfirst rfl
    rcases h first ((firstsOn_sublist _ _).subset hfirst) with ⟨m, hm, -⟩
    rw [hself] at hm
    refine ⟨m, hm, fun hout n hn => ?_⟩
    -- A search of the entry has a hit, and the hit has the same document.
    rcases mem_sourcesById.mp hn with ⟨hit, hhit, hkey, rfl⟩
    rcases h hit hhit with ⟨m', hm', hquery⟩
    rw [firstDoc_eq hfirst hkey.symm, hm] at hm'
    exact (Option.some.inj hm') ▸ hquery ((Option.some.inj hm') ▸ hout)
  · intro h hit hhit
    rcases exists_mem_firstsOn (hitKey env) hhit with ⟨first, hfirst, hkey⟩
    rcases h _ (entryOf_mem (k := k) hfirst) with ⟨m, hm, hsources⟩
    refine ⟨m, ?_, fun hout => hsources hout (mem_sourcesById.mpr ⟨hit, hhit, hkey.symm, rfl⟩)⟩
    rw [firstDoc_eq hfirst hkey]
    exact hm

/-- Without embeddings every entry is represented. -/
theorem represented_of_contents {e : MergedDoc} (he : e ∈ entries env k results) :
    ∃ m, standsFor env k results dedupThreshold none e.doc = some m ∧
      e.subQuerySources ⊆ m.subQuerySources := by
  rcases foldl_mergeByContent_sources _ he with ⟨m, hm, htext, hsources⟩
  have hnodup := foldl_mergeByContent_nodup (entries env k results)
  -- Whatever has the text is the document that was kept.
  have hone : ∀ m' ∈ (entries env k results).foldl mergeByContent [],
      docText m'.doc = docText e.doc → m' = m := fun m' hm' htext' =>
    List.inj_on_of_nodup_map hnodup hm' hm (htext'.trans htext.symm)
  rw [standsFor, standIn, mergedDocs]
  -- The document was kept itself, or passed over for its text.
  cases hown : ((entries env k results).foldl mergeByContent []).find?
      (fun m => docKey env m.doc = docKey env e.doc) with
  | some m' =>
      have hmem := List.mem_of_find?_eq_some hown
      have hkey : docKey env m'.doc = docKey env e.doc := by
        simpa using List.find?_some hown
      -- A kept document is that of an entry.
      rcases List.mem_map.mp ((foldl_mergeByContent_sublist (entries env k results)).subset
        (List.mem_map_of_mem hmem)) with ⟨e', he', hpair⟩
      have hdoc : e'.doc = m'.doc := congrArg Prod.fst hpair
      have hsame : e' = e := entries_ext he' he (hdoc ▸ hkey)
      rw [Option.some_or]
      refine ⟨m', rfl, ?_⟩
      rw [hone m' hmem (by rw [← hdoc, hsame])]
      exact hsources
  | none =>
      have hsome : (((entries env k results).foldl mergeByContent []).find? (fun m =>
          judged env dedupThreshold none e.doc m.doc)).isSome := by
        rw [List.isSome_find?, List.any_eq_true]
        exact ⟨m, hm, decide_eq_true htext⟩
      rcases Option.isSome_iff_exists.mp hsome with ⟨m', hfind⟩
      have hjudged : judged env dedupThreshold none e.doc m'.doc = true := by
        simpa using List.find?_some hfind
      have htext' : docText m'.doc = docText e.doc := of_decide_eq_true hjudged
      rw [Option.none_or, hfind]
      refine ⟨m', rfl, ?_⟩
      rw [hone m' (List.mem_of_find?_eq_some hfind) htext']
      exact hsources

theorem mergedDocs_some (embed : Chunk → Option (List ℚ)) :
    mergedDocs env k results dedupThreshold (some embed) =
      keptDocs env dedupThreshold embed (entries env k results) := rfl

/-- The documents and scores of the merged list are those of entries in their
    order. -/
theorem mergedDocs_sublist :
    ((mergedDocs env k results dedupThreshold embeddingFn).map
      (fun m => (m.doc, m.rrfScore))).Sublist
        ((entries env k results).map (fun e => (e.doc, e.rrfScore))) := by
  cases embeddingFn with
  | none => exact foldl_mergeByContent_sublist _
  | some embed => exact (keptDocs_sublist _).map _

theorem mergedDocs_pairwise :
    (mergedDocs env k results dedupThreshold embeddingFn).Pairwise
      (fun a b => b.rrfScore ≤ a.rrfScore) := by
  have hentries : ((entries env k results).map (fun e => (e.doc, e.rrfScore))).Pairwise
      (fun p q => q.2 ≤ p.2) :=
    List.pairwise_map.mpr (entries_pairwise env k results)
  exact List.pairwise_map.mp (hentries.sublist mergedDocs_sublist)

theorem mergedDocs_distinct :
    (mergedDocs env k results dedupThreshold embeddingFn).Pairwise
      (fun a b => judged env dedupThreshold embeddingFn b.doc a.doc = false) := by
  cases embeddingFn with
  | none =>
      refine (List.pairwise_map.mp (foldl_mergeByContent_nodup (entries env k results))).imp
        (fun h => ?_)
      exact decide_eq_false h
  | some embed => exact keptDocs_pairwise _

/-- The merge keeps track exactly when the steps that pass a document over lose
    nothing. -/
theorem tracks_iff {out : List MergedDoc}
    (h : mergeSubQueryResults env k results topK dedupThreshold embeddingFn = .ok out) :
    Tracks env k results dedupThreshold embeddingFn out ↔
      LosesNothing env k results topK dedupThreshold embeddingFn := by
  have hout : sliceTo topK (mergedDocs env k results dedupThreshold embeddingFn) = out := by
    rw [mergeSubQueryResults] at h
    split_ifs at h
    exact Except.ok.inj h
  have hfront : out <+: mergedDocs env k results dedupThreshold embeddingFn :=
    hout ▸ sliceTo_front _ _
  -- Order and distinctness hold of every front of the merged list.
  have hrest : Tracks env k results dedupThreshold embeddingFn out ↔
      ∀ e ∈ entries env k results, ∃ m,
        standsFor env k results dedupThreshold embeddingFn e.doc = some m ∧
          (m ∈ out → e.subQuerySources ⊆ m.subQuerySources) := by
    rw [← represented_iff]
    exact ⟨fun h => h.represented, fun h =>
      { represented := h
        sorted := mergedDocs_pairwise.sublist hfront.sublist
        distinct := mergedDocs_distinct.sublist hfront.sublist }⟩
  rw [hrest, LosesNothing, hout]
  cases hfn : embeddingFn with
  | none =>
      refine iff_of_true (fun e he => ?_) (fun embed hembed => ?_)
      · rcases represented_of_contents he with ⟨m, hm, hsources⟩
        exact ⟨m, hm, fun _ => hsources⟩
      · cases hembed
  | some embed =>
      have hstand : ∀ before e after, entries env k results = before ++ e :: after →
          standsFor env k results dedupThreshold (some embed) e.doc =
            if embed e.doc = none then none
            else (firstJudged env dedupThreshold embed (keptDocs env dedupThreshold embed before)
              e.doc).or (some e) := by
        intro before e after hsplit
        rw [standsFor, mergedDocs_some, hsplit]
        exact standIn_keptDocs (hsplit ▸ entries_keys_nodup env k results)
      constructor
      · intro hall embed' hembed before e after hsplit
        cases hembed
        rcases hall e (hsplit ▸ List.mem_append_right _ List.mem_cons_self) with ⟨m, hm, hsources⟩
        rw [hstand before e after hsplit] at hm
        by_cases hnone : embed e.doc = none
        · rw [if_pos hnone] at hm
          cases hm
        · rw [if_neg hnone] at hm
          refine ⟨hnone, fun m' hfirst hshown => ?_⟩
          rw [hfirst, Option.some_or] at hm
          exact (Option.some.inj hm) ▸ hsources ((Option.some.inj hm) ▸ hshown)
      · intro hall e he
        rcases List.append_of_mem he with ⟨before, after, hsplit⟩
        rcases hall embed rfl before e after hsplit with ⟨hembed, hsources⟩
        rw [hstand before e after hsplit, if_neg hembed]
        cases hfirst : firstJudged env dedupThreshold embed
            (keptDocs env dedupThreshold embed before) e.doc with
        | none => exact ⟨e, rfl, fun _ => List.Subset.refl _⟩
        | some m => exact ⟨m, rfl, hsources m hfirst⟩

/-- Vectors of one number, with their length and product. -/
def lineEnv : SubQueryEnv where
  md5 := fun _ => "d41d8cd98f00b204e9800998ecf8427e"
  norm := fun v => |v.sum|
  dot := fun v w => (List.zipWith (· * ·) v w).sum

/-- An embedding that takes all texts for one. -/
def sameEmbedding : Chunk → Option (List ℚ) := fun _ => some [1]

/-- A document that is found. -/
def answerDoc (n : Nat) (docId : String) : Chunk where
  objectId := n
  docId := docId
  content := docId

/-- Two duplicates that one search found. -/
def foundTogether : List (List (Option Chunk)) :=
  [[some (answerDoc 0 "d1"), some (answerDoc 1 "d2")]]

theorem tracks_iff_together :
    Tracks lineEnv 60 foundTogether (92 / 100) (some sameEmbedding)
      (sliceTo 10 (mergedDocs lineEnv 60 foundTogether (92 / 100) (some sameEmbedding))) := by
  have hmerge : mergeSubQueryResults lineEnv 60 foundTogether 10 (92 / 100) (some sameEmbedding) =
      .ok (sliceTo 10 (mergedDocs lineEnv 60 foundTogether (92 / 100) (some sameEmbedding))) :=
    if_neg (by decide)
  refine (tracks_iff hmerge).mpr ?_
  intro embed hembed before e after hsplit
  cases hembed
  have hsources : ∀ m ∈ entries lineEnv 60 foundTogether, m.subQuerySources = [0] := by
    intro m hm
    rcases mem_entries hm with ⟨hit, hhit, rfl⟩
    have hall : ∀ hit ∈ docHits foundTogether,
        sourcesById lineEnv foundTogether (hitKey lineEnv hit) = [0] := by
      decide
    exact hall hit ((firstsOn_sublist _ _).subset hhit)
  refine ⟨Option.some_ne_none _, fun m hfirst _ => ?_⟩
  have hkept := (keptDocs_sublist before).subset (List.mem_of_find?_eq_some hfirst)
  rw [hsources e (hsplit ▸ List.mem_append_right _ List.mem_cons_self),
    hsources m (hsplit ▸ List.mem_append_left _ hkept)]
  exact List.Subset.refl _

/-- Two duplicates that were found by a search each. -/
def foundApart : List (List (Option Chunk)) :=
  [[some (answerDoc 0 "d1")], [some (answerDoc 1 "d2")]]

/-- The second is passed over, and nothing says that its search found anything. -/
theorem not_tracks_apart :
    ¬ Tracks lineEnv 60 foundApart (92 / 100) (some sameEmbedding)
      (sliceTo 10 (mergedDocs lineEnv 60 foundApart (92 / 100) (some sameEmbedding))) := by
  intro h
  have hscore : ∀ hit ∈ docHits foundApart, docScore lineEnv 60 foundApart hit = 1 / 61 := by
    intro hit hhit
    have hone : (docHits foundApart).filter
        (fun a => hitKey lineEnv a = hitKey lineEnv hit) = [hit] ∧ hit.rank = 0 := by
      revert hit
      decide
    rw [docScore, total, hone.1, List.map_singleton, List.sum_singleton, reciprocalRank, hone.2]
    norm_num
  -- The scores are the same, so the order is that in which they were found.
  have hentries : entries lineEnv 60 foundApart =
      [{ doc := answerDoc 0 "d1", subQuerySources := [0], rrfScore := 1 / 61 },
        { doc := answerDoc 1 "d2", subQuerySources := [1], rrfScore := 1 / 61 }] := by
    have hfirsts : firstsOn (hitKey lineEnv) (docHits foundApart) = docHits foundApart := by
      decide
    have hsorted : (docHits foundApart).Pairwise (fun a b =>
        docScore lineEnv 60 foundApart b ≤ docScore lineEnv 60 foundApart a) :=
      List.pairwise_of_forall_mem_list (fun a ha b hb => by rw [hscore a ha, hscore b hb])
    have hranked : rankedDocs lineEnv 60 foundApart = docHits foundApart := by
      rw [rankedDocs, fused, hfirsts]
      exact sortDesc_of_pairwise _ hsorted
    rw [entries_eq, hranked]
    refine (List.map_congr_left (g := fun hit => MergedDoc.mk hit.doc
      (sourcesById lineEnv foundApart (hitKey lineEnv hit)) (1 / 61)) (fun hit hhit => ?_)).trans ?_
    · rw [entryOf, hscore hit hhit]
    · rfl
  have hkept : mergedDocs lineEnv 60 foundApart (92 / 100) (some sameEmbedding) =
      [{ doc := answerDoc 0 "d1", subQuerySources := [0], rrfScore := 1 / 61 }] := by
    rw [mergedDocs_some, hentries]
    norm_num [keptDocs, mergeByEmbedding, sameEmbedding, cosineSimilarity, lineEnv]
  -- The second search found the document that was passed over.
  have hsecond := h.represented { query := 1, rank := 0, doc := answerDoc 1 "d2" } (by decide)
  rcases hsecond with ⟨m, hm, hsources⟩
  have hmem := mem_of_standIn hm
  rw [hkept] at hmem hsources
  rw [List.mem_singleton.mp hmem] at hsources
  have hnamed := hsources List.mem_cons_self
  revert hnamed
  decide

end Tracking

end Retrieval

end AgenticRag

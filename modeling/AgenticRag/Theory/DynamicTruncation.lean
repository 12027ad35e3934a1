import AgenticRag.Core.RagTool

/-!
# What the Cut Keeps

The list the retrieval tool cuts to is a front of the ranking by document.
What makes cutting it again harmless is that every rule of the cut takes a
front, and of a front a front of what it took before: where the few that are
always kept were taken, too little is left the second time as well.

The report of the cut speaks of the list that is kept, with one exception. Its
best score is that of the ranking. The two are the same as long as anything is
kept, and a list that is kept empty is reported with a best score of zero only
if the ranking was empty too. Nothing need be kept when no smallest number is
asked for and the best chunk is too weak by itself.

## Main definitions

* `report`: What is to be reported of a list.
* `TopStands`: The best chunk is not too weak by itself.

## Theorems

* `selected_front`: A front of the ranking is kept.
* `selected_selected`: Cutting again keeps the same.
* `truncates_iff`: When the cut does what it has to do.
-/

namespace AgenticRag

namespace Retrieval

open Py Ordered

section Slices

theorem sliceTo_front {α : Type*} (n : Int) (xs : List α) : sliceTo n xs <+: xs :=
  List.take_prefix _ xs

theorem sliceIndex_of_nonneg {n : Int} (h : 0 ≤ n) (length : Nat) :
    sliceIndex length n = n.toNat := by
  rw [sliceIndex, if_neg (by omega)]

theorem sliceTo_of_length_le {α : Type*} {n : Int} {xs : List α} (h : (xs.length : Int) ≤ n) :
    sliceTo n xs = xs := by
  rw [sliceTo, sliceIndex_of_nonneg (by omega)]
  exact List.take_of_length_le (by omega)

theorem length_sliceTo {α : Type*} {n : Int} (h : 0 ≤ n) (xs : List α) :
    ((sliceTo n xs).length : Int) = min n xs.length := by
  rw [sliceTo, sliceIndex_of_nonneg h, List.length_take]
  omega

end Slices

section Ranking

variable {docs : List Chunk}

theorem deduped_sublist : (deduped docs).Sublist (sortDesc Chunk.relevance docs) :=
  dedupOn_sublist [] _

theorem deduped_pairwise (docs : List Chunk) :
    (deduped docs).Pairwise (fun a b => b.relevance ≤ a.relevance) :=
  (sortDesc_pairwise Chunk.relevance docs).sublist deduped_sublist

theorem deduped_nodup (docs : List Chunk) : ((deduped docs).filterMap Chunk.document).Nodup :=
  (dedupOn_nodup [] _).1

theorem mem_of_mem_deduped {doc : Chunk} (h : doc ∈ deduped docs) : doc ∈ docs :=
  (mem_sortDesc Chunk.relevance).mp (deduped_sublist.subset h)

theorem document_eq_some {doc : Chunk} (h : doc.docId ≠ "") : doc.document = some doc.docId :=
  if_neg h

/-- A list in falling order without two chunks of one document is its own
    ranking. -/
theorem deduped_of_pairwise (h : docs.Pairwise (fun a b => b.relevance ≤ a.relevance))
    (hnodup : (docs.filterMap Chunk.document).Nodup) : deduped docs = docs := by
  rw [deduped, sortDesc_of_pairwise Chunk.relevance h]
  exact dedupOn_of_nodup hnodup (fun _ hi => absurd hi List.not_mem_nil)

/-- So is a front of a ranking. -/
theorem deduped_of_front {kept : List Chunk} (h : kept <+: deduped docs) : deduped kept = kept :=
  deduped_of_pairwise ((deduped_pairwise docs).sublist h.sublist)
    ((deduped_nodup docs).sublist (h.sublist.filterMap _))

theorem deduped_eq_nil (h : deduped docs = []) : docs = [] := by
  cases hsort : sortDesc Chunk.relevance docs with
  | nil => exact List.Perm.eq_nil (hsort ▸ (sortDesc_perm Chunk.relevance docs).symm)
  | cons first others =>
      rcases dedupOn_cons Chunk.document first others with ⟨seen, hcons⟩
      rw [deduped, hsort, hcons] at h
      cases h

/-- A chunk of the ranking scores as much as any of its document. -/
theorem relevance_le_of_mem_deduped {a b : Chunk} (ha : a ∈ deduped docs) (hb : b ∈ docs)
    (hdoc : b.docId ≠ "") (hsame : b.docId = a.docId) : b.relevance ≤ a.relevance := by
  have hadoc : a.document = some b.docId := hsame ▸ document_eq_some (hsame ▸ hdoc)
  rcases exists_mem_dedupOn (R := fun c d : Chunk => d.relevance ≤ c.relevance)
    (fun _ => le_refl _) (sortDesc_pairwise Chunk.relevance docs)
    ((mem_sortDesc Chunk.relevance).mpr hb) (document_eq_some hdoc)
    (List.not_mem_nil) with ⟨c, hc, hcdoc, hbc⟩
  -- The ranking has one chunk of the document.
  have hca : c = a :=
    eq_of_nodup_filterMap (deduped_nodup docs) hc ha hcdoc hadoc
  exact hca ▸ hbc

end Ranking

section Cutting

variable {config : TruncationConfig} {topScore : ℚ} {ranked : List Chunk}

theorem filtered_front (config : TruncationConfig) (topScore : ℚ)
    (h : ranked.Pairwise (fun a b => b.relevance ≤ a.relevance)) :
    filtered config topScore ranked <+: ranked := by
  have hbound := atLeast_front h config.relevanceThreshold
  have hshare := atLeast_front (h.sublist hbound.sublist) (topScore * config.relativeScoreRatio)
  exact ((cutAtCliff_front _).trans hshare).trans hbound

theorem filtered_mono (config : TruncationConfig) (topScore : ℚ) {kept : List Chunk}
    (h : kept <+: ranked) :
    filtered config topScore kept <+: filtered config topScore ranked :=
  cutAtCliff_mono (atLeast_mono _ (atLeast_mono _ h))

/-- What is strong enough stays so. -/
theorem filtered_filtered :
    filtered config topScore (filtered config topScore ranked) =
      filtered config topScore ranked := by
  have hcut : filtered config topScore ranked <+:
      atLeast Chunk.relevance (topScore * config.relativeScoreRatio)
        (atLeast Chunk.relevance config.relevanceThreshold ranked) :=
    cutAtCliff_front _
  have hshare : ∀ a ∈ filtered config topScore ranked,
      topScore * config.relativeScoreRatio ≤ a.relevance :=
    fun a ha => le_of_mem_atLeast (hcut.subset ha)
  have hbound : ∀ a ∈ filtered config topScore ranked, config.relevanceThreshold ≤ a.relevance :=
    fun a ha => le_of_mem_atLeast ((List.filter_sublist).subset (hcut.subset ha))
  -- Both bounds keep everything, and the cut is not made twice.
  rw [filtered, atLeast_eq_self hbound, atLeast_eq_self hshare]
  exact cutAtCliff_cutAtCliff _

theorem selected_front (config : TruncationConfig) (topScore : ℚ)
    (h : ranked.Pairwise (fun a b => b.relevance ≤ a.relevance)) :
    selected config topScore ranked <+: ranked := by
  rw [selected]
  split
  · exact sliceTo_front _ _
  · exact filtered_front config topScore h

/-- As many are kept as are asked for, or all there are. -/
theorem min_le_length_selected (config : TruncationConfig) (topScore : ℚ) (ranked : List Chunk) :
    min config.minKeep ranked.length ≤ (selected config topScore ranked).length := by
  rw [selected]
  -- Either the few are taken, or there are more of the strong ones.
  split_ifs with hfew
  · rw [length_sliceTo (by omega)]
  · omega

/-- Where nothing reaches the bound, the few that are always kept are taken. -/
theorem selected_of_lt (hmin : 0 < config.minKeep)
    (h : ∀ a ∈ ranked, a.relevance < config.relevanceThreshold) :
    selected config topScore ranked = sliceTo config.minKeep ranked := by
  have hbound : atLeast Chunk.relevance config.relevanceThreshold ranked = [] :=
    List.filter_eq_nil_iff.mpr
      (fun a ha hreach => absurd (h a ha) (not_lt.mpr (by simpa using hreach)))
  have hnone : filtered config topScore ranked = [] := by
    rw [filtered, hbound]
    rfl
  rw [selected, hnone, if_pos (by simpa using hmin)]

/-- Cutting what was kept keeps it. -/
theorem selected_selected :
    selected config topScore (selected config topScore ranked) =
      selected config topScore ranked := by
  by_cases hfew : ((filtered config topScore ranked).length : Int) < config.minKeep
  · -- The few that were taken are too few again, and are taken again.
    have hkept : selected config topScore ranked = sliceTo config.minKeep ranked := if_pos hfew
    have hlength := length_sliceTo (n := config.minKeep) (by omega) ranked
    have hfiltered := (filtered_mono config topScore
      (sliceTo_front config.minKeep ranked)).length_le
    rw [hkept, selected, if_pos (by omega)]
    exact sliceTo_of_length_le (by omega)
  · have hkept : selected config topScore ranked = filtered config topScore ranked := if_neg hfew
    rw [hkept, selected, filtered_filtered, if_neg hfew]

/-- Nothing is kept only where nothing has to be, and the best is too weak by
    itself. -/
theorem selected_eq_nil_iff (config : TruncationConfig) {top : Chunk} {rest : List Chunk}
    (h : (top :: rest).Pairwise (fun a b => b.relevance ≤ a.relevance)) :
    selected config top.relevance (top :: rest) = [] ↔
      config.minKeep < 1 ∧ ¬ (config.relevanceThreshold ≤ top.relevance ∧
        top.relevance * config.relativeScoreRatio ≤ top.relevance) := by
  have hmin := min_le_length_selected config top.relevance (top :: rest)
  rw [List.length_cons] at hmin
  constructor
  · intro hnil
    rw [hnil, List.length_nil] at hmin
    refine ⟨by omega, fun hstands => ?_⟩
    -- The best chunk passes both bounds, and no cut comes before it.
    have hfirst : ∃ more, filtered config top.relevance (top :: rest) = top :: more := by
      rw [filtered, atLeast, atLeast, List.filter_cons_of_pos (by simpa using hstands.1),
        List.filter_cons_of_pos (by simpa using hstands.2)]
      generalize ((rest.filter _).filter _) = others
      cases others with
      | nil => exact ⟨[], rfl⟩
      | cons b others =>
          rw [cutAtCliff]
          split_ifs
          · exact ⟨_, rfl⟩
          · exact ⟨_, rfl⟩
    rcases hfirst with ⟨more, hmore⟩
    rw [selected, hmore, List.length_cons, if_neg (by omega)] at hnil
    cases hnil
  · rintro ⟨hmin, hweak⟩
    -- A front of the list that is not empty begins with the best chunk.
    have hnone : filtered config top.relevance (top :: rest) = [] := by
      by_contra hne
      rcases List.exists_cons_of_ne_nil hne with ⟨a, more, hmore⟩
      have hfront := filtered_front config top.relevance h
      rw [hmore, List.cons_prefix_cons] at hfront
      have hshown : a ∈ filtered config top.relevance (top :: rest) :=
        hmore ▸ List.mem_cons_self
      have hshare := (cutAtCliff_front _).subset hshown
      have hbound := (List.filter_sublist).subset hshare
      rw [hfront.1] at hshare hbound
      exact hweak ⟨le_of_mem_atLeast hbound, le_of_mem_atLeast hshare⟩
    rw [selected, hnone, List.length_nil, if_neg (by omega)]

end Cutting

section Report

/-- What is to be reported of a list. -/
def report (docs : List Chunk) : TruncationMetadata where
  topScore := (docs.head?.map Chunk.relevance).getD 0
  avgScore := avgScore docs
  resultCount := docs.length

/-- A cut does what it has to do: it keeps a front of the ranking by document,
    nothing weaker than what it drops, enough of it, reports what it keeps, and
    keeps and reports the same again. -/
structure Truncates (config : TruncationConfig) (docs : List Chunk) : Prop where
  front : (dynamicTruncation config docs).1 <+: deduped docs
  sorted : (dynamicTruncation config docs).1.Pairwise (fun a b => b.relevance ≤ a.relevance)
  distinct : ((dynamicTruncation config docs).1.filterMap Chunk.document).Nodup
  best : ∀ a ∈ (dynamicTruncation config docs).1, ∀ b ∈ docs, b.docId ≠ "" → b.docId = a.docId →
    b.relevance ≤ a.relevance
  kept_ge : ∀ dropped, deduped docs = (dynamicTruncation config docs).1 ++ dropped →
    ∀ a ∈ (dynamicTruncation config docs).1, ∀ b ∈ dropped, b.relevance ≤ a.relevance
  enough : min config.minKeep (deduped docs).length ≤ (dynamicTruncation config docs).1.length
  reported : (dynamicTruncation config docs).2 = report (dynamicTruncation config docs).1
  again : dynamicTruncation config (dynamicTruncation config docs).1 =
    dynamicTruncation config docs

/-- The best score is not too low by itself, or there is nothing to report of
    it. -/
def TopStands (config : TruncationConfig) (docs : List Chunk) : Prop :=
  ∀ top ∈ docs, (∀ doc ∈ docs, doc.relevance ≤ top.relevance) →
    top.relevance = 0 ∨ config.relevanceThreshold ≤ top.relevance ∧
      top.relevance * config.relativeScoreRatio ≤ top.relevance

variable {config : TruncationConfig} {docs : List Chunk}

theorem dynamicTruncation_of_nil (h : deduped docs = []) :
    dynamicTruncation config docs = ([], report []) := by
  rw [dynamicTruncation, h, report, avgScore]
  rfl

theorem dynamicTruncation_of_cons (config : TruncationConfig) {top : Chunk} {rest : List Chunk}
    (h : deduped docs = top :: rest) :
    dynamicTruncation config docs =
      (selected config top.relevance (top :: rest), {
        topScore := top.relevance
        avgScore := avgScore (selected config top.relevance (top :: rest))
        resultCount := (selected config top.relevance (top :: rest)).length }) := by
  rw [dynamicTruncation, h]

theorem dynamicTruncation_front (config : TruncationConfig) (docs : List Chunk) :
    (dynamicTruncation config docs).1 <+: deduped docs := by
  cases hranked : deduped docs with
  | nil =>
      rw [dynamicTruncation_of_nil hranked]
  | cons top rest =>
      rw [dynamicTruncation_of_cons config hranked]
      exact selected_front config top.relevance (hranked ▸ deduped_pairwise docs)

theorem min_le_length_dynamicTruncation (config : TruncationConfig) (docs : List Chunk) :
    min config.minKeep (deduped docs).length ≤ (dynamicTruncation config docs).1.length := by
  cases hranked : deduped docs with
  | nil => exact min_le_of_right_le (Int.natCast_nonneg _)
  | cons top rest =>
      rw [dynamicTruncation_of_cons config hranked]
      exact min_le_length_selected config top.relevance (top :: rest)

/-- A ranking that does not reach the bound is cut to the few that are always
    kept. -/
theorem length_dynamicTruncation_of_lt (hmin : 0 < config.minKeep)
    (h : ∀ doc ∈ docs, doc.relevance < config.relevanceThreshold) :
    ((dynamicTruncation config docs).1.length : Int) =
      min config.minKeep (deduped docs).length := by
  cases hranked : deduped docs with
  | nil =>
      rw [dynamicTruncation_of_nil hranked, List.length_nil]
      omega
  | cons top rest =>
      have hweak : ∀ a ∈ top :: rest, a.relevance < config.relevanceThreshold :=
        fun a ha => h a (mem_of_mem_deduped (hranked ▸ ha))
      rw [dynamicTruncation_of_cons config hranked, selected_of_lt hmin hweak]
      exact length_sliceTo (le_of_lt hmin) _

/-- The first of the ranking scores as much as any chunk. -/
theorem relevance_le_of_deduped_cons {top : Chunk} {rest : List Chunk}
    (h : deduped docs = top :: rest) {doc : Chunk} (hdoc : doc ∈ docs) :
    doc.relevance ≤ top.relevance := by
  have hsorted := (mem_sortDesc Chunk.relevance).mpr hdoc
  rw [deduped] at h
  cases hsort : sortDesc Chunk.relevance docs with
  | nil =>
      rw [hsort] at hsorted
      cases hsorted
  | cons first others =>
      have hpairs := sortDesc_pairwise Chunk.relevance docs
      rw [hsort, List.pairwise_cons] at hpairs
      rw [hsort] at hsorted h
      -- The first of the sorted list is not dropped.
      have hfirst : first = top := by
        rcases dedupOn_cons Chunk.document first others with ⟨seen, hcons⟩
        exact (List.cons.inj (hcons.symm.trans h)).1
      rcases List.mem_cons.mp hsorted with rfl | hrest
      · exact hfirst ▸ le_refl _
      · exact hfirst ▸ hpairs.1 doc hrest

/-- The report is that of the list that is kept, unless the list is empty and
    the best score is not zero. -/
theorem reported_iff {top : Chunk} {rest : List Chunk} (h : deduped docs = top :: rest) :
    (dynamicTruncation config docs).2 = report (dynamicTruncation config docs).1 ↔
      selected config top.relevance (top :: rest) = [] → top.relevance = 0 := by
  rw [dynamicTruncation_of_cons config h]
  have hfront := selected_front config top.relevance
    (h ▸ deduped_pairwise docs : (top :: rest).Pairwise (fun a b => b.relevance ≤ a.relevance))
  cases hkept : selected config top.relevance (top :: rest) with
  | nil => simp [report]
  | cons a more =>
      rw [hkept, List.cons_prefix_cons] at hfront
      simp [report, hfront.1]

/-- Cutting again keeps the same. -/
theorem dynamicTruncation_again
    (h : (dynamicTruncation config docs).2 = report (dynamicTruncation config docs).1) :
    dynamicTruncation config (dynamicTruncation config docs).1 =
      dynamicTruncation config docs := by
  have hfront := dynamicTruncation_front config docs
  have hself := deduped_of_front hfront
  cases hkept : (dynamicTruncation config docs).1 with
  | nil =>
      rw [hkept] at h
      rw [dynamicTruncation_of_nil (by rfl), ← h, ← hkept]
  | cons a more =>
      cases hranked : deduped docs with
      | nil =>
          rw [hkept, hranked] at hfront
          cases List.prefix_nil.mp hfront
      | cons top rest =>
          rw [hkept] at hself
          rw [hkept, hranked, List.cons_prefix_cons] at hfront
          rcases hfront with ⟨rfl, -⟩
          have hcut := dynamicTruncation_of_cons config hranked
          -- The best score is that of the first chunk both times.
          have hselected : selected config a.relevance (a :: rest) = a :: more := by
            rw [← hkept, hcut]
          have hsame : selected config a.relevance (a :: more) =
              selected config a.relevance (a :: rest) := by
            rw [← hselected, selected_selected]
          rw [dynamicTruncation_of_cons config hself, hcut, hsame]

/-- When the cut does what it has to do. -/
theorem truncates_iff (config : TruncationConfig) (docs : List Chunk) :
    Truncates config docs ↔ 1 ≤ config.minKeep ∨ TopStands config docs := by
  have hfront := dynamicTruncation_front config docs
  have hpairs := deduped_pairwise docs
  -- All but the report holds of every front that is long enough.
  have hrest (hreport : (dynamicTruncation config docs).2 =
      report (dynamicTruncation config docs).1) : Truncates config docs := by
    refine
      { front := hfront
        sorted := hpairs.sublist hfront.sublist
        distinct := (deduped_nodup docs).sublist (hfront.sublist.filterMap _)
        best := fun a ha b hb hdoc hsame =>
          relevance_le_of_mem_deduped (hfront.subset ha) hb hdoc hsame
        kept_ge := fun dropped hdropped a ha b hb => ?_
        enough := ?_
        reported := hreport
        again := dynamicTruncation_again hreport }
    · rw [hdropped, List.pairwise_append] at hpairs
      exact hpairs.2.2 a ha b hb
    · exact min_le_length_dynamicTruncation config docs
  -- Only whether the report is right depends on the configuration.
  cases hranked : deduped docs with
  | nil =>
      -- There is no best score.
      have hnone := deduped_eq_nil hranked
      refine iff_of_true (hrest ?_) (.inr ?_)
      · rw [dynamicTruncation_of_nil hranked]
      · intro top htop
        rw [hnone] at htop
        cases htop
  | cons top rest =>
      have htop : top ∈ docs := mem_of_mem_deduped (hranked ▸ List.mem_cons_self)
      have hmax : ∀ doc ∈ docs, doc.relevance ≤ top.relevance :=
        fun doc hdoc => relevance_le_of_deduped_cons hranked hdoc
      have hstands : TopStands config docs ↔ (top.relevance = 0 ∨
          config.relevanceThreshold ≤ top.relevance ∧
            top.relevance * config.relativeScoreRatio ≤ top.relevance) := by
        refine ⟨fun h => h top htop hmax, fun h other hother hbest => ?_⟩
        -- All that score best score the same.
        rw [le_antisymm (hmax other hother) (hbest top htop)]
        exact h
      have hreported : (dynamicTruncation config docs).2 =
          report (dynamicTruncation config docs).1 ↔
            1 ≤ config.minKeep ∨ TopStands config docs := by
        have hmin : 1 ≤ config.minKeep ↔ ¬ config.minKeep < 1 := not_lt.symm
        rw [reported_iff hranked, selected_eq_nil_iff config (hranked ▸ hpairs), hstands, hmin,
          and_imp, imp_iff_not_or, imp_iff_not_or, not_not]
        exact or_congr_right or_comm
      exact ⟨fun h => hreported.mp h.reported, fun h => hrest (hreported.mpr h)⟩

/-- A chunk that scores a fifth, which is under the default bound. -/
def weakChunk : Chunk where
  objectId := 0
  docId := "d1"
  score := some (1 / 5)

/-- Nothing has to be kept, and a best score is reported of nothing. -/
theorem not_truncates_weak : ¬ Truncates { minKeep := 0 } [weakChunk] := by
  intro h
  have hranked : deduped [weakChunk] = [weakChunk] :=
    deduped_of_pairwise (List.pairwise_singleton _ _) (by decide)
  have hscore : weakChunk.relevance = 1 / 5 := rfl
  -- The chunk does not reach the bound.
  have hnone := (selected_eq_nil_iff { minKeep := 0 }
    (List.pairwise_singleton (fun a b : Chunk => b.relevance ≤ a.relevance) weakChunk)).mpr
      ⟨by norm_num, by norm_num [hscore]⟩
  have hzero := (reported_iff hranked).mp h.reported hnone
  norm_num [hscore] at hzero

end Report

end Retrieval

end AgenticRag

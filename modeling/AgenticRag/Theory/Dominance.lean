import AgenticRag.Theory.Assembling

/-!
# Dominated Evidence

One piece of evidence dominates another if it is at least as good in each of the
three scores the weight is made of, and better in one. The weight then agrees
(`evidenceWeight_le`), as far as doubles tell the two apart: a lead of `10⁻¹⁴` in one
score is never lost (`evidenceWeight_lt`), but a smaller one can be rounded away
(`dominating_source_cut`), and of two pieces of one weight the first in the list comes
first.

With the weight agrees every place that ranks evidence by it. The cut per source, the
fusion and the prompt put a dominated piece before the one that dominates it, or keep
it in its place, only if the two weigh the same and it came first
(`dominating_first`).

This is so as far as the two are compared at all. Sources are cut one by one, and
written one after another, so between two sources the better piece may go. And in the
prompt a line that is too long for what is left of its source's quota is passed over
for a shorter one.

A score of zero is left out, unless both pieces have it: it counts as one half.

## Main definitions

* `InUnit`, `Dominated`, `ZerosShared`, `Clearly`: Scores, and how two pieces compare
  in them.
* `KeepsFirst`: A ranking puts the second piece first, unless they are tied.

## Theorems

* `evidenceWeight_le`, `evidenceWeight_lt`: The weight agrees with the scores.
* `keepsFirst_take_sortDesc`: What is kept of a ranking.
* `dominating_first`: What the three places do with a dominated piece.
-/

namespace AgenticRag

open Py Ordered Filling Binary64

/-- The three scores lie between zero and one. -/
structure InUnit (ev : Evidence) : Prop where
  authority : 0 ≤ ev.authorityScore ∧ ev.authorityScore ≤ 1
  relevance : 0 ≤ ev.relevanceScore ∧ ev.relevanceScore ≤ 1
  freshness : 0 ≤ ev.freshnessScore ∧ ev.freshnessScore ≤ 1

/-- A piece is no better than another in any score, and worse in one. -/
structure Dominated (low high : Evidence) : Prop where
  authority : low.authorityScore ≤ high.authorityScore
  relevance : low.relevanceScore ≤ high.relevanceScore
  freshness : low.freshnessScore ≤ high.freshnessScore
  strict : low.authorityScore < high.authorityScore ∨ low.relevanceScore < high.relevanceScore ∨
    low.freshnessScore < high.freshnessScore

/-- Where a score of the first piece is zero, that of the second is as well. -/
structure ZerosShared (low high : Evidence) : Prop where
  authority : low.authorityScore = 0 → high.authorityScore = 0
  relevance : low.relevanceScore = 0 → high.relevanceScore = 0
  freshness : low.freshnessScore = 0 → high.freshnessScore = 0

/-- The second piece leads in some score by more than rounding takes away. -/
def Clearly (low high : Evidence) : Prop :=
  1 / 10 ^ 14 ≤ high.authorityScore - low.authorityScore ∨
    1 / 10 ^ 14 ≤ high.relevanceScore - low.relevanceScore ∨
    1 / 10 ^ 14 ≤ high.freshnessScore - low.freshnessScore

section Weights

/-- The default for a missing score keeps the distance of the others. -/
theorem scoreOr_sub {x y d : ℚ} (hx : 0 ≤ x) (hle : x ≤ y) (hzero : x = 0 → y = 0) :
    scoreOr (some y) d - scoreOr (some x) d = y - x := by
  unfold scoreOr
  by_cases h : x = 0
  · rw [h, hzero h, sub_self, sub_self]
  · have hpos : 0 < x := lt_of_le_of_ne hx (Ne.symm h)
    have hy : y ≠ 0 := (lt_of_lt_of_le hpos hle).ne'
    simp only [if_neg h, if_neg hy]

theorem scoreOr_le {x y d : ℚ} (hx : 0 ≤ x) (hle : x ≤ y) (hzero : x = 0 → y = 0) :
    scoreOr (some x) d ≤ scoreOr (some y) d := by
  have hsub := scoreOr_sub (d := d) hx hle hzero
  linarith

theorem scoreOr_mem_unit {x : ℚ} (hx : 0 ≤ x ∧ x ≤ 1) :
    0 ≤ scoreOr (some x) (1 / 2) ∧ scoreOr (some x) (1 / 2) ≤ 1 := by
  unfold scoreOr
  by_cases h : x = 0
  · simp only [if_pos h]
    norm_num
  · simp only [if_neg h]
    exact hx

/-- The weight of three scores. -/
def weigh (a r f : ℚ) : ℚ :=
  toDouble
    (toDouble (toDouble (a * toDouble (4 / 10)) + toDouble (r * toDouble (4 / 10))) +
      toDouble (f * toDouble (2 / 10)))

theorem evidenceWeight_eq (ev : Evidence) : evidenceWeight ev =
    weigh (scoreOr (some ev.authorityScore) (1 / 2)) (scoreOr (some ev.relevanceScore) (1 / 2))
      (scoreOr (some ev.freshnessScore) (1 / 2)) :=
  rfl

theorem toDouble_four_tenths : toDouble (4 / 10) = 3602879701896397 / 9007199254740992 := by
  decide +kernel

theorem toDouble_two_tenths : toDouble (2 / 10) = 3602879701896397 / 18014398509481984 := by
  decide +kernel

theorem weigh_mono {a r f a' r' f' : ℚ} (ha : 0 ≤ a) (hr : 0 ≤ r) (hf : 0 ≤ f) (haa : a ≤ a')
    (hrr : r ≤ r') (hff : f ≤ f') : weigh a r f ≤ weigh a' r' f' := by
  have hfour : 0 ≤ toDouble (4 / 10) := toDouble_nonneg (by norm_num)
  have htwo : 0 ≤ toDouble (2 / 10) := toDouble_nonneg (by norm_num)
  have hterm : ∀ {x y c : ℚ}, 0 ≤ c → 0 ≤ x → x ≤ y →
      0 ≤ toDouble (x * c) ∧ toDouble (x * c) ≤ toDouble (y * c) := by
    intro x y c hc hx hxy
    exact ⟨toDouble_nonneg (mul_nonneg hx hc),
      toDouble_mono (mul_nonneg hx hc) (mul_le_mul_of_nonneg_right hxy hc)⟩
  rcases hterm hfour ha haa with ⟨ha, haa⟩
  rcases hterm hfour hr hrr with ⟨hr, hrr⟩
  rcases hterm htwo hf hff with ⟨hf, hff⟩
  refine toDouble_mono (add_nonneg (toDouble_nonneg (add_nonneg ha hr)) hf) ?_
  exact add_le_add (toDouble_mono (add_nonneg ha hr) (add_le_add haa hrr)) hff

/-- Five times a weight is rounded. -/
theorem abs_weigh_sub_le {a r f : ℚ} (ha : 0 ≤ a ∧ a ≤ 1) (hr : 0 ≤ r ∧ r ≤ 1)
    (hf : 0 ≤ f ∧ f ≤ 1) :
    |weigh a r f - (a * toDouble (4 / 10) + r * toDouble (4 / 10) + f * toDouble (2 / 10))| ≤
      5 / 2 ^ 53 := by
  rw [weigh, toDouble_four_tenths, toDouble_two_tenths]
  have hstep : ∀ {x : ℚ}, 0 ≤ x → x < 2 → 0 ≤ toDouble x ∧ |toDouble x - x| ≤ 1 / 2 ^ 53 :=
    fun hx h => ⟨toDouble_nonneg hx, abs_toDouble_sub_le_of_lt_two hx h⟩
  rcases hstep (x := a * (3602879701896397 / 9007199254740992)) (by linarith) (by linarith) with
    ⟨hapos, haerr⟩
  rcases hstep (x := r * (3602879701896397 / 9007199254740992)) (by linarith) (by linarith) with
    ⟨hrpos, hrerr⟩
  rcases hstep (x := f * (3602879701896397 / 18014398509481984)) (by linarith) (by linarith) with
    ⟨hfpos, hferr⟩
  generalize toDouble (a * (3602879701896397 / 9007199254740992)) = wa at *
  generalize toDouble (r * (3602879701896397 / 9007199254740992)) = wr at *
  generalize toDouble (f * (3602879701896397 / 18014398509481984)) = wf at *
  rw [abs_le] at haerr hrerr hferr
  norm_num at haerr hrerr hferr
  rcases hstep (x := wa + wr) (by linarith) (by linarith) with ⟨hspos, hserr⟩
  generalize toDouble (wa + wr) = ws at *
  rw [abs_le] at hserr
  norm_num at hserr
  rcases hstep (x := ws + wf) (by linarith) (by linarith) with ⟨-, herr⟩
  rw [abs_le] at herr ⊢
  norm_num at herr ⊢
  constructor <;> linarith

variable {low high : Evidence}

/-- The weight agrees with the scores. -/
theorem evidenceWeight_le (hlow : InUnit low) (hdom : Dominated low high)
    (hzeros : ZerosShared low high) : evidenceWeight low ≤ evidenceWeight high := by
  rw [evidenceWeight_eq, evidenceWeight_eq]
  refine weigh_mono (scoreOr_mem_unit hlow.authority).1 (scoreOr_mem_unit hlow.relevance).1
    (scoreOr_mem_unit hlow.freshness).1 ?_ ?_ ?_
  · exact scoreOr_le hlow.authority.1 hdom.authority hzeros.authority
  · exact scoreOr_le hlow.relevance.1 hdom.relevance hzeros.relevance
  · exact scoreOr_le hlow.freshness.1 hdom.freshness hzeros.freshness

/-- A clear lead in a score is one in weight. -/
theorem evidenceWeight_lt (hlow : InUnit low) (hhigh : InUnit high) (hdom : Dominated low high)
    (hzeros : ZerosShared low high) (hclear : Clearly low high) :
    evidenceWeight low < evidenceWeight high := by
  have hauthority := scoreOr_sub (d := 1 / 2) hlow.authority.1 hdom.authority hzeros.authority
  have hrelevance := scoreOr_sub (d := 1 / 2) hlow.relevance.1 hdom.relevance hzeros.relevance
  have hfreshness := scoreOr_sub (d := 1 / 2) hlow.freshness.1 hdom.freshness hzeros.freshness
  have hbelow := abs_weigh_sub_le (scoreOr_mem_unit hlow.authority)
    (scoreOr_mem_unit hlow.relevance) (scoreOr_mem_unit hlow.freshness)
  have habove := abs_weigh_sub_le (scoreOr_mem_unit hhigh.authority)
    (scoreOr_mem_unit hhigh.relevance) (scoreOr_mem_unit hhigh.freshness)
  rw [← evidenceWeight_eq, toDouble_four_tenths, toDouble_two_tenths, abs_le] at hbelow habove
  have hdoma := hdom.authority
  have hdomr := hdom.relevance
  have hdomf := hdom.freshness
  norm_num at hbelow habove
  rcases hclear with h | h | h <;> norm_num at h <;> linarith

end Weights

section Sorted

variable {α β : Type*} [LinearOrder β] {key : α → β} {xs : List α} {x y : α}

/-- Where a sorted list has one element before another that is no lighter, the two
    weigh the same and came in this order. -/
theorem tied_of_sortDesc (hle : key x ≤ key y) (h : [x, y].Sublist (sortDesc key xs)) :
    key x = key y ∧ [x, y].Sublist xs := by
  have hpair := List.pairwise_pair.mp ((sortDesc_pairwise key xs).sublist h)
  have heq : key x = key y := le_antisymm hle hpair
  exact ⟨heq, pair_sublist_of_sortDesc key heq h⟩

end Sorted

section Places

/-- Two pieces weigh the same, and the first comes before the second. -/
def TiedBehind (low high : Evidence) (given : List Evidence) : Prop :=
  evidenceWeight low = evidenceWeight high ∧ [low, high].Sublist given

/-- In what is kept of a list, the first piece does not come before the second, nor is
    it kept without it, unless they are tied and it came first. -/
def KeepsFirst (low high : Evidence) (given kept : List Evidence) : Prop :=
  ([low, high].Sublist kept → TiedBehind low high given) ∧
    (high ∈ given → low ∈ kept → high ∈ kept ∨ TiedBehind low high given)

/-- The line of a piece does not fit its source's quota beside lines that are
    written of pieces at least as heavy. -/
def QuotaTaken (rt : Runtime) (counts : TokenCounts) (chosen : List Evidence) (ev : Evidence) :
    Prop :=
  ∃ before : List Evidence, before.Sublist chosen ∧
    (∀ e ∈ before, e.sourceType = ev.sourceType ∧ evidenceWeight ev ≤ evidenceWeight e) ∧
    counts.get ev.sourceType < linesTokens rt before + lineTokens rt ev

variable {low high : Evidence}

theorem TiedBehind.mono {given more : List Evidence} (h : TiedBehind low high given)
    (hsub : given.Sublist more) : TiedBehind low high more :=
  ⟨h.1, h.2.trans hsub⟩

/-- Two pieces of one source are picked out together. -/
theorem pair_sublist_filter (hsource : low.sourceType = high.sourceType) {evidences : List Evidence}
    (h : [low, high].Sublist evidences) :
    [low, high].Sublist (evidences.filter (fun ev => ev.sourceType = high.sourceType)) := by
  have hpair : [low, high].filter (fun ev => ev.sourceType = high.sourceType) = [low, high] := by
    simp [hsource]
  rw [← hpair]
  exact h.filter _

variable (hle : evidenceWeight low ≤ evidenceWeight high)
include hle

/-- The heaviest pieces of a list, in order. -/
theorem keepsFirst_take_sortDesc (evidences : List Evidence) (n : Nat) :
    KeepsFirst low high evidences ((sortDesc evidenceWeight evidences).take n) := by
  refine ⟨fun hsub => tied_of_sortDesc hle (hsub.trans (List.take_sublist n _)), ?_⟩
  intro hhigh hlow
  have hmem := (mem_sortDesc evidenceWeight).mpr hhigh
  rw [← List.take_append_drop n (sortDesc evidenceWeight evidences), List.mem_append] at hmem
  rcases hmem with hkept | hdropped
  · exact .inl hkept
  · -- What is dropped comes behind what is kept.
    have hsub : [low, high].Sublist (sortDesc evidenceWeight evidences) := by
      rw [← List.take_append_drop n (sortDesc evidenceWeight evidences)]
      exact (List.singleton_sublist.mpr hlow).append (List.singleton_sublist.mpr hdropped)
    exact .inr (tied_of_sortDesc hle hsub)

theorem keepsFirst_applySourceQuota (hsource : low.sourceType = high.sourceType)
    (evidences : List Evidence) (quota : SourceQuota) :
    KeepsFirst low high evidences (applySourceQuota evidences quota) := by
  have hfilter := applySourceQuota_filter evidences quota high.sourceType
  have hkept := keepsFirst_take_sortDesc hle
    (evidences.filter (fun ev => ev.sourceType = high.sourceType)) (quota.limit high.sourceType)
  rw [← sourceGroup, ← hfilter] at hkept
  constructor
  · exact fun hsub => (hkept.1 (pair_sublist_filter hsource hsub)).mono List.filter_sublist
  · intro hhigh hlow
    rcases hkept.2 (List.mem_filter.mpr ⟨hhigh, decide_eq_true rfl⟩)
      (List.mem_filter.mpr ⟨hlow, decide_eq_true hsource⟩) with hmem | htied
    · exact .inl (List.mem_filter.mp hmem).1
    · exact .inr (htied.mono List.filter_sublist)

variable {rt : Runtime} {limit lockedTokens : Int} {counts : TokenCounts}
  {evidences : List Evidence} {a a' : Assembly} {written left : SourceType → List Evidence}

/-- Among the lines of a source the dominating piece comes first. -/
theorem tiedBehind_of_run (hsource : low.sourceType = high.sourceType)
    (run : SourcesRun rt limit lockedTokens counts evidences sourceOrder a a' written left)
    (hsub : [low, high].Sublist (sourceOrder.flatMap written)) :
    TiedBehind low high evidences := by
  have hst := (run.mem_written (hsub.subset (List.mem_cons_of_mem _ List.mem_cons_self))).1
  have hpair := pair_sublist_filter hsource hsub
  rw [filter_flatMap_source nodup_sourceOrder run.sourceType_of_written, if_pos hst] at hpair
  -- What is written of the source is in order.
  have htied : TiedBehind low high (evidences.filter (fun ev => ev.sourceType = high.sourceType)) :=
    tied_of_sortDesc hle (hpair.trans (run.fills _ hst).sublist)
  exact htied.mono List.filter_sublist

/-- Where a dominated piece has a line, the other has one too, unless its line is too
    long for what is left of the quota, or the two are tied. -/
theorem mem_or_quotaTaken_of_run (hsource : low.sourceType = high.sourceType)
    (run : SourcesRun rt limit lockedTokens counts evidences sourceOrder a a' written left)
    (hhigh : high ∈ evidences) (hlow : low ∈ sourceOrder.flatMap written) :
    high ∈ sourceOrder.flatMap written ∨
      QuotaTaken rt counts (sourceOrder.flatMap written) high ∨
      TiedBehind low high evidences := by
  have hmem := run.mem_written hlow
  rw [hsource] at hmem
  have hsorted := sortDesc_pairwise evidenceWeight
    (evidences.filter (fun ev => ev.sourceType = high.sourceType))
  have hsubset : (written high.sourceType).Sublist (sourceOrder.flatMap written) :=
    List.sublist_flatten_of_mem (List.mem_map_of_mem hmem.1)
  by_cases htied : [low, high].Sublist (sourceGroup evidences high.sourceType)
  · have htied : TiedBehind low high
        (evidences.filter (fun ev => ev.sourceType = high.sourceType)) :=
      tied_of_sortDesc hle htied
    exact .inr (.inr (htied.mono List.filter_sublist))
  rcases (run.fills _ hmem.1).mem_or_full hsorted (mem_sourceGroup.mpr ⟨hhigh, rfl⟩) hmem.2
    htied with hin | ⟨before, after, hsplit, hbefore, hfull⟩
  · exact .inl (hsubset.subset hin)
  · have hsub : before.Sublist (written high.sourceType) := by
      rw [hsplit]
      exact List.sublist_append_left _ _
    refine .inr (.inl ⟨before, hsub.trans hsubset, fun e he => ⟨?_, hbefore e he⟩, ?_⟩)
    · exact run.sourceType_of_written _ hmem.1 e (hsub.subset he)
    · rw [Nat.zero_add] at hfull
      exact hfull

/-- In the prompt the dominating piece comes first as well, unless its line is too
    long for what is left of the quota. -/
theorem keepsFirst_assembly (hsource : low.sourceType = high.sourceType) (rt : Runtime)
    (sch : TokenBudgetScheduler) (evidences : List Evidence) (counts : TokenCounts)
    (lockedTokens : Int) :
    ([low, high].Sublist ((sch.assembly rt evidences counts lockedTokens).parts.map Prod.fst) →
        TiedBehind low high evidences) ∧
      (high ∈ evidences →
        low ∈ (sch.assembly rt evidences counts lockedTokens).parts.map Prod.fst →
        high ∈ (sch.assembly rt evidences counts lockedTokens).parts.map Prod.fst ∨
          QuotaTaken rt counts
            ((sch.assembly rt evidences counts lockedTokens).parts.map Prod.fst) high ∨
          TiedBehind low high evidences) := by
  rcases assembly_run rt sch evidences counts lockedTokens with ⟨written, left, run⟩
  rw [run.map_parts]
  exact ⟨tiedBehind_of_run hle hsource run, mem_or_quotaTaken_of_run hle hsource run⟩

end Places

/-- A dominated piece is no heavier, and lighter where the other clearly leads. Where the
    two are compared it comes second, or they are tied and it came first: in the cut of
    their source, in the fused evidence, as far as repeated ids have left them there, in
    compact mode, and among the lines of their source, where the other may be left out for
    the quota. -/
theorem dominating_first (low high : Evidence) (hlow : InUnit low) (hhigh : InUnit high)
    (hdom : Dominated low high) (hzeros : ZerosShared low high) :
    evidenceWeight low ≤ evidenceWeight high ∧
      (Clearly low high → evidenceWeight low < evidenceWeight high) ∧
      (low.sourceType = high.sourceType → ∀ evidences quota,
        KeepsFirst low high evidences (applySourceQuota evidences quota)) ∧
      (∀ evidences maxCount tokenBudget, KeepsFirst low high (dedupById [] evidences)
        (fuseEvidences evidences maxCount tokenBudget).fused) ∧
      (∀ evidences, KeepsFirst low high evidences (compactChosen evidences)) ∧
      (low.sourceType = high.sourceType → ∀ (rt : Runtime) (sch : TokenBudgetScheduler) evidences
        counts lockedTokens,
        ([low, high].Sublist
            ((sch.assembly rt evidences counts lockedTokens).parts.map Prod.fst) →
          TiedBehind low high evidences) ∧
          (high ∈ evidences →
            low ∈ (sch.assembly rt evidences counts lockedTokens).parts.map Prod.fst →
            high ∈ (sch.assembly rt evidences counts lockedTokens).parts.map Prod.fst ∨
              QuotaTaken rt counts
                ((sch.assembly rt evidences counts lockedTokens).parts.map Prod.fst) high ∨
              TiedBehind low high evidences)) := by
  have hle := evidenceWeight_le hlow hdom hzeros
  refine ⟨hle, evidenceWeight_lt hlow hhigh hdom hzeros,
    fun hsource => keepsFirst_applySourceQuota hle hsource, ?_, ?_,
    fun hsource => keepsFirst_assembly hle hsource⟩
  · intro evidences maxCount tokenBudget
    exact keepsFirst_take_sortDesc hle (dedupById [] evidences) maxCount
  · intro evidences
    exact keepsFirst_take_sortDesc hle evidences 3

/-- A piece with the same value for each score. -/
def scoredPiece (st : SourceType) (id content : String) (score : ℚ) : Evidence :=
  { evidenceId := id
    sourceType := st
    content := content
    authorityScore := score
    relevanceScore := score
    freshnessScore := score }

theorem inUnit_scoredPiece (st : SourceType) (id content : String) {score : ℚ} (h : 0 ≤ score)
    (h' : score ≤ 1) : InUnit (scoredPiece st id content score) :=
  ⟨⟨h, h'⟩, ⟨h, h'⟩, ⟨h, h'⟩⟩

theorem dominated_scoredPiece (st st' : SourceType) (id id' content content' : String)
    {score score' : ℚ} (h : score < score') :
    Dominated (scoredPiece st id content score) (scoredPiece st' id' content' score') :=
  ⟨h.le, h.le, h.le, .inl h⟩

theorem dominating_first_rag :
    evidenceWeight (scoredPiece .rag "a" "甲" (1 / 4)) <
      evidenceWeight (scoredPiece .rag "b" "乙" (3 / 4)) :=
  (dominating_first (scoredPiece .rag "a" "甲" (1 / 4)) (scoredPiece .rag "b" "乙" (3 / 4))
    (inUnit_scoredPiece .rag "a" "甲" (by decide +kernel) (by decide +kernel))
    (inUnit_scoredPiece .rag "b" "乙" (by decide +kernel) (by decide +kernel))
    (dominated_scoredPiece .rag .rag "a" "b" "甲" "乙" (by decide +kernel))
    ⟨fun h => absurd h (by decide +kernel), fun h => absurd h (by decide +kernel),
      fun h => absurd h (by decide +kernel)⟩).2.1 (.inl (by decide +kernel))

/-- A piece of some authority that is up to date, with one or another relevance. -/
def recentPiece (id : String) (relevance : ℚ) : Evidence :=
  { evidenceId := id
    sourceType := .rag
    content := id
    authorityScore := toDouble (8 / 10)
    relevanceScore := relevance
    freshnessScore := 1 }

theorem dominated_recentPiece (id id' : String) {relevance relevance' : ℚ}
    (h : relevance < relevance') :
    Dominated (recentPiece id relevance) (recentPiece id' relevance') :=
  ⟨le_refl _, h.le, le_refl _, .inr (.inl h)⟩

/-- The better of two pieces goes where its source has another that is better
    still, and where its line is too long for the quota, and a lead in the last digit of
    a score is none in weight. -/
theorem dominating_source_cut :
    (InUnit (scoredPiece .web "c" "丙" (1 / 4)) ∧ InUnit (scoredPiece .rag "b" "乙" (1 / 2)) ∧
      Dominated (scoredPiece .web "c" "丙" (1 / 4)) (scoredPiece .rag "b" "乙" (1 / 2)) ∧
      (applySourceQuota [scoredPiece .rag "a" "甲" (3 / 4), scoredPiece .rag "b" "乙" (1 / 2),
        scoredPiece .web "c" "丙" (1 / 4)] [(.rag, 1), (.web, 1)]).map Evidence.evidenceId =
          ["a", "c"]) ∧
    (InUnit (scoredPiece .rag "d" "丁" (1 / 4)) ∧
      InUnit (scoredPiece .rag "e" "一行比配额更长的内容" (1 / 2)) ∧
      Dominated (scoredPiece .rag "d" "丁" (1 / 4))
        (scoredPiece .rag "e" "一行比配额更长的内容" (1 / 2)) ∧
      (TokenBudgetScheduler.assembly default ⟨110000⟩
        [scoredPiece .rag "e" "一行比配额更长的内容" (1 / 2), scoredPiece .rag "d" "丁" (1 / 4)]
        [(.rag, 15)] 0).parts.map (fun p => p.1.evidenceId) = ["d"]) ∧
    (Dominated (recentPiece "f" (toDouble (3 / 10)))
        (recentPiece "g" (toDouble (toDouble (1 / 10) + toDouble (2 / 10)))) ∧
      evidenceWeight (recentPiece "f" (toDouble (3 / 10))) =
        evidenceWeight (recentPiece "g" (toDouble (toDouble (1 / 10) + toDouble (2 / 10)))) ∧
      (compactChosen [recentPiece "f" (toDouble (3 / 10)),
        recentPiece "g" (toDouble (toDouble (1 / 10) + toDouble (2 / 10)))]).map
          Evidence.evidenceId = ["f", "g"]) :=
  ⟨⟨inUnit_scoredPiece .web "c" "丙" (by decide +kernel) (by decide +kernel),
      inUnit_scoredPiece .rag "b" "乙" (by decide +kernel) (by decide +kernel),
      dominated_scoredPiece .web .rag "c" "b" "丙" "乙" (by decide +kernel), by decide +kernel⟩,
    ⟨inUnit_scoredPiece .rag "d" "丁" (by decide +kernel) (by decide +kernel),
      inUnit_scoredPiece .rag "e" "一行比配额更长的内容" (by decide +kernel) (by decide +kernel),
      dominated_scoredPiece .rag .rag "d" "e" "丁" "一行比配额更长的内容" (by decide +kernel),
      by decide +kernel⟩,
    dominated_recentPiece "f" "g" (by decide +kernel), by decide +kernel⟩

end AgenticRag

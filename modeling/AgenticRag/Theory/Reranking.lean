import AgenticRag.Theory.SkillRouting

/-!
# A Ranking to Decide On

A language model puts the hits of a question in an order, with a score for each.
Its answer is read leniently: an id that was not asked about is dropped, a score
is held between zero and one, and an answer that cannot be decoded gives way to
the order of the recall.

Some answers still come through that should not. One that is no mapping, or
whose parts have the wrong kind, raises an exception (`array_answer_raises`). An
id may come twice. The scores of the recall, which stand in for those of the
model, are not held between zero and one. `ranksWell_iff` says which answers and
which hits give a ranking as it is meant to be.

The decision on a ranking looks at its first two entries. Nothing puts the
entries in order before that, so an entry further down may have the highest
score (`unordered`). `selectsMerited_iff` says when the card that is selected
deserves it: when each later entry is as far below the first as the second is.

## Main definitions

* `WellRanked`: Distinct hits, with scores between zero and one.
* `LaterBelow`: The entries that are not looked at are far below.

## Theorems

* `exists_parseCandidates_iff`: When the items of an answer can be read.
* `decide_select_iff`: When a card is selected.
* `rerank_decide_iff`: Both conditions.
-/

namespace AgenticRag

namespace Skills

open Py Ordered Structured

section Reading

variable (dec : Decoder)

/-- The id an item names, if it is among those asked about. -/
def namedId (validIds : List String) : Val → Option String
  | .dict item =>
      match pyGet item "skill_id" (.str "") with
      | .str skillId => if validIds.contains skillId then some skillId else none
      | _ => none
  | _ => none

/-- An item can be read. Its id can be looked up, and the score of an id that was
    asked about is no integer that is too large for a float. -/
def Reads (validIds : List String) : Val → Prop
  | .dict item =>
      match pyGet item "skill_id" (.str "") with
      | .str skillId =>
          skillId ∈ validIds → ∀ i, pyGet item "score" (.int 0) = .int i → i.natAbs < floatBound
      | .list _ => False
      | .dict _ => False
      | _ => True
  | _ => True

theorem exists_readScore_iff (v : Val) :
    (∃ score, readScore dec v = .ok score) ↔ ∀ i, v = .int i → i.natAbs < floatBound := by
  constructor
  · rintro ⟨score, hscore⟩ i rfl
    by_contra hlarge
    rw [readScore, if_pos (not_lt.mp hlarge)] at hscore
    cases hscore
  · intro hsmall
    unfold readScore
    split
    · exact ⟨_, rfl⟩
    next i => exact ⟨_, if_neg (not_le.mpr (hsmall i rfl))⟩
    all_goals exact ⟨_, rfl⟩

theorem readScore_nonneg {v : Val} {score : ℚ} (h : readScore dec v = .ok score) : 0 ≤ score := by
  unfold readScore at h
  split at h
  · cases h
    split_ifs
    · exact zero_le_one
    · exact le_refl 0
  · split_ifs at h
    cases h
    exact le_max_left 0 _
  · cases h
    exact le_max_left 0 _
  · cases h
    exact le_max_left 0 _
  · cases h
    exact zero_le_one
  · cases h
    exact zero_le_one
  · cases h
    exact le_refl 0

/-- An item is read exactly when it can be. -/
theorem exists_parseCandidate_iff (validIds : List String) (item : Val) :
    (∃ c, parseCandidate dec validIds item = .ok c) ↔ Reads validIds item := by
  cases item with
  | dict item =>
      simp only [parseCandidate, Reads]
      cases hid : pyGet item "skill_id" (.str "") with
      | str skillId =>
          by_cases hvalid : skillId ∈ validIds
          · simp only [if_pos (List.contains_iff_mem.mpr hvalid), hvalid, true_implies]
            rw [← exists_readScore_iff dec]
            constructor
            · rintro ⟨c, hc⟩
              rcases exists_of_bind_ok hc with ⟨score, hscore, -⟩
              exact ⟨score, hscore⟩
            · rintro ⟨score, hscore⟩
              rw [hscore]
              exact ⟨_, rfl⟩
          · simp only [if_neg (mt List.contains_iff_mem.mp hvalid)]
            exact iff_of_true ⟨none, rfl⟩ fun h => absurd h hvalid
      | _ => simp
  | _ => simp [parseCandidate, Reads]

/-- What is read of an item has the id it names. -/
theorem parseCandidate_id {validIds : List String} {item : Val} {c : Option RankedCandidate}
    (h : parseCandidate dec validIds item = .ok c) :
    c.map (·.skillId) = namedId validIds item := by
  cases item with
  | dict item =>
      simp only [parseCandidate, namedId] at h ⊢
      cases hid : pyGet item "skill_id" (.str "") with
      | str skillId =>
          simp only [hid] at h
          split_ifs at h with hvalid
          · rcases exists_of_bind_ok h with ⟨score, -, h⟩
            cases h
            exact (if_pos hvalid).symm
          · cases h
            exact (if_neg hvalid).symm
      | _ =>
          rw [hid] at h
          cases h <;> rfl
  | _ =>
      cases h
      rfl

theorem parseCandidate_nonneg {validIds : List String} {item : Val} {c : RankedCandidate}
    (h : parseCandidate dec validIds item = .ok (some c)) : 0 ≤ c.score := by
  unfold parseCandidate at h
  split at h
  · split at h
    · split_ifs at h
      · rcases exists_of_bind_ok h with ⟨score, hscore, h⟩
        cases h
        exact readScore_nonneg dec hscore
      · cases h
    · cases h
    · cases h
    · cases h
  · cases h

/-- The items of an answer are read exactly when each of them can be. -/
theorem exists_parseCandidates_iff (validIds : List String) (items : List Val) :
    (∃ ranked, parseCandidates dec validIds items = .ok ranked) ↔
      ∀ item ∈ items, Reads validIds item := by
  induction items with
  | nil => exact iff_of_true ⟨[], rfl⟩ (List.forall_mem_nil _)
  | cons item items ih =>
      rw [List.forall_mem_cons, ← ih, ← exists_parseCandidate_iff dec]
      constructor
      · rintro ⟨ranked, h⟩
        rcases exists_of_bind_ok h with ⟨c, hc, h⟩
        rcases exists_of_bind_ok h with ⟨rest, hrest, -⟩
        exact ⟨⟨c, hc⟩, rest, hrest⟩
      · rintro ⟨⟨c, hc⟩, rest, hrest⟩
        rw [parseCandidates, hc, hrest]
        exact ⟨_, rfl⟩

theorem parseCandidates_ids {validIds : List String} {items : List Val}
    {ranked : List RankedCandidate} (h : parseCandidates dec validIds items = .ok ranked) :
    ranked.map (·.skillId) = items.filterMap (namedId validIds) := by
  induction items generalizing ranked with
  | nil =>
      cases h
      rfl
  | cons item items ih =>
      rcases exists_of_bind_ok h with ⟨c, hc, h⟩
      rcases exists_of_bind_ok h with ⟨rest, hrest, h⟩
      cases h
      rw [List.map_append, ih hrest, List.filterMap_cons, ← parseCandidate_id dec hc]
      cases c <;> rfl

theorem parseCandidates_nonneg {validIds : List String} {items : List Val}
    {ranked : List RankedCandidate} (h : parseCandidates dec validIds items = .ok ranked) :
    ∀ c ∈ ranked, 0 ≤ c.score := by
  induction items generalizing ranked with
  | nil =>
      cases h
      exact List.forall_mem_nil _
  | cons item items ih =>
      rcases exists_of_bind_ok h with ⟨c, hc, h⟩
      rcases exists_of_bind_ok h with ⟨rest, hrest, h⟩
      cases h
      intro d hd
      rcases List.mem_append.mp hd with hd | hd
      · rw [Option.mem_toList] at hd
        exact parseCandidate_nonneg dec (hd ▸ hc)
      · exact ih hrest d hd

end Reading

section Ranking

variable (dec : Decoder) (rr : SkillReranker)

/-- A ranking as it is meant to be: no id comes twice, each is that of a hit, and
    the scores lie between zero and one. -/
structure WellRanked (hits : List ScoredCard) (rank : SkillRankDecision) : Prop where
  nodup : (rank.candidates.map (·.skillId)).Nodup
  known : ∀ c ∈ rank.candidates, ∃ hit ∈ hits, hit.card.skillId = c.skillId
  unit : ∀ c ∈ rank.candidates, 0 ≤ c.score ∧ c.score ≤ 1

/-- The answer leads to such a ranking, without an exception. -/
def RanksWell (reply : Option String) (candidates : List ScoredCard) : Prop :=
  ∃ rank, rr.rerank dec reply candidates = .ok rank ∧ WellRanked candidates rank

/-- The five hits with the highest scores have distinct ids, and scores between
    zero and one. -/
structure BestSound (hits : List ScoredCard) : Prop where
  nodup : (((sortDesc (·.score) hits).take 5).map (·.card.skillId)).Nodup
  unit : ∀ hit ∈ (sortDesc (·.score) hits).take 5, 0 ≤ hit.score ∧ hit.score ≤ 1

/-- A value that can be gone through, and gives texts. -/
def GivesTexts (v : Val) : Prop :=
  ∃ xs, pyIter v = .ok xs ∧ ∀ x ∈ xs, ∃ s, x = .str s

/-- What else an answer has to be, by the ids it names. If it names none, the
    order of the recall takes its place. -/
def SoundNames (hits : List ScoredCard) (data : Dict) (names : List String) : Prop :=
  if names = [] then BestSound hits
  else
    (names.take rr.outputTopK).Nodup ∧ GivesTexts (pyGet data "missing_context" (.list [])) ∧
      (pyGet data "ambiguity_reason" .none = .none ∨
        ∃ s, pyGet data "ambiguity_reason" .none = .str s)

/-- An answer whose parts have the kind they should have. -/
def SoundAnswer (hits : List ScoredCard) (v : Val) : Prop :=
  ∃ data items, v = .dict data ∧ pyIter (pyGet data "candidates" (.list [])) = .ok items ∧
    (∀ item ∈ items, Reads (hits.map (·.card.skillId)) item) ∧
    SoundNames rr hits data (items.filterMap (namedId (hits.map (·.card.skillId))))

/-- What comes back from the model leads to a ranking as it is meant to be. A text
    that the decoder gives up on, for its nesting or for its digits, does not. -/
def SoundReply (reply : Option String) (hits : List ScoredCard) : Prop :=
  match reply with
  | none => BestSound hits
  | some text =>
      match Json.loads dec.readFloat dec.decodeDepth text with
      | .error .decode => BestSound hits
      | .error _ => False
      | .ok v => SoundAnswer rr hits v

variable {hits candidates : List ScoredCard}

theorem wellRanked_fallback_iff (hsub : ∀ hit ∈ hits, hit ∈ candidates) :
    WellRanked candidates (fallbackToRecallScores hits) ↔ BestSound hits := by
  have hids : (fallbackToRecallScores hits).candidates.map (·.skillId) =
      ((sortDesc (·.score) hits).take 5).map (·.card.skillId) := by
    rw [fallbackToRecallScores, List.map_map]
    rfl
  have hunit : (∀ c ∈ (fallbackToRecallScores hits).candidates, 0 ≤ c.score ∧ c.score ≤ 1) ↔
      ∀ hit ∈ (sortDesc (·.score) hits).take 5, 0 ≤ hit.score ∧ hit.score ≤ 1 :=
    List.forall_mem_map
  constructor
  · intro h
    exact ⟨hids ▸ h.nodup, hunit.mp h.unit⟩
  · intro h
    refine ⟨hids ▸ h.nodup, fun c hc => ?_, hunit.mpr h.unit⟩
    rcases List.mem_map.mp hc with ⟨hit, hhit, rfl⟩
    exact ⟨hit, hsub hit ((mem_sortDesc _).mp (List.mem_of_mem_take hhit)), rfl⟩

theorem exists_textsOf_iff (v : Val) : (∃ texts, textsOf v = .ok texts) ↔ GivesTexts v := by
  have htext : ∀ x, (∃ s, textOf x = .ok s) ↔ ∃ s, x = .str s := by
    intro x
    cases x <;> simp [textOf]
  constructor
  · rintro ⟨texts, h⟩
    rcases exists_of_bind_ok h with ⟨xs, hxs, h⟩
    exact ⟨xs, hxs, fun x hx => (htext x).mp (exists_mapM_ok_iff.mp ⟨texts, h⟩ x hx)⟩
  · rintro ⟨xs, hxs, htexts⟩
    rcases exists_mapM_ok_iff.mpr fun x hx => (htext x).mpr (htexts x hx) with ⟨texts, h⟩
    refine ⟨texts, ?_⟩
    rw [textsOf, hxs]
    exact h

theorem exists_ambiguityOf_iff (v : Val) :
    (∃ reason, ambiguityOf v = .ok reason) ↔ v = .none ∨ ∃ s, v = .str s := by
  cases v <;> simp [ambiguityOf]

/-- What is read of an answer is a ranking as it is meant to be exactly if it has
    no id twice. The rest of it is so by itself. -/
theorem wellRanked_read_iff {items : List Val} {ranked : List RankedCandidate}
    {rank : SkillRankDecision} (hsub : ∀ hit ∈ hits, hit ∈ candidates)
    (hranked : parseCandidates dec (hits.map (·.card.skillId)) items = .ok ranked)
    (hrank : rank.candidates = ranked.take rr.outputTopK) :
    WellRanked candidates rank ↔
      ((items.filterMap (namedId (hits.map (·.card.skillId)))).take rr.outputTopK).Nodup := by
  rw [← parseCandidates_ids dec hranked, ← List.map_take, ← hrank]
  refine ⟨WellRanked.nodup, fun hnodup => ⟨hnodup, fun c hc => ?_, fun c hc => ?_⟩⟩
  · rw [hrank] at hc
    have hmem := (parseCandidates_spec dec hranked c (List.mem_of_mem_take hc)).1
    rcases List.mem_map.mp hmem with ⟨hit, hhit, hid⟩
    exact ⟨hit, hsub hit hhit, hid⟩
  · rw [hrank] at hc
    have hmem := List.mem_of_mem_take hc
    exact ⟨parseCandidates_nonneg dec hranked c hmem,
      (parseCandidates_spec dec hranked c hmem).2⟩

/-- No candidate is read exactly if no item names one. -/
theorem names_eq_nil_iff {validIds : List String} {items : List Val}
    {ranked : List RankedCandidate} (hranked : parseCandidates dec validIds items = .ok ranked) :
    items.filterMap (namedId validIds) = [] ↔ ranked.isEmpty = true := by
  rw [← parseCandidates_ids dec hranked, List.map_eq_nil_iff, List.isEmpty_iff]

/-- A value that was decoded leads to a ranking as it is meant to be exactly if its
    parts have the kind they should have. -/
theorem parseOutput_sound_iff {text : String} {v : Val} (hsub : ∀ hit ∈ hits, hit ∈ candidates)
    (hv : Json.loads dec.readFloat dec.decodeDepth text = .ok v) :
    (∃ rank, rr.parseOutput dec text hits = .ok rank ∧ WellRanked candidates rank) ↔
      SoundAnswer rr hits v := by
  unfold SkillReranker.parseOutput
  rw [hv]
  constructor
  · rintro ⟨rank, hrank, hwell⟩
    rcases exists_of_bind_ok hrank with ⟨data, hdata, hrank⟩
    rcases exists_of_bind_ok hrank with ⟨items, hitems, hrank⟩
    rcases exists_of_bind_ok hrank with ⟨ranked, hranked, hrank⟩
    have hnil := names_eq_nil_iff dec hranked
    refine ⟨data, items, eq_dict_of_asMapping hdata, hitems,
      (exists_parseCandidates_iff dec _ items).mp ⟨ranked, hranked⟩, ?_⟩
    unfold SoundNames
    split_ifs at hrank with hempty
    · cases hrank
      rw [if_pos (hnil.mpr hempty)]
      exact (wellRanked_fallback_iff hsub).mp hwell
    · rcases exists_of_bind_ok hrank with ⟨missing, hmissing, hrank⟩
      rcases exists_of_bind_ok hrank with ⟨ambiguity, hambiguity, hrank⟩
      cases hrank
      rw [if_neg (mt hnil.mp hempty)]
      exact ⟨(wellRanked_read_iff dec rr hsub hranked rfl).mp hwell,
        (exists_textsOf_iff _).mp ⟨missing, hmissing⟩,
        (exists_ambiguityOf_iff _).mp ⟨ambiguity, hambiguity⟩⟩
  · rintro ⟨data, items, rfl, hitems, hreads, hnames⟩
    rcases (exists_parseCandidates_iff dec _ items).mpr hreads with ⟨ranked, hranked⟩
    have hnil := names_eq_nil_iff dec hranked
    simp only [asMapping, bind, Except.bind, hitems, hranked]
    unfold SoundNames at hnames
    by_cases hempty : ranked.isEmpty = true
    · rw [if_pos (hnil.mpr hempty)] at hnames
      rw [if_pos hempty]
      exact ⟨_, rfl, (wellRanked_fallback_iff hsub).mpr hnames⟩
    · rw [if_neg (mt hnil.mp hempty)] at hnames
      rcases hnames with ⟨hnodup, hmissing, hambiguity⟩
      rcases (exists_textsOf_iff _).mpr hmissing with ⟨missing, hmissing⟩
      rcases (exists_ambiguityOf_iff _).mpr hambiguity with ⟨ambiguity, hambiguity⟩
      rw [if_neg hempty, hmissing, hambiguity]
      exact ⟨_, rfl, (wellRanked_read_iff dec rr hsub hranked rfl).mpr hnodup⟩

/-- The answer leads to a ranking as it is meant to be exactly if it is sound. -/
theorem ranksWell_iff (reply : Option String) (candidates : List ScoredCard) :
    RanksWell dec rr reply candidates ↔
      SoundReply dec rr reply (candidates.take rr.maxCandidates) := by
  have hsub : ∀ hit ∈ candidates.take rr.maxCandidates, hit ∈ candidates :=
    fun _ => List.mem_of_mem_take
  have hfallback := wellRanked_fallback_iff hsub
  cases reply with
  | none =>
      constructor
      · rintro ⟨rank, hrank, hwell⟩
        cases hrank
        exact hfallback.mp hwell
      · intro hbest
        exact ⟨_, rfl, hfallback.mpr hbest⟩
  | some text =>
      simp only [RanksWell, SkillReranker.rerank, SoundReply]
      cases hv : Json.loads dec.readFloat dec.decodeDepth text with
      | ok v => exact parseOutput_sound_iff dec rr hsub hv
      | error e =>
          unfold SkillReranker.parseOutput
          rw [hv]
          cases e with
          | decode =>
              constructor
              · rintro ⟨rank, hrank, hwell⟩
                cases hrank
                exact hfallback.mp hwell
              · intro hbest
                exact ⟨_, rfl, hfallback.mpr hbest⟩
          | _ => simp

end Ranking

section Merit

variable (t : DecisionThresholds) (rank : SkillRankDecision) (byId : List (String × SkillCard))

/-- The checks of a decision, which see the first two entries. -/
structure Checked (top1 : RankedCandidate) (rest : List RankedCandidate) : Prop where
  skill : t.noSkillConfidence ≤ top1.score
  critical : criticalLow t (byId.lookup top1.skillId) top1.score = false
  absolute : t.absoluteThreshold ≤ top1.score
  clear : Clear t top1.score (rest.map (·.score))
  plain : rank.ambiguityReason.filter (· ≠ "") = none
  single : ¬ (rank.multiIntent ∧ rest ≠ [])

/-- What is selected deserves it: its score is the highest, high enough for its
    card, and as far as the margin above every other. -/
def Merited (skillId : String) : Prop :=
  ∃ top1 rest, rank.candidates = top1 :: rest ∧ top1.skillId = skillId ∧
    (∀ other ∈ rest, other.score ≤ top1.score) ∧ t.absoluteThreshold ≤ top1.score ∧
    (∀ card, byId.lookup skillId = some card → card.riskLevel = .critical →
      t.criticalAbsoluteThreshold ≤ top1.score) ∧
    ∀ other ∈ rest, t.marginThreshold ≤ top1.score - other.score

/-- Whatever the decision selects deserves it. -/
def SelectsMerited : Prop :=
  ∀ skillId card reason, t.decide rank byId = .select skillId card reason →
    Merited t rank byId skillId

/-- When the checks are passed, the entries after the second are as far below the
    first as well. If the margin is negative, none is above the first either. -/
def LaterBelow : Prop :=
  ∀ top1 rest, rank.candidates = top1 :: rest → Checked t rank byId top1 rest →
    (∀ other ∈ rest.tail, t.marginThreshold ≤ top1.score - other.score) ∧
      (t.marginThreshold < 0 → ∀ other ∈ rest, other.score ≤ top1.score)

variable {t rank byId}

/-- A card is selected exactly when the checks are passed. -/
theorem decide_select_iff {skillId : String} {card : Option SkillCard}
    {reason : DecisionReason} :
    t.decide rank byId = .select skillId card reason ↔
      ∃ top1 rest, rank.candidates = top1 :: rest ∧ Checked t rank byId top1 rest ∧
        skillId = top1.skillId ∧ card = byId.lookup top1.skillId ∧
        reason = .selected top1.score := by
  rw [DecisionThresholds.decide]
  constructor
  · intro h
    split at h
    · cases h
    next top1 rest hcandidates =>
      simp only at h
      by_cases hskill : top1.score < t.noSkillConfidence
      · rw [if_pos hskill] at h
        cases h
      by_cases hcritical : criticalLow t (byId.lookup top1.skillId) top1.score = true
      · rw [if_neg hskill, if_pos hcritical] at h
        cases h
      by_cases habsolute : top1.score < t.absoluteThreshold
      · rw [if_neg hskill, if_neg hcritical, if_pos habsolute] at h
        cases h
      rw [if_neg hskill, if_neg hcritical, if_neg habsolute] at h
      split at h
      · cases h
      next hmargin =>
        split at h
        · cases h
        next hplain =>
          split_ifs at h with hmulti
          cases h
          exact ⟨top1, rest, hcandidates,
            ⟨not_lt.mp hskill, Bool.eq_false_of_not_eq_true hcritical, not_lt.mp habsolute,
              (smallMargin_eq_none_iff t top1 rest).mp hmargin, hplain, hmulti⟩, rfl, rfl, rfl⟩
  · rintro ⟨top1, rest, hcandidates, hchecked, rfl, rfl, rfl⟩
    rw [hcandidates]
    simp only
    rw [if_neg (not_lt.mpr hchecked.skill), if_neg (ne_true_of_eq_false hchecked.critical),
      if_neg (not_lt.mpr hchecked.absolute),
      (smallMargin_eq_none_iff t top1 rest).mpr hchecked.clear, hchecked.plain]
    exact if_neg hchecked.single

/-- What is selected deserves it exactly if the entries that are not looked at are
    far below. -/
theorem selectsMerited_iff : SelectsMerited t rank byId ↔ LaterBelow t rank byId := by
  constructor
  · intro h top1 rest hcandidates hchecked
    rcases h top1.skillId _ _ (decide_select_iff.mpr
      ⟨top1, rest, hcandidates, hchecked, rfl, rfl, rfl⟩) with
      ⟨top, others, heq, -, hhighest, -, -, hmargin⟩
    rw [hcandidates, List.cons.injEq] at heq
    rcases heq with ⟨rfl, rfl⟩
    exact ⟨fun other hother => hmargin other (List.mem_of_mem_tail hother), fun _ => hhighest⟩
  · intro h skillId card reason hselect
    rcases decide_select_iff.mp hselect with ⟨top1, rest, hcandidates, hchecked, rfl, rfl, rfl⟩
    rcases h top1 rest hcandidates hchecked with ⟨htail, hnegative⟩
    have hmargin : ∀ other ∈ rest, t.marginThreshold ≤ top1.score - other.score := by
      intro other hother
      cases rest with
      | nil => cases hother
      | cons top2 rest =>
          rcases List.mem_cons.mp hother with rfl | hother
          · exact hchecked.clear other.score rfl
          · exact htail other hother
    refine ⟨top1, rest, hcandidates, rfl, fun other hother => ?_, hchecked.absolute,
      fun card hcard hrisk => ?_, hmargin⟩
    · by_cases hnonneg : t.marginThreshold < 0
      · exact hnegative hnonneg other hother
      · linarith [hmargin other hother]
    · have hcritical := hchecked.critical
      rw [hcard] at hcritical
      exact (criticalLow_some t card top1.score).mp hcritical hrisk

end Merit

section Reranked

/-- An answer leads to a ranking as it is meant to be exactly if it is sound, and
    what is selected from a ranking deserves it exactly if the entries that are
    not looked at are far below. -/
theorem rerank_decide_iff (dec : Decoder) (rr : SkillReranker) (reply : Option String)
    (candidates : List ScoredCard) (t : DecisionThresholds) (rank : SkillRankDecision)
    (byId : List (String × SkillCard)) :
    (RanksWell dec rr reply candidates ↔
      SoundReply dec rr reply (candidates.take rr.maxCandidates)) ∧
      (SelectsMerited t rank byId ↔ LaterBelow t rank byId) :=
  ⟨ranksWell_iff dec rr reply candidates, selectsMerited_iff⟩

/-- A ranking whose last entry has the highest score. -/
def unordered : SkillRankDecision where
  candidates := [{ skillId := "a", score := 9 / 10 }, { skillId := "b", score := 1 / 10 },
    { skillId := "c", score := 19 / 20 }]

/-- It passes the checks. -/
theorem unordered_checked : Checked {} unordered [] { skillId := "a", score := 9 / 10 }
    [{ skillId := "b", score := 1 / 10 }, { skillId := "c", score := 19 / 20 }] where
  skill := by norm_num
  critical := rfl
  absolute := by norm_num
  clear := by simp [Clear]; norm_num
  plain := rfl
  single := by simp [unordered]

/-- An empty array raises an exception, and of such a ranking the first entry is
    selected. -/
theorem array_answer_raises :
    ¬ RanksWell plainDecoder {} (some "[]") [] ∧ ¬ SelectsMerited {} unordered [] := by
  constructor
  · rintro ⟨rank, hrank, -⟩
    have hraised :
        (SkillReranker.rerank plainDecoder {} (some "[]") []).toOption.isNone = true := by
      decide +kernel
    rw [hrank] at hraised
    cases hraised
  · intro hmerited
    have hbelow := (selectsMerited_iff.mp hmerited _ _ rfl unordered_checked).1
      { skillId := "c", score := 19 / 20 } (by simp)
    norm_num at hbelow

end Reranked

end Skills

end AgenticRag

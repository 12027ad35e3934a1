import AgenticRag.Core.SkillRag
import AgenticRag.Lib.Selection
import AgenticRag.Theory.DynamicTruncation

/-!
# What the Filters of a Skill Leave of an Evaluation

The retrieval tool evaluates the documents it hands back, and the filters of a
skill are put to the documents afterwards. What is returned has passed all of
them, and it is as short as the target asks for, as long as that number is not
negative. But the evaluation is the one of the documents there were before.

It speaks of the documents that are returned exactly when the filters took
nothing away that it counts. Each relevant document has to be among those that
are kept, and one of the best has to be, unless nothing is kept and the best
score was zero (`Undisturbed`).

What a caller says of the knowledge bases and of the number of documents is not
read. The target has both, and the target is found by the names of the skill and
of the target.

## Main definitions

* `Rated`, `rated`: The documents of the tool with what the evaluation counts.
* `Kept`, `Undisturbed`: The documents that are kept, and when they are enough.

## Theorems

* `describes_returned_iff`: When what is kept is described as well.
* `adapter_prepare`: The adapter in front makes the same requests.
* `invokePrepared_governed_iff`: When a skill returns what it should.
-/

namespace AgenticRag

namespace SkillRag

open Py Ordered Structured Retrieval

section Ratings

/-- A document with the judgement the evaluation has counted it by. -/
structure Rated where
  doc : Dict
  relevant : Bool

/-- The score of a document. -/
def docScore (doc : Dict) : ℚ :=
  match pyGet doc "score" .none with
  | .float q _ => q
  | _ => 0

/-- The score of a document. -/
def Rated.score (r : Rated) : ℚ := docScore r.doc

/-- The judgements of an evaluation: those of the grader where it is heard, else by
    the scores. -/
def judgements {n : Nat} (grading : Option (Grading n)) (scores : List ℚ) : List Bool :=
  match grading with
  | some graded =>
      if inDoubt (average scores) then graded.relevance
      else scores.map (fun s => relevantThreshold ≤ s)
  | none => scores.map (fun s => relevantThreshold ≤ s)

/-- Documents with their grades. -/
def rated {n : Nat} (grading : Option (Grading n)) (docs : List Dict) : List Rated :=
  (docs.zip (judgements grading (docs.map docScore))).map (fun p => ⟨p.1, p.2⟩)

/-- An evaluation says of documents whether and how many of them are relevant, and
    what their best score is. -/
structure Describes (docs : List Rated) (quality : Evaluation) : Prop where
  hasRelevant : quality.hasRelevant = docs.any Rated.relevant
  relevantCount : quality.relevantCount = docs.countP Rated.relevant
  topScore : quality.topScore = SkillRag.topScore (docs.map Rated.score)

variable {parse : String → Except Exc Val} {chunk doc : Dict} {chunks docs : List Dict}

theorem length_judgements {n : Nat} (grading : Option (Grading n)) {scores : List ℚ}
    (h : scores.length = n) : (judgements grading scores).length = n := by
  unfold judgements
  cases grading with
  | none => rw [List.length_map, h]
  | some graded =>
      dsimp only
      split
      · exact graded.complete
      · rw [List.length_map, h]

theorem not_isNone_of_scoreNumber {v : Val} {s : ℚ} (h : scoreNumber v = .ok s) :
    isNone v = false := by
  cases v with
  | none => cases h
  | _ => rfl

/-- A score that is a number is not passed over. -/
theorem documentRelevanceScore_eq {s : ℚ} (h : scoreNumber (scoreValue chunk) = .ok s) :
    documentRelevanceScore parse chunk = toFloat parse (scoreValue chunk) := by
  have hnone : isNone .none = true := rfl
  have hsome := not_isNone_of_scoreNumber h
  unfold scoreValue pyGet at hsome ⊢
  unfold documentRelevanceScore pyGet
  -- Both read the first of three keys that is there.
  cases hrerank : chunk.lookup "rerank_score" with
  | some v =>
      rw [hrerank, Option.getD_some] at hsome
      simp only [Option.getD_some, hsome, Bool.not_false, if_true]
  | none =>
      rw [hrerank, Option.getD_none] at hsome
      simp only [Option.getD_none, hnone, Bool.not_true, Bool.false_eq_true, if_false]
      cases hsimilarity : chunk.lookup "similarity" with
      | some v =>
          rw [hsimilarity, Option.getD_some] at hsome
          simp only [Option.getD_some, hsome, Bool.not_false, if_true]
      | none =>
          rw [hsimilarity, Option.getD_none] at hsome
          simp only [Option.getD_none, hnone, Bool.not_true, Bool.false_eq_true, if_false]
          cases hscore : chunk.lookup "score" with
          | some v =>
              rw [hscore, Option.getD_some] at hsome
              simp only [Option.getD_some, hsome, Bool.not_false, if_true]
          | none => rfl

/-- What `float` makes of a number is the same number. -/
theorem scoreNumber_of_toFloat {v w : Val} {s : ℚ} (hv : scoreNumber v = .ok s)
    (hw : toFloat parse v = .ok w) : ∃ text, w = .float s text := by
  cases v with
  | bool b => cases b <;> cases hv <;> cases hw <;> exact ⟨_, rfl⟩
  | int i =>
      cases hv
      cases hw
      exact ⟨_, rfl⟩
  | float q text =>
      cases hv
      cases hw
      exact ⟨_, rfl⟩
  | _ => cases hv

/-- The score of a document is that of its chunk. -/
theorem docScore_of_formatDoc {s : ℚ} (hscore : scoreNumber (scoreValue chunk) = .ok s)
    (hdoc : formatDoc parse chunk = .ok doc) : docScore doc = s := by
  rcases exists_of_bind_ok hdoc with ⟨w, hw, hdoc⟩
  rw [documentRelevanceScore_eq hscore] at hw
  rcases scoreNumber_of_toFloat hscore hw with ⟨text, rfl⟩
  cases hdoc
  rfl

/-- The scores of the documents are those of the chunks. -/
theorem map_docScore_of_mapM {scores : List ℚ}
    (hscores : chunks.mapM (fun chunk => scoreNumber (scoreValue chunk)) = .ok scores)
    (hdocs : chunks.mapM (formatDoc parse) = .ok docs) : docs.map docScore = scores := by
  have hs := forall₂_of_mapM_ok hscores
  have hd := forall₂_of_mapM_ok hdocs
  clear hscores hdocs
  induction hs generalizing docs with
  | nil =>
      cases hd
      rfl
  | cons hs _ ih =>
      cases hd with
      | cons hd hrest => rw [List.map_cons, docScore_of_formatDoc hs hd, ih hrest]

theorem rated_map {n : Nat} (grading : Option (Grading n)) (h : docs.length = n) :
    (rated grading docs).map Rated.doc = docs ∧
      (rated grading docs).map Rated.relevant = judgements grading (docs.map docScore) := by
  have hlength : (judgements grading (docs.map docScore)).length = docs.length := by
    rw [length_judgements grading (by rw [List.length_map, h]), h]
  unfold rated
  rw [List.map_map, List.map_map]
  exact ⟨List.map_fst_zip hlength.ge, List.map_snd_zip hlength.le⟩

theorem any_eq_decide_countP {α : Type*} (p : α → Bool) (xs : List α) :
    xs.any p = decide (0 < xs.countP p) := by
  rw [Bool.eq_iff_iff, decide_eq_true_iff, List.countP_pos_iff, List.any_eq_true]

theorem baseEvaluation_counts (scores : List ℚ) :
    (baseEvaluation scores).relevantCount =
        (scores.map (fun s => decide (relevantThreshold ≤ s))).countP id ∧
      (baseEvaluation scores).hasRelevant =
        (scores.map (fun s => decide (relevantThreshold ≤ s))).any id := by
  rw [any_eq_decide_countP, List.countP_map]
  exact ⟨rfl, rfl⟩

/-- What an evaluation counts are the judgements. -/
theorem evaluation_of_judgements {grading : Option (Grading chunks.length)} {scores : List ℚ}
    {quality : Evaluation}
    (hscores : chunks.mapM (fun chunk => scoreNumber (scoreValue chunk)) = .ok scores)
    (h : evaluateQuality chunks grading = .ok quality) :
    (quality.relevantCount = (judgements grading scores).countP id ∧
      quality.hasRelevant = (judgements grading scores).any id) ∧
      quality.topScore = topScore scores := by
  unfold evaluateQuality at h
  rw [hscores] at h
  cases grading with
  | none =>
      cases h
      exact ⟨baseEvaluation_counts scores, rfl⟩
  | some graded =>
      unfold judgements
      -- The grader is heard only where the scores leave it open.
      cases hdoubt : inDoubt (average scores) with
      | false =>
          simp only [bind, Except.bind, hdoubt, Bool.false_eq_true, if_false] at h ⊢
          cases h
          exact ⟨baseEvaluation_counts scores, rfl⟩
      | true =>
          simp only [bind, Except.bind, hdoubt, if_true] at h ⊢
          cases h
          exact ⟨⟨rfl, rfl⟩, rfl⟩

/-- There is a document for each chunk. -/
theorem length_docs {grading : Option (Grading chunks.length)} {result : RagToolOutput}
    (h : ragToolOutput parse chunks grading = .ok result) :
    result.docs.length = chunks.length := by
  rcases exists_of_bind_ok h with ⟨quality, -, h⟩
  rcases exists_of_bind_ok h with ⟨docs, hdocs, h⟩
  cases h
  exact (forall₂_of_mapM_ok hdocs).length_eq.symm

/-- The tool describes the documents it hands back. -/
theorem describes_ragToolOutput {grading : Option (Grading chunks.length)}
    {result : RagToolOutput} (h : ragToolOutput parse chunks grading = .ok result) :
    Describes (rated grading result.docs) result.quality := by
  have hlength := length_docs h
  rcases exists_of_bind_ok h with ⟨quality, hquality, h⟩
  rcases exists_of_bind_ok h with ⟨docs, hdocs, h⟩
  cases h
  rcases exists_of_bind_ok hquality with ⟨scores, hscores, -⟩
  rcases evaluation_of_judgements hscores hquality with ⟨⟨hcount, hany⟩, htop⟩
  have hscore := map_docScore_of_mapM hscores hdocs
  rcases rated_map grading hlength with ⟨hdoc, hrelevant⟩
  rw [hscore] at hrelevant
  rw [← hrelevant] at hcount hany
  -- The scores can be read off the documents as well.
  have hbest : (rated grading docs).map Rated.score = scores := by
    rw [← hscore, ← congrArg (List.map docScore) hdoc, List.map_map]
    rfl
  refine ⟨?_, ?_, ?_⟩
  · rw [hany, List.any_map]
    rfl
  · rw [hcount, List.countP_map]
    rfl
  · rw [htop, hbest]

end Ratings

section Filtering

variable {inputData : RagToolInput} {doc : Dict} {docs : List Dict}

/-- A document passes the filters of a request. -/
def passes (inputData : RagToolInput) (doc : Dict) : Bool :=
  (matchesFilters doc inputData.documentFilters inputData.metadataFilters).toOption.getD false

/-- A document has a value for each filter: one of the allowed values, or the
    expected one. -/
structure Meets (doc : Dict) (documentFilters metadataFilters : Dict) : Prop where
  allowed : ∀ kv ∈ documentFilters, isNone (documentValue doc kv.1) = false ∧
    React.pyIn (documentValue doc kv.1) kv.2 = .ok true
  expected : ∀ kv ∈ metadataFilters, isNone (documentValue doc kv.1) = false ∧
    pyEq (documentValue doc kv.1) kv.2 = true

theorem matchesDocumentFilters_eq_true {filters : Dict}
    (h : matchesDocumentFilters doc filters = .ok true) :
    ∀ kv ∈ filters, isNone (documentValue doc kv.1) = false ∧
      React.pyIn (documentValue doc kv.1) kv.2 = .ok true := by
  induction filters with
  | nil => exact List.forall_mem_nil _
  | cons kv filters ih =>
      unfold matchesDocumentFilters at h
      cases hnone : isNone (documentValue doc kv.1) with
      | true =>
          simp only [hnone, if_true] at h
          cases h
      | false =>
          simp only [hnone, Bool.false_eq_true, if_false] at h
          rcases exists_of_bind_ok h with ⟨found, hfound, h⟩
          cases found with
          | false => cases h
          | true => exact List.forall_mem_cons.mpr ⟨⟨hnone, hfound⟩, ih h⟩

/-- A document that passes meets the filters, which are mappings then. -/
theorem meets_of_passes (h : passes inputData doc = true) :
    ∃ documentFilters metadataFilters : Dict,
      inputData.documentFilters = .dict documentFilters ∧
      inputData.metadataFilters = .dict metadataFilters ∧
      Meets doc documentFilters metadataFilters := by
  have hmatches :
      matchesFilters doc inputData.documentFilters inputData.metadataFilters = .ok true := by
    unfold passes at h
    cases hrun : matchesFilters doc inputData.documentFilters inputData.metadataFilters with
    | error e =>
        rw [hrun] at h
        cases h
    | ok passed =>
        rw [hrun] at h
        exact congrArg Except.ok h
  -- Both sorts of filters are asked for before a document passes.
  rcases exists_of_bind_ok hmatches with ⟨documentFilters, hdocument, hrest⟩
  rcases exists_of_bind_ok hrest with ⟨allowed, hallowed, hrest⟩
  cases allowed with
  | false => cases hrest
  | true =>
      rcases exists_of_bind_ok hrest with ⟨metadataFilters, hmetadata, hrest⟩
      refine ⟨documentFilters, metadataFilters, eq_dict_of_asMapping hdocument,
        eq_dict_of_asMapping hmetadata, matchesDocumentFilters_eq_true hallowed, ?_⟩
      intro kv hkv
      have hmet := List.all_eq_true.mp (Except.ok.inj hrest) kv hkv
      rwa [Bool.and_eq_true, Bool.not_eq_true'] at hmet

/-- What is returned are the first documents that pass. -/
theorem invokePrepared_eq_ok {prepared : PreparedSkillRagRequest} {result out : RagToolOutput}
    (h : invokePrepared prepared result = .ok out) :
    out.docs = sliceTo prepared.inputData.topK
        (result.docs.filter (passes prepared.inputData)) ∧
      out.quality = result.quality := by
  rcases exists_of_bind_ok h with ⟨docs, hdocs, h⟩
  cases h
  rw [filterM_eq_ok hdocs]
  exact ⟨rfl, rfl⟩

end Filtering

section Keeping

variable {inputData : RagToolInput} {docs : List Rated} {quality : Evaluation}

/-- What is returned of the documents, with the judgements. -/
def returned (inputData : RagToolInput) (docs : List Rated) : List Rated :=
  sliceTo inputData.topK (docs.filter (fun r => passes inputData r.doc))

/-- A document that passes, with fewer before it that pass than are asked for. -/
structure Kept (inputData : RagToolInput) (docs : List Rated) (i : Nat) (r : Rated) : Prop where
  here : docs[i]? = some r
  passes : passes inputData r.doc = true
  early : ((docs.take i).countP (fun r => SkillRag.passes inputData r.doc) : Int) < inputData.topK

/-- The filters take nothing away that an evaluation counts: each relevant document
    is kept, and one of the best is, if the best score is not zero. -/
structure Undisturbed (inputData : RagToolInput) (docs : List Rated) : Prop where
  topK : 0 ≤ inputData.topK
  relevant : ∀ (i : Nat) (r : Rated), docs[i]? = some r → r.relevant = true →
    Kept inputData docs i r
  best : (∃ (i : Nat) (r : Rated), Kept inputData docs i r ∧
      ∀ other ∈ docs, other.score ≤ r.score) ∨
    (∀ (i : Nat) (r : Rated), ¬ Kept inputData docs i r) ∧ topScore (docs.map Rated.score) = 0

/-- The documents of what is returned with the judgements. -/
theorem map_doc_returned :
    (returned inputData docs).map Rated.doc =
      sliceTo inputData.topK ((docs.map Rated.doc).filter (passes inputData)) := by
  rw [returned, List.filter_map, sliceTo, sliceTo, List.length_map, List.map_take]
  rfl

theorem returned_of_nonneg (h : 0 ≤ inputData.topK) :
    returned inputData docs =
      (docs.filter (fun r => passes inputData r.doc)).take inputData.topK.toNat := by
  rw [returned, sliceTo, sliceIndex_of_nonneg h]

theorem mem_returned_iff (h : 0 ≤ inputData.topK) {r : Rated} :
    r ∈ returned inputData docs ↔ ∃ i, Kept inputData docs i r := by
  rw [returned_of_nonneg h, Selection.mem_take_filter_iff]
  refine exists_congr fun i => ?_
  constructor
  · rintro ⟨hi, hpass, hearly⟩
    exact ⟨hi, hpass, by omega⟩
  · rintro ⟨hi, hpass, hearly⟩
    exact ⟨hi, hpass, by omega⟩

/-- As many are relevant as before exactly when each relevant document is kept. -/
theorem countP_returned_iff (h : 0 ≤ inputData.topK) :
    (returned inputData docs).countP Rated.relevant = docs.countP Rated.relevant ↔
      ∀ (i : Nat) (r : Rated), docs[i]? = some r → r.relevant = true →
        Kept inputData docs i r := by
  rw [returned_of_nonneg h, Selection.countP_take_filter_eq_iff]
  refine forall_congr' fun i => forall_congr' fun r => forall_congr' fun hi =>
    imp_congr_right fun _ => ?_
  constructor
  · rintro ⟨hpass, hearly⟩
    exact ⟨hi, hpass, by omega⟩
  · rintro ⟨-, hpass, hearly⟩
    exact ⟨hpass, by omega⟩

theorem topScore_eq_iff {xs : List ℚ} {q : ℚ} (h : xs ≠ []) :
    topScore xs = q ↔ q ∈ xs ∧ ∀ x ∈ xs, x ≤ q := by
  rw [← List.max?_eq_some_iff, topScore]
  cases hmax : xs.max? with
  | none => exact absurd (List.max?_eq_none_iff.mp hmax) h
  | some m => rw [Option.getD_some, Option.some.injEq]

/-- The best of a part is the best of all exactly when one of the best is in it, or
    it is empty and the best is zero. -/
theorem topScore_map_eq_iff {part all : List Rated} (hsub : part ⊆ all) :
    topScore (all.map Rated.score) = topScore (part.map Rated.score) ↔
      (∃ r ∈ part, ∀ other ∈ all, other.score ≤ r.score) ∨
        part = [] ∧ topScore (all.map Rated.score) = 0 := by
  by_cases hne : part = []
  · subst hne
    have hnone : ¬ ∃ r ∈ ([] : List Rated), ∀ other ∈ all, other.score ≤ r.score := by
      rintro ⟨r, hr, -⟩
      cases hr
    simp only [hnone, false_or, true_and]
    exact Iff.rfl
  · have hall : all.map Rated.score ≠ [] := by
      intro hempty
      rw [List.map_eq_nil_iff.mp hempty] at hsub
      exact hne (List.subset_nil.mp hsub)
    have hpart : part.map Rated.score ≠ [] := fun hempty => hne (List.map_eq_nil_iff.mp hempty)
    -- A part that is not empty has a best score of its own.
    rcases (topScore_eq_iff hpart).mp rfl with ⟨hmem, hmax⟩
    rw [topScore_eq_iff hall]
    simp only [hne, false_and, or_false]
    constructor
    · rintro ⟨-, hbest⟩
      rcases List.mem_map.mp hmem with ⟨r, hr, hscore⟩
      refine ⟨r, hr, fun other hother => ?_⟩
      rw [hscore]
      exact hbest _ (List.mem_map_of_mem hother)
    · rintro ⟨r, hr, hbest⟩
      refine ⟨List.map_subset _ hsub hmem, ?_⟩
      rw [List.forall_mem_map]
      exact fun other hother =>
        (hbest other hother).trans (hmax _ (List.mem_map_of_mem hr))

theorem returned_subset : returned inputData docs ⊆ docs :=
  fun _ hr => (List.mem_filter.mp (List.mem_of_mem_take hr)).1

/-- What describes the documents describes those that are returned exactly when the
    filters took nothing away that counts. -/
theorem describes_returned_iff (h : 0 ≤ inputData.topK) (hquality : Describes docs quality) :
    Describes (returned inputData docs) quality ↔ Undisturbed inputData docs := by
  have hbest := topScore_map_eq_iff (@returned_subset inputData docs)
  constructor
  · intro hreturned
    refine ⟨h, (countP_returned_iff h).mp ?_, ?_⟩
    · rw [← hreturned.relevantCount, ← hquality.relevantCount]
    -- The best score is that of a document that is returned, or of none.
    · rcases hbest.mp (hquality.topScore.symm.trans hreturned.topScore) with
        ⟨r, hr, hother⟩ | ⟨hnil, hzero⟩
      · rcases (mem_returned_iff h).mp hr with ⟨i, hkept⟩
        exact .inl ⟨i, r, hkept, hother⟩
      · refine .inr ⟨fun i r hkept => ?_, hzero⟩
        have hr := (mem_returned_iff h).mpr ⟨i, hkept⟩
        rw [hnil] at hr
        cases hr
  · intro hundisturbed
    have hcount := (countP_returned_iff h).mpr hundisturbed.relevant
    refine ⟨?_, ?_, ?_⟩
    · rw [hquality.hasRelevant, any_eq_decide_countP, any_eq_decide_countP, hcount]
    · rw [hquality.relevantCount, hcount]
    · rw [hquality.topScore]
      refine hbest.mpr ?_
      rcases hundisturbed.best with ⟨i, r, hkept, hother⟩ | ⟨hnone, hzero⟩
      · exact .inl ⟨r, (mem_returned_iff h).mpr ⟨i, hkept⟩, hother⟩
      · refine .inr ⟨List.eq_nil_iff_forall_not_mem.mpr fun r hr => ?_, hzero⟩
        rcases (mem_returned_iff h).mp hr with ⟨i, hkept⟩
        exact hnone i r hkept

end Keeping

section Requests

variable {u : Unicode} {parse : String → Except Exc Val} {registry : Val → Option Skill}
  {skill : RetrievalSkill} {input context target : Dict} {request : PreparedSkillRagRequest}

/-- What a request has from its target, its context and its query. -/
structure OfTarget (u : Unicode) (target context : Dict) (query : String)
    (inputData : RagToolInput) : Prop where
  query : inputData.query = query
  tenantId : inputData.tenantId = (pyGet context "tenant_id" (.str "")).toStr u
  kbIds : ∃ kbId : Val, target.lookup "kb_id" = some kbId ∧ inputData.kbIds = [kbId.toStr u]
  topK : (pyGet target "top_k" (.int 5)).toInt = .ok inputData.topK
  documentFilters : renderValue u context (pyGet target "document_filters" (.dict [])) =
    .ok inputData.documentFilters
  metadataFilters : renderValue u context (pyGet target "metadata_filters" (.dict [])) =
    .ok inputData.metadataFilters

theorem lookup_of_pyItem {d : Dict} {key : String} {v : Val} (h : Skills.pyItem d key = .ok v) :
    d.lookup key = some v := by
  unfold Skills.pyItem at h
  cases hlook : d.lookup key with
  | none =>
      rw [hlook] at h
      cases h
  | some w =>
      rw [hlook] at h
      exact congrArg some (Except.ok.inj h)

theorem ofTarget_of_requestFor {query : String}
    (h : requestFor u parse target context query = .ok request) :
    OfTarget u target context query request.inputData := by
  rcases exists_of_bind_ok h with ⟨kbId, hkb, h⟩
  rcases exists_of_bind_ok h with ⟨topK, htop, h⟩
  rcases exists_of_bind_ok h with ⟨documentFilters, hdocument, h⟩
  rcases exists_of_bind_ok h with ⟨metadataFilters, hmetadata, h⟩
  rcases exists_of_bind_ok h with ⟨threshold, -, h⟩
  rcases exists_of_bind_ok h with ⟨weight, -, h⟩
  rcases exists_of_bind_ok h with ⟨targetId, -, h⟩
  cases h
  exact ⟨rfl, rfl, ⟨kbId, lookup_of_pyItem hkb, rfl⟩, htop, hdocument, hmetadata⟩

/-- What a request is resolved by. -/
structure Resolved (u : Unicode) (registry : Val → Option Skill) (input : Dict)
    (skill : RetrievalSkill) (context target : Dict) : Prop where
  named : (pyGet input "retrieval_skill_id" .none).truthy = true
  found : getById registry (pyGet input "retrieval_skill_id" .none) =
    .ok (some (.retrieval skill))
  built : buildContext input = .ok context
  required : requireSkillContext skill context = .ok ()
  selected : selectTarget u skill (pyGet input "rag_target_id" .none) = .ok target

theorem resolved_of_resolve (h : resolve u registry input = .ok (skill, context, target)) :
    Resolved u registry input skill context target := by
  unfold resolve at h
  by_cases hid : (pyGet input "retrieval_skill_id" .none).truthy = true
  · rw [if_neg (not_not_intro hid)] at h
    rcases exists_of_bind_ok h with ⟨found, hfound, h⟩
    -- Only a retrieval skill is gone on with.
    match found, hfound, h with
    | some (.retrieval declared), hfound, h =>
        rcases exists_of_bind_ok h with ⟨given, hgiven, h⟩
        rcases exists_of_bind_ok h with ⟨_, hrequired, h⟩
        rcases exists_of_bind_ok h with ⟨chosen, hchosen, h⟩
        cases h
        exact ⟨hid, hfound, hgiven, hrequired, hchosen⟩
    | some (.data _), _, h => cases h
    | some .other, _, h => cases h
    | none, _, h => cases h
  · rw [if_pos hid] at h
    cases h

theorem ofTarget_of_prepare (hresolve : resolve u registry input = .ok (skill, context, target))
    (h : prepare u parse registry input = .ok (some request)) :
    ∃ query, buildQuery u skill target input context = .ok (some query) ∧
      OfTarget u target context query request.inputData := by
  rcases exists_of_bind_ok h with ⟨resolved, hresolved, h⟩
  cases hresolve.symm.trans hresolved
  rcases exists_of_bind_ok h with ⟨query, hquery, h⟩
  cases query with
  | none => cases h
  | some query =>
      rcases exists_of_bind_ok h with ⟨made, hmade, h⟩
      cases h
      exact ⟨query, hquery, ofTarget_of_requestFor hmade⟩

/-- The adapter that only looks at the query, the tenant and the knowledge base makes
    the same of them. -/
theorem adapter_prepare (h : prepare u parse registry input = .ok (some request)) :
    AgenticRag.prepare u registry (buildQuery u) input =
      .ok (some [("query", .str request.inputData.query),
        ("tenant_id", .str request.inputData.tenantId),
        ("kb_ids", pyStrs request.inputData.kbIds)]) := by
  rcases exists_of_bind_ok h with ⟨⟨skill, context, target⟩, hresolve, -⟩
  rcases ofTarget_of_prepare hresolve h with ⟨query, hquery, hown⟩
  have hresolved := resolved_of_resolve hresolve
  rcases hown.kbIds with ⟨kbId, hkb, hids⟩
  have hbuilt := hresolved.built
  unfold buildContext at hbuilt
  split at hbuilt
  · rename_i given hgiven
    cases hbuilt
    unfold AgenticRag.prepare
    simp only [hresolved.named, not_true, if_false, hresolved.found, hgiven, hresolved.required,
      hresolved.selected, hquery, hkb, bind, Except.bind]
    rw [hown.query, hown.tenantId, hids]
    rfl
  · cases hbuilt

/-- An input with the same to say but for the knowledge bases and the number of
    documents. -/
def SameButOwn (input other : Dict) : Prop :=
  ∀ key, key ≠ "kb_ids" → key ≠ "top_k" → other.lookup key = input.lookup key

/-- The target does not depend on what a caller says of the knowledge bases and of
    the number of documents. -/
theorem target_of_sameButOwn {other context' target' : Dict} {skill' : RetrievalSkill}
    (hsame : SameButOwn input other)
    (h : resolve u registry input = .ok (skill, context, target))
    (h' : resolve u registry other = .ok (skill', context', target')) : target' = target := by
  have hskill := (resolved_of_resolve h).found
  have htarget := (resolved_of_resolve h).selected
  have hskill' := (resolved_of_resolve h').found
  have htarget' := (resolved_of_resolve h').selected
  have hget : ∀ key : String, key ≠ "kb_ids" → key ≠ "top_k" →
      pyGet other key .none = pyGet input key .none := by
    intro key hkb htop
    rw [pyGet, pyGet, hsame key hkb htop]
  -- Neither the skill nor the target is named under one of the two keys.
  rw [hget _ (by decide) (by decide)] at hskill' htarget'
  rw [hskill] at hskill'
  cases hskill'
  rw [htarget] at htarget'
  cases htarget'
  rfl

/-- So neither do these of the request. -/
theorem own_of_sameButOwn {other : Dict} {request' : PreparedSkillRagRequest}
    (hsame : SameButOwn input other)
    (hresolve : resolve u registry input = .ok (skill, context, target))
    (h : prepare u parse registry input = .ok (some request))
    (h' : prepare u parse registry other = .ok (some request')) :
    request'.inputData.kbIds = request.inputData.kbIds ∧
      request'.inputData.topK = request.inputData.topK := by
  rcases exists_of_bind_ok h' with ⟨⟨skill', context', target'⟩, hresolve', -⟩
  cases target_of_sameButOwn hsame hresolve hresolve'
  rcases ofTarget_of_prepare hresolve h with ⟨_, -, hown⟩
  rcases ofTarget_of_prepare hresolve' h' with ⟨_, -, hown'⟩
  rcases hown.kbIds with ⟨kbId, hkb, hids⟩
  rcases hown'.kbIds with ⟨kbId', hkb', hids'⟩
  rw [hkb] at hkb'
  cases hkb'
  exact ⟨hids'.trans hids.symm, Except.ok.inj (hown'.topK.symm.trans hown.topK)⟩

end Requests

section Governing

variable {u : Unicode} {parse : String → Except Exc Val} {registry : Val → Option Skill}
  {skill : RetrievalSkill} {input context target : Dict} {request : PreparedSkillRagRequest}
  {chunks : List Dict} {grading : Option (Grading chunks.length)} {result out : RagToolOutput}

/-- A document meets the filters a target declares, filled from the context. -/
def MeetsDeclared (u : Unicode) (target context doc : Dict) : Prop :=
  ∃ documentFilters metadataFilters : Dict,
    renderValue u context (pyGet target "document_filters" (.dict [])) =
        .ok (.dict documentFilters) ∧
      renderValue u context (pyGet target "metadata_filters" (.dict [])) =
        .ok (.dict metadataFilters) ∧
      Meets doc documentFilters metadataFilters

/-- What is returned meets the declared filters, is no more than the target asks for,
    and is what the evaluation beside it describes. -/
structure Governed (u : Unicode) (target context : Dict) (inputData : RagToolInput)
    (docs : List Rated) (out : RagToolOutput) : Prop where
  matching : ∀ doc ∈ out.docs, MeetsDeclared u target context doc
  atMost : ∃ topK : Int, (pyGet target "top_k" (.int 5)).toInt = .ok topK ∧
    (out.docs.length : Int) ≤ topK
  judged : (returned inputData docs).map Rated.doc = out.docs
  described : Describes (returned inputData docs) out.quality

/-- What is returned for a skill is what its target asks for and is described by the
    evaluation beside it, and the knowledge base and the number of documents are those
    of the target, exactly when the filters took nothing away that the evaluation
    counts. -/
theorem invokePrepared_governed_iff
    (hresolve : resolve u registry input = .ok (skill, context, target))
    (hprepare : prepare u parse registry input = .ok (some request))
    (hresult : ragToolOutput parse chunks grading = .ok result)
    (hout : invokePrepared request result = .ok out) :
    (Governed u target context request.inputData (rated grading result.docs) out ∧
      ∀ (other : Dict) (request' : PreparedSkillRagRequest), SameButOwn input other →
        prepare u parse registry other = .ok (some request') →
        request'.inputData.kbIds = request.inputData.kbIds ∧
          request'.inputData.topK = request.inputData.topK) ↔
      Undisturbed request.inputData (rated grading result.docs) := by
  rcases ofTarget_of_prepare hresolve hprepare with ⟨_, -, hown⟩
  have hdescribed := describes_ragToolOutput hresult
  rcases invokePrepared_eq_ok hout with ⟨hdocs, hquality⟩
  have hjudged : (returned request.inputData (rated grading result.docs)).map Rated.doc =
      out.docs := by
    rw [map_doc_returned, (rated_map grading (length_docs hresult)).1, hdocs]
  constructor
  · rintro ⟨hgoverned, -⟩
    rcases hgoverned.atMost with ⟨topK, htop, hlength⟩
    cases hown.topK.symm.trans htop
    -- No length is within a bound that is negative.
    have hnonneg : 0 ≤ request.inputData.topK := by omega
    rw [← describes_returned_iff hnonneg hdescribed, ← hquality]
    exact hgoverned.described
  · intro hundisturbed
    have hnonneg := hundisturbed.topK
    refine ⟨⟨?_, ⟨_, hown.topK, ?_⟩, hjudged, ?_⟩, ?_⟩
    · intro doc hdoc
      rw [hdocs] at hdoc
      rcases meets_of_passes (List.mem_filter.mp (List.mem_of_mem_take hdoc)).2 with
        ⟨documentFilters, metadataFilters, hdocument, hmetadata, hmeets⟩
      refine ⟨documentFilters, metadataFilters, ?_, ?_, hmeets⟩
      · rw [hown.documentFilters, hdocument]
      · rw [hown.metadataFilters, hmetadata]
    · rw [hdocs, length_sliceTo hnonneg]
      exact min_le_left _ _
    · rw [hquality]
      exact (describes_returned_iff hnonneg hdescribed).mpr hundisturbed
    · exact fun other request' hsame hother => own_of_sameButOwn hsame hresolve hprepare hother

end Governing

section Sop

/-- A target for procedures. -/
def sopTarget : Dict :=
  [("target_id", .str "sop"), ("kb_id", .str "sop_kb"), ("required", .bool true),
    ("top_k", .int 2), ("document_filters", .dict [("doc_type", .list [.str "sop"])])]

/-- A skill with one target. -/
def sopSkill : RetrievalSkill where
  skillId := "quality"
  ragTargets := [sopTarget]
  queryContextRequirements := []

/-- The registry of that skill. -/
def sopRegistry (skillId : Val) : Option Skill :=
  if keyEq skillId (.str "quality") then some (.retrieval sopSkill) else none

/-- A request for that skill. -/
def sopInput : Dict := [("retrieval_skill_id", .str "quality"), ("query", .str "rust")]

/-- Reads no number from a text. -/
def noTexts : String → Except Exc Val := fun _ => .error .valueError

/-- A chunk that is relevant by its score, of a document of some type. -/
def chunkOf (docType : String) : Dict := [("rerank_score", .int 1), ("doc_type", .str docType)]

/-- The request, prepared. -/
def sopRequest : PreparedSkillRagRequest where
  targetId := "sop"
  inputData := {
    query := "rust"
    tenantId := ""
    kbIds := ["sop_kb"]
    topK := 2
    documentFilters := .dict [("doc_type", .list [.str "sop"])]
    metadataFilters := .dict []
    similarityThreshold := .float (1 / 5) "0.2"
    keywordsSimilarityWeight := .float (1 / 2) "0.5"
    rerankId := "" }

theorem prepare_sopInput :
    prepare default noTexts sopRegistry sopInput = .ok (some sopRequest) := rfl

/-- The document for such a chunk. -/
def docOf (docType : String) : Dict :=
  [("content", .str ""), ("score", .float 1 "1.0"), ("source", .str "unknown"),
    ("chunk_id", .str ""), ("doc_id", .str ""), ("doc_type", .str docType), ("status", .str ""),
    ("metadata", .dict [])]

/-- One relevant document. -/
def oneRelevant : Evaluation := baseEvaluation [1]

theorem ragToolOutput_chunkOf (docType : String) :
    ragToolOutput noTexts [chunkOf docType] none =
      .ok { docs := [docOf docType], quality := oneRelevant } := by
  rfl

theorem undisturbed_docOf :
    Undisturbed sopRequest.inputData
      (rated (none : Option (Grading [chunkOf "sop"].length)) [docOf "sop"]) := by
  have hkept : Kept sopRequest.inputData
      (rated (none : Option (Grading [chunkOf "sop"].length)) [docOf "sop"]) 0
      { doc := docOf "sop", relevant := decide (relevantThreshold ≤ 1) } :=
    ⟨rfl, rfl, by decide⟩
  refine ⟨by decide, ?_, .inl ⟨0, _, hkept, ?_⟩⟩
  · intro i r hi _
    cases i with
    | zero =>
        cases hi
        exact hkept
    | succ i => cases hi
  · intro other hother
    rw [List.mem_singleton.mp hother]
    exact le_refl _

/-- A relevant document of the type the target asks for is returned. -/
theorem invokePrepared_governed_iff_sop :
    Governed default sopTarget sopInput sopRequest.inputData
      (rated (none : Option (Grading [chunkOf "sop"].length)) [docOf "sop"])
      { docs := [docOf "sop"], quality := oneRelevant } :=
  ((invokePrepared_governed_iff (by rfl) prepare_sopInput (ragToolOutput_chunkOf "sop")
    (by rfl)).mpr undisturbed_docOf).1

/-- The one document the tool has found is relevant and of another type. Nothing is
    returned, with the evaluation that a document is relevant. -/
theorem filtered_still_relevant :
    prepare default noTexts sopRegistry sopInput = .ok (some sopRequest) ∧
      ragToolOutput noTexts [chunkOf "memo"] none =
        .ok { docs := [docOf "memo"], quality := oneRelevant } ∧
      invokePrepared sopRequest { docs := [docOf "memo"], quality := oneRelevant } =
        .ok { docs := [], quality := oneRelevant } ∧
      oneRelevant.hasRelevant = true ∧ oneRelevant.relevantCount = 1 ∧
      oneRelevant.topScore = 1 := by
  have hrelevant : relevantThreshold ≤ 1 := by norm_num [relevantThreshold]
  refine ⟨prepare_sopInput, ragToolOutput_chunkOf "memo", rfl, ?_, ?_, rfl⟩
  · simp [oneRelevant, baseEvaluation, hrelevant]
  · simp [oneRelevant, baseEvaluation, hrelevant]

end Sop

end SkillRag

end AgenticRag

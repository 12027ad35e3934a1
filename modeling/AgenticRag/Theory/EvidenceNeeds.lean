import Mathlib.Data.List.Perm.Subperm
import AgenticRag.Core.EvidenceAdapter

/-!
# The Requirements that Are Enforced

An answer is published in full when the evidence for it is all there. What there
has to be is what the skills declare: each requirement that is marked as required
asks for some documents, at least one, that answer to its id and have its target
and its table (`Met`).

The check asks for less. How many documents a requirement asks for is not looked
at, so one is always enough (`one_document_is_enough`). Of the requirements that
share an id, the first alone is kept. An item that answers by the type of its
source may have any target. `check_enforced_iff` says when this makes no
difference: when the requirements that may slip through are met wherever those
that are kept have an answer.

## Main definitions

* `Fits`, `Met`: The documents a requirement asks for.
* `Enforced`: What is reported to be there is there.

## Theorems

* `check_full_iff`, `coverage_iff`: What the check asks for.
* `allMet_iff`: What is left to ask for.
* `check_enforced_iff`: When the check asks for enough.
-/

namespace AgenticRag

namespace EvidenceAdapter

open Py Ordered Plan Skills Structured

section Keeping

/-- A requirement is the first of those with its id. -/
def Kept (declared : List SkillEvidenceRequirement) (r : SkillEvidenceRequirement) : Prop :=
  declared.find? (fun q => decide (q.evidenceId = r.evidenceId)) = some r

/-- Under an id stands the first requirement that has it. -/
theorem lookup_keepFirst (declared : List SkillEvidenceRequirement)
    (d : List (String × SkillEvidenceRequirement)) (id : String) :
    (declared.foldl keepFirst d).lookup id =
      (d.lookup id).or (declared.find? (fun q => decide (q.evidenceId = id))) := by
  induction declared generalizing d with
  | nil => simp
  | cons r declared ih =>
      rw [List.foldl_cons, ih, List.find?_cons, keepFirst]
      cases hr : d.lookup r.evidenceId with
      | some q =>
          by_cases hid : r.evidenceId = id
          · rw [hid] at hr
            simp [hr]
          · simp [hid]
      | none =>
          rw [List.lookup_append]
          by_cases hid : r.evidenceId = id
          · rw [hid] at hr
            simp [hr, hid]
          · have hne : (id == r.evidenceId) = false := beq_eq_false_iff_ne.mpr (Ne.symm hid)
            simp [hid, List.lookup_cons, hne]

theorem keepFirst_ids_nodup (declared : List SkillEvidenceRequirement)
    {d : List (String × SkillEvidenceRequirement)} (hd : (d.map Prod.fst).Nodup) :
    ((declared.foldl keepFirst d).map Prod.fst).Nodup := by
  induction declared generalizing d with
  | nil => exact hd
  | cons r declared ih =>
      refine ih ?_
      unfold keepFirst
      split
      · exact hd
      next hnone =>
        rw [List.map_append, List.nodup_append]
        refine ⟨hd, List.nodup_singleton _, fun id hid id' hid' => ?_⟩
        rcases List.mem_map.mp hid with ⟨p, hp, rfl⟩
        rw [List.map_singleton, List.mem_singleton] at hid'
        rintro rfl
        have hlookup := lookup_of_mem d hd hp
        rw [hid', hnone] at hlookup
        cases hlookup

/-- What stands under an id has it. -/
theorem keepFirst_id (declared : List SkillEvidenceRequirement)
    {p : String × SkillEvidenceRequirement} (hp : p ∈ declared.foldl keepFirst []) :
    p.2.evidenceId = p.1 := by
  have hlookup := lookup_of_mem _ (keepFirst_ids_nodup declared (d := []) List.nodup_nil) hp
  rw [lookup_keepFirst, List.lookup_nil, Option.none_or] at hlookup
  have hid := List.find?_some hlookup
  exact of_decide_eq_true hid

/-- The requirements that are kept are those that are the first with their ids. -/
theorem mem_firstOfEach_iff (declared : List SkillEvidenceRequirement)
    (r : SkillEvidenceRequirement) : r ∈ firstOfEach declared ↔ Kept declared r := by
  have hlookup := lookup_keepFirst declared [] r.evidenceId
  rw [List.lookup_nil, Option.none_or] at hlookup
  constructor
  · intro hr
    rcases List.mem_map.mp hr with ⟨p, hp, rfl⟩
    rw [keepFirst_id declared hp,
      lookup_of_mem _ (keepFirst_ids_nodup declared (d := []) List.nodup_nil) hp] at hlookup
    rw [Kept, keepFirst_id declared hp]
    exact hlookup.symm
  · intro hkept
    rw [Kept] at hkept
    rw [hkept] at hlookup
    exact List.mem_map_of_mem (f := Prod.snd) (mem_of_lookup hlookup)

theorem firstOfEach_ids_nodup (declared : List SkillEvidenceRequirement) :
    ((firstOfEach declared).map (·.evidenceId)).Nodup := by
  rw [firstOfEach, List.map_map]
  have hids : (declared.foldl keepFirst []).map ((·.evidenceId) ∘ Prod.snd) =
      (declared.foldl keepFirst []).map Prod.fst :=
    List.map_congr_left fun p hp => keepFirst_id declared hp
  rw [hids]
  exact keepFirst_ids_nodup declared (d := []) List.nodup_nil

theorem Kept.mem {declared : List SkillEvidenceRequirement} {r : SkillEvidenceRequirement}
    (h : Kept declared r) : r ∈ declared :=
  List.mem_of_find?_eq_some h

end Keeping

section Needs

variable (u : Unicode) (casefold : String → String) (evidence : List Dict)

/-- An item answers to the id of a requirement, as one it declares or by the type
    of its source, and its target and its table are not others. -/
def Fits (r : SkillEvidenceRequirement) (item : Dict) : Prop :=
  (r.evidenceId ∈ evidenceIds u item ∨
    startsWith r.evidenceId "report_" = true ∧
      sourceTypeMatches u casefold r.evidenceType (pyGet item "source_type" .none) = true) ∧
    matchesMetadata r item = true

/-- As many documents as a requirement asks for are there, and at least one. -/
def Met (r : SkillEvidenceRequirement) : Prop :=
  ∃ docs : List Dict, docs.Nodup ∧ (∀ item ∈ docs, item ∈ evidence ∧ Fits u casefold r item) ∧
    max 1 r.minDocs ≤ docs.length

/-- Some item matches a requirement, as the check sees it. -/
def Answered (r : SkillEvidenceRequirement) : Prop :=
  ∃ item ∈ evidence, matchesRequirement u casefold r item = true

/-- A requirement names a target or a table. -/
def Narrow (r : SkillEvidenceRequirement) : Prop :=
  (∃ name, r.sourceTargetId = some name ∧ name ≠ "") ∨ ∃ name, r.tableName = some name ∧ name ≠ ""

/-- A requirement that may slip through: an earlier one has its id, or it asks for
    more than one document, or the type of a source is enough for it although it
    names a target or a table. -/
def Slack (declared : List SkillEvidenceRequirement) (r : SkillEvidenceRequirement) : Prop :=
  ¬ Kept declared r ∨ 1 < r.minDocs ∨ startsWith r.evidenceId "report_" = true ∧ Narrow r

variable {u casefold evidence}

theorem agrees_of_not_named {wanted : Option String} (h : ¬ ∃ name, wanted = some name ∧ name ≠ "")
    (found : Val) : agrees wanted found = true := by
  cases wanted with
  | none => rfl
  | some name =>
      have hname : name = "" := by
        by_contra hne
        exact h ⟨name, rfl, hne⟩
      simp [agrees, hname]

/-- An item that matches a requirement fits it, unless the type of its source was
    enough for one that is narrow. -/
theorem fits_of_matches {r : SkillEvidenceRequirement} {item : Dict}
    (hwide : ¬ (startsWith r.evidenceId "report_" = true ∧ Narrow r))
    (h : matchesRequirement u casefold r item = true) : Fits u casefold r item := by
  unfold matchesRequirement at h
  split_ifs at h with hid
  · exact ⟨.inl (List.contains_iff_mem.mp hid), h⟩
  · rw [Bool.and_eq_true] at h
    have hnarrow : ¬ Narrow r := fun hnarrow => hwide ⟨h.1, hnarrow⟩
    rw [Narrow, not_or] at hnarrow
    refine ⟨.inr h, ?_⟩
    rw [matchesMetadata, agrees_of_not_named hnarrow.1, agrees_of_not_named hnarrow.2]
    rfl

theorem met_of_answered {declared : List SkillEvidenceRequirement} {r : SkillEvidenceRequirement}
    (hslack : ¬ Slack declared r) (h : Answered u casefold evidence r) :
    Met u casefold evidence r := by
  rw [Slack, not_or, not_or] at hslack
  rcases h with ⟨item, hitem, hmatches⟩
  refine ⟨[item], List.nodup_singleton item, fun d hd => ?_, ?_⟩
  · rw [List.mem_singleton.mp hd]
    exact ⟨hitem, fits_of_matches hslack.2.2 hmatches⟩
  · rw [List.length_singleton, max_eq_left (not_lt.mp hslack.2.1)]
    rfl

variable (u casefold evidence) (declared : List SkillEvidenceRequirement)
  (among : SkillEvidenceRequirement → Prop)

/-- Every requirement among some is met, if it is marked as required. -/
def AllMet : Prop :=
  ∀ r ∈ declared, r.required = true → among r → Met u casefold evidence r

/-- Those that are kept have an answer. -/
def AllAnswered : Prop :=
  ∀ r ∈ declared, Kept declared r → r.required = true → among r → Answered u casefold evidence r

/-- Those that may slip through are met. -/
def SlackMet : Prop :=
  ∀ r ∈ declared, Slack declared r → r.required = true → among r → Met u casefold evidence r

variable {u casefold evidence declared among}

/-- Where those that are kept have an answer, it is left to ask for those that may
    slip through. -/
theorem allMet_iff (h : AllAnswered u casefold evidence declared among) :
    AllMet u casefold evidence declared among ↔ SlackMet u casefold evidence declared among := by
  constructor
  · intro hmet r hr _ hrequired hamong
    exact hmet r hr hrequired hamong
  · intro hmet r hr hrequired hamong
    by_cases hslack : Slack declared r
    · exact hmet r hr hslack hrequired hamong
    · have hkept : Kept declared r := by
        rw [Slack, not_or, not_not] at hslack
        exact hslack.1
      exact met_of_answered hslack (h r hr hkept hrequired hamong)

end Needs

section Verdict

variable {u : Unicode} {casefold : String → String} {evidence : List Dict}
  {declared : List SkillEvidenceRequirement}

/-- The check sees a kept requirement as matched exactly if it has an answer. -/
theorem isMatched_iff {r : SkillEvidenceRequirement} (hkept : Kept declared r) :
    isMatched (matchingRequirements u casefold (firstOfEach declared) evidence) r = true ↔
      Answered u casefold evidence r := by
  have hkeys : (((firstOfEach declared).map (fun q =>
      (q.evidenceId, evidence.any (matchesRequirement u casefold q)))).map Prod.fst).Nodup := by
    rw [List.map_map]
    exact firstOfEach_ids_nodup declared
  have hmem : (r.evidenceId, evidence.any (matchesRequirement u casefold r)) ∈
      (firstOfEach declared).map (fun q =>
        (q.evidenceId, evidence.any (matchesRequirement u casefold q))) :=
    List.mem_map_of_mem ((mem_firstOfEach_iff declared r).mpr hkept)
  rw [isMatched, matchingRequirements, dictOf_of_nodup hkeys, lookup_of_mem _ hkeys hmem,
    Option.getD_some, List.any_eq_true]
  rfl

/-- The evidence passes the check exactly if the kept requirements have an
    answer. -/
theorem check_full_iff :
    (check u casefold (firstOfEach declared) evidence).answerable = true ∧
        (check u casefold (firstOfEach declared) evidence).publishMode = "full" ↔
      AllAnswered u casefold evidence declared (fun _ => True) := by
  have hmissing : ((firstOfEach declared).filter (fun r => r.required &&
      !isMatched (matchingRequirements u casefold (firstOfEach declared) evidence) r)).map
        (·.evidenceId) = [] ↔ AllAnswered u casefold evidence declared (fun _ => True) := by
    rw [List.map_eq_nil_iff, List.filter_eq_nil_iff]
    constructor
    · intro h r hr hkept hrequired _
      have hr' := h r ((mem_firstOfEach_iff declared r).mpr hkept)
      rw [← isMatched_iff hkept]
      simpa [hrequired] using hr'
    · intro h r hr
      have hkept := (mem_firstOfEach_iff declared r).mp hr
      by_cases hrequired : r.required = true
      · simp [(isMatched_iff hkept).mpr (h r hkept.mem hkept hrequired trivial)]
      · simp [hrequired]
  rw [← hmissing, check]
  by_cases hnil : ((firstOfEach declared).filter (fun r => r.required &&
      !isMatched (matchingRequirements u casefold (firstOfEach declared) evidence) r)).map
        (·.evidenceId) = []
  · rw [if_neg (not_not_intro hnil)]
    exact iff_of_true ⟨rfl, rfl⟩ hnil
  · rw [if_pos hnil]
    exact iff_of_false (fun h => Bool.false_ne_true h.1) hnil

/-- A section is covered exactly if a kept requirement names it, and those that are
    required and do have an answer. -/
theorem coverage_iff (name : String) :
    (check u casefold (firstOfEach declared) evidence).sectionCoverage.lookup name = some true ↔
      (∃ r, Kept declared r ∧ name ∈ r.requiredForSections) ∧
        AllAnswered u casefold evidence declared (fun r => name ∈ r.requiredForSections) := by
  have hcoverage : (check u casefold (firstOfEach declared) evidence).sectionCoverage =
      coverageOf (firstOfEach declared)
        (matchingRequirements u casefold (firstOfEach declared) evidence) := by
    rw [check]
    split_ifs <;> rfl
  have hall : (((firstOfEach declared).filter (fun r =>
      r.required && r.requiredForSections.contains name)).all
        (isMatched (matchingRequirements u casefold (firstOfEach declared) evidence))) = true ↔
      AllAnswered u casefold evidence declared (fun r => name ∈ r.requiredForSections) := by
    rw [List.all_eq_true]
    constructor
    · intro h r hr hkept hrequired hname
      refine (isMatched_iff hkept).mp (h r (List.mem_filter.mpr
        ⟨(mem_firstOfEach_iff declared r).mpr hkept, ?_⟩))
      simp [hrequired, hname]
    · intro h r hr
      rcases List.mem_filter.mp hr with ⟨hr, hnamed⟩
      rw [Bool.and_eq_true, List.contains_iff_mem] at hnamed
      have hkept := (mem_firstOfEach_iff declared r).mp hr
      exact (isMatched_iff hkept).mpr (h r hkept.mem hkept hnamed.1 hnamed.2)
  have hsection : name ∈ (firstOfEach declared).flatMap (·.requiredForSections) ↔
      ∃ r, Kept declared r ∧ name ∈ r.requiredForSections := by
    rw [List.mem_flatMap]
    exact exists_congr fun r => and_congr_left' (mem_firstOfEach_iff declared r)
  rw [hcoverage, coverageOf, ← hall, ← hsection]
  constructor
  · intro hlookup
    rcases List.mem_map.mp (mem_dictOf _ _ (mem_of_lookup hlookup)) with ⟨found, hfound, heq⟩
    rw [Prod.mk.injEq] at heq
    exact heq.1 ▸ ⟨hfound, heq.2⟩
  · rintro ⟨hfound, htrue⟩
    refine lookup_dictOf_of_mem (List.mem_map.mpr ⟨name, hfound, ?_⟩) fun v hv => ?_
    · rw [htrue]
    · rcases List.mem_map.mp hv with ⟨found, -, heq⟩
      rw [Prod.mk.injEq] at heq
      rw [← heq.2, heq.1, htrue]

variable (lax : Lax) (u casefold) (skillSet : ResolvedSkillSet) (evidence)

/-- What the check of the collected requirements reports is there is there: all
    that is required where it says full, and all that is required for a section
    where it says that the section is covered. -/
def Enforced : Prop :=
  ∀ declared requirements, declaredRequirements lax skillSet = .ok declared →
    collectRequirements lax skillSet = .ok requirements →
      ((check u casefold requirements evidence).answerable = true ∧
          (check u casefold requirements evidence).publishMode = "full" →
        AllMet u casefold evidence declared (fun _ => True)) ∧
        ∀ name,
          (check u casefold requirements evidence).sectionCoverage.lookup name = some true →
            AllMet u casefold evidence declared (fun r => name ∈ r.requiredForSections)

/-- Where the kept requirements have an answer, those that may slip through are
    met, and the same among those that name a section. -/
def NothingSlips : Prop :=
  ∀ declared, declaredRequirements lax skillSet = .ok declared →
    (AllAnswered u casefold evidence declared (fun _ => True) →
      SlackMet u casefold evidence declared (fun _ => True)) ∧
      ∀ name, (∃ r, Kept declared r ∧ name ∈ r.requiredForSections) →
        AllAnswered u casefold evidence declared (fun r => name ∈ r.requiredForSections) →
          SlackMet u casefold evidence declared (fun r => name ∈ r.requiredForSections)

/-- The check asks for enough exactly if nothing slips through. -/
theorem check_enforced_iff :
    Enforced u casefold evidence lax skillSet ↔ NothingSlips u casefold evidence lax skillSet := by
  have hcollect : ∀ declared, declaredRequirements lax skillSet = .ok declared →
      collectRequirements lax skillSet = .ok (firstOfEach declared) := by
    intro declared h
    rw [collectRequirements, h]
    rfl
  constructor
  · intro h declared hdeclared
    rcases h declared _ hdeclared (hcollect declared hdeclared) with ⟨hfull, hsections⟩
    refine ⟨fun hanswered => ?_, fun name hnamed hanswered => ?_⟩
    · exact (allMet_iff hanswered).mp (hfull (check_full_iff.mpr hanswered))
    · exact (allMet_iff hanswered).mp (hsections name ((coverage_iff name).mpr
        ⟨hnamed, hanswered⟩))
  · intro h declared requirements hdeclared hrequirements
    rw [hcollect declared hdeclared] at hrequirements
    cases hrequirements
    rcases h declared hdeclared with ⟨hfull, hsections⟩
    refine ⟨fun hchecked => ?_, fun name hcovered => ?_⟩
    · have hanswered := check_full_iff.mp hchecked
      exact (allMet_iff hanswered).mpr (hfull hanswered)
    · rcases (coverage_iff name).mp hcovered with ⟨hnamed, hanswered⟩
      exact (allMet_iff hanswered).mpr (hsections name hnamed hanswered)

end Verdict

section Slip

/-- How the numbers of texts are read is of no use here. -/
def plainLax : Lax where
  intOfText := fun _ => none
  boolOfText := fun _ => none

/-- A requirement for three documents. -/
def threeRows : SkillEvidenceRequirement where
  evidenceId := "rows"
  evidenceType := "db"
  required := true
  minDocs := 3

/-- A data skill that declares it. -/
def threeRowsSkills : ResolvedSkillSet where
  reportSkill := { skillId := "r", reportType := "t" }
  dataSkill := some {
    skillId := "d"
    evidenceRequirements := [[("evidence_id", .str "rows"), ("evidence_type", .str "db"),
      ("required", .bool true), ("min_docs", .int 3)]] }

/-- One document is enough for it. -/
theorem one_document_is_enough :
    ¬ Enforced default id [[("evidence_id", .str "rows")]] plainLax threeRowsSkills := by
  intro h
  have hmet := (h [threeRows] [threeRows] rfl rfl).1 (by decide) threeRows
    (List.mem_singleton_self _) rfl trivial
  rcases hmet with ⟨docs, hnodup, hdocs, hlength⟩
  have hsub : docs ⊆ [[("evidence_id", .str "rows")]] := fun d hd => (hdocs d hd).1
  have hle := (hnodup.subperm hsub).length_le
  rw [List.length_singleton] at hle
  have hthree : (3 : Int) ≤ docs.length := le_of_max_le_right hlength
  omega

end Slip

end EvidenceAdapter

end AgenticRag

import AgenticRag.Core.HumanReview

/-!
# The Reviews of a Report

The way a report may take: it waits for its review, is approved and then
published, and once it was rejected, or is to be written again, it waits for a
review before it is published. Whether it keeps to that is a question of its
whole history, as a review looks at the status only to keep it.

An approval makes a report public whatever became of it before, so the way is
left exactly by the approvals that come to a report that neither waits nor is
approved (`legal_statuses_iff`). Nothing sends a report back to wait, so one
that was rejected is never public again where all approvals come in time
(`unpublished_of_orderly`).

## Main definitions

* `statuses`: The statuses of a report along its reviews.
* `Approves`, `InTime`, `Orderly`: Approvals that come when they may.

## Theorems

* `inTime_iff`: When one review keeps to the way.
* `unpublished_of_orderly`: A rejected report stays unpublished.
* `legal_statuses_iff`: When a history keeps to the way.
-/

namespace AgenticRag

namespace Report

/-- The statuses of a report along its reviews. -/
def statuses : ReportArtifact → List (Option HumanReviewResult) → List PublishStatus
  | a, [] => [a.status]
  | a, review :: reviews => a.status :: statuses (applyReview a review).2 reviews

/-- A report that is not public, and does not wait to be. -/
def PublishStatus.isWithdrawn : PublishStatus → Bool
  | .rejected => true
  | .draft => true
  | _ => false

/-- A report becomes public only from where it waits or is approved, and one that
    was withdrawn waits again before it is published. -/
structure Legal (way : List PublishStatus) : Prop where
  entered : ∀ (i : Nat) (s t : PublishStatus), way[i]? = some s → way[i + 1]? = some t → s ≠ t →
    t.isPublic → s = .pendingReview ∨ s = .approved
  again : ∀ (i k : Nat) (s : PublishStatus), i < k → way[i]? = some s → s.isWithdrawn →
    way[k]? = some .published → ∃ j, i < j ∧ j < k ∧ way[j]? = some .pendingReview

/-- The review approves the report. -/
def Approves (review : Option HumanReviewResult) : Prop :=
  ∃ r ∈ review, r.action = "approve" ∧ r.approved

instance (review : Option HumanReviewResult) : Decidable (Approves review) :=
  inferInstanceAs (Decidable (∃ r ∈ review, _ ∧ _))

/-- An approval comes to a report that waits or is approved, or allows a published
    report what it has. -/
def InTime (status : PublishStatus) (review : Option HumanReviewResult) : Prop :=
  Approves review → status = .pendingReview ∨ status = .approved ∨
    (status = .published ∧ ∃ r ∈ review, r.publishAllowed)

instance (status : PublishStatus) (review : Option HumanReviewResult) :
    Decidable (InTime status review) :=
  inferInstanceAs (Decidable (_ → _))

/-- Every approval comes in time. -/
def Orderly : ReportArtifact → List (Option HumanReviewResult) → Prop
  | _, [] => True
  | a, review :: reviews => InTime a.status review ∧ Orderly (applyReview a review).2 reviews

theorem status_applyReview (a : ReportArtifact) (review : Option HumanReviewResult) :
    (applyReview a review).2.status = (transitionPublishStatus a.status review).1 := rfl

theorem status_of_approves {review : HumanReviewResult} (current : PublishStatus)
    (haction : review.action = "approve") (happroved : review.approved = true) :
    (transitionPublishStatus current (some review)).1 =
      if review.publishAllowed then .published else .approved := by
  rw [transitionPublishStatus, if_pos ⟨haction, happroved⟩]
  split_ifs <;> rfl

/-- A review that does not approve keeps the status or withdraws the report. -/
theorem status_of_not_approves {review : Option HumanReviewResult} (current : PublishStatus)
    (h : ¬ Approves review) :
    (transitionPublishStatus current review).1 = current ∨
      (transitionPublishStatus current review).1.isWithdrawn := by
  cases review with
  | none => exact .inl rfl
  | some review =>
      rw [transitionPublishStatus, if_neg (fun happroves => h ⟨review, rfl, happroves⟩)]
      split_ifs
      · exact .inr rfl
      · exact .inr rfl
      · exact .inl rfl
      · exact .inl rfl

theorem not_isPublic_of_isWithdrawn {s : PublishStatus} (h : s.isWithdrawn = true) :
    s.isPublic = false := by
  cases s <;> first | rfl | cases h

/-- The reviews that come in time are those that keep to the way. -/
theorem inTime_iff (current : PublishStatus) (review : Option HumanReviewResult) :
    InTime current review ↔
      (current ≠ (transitionPublishStatus current review).1 →
        (transitionPublishStatus current review).1.isPublic →
          current = .pendingReview ∨ current = .approved) := by
  by_cases happroves : Approves review
  · rcases happroves with ⟨r, hr, haction, happroved⟩
    cases hr
    rw [status_of_approves current haction happroved, InTime]
    have hyes : Approves (some r) := ⟨r, rfl, haction, happroved⟩
    simp only [hyes, true_imp_iff, Option.mem_some_iff, exists_eq_left']
    -- Each status, and whether the approval allows publishing.
    cases current <;> cases r.publishAllowed <;> simp [PublishStatus.isPublic]
  · refine ⟨fun _ hchanged hpublic => ?_, fun _ hyes => absurd hyes happroves⟩
    -- What is no approval makes no report public.
    rcases status_of_not_approves current happroves with hkept | hwithdrawn
    · exact absurd hkept.symm hchanged
    · rw [not_isPublic_of_isWithdrawn hwithdrawn] at hpublic
      cases hpublic

/-- Where approvals come in time, a withdrawn report stays withdrawn. -/
theorem isWithdrawn_applyReview {a : ReportArtifact} {review : Option HumanReviewResult}
    (hwithdrawn : a.status.isWithdrawn = true) (htime : InTime a.status review) :
    (applyReview a review).2.status.isWithdrawn = true := by
  have hno : ¬ Approves review := by
    intro hyes
    -- An approval in time comes to none of the withdrawn statuses.
    rcases htime hyes with h | h | ⟨h, -⟩ <;> rw [h] at hwithdrawn <;> cases hwithdrawn
  rw [status_applyReview]
  rcases status_of_not_approves a.status hno with hkept | h
  · rw [hkept]
    exact hwithdrawn
  · exact h

theorem statuses_head (a : ReportArtifact) (reviews : List (Option HumanReviewResult)) :
    (statuses a reviews)[0]? = some a.status := by
  cases reviews <;> rfl

theorem unpublished_of_orderly {a : ReportArtifact} {reviews : List (Option HumanReviewResult)}
    (horderly : Orderly a reviews) (hwithdrawn : a.status.isWithdrawn = true) :
    ∀ s ∈ statuses a reviews, s.isWithdrawn = true := by
  induction reviews generalizing a with
  | nil =>
      intro s hs
      rw [List.mem_singleton.mp hs]
      exact hwithdrawn
  | cons review reviews ih =>
      intro s hs
      rcases List.mem_cons.mp hs with rfl | hs
      · exact hwithdrawn
      · exact ih horderly.2 (isWithdrawn_applyReview hwithdrawn horderly.1) s hs

/-- A withdrawn report is never published where all approvals come in time. -/
theorem not_published_of_orderly {a : ReportArtifact} {reviews : List (Option HumanReviewResult)}
    (horderly : Orderly a reviews) {i k : Nat} (hik : i < k) {s : PublishStatus}
    (hs : (statuses a reviews)[i]? = some s) (hwithdrawn : s.isWithdrawn = true) :
    (statuses a reviews)[k]? ≠ some .published := by
  induction reviews generalizing a i k with
  | nil =>
      rw [statuses, List.getElem?_eq_none (by simp; omega)]
      rintro ⟨⟩
  | cons review reviews ih =>
      intro hk
      -- The report is withdrawn now, or by a later review.
      cases i with
      | zero =>
          have hstatus : a.status = s := Option.some.inj hs
          have := unpublished_of_orderly horderly (hstatus ▸ hwithdrawn) _
            (List.mem_of_getElem? hk)
          cases this
      | succ i =>
          cases k with
          | zero => exact absurd hik (Nat.not_lt_zero _)
          | succ k => exact ih horderly.2 (Nat.lt_of_succ_lt_succ hik) hs hk

theorem entered_of_orderly {a : ReportArtifact} {reviews : List (Option HumanReviewResult)}
    (horderly : Orderly a reviews) {i : Nat} {s t : PublishStatus}
    (hs : (statuses a reviews)[i]? = some s) (ht : (statuses a reviews)[i + 1]? = some t)
    (hchanged : s ≠ t) (hpublic : t.isPublic = true) : s = .pendingReview ∨ s = .approved := by
  induction reviews generalizing a i with
  | nil => cases ht
  | cons review reviews ih =>
      -- The change is made by the first review, or by a later one.
      cases i with
      | zero =>
          rw [statuses, List.getElem?_cons_succ, statuses_head, status_applyReview] at ht
          cases hs
          cases ht
          exact (inTime_iff _ _).mp horderly.1 hchanged hpublic
      | succ i => exact ih horderly.2 hs ht

theorem orderly_of_entered {a : ReportArtifact} {reviews : List (Option HumanReviewResult)}
    (h : ∀ i s t, (statuses a reviews)[i]? = some s → (statuses a reviews)[i + 1]? = some t →
      s ≠ t → t.isPublic → s = .pendingReview ∨ s = .approved) : Orderly a reviews := by
  induction reviews generalizing a with
  | nil => trivial
  | cons review reviews ih =>
      -- The first two statuses say that the first review is in time.
      refine ⟨(inTime_iff _ _).mpr (h 0 _ _ rfl ?_), ih (fun i => h (i + 1))⟩
      rw [statuses, List.getElem?_cons_succ, statuses_head, status_applyReview]

/-- The status a report starts with, in the report. -/
def evaluated (cfg : ReviewConfig) (a : ReportArtifact) (publishPolicy : Py.Dict)
    (skillType : String) : ReportArtifact :=
  { a with publishStatus := some (evaluate cfg a.claims publishPolicy skillType).1 }

/-- From the status a report starts with, its reviews keep to the way exactly if
    every approval comes in time. -/
theorem legal_statuses_iff (cfg : ReviewConfig) (a : ReportArtifact) (publishPolicy : Py.Dict)
    (skillType : String) (reviews : List (Option HumanReviewResult)) :
    Legal (statuses (evaluated cfg a publishPolicy skillType) reviews) ↔
      Orderly (evaluated cfg a publishPolicy skillType) reviews := by
  refine ⟨fun h => orderly_of_entered h.entered, fun h => ⟨?_, ?_⟩⟩
  · intro i s t hs ht hchanged hpublic
    exact entered_of_orderly h hs ht hchanged hpublic
  · intro i k s hik hs hwithdrawn hk
    exact absurd hk (not_published_of_orderly h hik hs hwithdrawn)

/-- A review that rejects. -/
def rejection : HumanReviewResult :=
  { action := "reject", comments := [], approved := false, publishAllowed := false }

/-- A review that approves. -/
def release : HumanReviewResult :=
  { action := "approve", comments := [], approved := true, publishAllowed := true }

/-- A report that was rejected is published by the next approval. -/
theorem not_legal_rejected_released :
    ¬ Legal (statuses (evaluated {} {} [("require_human_review", .bool true)] "")
      [some rejection, some release]) := by
  intro h
  have hentered := h.entered 1 .rejected .published (by decide) (by decide) (by decide) (by decide)
  revert hentered
  decide

end Report

end AgenticRag

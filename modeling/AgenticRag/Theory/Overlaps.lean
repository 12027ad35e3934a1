import AgenticRag.Core.FactChecker
import AgenticRag.Lib.RegexReads
import AgenticRag.Lib.Sweep
import Mathlib.Data.List.Pairwise

/-!
# Overlapping Entities

Which of the readings of a text are kept where they overlap. The readings are
put in the order of their starts, those with the same start in the order of
their kinds, and each is kept unless it overlaps one that was. So the entities
are apart and in order. A reading that is dropped overlaps one that starts no
later, and if they start together that one is of the same kind or a more
specific one.

A less specific reading that starts earlier still comes first. A number takes
the white space before it along, so a date behind a space is dropped for the
number at its beginning. `TakesPrecedence` is the condition on the readings
under which kinds decide.

## Main definitions

* `inOrder`: The readings of a text in the order they are gone through.
* `TakesPrecedence`: No reading starts inside a less specific one that is
  reached, unless it goes on into the next that is not.

## Theorems

* `candidates_span`: A reading has a length.
* `extractEntities_apart`: The entities are apart and in order.
* `extractEntities_respected_iff`: When kinds decide.
-/

namespace AgenticRag

namespace FactChecker

open Py Ordered Sweep

section Spans

/-- The span of a reading that comes from a match. -/
theorem span_of_filterMap {pattern : Regex} {text : String} {f : Match → Option Entity}
    (hlength : 0 < pattern.minLength)
    (hspan : ∀ m e, f m = some e → e.span = (m.start, m.stop)) {e : Entity}
    (h : e ∈ (finditer pattern text).filterMap f) : e.span.1 < e.span.2 := by
  rcases List.mem_filterMap.mp h with ⟨m, hm, he⟩
  rw [hspan m e he]
  exact start_lt_stop hlength hm

variable (u : Unicode)

/-- A reading has a length. -/
theorem candidates_span {text : String} {e : Entity} (h : e ∈ candidates u text) :
    e.span.1 < e.span.2 := by
  simp only [candidates, List.mem_append] at h
  rcases h with (((((((h | h) | h) | h) | h) | h) | h) | h) | h
  · refine span_of_filterMap (by decide) (fun m e he => ?_) h
    split at he
    · split at he
      · cases he
        rfl
      · cases he
    · cases he
  · refine span_of_filterMap (by decide) (fun m e he => ?_) h
    rcases Option.map_eq_some_iff.mp he with ⟨year, -, rfl⟩
    rfl
  · refine span_of_filterMap (by decide) (fun m e he => ?_) h
    rcases Option.map_eq_some_iff.mp he with ⟨year, -, rfl⟩
    rfl
  · refine span_of_filterMap (by decide) (fun m e he => ?_) h
    dsimp only at he
    split at he
    · cases he
      rfl
    · cases he
  · refine span_of_filterMap (by decide) (fun m e he => ?_) h
    dsimp only at he
    rcases Option.map_eq_some_iff.mp he with ⟨q, -, rfl⟩
    rfl
  · refine span_of_filterMap (by decide) (fun m e he => ?_) h
    rcases Option.map_eq_some_iff.mp he with ⟨q, -, rfl⟩
    rfl
  · refine span_of_filterMap (by decide) (fun m e he => ?_) h
    split at he
    · cases he
      rfl
    · cases he
  · refine span_of_filterMap (by decide) (fun m e he => ?_) h
    rcases Option.map_eq_some_iff.mp he with ⟨q, -, rfl⟩
    rfl
  · refine span_of_filterMap (by decide) (fun m e he => ?_) h
    rcases Option.bind_eq_some_iff.mp he with ⟨raw, -, he⟩
    dsimp only at he
    split at he
    · cases he
      rfl
    · cases he

theorem candidates_empty : candidates u "" = [] := by
  with_unfolding_all rfl

end Spans

section Order

variable (u : Unicode)

/-- One reading comes before another, or they are in the same place. -/
def Precedes (a b : Entity) : Prop :=
  a.span.1 < b.span.1 ∨ a.span.1 = b.span.1 ∧ typePriority a.type ≤ typePriority b.type

instance (a b : Entity) : Decidable (Precedes a b) :=
  inferInstanceAs (Decidable (_ ∨ _))

instance : Std.Total Precedes := by
  constructor
  intro a b
  unfold Precedes
  omega

instance : IsTrans Entity Precedes := by
  constructor
  intro a b c hab hbc
  unfold Precedes at hab hbc ⊢
  omega

/-- The readings of a text in the order they are gone through. -/
def inOrder (text : String) : List Entity :=
  (candidates u text).insertionSort Precedes

theorem mem_inOrder {text : String} {e : Entity} : e ∈ inOrder u text ↔ e ∈ candidates u text :=
  (List.perm_insertionSort _ _).mem_iff

theorem dropOverlapping_eq_sweep (kept es : List Entity) :
    dropOverlapping kept es = sweep (meets (fun e => e.span.1) (fun e => e.span.2)) kept es := by
  induction es generalizing kept with
  | nil => rfl
  | cons e rest ih =>
      rw [dropOverlapping, sweep, ih, ih]
      rfl

/-- The entities of a text are what a sweep over its readings keeps. -/
theorem extractEntities_eq_sweep (text : String) :
    extractEntities u text =
      sweep (meets (fun e => e.span.1) (fun e => e.span.2)) [] (inOrder u text) := by
  unfold extractEntities
  split
  next hempty =>
    have htext : text = "" := by simpa using hempty
    rw [htext, inOrder, candidates_empty]
    rfl
  · rw [dropOverlapping_eq_sweep]
    rfl

theorem inOrder_pairwise (text : String) : (inOrder u text).Pairwise Precedes :=
  List.pairwise_insertionSort _ _

theorem nil_inOrder_pairwise (text : String) : ([] ++ inOrder u text).Pairwise Precedes := by
  rw [List.nil_append]
  exact inOrder_pairwise u text

theorem inOrder_span {text : String} {e : Entity} (h : e ∈ inOrder u text) :
    e.span.1 < e.span.2 :=
  candidates_span u ((mem_inOrder u).mp h)

theorem dropOverlapping_subset (kept es : List Entity) :
    dropOverlapping kept es ⊆ kept ++ es := by
  induction es generalizing kept with
  | nil => simp [dropOverlapping]
  | cons e rest ih =>
      rw [dropOverlapping]
      split
      · intro x hx
        have hin := ih kept hx
        simp only [List.mem_append, List.mem_cons] at hin ⊢
        tauto
      · intro x hx
        have hin := ih (kept ++ [e]) hx
        simp only [List.mem_append, List.mem_cons, List.not_mem_nil, or_false] at hin ⊢
        tauto

theorem mem_inOrder_of_extracted {text : String} {e : Entity} (h : e ∈ extractEntities u text) :
    e ∈ inOrder u text := by
  rw [extractEntities_eq_sweep, ← dropOverlapping_eq_sweep] at h
  have hsub := dropOverlapping_subset [] _ h
  rwa [List.nil_append] at hsub

end Order

section Kept

variable (u : Unicode) (text : String)

/-- The entities are apart and in order. -/
theorem extractEntities_apart :
    (extractEntities u text).Pairwise (fun a b => a.span.2 ≤ b.span.1) := by
  have hspan : ∀ e ∈ extractEntities u text, e.span.1 < e.span.2 := fun e he =>
    inOrder_span u (mem_inOrder_of_extracted u he)
  have hkept : (extractEntities u text).Pairwise (fun a b => Precedes a b ∧
      meets (fun e => e.span.1) (fun e => e.span.2) b a = false) := by
    rw [extractEntities_eq_sweep]
    exact pairwise_sweep List.Pairwise.nil (nil_inOrder_pairwise u text)
  refine hkept.imp_of_mem ?_
  rintro a b - hb ⟨hprecedes, hmeets⟩
  have hlength := hspan b hb
  unfold Precedes at hprecedes
  simp only [meets, Bool.not_eq_false', Bool.or_eq_true, decide_eq_true_eq] at hmeets
  omega

/-- A reading is dropped for one that comes before it. -/
theorem extracted_or_overlaps {e : Entity} (he : e ∈ candidates u text) :
    e ∈ extractEntities u text ∨
      ∃ k ∈ extractEntities u text, Precedes k e ∧ overlaps e.span k.span = true := by
  rw [extractEntities_eq_sweep]
  exact mem_sweep_or_conflict (nil_inOrder_pairwise u text) ((mem_inOrder u).mpr he)

/-- One entity is of the same kind as a reading or a more specific one, and
    overlaps it. -/
def Outranks (k e : Entity) : Prop :=
  overlaps e.span k.span = true ∧ typePriority k.type ≤ typePriority e.type

instance (k e : Entity) : Decidable (Outranks k e) :=
  inferInstanceAs (Decidable (_ ∧ _))

/-- A reading is dropped only for an entity that outranks it. -/
def Respected : Prop :=
  ∀ e ∈ candidates u text, e ∉ extractEntities u text →
    ∃ k ∈ extractEntities u text, Outranks k e

instance : Decidable (Respected u text) :=
  inferInstanceAs (Decidable (∀ _ ∈ _, _))

/-- A reading is reached from the first one of a text, from each to the first
    that starts at or after its end. -/
def IsReached (e : Entity) : Prop :=
  Reached (fun e => e.span.1) (fun e => e.span.2) (inOrder u text) e

/-- No reading starts inside a less specific one that is reached, unless it
    goes on beyond the start of a later one that is reached and not less
    specific than it. -/
def TakesPrecedence : Prop :=
  ∀ a, IsReached u text a → ∀ e ∈ candidates u text,
    a.span.1 < e.span.1 → e.span.1 < a.span.2 → typePriority e.type < typePriority a.type →
    ∃ k, IsReached u text k ∧ a.span.2 ≤ k.span.1 ∧ k.span.1 < e.span.2 ∧
      typePriority k.type ≤ typePriority e.type

variable {u text}

theorem isReached_iff {e : Entity} : IsReached u text e ↔ e ∈ extractEntities u text := by
  rw [extractEntities_eq_sweep]
  refine (mem_sweep_iff_reached (fun e he => inOrder_span u he) ?_ e).symm
  refine (inOrder_pairwise u text).imp (fun h => ?_)
  unfold Precedes at h
  omega

/-- Two entities do not overlap. -/
theorem extracted_apart {a b : Entity} (ha : a ∈ extractEntities u text)
    (hb : b ∈ extractEntities u text) (hne : a ≠ b) :
    a.span.2 ≤ b.span.1 ∨ b.span.2 ≤ a.span.1 := by
  have hpairs : (extractEntities u text).Pairwise
      (fun a b => a.span.2 ≤ b.span.1 ∨ b.span.2 ≤ a.span.1) :=
    (extractEntities_apart u text).imp Or.inl
  have : Std.Symm (fun a b : Entity => a.span.2 ≤ b.span.1 ∨ b.span.2 ≤ a.span.1) :=
    ⟨fun _ _ => Or.symm⟩
  exact hpairs.forall ha hb hne

theorem overlaps_iff {a b : Nat × Nat} : overlaps a b = true ↔ b.1 < a.2 ∧ a.1 < b.2 := by
  simp only [overlaps, Bool.not_eq_true', Bool.or_eq_false_iff, decide_eq_false_iff_not, not_le]

/-- The entities of a text are apart and in order, and a reading is dropped
    only for one that outranks it, exactly where no reading that starts inside
    a less specific one is lost to it. -/
theorem extractEntities_respected_iff (u : Unicode) (text : String) :
    (extractEntities u text).Pairwise (fun a b => a.span.2 ≤ b.span.1) ∧
      (Respected u text ↔ TakesPrecedence u text) := by
  refine ⟨extractEntities_apart u text, fun h => ?_, fun h => ?_⟩
  · intro a ha e he hafter hinside hlower
    rw [isReached_iff] at ha
    have hspan := candidates_span u he
    have hdropped : e ∉ extractEntities u text := by
      intro hkept
      rcases extracted_apart ha hkept (fun h => by rw [h] at hlower; omega) with h | h <;> omega
    rcases h e he hdropped with ⟨k, hk, hoverlaps, hrank⟩
    rw [overlaps_iff] at hoverlaps
    -- The one it is dropped for is another, and not before the first.
    refine ⟨k, isReached_iff.mpr hk, ?_, hoverlaps.1, hrank⟩
    rcases extracted_apart ha hk (fun h => by rw [h] at hlower; omega) with h | h <;> omega
  · intro e he hdropped
    rcases extracted_or_overlaps u text he with hkept | ⟨k, hk, hprecedes, hoverlaps⟩
    · exact absurd hkept hdropped
    by_cases hrank : typePriority k.type ≤ typePriority e.type
    · exact ⟨k, hk, hoverlaps, hrank⟩
    · rw [overlaps_iff] at hoverlaps
      -- A less specific one comes before only if it starts before.
      have hbefore : k.span.1 < e.span.1 := by
        unfold Precedes at hprecedes
        omega
      rcases h k (isReached_iff.mpr hk) e he hbefore hoverlaps.2 (Nat.not_le.mp hrank) with
        ⟨f, hf, hlater, hover, hspecific⟩
      have hmem := isReached_iff.mp hf
      have hspan := inOrder_span u (mem_inOrder_of_extracted u hmem)
      exact ⟨f, hmem, overlaps_iff.mpr ⟨hover, by omega⟩, hspecific⟩

/-- Behind a space a date is dropped for the number at its beginning. -/
theorem date_lost_behind_space :
    extractEntities default "on 2024-09-30" ≠ [] ∧
      (extractEntities default "on 2024-09-30").all (fun e => e.type ≠ .date) ∧
      (candidates default "on 2024-09-30").any (fun e => e.type = .date) ∧
      ¬ Respected default "on 2024-09-30" := by
  decide

end Kept

end FactChecker

end AgenticRag

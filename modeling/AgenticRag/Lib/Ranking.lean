import AgenticRag.Lib.Ordered
import Mathlib.Data.List.Pairwise

/-!
# Ranked Lists

What is done with a list in falling order before it is shown. Of the elements with
one identifier only the first is kept, those below a bound are left out, and the
list is cut where the key falls too far at once.

The last two take a front of a list in falling order, and a front of the front they
take is a front of what they took before. That is why cutting again changes nothing.

## Main definitions

* `dedupOn`: The first of the elements with each identifier.
* `cutAtCliff`: The elements before the key falls too far.

## Theorems

* `dedupOn_of_nodup`: Different identifiers are all kept.
* `atLeast_mono`, `cutAtCliff_mono`: Of a front, a front of what was taken before.
-/

namespace AgenticRag

namespace Ordered

section Dedup

/-- Where identifiers differ, an identifier is that of one element. -/
theorem eq_of_nodup_filterMap {α ι : Type*} {id : α → Option ι} {xs : List α}
    (h : (xs.filterMap id).Nodup) {a b : α} (ha : a ∈ xs) (hb : b ∈ xs) {i : ι}
    (hai : id a = some i) (hbi : id b = some i) : a = b := by
  -- Two elements in different places would give the identifier twice.
  by_contra hne
  have hpairs := List.pairwise_filterMap.mp h
  have hsymm : Std.Symm (fun a a' => ∀ j, id a = some j → ∀ j', id a' = some j' → j ≠ j') :=
    ⟨fun _ _ hab j hj j' hj' heq => hab j' hj' j hj heq.symm⟩
  exact hpairs.forall ha hb hne i hai i hbi rfl

variable {α ι : Type*} [DecidableEq ι] (id : α → Option ι)

/-- The first of the elements with each identifier, and all without one. -/
def dedupOn (seen : List ι) : List α → List α
  | [] => []
  | a :: rest =>
      match id a with
      | none => a :: dedupOn seen rest
      | some i => if i ∈ seen then dedupOn seen rest else a :: dedupOn (i :: seen) rest

variable {id} {seen : List ι} {xs : List α}

theorem dedupOn_cons_none {a : α} (h : id a = none) (rest : List α) :
    dedupOn id seen (a :: rest) = a :: dedupOn id seen rest := by
  rw [dedupOn, h]

theorem dedupOn_cons_seen {a : α} {i : ι} (h : id a = some i) (hseen : i ∈ seen) (rest : List α) :
    dedupOn id seen (a :: rest) = dedupOn id seen rest := by
  rw [dedupOn, h]
  exact if_pos hseen

theorem dedupOn_cons_new {a : α} {i : ι} (h : id a = some i) (hnew : i ∉ seen) (rest : List α) :
    dedupOn id seen (a :: rest) = a :: dedupOn id (i :: seen) rest := by
  rw [dedupOn, h]
  exact if_neg hnew

/-- The first element is always kept. -/
theorem dedupOn_cons (id : α → Option ι) (a : α) (rest : List α) :
    ∃ seen, dedupOn id [] (a :: rest) = a :: dedupOn id seen rest := by
  cases hid : id a with
  | none => exact ⟨[], dedupOn_cons_none hid rest⟩
  | some i => exact ⟨[i], dedupOn_cons_new hid List.not_mem_nil rest⟩

/-- Images that keep the identifiers are kept where what they are images of is. -/
theorem dedupOn_map {β : Type*} (id : β → Option ι) (f : α → β) (seen : List ι) (xs : List α) :
    dedupOn id seen (xs.map f) = (dedupOn (fun a => id (f a)) seen xs).map f := by
  induction xs generalizing seen with
  | nil => rfl
  | cons a rest ih =>
      rw [List.map_cons, dedupOn, dedupOn]
      cases id (f a) with
      | none => rw [List.map_cons, ih]
      | some i =>
          by_cases hseen : i ∈ seen
          · simp only [if_pos hseen, ih]
          · simp only [if_neg hseen, ih, List.map_cons]

theorem dedupOn_sublist (seen : List ι) (xs : List α) : (dedupOn id seen xs).Sublist xs := by
  induction xs generalizing seen with
  | nil => exact .slnil
  | cons a rest ih =>
      cases hid : id a with
      | none =>
          rw [dedupOn_cons_none hid]
          exact (ih seen).cons_cons a
      | some i =>
          by_cases hseen : i ∈ seen
          · rw [dedupOn_cons_seen hid hseen]
            exact (ih seen).cons a
          · rw [dedupOn_cons_new hid hseen]
            exact (ih (i :: seen)).cons_cons a

/-- No identifier is kept twice, and none that was seen before. -/
theorem dedupOn_nodup (seen : List ι) (xs : List α) :
    ((dedupOn id seen xs).filterMap id).Nodup ∧
      ∀ i ∈ seen, i ∉ (dedupOn id seen xs).filterMap id := by
  -- What was seen before is generalized: it grows with every identifier.
  induction xs generalizing seen with
  | nil => exact ⟨List.nodup_nil, fun _ _ => List.not_mem_nil⟩
  | cons a rest ih =>
      cases hid : id a with
      | none =>
          rw [dedupOn_cons_none hid, List.filterMap_cons_none hid]
          exact ih seen
      | some i =>
          by_cases hseen : i ∈ seen
          · rw [dedupOn_cons_seen hid hseen]
            exact ih seen
          · rw [dedupOn_cons_new hid hseen, List.filterMap_cons_some hid]
            refine ⟨List.nodup_cons.mpr ⟨(ih (i :: seen)).2 i List.mem_cons_self,
              (ih (i :: seen)).1⟩, fun j hj hmem => ?_⟩
            -- The identifier that was just added is none of those seen before.
            rcases List.mem_cons.mp hmem with rfl | hmem
            · exact hseen hj
            · exact (ih (i :: seen)).2 j (List.mem_cons_of_mem _ hj) hmem

/-- For every element there is one with its identifier that is kept, and comes no
    later. -/
theorem exists_mem_dedupOn {R : α → α → Prop} (hR : ∀ a, R a a) (h : xs.Pairwise R) {a : α}
    (ha : a ∈ xs) {i : ι} (hid : id a = some i) (hnew : i ∉ seen) :
    ∃ b ∈ dedupOn id seen xs, id b = some i ∧ R b a := by
  induction xs generalizing seen with
  | nil => cases ha
  | cons c rest ih =>
      rw [List.pairwise_cons] at h
      -- The element is the first with its identifier, or one before it is.
      have hfirst : id c = some i → ∃ b ∈ dedupOn id seen (c :: rest), id b = some i ∧ R b a := by
        intro hc
        rw [dedupOn_cons_new hc hnew]
        refine ⟨c, List.mem_cons_self, hc, ?_⟩
        rcases List.mem_cons.mp ha with rfl | ha
        · exact hR a
        · exact h.1 a ha
      by_cases hc : id c = some i
      · exact hfirst hc
      have hrest : a ∈ rest := by
        rcases List.mem_cons.mp ha with rfl | ha
        · exact absurd hid hc
        · exact ha
      -- Otherwise the element is looked for behind the first.
      cases hcid : id c with
      | none =>
          rcases ih h.2 hrest hnew with ⟨b, hb, hbid⟩
          rw [dedupOn_cons_none hcid]
          exact ⟨b, List.mem_cons_of_mem _ hb, hbid⟩
      | some j =>
          have hij : i ≠ j := fun heq => hc (heq ▸ hcid)
          by_cases hseen : j ∈ seen
          · rw [dedupOn_cons_seen hcid hseen]
            exact ih h.2 hrest hnew
          · rw [dedupOn_cons_new hcid hseen]
            rcases ih h.2 hrest
              (List.not_mem_cons_of_ne_of_not_mem hij hnew) with ⟨b, hb, hbid⟩
            exact ⟨b, List.mem_cons_of_mem _ hb, hbid⟩

/-- What is left out has an identifier. -/
theorem dedupOn_perm (seen : List ι) (xs : List α) : ∃ repeated,
    (dedupOn id seen xs ++ repeated).Perm xs ∧ ∀ a ∈ repeated, ∃ i, id a = some i := by
  induction xs generalizing seen with
  | nil => exact ⟨[], .refl _, List.forall_mem_nil _⟩
  | cons a rest ih =>
      cases hid : id a with
      | none =>
          rcases ih seen with ⟨repeated, hperm, hrepeated⟩
          rw [dedupOn_cons_none hid]
          exact ⟨repeated, hperm.cons a, hrepeated⟩
      | some i =>
          by_cases hseen : i ∈ seen
          · rcases ih seen with ⟨repeated, hperm, hrepeated⟩
            rw [dedupOn_cons_seen hid hseen]
            exact ⟨a :: repeated, List.perm_middle.trans (hperm.cons a),
              List.forall_mem_cons.mpr ⟨⟨i, hid⟩, hrepeated⟩⟩
          · rcases ih (i :: seen) with ⟨repeated, hperm, hrepeated⟩
            rw [dedupOn_cons_new hid hseen]
            exact ⟨repeated, hperm.cons a, hrepeated⟩

/-- Elements with different identifiers are all kept. -/
theorem dedupOn_of_nodup (h : (xs.filterMap id).Nodup) (hnew : ∀ i ∈ seen, i ∉ xs.filterMap id) :
    dedupOn id seen xs = xs := by
  induction xs generalizing seen with
  | nil => rfl
  | cons a rest ih =>
      cases hid : id a with
      | none =>
          rw [List.filterMap_cons_none hid] at h hnew
          rw [dedupOn_cons_none hid, ih h hnew]
      | some i =>
          rw [List.filterMap_cons_some hid] at h hnew
          rw [List.nodup_cons] at h
          rw [dedupOn_cons_new hid (fun hi => hnew i hi List.mem_cons_self), ih h.2]
          intro j hj
          rcases List.mem_cons.mp hj with rfl | hj
          · exact h.1
          · exact fun hmem => hnew j hj (List.mem_cons_of_mem _ hmem)

end Dedup

section Cutting

variable {α κ : Type*} [LinearOrder κ] (key : α → κ)

/-- The elements that reach a bound. -/
def atLeast (bound : κ) (xs : List α) : List α := xs.filter (fun a => decide (bound ≤ key a))

variable {key} {xs ys : List α}

/-- Of a list in falling order those that reach a bound are the first. -/
theorem atLeast_front (h : xs.Pairwise (fun a b => key b ≤ key a)) (bound : κ) :
    atLeast key bound xs <+: xs := by
  unfold atLeast
  induction xs with
  | nil => exact List.prefix_rfl
  | cons a rest ih =>
      rw [List.pairwise_cons] at h
      by_cases ha : bound ≤ key a
      · rw [List.filter_cons_of_pos (by simpa using ha)]
        exact List.prefix_cons_inj a |>.mpr (ih h.2)
      · -- Nothing behind an element reaches what it does not.
        have hrest : rest.filter (fun b => decide (bound ≤ key b)) = [] := by
          refine List.filter_eq_nil_iff.mpr (fun b hb hbound => ha ?_)
          exact (of_decide_eq_true hbound).trans (h.1 b hb)
        rw [List.filter_cons_of_neg (by simpa using ha), hrest]
        exact List.nil_prefix

theorem atLeast_mono (bound : κ) (h : ys <+: xs) : atLeast key bound ys <+: atLeast key bound xs :=
  h.filter _

theorem atLeast_eq_self {bound : κ} (h : ∀ a ∈ xs, bound ≤ key a) : atLeast key bound xs = xs :=
  List.filter_eq_self.mpr (fun a ha => decide_eq_true (h a ha))

theorem le_of_mem_atLeast {bound : κ} {a : α} (h : a ∈ atLeast key bound xs) : bound ≤ key a :=
  of_decide_eq_true (List.mem_filter.mp h).2

variable [Sub κ] (key)

/-- The elements before the key falls by more than a bound from one to the next. -/
def cutAtCliff (bound : κ) : List α → List α
  | [] => []
  | [a] => [a]
  | a :: b :: rest =>
      if bound < key a - key b then [a] else a :: cutAtCliff bound (b :: rest)

variable {key} {bound : κ}

theorem cutAtCliff_front (xs : List α) : cutAtCliff key bound xs <+: xs := by
  fun_induction cutAtCliff key bound xs with
  | case1 => exact List.prefix_rfl
  | case2 => exact List.prefix_rfl
  | case3 a b rest hfall => exact (List.prefix_cons_inj a).mpr List.nil_prefix
  | case4 a b rest hfall ih => exact (List.prefix_cons_inj a).mpr ih

/-- A cut list is not cut again. -/
theorem cutAtCliff_cutAtCliff (xs : List α) :
    cutAtCliff key bound (cutAtCliff key bound xs) = cutAtCliff key bound xs := by
  fun_induction cutAtCliff key bound xs with
  | case1 => rfl
  | case2 => rfl
  | case3 => rfl
  | case4 a b rest hfall ih =>
      cases hcut : cutAtCliff key bound (b :: rest) with
      | nil => rfl
      | cons c cs =>
          -- The cut begins with the same element.
          have hc : c = b := by
            have hfront : cutAtCliff key bound (b :: rest) <+: b :: rest := cutAtCliff_front _
            rw [hcut] at hfront
            exact (List.cons_prefix_cons.mp hfront).1
          rw [hcut] at ih
          rw [cutAtCliff, hc, if_neg hfall, ← hc, ih]

theorem cutAtCliff_mono (h : ys <+: xs) :
    cutAtCliff key bound ys <+: cutAtCliff key bound xs := by
  induction ys generalizing xs with
  | nil => exact List.nil_prefix
  | cons a ys ih =>
      rcases h with ⟨t, rfl⟩
      -- Whether the list is cut behind an element is decided by the next one.
      cases ys with
      | nil =>
          cases t with
          | nil => exact List.prefix_rfl
          | cons b t =>
              rw [List.singleton_append, cutAtCliff, cutAtCliff]
              split_ifs
              · exact List.prefix_rfl
              · exact (List.prefix_cons_inj a).mpr List.nil_prefix
      | cons b ys =>
          rw [List.cons_append, List.cons_append, cutAtCliff, cutAtCliff]
          split_ifs
          · exact List.prefix_rfl
          · exact (List.prefix_cons_inj a).mpr (ih (List.prefix_append _ _))

end Cutting

end Ordered

end AgenticRag

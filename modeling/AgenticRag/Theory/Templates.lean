import AgenticRag.Core.SkillPlanner
import Mathlib.Data.List.Count

/-!
# Filling Templates

Two ways to fill a value that differ in one variable give the same value exactly
if the variable has the same text in both or is not mentioned. The pieces around
the variable are the same, so a text that has it changes its length by as much
as the variable does, as often as the variable comes; and where the lengths
agree, the first place of the variable shows its text.

## Main definitions

* `mentions`: A text in a value has a variable.

## Theorems

* `length_flatMap_fill`: What a variable changes of the length of a text.
* `renderText_eq_iff`, `renderValue_eq_iff`: When two ways to fill agree.
-/

namespace AgenticRag

namespace Skills

open Py Ordered

section Rendering

variable {v w : String → Option String} {name a b : String}

/-- All other pieces are filled alike. -/
theorem fill_eq_of_ne (hsame : ∀ n, n ≠ name → v n = w n) {p : TemplatePiece}
    (hp : p ≠ .slot name) : p.fill v = p.fill w := by
  cases p with
  | char c => rfl
  | slot n =>
      have hn : n ≠ name := fun heq => hp (by rw [heq])
      rw [TemplatePiece.fill, TemplatePiece.fill, hsame n hn]

/-- Filling two ways changes the length by as much as the variable does, as
    often as it comes. -/
theorem length_flatMap_fill (hv : v name = some a) (hw : w name = some b)
    (hsame : ∀ n, n ≠ name → v n = w n) (ps : List TemplatePiece) :
    (ps.flatMap (TemplatePiece.fill v)).length + ps.count (.slot name) * b.length =
      (ps.flatMap (TemplatePiece.fill w)).length + ps.count (.slot name) * a.length := by
  induction ps with
  | nil => simp
  | cons p ps ih =>
      rw [List.flatMap_cons, List.flatMap_cons, List.length_append, List.length_append]
      by_cases hp : p = .slot name
      · subst hp
        rw [List.count_cons_self, TemplatePiece.fill, TemplatePiece.fill, hv, hw]
        simp only [String.length_toList, Nat.succ_mul]
        omega
      · rw [List.count_cons_of_ne hp, fill_eq_of_ne hsame hp]
        omega

theorem flatMap_fill_eq_iff (hv : v name = some a) (hw : w name = some b)
    (hsame : ∀ n, n ≠ name → v n = w n) (ps : List TemplatePiece) :
    ps.flatMap (TemplatePiece.fill v) = ps.flatMap (TemplatePiece.fill w) ↔
      a = b ∨ .slot name ∉ ps := by
  induction ps with
  | nil => simp
  | cons p ps ih =>
      rw [List.flatMap_cons, List.flatMap_cons, List.mem_cons, not_or]
      by_cases hp : p = .slot name
      · subst hp
        simp only [not_true_eq_false, false_and, or_false]
        constructor
        · intro heq
          -- The lengths agree, so the two texts of the variable are as long.
          have hlen := length_flatMap_fill hv hw hsame (.slot name :: ps)
          rw [List.flatMap_cons, List.flatMap_cons, heq, List.count_cons_self] at hlen
          have hab : a.toList.length = b.toList.length := by
            rw [String.length_toList, String.length_toList]
            exact (Nat.eq_of_mul_eq_mul_left (Nat.succ_pos _) (Nat.add_left_cancel hlen)).symm
          rw [TemplatePiece.fill, TemplatePiece.fill, hv, hw] at heq
          exact String.toList_injective (List.append_inj_left heq hab)
        · rintro rfl
          have hall : v = w := by
            funext n
            by_cases hn : n = name
            · rw [hn, hv, hw]
            · exact hsame n hn
          rw [hall]
      · rw [fill_eq_of_ne hsame hp, List.append_cancel_left_eq, ih]
        simp only [Ne.symm hp, not_false_eq_true, true_and]

theorem mem_variablesOf {text : String} :
    name ∈ variablesOf text ↔ .slot name ∈ templatePieces text := by
  rw [variablesOf, List.mem_filterMap]
  constructor
  · rintro ⟨p, hp, h⟩
    cases p with
    | char c => cases h
    | slot n =>
        cases h
        exact hp
  · exact fun h => ⟨_, h, rfl⟩

theorem renderText_eq_iff (hv : v name = some a) (hw : w name = some b)
    (hsame : ∀ n, n ≠ name → v n = w n) (text : String) :
    renderText v text = renderText w text ↔ a = b ∨ name ∉ variablesOf text := by
  rw [renderText, renderText, String.ofList_inj, flatMap_fill_eq_iff hv hw hsame,
    mem_variablesOf]

mutual

/-- A text in a value has the variable. The keys of mappings are no such
    texts. -/
def mentions (name : String) : Val → Bool
  | .str s => (variablesOf s).contains name
  | .list xs => anyMentions name xs
  | .dict kvs => entriesMention name kvs
  | _ => false

/-- Some value has the name. -/
def anyMentions (name : String) : List Val → Bool
  | [] => false
  | x :: xs => mentions name x || anyMentions name xs

/-- Some entry has the name. -/
def entriesMention (name : String) : List (String × Val) → Bool
  | [] => false
  | (_, x) :: rest => mentions name x || entriesMention name rest

end

mutual

/-- Two ways to fill a value that differ in one variable agree exactly if they
    give it the same text or the value does not mention it. -/
theorem renderValue_eq_iff (hv : v name = some a) (hw : w name = some b)
    (hsame : ∀ n, n ≠ name → v n = w n) (x : Val) :
    renderValue v x = renderValue w x ↔ a = b ∨ mentions name x = false := by
  cases x with
  | str s =>
      rw [renderValue, renderValue, Val.str.injEq, renderText_eq_iff hv hw hsame, mentions]
      simp
  | list xs =>
      rw [renderValue, renderValue, Val.list.injEq, renderValues_eq_iff hv hw hsame, mentions]
  | dict kvs =>
      rw [renderValue, renderValue, Val.dict.injEq, renderEntries_eq_iff hv hw hsame, mentions]
  | none => simp [renderValue, mentions]
  | bool _ => simp [renderValue, mentions]
  | int _ => simp [renderValue, mentions]
  | float _ _ => simp [renderValue, mentions]
  | object _ _ => simp [renderValue, mentions]

theorem renderValues_eq_iff (hv : v name = some a) (hw : w name = some b)
    (hsame : ∀ n, n ≠ name → v n = w n) (xs : List Val) :
    renderValues v xs = renderValues w xs ↔ a = b ∨ anyMentions name xs = false := by
  cases xs with
  | nil => simp [renderValues, anyMentions]
  | cons x xs =>
      rw [renderValues, renderValues, List.cons.injEq, renderValue_eq_iff hv hw hsame,
        renderValues_eq_iff hv hw hsame, anyMentions, Bool.or_eq_false_iff, or_and_left]

theorem renderEntries_eq_iff (hv : v name = some a) (hw : w name = some b)
    (hsame : ∀ n, n ≠ name → v n = w n) (kvs : List (String × Val)) :
    renderEntries v kvs = renderEntries w kvs ↔ a = b ∨ entriesMention name kvs = false := by
  cases kvs with
  | nil => simp [renderEntries, entriesMention]
  | cons kv rest =>
      rcases kv with ⟨k, x⟩
      rw [renderEntries, renderEntries, List.cons.injEq, Prod.mk.injEq, eq_self_iff_true,
        true_and, renderValue_eq_iff hv hw hsame, renderEntries_eq_iff hv hw hsame,
        entriesMention, Bool.or_eq_false_iff, or_and_left]

end

end Rendering

end Skills

end AgenticRag

import Mathlib.Data.List.DropRight

/-!
# Trailing Runs

How long something has been going on at the end of a list, and what stands next to
each other in it. A counter that is raised while a test holds and starts again where it
does not is the length of a trailing run: a new element makes the run longer by one or
ends it (`trailing_concat`). Where the test is of an element and those before it, the
run is one of neighbours.

## Main definitions

* `trailing`: The length of the longest run at the end.
* `pairs`, `triples`: The neighbours in a list.

## Theorems

* `trailing_concat`: A run with one more element.
* `pairs_concat`, `triples_concat`: The neighbours of one more element.
-/

namespace AgenticRag

namespace Trailing

variable {α : Type*}

/-- The length of the longest run of elements at the end that pass a test. -/
def trailing (p : α → Bool) (xs : List α) : Nat :=
  (xs.rtakeWhile p).length

@[simp] theorem trailing_nil (p : α → Bool) : trailing p [] = 0 :=
  rfl

theorem trailing_concat (p : α → Bool) (xs : List α) (a : α) :
    trailing p (xs ++ [a]) = if p a then trailing p xs + 1 else 0 := by
  rw [trailing, List.rtakeWhile_concat]
  split_ifs
  · rw [List.length_append]
    rfl
  · rfl

/-- Each element with the one behind it. -/
def pairs : List α → List (α × α)
  | a :: b :: rest => (a, b) :: pairs (b :: rest)
  | _ => []

/-- Each element with the two behind it. -/
def triples : List α → List (α × α × α)
  | a :: b :: c :: rest => (a, b, c) :: triples (b :: c :: rest)
  | _ => []

theorem pairs_concat (xs : List α) (a b : α) :
    pairs (xs ++ [a, b]) = pairs (xs ++ [a]) ++ [(a, b)] := by
  induction xs with
  | nil => rfl
  | cons x xs ih =>
      cases xs with
      | nil => rfl
      | cons y ys => exact congrArg ((x, y) :: ·) ih

theorem triples_concat (xs : List α) (a b c : α) :
    triples (xs ++ [a, b, c]) = triples (xs ++ [a, b]) ++ [(a, b, c)] := by
  induction xs with
  | nil => rfl
  | cons x xs ih =>
      cases xs with
      | nil => rfl
      | cons y ys =>
          cases ys with
          | nil => rfl
          | cons z zs => exact congrArg ((x, y, z) :: ·) ih

end Trailing

end AgenticRag

import AgenticRag.Lib.PyText

/-!
# Texts in Pieces

A text that a program writes from texts it was given, taken apart again: each
piece is either the program's own or was given, and then it says where it
came from. A statement about what a program writes of its input is a statement
about the given pieces, and the pieces are tied to the text by `flat`.

## Main definitions

* `Piece`, `flat`: A piece, and the text of a list of pieces.
* `Every`: A property that all pieces of a list have.

## Theorems

* `flat_append`, `flat_joined`, `flat_flatMap`: The text of pieces put
  together.
* `exists_own_of_mem`: A character that no given piece has lies in a piece of
  the program's own.
-/

namespace AgenticRag

namespace Py

variable {κ α : Type}

/-- A piece of a text: the program's own, or given under a name. -/
inductive Piece (κ : Type) where
  | own (s : String)
  | user (field : κ) (s : String)

/-- The text of a piece. -/
def Piece.text : Piece κ → String
  | .own s => s
  | .user _ s => s

/-- The text of a list of pieces. -/
def flat : List (Piece κ) → String
  | [] => ""
  | p :: ps => p.text ++ flat ps

/-- The lists of pieces, with a separator between them. -/
def joined (sep : List (Piece κ)) : List (List (Piece κ)) → List (Piece κ)
  | [] => []
  | [p] => p
  | p :: q :: rest => p ++ sep ++ joined sep (q :: rest)

/-- The given pieces. -/
def given (ps : List (Piece κ)) : List (κ × String) :=
  ps.filterMap (fun p =>
    match p with
    | .own _ => none
    | .user field s => some (field, s))

@[simp] theorem flat_nil : flat ([] : List (Piece κ)) = "" := rfl

@[simp] theorem flat_own (s : String) (ps : List (Piece κ)) : flat (.own s :: ps) = s ++ flat ps := rfl

@[simp] theorem flat_user (field : κ) (s : String) (ps : List (Piece κ)) :
    flat (.user field s :: ps) = s ++ flat ps := rfl

@[simp] theorem flat_append (ps qs : List (Piece κ)) : flat (ps ++ qs) = flat ps ++ flat qs := by
  induction ps with
  | nil => rw [List.nil_append, flat, String.empty_append]
  | cons p ps ih => rw [List.cons_append, flat, flat, ih, String.append_assoc]

@[simp] theorem flat_joined (sep : List (Piece κ)) (parts : List (List (Piece κ))) :
    flat (joined sep parts) = join (flat sep) (parts.map flat) := by
  induction parts with
  | nil => rfl
  | cons p rest ih =>
      cases rest with
      | nil => rfl
      | cons q rest => rw [joined, flat_append, flat_append, ih]; rfl

theorem join_empty_cons (p : String) (parts : List String) :
    join "" (p :: parts) = p ++ join "" parts := by
  cases parts with
  | nil => rw [join, join, String.append_empty]
  | cons q rest => rw [join, String.append_empty]

@[simp] theorem flat_flatMap (f : α → List (Piece κ)) (xs : List α) :
    flat (xs.flatMap f) = join "" (xs.map (fun x => flat (f x))) := by
  induction xs with
  | nil => rfl
  | cons x xs ih => rw [List.flatMap_cons, flat_append, ih, List.map_cons, join_empty_cons]

/-- A property that all pieces of a list have. -/
def Every (P : Piece κ → Prop) (ps : List (Piece κ)) : Prop :=
  ∀ p ∈ ps, P p

section Every

variable {P : Piece κ → Prop}

@[simp] theorem every_nil : Every P [] := List.forall_mem_nil _

@[simp] theorem every_cons {p : Piece κ} {ps : List (Piece κ)} :
    Every P (p :: ps) ↔ P p ∧ Every P ps :=
  List.forall_mem_cons

@[simp] theorem every_append {ps qs : List (Piece κ)} :
    Every P (ps ++ qs) ↔ Every P ps ∧ Every P qs :=
  List.forall_mem_append

@[simp] theorem every_map {f : α → Piece κ} {xs : List α} :
    Every P (xs.map f) ↔ ∀ x ∈ xs, P (f x) :=
  List.forall_mem_map

theorem every_joined {sep : List (Piece κ)} {parts : List (List (Piece κ))} (hsep : Every P sep) :
    Every P (joined sep parts) ↔ ∀ part ∈ parts, Every P part := by
  induction parts with
  | nil => simp [joined]
  | cons p rest ih =>
      cases rest with
      | nil => simp [joined]
      | cons q rest =>
          simp only [joined, every_append, ih, List.forall_mem_cons, hsep, and_true]

@[simp] theorem every_flatMap {f : α → List (Piece κ)} {xs : List α} :
    Every P (xs.flatMap f) ↔ ∀ x ∈ xs, Every P (f x) :=
  List.forall_mem_flatMap

end Every

theorem mem_given {ps : List (Piece κ)} {field : κ} {s : String} :
    (field, s) ∈ given ps ↔ Piece.user field s ∈ ps := by
  rw [given, List.mem_filterMap]
  constructor
  · rintro ⟨p, hp, hsome⟩
    cases p with
    | own t => cases hsome
    | user field' t =>
        cases hsome
        exact hp
  · exact fun h => ⟨_, h, rfl⟩

/-- A character that no given piece has lies in a piece of the program's
    own. -/
theorem exists_own_of_mem {ps : List (Piece κ)} {c : Char}
    (hgiven : ∀ field s, Piece.user field s ∈ ps → c ∉ s.toList) {x y : List Char}
    (h : (flat ps).toList = x ++ c :: y) :
    ∃ pre s post u v, ps = pre ++ .own s :: post ∧ s.toList = u ++ c :: v ∧
      x = (flat pre).toList ++ u := by
  induction ps generalizing x with
  | nil => exact absurd h (by simp)
  | cons p ps ih =>
      rw [flat, String.toList_append] at h
      rcases List.append_eq_append_iff.mp h with ⟨x', rfl, hrest⟩ | ⟨t, hp, ht⟩
      -- Behind the first piece.
      · rcases ih (fun field s hs => hgiven field s (List.mem_cons_of_mem _ hs)) hrest with
          ⟨pre, s, post, u, v, rfl, hs, rfl⟩
        refine ⟨p :: pre, s, post, u, v, rfl, hs, ?_⟩
        rw [flat, String.toList_append, List.append_assoc]
      -- In it, or right behind it.
      · cases t with
        | nil =>
            rw [List.append_nil] at hp
            rcases ih (fun field s hs => hgiven field s (List.mem_cons_of_mem _ hs))
              (x := []) ht.symm with ⟨pre, s, post, u, v, rfl, hs, hnil⟩
            refine ⟨p :: pre, s, post, u, v, rfl, hs, ?_⟩
            rw [flat, String.toList_append, List.append_assoc, ← hnil, List.append_nil, hp]
        | cons d t =>
            rcases List.cons.inj ht with ⟨rfl, -⟩
            cases p with
            | own s => exact ⟨[], s, ps, x, t, rfl, hp, rfl⟩
            | user field s =>
                refine absurd ?_ (hgiven field s List.mem_cons_self)
                show c ∈ (Piece.user field s).text.toList
                rw [hp]
                exact List.mem_append_right _ List.mem_cons_self

end Py

end AgenticRag

import AgenticRag.Lib.PyText

/-!
# Paths and Text Files

A path is the list of its parts. Where it leads lexically is found by reading the
parts from the left, where `..` takes the last one back. A path that goes on from a
directory stays in it as long as no more parts are taken back than were added
(`prefix_normalise`).

A text that is written to a file and read again comes back with its line ends
written as line feeds.

## Main definitions

* `pathParts`: The parts of a relative path.
* `universalNewlines`: A text as it is read from a file.

## Theorems

* `pathParts_of_no_slash`: A name is a path of one part.
* `universalNewlines_eq_self_iff`: The texts that come back as they were.
-/

namespace AgenticRag

namespace Py

/-- The parts of a relative path. The current directory is no part. -/
def pathParts (path : String) : List String :=
  (split path "/").filter (fun part => part ≠ "" ∧ part ≠ ".")

/-- One more part of a path. -/
def enter (path : List String) (part : String) : List String :=
  if part = ".." then path.dropLast else path ++ [part]

/-- Where an absolute path leads, read from the left. -/
def normalise (path : List String) : List String := path.foldl enter []

/-- No more parts are taken back than there are below a directory. -/
def staysIn : Nat → List String → Bool
  | _, [] => true
  | depth, part :: rest =>
      if part = ".." then (depth != 0) && staysIn (depth - 1) rest else staysIn (depth + 1) rest

theorem normalise_of_names {path : List String} (h : ".." ∉ path) : normalise path = path := by
  have hfrom : ∀ front, path.foldl enter front = front ++ path := by
    induction path with
    | nil => exact fun front => (List.append_nil front).symm
    | cons part rest ih =>
        intro front
        have hne : part ≠ ".." := fun heq => h (heq ▸ List.mem_cons_self)
        rw [List.foldl_cons, enter, if_neg hne, ih (List.not_mem_of_not_mem_cons h),
          List.append_assoc, List.singleton_append]
  exact hfrom []

/-- A path that stays in its directory leads to a place in it. The names are the
    parts that can be taken back. -/
theorem prefix_foldl_enter (dir : List String) {names rest : List String}
    (h : staysIn names.length rest = true) : dir <+: rest.foldl enter (dir ++ names) := by
  induction rest generalizing names with
  | nil => exact List.prefix_append _ _
  | cons part rest ih =>
      rw [staysIn] at h
      rw [List.foldl_cons, enter]
      split_ifs at h ⊢ with hpart
      · rw [Bool.and_eq_true, bne_iff_ne, ← Nat.pos_iff_ne_zero, List.length_pos_iff] at h
        rw [List.dropLast_append_of_ne_nil h.1]
        exact ih (by rw [List.length_dropLast]; exact h.2)
      · rw [List.append_assoc]
        exact ih (by rw [List.length_append]; exact h)

theorem prefix_normalise {dir rest : List String} (hdir : ".." ∉ dir)
    (h : staysIn 0 rest = true) : dir <+: normalise (dir ++ rest) := by
  have hfront := @prefix_foldl_enter dir [] rest h
  rw [List.append_nil] at hfront
  rw [normalise, List.foldl_append, ← normalise, normalise_of_names hdir]
  exact hfront

section Names

theorem splitFrom_of_not_mem {c : Char} {cs : List Char} (h : c ∉ cs) (piece : List Char) :
    splitFrom [c] piece 0 cs = [piece.reverse ++ cs] := by
  induction cs generalizing piece with
  | nil => rw [splitFrom, List.append_nil]
  | cons d cs ih =>
      have hne : ¬ [c].isPrefixOf (d :: cs) = true := by
        intro hfront
        rw [List.isPrefixOf, Bool.and_eq_true, beq_iff_eq] at hfront
        exact h (hfront.1 ▸ List.mem_cons_self)
      rw [splitFrom, if_neg hne, ih (List.not_mem_of_not_mem_cons h), List.reverse_cons,
        List.append_assoc, List.singleton_append]

/-- A piece of a text ends at the first separator. -/
theorem splitFrom_append_cons {c : Char} {p : List Char} (h : c ∉ p) (piece rest : List Char) :
    splitFrom [c] piece 0 (p ++ c :: rest) = (piece.reverse ++ p) :: splitFrom [c] [] 0 rest := by
  induction p generalizing piece with
  | nil =>
      rw [List.nil_append, splitFrom, if_pos (by simp), List.append_nil]
      rfl
  | cons d p ih =>
      have hne : ¬ [c].isPrefixOf (d :: (p ++ c :: rest)) = true := by
        intro hfront
        rw [List.isPrefixOf, Bool.and_eq_true, beq_iff_eq] at hfront
        exact h (hfront.1 ▸ List.mem_cons_self)
      rw [List.cons_append, splitFrom, if_neg hne, ih (List.not_mem_of_not_mem_cons h),
        List.reverse_cons, List.append_assoc, List.singleton_append]

/-- Parts that are joined come apart again if the separator is in none of them. -/
theorem split_join {sep : String} {c : Char} (hsep : sep.toList = [c]) {parts : List String}
    (hne : parts ≠ []) (h : ∀ p ∈ parts, c ∉ p.toList) : split (join sep parts) sep = parts := by
  induction parts with
  | nil => exact absurd rfl hne
  | cons p rest ih =>
      rw [List.forall_mem_cons] at h
      cases rest with
      | nil =>
          rw [join, split, hsep, splitFrom_of_not_mem h.1]
          exact congrArg (fun s => [s]) String.ofList_toList
      | cons q rest =>
          have hrest := ih (List.cons_ne_nil q rest) h.2
          rw [split, hsep] at hrest
          rw [join_cons _ _ (List.cons_ne_nil q rest), split, hsep, String.toList_append,
            String.toList_append, hsep, List.append_assoc, List.singleton_append,
            splitFrom_append_cons h.1, List.map_cons, hrest]
          exact congrArg (· :: q :: rest) String.ofList_toList

/-- A name without a separator is a path of one part. -/
theorem pathParts_of_no_slash {name : String} (h : '/' ∉ name.toList) (hne : name ≠ "")
    (hdot : name ≠ ".") : pathParts name = [name] := by
  have hsplit : split name "/" = [name] := by
    have hpieces := splitFrom_of_not_mem h []
    rw [split, show ("/" : String).toList = ['/'] from rfl, hpieces]
    exact congrArg (fun s => [s]) String.ofList_toList
  rw [pathParts, hsplit, List.filter_cons_of_pos (by simp [hne, hdot])]
  rfl

end Names

section Newlines

/-- Read on in a text, behind a carriage return or not. -/
def newlinesFrom : Bool → List Char → List Char
  | _, [] => []
  | afterReturn, c :: cs =>
      if c = '\r' then '\n' :: newlinesFrom true cs
      else if afterReturn ∧ c = '\n' then newlinesFrom false cs
      else c :: newlinesFrom false cs

/-- A text as it is read from a file, with all line ends as line feeds. -/
def universalNewlines (s : String) : String := String.ofList (newlinesFrom false s.toList)

theorem not_mem_newlinesFrom (afterReturn : Bool) (cs : List Char) :
    '\r' ∉ newlinesFrom afterReturn cs := by
  induction cs generalizing afterReturn with
  | nil => exact List.not_mem_nil
  | cons c cs ih =>
      rw [newlinesFrom]
      split_ifs with hreturn hfeed
      · exact List.not_mem_cons_of_ne_of_not_mem (by decide) (ih true)
      · exact ih false
      · exact List.not_mem_cons_of_ne_of_not_mem (Ne.symm hreturn) (ih false)

theorem newlinesFrom_of_not_mem {cs : List Char} (h : '\r' ∉ cs) : newlinesFrom false cs = cs := by
  induction cs with
  | nil => rfl
  | cons c cs ih =>
      have hne : c ≠ '\r' := fun heq => h (heq ▸ List.mem_cons_self)
      rw [newlinesFrom, if_neg hne,
        if_neg (fun hfeed => Bool.false_ne_true hfeed.1), ih (List.not_mem_of_not_mem_cons h)]

/-- The texts that come back as they were are those without carriage returns. -/
theorem universalNewlines_eq_self_iff (s : String) :
    universalNewlines s = s ↔ '\r' ∉ s.toList := by
  rw [universalNewlines]
  constructor
  · intro h
    rw [← h, String.toList_ofList]
    exact not_mem_newlinesFrom _ _
  · intro h
    rw [newlinesFrom_of_not_mem h, String.ofList_toList]

end Newlines

end Py

end AgenticRag

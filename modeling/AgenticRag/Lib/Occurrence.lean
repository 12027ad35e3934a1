import AgenticRag.Lib.RegexReads

/-!
# Occurrences in a Text

A search answers whether something occurs in a text. What matters about the
thing searched for is its words and what it asks of the two neighbours of a
word: `Shape` holds these, and `Occurs` says that a text has a place of that
shape. Searches in related texts are then compared by comparing places. A
place in a part of a text is a place in the whole, as long as the ends of the
part look no different from the ends of a text (`Occurs.frame`).

Three kinds of regular expression are shapes: one without look-around, one
between two word boundaries, and one that has to be followed by a character of
a set.

## Main definitions

* `Shape`, `Occurs`: What is searched for, and that a text has it.
* `plainShape`, `boundedShape`, `followedShape`: The shapes of expressions.

## Theorems

* `Occurs.frame`: A place in a part is a place in the whole.
* `finditer_plain`, `finditer_bounded`, `finditer_followed`: When a scan has a
  match.
-/

namespace AgenticRag

namespace Py

/-- What is searched for: its words, and what they ask of the character
    before and the character behind. -/
structure Shape where
  word : List Char → Prop
  left : Option Char → Option Char → Prop
  right : Option Char → Option Char → Prop

/-- A text has a place of a shape. -/
def Occurs (p : Shape) (text : List Char) : Prop :=
  ∃ pre w post, text = pre ++ (w ++ post) ∧ p.word w ∧ p.left pre.getLast? w.head? ∧
    p.right w.getLast? post.head?

/-- To the shape, a character looks no different from the end of a text. -/
structure Shape.Framed (p : Shape) (c : Char) : Prop where
  left : ∀ x, p.left none x → p.left (some c) x
  right : ∀ x, p.right x none → p.right x (some c)

/-- The ends of a part of a text: the character next to it, if there is one,
    is one of a set. -/
def EndsWith (S : Char → Prop) (c : Option Char) : Prop :=
  ∀ x, c = some x → S x

/-- A place in a part of a text is a place in the whole. -/
theorem Occurs.frame {p : Shape} {S : Char → Prop} (hframed : ∀ c, S c → p.Framed c)
    {a s b : List Char} (ha : EndsWith S a.getLast?) (hb : EndsWith S b.head?)
    (h : Occurs p s) : Occurs p (a ++ (s ++ b)) := by
  rcases h with ⟨pre, w, post, rfl, hword, hleft, hright⟩
  refine ⟨a ++ pre, w, post ++ b, by simp only [List.append_assoc], hword, ?_, ?_⟩
  · rw [List.getLast?_append]
    cases hpre : pre.getLast? with
    | some x =>
        rw [hpre] at hleft
        exact hleft
    | none =>
        rw [hpre] at hleft
        cases hlast : a.getLast? with
        | none => exact hleft
        | some c => exact (hframed c (ha c hlast)).left _ hleft
  · rw [List.head?_append]
    cases hpost : post.head? with
    | some x =>
        rw [hpost] at hright
        exact hright
    | none =>
        rw [hpost] at hright
        cases hhead : b.head? with
        | none => exact hright
        | some c => exact (hframed c (hb c hhead)).right _ hright

/-- The words of an expression without look-around. -/
def Regex.Word (r : Regex) (w : List Char) : Prop :=
  r.Reads none w []

/-- An expression that asks nothing of the neighbours. -/
def plainShape (r : Regex) : Shape :=
  ⟨r.Word, fun _ _ => True, fun _ _ => True⟩

/-- An expression between two word boundaries. -/
def boundedShape (isWord : Char → Bool) (r : Regex) : Shape :=
  ⟨r.Word, fun b x => atBoundary isWord b x = true, fun x a => atBoundary isWord x a = true⟩

/-- An expression followed by a character of a set. -/
def followedShape (p : Char → Bool) (r : Regex) : Shape :=
  ⟨r.Word, fun _ _ => True, fun _ a => (a.map p).getD false = true⟩

section Scan

variable {r : Regex}

theorem finditer_plain (hplain : r.Plain) (hproductive : r.Productive) (text : String) :
    finditer r text ≠ [] ↔ Occurs (plainShape r) text.toList := by
  rw [finditer_ne_nil hproductive]
  constructor
  · rintro ⟨pre, w, post, htext, hreads⟩
    exact ⟨pre, w, post, htext, reads_of_plain hplain hreads, trivial, trivial⟩
  · rintro ⟨pre, w, post, htext, hword, -, -⟩
    exact ⟨pre, w, post, htext, reads_of_plain hplain hword⟩

theorem finditer_bounded (isWord : Char → Bool) (hplain : r.Plain) (hproductive : r.Productive)
    (hlength : 0 < r.minLength) (text : String) :
    finditer (.seq (boundary isWord) (.seq r (boundary isWord))) text ≠ [] ↔
      Occurs (boundedShape isWord r) text.toList := by
  have hboundary := productive_boundary isWord
  have hall : (Regex.seq (boundary isWord) (.seq r (boundary isWord))).Productive :=
    ⟨hboundary, hproductive, hboundary⟩
  rw [finditer_ne_nil hall]
  constructor
  · rintro ⟨pre, w, post, htext, u, v, rfl, hu, v₁, v₂, rfl, hreads, hv₂⟩
    rcases (reads_boundary isWord _ _ _).mp hu with ⟨rfl, hstart⟩
    rcases (reads_boundary isWord _ _ _).mp hv₂ with ⟨rfl, hstop⟩
    have hne := ne_nil_of_reads hlength hreads
    rw [List.append_nil, List.head?_append_of_ne_nil _ hne] at hstart
    rw [lastOr_nil, lastOr, List.getLast?_eq_some_getLast hne, Option.some_or,
      ← List.getLast?_eq_some_getLast hne] at hstop
    refine ⟨pre, v₁, post, ?_, reads_of_plain hplain hreads, hstart, hstop⟩
    rw [htext, List.nil_append, List.append_nil]
  · rintro ⟨pre, w, post, htext, hword, hstart, hstop⟩
    have hne := ne_nil_of_reads hlength hword
    refine ⟨pre, w, post, htext, [], w, rfl, ?_, w, [], (List.append_nil w).symm,
      reads_of_plain hplain hword, ?_⟩
    · refine (reads_boundary isWord _ _ _).mpr ⟨rfl, ?_⟩
      dsimp only
      rw [List.head?_append_of_ne_nil _ hne]
      exact hstart
    · refine (reads_boundary isWord _ _ _).mpr ⟨rfl, ?_⟩
      dsimp only
      rw [lastOr_nil, lastOr, List.getLast?_eq_some_getLast hne, Option.some_or,
        ← List.getLast?_eq_some_getLast hne]
      exact hstop

theorem productive_sat_rep (p : Char → Bool) (min : Nat) (max : Option Nat) :
    (Regex.rep (.sat p) min max).Productive :=
  ⟨trivial, fun _ _ _ h => ne_nil_of_reads (r := .sat p) Nat.one_pos h⟩

theorem finditer_followed (p : Char → Bool) (hplain : r.Plain) (hproductive : r.Productive)
    (text : String) :
    finditer (.seq r (many1 (.sat p))) text ≠ [] ↔ Occurs (followedShape p r) text.toList := by
  have hall : (Regex.seq r (many1 (.sat p))).Productive :=
    ⟨hproductive, productive_sat_rep p 1 none⟩
  rw [finditer_ne_nil hall]
  constructor
  · rintro ⟨pre, w, post, htext, u, v, rfl, hu, n, hmin, -, hrounds⟩
    cases n with
    | zero => exact absurd hmin (Nat.not_succ_le_zero 0)
    | succ n =>
        rcases hrounds with ⟨_, v', rfl, ⟨x, rfl, hx⟩, -⟩
        refine ⟨pre, u, [x] ++ v' ++ post, ?_, reads_of_plain hplain hu, trivial, hx⟩
        rw [htext, List.append_assoc]
  · rintro ⟨pre, w, post, htext, hword, -, hnext⟩
    cases post with
    | nil => cases hnext
    | cons x post =>
        refine ⟨pre, w ++ [x], post, ?_, w, [x], rfl, reads_of_plain hplain hword, 1, Nat.le_refl 1,
          (fun m hm => by cases hm), [x], [], rfl, ⟨x, rfl, hnext⟩, rfl⟩
        rw [htext, List.append_assoc, List.singleton_append]

end Scan

end Py

end AgenticRag

import AgenticRag.Lib.PyText

/-!
# Words

A text falls into words, the longest runs of word characters, and what stands
between them. A pattern with a word boundary on either side, all of whose matches
are word characters, can match whole words only, so a substitution along such a
pattern goes through the text word by word.

What is said of a place in a text, by the character before it and the text from
it on, is said of some place of a text by going through it in the same way.

## Main definitions

* `wordAt`: A word character stands at a position.
* `WholeWord`: A pattern that matches whole words.

## Theorems

* `wholeWord_wordScan`: Patterns between word boundaries match whole words.
* `reSub_word`, `reSub_other`: What a substitution does to a word, and between words.
-/

namespace AgenticRag

namespace Words

open Py

section Places

variable {Q : Option Char → List Char → Prop}

/-- Something holds at some place of a text, of the character before the place
    and of the text from it on. -/
def SomeFrom (Q : Option Char → List Char → Prop) (before : Option Char) (text : List Char) :
    Prop :=
  ∃ pre cs, text = pre ++ cs ∧ Q (pre.getLast?.or before) cs

/-- The same for the places of the first part of a text in two parts. -/
def SomeWithin (Q : Option Char → List Char → Prop) (before : Option Char)
    (text rest : List Char) : Prop :=
  ∃ pre cs, text = pre ++ cs ∧ cs ≠ [] ∧ Q (pre.getLast?.or before) (cs ++ rest)

theorem getLast?_cons_or (c : Char) (cs : List Char) (before : Option Char) :
    (c :: cs).getLast?.or before = cs.getLast?.or (some c) := by
  cases cs with
  | nil => rfl
  | cons d ds => simp [List.getLast?_cons]

theorem someFrom_nil (before : Option Char) : SomeFrom Q before [] ↔ Q before [] := by
  constructor
  · rintro ⟨pre, cs, h, hq⟩
    rcases List.append_eq_nil_iff.mp h.symm with ⟨rfl, rfl⟩
    exact hq
  · exact fun hq => ⟨[], [], rfl, hq⟩

theorem someFrom_cons (before : Option Char) (c : Char) (text : List Char) :
    SomeFrom Q before (c :: text) ↔ Q before (c :: text) ∨ SomeFrom Q (some c) text := by
  constructor
  · rintro ⟨pre, cs, h, hq⟩
    cases pre with
    | nil =>
        rw [List.nil_append] at h
        rw [h]
        exact .inl hq
    | cons d pre =>
        rcases List.cons.inj h with ⟨rfl, hrest⟩
        rw [getLast?_cons_or] at hq
        exact .inr ⟨pre, cs, hrest, hq⟩
  · rintro (hq | ⟨pre, cs, rfl, hq⟩)
    · exact ⟨[], c :: text, rfl, hq⟩
    · refine ⟨c :: pre, cs, rfl, ?_⟩
      rw [getLast?_cons_or]
      exact hq

theorem someWithin_nil (before : Option Char) (rest : List Char) :
    ¬ SomeWithin Q before [] rest := by
  rintro ⟨pre, cs, h, hne, -⟩
  exact hne (List.append_eq_nil_iff.mp h.symm).2

theorem someWithin_cons (before : Option Char) (c : Char) (text rest : List Char) :
    SomeWithin Q before (c :: text) rest ↔
      Q before (c :: (text ++ rest)) ∨ SomeWithin Q (some c) text rest := by
  constructor
  · rintro ⟨pre, cs, h, hne, hq⟩
    cases pre with
    | nil =>
        rw [List.nil_append] at h
        subst h
        exact .inl hq
    | cons d pre =>
        rcases List.cons.inj h with ⟨rfl, hrest⟩
        rw [getLast?_cons_or] at hq
        exact .inr ⟨pre, cs, hrest, hne, hq⟩
  · rintro (hq | ⟨pre, cs, rfl, hne, hq⟩)
    · exact ⟨[], c :: text, rfl, List.cons_ne_nil _ _, hq⟩
    · refine ⟨c :: pre, cs, rfl, hne, ?_⟩
      rw [getLast?_cons_or]
      exact hq

/-- A place of a text in two parts lies in the first part, or in the second. -/
theorem someFrom_append (before : Option Char) (text rest : List Char) :
    SomeFrom Q before (text ++ rest) ↔
      SomeWithin Q before text rest ∨ SomeFrom Q (text.getLast?.or before) rest := by
  induction text generalizing before with
  | nil => exact (or_iff_right (someWithin_nil before rest)).symm
  | cons c text ih =>
      rw [List.cons_append, someFrom_cons, ih, ← or_assoc, getLast?_cons_or, someWithin_cons]

/-- Where nothing holds at the first place, the character before it does not
    matter. -/
theorem someFrom_before {text : List Char} (h : ∀ before, ¬ Q before text)
    (before : Option Char) : SomeFrom Q before text ↔ SomeFrom Q none text := by
  cases text with
  | nil =>
      rw [someFrom_nil, someFrom_nil]
      exact iff_of_false (h before) (h none)
  | cons c text =>
      rw [someFrom_cons, someFrom_cons, or_iff_right (h before), or_iff_right (h none)]

end Places

section Words

variable (isWord : Char → Bool)

/-- A word character stands at a position. -/
def wordAt (o : Option Char) : Bool :=
  (o.map isWord).getD false

/-- A text is gone through word by word. -/
theorem word_induction {motive : List Char → Prop} (nil : motive [])
    (other : ∀ c cs, isWord c = false → motive cs → motive (c :: cs))
    (word : ∀ w rest, w ≠ [] → (∀ c ∈ w, isWord c = true) → wordAt isWord rest.head? = false →
      motive rest → motive (w ++ rest)) (text : List Char) : motive text := by
  induction hn : text.length using Nat.strong_induction_on generalizing text with
  | h n ih =>
      cases text with
      | nil => exact nil
      | cons c cs =>
          by_cases hc : isWord c = true
          · have hsplit := List.takeWhile_append_dropWhile (p := isWord) (l := c :: cs)
            have hw : (c :: cs).takeWhile isWord ≠ [] := by
              rw [List.takeWhile_cons, if_pos hc]
              exact List.cons_ne_nil _ _
            have hlength := congrArg List.length hsplit
            rw [List.length_append] at hlength
            have hpos := List.length_pos_iff.mpr hw
            rw [← hsplit]
            refine word _ _ hw (fun d hd => (List.all_eq_true.mp List.all_takeWhile) d hd) ?_
              (ih _ (by omega) _ rfl)
            cases hrest : (c :: cs).dropWhile isWord with
            | nil => rfl
            | cons d ds =>
                have hd := List.head?_dropWhile_not isWord (c :: cs)
                rw [hrest] at hd
                simpa [wordAt] using hd
          · refine other c cs (Bool.not_eq_true _ ▸ hc) (ih _ ?_ cs rfl)
            rw [← hn]
            exact Nat.lt_succ_self _

/-- A pattern of a fixed length between word boundaries. -/
def wordScan (k : Nat) (p : List Char → Bool) (before : Option Char) (cs : List Char) :
    Option Nat :=
  if (cs.take k).length = k ∧ p (cs.take k) ∧ atBoundary isWord before cs.head? ∧
      atBoundary isWord (cs.take k).getLast? cs[k]? then some k
  else none

/-- A pattern that matches whole words. -/
structure WholeWord (scan : Option Char → List Char → Option Nat) (p : List Char → Bool) :
    Prop where
  word : ∀ {before w rest}, wordAt isWord before = false → w ≠ [] → (∀ c ∈ w, isWord c = true) →
    wordAt isWord rest.head? = false → scan before (w ++ rest) = if p w then some w.length else none
  inside : ∀ {before cs}, wordAt isWord before = true → scan before cs = none
  other : ∀ {before c cs}, isWord c = false → scan before (c :: cs) = none

variable {isWord} {scan : Option Char → List Char → Option Nat} {p : List Char → Bool}

section Patterns

variable {k : Nat} (hk : 0 < k) (hp : ∀ m, p m = true → ∀ c ∈ m, isWord c = true)

/-- A word that the pattern has is matched. -/
theorem wordScan_word {before : Option Char} {w rest : List Char}
    (hbefore : wordAt isWord before = false) (hne : w ≠ []) (hw : ∀ c ∈ w, isWord c = true)
    (hrest : wordAt isWord rest.head? = false) (hpw : p w = true) (hlength : w.length = k) :
    wordScan isWord k p before (w ++ rest) = some k := by
  have htake : (w ++ rest).take k = w := by
    rw [← hlength]
    exact List.take_left
  have hend : (w ++ rest)[k]? = rest.head? := by
    rw [← hlength, List.getElem?_append_right (Nat.le_refl _), Nat.sub_self,
      List.head?_eq_getElem?]
  rw [wordScan, htake, hend, if_pos]
  refine ⟨hlength, hpw, ?_, ?_⟩
  · rw [List.head?_append_of_ne_nil _ hne]
    cases w with
    | nil => exact absurd rfl hne
    | cons c w =>
        change (wordAt isWord before != isWord c) = true
        rw [hbefore, hw c List.mem_cons_self]
        rfl
  · change (wordAt isWord w.getLast? != wordAt isWord rest.head?) = true
    rw [hrest, List.getLast?_eq_some_getLast hne]
    change (isWord (w.getLast hne) != false) = true
    rw [hw _ (List.getLast_mem hne)]
    rfl

include hk hp

/-- A word that the pattern does not have is matched neither as a whole nor in
    part. -/
theorem wordScan_other_word {before : Option Char} {w rest : List Char}
    (hw : ∀ c ∈ w, isWord c = true) (hrest : wordAt isWord rest.head? = false)
    (hpw : ¬ p w = true) : wordScan isWord k p before (w ++ rest) = none := by
  rw [wordScan, if_neg]
  rintro ⟨hm, hpm, -, hclose⟩
  have hmne : (w ++ rest).take k ≠ [] := by
    rw [← List.length_pos_iff, hm]
    exact hk
  change (wordAt isWord ((w ++ rest).take k).getLast? != wordAt isWord (w ++ rest)[k]?) = true
    at hclose
  rw [List.getLast?_eq_some_getLast hmne] at hclose
  change (isWord (((w ++ rest).take k).getLast hmne) != _) = true at hclose
  rw [hp _ hpm _ (List.getLast_mem hmne)] at hclose
  -- A match is neither shorter than the word nor longer.
  rcases Nat.lt_trichotomy w.length k with hlt | heq | hgt
  · cases rest with
    | nil =>
        rw [List.append_nil, List.length_take] at hm
        omega
    | cons d rest =>
        have hd : d ∈ (w ++ d :: rest).take k := by
          rw [List.take_append, List.take_of_length_le (Nat.le_of_lt hlt)]
          refine List.mem_append_right _ ?_
          rw [List.take_cons (by omega)]
          exact List.mem_cons_self
        have hword := hp _ hpm d hd
        change isWord d = false at hrest
        rw [hrest] at hword
        cases hword
  · refine hpw ?_
    rw [← heq, List.take_left] at hpm
    exact hpm
  · rw [List.getElem?_append_left hgt, List.getElem?_eq_getElem hgt] at hclose
    change (true != isWord w[k]) = true at hclose
    rw [hw _ (List.getElem_mem hgt)] at hclose
    cases hclose

/-- No match begins within a word. -/
theorem wordScan_inside {before : Option Char} {cs : List Char}
    (hbefore : wordAt isWord before = true) : wordScan isWord k p before cs = none := by
  rw [wordScan, if_neg]
  rintro ⟨hm, hpm, hopen, -⟩
  cases cs with
  | nil =>
      rw [List.take_nil] at hm
      exact absurd hm hk.ne
  | cons c cs =>
      change (wordAt isWord before != isWord c) = true at hopen
      have hc : c ∈ (c :: cs).take k := by
        rw [List.take_cons hk]
        exact List.mem_cons_self
      rw [hbefore, hp _ hpm c hc] at hopen
      cases hopen

theorem wordScan_other {before : Option Char} {c : Char} {cs : List Char}
    (hc : isWord c = false) : wordScan isWord k p before (c :: cs) = none := by
  rw [wordScan, if_neg]
  rintro ⟨-, hpm, -, -⟩
  have hmem : c ∈ (c :: cs).take k := by
    rw [List.take_cons hk]
    exact List.mem_cons_self
  rw [hp _ hpm c hmem] at hc
  cases hc

/-- Patterns of word characters between word boundaries match whole words. -/
theorem wholeWord_wordScan (hlength : ∀ m, p m = true → m.length = k) :
    WholeWord isWord (wordScan isWord k p) p where
  word := by
    intro before w rest hbefore hne hw hrest
    by_cases hpw : p w = true
    · rw [if_pos hpw, hlength w hpw]
      exact wordScan_word hbefore hne hw hrest hpw (hlength w hpw)
    · rw [if_neg hpw]
      exact wordScan_other_word hk hp hw hrest hpw
  inside := wordScan_inside hk hp
  other := wordScan_other hk hp

end Patterns

section Substitution

variable {repl : List Char}

/-- What is left of a match is skipped. -/
theorem reSub_skip_eq (scan : Option Char → List Char → Option Nat) (repl : List Char)
    (before : Option Char) (s rest : List Char) :
    reSub scan repl before s.length (s ++ rest) =
      reSub scan repl (s.getLast?.or before) 0 rest := by
  induction s generalizing before with
  | nil => rfl
  | cons c s ih =>
      rw [getLast?_cons_or, ← ih (some c)]
      rfl

/-- A text at no place of which the pattern matches is kept. -/
theorem reSub_keep {before : Option Char} {s rest : List Char}
    (h : ¬ SomeWithin (fun before cs => scan before cs ≠ none) before s rest) :
    reSub scan repl before 0 (s ++ rest) = s ++ reSub scan repl (s.getLast?.or before) 0 rest := by
  induction s generalizing before with
  | nil => rfl
  | cons c s ih =>
      rw [someWithin_cons, not_or, not_not] at h
      rw [List.cons_append, reSub, h.1, getLast?_cons_or]
      exact congrArg (c :: ·) (ih h.2)

variable (h : WholeWord isWord scan p)

include h

/-- Between words a substitution changes nothing. -/
theorem reSub_other {before : Option Char} {c : Char} {cs : List Char} (hc : isWord c = false) :
    reSub scan repl before 0 (c :: cs) = c :: reSub scan repl (some c) 0 cs := by
  rw [reSub, h.other hc]

/-- Behind a character of a word the pattern matches nowhere. -/
theorem not_within_word {before : Option Char} {s rest : List Char}
    (hbefore : wordAt isWord before = true) (hs : ∀ c ∈ s, isWord c = true) :
    ¬ SomeWithin (fun before cs => scan before cs ≠ none) before s rest := by
  induction s generalizing before with
  | nil => exact someWithin_nil before rest
  | cons c s ih =>
      rcases List.forall_mem_cons.mp hs with ⟨hc, hs⟩
      rw [someWithin_cons, not_or, not_not]
      exact ⟨h.inside hbefore, ih hc hs⟩

/-- A word is replaced or kept as a whole. -/
theorem reSub_word {before : Option Char} {w rest : List Char}
    (hbefore : wordAt isWord before = false) (hne : w ≠ []) (hw : ∀ c ∈ w, isWord c = true)
    (hrest : wordAt isWord rest.head? = false) :
    reSub scan repl before 0 (w ++ rest) =
      (if p w then repl else w) ++ reSub scan repl (w.getLast?.or before) 0 rest := by
  have hscan := h.word hbefore hne hw hrest
  cases w with
  | nil => exact absurd rfl hne
  | cons c w =>
      rcases List.forall_mem_cons.mp hw with ⟨hc, hw⟩
      rw [List.cons_append] at hscan ⊢
      rw [reSub, hscan, getLast?_cons_or]
      split_ifs with hpw
      · dsimp only [List.length_cons]
        rw [reSub_skip_eq]
      · exact congrArg (c :: ·) (reSub_keep (not_within_word h hc hw))

/-- Before what is no word the character before does not matter. -/
theorem reSub_before {before : Option Char} {rest : List Char}
    (hrest : wordAt isWord rest.head? = false) :
    reSub scan repl before 0 rest = reSub scan repl none 0 rest := by
  cases rest with
  | nil => rfl
  | cons c rest => rw [reSub_other h hrest, reSub_other h hrest]

/-- Where no word begins, none begins after a substitution. -/
theorem wordAt_head?_reSub (repl : List Char) (before : Option Char) {rest : List Char}
    (hrest : wordAt isWord rest.head? = false) :
    wordAt isWord (reSub scan repl before 0 rest).head? = false := by
  cases rest with
  | nil => rfl
  | cons c rest =>
      rw [reSub_other h hrest]
      exact hrest

end Substitution

end Words

end Words

end AgenticRag

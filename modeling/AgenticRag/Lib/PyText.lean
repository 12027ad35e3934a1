import Mathlib.Algebra.Order.Floor.Div
import Mathlib.Data.List.DropRight
import Mathlib.Data.List.Infix
import Mathlib.Data.Rat.Floor

/-!
# Python Text

The part of Python's `str` the workflow leans on, over Lean's `String`. A
Python string is a sequence of code points, so indexing, slicing and length
go through the list of characters.

What the language reference settles is defined here: slices, `strip`,
`split` at a separator, membership, `join`, the decimal digits `\d` matches,
the white space `\s` matches, and fixed-point formatting. What the Unicode
database settles (which characters are letters, which are printable, how a
text is upper-cased) is a parameter, `Unicode`, because nothing proved here
depends on its tables.

Regular expressions are scanners. A pattern is a function from the character
before the current position and the text from it on to the length of the
match there, and `reSub` and `reFindall` walk the text once, skipping what a
match consumed, the way `re.sub` and `re.findall` do.

## Main definitions

* `Unicode`: What the Unicode database decides.
* `fixed2`: The format `.2f`.

## Theorems

* `join_injective`: It gives them back when none holds the separator.
* `mem_join`, `mem_split`: What a part of a joined text and a piece of a split
  have on their two sides.
-/

namespace AgenticRag

namespace Py

/-- What the Unicode database decides about characters and case. -/
structure Unicode where
  isAlnum : Char → Bool
  isPrintable : Char → Bool
  upper : String → String
  lower : String → String

/-- The classification that knows only ASCII. -/
instance : Inhabited Unicode :=
  ⟨{ isAlnum := Char.isAlphanum
     isPrintable := fun c => decide (32 ≤ c.toNat)
     upper := String.toUpper
     lower := String.toLower }⟩

/-- A statement about the characters of a list is decided along the list, and
    not by going through all characters. -/
instance (priority := 2000) decidableForallMemChar (l : List Char) (p : Char → Prop)
    [DecidablePred p] : Decidable (∀ c ∈ l, p c) :=
  List.decidableBAll p l

instance (priority := 2000) decidableExistsMemChar (l : List Char) (p : Char → Prop)
    [DecidablePred p] : Decidable (∃ c ∈ l, p c) :=
  List.decidableBEx p l

/-- The zero of every script whose decimal digits are ten code points in a
    row. -/
def decimalZeros : List Nat :=
  [0x30, 0x660, 0x6F0, 0x7C0, 0x966, 0x9E6, 0xA66, 0xAE6, 0xB66, 0xBE6, 0xC66, 0xCE6, 0xD66,
   0xDE6, 0xE50, 0xED0, 0xF20, 0x1040, 0x1090, 0x17E0, 0x1810, 0x1946, 0x19D0, 0x1A80, 0x1A90,
   0x1B50, 0x1BB0, 0x1C40, 0x1C50, 0xA620, 0xA8D0, 0xA900, 0xA9D0, 0xA9F0, 0xAA50, 0xABF0,
   0xFF10, 0x104A0, 0x10D30, 0x11066, 0x110F0, 0x11136, 0x111D0, 0x112F0, 0x11450, 0x114D0,
   0x11650, 0x116C0, 0x11730, 0x118E0, 0x11950, 0x11C50, 0x11D50, 0x11DA0, 0x16A60, 0x16AC0,
   0x16B50, 0x1D7CE, 0x1D7D8, 0x1D7E2, 0x1D7EC, 0x1D7F6, 0x1E140, 0x1E2F0, 0x1E950, 0x1FBF0]

/-- The value of a decimal digit in any script, as `\d` and `int` read it. -/
def decimalValue (c : Char) : Option Nat :=
  (decimalZeros.find? (fun z => decide (z ≤ c.toNat ∧ c.toNat < z + 10))).map (c.toNat - ·)

/-- A digit of any script. -/
def isDecimal (c : Char) : Bool :=
  (decimalValue c).isSome

/-- The number a run of decimal digits writes. -/
def intOfDigits (ds : List Char) : Nat :=
  ds.foldl (fun n c => 10 * n + (decimalValue c).getD 0) 0

/-- The white space `str.strip` removes and `\s` matches. -/
def isSpace (c : Char) : Bool :=
  let n := c.toNat
  decide ((0x9 ≤ n ∧ n ≤ 0xD) ∨ (0x1C ≤ n ∧ n ≤ 0x20) ∨ n = 0x85 ∨ n = 0xA0 ∨ n = 0x1680 ∨
    (0x2000 ≤ n ∧ n ≤ 0x200A) ∨ n = 0x2028 ∨ n = 0x2029 ∨ n = 0x202F ∨ n = 0x205F ∨ n = 0x3000)

/-- The slice `s[:n]`. -/
def take (s : String) (n : Nat) : String :=
  String.ofList (s.toList.take n)

/-- A position of a slice, counted from the end when negative. -/
def sliceIndex (length : Nat) (i : Int) : Nat :=
  if i < 0 then (length + i).toNat else i.toNat

/-- The slice `s[i:j]`. -/
def slice (s : String) (i j : Int) : String :=
  let cs := s.toList
  String.ofList ((cs.take (sliceIndex cs.length j)).drop (sliceIndex cs.length i))

/-- The first piece of `s.split(sep)` for a separator of one character. -/
def headOfSplit (s : String) (sep : Char) : String :=
  String.ofList (s.toList.takeWhile (· != sep))

/-- The method `s.strip()`. -/
def strip (s : String) : String :=
  String.ofList (((s.toList.dropWhile isSpace).reverse.dropWhile isSpace).reverse)

/-- A text without white space is left as it is. -/
theorem strip_of_not_space {cs : List Char} (h : ∀ c ∈ cs, isSpace c = false) :
    strip (String.ofList cs) = String.ofList cs := by
  have hdrop : ∀ l : List Char, (∀ c ∈ l, isSpace c = false) → l.dropWhile isSpace = l := by
    intro l hl
    cases l with
    | nil => rfl
    | cons c l => rw [List.dropWhile_cons, hl c List.mem_cons_self, if_neg Bool.false_ne_true]
  unfold strip
  rw [String.toList_ofList, hdrop cs h,
    hdrop cs.reverse (fun c hc => h c (List.mem_reverse.1 hc)), List.reverse_reverse]

/-- So is one without white space at its two ends. -/
theorem strip_of_ends {s : String} {c d : Char} (hfirst : s.toList.head? = some c)
    (hc : isSpace c = false) (hlast : s.toList.getLast? = some d) (hd : isSpace d = false) :
    strip s = s := by
  have hdrop : s.toList.dropWhile isSpace = s.toList := by
    cases hs : s.toList with
    | nil => rfl
    | cons e cs =>
        rw [hs] at hfirst
        cases hfirst
        rw [List.dropWhile_cons_of_neg (by rw [hc]; exact Bool.false_ne_true)]
  have hback : s.toList.reverse.dropWhile isSpace = s.toList.reverse := by
    rw [← List.head?_reverse] at hlast
    cases hs : s.toList.reverse with
    | nil => rfl
    | cons e cs =>
        rw [hs] at hlast
        cases hlast
        rw [List.dropWhile_cons_of_neg (by rw [hd]; exact Bool.false_ne_true)]
  rw [strip, hdrop, hback, List.reverse_reverse, String.ofList_toList]

theorem strip_strip (s : String) : strip (strip s) = strip s := by
  set front := s.toList.dropWhile isSpace with hfront
  -- What is left at the front is left by what is taken from the back.
  have hdrop : (front.rdropWhile isSpace).dropWhile isSpace = front.rdropWhile isSpace := by
    refine List.dropWhile_eq_self_iff.mpr fun hpos => ?_
    have hkept : front.rdropWhile isSpace <+: front := List.rdropWhile_prefix isSpace front
    rw [hkept.getElem hpos]
    exact List.dropWhile_get_zero_not isSpace s.toList _
  have hstrip : strip s = String.ofList (front.rdropWhile isSpace) := rfl
  rw [hstrip, strip, String.toList_ofList, hdrop]
  exact congrArg String.ofList (List.rdropWhile_idempotent isSpace front)

/-- The test `part in s`. -/
def contains (s part : String) : Bool :=
  decide (part.toList <:+: s.toList)

/-- The method `s.startswith(start)`. -/
def startsWith (s start : String) : Bool :=
  decide (start.toList <+: s.toList)

theorem startsWith_append (start rest : String) : startsWith (start ++ rest) start = true := by
  unfold startsWith
  rw [String.toList_append]
  exact decide_eq_true (List.prefix_append _ _)

/-- A text with a prefix is the prefix and the rest. -/
theorem exists_of_startsWith {s start : String} (h : startsWith s start = true) :
    ∃ rest, s = start ++ rest := by
  unfold startsWith at h
  rcases of_decide_eq_true h with ⟨rest, hrest⟩
  refine ⟨String.ofList rest, ?_⟩
  rw [← String.toList_inj, String.toList_append, String.toList_ofList, hrest]

/-- The last piece of `s.split(sep, 1)`: what follows the first separator. -/
def afterFirst (s : String) (sep : Char) : String :=
  String.ofList ((s.toList.dropWhile (· != sep)).drop 1)

/-- The method `sep.join(parts)`. -/
def join (sep : String) : List String → String
  | [] => ""
  | [p] => p
  | p :: q :: rest => p ++ sep ++ join sep (q :: rest)

/-- The characters `str.splitlines` ends a line at. -/
def isLineEnd (c : Char) : Bool :=
  let n := c.toNat
  decide ((0xA ≤ n ∧ n ≤ 0xD) ∨ (0x1C ≤ n ∧ n ≤ 0x1E) ∨ n = 0x85 ∨ n = 0x2028 ∨ n = 0x2029)

/-- The lines of a text. The text of the line at hand is kept in reverse, and
    a line feed right after a carriage return ends no line of its own. -/
def linesFrom : List Char → List Char → List (List Char)
  | [], [] => []
  | line, [] => [line.reverse]
  | line, '\r' :: '\n' :: cs => line.reverse :: linesFrom [] cs
  | line, c :: cs => if isLineEnd c then line.reverse :: linesFrom [] cs else linesFrom (c :: line) cs

/-- The method `s.splitlines()`. -/
def splitlines (s : String) : List String :=
  (linesFrom [] s.toList).map String.ofList

/-- Whether a word boundary lies between two neighbouring positions, the
    ends of the text counting as non-word characters. -/
def atBoundary (isWord : Char → Bool) (before after : Option Char) : Bool :=
  (before.map isWord).getD false != (after.map isWord).getD false

/-- Replace every match of a scanner. The counter holds how many characters
    of the last match are still to be skipped. -/
def reSub (scan : Option Char → List Char → Option Nat) (repl : List Char) :
    Option Char → Nat → List Char → List Char
  | _, _, [] => []
  | _, skip + 1, c :: cs => reSub scan repl (some c) skip cs
  | before, 0, c :: cs =>
      match scan before (c :: cs) with
      | some (n + 1) => repl ++ reSub scan repl (some c) n cs
      | _ => c :: reSub scan repl (some c) 0 cs

/-- Collect what a scanner reads at every match, left to right and without
    overlap. -/
def reFindall {α : Type} (scan : Option Char → List Char → Option (Nat × α)) :
    Option Char → Nat → List Char → List α
  | _, _, [] => []
  | _, skip + 1, c :: cs => reFindall scan (some c) skip cs
  | before, 0, c :: cs =>
      match scan before (c :: cs) with
      | some (n + 1, a) => a :: reFindall scan (some c) n cs
      | _ => reFindall scan (some c) 0 cs

/-- A text stands at a position. -/
def scanText (text : List Char) (_ : Option Char) (cs : List Char) : Option Nat :=
  if text.isPrefixOf cs then some text.length else none

/-- The method `s.replace(old, new)`, for an `old` that is not empty. -/
def replace (s old new : String) : String :=
  String.ofList (reSub (scanText old.toList) new.toList none 0 s.toList)

/-- The pieces between the occurrences of a separator. The piece at hand is
    kept in reverse, and the counter holds how many characters of the last
    separator are still to be skipped. -/
def splitFrom (sep : List Char) : List Char → Nat → List Char → List (List Char)
  | piece, _, [] => [piece.reverse]
  | piece, skip + 1, _ :: cs => splitFrom sep piece skip cs
  | piece, 0, c :: cs =>
      if sep.isPrefixOf (c :: cs) then piece.reverse :: splitFrom sep [] (sep.length - 1) cs
      else splitFrom sep (c :: piece) 0 cs

/-- The method `s.split(sep)`, for a `sep` that is not empty. -/
def split (s sep : String) : List String :=
  (splitFrom sep.toList [] 0 s.toList).map String.ofList

/-- A text in segments, some of them marked. No occurrence of `old` begins in
    a segment without a mark. -/
def noStray (old : List Char) : List (Bool × List Char) → Bool
  | [] => true
  | (marked, s) :: rest =>
      (marked || (List.range s.length).all (fun i =>
        !old.isPrefixOf (s.drop i ++ rest.flatMap Prod.snd))) && noStray old rest

/-- A natural number rounded from a nonnegative fraction, ties to even. -/
def roundHalfEven (q : ℚ) : Nat :=
  let n := ⌊q⌋.toNat
  let r := q - n
  if r < 1 / 2 then n
  else if r > 1 / 2 then n + 1
  else if n % 2 = 0 then n else n + 1

/-- The format `.2f`. -/
def fixed2 (q : ℚ) : String :=
  let n := roundHalfEven (|q| * 100)
  let cents := n % 100
  let digits := toString (n / 100) ++ "." ++ (if cents < 10 then "0" else "") ++ toString cents
  if q < 0 then "-" ++ digits else digits

theorem contains_iff (s part : String) : contains s part = true ↔ part.toList <:+: s.toList := by
  rw [contains, decide_eq_true_iff]

/-- A joined text contains each of its parts. -/
theorem contains_join (sep : String) (parts : List String) {p : String} (hp : p ∈ parts) :
    contains (join sep parts) p = true := by
  rw [contains_iff]
  induction parts with
  | nil => exact absurd hp List.not_mem_nil
  | cons q rest ih =>
      match rest, ih, hp with
      | [], _, hp =>
          rw [List.mem_singleton.mp hp]
          exact List.infix_rfl
      | r :: rest, ih, hp =>
          rw [join, String.toList_append, String.toList_append]
          rcases List.mem_cons.mp hp with rfl | hin
          · exact ⟨[], sep.toList ++ (join sep (r :: rest)).toList, by simp⟩
          · rcases ih hin with ⟨u, v, huv⟩
            exact ⟨q.toList ++ sep.toList ++ u, v, by rw [← huv]; simp⟩

/-- A pattern that matches nowhere changes nothing. -/
theorem reSub_of_no_match {scan : Option Char → List Char → Option Nat} (repl : List Char)
    (before : Option Char) (cs : List Char)
    (h : ∀ before suffix, suffix <:+ cs → scan before suffix = none) :
    reSub scan repl before 0 cs = cs := by
  induction cs generalizing before with
  | nil => rfl
  | cons c cs ih =>
      have hrest := ih (some c)
        (fun before suffix hsuffix => h before suffix (hsuffix.trans (List.suffix_cons c cs)))
      rw [reSub, h before (c :: cs) (List.suffix_refl _), hrest]

/-- A text in which nothing begins is passed over. -/
theorem reSub_pass {old : List Char} (new : List Char) (before : Option Char) (s rest : List Char)
    (h : ∀ i < s.length, old.isPrefixOf (s.drop i ++ rest) = false) :
    ∃ before', reSub (scanText old) new before 0 (s ++ rest) =
      s ++ reSub (scanText old) new before' 0 rest := by
  induction s generalizing before with
  | nil => exact ⟨before, rfl⟩
  | cons c s ih =>
      have hhere := h 0 (Nat.zero_lt_succ _)
      rcases ih (some c) (fun i hi => h (i + 1) (Nat.succ_lt_succ hi)) with ⟨before', hrest⟩
      refine ⟨before', ?_⟩
      have hscan : scanText old before (c :: (s ++ rest)) = none := by
        unfold scanText
        rw [List.drop_zero, List.cons_append] at hhere
        rw [hhere]
        rfl
      rw [List.cons_append, reSub, hscan]
      exact congrArg (c :: ·) hrest

/-- The characters of a match that are left are skipped. -/
theorem reSub_skip (scan : Option Char → List Char → Option Nat) (new : List Char)
    (before : Option Char) (s rest : List Char) :
    ∃ before', reSub scan new before s.length (s ++ rest) = reSub scan new before' 0 rest := by
  induction s generalizing before with
  | nil => exact ⟨before, rfl⟩
  | cons c s ih => exact ih (some c)

/-- Where the marked segments are the text to be replaced, and it begins in no
    other, just these are replaced. -/
theorem reSub_segments {old : List Char} (new : List Char) (hold : old ≠ [])
    (segments : List (Bool × List Char)) (hmarked : ∀ s ∈ segments, s.1 = true → s.2 = old)
    (hclean : noStray old segments = true) (before : Option Char) :
    reSub (scanText old) new before 0 (segments.flatMap Prod.snd) =
      segments.flatMap (fun s => if s.1 then new else s.2) := by
  induction segments generalizing before with
  | nil => rfl
  | cons segment rest ih =>
      rcases segment with ⟨marked, s⟩
      have hrest := fun before => ih (fun s hs => hmarked s (List.mem_cons_of_mem _ hs))
        (by simp only [noStray, Bool.and_eq_true] at hclean; exact hclean.2) before
      rw [List.flatMap_cons, List.flatMap_cons]
      cases marked with
      | true =>
          have hs : s = old := hmarked _ List.mem_cons_self rfl
          cases old with
          | nil => exact absurd rfl hold
          | cons c cs =>
              have hscan : scanText (c :: cs) before (c :: (cs ++ rest.flatMap Prod.snd)) =
                  some (cs.length + 1) := by
                unfold scanText
                rw [if_pos]
                · rfl
                · rw [← List.cons_append, List.isPrefixOf_iff_prefix]
                  exact List.prefix_append _ _
              rcases reSub_skip (scanText (c :: cs)) new (some c) cs
                (rest.flatMap Prod.snd) with ⟨before', hskip⟩
              rw [hs, List.cons_append, reSub, hscan]
              dsimp only
              rw [hskip, hrest, if_pos rfl]
      | false =>
          have hnone : ∀ i < s.length,
              old.isPrefixOf (s.drop i ++ rest.flatMap Prod.snd) = false := by
            intro i hi
            simp only [noStray, Bool.false_or, Bool.and_eq_true, List.all_eq_true, List.mem_range,
              Bool.not_eq_true'] at hclean
            exact hclean.1 i hi
          rcases reSub_pass new before s _ hnone with ⟨before', hpass⟩
          rw [hpass, hrest, if_neg Bool.false_ne_true]

/-- Two texts with the same start before the first separator go on alike. -/
theorem append_cons_inj {c : Char} {xs ys us vs : List Char} (hxs : c ∉ xs) (hys : c ∉ ys)
    (h : xs ++ c :: us = ys ++ c :: vs) : xs = ys ∧ us = vs := by
  induction xs generalizing ys with
  | nil =>
      cases ys with
      | nil => exact ⟨rfl, (List.cons.inj h).2⟩
      | cons y ys => exact absurd ((List.cons.inj h).1 ▸ List.mem_cons_self) hys
  | cons x xs ih =>
      cases ys with
      | nil => exact absurd ((List.cons.inj h).1 ▸ List.mem_cons_self) hxs
      | cons y ys =>
          rcases List.cons.inj h with ⟨rfl, hrest⟩
          rcases ih (List.not_mem_of_not_mem_cons hxs) (List.not_mem_of_not_mem_cons hys) hrest with
            ⟨rfl, rfl⟩
          exact ⟨rfl, rfl⟩

/-- A joined text gives its parts back when none of them holds the
    separator. -/
theorem join_injective {sep : String} {c : Char} (hsep : sep.toList = [c]) {xs ys : List String}
    (hx : xs ≠ []) (hy : ys ≠ []) (hxs : ∀ x ∈ xs, c ∉ x.toList) (hys : ∀ y ∈ ys, c ∉ y.toList)
    (h : join sep xs = join sep ys) : xs = ys := by
  induction xs generalizing ys with
  | nil => exact absurd rfl hx
  | cons x xs ih =>
      cases ys with
      | nil => exact absurd rfl hy
      | cons y ys =>
          have hx₁ := hxs x List.mem_cons_self
          have hy₁ := hys y List.mem_cons_self
          -- A separator on one side only would lie inside the other side's only part.
          cases xs with
          | nil =>
              cases ys with
              | nil =>
                  rw [join, join] at h
                  rw [h]
              | cons y' ys =>
                  rw [join, join] at h
                  refine absurd ?_ hx₁
                  rw [h, String.toList_append, String.toList_append, hsep]
                  simp
          | cons x' xs =>
              cases ys with
              | nil =>
                  rw [join, join] at h
                  refine absurd ?_ hy₁
                  rw [← h, String.toList_append, String.toList_append, hsep]
                  simp
              | cons y' ys =>
                  have hlists := congrArg String.toList h
                  rw [join, join] at hlists
                  simp only [String.toList_append, hsep, List.append_assoc, List.singleton_append]
                    at hlists
                  rcases append_cons_inj hx₁ hy₁ hlists with ⟨hhead, htail⟩
                  have hrest := ih (List.cons_ne_nil _ _) (List.cons_ne_nil y' ys)
                    (fun z hz => hxs z (List.mem_cons_of_mem _ hz))
                    (fun z hz => hys z (List.mem_cons_of_mem _ hz)) (String.toList_inj.mp htail)
                  rw [String.toList_inj.mp hhead, hrest]

/-- A part of a joined text has the separator, or an end of the text, on both
    sides. -/
theorem mem_join (sep : String) {parts : List String} {p : String} (hp : p ∈ parts) :
    ∃ a b, (join sep parts).toList = a ++ (p.toList ++ b) ∧ (a = [] ∨ sep.toList <:+ a) ∧
      (b = [] ∨ sep.toList <+: b) := by
  induction parts with
  | nil => exact absurd hp List.not_mem_nil
  | cons q rest ih =>
      cases rest with
      | nil =>
          rw [List.mem_singleton.mp hp, join]
          exact ⟨[], [], (List.append_nil _).symm, Or.inl rfl, Or.inl rfl⟩
      | cons r rest =>
          rw [join, String.toList_append, String.toList_append, List.append_assoc]
          rcases List.mem_cons.mp hp with rfl | hp
          · exact ⟨[], _, rfl, Or.inl rfl, Or.inr (List.prefix_append _ _)⟩
          · rcases ih hp with ⟨a, b, hsplit, ha, hb⟩
            refine ⟨q.toList ++ (sep.toList ++ a), b, ?_, Or.inr ?_, hb⟩
            · rw [hsplit]
              simp only [List.append_assoc]
            · rcases ha with rfl | ha
              · rw [List.append_nil]
                exact List.suffix_append _ _
              · exact ha.trans (List.suffix_append_of_suffix (List.suffix_append _ _))

section Split

variable {sep : List Char}

theorem join_cons (sep p : String) {rest : List String} (hrest : rest ≠ []) :
    join sep (p :: rest) = p ++ sep ++ join sep rest := by
  cases rest with
  | nil => exact absurd rfl hrest
  | cons q rest => rfl

theorem splitFrom_ne_nil (sep piece : List Char) (skip : Nat) (cs : List Char) :
    splitFrom sep piece skip cs ≠ [] := by
  induction cs generalizing piece skip with
  | nil => cases skip <;> exact List.cons_ne_nil _ _
  | cons c cs ih =>
      cases skip with
      | succ skip => exact ih piece skip
      | zero =>
          rw [splitFrom]
          split
          · exact List.cons_ne_nil _ _
          · exact ih (c :: piece) 0

theorem join_splitFrom (hsep : sep ≠ []) (new : String) (piece : List Char) (skip : Nat)
    (before : Option Char) (cs : List Char) :
    (join new ((splitFrom sep piece skip cs).map String.ofList)).toList =
      piece.reverse ++ reSub (scanText sep) new.toList before skip cs := by
  induction cs generalizing piece skip before with
  | nil => cases skip <;> simp [splitFrom, join, reSub]
  | cons c cs ih =>
      cases skip with
      | succ skip => rw [splitFrom, ih piece skip (some c), reSub]
      | zero =>
          rw [splitFrom, reSub, scanText]
          have hlength : sep.length = (sep.length - 1) + 1 := by
            have hpos := List.length_pos_iff.mpr hsep
            omega
          by_cases hhere : sep.isPrefixOf (c :: cs) = true
          · rw [if_pos hhere, if_pos hhere, hlength, List.map_cons, join_cons _ _
              (by simpa using splitFrom_ne_nil sep [] (sep.length - 1) cs)]
            simp only [String.toList_append, String.toList_ofList, Nat.add_sub_cancel,
              ih [] (sep.length - 1) (some c), List.reverse_nil, List.nil_append,
              List.append_assoc]
          · rw [if_neg hhere, if_neg hhere, ih (c :: piece) 0 (some c), List.reverse_cons,
              List.append_assoc, List.singleton_append]

/-- A substitution joins the pieces of a split. -/
theorem replace_eq_join_split (s new : String) {old : String} (hold : old ≠ "") :
    replace s old new = join new (split s old) := by
  have hlist : old.toList ≠ [] := fun h => hold (String.toList_eq_nil_iff.mp h)
  rw [replace, ← String.toList_inj, split, join_splitFrom hlist new [] 0 none, String.toList_ofList,
    List.reverse_nil, List.nil_append]

theorem splitFrom_skip (sep : List Char) (skip : Nat) (cs : List Char) :
    splitFrom sep [] skip cs = splitFrom sep [] 0 (cs.drop skip) := by
  induction cs generalizing skip with
  | nil =>
      rw [List.drop_nil]
      cases skip <;> rfl
  | cons c cs ih =>
      cases skip with
      | zero => rfl
      | succ skip => rw [splitFrom, ih skip, List.drop_succ_cons]

theorem mem_splitFrom (hsep : sep ≠ []) {n : Nat} {cs : List Char} (hn : cs.length ≤ n)
    {piece a : List Char} (ha : a = [] ∨ sep <:+ a) {p : List Char}
    (hp : p ∈ splitFrom sep piece 0 cs) :
    ∃ a' b, a ++ (piece.reverse ++ cs) = a' ++ (p ++ b) ∧ (a' = [] ∨ sep <:+ a') ∧
      (b = [] ∨ sep <+: b) := by
  induction n generalizing cs piece a with
  | zero =>
      have hcs : cs = [] := List.length_eq_zero_iff.mp (Nat.le_zero.mp hn)
      rw [hcs, splitFrom, List.mem_singleton] at hp
      exact ⟨a, [], by rw [hcs, hp], ha, Or.inl rfl⟩
  | succ n ih =>
      cases cs with
      | nil =>
          rw [splitFrom, List.mem_singleton] at hp
          exact ⟨a, [], by rw [hp], ha, Or.inl rfl⟩
      | cons c cs =>
          rw [splitFrom] at hp
          split at hp
          next hhere =>
            rcases List.isPrefixOf_iff_prefix.mp hhere with ⟨rest, hrest⟩
            rcases List.mem_cons.mp hp with rfl | hp
            -- The piece at hand ends here.
            · exact ⟨a, c :: cs, rfl, ha, Or.inr ⟨rest, hrest⟩⟩
            -- The separator is skipped, and the search goes on behind it.
            · have hdrop : cs.drop (sep.length - 1) = rest := by
                cases sep with
                | nil => exact absurd rfl hsep
                | cons d sep =>
                    rw [← (List.cons.inj hrest).2, List.length_cons, Nat.add_sub_cancel]
                    exact List.drop_left
              rw [splitFrom_skip, hdrop] at hp
              have hlength : rest.length ≤ n := by
                have hsum := congrArg List.length hrest
                have hpos := List.length_pos_iff.mpr hsep
                rw [List.length_append, List.length_cons] at hsum
                rw [List.length_cons] at hn
                omega
              rcases ih hlength (a := a ++ piece.reverse ++ sep)
                (Or.inr (List.suffix_append _ _)) hp with ⟨a', b, hsplit, hends⟩
              refine ⟨a', b, ?_, hends⟩
              rw [← hsplit, ← hrest]
              simp only [List.append_assoc, List.reverse_nil, List.nil_append]
          · rcases ih (Nat.le_of_succ_le_succ hn) ha hp with ⟨a', b, hsplit, hends⟩
            refine ⟨a', b, ?_, hends⟩
            rw [← hsplit, List.reverse_cons, List.append_assoc, List.singleton_append]

/-- A piece of a split has the separator, or an end of the text, on both
    sides. -/
theorem mem_split {s sep : String} (hsep : sep ≠ "") {p : String} (hp : p ∈ split s sep) :
    ∃ a b, s.toList = a ++ (p.toList ++ b) ∧ (a = [] ∨ sep.toList <:+ a) ∧
      (b = [] ∨ sep.toList <+: b) := by
  have hlist : sep.toList ≠ [] := fun h => hsep (String.toList_eq_nil_iff.mp h)
  rcases List.mem_map.mp hp with ⟨cs, hcs, rfl⟩
  rw [String.toList_ofList]
  exact mem_splitFrom hlist (Nat.le_refl _) (a := []) (Or.inl rfl) hcs

end Split

end Py

end AgenticRag

import AgenticRag.Lib.JsonRoundTrip
import Mathlib.Data.List.Basic

/-!
# Line Ends in JSON

JSON knows two line ends, the line feed and the carriage return, and takes both
for white space. The other characters that end a line elsewhere may stand in its
strings and nowhere else. A text that was cut at all line ends and put together
again with line feeds has line feeds where they stood, and these may not stand
in a string: what was JSON before is none any more.

The proof follows the scanners. One that has read something from the front of a
text reads the same from the text with the line feeds, or is refused if what it
read has other line ends. How many of these there are is counted on the text
that is left, so that scans in a row add up.

## Main definitions

* `isOddEnd`, `feed`: The other line ends, and what becomes of them.
* `ReturnFree`: A value that is written without a carriage return.

## Theorems

* `feeds_scanOnce`: Every value.
* `loads_map_feed`: Text that has other line ends is refused with line feeds in
  their place.
-/

namespace AgenticRag

namespace Py

namespace Json

open Ordered

/-- A character that ends a line, but for the two that JSON knows. -/
def isOddEnd (c : Char) : Bool := isLineEnd c && c != '\n' && c != '\r'

/-- A line feed in place of such a character. -/
def feed (c : Char) : Char := if isOddEnd c then '\n' else c

/-- How many such characters a text has. -/
def oddEnds (cs : List Char) : Nat := cs.countP isOddEnd

theorem feed_of_not_odd {c : Char} (h : isOddEnd c = false) : feed c = c := by
  rw [feed, h]
  rfl

theorem feed_of_odd {c : Char} (h : isOddEnd c = true) : feed c = '\n' := by
  rw [feed, h]
  rfl

theorem oddEnds_cons_of_not_odd {c : Char} (h : isOddEnd c = false) (cs : List Char) :
    oddEnds (c :: cs) = oddEnds cs := by
  rw [oddEnds, List.countP_cons_of_neg (by rw [h]; exact Bool.false_ne_true)]
  rfl

/-- What a scan comes to that has read something and left the rest: it reads the
    same where nothing it read is to be replaced, and is refused otherwise. -/
def fedResult {α : Type} (cs : List Char) (x : α) (rest : List Char) :
    Except DecodeError (α × List Char) :=
  if oddEnds rest = oddEnds cs then .ok (x, rest.map feed) else .error .decode

/-- A scanner that does so on every text. -/
def Feeds {α : Type} (p : Scanner α) : Prop :=
  ∀ cs x rest, p cs = .ok (x, rest) →
    oddEnds rest ≤ oddEnds cs ∧ p (cs.map feed) = fedResult cs x rest

/-- A scanner that begins with none of the characters. -/
def PlainStart {α : Type} (p : Scanner α) : Prop :=
  ∀ cs r, p cs = .ok r → ∀ c, cs.head? = some c → isOddEnd c = false

section Results

variable {α β : Type} {cs rest rest' : List Char} {x : α} {y : β}

theorem fedResult_of_eq (h : oddEnds rest = oddEnds cs) :
    fedResult cs x rest = .ok (x, rest.map feed) := if_pos h

theorem fedResult_map (f : α → β) :
    (fedResult cs x rest).map (fun r => (f r.1, r.2)) = fedResult cs (f x) rest := by
  rw [fedResult, fedResult]
  split_ifs <;> rfl

/-- A scan after a scan. -/
theorem fedResult_bind (hle : oddEnds rest ≤ oddEnds cs) (hle' : oddEnds rest' ≤ oddEnds rest)
    {k : α × List Char → Except DecodeError (β × List Char)}
    (hk : k (x, rest.map feed) = fedResult rest y rest') :
    (fedResult cs x rest >>= k) = fedResult cs y rest' := by
  by_cases h : oddEnds rest = oddEnds cs
  · rw [fedResult_of_eq h]
    refine hk.trans ?_
    rw [fedResult, fedResult, h]
  · have hne : oddEnds rest' ≠ oddEnds cs := by omega
    rw [fedResult, if_neg h, fedResult, if_neg hne]
    rfl

/-- What a scan of a text comes to depends on the text by its count only. -/
theorem fedResult_congr (h : oddEnds cs = oddEnds rest') :
    fedResult cs x rest = fedResult rest' x rest := by
  rw [fedResult, fedResult, h]

end Results

section Spaces

theorem oddEnds_skipWs (cs : List Char) : oddEnds (skipWs cs) = oddEnds cs := by
  induction cs with
  | nil => rfl
  | cons c cs ih =>
      by_cases hws : isWs c = true
      · have hodd : isOddEnd c = false := by
          simp only [isWs, Bool.or_eq_true, decide_eq_true_eq] at hws
          rcases hws with ((rfl | rfl) | rfl) | rfl <;> rfl
        rw [skipWs, List.dropWhile_cons_of_pos hws, oddEnds_cons_of_not_odd hodd]
        exact ih
      · rw [skipWs, List.dropWhile_cons_of_neg hws]

theorem isWs_feed_of_isWs {c : Char} (h : isWs c = true) : feed c = c := by
  simp only [isWs, Bool.or_eq_true, decide_eq_true_eq] at h
  rcases h with ((rfl | rfl) | rfl) | rfl <;> rfl

/-- The space before something that is not to be replaced is the same. -/
theorem skipWs_map_feed {cs : List Char}
    (h : ∀ c, (skipWs cs).head? = some c → isOddEnd c = false) :
    skipWs (cs.map feed) = (skipWs cs).map feed := by
  induction cs with
  | nil => rfl
  | cons c cs ih =>
      by_cases hws : isWs c = true
      · rw [skipWs, List.dropWhile_cons_of_pos hws] at h
        rw [List.map_cons, isWs_feed_of_isWs hws, skipWs, List.dropWhile_cons_of_pos hws, skipWs,
          List.dropWhile_cons_of_pos hws]
        exact ih h
      · rw [skipWs, List.dropWhile_cons_of_neg hws] at h
        have hc : feed c = c := feed_of_not_odd (h c rfl)
        rw [List.map_cons, hc, skipWs, List.dropWhile_cons_of_neg hws, skipWs,
          List.dropWhile_cons_of_neg hws, List.map_cons, hc]

end Spaces

section Strings

/-- A character that is no quote and no escape is read as it is, unless it is a
    control character. -/
theorem scanPieces_cons {c : Char} (hquote : c ≠ '"') (hescape : c ≠ '\\') (cs : List Char) :
    scanPieces (c :: cs) = if c.toNat < 0x20 then .error .decode
      else (scanPieces cs).map (fun r => (.char c :: r.1, r.2)) := by
  rw [scanPieces]
  · simp [hescape]
  · exact fun h => hquote h
  · exact fun _ _ _ _ _ h => absurd h hescape
  · exact fun _ _ h => absurd h hescape

theorem isOddEnd_of_printable {c : Char} (h : 0x20 ≤ c.toNat ∧ c.toNat < 0x80) :
    isOddEnd c = false := by
  have hend : isLineEnd c = false := by
    rw [isLineEnd, decide_eq_false_iff_not]
    omega
  rw [isOddEnd, hend]
  rfl

theorem isOddEnd_of_hexValue {c : Char} {n : Nat} (h : hexValue c = some n) :
    isOddEnd c = false := by
  refine isOddEnd_of_printable ?_
  have hle : ∀ d e : Char, d ≤ e → d.toNat ≤ e.toNat := fun _ _ h => h
  rw [hexValue] at h
  split_ifs at h with hdigit hlower hupper
  · have h1 := hle _ _ hdigit.1
    have h2 := hle _ _ hdigit.2
    exact ⟨le_trans (by decide) h1, lt_of_le_of_lt h2 (by decide)⟩
  · have h1 := hle _ _ hlower.1
    have h2 := hle _ _ hlower.2
    exact ⟨le_trans (by decide) h1, lt_of_le_of_lt h2 (by decide)⟩
  · have h1 := hle _ _ hupper.1
    have h2 := hle _ _ hupper.2
    exact ⟨le_trans (by decide) h1, lt_of_le_of_lt h2 (by decide)⟩

theorem isOddEnd_of_hex4 {a b c d : Char} {n : Nat} (h : hex4 a b c d = some n) :
    isOddEnd a = false ∧ isOddEnd b = false ∧ isOddEnd c = false ∧ isOddEnd d = false := by
  rcases Option.bind_eq_some_iff.mp h with ⟨x, ha, h⟩
  rcases Option.bind_eq_some_iff.mp h with ⟨y, hb, h⟩
  rcases Option.bind_eq_some_iff.mp h with ⟨z, hc, h⟩
  rcases Option.bind_eq_some_iff.mp h with ⟨w, hd, -⟩
  exact ⟨isOddEnd_of_hexValue ha, isOddEnd_of_hexValue hb, isOddEnd_of_hexValue hc,
    isOddEnd_of_hexValue hd⟩

theorem isOddEnd_of_escape {e c : Char} (h : escapes.lookup e = some c) :
    isOddEnd e = false ∧ e ≠ 'u' := by
  have hmem := mem_of_lookup h
  have hall : ∀ p ∈ escapes, isOddEnd p.1 = false ∧ p.1 ≠ 'u' := by decide
  exact hall _ hmem

theorem scanPieces_escape {e c : Char} (h : escapes.lookup e = some c) (cs : List Char) :
    scanPieces ('\\' :: e :: cs) = (scanPieces cs).map (fun r => (.char c :: r.1, r.2)) := by
  rw [scanPieces]
  · rw [h]
  · exact fun _ _ _ _ _ he _ => (isOddEnd_of_escape h).2 he

theorem feeds_scanPieces : Feeds scanPieces := by
  intro cs ps rest h
  fun_induction scanPieces cs generalizing ps with
  | case1 => cases h
  | case2 cs =>
      cases h
      have hquote : isOddEnd '"' = false := by decide
      rw [oddEnds_cons_of_not_odd hquote, List.map_cons, feed_of_not_odd hquote, scanPieces]
      exact ⟨le_rfl, (fedResult_of_eq (oddEnds_cons_of_not_odd hquote _).symm).symm⟩
  | case3 a b c d cs n hn ih =>
      rcases exists_of_map_ok h with ⟨⟨ps', rest'⟩, hr, heq⟩
      cases heq
      rcases ih _ hr with ⟨hle, hfed⟩
      rcases isOddEnd_of_hex4 hn with ⟨ha, hb, hc, hd⟩
      have hescape : isOddEnd '\\' = false := by decide
      have hu : isOddEnd 'u' = false := by decide
      have hodd : oddEnds ('\\' :: 'u' :: a :: b :: c :: d :: cs) = oddEnds cs := by
        simp only [oddEnds_cons_of_not_odd, hescape, hu, ha, hb, hc, hd]
      refine ⟨hodd ▸ hle, ?_⟩
      simp only [List.map_cons, feed_of_not_odd, hescape, hu, ha, hb, hc, hd]
      rw [scanPieces, hn]
      dsimp only
      rw [hfed]
      exact (fedResult_map (fun ps => Piece.unit n :: ps)).trans (fedResult_congr hodd.symm)
  | case4 => cases h
  | case5 e cs hu c hc ih =>
      rcases exists_of_map_ok h with ⟨⟨ps', rest'⟩, hr, heq⟩
      cases heq
      rcases ih _ hr with ⟨hle, hfed⟩
      have hescape : isOddEnd '\\' = false := by decide
      have he := (isOddEnd_of_escape hc).1
      have hodd : oddEnds ('\\' :: e :: cs) = oddEnds cs := by
        rw [oddEnds_cons_of_not_odd hescape, oddEnds_cons_of_not_odd he]
      refine ⟨hodd ▸ hle, ?_⟩
      rw [List.map_cons, List.map_cons, feed_of_not_odd hescape, feed_of_not_odd he,
        scanPieces_escape hc, hfed]
      exact (fedResult_map (fun ps => Piece.char c :: ps)).trans (fedResult_congr hodd.symm)
  | case6 => cases h
  | case7 => cases h
  | case8 c cs hquote hu he hc ih =>
      rcases exists_of_map_ok h with ⟨⟨ps', rest'⟩, hr, heq⟩
      cases heq
      rcases ih _ hr with ⟨hle, hfed⟩
      rw [not_or] at hc
      cases hend : isOddEnd c with
      | true =>
          -- A line feed is a control character, and no string has one.
          have hodd : oddEnds (c :: cs) = oddEnds cs + 1 := List.countP_cons_of_pos hend
          rw [hodd, List.map_cons, feed_of_odd hend,
            scanPieces_cons (by decide) (by decide), if_pos (by decide), fedResult,
            if_neg (by omega)]
          exact ⟨by omega, rfl⟩
      | false =>
          have hodd := oddEnds_cons_of_not_odd hend cs
          refine ⟨hodd ▸ hle, ?_⟩
          rw [List.map_cons, feed_of_not_odd hend,
            scanPieces_cons (fun h => hquote h) hc.2, if_neg hc.1, hfed]
          exact (fedResult_map (fun ps => Piece.char c :: ps)).trans (fedResult_congr hodd.symm)

theorem feeds_scanString : Feeds scanString := by
  intro cs x rest h
  rcases exists_of_map_ok h with ⟨⟨ps, rest'⟩, hr, heq⟩
  cases heq
  rcases feeds_scanPieces cs ps rest' hr with ⟨hle, hfed⟩
  refine ⟨hle, ?_⟩
  rw [scanString, hfed]
  exact fedResult_map (fun ps => String.ofList (joinPieces ps))

end Strings

section Numbers

/-- A run of characters that are not replaced. -/
theorem takeWhile_map_feed {q : Char → Bool} (hq : ∀ c, q c = true → isOddEnd c = false)
    (hline : q '\n' = false) (cs : List Char) :
    (cs.map feed).takeWhile q = cs.takeWhile q ∧
      (cs.map feed).dropWhile q = (cs.dropWhile q).map feed ∧
      oddEnds (cs.dropWhile q) = oddEnds cs := by
  induction cs with
  | nil => exact ⟨rfl, rfl, rfl⟩
  | cons c cs ih =>
      rw [List.map_cons]
      by_cases hc : q c = true
      · have hodd := hq c hc
        rw [feed_of_not_odd hodd, List.takeWhile_cons_of_pos hc, List.takeWhile_cons_of_pos hc,
          List.dropWhile_cons_of_pos hc, List.dropWhile_cons_of_pos hc, ih.1, ih.2.1, ih.2.2,
          oddEnds_cons_of_not_odd hodd]
        exact ⟨rfl, rfl, rfl⟩
      -- The run ends here, and a line feed ends it as well.
      · have hfeed : ¬ q (feed c) = true := by
          cases hodd : isOddEnd c with
          | true => rw [feed_of_odd hodd, hline]; exact Bool.false_ne_true
          | false => rw [feed_of_not_odd hodd]; exact hc
        rw [List.takeWhile_cons_of_neg hfeed, List.takeWhile_cons_of_neg hc,
          List.dropWhile_cons_of_neg hfeed, List.dropWhile_cons_of_neg hc]
        exact ⟨rfl, rfl, rfl⟩

theorem isOddEnd_of_isDigit {c : Char} (h : c.isDigit = true) : isOddEnd c = false := by
  refine isOddEnd_of_printable ?_
  rw [Char.isDigit, Bool.and_eq_true, decide_eq_true_eq, decide_eq_true_eq] at h
  exact ⟨le_trans (by decide) (UInt32.le_iff_toNat_le.mp h.1),
    lt_of_le_of_lt (UInt32.le_iff_toNat_le.mp h.2) (by decide)⟩

theorem digits_map_feed (cs : List Char) :
    (cs.map feed).takeWhile Char.isDigit = cs.takeWhile Char.isDigit ∧
      (cs.map feed).dropWhile Char.isDigit = (cs.dropWhile Char.isDigit).map feed ∧
      oddEnds (cs.dropWhile Char.isDigit) = oddEnds cs :=
  takeWhile_map_feed (fun _ h => isOddEnd_of_isDigit h) (by decide) cs

/-- A character is not replaced by one that is printed. -/
theorem feed_eq_iff {c d : Char} (hd : isOddEnd d = false) (hline : d ≠ '\n') :
    feed c = d ↔ c = d := by
  cases hodd : isOddEnd c with
  | true =>
      rw [feed_of_odd hodd]
      refine iff_of_false (fun h => hline h.symm) ?_
      rintro rfl
      rw [hodd] at hd
      cases hd
  | false => rw [feed_of_not_odd hodd]

theorem isDigit_feed (c : Char) : (feed c).isDigit = c.isDigit := by
  cases hodd : isOddEnd c with
  | true =>
      rw [feed_of_odd hodd]
      cases hdigit : c.isDigit with
      | true => rw [isOddEnd_of_isDigit hdigit] at hodd; cases hodd
      | false => rfl
  | false => rw [feed_of_not_odd hodd]

theorem scanNatural_map_feed (cs : List Char) :
    scanNatural (cs.map feed) = (scanNatural cs).map (fun r => (r.1, r.2.map feed)) ∧
      ∀ r, scanNatural cs = some r → oddEnds r.2 = oddEnds cs := by
  cases cs with
  | nil => exact ⟨rfl, fun r hr => by cases hr⟩
  | cons c cs =>
      rcases digits_map_feed cs with ⟨htake, hdrop, hodd⟩
      rw [List.map_cons, scanNatural, scanNatural]
      simp only [feed_eq_iff (d := '0') (by decide) (by decide), isDigit_feed]
      split_ifs with hzero hdigit
      · subst hzero
        refine ⟨rfl, fun r hr => ?_⟩
        cases hr
        exact (oddEnds_cons_of_not_odd (by decide) cs).symm
      · have hc := isOddEnd_of_isDigit hdigit
        refine ⟨by rw [feed_of_not_odd hc, htake, hdrop]; rfl, fun r hr => ?_⟩
        cases hr
        rw [oddEnds_cons_of_not_odd hc]
        exact hodd
      · exact ⟨rfl, fun r hr => by cases hr⟩

theorem scanInteger_map_feed (cs : List Char) :
    scanInteger (cs.map feed) = (scanInteger cs).map (fun r => (r.1, r.2.map feed)) ∧
      ∀ r, scanInteger cs = some r → oddEnds r.2 = oddEnds cs := by
  cases cs with
  | nil => exact ⟨rfl, nofun⟩
  | cons c cs =>
      rw [List.map_cons, scanInteger, scanInteger]
      simp only [feed_eq_iff (d := '-') (by decide) (by decide)]
      split_ifs with hminus
      · subst hminus
        rcases scanNatural_map_feed cs with ⟨hscan, hodd⟩
        refine ⟨?_, fun r hr => ?_⟩
        · rw [hscan, Option.map_map, Option.map_map]
          rfl
        · rcases Option.map_eq_some_iff.mp hr with ⟨r', hr', rfl⟩
          rw [oddEnds_cons_of_not_odd (by decide)]
          exact hodd r' hr'
      · exact scanNatural_map_feed (c :: cs)

theorem scanFraction_map_feed (cs : List Char) :
    scanFraction (cs.map feed) = ((scanFraction cs).1, (scanFraction cs).2.map feed) ∧
      oddEnds (scanFraction cs).2 = oddEnds cs := by
  cases cs with
  | nil => exact ⟨rfl, rfl⟩
  | cons c cs =>
      rcases digits_map_feed cs with ⟨htake, hdrop, hodd⟩
      rw [List.map_cons, scanFraction, scanFraction]
      simp only [feed_eq_iff (d := '.') (by decide) (by decide), htake, hdrop]
      split_ifs with hpoint
      · rcases hpoint with ⟨rfl, -⟩
        rw [oddEnds_cons_of_not_odd (by decide)]
        exact ⟨rfl, hodd⟩
      · exact ⟨rfl, rfl⟩

/-- A sign, if there is one, is the same. -/
theorem sign_map_feed (cs : List Char) :
    ((cs.map feed).take 1).filter (fun s => s = '+' || s = '-') =
        (cs.take 1).filter (fun s => s = '+' || s = '-') ∧
      oddEnds (cs.drop ((cs.take 1).filter (fun s => s = '+' || s = '-')).length) =
        oddEnds cs := by
  cases cs with
  | nil => exact ⟨rfl, rfl⟩
  | cons d ds =>
      by_cases hsign : d = '+' ∨ d = '-'
      · have hd : isOddEnd d = false := by rcases hsign with rfl | rfl <;> decide
        have hfilter : [d].filter (fun s => s = '+' || s = '-') = [d] := by
          simp [hsign]
        rw [List.map_cons, feed_of_not_odd hd, List.take_succ_cons, List.take_succ_cons,
          List.take_zero, List.take_zero, hfilter]
        exact ⟨rfl, (oddEnds_cons_of_not_odd hd ds).symm⟩
      · have hfeed : ¬ (feed d = '+' ∨ feed d = '-') := by
          rwa [feed_eq_iff (by decide) (by decide), feed_eq_iff (by decide) (by decide)]
        rw [not_or] at hsign hfeed
        simp [hsign.1, hsign.2, hfeed.1, hfeed.2]

theorem scanExponent_map_feed (cs : List Char) :
    scanExponent (cs.map feed) = ((scanExponent cs).1, (scanExponent cs).2.map feed) ∧
      oddEnds (scanExponent cs).2 = oddEnds cs := by
  cases cs with
  | nil => exact ⟨rfl, rfl⟩
  | cons c cs =>
      rcases sign_map_feed cs with ⟨hsign, hcount⟩
      rcases digits_map_feed (cs.drop ((cs.take 1).filter (fun s => s = '+' || s = '-')).length)
        with ⟨htake, hdrop, hodd⟩
      rw [List.map_cons, scanExponent, scanExponent]
      simp only [feed_eq_iff (d := 'e') (by decide) (by decide),
        feed_eq_iff (d := 'E') (by decide) (by decide), hsign, ← List.map_drop, htake, hdrop]
      split_ifs with hexp
      · have hc : isOddEnd c = false := by rcases hexp.1 with rfl | rfl <;> decide
        rw [feed_of_not_odd hc, oddEnds_cons_of_not_odd hc]
        exact ⟨rfl, hodd.trans hcount⟩
      · exact ⟨rfl, rfl⟩

theorem feeds_scanNumber (readFloat : String → Option (ℚ × String)) :
    Feeds (scanNumber readFloat) := by
  intro cs x rest h
  rcases scanInteger_map_feed cs with ⟨hinteger, hodd⟩
  rw [scanNumber] at h
  cases hscan : scanInteger cs with
  | none =>
      rw [hscan] at h
      cases h
  | some r =>
      rcases r with ⟨integer, cs'⟩
      rw [hscan] at h
      dsimp only at h
      rcases scanFraction_map_feed cs' with ⟨hfraction, hodd'⟩
      rcases scanExponent_map_feed (scanFraction cs').2 with ⟨hexponent, hodd''⟩
      -- None of the three parts reads such a character.
      have hcount : oddEnds (scanExponent (scanFraction cs').2).2 = oddEnds cs :=
        hodd''.trans (hodd'.trans (hodd _ hscan))
      rw [scanNumber, hinteger, hscan]
      simp only [Option.map_some, hfraction, hexponent]
      split_ifs at h ⊢ with hfloat hlong
      · cases h
        exact ⟨hcount.le, (fedResult_of_eq hcount).symm⟩
      · cases h
        exact ⟨hcount.le, (fedResult_of_eq hcount).symm⟩

/-- A number begins with a digit or a sign. -/
theorem plainStart_scanNumber (readFloat : String → Option (ℚ × String)) :
    PlainStart (scanNumber readFloat) := by
  intro cs r h c hc
  rcases exists_digit_of_scanNumber h with ⟨d, cs', hd, rfl | rfl⟩
  · cases hc
    exact isOddEnd_of_isDigit hd
  · cases hc
    rfl

end Numbers

section Containers

variable (readFloat : String → Option (ℚ × String))

theorem isPrefixOf_map_feed {w : List Char} (hw : ∀ c ∈ w, isOddEnd c = false ∧ c ≠ '\n')
    (cs : List Char) : w.isPrefixOf (cs.map feed) = w.isPrefixOf cs := by
  induction w generalizing cs with
  | nil => rfl
  | cons c w ih =>
      cases cs with
      | nil => rfl
      | cons d cs =>
          rcases hw c List.mem_cons_self with ⟨hc, hline⟩
          have hhead : (c == feed d) = (c == d) := by
            rw [Bool.eq_iff_iff, beq_iff_eq, beq_iff_eq, eq_comm, feed_eq_iff hc hline, eq_comm]
          rw [List.map_cons, List.isPrefixOf_cons_cons, List.isPrefixOf_cons_cons, hhead,
            ih (fun e he => hw e (List.mem_cons_of_mem _ he))]

theorem oddEnds_append_of_none {w : List Char} (hw : ∀ c ∈ w, isOddEnd c = false)
    (cs : List Char) : oddEnds (w ++ cs) = oddEnds cs := by
  rw [oddEnds, List.countP_append, List.countP_eq_zero.mpr (fun c hc => by simp [hw c hc]),
    Nat.zero_add]
  rfl

theorem constants_plain : ∀ w ∈ constants, w.1.toList ≠ [] ∧
    ∀ c ∈ w.1.toList, isOddEnd c = false ∧ c ≠ '\n' := by decide

theorem scanConstant_map_feed (cs : List Char) :
    scanConstant (cs.map feed) = (scanConstant cs).map (fun r => (r.1, r.2.map feed)) := by
  have hfind : constants.find? (fun w => w.1.toList.isPrefixOf (cs.map feed)) =
      constants.find? (fun w => w.1.toList.isPrefixOf cs) :=
    List.find?_congr (fun w hw => isPrefixOf_map_feed (constants_plain w hw).2 cs)
  rw [scanConstant, scanConstant, hfind, Option.map_map]
  simp only [Function.comp_def, List.map_drop]

/-- A word that is read is none of the characters. -/
theorem scanConstant_spec {cs : List Char} {r : Val × List Char}
    (h : scanConstant cs = some r) :
    oddEnds r.2 = oddEnds cs ∧ ∀ c, cs.head? = some c → isOddEnd c = false := by
  rcases Option.map_eq_some_iff.mp h with ⟨w, hw, rfl⟩
  have hfound : w.1.toList.isPrefixOf cs = true :=
    List.find?_some (p := fun w : String × Val => w.1.toList.isPrefixOf cs) hw
  rcases List.isPrefixOf_iff_prefix.mp hfound with ⟨rest, rfl⟩
  rcases constants_plain w (List.mem_of_find?_eq_some hw) with ⟨hne, hplain⟩
  refine ⟨?_, fun c hc => ?_⟩
  · dsimp only
    rw [← String.length_toList, List.drop_left,
      oddEnds_append_of_none (fun c hc => (hplain c hc).1)]
  · rw [List.head?_append_of_ne_nil _ hne] at hc
    exact (hplain c (List.mem_of_mem_head? hc)).1

theorem feeds_scanScalar : Feeds (scanScalar readFloat) := by
  intro cs x rest h
  rw [scanScalar] at h ⊢
  by_cases hquote : cs.head? = some '"'
  · cases cs with
    | nil => cases hquote
    | cons c cs =>
        cases hquote
        have hc : isOddEnd '"' = false := by decide
        rw [List.head?_cons, if_pos rfl] at h
        rcases exists_of_map_ok h with ⟨⟨s, rest'⟩, hr, heq⟩
        cases heq
        rcases feeds_scanString cs s rest' hr with ⟨hle, hfed⟩
        refine ⟨(oddEnds_cons_of_not_odd hc cs).symm ▸ hle, ?_⟩
        rw [List.map_cons, feed_of_not_odd hc, List.head?_cons, if_pos rfl, List.drop_one,
          List.tail_cons, hfed]
        exact (fedResult_map Val.str).trans
          (fedResult_congr (oddEnds_cons_of_not_odd hc cs).symm)
  -- No character becomes a quote.
  · have hquote' : ¬ (cs.map feed).head? = some '"' := by
      rw [List.head?_map, Option.map_eq_some_iff]
      rintro ⟨c, hc, hfeed⟩
      rw [feed_eq_iff (by decide) (by decide)] at hfeed
      exact hquote (hfeed ▸ hc)
    rw [if_neg hquote] at h
    rw [if_neg hquote', scanConstant_map_feed]
    cases hconstant : scanConstant cs with
    | none =>
        rw [hconstant] at h
        -- What is no word is a number.
        exact feeds_scanNumber readFloat cs x rest h
    | some r =>
        rw [hconstant] at h
        cases h
        have hodd := (scanConstant_spec hconstant).1
        exact ⟨hodd.le, (fedResult_of_eq hodd).symm⟩

theorem plainStart_scanScalar : PlainStart (scanScalar readFloat) := by
  intro cs r h c hc
  rw [scanScalar] at h
  split_ifs at h with hquote
  · rw [hquote] at hc
    cases hc
    rfl
  · cases hconstant : scanConstant cs with
    | none =>
        rw [hconstant] at h
        exact plainStart_scanNumber readFloat cs r h c hc
    | some r' => exact (scanConstant_spec hconstant).2 c hc

variable {α : Type} {item : Scanner α} {close : Char}

theorem plainStart_scanItems (hplain : PlainStart item) (fuel : Nat) :
    PlainStart (scanItems item close fuel) := by
  intro cs r h
  cases fuel with
  | zero => cases h
  | succ fuel =>
      rcases exists_of_bind_ok h with ⟨r', hr', -⟩
      exact hplain cs r' hr'

theorem fedResult_bind_ok {α β : Type} {cs rest : List Char} {x : α} (f : α → β) :
    (fedResult cs x rest >>= fun r => .ok (f r.1, r.2)) = fedResult cs (f x) rest := by
  rw [fedResult, fedResult]
  split_ifs <;> rfl

theorem feeds_scanItems (hitem : Feeds item) (hplain : PlainStart item)
    (hclose : isOddEnd close = false) (fuel : Nat) : Feeds (scanItems item close fuel) := by
  induction fuel with
  | zero =>
      intro cs x rest h
      cases h
  | succ fuel ih =>
      intro cs xs rest h
      rcases exists_of_bind_ok h with ⟨⟨x, cs'⟩, hx, h⟩
      rcases hitem cs x cs' hx with ⟨hle, hfed⟩
      have hskip := oddEnds_skipWs cs'
      dsimp only at h
      cases hcs : skipWs cs' with
      | nil =>
          rw [hcs] at h
          cases h
      | cons c cs'' =>
          rw [hcs] at h hskip
          dsimp only at h
          -- Behind an item stands the bracket or a comma.
          have hc : isOddEnd c = false := by
            split_ifs at h with h1 h2
            · exact h1 ▸ hclose
            · rw [h2]
              decide
          rw [oddEnds_cons_of_not_odd hc] at hskip
          have hcs' : skipWs (cs'.map feed) = c :: cs''.map feed := by
            rw [skipWs_map_feed (by rw [hcs]; rintro d ⟨⟩; exact hc), hcs, List.map_cons,
              feed_of_not_odd hc]
          rw [scanItems, hfed]
          split_ifs at h with h1 h2
          · cases h
            refine ⟨hskip ▸ hle, fedResult_bind hle hskip.le ?_⟩
            dsimp only
            rw [hcs']
            dsimp only
            rw [if_pos h1, fedResult_of_eq hskip]
          -- The items behind the comma are scanned with less fuel.
          · rcases exists_of_bind_ok h with ⟨⟨ys, rest'⟩, hys, heq⟩
            cases heq
            rcases ih _ _ _ hys with ⟨hle', hfed'⟩
            rw [oddEnds_skipWs, hskip] at hle'
            refine ⟨hle'.trans hle, fedResult_bind hle hle' ?_⟩
            dsimp only
            rw [hcs']
            dsimp only
            rw [if_neg h1, if_pos h2,
              skipWs_map_feed (plainStart_scanItems hplain fuel _ _ hys), hfed']
            refine (fedResult_bind_ok (fun ys => x :: ys)).trans (fedResult_congr ?_)
            rw [oddEnds_skipWs, hskip]

theorem feeds_scanSeq (hitem : Feeds item) (hplain : PlainStart item)
    (hclose : isOddEnd close = false) (hline : close ≠ '\n') : Feeds (scanSeq item close) := by
  intro cs xs rest h
  rw [scanSeq] at h ⊢
  -- The bracket is closed at once, or there are items.
  by_cases hhead : (skipWs cs).head? = some close
  · have hskip := oddEnds_skipWs cs
    have hcs : skipWs (cs.map feed) = (skipWs cs).map feed :=
      skipWs_map_feed (fun c hc => by rw [hhead] at hc; cases hc; exact hclose)
    have hfeed : ((skipWs cs).map feed).head? = some close := by
      rw [List.head?_map, hhead, Option.map_some, feed_of_not_odd hclose]
    rw [if_pos hhead] at h
    rw [hcs, if_pos hfeed]
    cases hws : skipWs cs with
    | nil =>
        rw [hws] at hhead
        cases hhead
    | cons c cs' =>
        rw [hws] at hhead hskip h
        cases hhead
        cases h
        rw [oddEnds_cons_of_not_odd hclose] at hskip
        exact ⟨hskip.le, (fedResult_of_eq hskip).symm⟩
  · rw [if_neg hhead] at h
    have hstart := plainStart_scanItems hplain _ _ _ h
    have hcs : skipWs (cs.map feed) = (skipWs cs).map feed := skipWs_map_feed hstart
    have hfeed : ¬ ((skipWs cs).map feed).head? = some close := by
      rw [List.head?_map, Option.map_eq_some_iff]
      rintro ⟨c, hc, heq⟩
      rw [feed_eq_iff hclose hline] at heq
      exact hhead (heq ▸ hc)
    rcases feeds_scanItems hitem hplain hclose _ _ _ _ h with ⟨hle, hfed⟩
    rw [oddEnds_skipWs] at hle
    rw [hcs, if_neg hfeed, List.length_map, hfed]
    exact ⟨hle, fedResult_congr (oddEnds_skipWs cs)⟩

theorem plainStart_scanMember (value : Scanner Val) : PlainStart (scanMember value) := by
  intro cs r h c hc
  rw [scanMember] at h
  split_ifs at h with hquote
  · rw [hquote] at hc
    cases hc
    rfl

theorem feeds_scanMember {value : Scanner Val} (hvalue : Feeds value)
    (hplain : PlainStart value) : Feeds (scanMember value) := by
  intro cs x rest h
  have hstart := plainStart_scanMember value _ _ h
  rw [scanMember] at h ⊢
  split_ifs at h with hquote
  · cases cs with
    | nil => cases hquote
    | cons c cs =>
        cases hquote
        have hc : isOddEnd '"' = false := by decide
        rcases exists_of_bind_ok h with ⟨⟨key, cs'⟩, hkey, h⟩
        rcases feeds_scanString _ _ _ hkey with ⟨hle, hfed⟩
        rw [List.drop_one, List.tail_cons] at hle hfed
        dsimp only at h
        split_ifs at h with hcolon
        · rcases exists_of_bind_ok h with ⟨⟨v, rest'⟩, hv, heq⟩
          cases heq
          rcases hvalue _ _ _ hv with ⟨hle', hfed'⟩
          have hcs' : skipWs (cs'.map feed) = (skipWs cs').map feed :=
            skipWs_map_feed (fun d hd => by rw [hcolon] at hd; cases hd; rfl)
          -- The colon is none of the characters, and white space has none.
          have hdrop : oddEnds (skipWs ((skipWs cs').drop 1)) = oddEnds cs' := by
            rw [oddEnds_skipWs, ← oddEnds_skipWs cs']
            cases hws : skipWs cs' with
            | nil => rfl
            | cons d ds =>
                rw [hws] at hcolon
                cases hcolon
                exact (oddEnds_cons_of_not_odd (by decide) ds).symm
          rw [hdrop] at hle'
          rw [List.map_cons, feed_of_not_odd hc, List.head?_cons, if_pos rfl, List.drop_one,
            List.tail_cons, hfed, oddEnds_cons_of_not_odd hc]
          refine ⟨hle'.trans hle, ?_⟩
          refine (fedResult_bind hle hle' ?_).trans
            (fedResult_congr (oddEnds_cons_of_not_odd hc cs).symm)
          dsimp only
          rw [hcs', if_pos (by rw [List.head?_map, hcolon]; rfl), ← List.map_drop,
            skipWs_map_feed (hplain _ _ hv), hfed']
          exact (fedResult_bind_ok (fun v => (key, v))).trans (fedResult_congr hdrop)

theorem plainStart_scanOnce (depth : Nat) : PlainStart (scanOnce readFloat depth) := by
  intro cs r h c hc
  cases cs with
  | nil => cases hc
  | cons d cs =>
      cases hc
      unfold scanOnce at h
      split_ifs at h with hdict hlist
      · rw [hdict]
        decide
      · rw [hlist]
        decide
      · exact plainStart_scanScalar readFloat _ _ h c rfl

/-- Every value is read the same or refused. -/
theorem feeds_scanOnce (depth : Nat) : Feeds (scanOnce readFloat depth) := by
  induction depth with
  | zero =>
      intro cs x rest h
      cases cs with
      | nil => exact feeds_scanScalar readFloat [] x rest h
      | cons c cs =>
          unfold scanOnce at h
          -- Without depth nothing but scalars is read.
          split_ifs at h with hdict hlist
          unfold scanOnce
          rw [List.map_cons]
          dsimp only
          rw [if_neg (by rwa [feed_eq_iff (by decide) (by decide)]),
            if_neg (by rwa [feed_eq_iff (by decide) (by decide)])]
          exact feeds_scanScalar readFloat (c :: cs) x rest h
  | succ depth ih =>
      have hplain := plainStart_scanOnce readFloat depth
      intro cs x rest h
      cases cs with
      | nil => exact feeds_scanScalar readFloat [] x rest h
      | cons c cs =>
          unfold scanOnce at h ⊢
          rw [List.map_cons]
          -- The opening bracket stays what it is.
          simp only [feed_eq_iff (c := c) (d := '\x7b') (by decide) (by decide),
            feed_eq_iff (c := c) (d := '[') (by decide) (by decide)]
          split_ifs at h ⊢ with hdict hlist
          · rcases exists_of_map_ok h with ⟨⟨kvs, rest'⟩, hr, heq⟩
            cases heq
            have hc : isOddEnd c = false := by rw [hdict]; decide
            rcases feeds_scanSeq (feeds_scanMember ih hplain) (plainStart_scanMember _)
              (by decide) (by decide) _ _ _ hr with ⟨hle, hfed⟩
            rw [oddEnds_cons_of_not_odd hc, hfed]
            exact ⟨hle, (fedResult_map (fun kvs => Val.dict (dictOf kvs))).trans
              (fedResult_congr (oddEnds_cons_of_not_odd hc cs).symm)⟩
          · rcases exists_of_map_ok h with ⟨⟨xs, rest'⟩, hr, heq⟩
            cases heq
            have hc : isOddEnd c = false := by rw [hlist]; decide
            rcases feeds_scanSeq ih hplain (by decide) (by decide) _ _ _ hr with ⟨hle, hfed⟩
            rw [oddEnds_cons_of_not_odd hc, hfed]
            exact ⟨hle, (fedResult_map Val.list).trans
              (fedResult_congr (oddEnds_cons_of_not_odd hc cs).symm)⟩
          · exact feeds_scanScalar readFloat (c :: cs) x rest h

/-- Where a text that is read has other line ends, it is refused with line feeds
    in their place. -/
theorem loads_map_feed {depth : Nat} {s : String} {v : Val} (h : loads readFloat depth s = .ok v)
    (hodd : ∃ c ∈ s.toList, isOddEnd c = true) :
    loads readFloat depth (String.ofList (s.toList.map feed)) = .error .decode := by
  have hpos : oddEnds s.toList ≠ 0 := by
    rcases hodd with ⟨c, hc, hend⟩
    exact Nat.pos_iff_ne_zero.mp (List.countP_pos_iff.mpr ⟨c, hc, hend⟩)
  rw [loads] at h
  split_ifs at h with hmark
  rcases exists_of_bind_ok h with ⟨⟨v', cs⟩, hscan, h⟩
  dsimp only at h
  split_ifs at h with hend
  -- Nothing but white space is left behind the value.
  have hzero : oddEnds cs = 0 := by
    rw [← oddEnds_skipWs, hend]
    rfl
  have hmark' : ¬ (s.toList.map feed).head? = some '\ufeff' := by
    rw [List.head?_map, Option.map_eq_some_iff]
    rintro ⟨c, hc, heq⟩
    rw [feed_eq_iff (by decide) (by decide)] at heq
    exact hmark (heq ▸ hc)
  rw [loads, String.toList_ofList, if_neg hmark',
    skipWs_map_feed (plainStart_scanOnce readFloat depth _ _ hscan),
    (feeds_scanOnce readFloat depth _ _ _ hscan).2, fedResult,
    if_neg (by rw [oddEnds_skipWs, hzero]; exact Ne.symm hpos)]
  rfl

end Containers

section Returns

/-- A value that is written without a carriage return. -/
def ReturnFree (v : Val) : Prop := '\r' ∉ (Val.dumps v).toList

theorem return_not_mem_jsonChar (c : Char) : '\r' ∉ jsonChar c := by
  have hhex : ∀ n < 0x20, '\r' ∉ ['\\', 'u'] ++ hexPadded 4 n := by decide
  rw [jsonChar]
  split_ifs with h1 h2 h3 h4 h5 h6 h7
  · rcases h1 with rfl | rfl <;> decide
  · decide
  · decide
  · decide
  · decide
  · decide
  · exact hhex _ h7
  · rw [List.mem_singleton]
    exact Ne.symm h3

theorem return_not_mem_jsonStr (s : String) : '\r' ∉ (jsonStr s).toList := by
  rw [jsonStr_eq, List.mem_cons, List.mem_append, List.mem_flatMap, List.mem_singleton]
  rintro (h | ⟨c, -, hc⟩ | h)
  · cases h
  · exact return_not_mem_jsonChar c hc
  · cases h

theorem returnFree_str (s : String) : ReturnFree (.str s) := return_not_mem_jsonStr s

theorem returnFree_bool (b : Bool) : ReturnFree (.bool b) := by cases b with
  | false => exact (by decide : '\r' ∉ "false".toList)
  | true => exact (by decide : '\r' ∉ "true".toList)

theorem returnFree_int (i : Int) : ReturnFree (.int i) := by
  have hdigits : ∀ n : Nat, '\r' ∉ Nat.toDigits 10 n :=
    fun n hmem => absurd (isDigit_of_mem_toDigits hmem) (by decide)
  rw [ReturnFree, Val.dumps, toList_toString_int]
  split_ifs
  · rw [List.mem_cons, not_or]
    exact ⟨by decide, hdigits _⟩
  · exact hdigits _

theorem return_not_mem_append {a b c : String} (ha : '\r' ∉ a.toList) (hb : '\r' ∉ b.toList)
    (hc : '\r' ∉ c.toList) : '\r' ∉ (a ++ b ++ c).toList := by
  rw [String.toList_append, String.toList_append, List.mem_append, List.mem_append, not_or, not_or]
  exact ⟨⟨ha, hb⟩, hc⟩

theorem return_not_mem_join {sep : String} (hsep : '\r' ∉ sep.toList) {parts : List String}
    (h : ∀ part ∈ parts, '\r' ∉ part.toList) : '\r' ∉ (join sep parts).toList := by
  induction parts with
  | nil => exact List.not_mem_nil
  | cons part rest ih =>
      have hpart := h part List.mem_cons_self
      have hrest := ih (fun p hp => h p (List.mem_cons_of_mem _ hp))
      by_cases hne : rest = []
      · rw [hne]
        exact hpart
      · rw [join_cons _ _ hne]
        exact return_not_mem_append hpart hsep hrest

theorem returnFree_list {vs : List Val} (h : ∀ v ∈ vs, ReturnFree v) : ReturnFree (.list vs) := by
  have hjoin : '\r' ∉ (join ", " (vs.map Val.dumps)).toList := by
    refine return_not_mem_join (by decide) (fun part hpart => ?_)
    rcases List.mem_map.mp hpart with ⟨v, hv, rfl⟩
    exact h v hv
  rw [ReturnFree, Val.dumps, dumpsList_eq]
  exact return_not_mem_append (by decide) hjoin (by decide)

theorem returnFree_dict {kvs : Dict} (h : ∀ kv ∈ kvs, ReturnFree kv.2) :
    ReturnFree (.dict kvs) := by
  have hjoin : '\r' ∉ (join ", " (kvs.map memberText)).toList := by
    refine return_not_mem_join (by decide) (fun part hpart => ?_)
    rcases List.mem_map.mp hpart with ⟨kv, hkv, rfl⟩
    rw [memberText]
    exact return_not_mem_append (return_not_mem_jsonStr kv.1) (by decide) (h kv hkv)
  rw [ReturnFree, Val.dumps, dumpsDict_eq]
  exact return_not_mem_append (by decide) hjoin (by decide)

theorem returnFree_map {α : Type} {f : α → Val} (h : ∀ x, ReturnFree (f x)) (xs : List α) :
    ReturnFree (.list (xs.map f)) := by
  refine returnFree_list (fun v hv => ?_)
  rcases List.mem_map.mp hv with ⟨x, -, rfl⟩
  exact h x

end Returns

section Lines

theorem linesFrom_cons {c : Char} (hc : c ≠ '\r') (line cs : List Char) :
    linesFrom line (c :: cs) =
      if isLineEnd c then line.reverse :: linesFrom [] cs else linesFrom (c :: line) cs := by
  rw [linesFrom]
  exact fun _ h => absurd h hc

/-- Cut at its line ends and put together with line feeds, a text without
    carriage returns has line feeds for the other line ends. -/
theorem linesFrom_append_line {cs : List Char} (hreturn : '\r' ∉ cs) (line rest : List Char) :
    ∃ ls, linesFrom line (cs ++ '\n' :: rest) = ls ++ linesFrom [] rest ∧ ls ≠ [] ∧
      (join "\n" (ls.map String.ofList)).toList = line.reverse ++ cs.map feed := by
  induction cs generalizing line with
  | nil =>
      refine ⟨[line.reverse], ?_, List.cons_ne_nil _ _, ?_⟩
      · rw [List.nil_append, linesFrom_cons (by decide), if_pos (by decide)]
        rfl
      · rw [List.map_singleton, join, String.toList_ofList, List.map_nil, List.append_nil]
  | cons c cs ih =>
      rw [List.mem_cons, not_or] at hreturn
      rw [List.cons_append, linesFrom_cons (Ne.symm hreturn.1), List.map_cons]
      -- The line ends here, or the character goes into it.
      by_cases hend : isLineEnd c = true
      · rcases ih hreturn.2 [] with ⟨ls, hls, hne, hjoin⟩
        have hfeed : feed c = '\n' := by
          by_cases hline : c = '\n'
          · rw [hline]
            decide
          · refine feed_of_odd ?_
            rw [isOddEnd, hend, bne_iff_ne.mpr hline, bne_iff_ne.mpr (Ne.symm hreturn.1)]
            rfl
        refine ⟨line.reverse :: ls, ?_, List.cons_ne_nil _ _, ?_⟩
        · rw [if_pos hend, hls, List.cons_append]
        -- The line feed between two lines stands for the line end.
        · cases ls with
          | nil => exact absurd rfl hne
          | cons l ls =>
              rw [List.map_cons, List.map_cons, join, ← List.map_cons, String.toList_append,
                String.toList_append, hjoin, String.toList_ofList, hfeed, List.append_assoc]
              rfl
      · rcases ih hreturn.2 (c :: line) with ⟨ls, hls, hne, hjoin⟩
        have hfeed : feed c = c := by
          refine feed_of_not_odd ?_
          rw [isOddEnd, Bool.eq_false_iff.mpr hend]
          rfl
        refine ⟨ls, ?_, hne, ?_⟩
        · rw [if_neg hend, hls]
        · rw [hjoin, List.reverse_cons, List.append_assoc, hfeed]
          rfl

end Lines

end Json

end Py

end AgenticRag

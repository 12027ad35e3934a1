import AgenticRag.Theory.Truncation

/-!
# The Bytes of a Cut Text

What is left of a text that is cut to a number of bytes. The bisection finds the
longest part that fits, whatever the widths of the characters, since a longer
part takes no fewer bytes (`fittingLength_greatest`). The mark goes behind it,
cut to the bytes that are left over.

Where no bytes are left over the mark is not cut at all. It then goes behind
as a whole, and the text is too long by its fourteen bytes. That happens exactly
if some part of the text takes all the bytes there are (`truncateText_fits_iff`),
as in any text of one-byte characters. Where the widest characters leave a gap,
the mark is cut to the gap.

## Main definitions

* `Longest`: The longest part of a text that fits.
* `CutAsSaid`: What should be left of a text.

## Theorems

* `fittingLength_greatest`: What the bisection finds.
* `truncateText_parts`: What is left in any case.
* `truncateText_fits_iff`: When it is as it should be.
-/

namespace AgenticRag

namespace StateCrypto

open Py

section Bisection

/-- A longer part takes no fewer bytes. -/
theorem utf8ByteSize_take_le (cs : List Char) {i j : Nat} (h : i ≤ j) :
    (String.ofList (cs.take i)).utf8ByteSize ≤ (String.ofList (cs.take j)).utf8ByteSize := by
  have hsplit : cs.take j = cs.take i ++ (cs.drop i).take (j - i) := by
    rw [← List.take_add, Nat.add_sub_cancel' h]
  rw [hsplit, String.ofList_append, String.utf8ByteSize_append]
  exact Nat.le_add_right _ _

/-- The part of this length fits, and no longer one does. -/
structure Longest (text : String) (maxBytes n : Nat) : Prop where
  fits : (take text n).utf8ByteSize ≤ maxBytes
  longest : ∀ k ≤ text.length, (take text k).utf8ByteSize ≤ maxBytes → k ≤ n

/-- The bisection keeps a part that fits below it, and none above it does. -/
theorem fittingLength_greatest {cs : List Char} {maxBytes lo hi : Nat}
    (hlo : (String.ofList (cs.take lo)).utf8ByteSize ≤ maxBytes) (hle : lo ≤ hi)
    (hhi : ∀ k ≤ cs.length, (String.ofList (cs.take k)).utf8ByteSize ≤ maxBytes → k ≤ hi) :
    (String.ofList (cs.take (fittingLength cs maxBytes lo hi))).utf8ByteSize ≤ maxBytes ∧
    ∀ k ≤ cs.length, (String.ofList (cs.take k)).utf8ByteSize ≤ maxBytes →
      k ≤ fittingLength cs maxBytes lo hi := by
  fun_induction fittingLength cs maxBytes lo hi with
  | case1 lo hi hlt mid hfits ih => exact ih hfits (by omega) hhi
  | case2 lo hi hlt mid hlarge ih =>
      refine ih hlo (by omega) (fun k hk hfits => ?_)
      by_contra hnot
      -- Whatever is longer than the middle is too large as well.
      have hmid : mid ≤ k := by omega
      exact hlarge (Nat.le_trans (utf8ByteSize_take_le cs hmid) hfits)
  | case3 lo hi hend =>
      have heq : lo = hi := by omega
      subst heq
      exact ⟨hlo, hhi⟩

theorem longest_fittingLength (text : String) (maxBytes : Nat) :
    Longest text maxBytes (fittingLength text.toList maxBytes 0 text.length) := by
  have hempty : (String.ofList (text.toList.take 0)).utf8ByteSize ≤ maxBytes := Nat.zero_le _
  have hall : ∀ k ≤ text.toList.length,
      (String.ofList (text.toList.take k)).utf8ByteSize ≤ maxBytes → k ≤ text.length := by
    intro k hk _
    rwa [String.length_toList] at hk
  have hgreatest := fittingLength_greatest hempty (Nat.zero_le _) hall
  refine ⟨hgreatest.1, fun k hk => hgreatest.2 k ?_⟩
  rwa [String.length_toList]

end Bisection

section Cut

/-- What should be left of a text: no more bytes than there are, the text itself
    if it fits, and else the longest part of it that does, with a part of the
    mark. -/
structure CutAsSaid (text : String) (maxBytes : Nat) (result : String) : Prop where
  fits : result.utf8ByteSize ≤ maxBytes
  same : text.utf8ByteSize ≤ maxBytes → result = text
  cut : maxBytes < text.utf8ByteSize → ∃ n m, Longest text maxBytes n ∧
    result = take text n ++ take truncationMark m

/-- The longest part of a text that is too large, and the mark behind it: as
    much as there is room for, or all of it if there is none. -/
theorem truncateText_parts {text : String} {maxBytes : Nat}
    (h : maxBytes < text.utf8ByteSize) :
    ∃ n, Longest text maxBytes n ∧ truncateText text maxBytes = take text n ++
      (if 0 < maxBytes - (take text n).utf8ByteSize then
        take truncationMark (maxBytes - (take text n).utf8ByteSize) else truncationMark) := by
  refine ⟨_, longest_fittingLength text maxBytes, ?_⟩
  rw [truncateText, if_neg (Nat.not_le.mpr h)]
  rfl

theorem utf8ByteSize_take_mark (m : Nat) :
    (take truncationMark m).utf8ByteSize = min m 14 := by
  have hascii : ∀ c ∈ truncationMark.toList, c.utf8Size = 1 := by decide
  have hlength : truncationMark.toList.length = 14 := by decide
  rw [take, utf8ByteSize_ascii (fun c hc => hascii c (List.mem_of_mem_take hc)), List.length_take,
    hlength]

/-- A part that takes all the bytes is the longest that fits. -/
theorem eq_of_full {text : String} {maxBytes n k : Nat} (h : Longest text maxBytes n)
    (hk : (take text k).utf8ByteSize = maxBytes) :
    (take text n).utf8ByteSize = maxBytes := by
  have hcut : take text (min k text.length) = take text k := by
    rcases Nat.le_total k text.length with hle | hle
    · rw [Nat.min_eq_left hle]
    · rw [Nat.min_eq_right hle, take_of_length_le hle, take_of_length_le (Nat.le_refl _)]
  have hle : min k text.length ≤ n := by
    refine h.longest _ (Nat.min_le_right _ _) ?_
    rw [hcut, hk]
  have hmono : (take text (min k text.length)).utf8ByteSize ≤ (take text n).utf8ByteSize :=
    utf8ByteSize_take_le text.toList hle
  rw [hcut, hk] at hmono
  exact Nat.le_antisymm h.fits hmono

/-- A text is cut as it should be exactly if it fits, or no part of it takes all
    the bytes. -/
theorem truncateText_fits_iff (text : String) (maxBytes : Nat) :
    CutAsSaid text maxBytes (truncateText text maxBytes) ↔
      text.utf8ByteSize ≤ maxBytes ∨ ∀ n, (take text n).utf8ByteSize ≠ maxBytes := by
  rcases Nat.lt_or_ge maxBytes text.utf8ByteSize with hlarge | hsmall
  · rcases truncateText_parts hlarge with ⟨n, hlongest, heq⟩
    constructor
    · intro hcut
      refine .inr (fun k hk => ?_)
      -- The whole mark is behind a part that fills the bytes.
      have hfull := eq_of_full hlongest hk
      have hfits := hcut.fits
      rw [heq, hfull, Nat.sub_self, if_neg (Nat.lt_irrefl 0), String.utf8ByteSize_append, hfull]
        at hfits
      have hmark : truncationMark.utf8ByteSize = 14 := by decide
      omega
    · rintro (hfits | hgap)
      · omega
      · have hfits := hlongest.fits
        have hroom : 0 < maxBytes - (take text n).utf8ByteSize := by
          have hne := hgap n
          omega
        rw [if_pos hroom] at heq
        refine ⟨?_, fun hfits => absurd hlarge (Nat.not_lt.mpr hfits), fun _ => ?_⟩
        · rw [heq, String.utf8ByteSize_append, utf8ByteSize_take_mark]
          omega
        · exact ⟨n, _, hlongest, heq⟩
  · have heq := truncateText_of_le hsmall
    refine ⟨fun _ => .inl hsmall, fun _ => ⟨by rwa [heq], fun _ => heq, fun hlarge => ?_⟩⟩
    omega

/-- Two letters cut to one byte are followed by the whole mark. -/
theorem truncateText_over :
    truncateText "ab" 1 = "a...[truncated]" ∧ ¬ CutAsSaid "ab" 1 (truncateText "ab" 1) := by
  have hcut : truncateText "ab" 1 = "a...[truncated]" := by
    rw [truncateText_ascii (by decide) (by decide)]
    decide
  refine ⟨hcut, fun h => ?_⟩
  have hfits := h.fits
  rw [hcut] at hfits
  exact absurd hfits (by decide)

end Cut

end StateCrypto

end AgenticRag

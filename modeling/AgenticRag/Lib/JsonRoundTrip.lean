import AgenticRag.Lib.Json
import Mathlib.Data.List.TakeWhile
import Mathlib.Tactic.IntervalCases

/-!
# Writing and Reading JSON

What `json.dumps` writes, `json.loads` reads back.

The reader takes one value off the front of a text, so the statement is about
a text with something behind it. A number has no closing mark, and what stands
behind it must not continue it: it ends there (`Ends`). A value is read back
if it is plain: its dictionaries have each key once, its floats are written as
float literals that read as the same float, its integers are not too long, and
it is not nested too deeply. Strings are read back whatever is in them.

The lists and the objects are written and read by the same loop, so there is
one lemma for both, given that their items are read back.

The other way round a bound is enough: whatever text a value was read from is
longer than the value has parts. So a text and what it reads as never have the
same parts.

## Main definitions

* `Ends`: A text that does not continue a number.
* `parts`: How many parts a value has.

## Theorems

* `scanOnce_dumps`: A plain value is read back.
* `parts_lt_of_loads`: A text is longer than what it reads as has parts.
-/

namespace AgenticRag

namespace Py

namespace Json

open Ordered

section Strings

/-- How a character comes back: written as an escape of its number, or as
    itself. -/
def pieceOf (c : Char) : Piece :=
  if c.toNat < 0x20 ∧ c ≠ '\n' ∧ c ≠ '\r' ∧ c ≠ '\t' ∧ c.toNat ≠ 0xC ∧ c.toNat ≠ 0x8 then
    .unit c.toNat
  else .char c

theorem hex4_hexPadded {n : Nat} (h : n < 0x20) :
    ∃ a b c d, hexPadded 4 n = [a, b, c, d] ∧ hex4 a b c d = some n := by
  interval_cases n <;> exact ⟨_, _, _, _, rfl, rfl⟩

theorem char_eq_of_toNat {c d : Char} (h : c.toNat = d.toNat) : c = d := by
  rw [← Char.ofNat_toNat c, h, Char.ofNat_toNat]

/-- A character that was written is read as one piece. -/
theorem scanPieces_jsonChar (c : Char) (rest : List Char) :
    scanPieces (jsonChar c ++ rest) =
      (scanPieces rest).map (fun r => (pieceOf c :: r.1, r.2)) := by
  unfold jsonChar pieceOf
  -- The cases of the writer, each with what the reader makes of it.
  by_cases hquote : c = '"' ∨ c = '\\'
  · rw [if_pos hquote]
    rcases hquote with rfl | rfl <;> rfl
  rw [if_neg hquote]
  by_cases hn : c = '\n'
  · subst hn
    rfl
  by_cases hr : c = '\r'
  · subst hr
    rfl
  by_cases ht : c = '\t'
  · subst ht
    rfl
  by_cases hf : c.toNat = 0xC
  · cases char_eq_of_toNat (c := c) (d := '\x0c') hf
    rfl
  by_cases hb : c.toNat = 0x8
  · cases char_eq_of_toNat (c := c) (d := '\x08') hb
    rfl
  rw [if_neg hn, if_neg hr, if_neg ht, if_neg hf, if_neg hb]
  by_cases hcontrol : c.toNat < 0x20
  · rw [if_pos hcontrol, if_pos ⟨hcontrol, hn, hr, ht, hf, hb⟩]
    rcases hex4_hexPadded hcontrol with ⟨a, b, d, e, hpadded, hhex⟩
    rw [hpadded]
    simp only [List.cons_append, List.nil_append, scanPieces, hhex]
  · rw [if_neg hcontrol, if_neg (fun h => hcontrol h.1), List.singleton_append]
    rw [not_or] at hquote
    rw [scanPieces]
    · rw [if_neg (not_or.mpr ⟨hcontrol, hquote.2⟩)]
    · exact hquote.1
    · intro a b d e cs hc
      exact absurd hc hquote.2
    · intro e cs hc
      exact absurd hc hquote.2

theorem scanPieces_flatMap (cs rest : List Char) :
    scanPieces (cs.flatMap jsonChar ++ '"' :: rest) = .ok (cs.map pieceOf, rest) := by
  induction cs with
  | nil => rfl
  | cons c cs ih =>
      rw [List.flatMap_cons, List.append_assoc, scanPieces_jsonChar, ih]
      rfl

/-- A code unit that is no half of a pair stands for itself, whatever
    follows. -/
theorem joinPieces_unit {n : Nat} (h : isHigh n = false) (ps : List Piece) :
    joinPieces (.unit n :: ps) = unitChar n :: joinPieces ps := by
  cases ps with
  | nil => rfl
  | cons p ps =>
      cases p with
      | char c => rfl
      | unit m => rw [joinPieces, h, Bool.false_and, if_neg (by simp)]

theorem joinPieces_pieceOf (c : Char) (ps : List Piece) :
    joinPieces (pieceOf c :: ps) = c :: joinPieces ps := by
  unfold pieceOf
  split
  next hcontrol =>
    -- A control character is no half of a pair.
    have hhigh : isHigh c.toNat = false := by
      simp only [isHigh, Bool.and_eq_false_iff, decide_eq_false_iff_not]
      omega
    have hlow : isLow c.toNat = false := by
      simp only [isLow, Bool.and_eq_false_iff, decide_eq_false_iff_not]
      omega
    rw [joinPieces_unit hhigh, unitChar, hhigh, hlow, if_neg (by simp), Char.ofNat_toNat]
  · rfl

theorem joinPieces_map (cs : List Char) : joinPieces (cs.map pieceOf) = cs := by
  induction cs with
  | nil => rfl
  | cons c cs ih => rw [List.map_cons, joinPieces_pieceOf, ih]

/-- A string is read back. -/
theorem scanString_jsonStr (s : String) (rest : List Char) :
    scanString (((jsonStr s).toList ++ rest).drop 1) = .ok (s, rest) := by
  have htext : ((jsonStr s).toList ++ rest).drop 1 = s.toList.flatMap jsonChar ++ '"' :: rest := by
    simp [jsonStr]
  rw [htext, scanString, scanPieces_flatMap]
  simp [Except.map, joinPieces_map]

end Strings

section Numbers

/-- The characters that can continue a number. -/
def continuesNumber (c : Char) : Bool :=
  c.isDigit || c = '.' || c = 'e' || c = 'E' || c = '+' || c = '-'

/-- A text that does not continue a number. -/
def Ends (cs : List Char) : Prop :=
  ∀ c, cs.head? = some c → continuesNumber c = false

theorem ends_nil : Ends [] := nofun

theorem ends_cons {c : Char} (h : continuesNumber c = false) (cs : List Char) : Ends (c :: cs) := by
  intro d hd
  cases hd
  exact h

theorem takeWhile_append_of_stop {α : Type} {p : α → Bool} {xs ys : List α}
    (h : ∀ c, ys.head? = some c → p c = false) : (xs ++ ys).takeWhile p = xs.takeWhile p := by
  induction xs with
  | nil =>
      cases ys with
      | nil => rfl
      | cons c ys =>
          rw [List.nil_append, List.takeWhile_cons_of_neg (by simp [h c rfl]), List.takeWhile_nil]
  | cons x xs ih => rw [List.cons_append, List.takeWhile_cons, List.takeWhile_cons, ih]

theorem dropWhile_append_of_stop {α : Type} {p : α → Bool} {xs ys : List α}
    (h : ∀ c, ys.head? = some c → p c = false) :
    (xs ++ ys).dropWhile p = xs.dropWhile p ++ ys := by
  induction xs with
  | nil =>
      cases ys with
      | nil => rfl
      | cons c ys => rw [List.nil_append, List.dropWhile_cons_of_neg (by simp [h c rfl])]; rfl
  | cons x xs ih =>
      rw [List.cons_append, List.dropWhile_cons, List.dropWhile_cons, ih]
      split <;> rfl

variable {rest : List Char} (hends : Ends rest)

include hends

theorem isDigit_of_ends : ∀ c, rest.head? = some c → Char.isDigit c = false := by
  intro c h
  have hc := hends c h
  simp only [continuesNumber, Bool.or_eq_false_iff] at hc
  exact hc.1.1.1.1.1

theorem scanNatural_append (cs : List Char) :
    scanNatural (cs ++ rest) = (scanNatural cs).map (fun r => (r.1, r.2 ++ rest)) := by
  have hstop := isDigit_of_ends hends
  cases cs with
  | nil =>
      cases rest with
      | nil => rfl
      | cons c rest =>
          have hdigit := hstop c rfl
          have hzero : c ≠ '0' := by
            rintro rfl
            cases hdigit
          simp [scanNatural, hzero, hdigit]
  | cons c cs =>
      rw [List.cons_append, scanNatural, scanNatural]
      split
      · rfl
      · split
        · rw [takeWhile_append_of_stop hstop, dropWhile_append_of_stop hstop]
          rfl
        · rfl

theorem scanInteger_append (cs : List Char) :
    scanInteger (cs ++ rest) = (scanInteger cs).map (fun r => (r.1, r.2 ++ rest)) := by
  cases cs with
  | nil =>
      cases rest with
      | nil => rfl
      | cons c rest =>
          have hminus : c ≠ '-' := by
            rintro rfl
            cases hends '-' rfl
          simp only [List.nil_append, scanInteger, if_neg hminus]
          exact scanNatural_append hends []
  | cons c cs =>
      rw [List.cons_append, scanInteger, scanInteger]
      split
      · rw [scanNatural_append hends, Option.map_map, Option.map_map]
        rfl
      · exact scanNatural_append hends (c :: cs)

theorem scanFraction_append (cs : List Char) :
    scanFraction (cs ++ rest) = ((scanFraction cs).1, (scanFraction cs).2 ++ rest) := by
  have hstop := isDigit_of_ends hends
  cases cs with
  | nil =>
      cases rest with
      | nil => rfl
      | cons c rest =>
          have hpoint : c ≠ '.' := by
            rintro rfl
            cases hends '.' rfl
          simp [scanFraction, hpoint]
  | cons c cs =>
      simp only [List.cons_append, scanFraction]
      -- No digit comes from behind.
      rw [takeWhile_append_of_stop hstop, dropWhile_append_of_stop hstop]
      split <;> rfl

theorem scanExponent_append (cs : List Char) :
    scanExponent (cs ++ rest) = ((scanExponent cs).1, (scanExponent cs).2 ++ rest) := by
  have hstop := isDigit_of_ends hends
  cases cs with
  | nil =>
      cases rest with
      | nil => rfl
      | cons c rest =>
          have he : ¬ (c = 'e' ∨ c = 'E') := by
            rintro (rfl | rfl)
            · cases hends 'e' rfl
            · cases hends 'E' rfl
          simp [scanExponent, he]
  | cons c cs =>
      -- A sign is not taken from what follows.
      have hsign : ((cs ++ rest).take 1).filter (fun s => s = '+' || s = '-') =
          (cs.take 1).filter (fun s => s = '+' || s = '-') := by
        cases cs with
        | cons d cs => rfl
        | nil =>
            cases rest with
            | nil => rfl
            | cons d rest =>
                have hd := hends d rfl
                simp only [continuesNumber, Bool.or_eq_false_iff] at hd
                simp [hd.1.2, hd.2]
      have hdrop : (cs ++ rest).drop ((cs.take 1).filter (fun s => s = '+' || s = '-')).length =
          cs.drop ((cs.take 1).filter (fun s => s = '+' || s = '-')).length ++ rest := by
        refine List.drop_append_of_le_length ?_
        exact (List.length_filter_le _ _).trans (List.take_sublist 1 cs).length_le
      simp only [List.cons_append, scanExponent]
      rw [hsign, hdrop, takeWhile_append_of_stop hstop, dropWhile_append_of_stop hstop]
      split <;> rfl

/-- A number is read in front of any text that ends it. -/
theorem scanNumber_append (readFloat : String → Option (ℚ × String)) (cs : List Char) :
    scanNumber readFloat (cs ++ rest) =
      (scanNumber readFloat cs).map (fun r => (r.1, r.2 ++ rest)) := by
  unfold scanNumber
  rw [scanInteger_append hends]
  cases scanInteger cs with
  | none => rfl
  | some r =>
      rcases r with ⟨integer, cs⟩
      dsimp only [Option.map_some]
      rw [scanFraction_append hends, scanExponent_append hends]
      dsimp only
      split
      · rfl
      · split <;> rfl

omit hends

theorem decimalValue_of_isDigit {c : Char} (h : c.isDigit = true) :
    decimalValue c = some (c.toNat - '0'.toNat) := by
  have hbounds : 0x30 ≤ c.toNat ∧ c.toNat < 0x30 + 10 := by
    simp only [Char.isDigit, Bool.and_eq_true, decide_eq_true_eq, UInt32.le_iff_toNat_le] at h
    exact ⟨h.1, Nat.lt_succ_of_le h.2⟩
  simp [decimalValue, decimalZeros, hbounds.1, hbounds.2]

theorem intOfDigits_eq_ofDigitChars {ds : List Char} (h : ∀ c ∈ ds, c.isDigit = true) :
    intOfDigits ds = Nat.ofDigitChars 10 ds 0 := by
  unfold intOfDigits
  rw [Nat.ofDigitChars_eq_foldl]
  refine List.foldl_ext _ _ 0 ?_
  intro n c hc
  rw [decimalValue_of_isDigit (h c hc), Option.getD_some]

theorem isDigit_of_mem_toDigits {n : Nat} {c : Char} (h : c ∈ Nat.toDigits 10 n) :
    c.isDigit = true :=
  Nat.isDigit_of_mem_toDigits (by decide) (by decide) h

theorem intOfDigits_toDigits (n : Nat) : intOfDigits (Nat.toDigits 10 n) = n := by
  rw [intOfDigits_eq_ofDigitChars (fun c => isDigit_of_mem_toDigits), Nat.ofDigitChars_ten_toDigits]

/-- The digits of a number other than zero start with another digit than
    zero. -/
theorem toDigits_eq_cons {n : Nat} (hn : 0 < n) :
    ∃ c cs, Nat.toDigits 10 n = c :: cs ∧ c ≠ '0' := by
  induction n using Nat.strong_induction_on with
  | _ n ih =>
      by_cases hlt : n < 10
      · rw [Nat.toDigits_of_lt_base hlt]
        refine ⟨_, _, rfl, ?_⟩
        interval_cases n <;> decide
      -- The first digit is that of the number without its last.
      · rw [Nat.toDigits_of_base_le (by decide) (by omega)]
        rcases ih (n / 10) (by omega) (by omega) with ⟨c, cs, heq, hc⟩
        exact ⟨c, _, by rw [heq, List.cons_append], hc⟩

theorem scanNatural_toDigits (n : Nat) :
    scanNatural (Nat.toDigits 10 n) = some (Nat.toDigits 10 n, []) := by
  by_cases hn : n = 0
  · rw [hn]
    rfl
  · rcases toDigits_eq_cons (Nat.pos_of_ne_zero hn) with ⟨c, cs, heq, hc⟩
    have hdigits : ∀ d ∈ c :: cs, d.isDigit = true := by
      rw [← heq]
      exact fun d => isDigit_of_mem_toDigits
    have hcs : ∀ d ∈ cs, d.isDigit = true := fun d hd => hdigits d (List.mem_cons_of_mem c hd)
    rw [heq, scanNatural, if_neg hc, if_pos (hdigits c List.mem_cons_self),
      List.takeWhile_eq_self_iff.mpr hcs, List.dropWhile_eq_nil_iff.mpr hcs]

theorem toList_toString_int (i : Int) :
    (toString i).toList = if i < 0 then '-' :: Nat.toDigits 10 i.natAbs
      else Nat.toDigits 10 i.natAbs := by
  cases i with
  | ofNat n => simp [toString, Int.repr]
  | negSucc n => simp [toString, Int.repr]

theorem integerOf_digits {ds : List Char} (h : ∀ c ∈ ds, c.isDigit = true) :
    integerOf ds = intOfDigits ds := by
  unfold integerOf
  split
  next ds' =>
    have hminus := h '-' List.mem_cons_self
    cases hminus
  · rfl

/-- What an integer without fraction and exponent reads as. -/
theorem scanNumber_of_scanInteger (readFloat : String → Option (ℚ × String))
    {cs integer : List Char} (h : scanInteger cs = some (integer, []))
    (hlen : (integer.filter Char.isDigit).length ≤ maxStrDigits) :
    scanNumber readFloat cs = .ok (.int (integerOf integer), []) := by
  unfold scanNumber
  rw [h]
  simp only [scanFraction, scanExponent, ne_eq, not_true_eq_false, or_self, if_false,
    if_neg (Nat.not_lt.mpr hlen)]

/-- An integer that is not too long is read back. -/
theorem scanNumber_toString (readFloat : String → Option (ℚ × String)) {i : Int}
    (h : (Nat.toDigits 10 i.natAbs).length ≤ maxStrDigits) :
    scanNumber readFloat (toString i).toList = .ok (.int i, []) := by
  have hdigits : ∀ c ∈ Nat.toDigits 10 i.natAbs, c.isDigit = true :=
    fun c => isDigit_of_mem_toDigits
  have hfilter := List.filter_eq_self.mpr hdigits
  rw [toList_toString_int]
  by_cases hneg : i < 0
  · rw [if_pos hneg]
    have hscan : scanInteger ('-' :: Nat.toDigits 10 i.natAbs) =
        some ('-' :: Nat.toDigits 10 i.natAbs, []) := by
      rw [scanInteger, if_pos rfl, scanNatural_toDigits, Option.map_some]
    rw [scanNumber_of_scanInteger readFloat hscan]
    · have hvalue : integerOf ('-' :: Nat.toDigits 10 i.natAbs) = i := by
        rw [integerOf, intOfDigits_toDigits]
        omega
      rw [hvalue]
    · rw [List.filter_cons_of_neg (by decide), hfilter]
      exact h
  · rw [if_neg hneg]
    have hscan : scanInteger (Nat.toDigits 10 i.natAbs) =
        some (Nat.toDigits 10 i.natAbs, []) := by
      -- A minus is no digit, so the sign is not taken for there.
      rcases List.exists_cons_of_ne_nil (Nat.toDigits_ne_nil (n := i.natAbs) (b := 10)) with
        ⟨c, cs, heq⟩
      have hminus : c ≠ '-' := by
        rintro rfl
        have hdigit := hdigits '-' (by rw [heq]; exact List.mem_cons_self)
        cases hdigit
      rw [heq, scanInteger, if_neg hminus, ← heq, scanNatural_toDigits]
    rw [scanNumber_of_scanInteger readFloat hscan]
    · have hvalue : integerOf (Nat.toDigits 10 i.natAbs) = i := by
        rw [integerOf_digits hdigits, intOfDigits_toDigits]
        omega
      rw [hvalue]
    · rw [hfilter]
      exact h

/-- A number starts with a digit, or with a minus and a digit. -/
theorem exists_digit_of_scanNumber {readFloat : String → Option (ℚ × String)} {cs : List Char}
    {r : Val × List Char} (h : scanNumber readFloat cs = .ok r) :
    ∃ c cs', c.isDigit = true ∧ (cs = c :: cs' ∨ cs = '-' :: c :: cs') := by
  -- An integer without its sign starts with a digit.
  have hnatural : ∀ ds r, scanNatural ds = some r → ∃ c cs', c.isDigit = true ∧ ds = c :: cs' := by
    intro ds r hr
    cases ds with
    | nil => cases hr
    | cons c ds =>
        rw [scanNatural] at hr
        split at hr
        next hzero => exact ⟨c, ds, by rw [hzero]; rfl, rfl⟩
        · split at hr
          next hdigit => exact ⟨c, ds, hdigit, rfl⟩
          · cases hr
  cases hint : scanInteger cs with
  | none =>
      rw [scanNumber, hint] at h
      cases h
  | some integer =>
      cases cs with
      | nil => cases hint
      | cons c cs =>
          rw [scanInteger] at hint
          split at hint
          next hminus =>
            rcases Option.map_eq_some_iff.mp hint with ⟨r', hr', -⟩
            rcases hnatural cs r' hr' with ⟨d, cs', hd, rfl⟩
            exact ⟨d, cs', hd, Or.inr (by rw [hminus])⟩
          · rcases hnatural (c :: cs) integer hint with ⟨d, cs', hd, heq⟩
            exact ⟨d, cs', hd, Or.inl heq⟩

theorem ne_of_isDigit {c d : Char} (hc : c.isDigit = true) (hd : d.isDigit = false) : d ≠ c := by
  rintro rfl
  rw [hc] at hd
  cases hd

/-- What starts like a number is no word and no string. -/
theorem scanScalar_of_scanNumber {readFloat : String → Option (ℚ × String)} {cs : List Char}
    {r : Val × List Char} (h : scanNumber readFloat cs = .ok r) :
    scanScalar readFloat cs = .ok r := by
  rcases exists_digit_of_scanNumber h with ⟨c, cs', hc, heq⟩
  have hne : ∀ d : Char, d.isDigit = false → d ≠ c := fun d hd => ne_of_isDigit hc hd
  have hhead : cs.head? ≠ some '"' := by
    rcases heq with rfl | rfl
    · intro hquote
      cases hquote
      cases hc
    · exact nofun
  have hconstant : scanConstant cs = none := by
    unfold scanConstant
    rw [Option.map_eq_none_iff, List.find?_eq_none]
    rcases heq with rfl | rfl <;>
      simp [constants, hne 'n' rfl, hne 't' rfl, hne 'f' rfl, hne 'N' rfl, hne 'I' rfl, hne '-' rfl]
  rw [scanScalar, if_neg hhead, hconstant]
  exact h

end Numbers

section Values

variable (readFloat : String → Option (ℚ × String))

/-- A value that is read back, with containers nested as deep as is given. -/
def Plain : Nat → Val → Prop
  | _, .none => True
  | _, .bool _ => True
  | _, .int i => (Nat.toDigits 10 i.natAbs).length ≤ maxStrDigits
  | _, .float q text => scanNumber readFloat text.toList = .ok (.float q text, [])
  | _, .str _ => True
  | 0, .list _ => False
  | depth + 1, .list xs => ∀ x ∈ xs, Plain depth x
  | 0, .dict _ => False
  | depth + 1, .dict kvs => (kvs.map Prod.fst).Nodup ∧ ∀ p ∈ kvs, Plain depth p.2
  | _, .object _ _ => False

theorem plain_list_iff {readFloat : String → Option (ℚ × String)} {depth : Nat} {xs : List Val} :
    Plain readFloat depth (.list xs) ↔
      ∃ d, depth = d + 1 ∧ ∀ x ∈ xs, Plain readFloat d x := by
  cases depth with
  | zero => simp [Plain]
  | succ d => simp [Plain]

theorem plain_dict_iff {readFloat : String → Option (ℚ × String)} {depth : Nat}
    {kvs : List (String × Val)} :
    Plain readFloat depth (.dict kvs) ↔
      ∃ d, depth = d + 1 ∧ (kvs.map Prod.fst).Nodup ∧ ∀ p ∈ kvs, Plain readFloat d p.2 := by
  cases depth with
  | zero => simp [Plain]
  | succ d => simp [Plain]

/-- The start of a written value: no white space, and no closing bracket. -/
def Opens (cs : List Char) : Prop :=
  ∃ c cs', cs = c :: cs' ∧ isWs c = false ∧ c ≠ ']' ∧ c ≠ '\x7d' ∧ c ≠ '\ufeff'

theorem skipWs_cons {c : Char} (h : isWs c = false) (cs : List Char) :
    skipWs (c :: cs) = c :: cs :=
  List.dropWhile_cons_of_neg (by simp [h])

theorem skipWs_of_opens {cs : List Char} (h : Opens cs) (rest : List Char) :
    skipWs (cs ++ rest) = cs ++ rest := by
  rcases h with ⟨c, cs', rfl, hws, -⟩
  exact skipWs_cons hws (cs' ++ rest)

/-- The space behind a comma or a colon is skipped. -/
theorem skipWs_space {cs : List Char} (h : Opens cs) (rest : List Char) :
    skipWs (' ' :: (cs ++ rest)) = cs ++ rest := by
  rw [skipWs, List.dropWhile_cons_of_pos (by decide)]
  exact skipWs_of_opens h rest

/-- A scanner reads back what was written for an item, in front of any text
    that ends it. -/
structure ReadsBack {α : Type} (item : Scanner α) (text : α → String) (x : α) : Prop where
  opens : Opens (text x).toList
  read : ∀ rest, Ends rest → item ((text x).toList ++ rest) = .ok (x, rest)

/-- The brackets that close a container. -/
def IsClose (close : Char) : Prop := close = ']' ∨ close = '\x7d'

theorem isClose_spec {close : Char} (h : IsClose close) :
    isWs close = false ∧ close ≠ ',' ∧ continuesNumber close = false := by
  rcases h with rfl | rfl <;> decide

variable {α : Type} {item : Scanner α} {text : α → String} {close : Char}

theorem opens_join (xs : List α) (hne : xs ≠ []) (h : ∀ x ∈ xs, Opens (text x).toList) :
    Opens (join ", " (xs.map text)).toList := by
  cases xs with
  | nil => exact absurd rfl hne
  | cons x xs =>
      rcases h x List.mem_cons_self with ⟨c, cs', heq, hspec⟩
      cases xs with
      | nil => exact ⟨c, cs', heq, hspec⟩
      | cons y xs =>
          refine ⟨c, cs' ++ ", ".toList ++ (join ", " ((y :: xs).map text)).toList, ?_, hspec⟩
          rw [List.map_cons, List.map_cons, join, String.toList_append, String.toList_append, heq]
          simp

theorem length_le_join {xs : List α} (h : ∀ x ∈ xs, Opens (text x).toList) :
    xs.length ≤ (join ", " (xs.map text)).toList.length := by
  -- Each item takes a character at least, which is what the fuel allows for.
  have hpos : ∀ x ∈ xs, 0 < (text x).toList.length := by
    intro x hx
    rcases h x hx with ⟨c, cs', heq, -⟩
    rw [heq]
    exact Nat.succ_pos _
  clear h
  induction xs with
  | nil => exact Nat.zero_le _
  | cons x xs ih =>
      have hx := hpos x List.mem_cons_self
      have ih := ih (fun y hy => hpos y (List.mem_cons_of_mem x hy))
      cases xs with
      | nil =>
          rw [List.map_singleton, join]
          exact hx
      | cons y xs =>
          rw [List.map_cons, List.map_cons, join, String.toList_append, String.toList_append,
            List.length_append, List.length_append, List.length_cons]
          rw [List.map_cons] at ih
          omega

/-- The items of a container are read back one by one. -/
theorem scanItems_join (hclose : IsClose close) {xs : List α} (hne : xs ≠ [])
    (h : ∀ x ∈ xs, ReadsBack item text x) {fuel : Nat} (hfuel : xs.length ≤ fuel)
    (rest : List Char) :
    scanItems item close fuel ((join ", " (xs.map text)).toList ++ close :: rest) =
      .ok (xs, rest) := by
  rcases isClose_spec hclose with ⟨hws, hcomma, hends⟩
  induction xs generalizing fuel with
  | nil => exact absurd rfl hne
  | cons x xs ih =>
      cases fuel with
      | zero => cases hfuel
      | succ fuel =>
          have hx := h x List.mem_cons_self
          cases xs with
          | nil =>
              rw [List.map_singleton, join, scanItems, hx.read _ (ends_cons hends rest)]
              simp [bind, Except.bind, skipWs_cons hws rest]
          | cons y xs =>
              have hrest : ∀ z ∈ y :: xs, ReadsBack item text z := fun z hz =>
                h z (List.mem_cons_of_mem x hz)
              -- The reader goes on behind the comma and the space.
              have hopens := opens_join (y :: xs) (by simp) (fun z hz => (hrest z hz).opens)
              have htext : (join ", " ((x :: y :: xs).map text)).toList ++ close :: rest =
                  (text x).toList ++ (',' :: ' ' ::
                    ((join ", " ((y :: xs).map text)).toList ++ close :: rest)) := by
                rw [List.map_cons, List.map_cons, join, String.toList_append,
                  String.toList_append, ← List.map_cons]
                simp
              have hcomma' := skipWs_cons (by decide : isWs ',' = false)
                (' ' :: ((join ", " ((y :: xs).map text)).toList ++ close :: rest))
              rw [htext, scanItems, hx.read _ (ends_cons (by decide) _)]
              simp only [bind, Except.bind, hcomma', skipWs_space hopens, if_neg hcomma.symm,
                if_true, ih (by simp) hrest (Nat.le_of_succ_le_succ hfuel)]

/-- A sequence is read back, if its items are. -/
theorem scanSeq_join (hclose : IsClose close) {xs : List α}
    (h : ∀ x ∈ xs, ReadsBack item text x) (rest : List Char) :
    scanSeq item close ((join ", " (xs.map text)).toList ++ close :: rest) = .ok (xs, rest) := by
  by_cases hne : xs = []
  · have hskip := skipWs_cons (isClose_spec hclose).1 rest
    simp [hne, join, scanSeq, hskip]
  · have hopens := opens_join xs hne (fun x hx => (h x hx).opens)
    have hhead : ((join ", " (xs.map text)).toList ++ close :: rest).head? ≠ some close := by
      rcases hopens with ⟨c, cs', heq, -, hlist, hdict, -⟩
      rw [heq]
      intro hc
      cases hc
      rcases hclose with hc | hc
      · exact hlist hc
      · exact hdict hc
    have hfuel := length_le_join (fun x hx => (h x hx).opens)
    rw [scanSeq, skipWs_of_opens hopens, if_neg hhead]
    refine scanItems_join hclose hne h ?_ rest
    rw [List.length_append]
    omega

theorem dumpsList_eq (xs : List Val) : Val.dumpsList xs = xs.map Val.dumps := by
  induction xs with
  | nil => rfl
  | cons v vs ih => rw [Val.dumpsList, ih, List.map_cons]

/-- The text of a member of an object. -/
def memberText (p : String × Val) : String := jsonStr p.1 ++ ": " ++ Val.dumps p.2

theorem dumpsDict_eq (kvs : List (String × Val)) : Val.dumpsDict kvs = kvs.map memberText := by
  induction kvs with
  | nil => rfl
  | cons p rest ih =>
      rcases p with ⟨k, v⟩
      rw [Val.dumpsDict, ih, List.map_cons, memberText]

theorem jsonStr_eq (s : String) :
    (jsonStr s).toList = '"' :: (s.toList.flatMap jsonChar ++ ['"']) := by
  simp [jsonStr]

theorem opens_of_digit {c : Char} (h : c.isDigit = true) (cs : List Char) : Opens (c :: cs) := by
  have hne : ∀ d : Char, d.isDigit = false → c ≠ d := fun d hd => (ne_of_isDigit h hd).symm
  refine ⟨c, cs, rfl, ?_, hne _ (by decide), hne _ (by decide), hne _ (by decide)⟩
  simp [isWs, hne ' ' rfl, hne '\t' rfl, hne '\n' rfl, hne '\r' rfl]

/-- What is no container is read as a scalar. -/
theorem scanOnce_scalar (depth : Nat) {c : Char} (cs : List Char) (hdict : c ≠ '\x7b')
    (hlist : c ≠ '[') :
    scanOnce readFloat depth (c :: cs) = scanScalar readFloat (c :: cs) := by
  rw [scanOnce.eq_def]
  dsimp only
  rw [if_neg hdict, if_neg hlist]

variable {readFloat}

/-- A number that is read alone is read back. -/
theorem readsBack_number {v : Val} (depth : Nat)
    (h : scanNumber readFloat (Val.dumps v).toList = .ok (v, [])) :
    ReadsBack (scanOnce readFloat depth) Val.dumps v := by
  rcases exists_digit_of_scanNumber h with ⟨c, cs', hc, heq⟩
  have hne : ∀ d : Char, d.isDigit = false → c ≠ d := fun d hd => (ne_of_isDigit hc hd).symm
  constructor
  · rcases heq with heq | heq
    · rw [heq]
      exact opens_of_digit hc cs'
    · rw [heq]
      exact ⟨'-', c :: cs', rfl, by decide, by decide, by decide, by decide⟩
  · intro rest hends
    have hscan : scanNumber readFloat ((Val.dumps v).toList ++ rest) = .ok (v, rest) := by
      rw [scanNumber_append hends, h]
      rfl
    rw [← scanScalar_of_scanNumber hscan]
    rcases heq with heq | heq
    · rw [heq]
      exact scanOnce_scalar readFloat depth _ (hne _ (by decide)) (hne _ (by decide))
    · rw [heq]
      exact scanOnce_scalar readFloat depth _ (by decide) (by decide)

theorem readsBack_string (depth : Nat) (s : String) :
    ReadsBack (scanOnce readFloat depth) Val.dumps (.str s) := by
  constructor
  · rw [Val.dumps, jsonStr_eq]
    exact ⟨'"', _, rfl, by decide, by decide, by decide, by decide⟩
  · intro rest _
    have hscan := scanString_jsonStr s rest
    rw [jsonStr_eq, List.cons_append] at hscan
    rw [Val.dumps, jsonStr_eq, List.cons_append,
      scanOnce_scalar readFloat depth _ (by decide) (by decide), scanScalar, List.head?_cons,
      if_pos rfl, hscan]
    rfl

/-- A word is read back. -/
theorem readsBack_constant (depth : Nat) {v : Val}
    (h : v = .none ∨ v = .bool true ∨ v = .bool false) :
    ReadsBack (scanOnce readFloat depth) Val.dumps v := by
  rcases h with rfl | rfl | rfl
  · refine ⟨⟨'n', "ull".toList, rfl, by decide, by decide, by decide, by decide⟩, fun rest _ => ?_⟩
    exact scanOnce_scalar readFloat depth _ (by decide) (by decide)
  · refine ⟨⟨'t', "rue".toList, rfl, by decide, by decide, by decide, by decide⟩, fun rest _ => ?_⟩
    exact scanOnce_scalar readFloat depth _ (by decide) (by decide)
  · refine ⟨⟨'f', "alse".toList, rfl, by decide, by decide, by decide, by decide⟩, fun rest _ => ?_⟩
    exact scanOnce_scalar readFloat depth _ (by decide) (by decide)

theorem readsBack_member {depth : Nat} {p : String × Val}
    (h : ReadsBack (scanOnce readFloat depth) Val.dumps p.2) :
    ReadsBack (scanMember (scanOnce readFloat depth)) memberText p := by
  rcases p with ⟨k, v⟩
  have htext : (memberText (k, v)).toList =
      '"' :: (k.toList.flatMap jsonChar ++ ['"']) ++ (':' :: ' ' :: (Val.dumps v).toList) := by
    rw [memberText, String.toList_append, String.toList_append, jsonStr_eq]
    simp
  constructor
  · rw [htext]
    exact ⟨'"', _, rfl, by decide, by decide, by decide, by decide⟩
  · intro rest hends
    have hscan := scanString_jsonStr k (':' :: ' ' :: ((Val.dumps v).toList ++ rest))
    rw [jsonStr_eq] at hscan
    have hcolon := skipWs_cons (by decide : isWs ':' = false)
      (' ' :: ((Val.dumps v).toList ++ rest))
    have hvalue := skipWs_space h.opens rest
    have hassoc : (memberText (k, v)).toList ++ rest =
        '"' :: (k.toList.flatMap jsonChar ++ ['"'] ++
          (':' :: ' ' :: ((Val.dumps v).toList ++ rest))) := by
      rw [htext]
      simp
    rw [List.cons_append] at hscan
    rw [hassoc, scanMember, List.head?_cons, if_pos rfl, hscan]
    simp only [bind, Except.bind, hcolon, List.head?_cons, if_true, List.drop_succ_cons,
      List.drop_zero, hvalue, h.read rest hends]

/-- A list is read back, if its items are. -/
theorem readsBack_list {depth : Nat} {xs : List Val}
    (h : ∀ x ∈ xs, ReadsBack (scanOnce readFloat depth) Val.dumps x) :
    ReadsBack (scanOnce readFloat (depth + 1)) Val.dumps (.list xs) := by
  have htext : (Val.dumps (.list xs)).toList = '[' :: ((join ", " (xs.map Val.dumps)).toList ++
      [']']) := by
    rw [Val.dumps, dumpsList_eq, String.toList_append, String.toList_append]
    rfl
  constructor
  · rw [htext]
    exact ⟨'[', _, rfl, by decide, by decide, by decide, by decide⟩
  · intro rest _
    have hseq := scanSeq_join (Or.inl rfl) h rest
    rw [htext, List.cons_append, List.append_assoc, List.singleton_append, scanOnce,
      if_neg (by decide), if_pos rfl, hseq]
    rfl

/-- An object is read back, if its values are and each key stands once. -/
theorem readsBack_dict {depth : Nat} {kvs : List (String × Val)}
    (hnodup : (kvs.map Prod.fst).Nodup)
    (h : ∀ p ∈ kvs, ReadsBack (scanOnce readFloat depth) Val.dumps p.2) :
    ReadsBack (scanOnce readFloat (depth + 1)) Val.dumps (.dict kvs) := by
  have htext : (Val.dumps (.dict kvs)).toList =
      '\x7b' :: ((join ", " (kvs.map memberText)).toList ++ ['\x7d']) := by
    rw [Val.dumps, dumpsDict_eq, String.toList_append, String.toList_append]
    rfl
  constructor
  · rw [htext]
    exact ⟨'\x7b', _, rfl, by decide, by decide, by decide, by decide⟩
  · intro rest _
    have hseq := scanSeq_join (Or.inr rfl) (fun p hp => readsBack_member (h p hp)) rest
    rw [htext, List.cons_append, List.append_assoc, List.singleton_append, scanOnce, if_pos rfl,
      hseq, Except.map, dictOf_of_nodup hnodup]

/-- A plain value is read back. -/
theorem scanOnce_dumps {depth : Nat} {v : Val} (h : Plain readFloat depth v) :
    ReadsBack (scanOnce readFloat depth) Val.dumps v := by
  -- The depth goes down by one with each container.
  induction depth using Nat.strongRecOn generalizing v with
  | ind depth ih =>
      cases v with
      | none => exact readsBack_constant depth (Or.inl rfl)
      | bool b => cases b <;> exact readsBack_constant depth (by simp)
      | int i =>
          rw [Plain] at h
          exact readsBack_number depth (scanNumber_toString readFloat h)
      | float q text =>
          rw [Plain] at h
          exact readsBack_number depth h
      | str s => exact readsBack_string depth s
      | list xs =>
          rcases plain_list_iff.mp h with ⟨d, rfl, hitems⟩
          exact readsBack_list (fun x hx => ih d (Nat.lt_succ_self d) (hitems x hx))
      | dict kvs =>
          rcases plain_dict_iff.mp h with ⟨d, rfl, hnodup, hvalues⟩
          exact readsBack_dict hnodup (fun p hp => ih d (Nat.lt_succ_self d) (hvalues p hp))
      | object text reprText =>
          rw [Plain] at h
          exact h.elim

/-- What is written for a plain value is read as that value. -/
theorem loads_dumps {depth : Nat} {v : Val} (h : Plain readFloat depth v) :
    loads readFloat depth (Val.dumps v) = .ok v := by
  have hreads := scanOnce_dumps h
  have hread := hreads.read [] ends_nil
  have hskip := skipWs_of_opens hreads.opens []
  rw [List.append_nil] at hread hskip
  -- A byte order mark would be refused.
  have hmark : (Val.dumps v).toList.head? ≠ some '\ufeff' := by
    rcases hreads.opens with ⟨c, cs', heq, -, -, -, hne⟩
    rw [heq]
    intro hc
    cases hc
    exact hne rfl
  rw [loads, if_neg hmark, hskip, hread]
  rfl

/-- What is plain is plain with more depth, too. -/
theorem plain_succ {depth : Nat} {v : Val} (h : Plain readFloat depth v) :
    Plain readFloat (depth + 1) v := by
  induction depth using Nat.strongRecOn generalizing v with
  | ind depth ih =>
      cases v with
      | list xs =>
          rcases plain_list_iff.mp h with ⟨d, rfl, hitems⟩
          exact fun x hx => ih d (Nat.lt_succ_self d) (hitems x hx)
      | dict kvs =>
          rcases plain_dict_iff.mp h with ⟨d, rfl, hnodup, hvalues⟩
          exact ⟨hnodup, fun p hp => ih d (Nat.lt_succ_self d) (hvalues p hp)⟩
      | _ =>
          rw [Plain] at h
          exact h

end Values

section Sizes

/-- How many parts a value has that an iteration over it goes through. -/
def parts : Val → Nat
  | .str s => s.length
  | .list xs => xs.length
  | .dict kvs => kvs.length
  | _ => 0

theorem length_scanPieces {cs : List Char} {r : List Piece × List Char}
    (h : scanPieces cs = .ok r) : r.1.length + r.2.length < cs.length := by
  fun_induction scanPieces cs generalizing r with
  | case1 => cases h
  | case2 cs =>
      cases h
      simp
  | case3 a b c d cs n hn ih =>
      rcases exists_of_map_ok h with ⟨r', hr', rfl⟩
      have hrest := ih hr'
      simp only [List.length_cons]
      omega
  | case4 => cases h
  | case5 e cs hu c hc ih =>
      rcases exists_of_map_ok h with ⟨r', hr', rfl⟩
      have hrest := ih hr'
      simp only [List.length_cons]
      omega
  | case6 => cases h
  | case7 => cases h
  | case8 c cs hquote hu he hc ih =>
      rcases exists_of_map_ok h with ⟨r', hr', rfl⟩
      have hrest := ih hr'
      simp only [List.length_cons]
      omega

theorem length_joinPieces_le (ps : List Piece) : (joinPieces ps).length ≤ ps.length := by
  fun_induction joinPieces ps with
  | case1 => exact Nat.le_refl _
  | case2 c ps ih => exact Nat.succ_le_succ ih
  | case3 n m ps hpair ih =>
      simp only [List.length_cons]
      omega
  | case4 n m ps hpair ih =>
      simp only [List.length_cons] at ih ⊢
      omega
  | case5 n ps hps ih => exact Nat.succ_le_succ ih

theorem length_scanString {cs : List Char} {r : String × List Char} (h : scanString cs = .ok r) :
    r.1.length + r.2.length < cs.length := by
  rcases exists_of_map_ok h with ⟨r', hr', rfl⟩
  have hpieces := length_scanPieces hr'
  have hjoin := length_joinPieces_le r'.1
  dsimp only
  rw [← String.length_toList, String.toList_ofList]
  omega

variable {α : Type} {item : Scanner α} {close : Char}

theorem length_of_ok {scan : Scanner α} (hscan : Consumes scan) {cs : List Char}
    {r : α × List Char} (h : scan cs = .ok r) : r.2.length < cs.length := by
  have hwithin := hscan cs
  rw [h] at hwithin
  exact hwithin

theorem length_scanItems (hitem : Consumes item) {fuel : Nat} {cs : List Char}
    {r : List α × List Char} (h : scanItems item close fuel cs = .ok r) :
    r.1.length + r.2.length < cs.length := by
  induction fuel generalizing cs r with
  | zero => cases h
  | succ fuel ih =>
      rw [scanItems] at h
      rcases exists_of_bind_ok h with ⟨⟨x, rest⟩, hx, h⟩
      have hrest : rest.length < cs.length := length_of_ok hitem hx
      have hskip := length_skipWs_le rest
      dsimp only at h
      split at h
      · cases h
      next c rest' heq =>
        rw [heq, List.length_cons] at hskip
        split at h
        · cases h
          simp only [List.length_singleton]
          omega
        · split at h
          · rcases exists_of_bind_ok h with ⟨⟨xs, rest''⟩, hxs, h⟩
            cases h
            have hitems := ih hxs
            have hskip' := length_skipWs_le rest'
            simp only [List.length_cons] at hitems ⊢
            omega
          · cases h

theorem length_scanSeq (hitem : Consumes item) {cs : List Char} {r : List α × List Char}
    (h : scanSeq item close cs = .ok r) : r.1.length + r.2.length < cs.length := by
  have hskip := length_skipWs_le cs
  unfold scanSeq at h
  split at h
  next hhead =>
    cases h
    have hdrop := length_drop_one_lt hhead
    simp only [List.length_nil]
    omega
  · have hitems := length_scanItems hitem h
    omega

variable {readFloat : String → Option (ℚ × String)}

theorem parts_scanConstant {cs : List Char} {r : Val × List Char} (h : scanConstant cs = some r) :
    parts r.1 = 0 := by
  rcases Option.map_eq_some_iff.mp h with ⟨w, hw, rfl⟩
  have hmem : w ∈ constants := List.mem_of_find?_eq_some hw
  simp only [constants, List.mem_cons, List.not_mem_nil, or_false] at hmem
  rcases hmem with rfl | rfl | rfl | rfl | rfl | rfl <;> rfl

theorem parts_scanNumber {cs : List Char} {r : Val × List Char}
    (h : scanNumber readFloat cs = .ok r) : parts r.1 = 0 := by
  have hfloat : ∀ literal, parts (floatOf readFloat literal) = 0 := by
    intro literal
    unfold floatOf
    split
    · rfl
    · split <;> rfl
  unfold scanNumber at h
  split at h
  · cases h
  · dsimp only at h
    split at h
    · cases h
      exact hfloat _
    · split at h
      · cases h
      · cases h
        rfl

theorem parts_scanScalar {cs : List Char} {r : Val × List Char}
    (h : scanScalar readFloat cs = .ok r) : parts r.1 + r.2.length < cs.length := by
  have hlength := length_of_ok (consumes_scanScalar readFloat) h
  unfold scanScalar at h
  split at h
  · rcases exists_of_map_ok h with ⟨r', hr', rfl⟩
    have hstring := length_scanString hr'
    rw [List.length_drop] at hstring
    simp only [parts]
    omega
  · have hparts : parts r.1 = 0 := by
      split at h
      next r' hconstant =>
        cases h
        exact parts_scanConstant hconstant
      · exact parts_scanNumber h
    rw [hparts]
    omega

/-- A value has fewer parts than the text it was read from has characters. -/
theorem parts_scanOnce {depth : Nat} {cs : List Char} {r : Val × List Char}
    (h : scanOnce readFloat depth cs = .ok r) : parts r.1 + r.2.length < cs.length := by
  cases cs with
  | nil =>
      rw [scanOnce.eq_def] at h
      exact parts_scanScalar h
  | cons c cs =>
      by_cases hdict : c = '\x7b'
      · rw [scanOnce.eq_def] at h
        dsimp only at h
        rw [if_pos hdict] at h
        cases depth with
        | zero => cases h
        | succ depth =>
            rcases exists_of_map_ok h with ⟨r', hr', rfl⟩
            have hseq :=
              length_scanSeq (consumes_scanMember (consumes_scanOnce readFloat depth)) hr'
            -- Keys that come again are dropped, so there are no more members than were read.
            have hdictOf := length_dictOf_le r'.1
            simp only [parts, List.length_cons]
            omega
      · by_cases hlist : c = '['
        · rw [scanOnce.eq_def] at h
          dsimp only at h
          rw [if_neg hdict, if_pos hlist] at h
          cases depth with
          | zero => cases h
          | succ depth =>
              rcases exists_of_map_ok h with ⟨r', hr', rfl⟩
              have hseq := length_scanSeq (consumes_scanOnce readFloat depth) hr'
              simp only [parts, List.length_cons]
              omega
        · rw [scanOnce_scalar readFloat depth cs hdict hlist] at h
          exact parts_scanScalar h

/-- What is read from a text has fewer parts than the text has characters. -/
theorem parts_lt_of_loads {depth : Nat} {s : String} {v : Val}
    (h : loads readFloat depth s = .ok v) : parts v < s.length := by
  unfold loads at h
  split at h
  · cases h
  · rcases exists_of_bind_ok h with ⟨⟨w, cs⟩, hw, h⟩
    have hparts := parts_scanOnce hw
    have hskip := length_skipWs_le s.toList
    dsimp only at h hparts
    split at h
    · cases h
      rw [String.length_toList] at hskip
      omega
    · cases h

end Sizes

end Json

end Py

end AgenticRag

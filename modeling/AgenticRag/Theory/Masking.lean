import AgenticRag.Lib.Words
import AgenticRag.Theory.Snapshot
import Mathlib.Data.List.TakeWhile

/-!
# Masked Numbers

Telephone and identity numbers are to be gone from the content of evidence. Both
patterns ask for a word boundary on either side, and a digit next to a letter, an
ideograph or an underscore has none. A masked number is therefore a word of its
own, and so the text can be gone through word by word
(`someFrom_mask_iff`): what is left of the numbers in a text are those with a word
character next to them (`holdsNumber_scrubSensitive_iff`).

The Unicode database is asked only that decimal digits and the letter at the end
of an identity number are alphanumeric.

## Main definitions

* `NumberAt`, `HoldsNumber`: A run of digits is a mobile number or an identity
  number.
* `rawTexts`: The texts the content of evidence is made of.

## Theorems

* `someFrom_mask_iff`: What is left of the numbers in a text.
* `holdsNumber_scrubSensitive_iff`: The same for the text as a whole.
* `no_number_left_iff`: When no number is left, in a text and in the evidence of
  a tool.
-/

namespace AgenticRag

open Py Words

section Numbers

/-- `1[3-9]` followed by nine digits. -/
def isMobile (run : List Char) : Bool :=
  decide (run.length = 11) && decide (run[0]? = some '1') &&
    (run[1]?.map (fun c => decide ('3' ≤ c ∧ c ≤ '9'))).getD false

/-- Eighteen digits, or seventeen before an X. -/
def isIdentity (run : List Char) (next : Option Char) : Bool :=
  decide (run.length = 18) || (decide (run.length = 17) && decide (next = some 'X'))

/-- From here on, behind no digit, the digits are a mobile number or an identity
    number. -/
def NumberAt (before : Option Char) (cs : List Char) : Prop :=
  wordAt isDecimal before = false ∧
    (isMobile (cs.takeWhile isDecimal) ||
      isIdentity (cs.takeWhile isDecimal) (cs.dropWhile isDecimal).head?) = true

/-- A number is found in a text. -/
def HoldsNumber (text : String) : Prop :=
  SomeFrom NumberAt none text.toList

/-- What stands behind the number here. -/
def behindNumber (cs : List Char) : Option Char :=
  if (cs.takeWhile isDecimal).length = 17 then (cs.dropWhile isDecimal).tail.head?
  else (cs.dropWhile isDecimal).head?

/-- The number here has a word character next to it. -/
def AttachedAt (rt : Runtime) (before : Option Char) (cs : List Char) : Prop :=
  NumberAt before cs ∧
    (wordAt (isWord rt) before = true ∨ wordAt (isWord rt) (behindNumber cs) = true)

/-- What is asked of the Unicode database. -/
structure DigitsAreWord (u : Unicode) : Prop where
  decimal : ∀ c, isDecimal c = true → u.isAlnum c = true
  ending : u.isAlnum 'X' = true ∧ u.isAlnum 'x' = true

end Numbers

section Scanners

variable {rt : Runtime}

/-- The words the first pattern matches. -/
def isPhoneWord (w : List Char) : Bool :=
  isMobile w && (w.drop 2).all isDecimal

/-- The words the second pattern matches. -/
def isIdentityWord (w : List Char) : Bool :=
  decide (w.length = 18) && (w.take 17).all isDecimal &&
    (w[17]?.map (fun c => isDecimal c || c == 'X' || c == 'x')).getD false

theorem phoneScan_eq : phoneScan rt = wordScan (isWord rt) 11 isPhoneWord := by
  funext before cs
  unfold phoneScan wordScan isPhoneWord isMobile
  simp only [Bool.and_eq_true, decide_eq_true_eq, and_assoc]
  refine if_congr ?_ rfl rfl
  tauto

theorem identityScan_eq : identityScan rt = wordScan (isWord rt) 18 isIdentityWord := by
  funext before cs
  unfold identityScan wordScan isIdentityWord
  simp only [Bool.and_eq_true, decide_eq_true_eq, and_assoc]
  refine if_congr ?_ rfl rfl
  tauto

theorem isDecimal_of_range {c : Char} (h : '3' ≤ c ∧ c ≤ '9') : isDecimal c = true := by
  have hlow : 51 ≤ c.toNat := h.1
  have hhigh : c.toNat ≤ 57 := h.2
  have hzero :
      decimalZeros.find? (fun z => decide (z ≤ c.toNat ∧ c.toNat < z + 10)) = some 0x30 := by
    rw [decimalZeros, List.find?_cons_of_pos]
    exact decide_eq_true (by omega)
  rw [isDecimal, decimalValue, hzero]
  rfl

theorem all_isDecimal_of_isPhoneWord {w : List Char} (h : isPhoneWord w = true) :
    w.length = 11 ∧ ∀ c ∈ w, isDecimal c = true := by
  unfold isPhoneWord isMobile at h
  simp only [Bool.and_eq_true, decide_eq_true_eq] at h
  rcases h with ⟨⟨⟨hlength, hfirst⟩, hsecond⟩, hrest⟩
  refine ⟨hlength, ?_⟩
  -- The first two characters, and the nine behind them.
  match w, hlength with
  | a :: b :: w, hlength =>
      have ha : a = '1' := Option.some.inj hfirst
      have hb : '3' ≤ b ∧ b ≤ '9' := of_decide_eq_true hsecond
      refine List.forall_mem_cons.mpr ⟨?_, List.forall_mem_cons.mpr ⟨isDecimal_of_range hb, ?_⟩⟩
      · rw [ha]
        decide
      · exact List.all_eq_true.mp hrest

theorem isIdentityWord_iff {w : List Char} :
    isIdentityWord w = true ↔ ∃ run c, w = run ++ [c] ∧ run.length = 17 ∧
      (∀ d ∈ run, isDecimal d = true) ∧ (isDecimal c = true ∨ c = 'X' ∨ c = 'x') := by
  unfold isIdentityWord
  simp only [Bool.and_eq_true, decide_eq_true_eq]
  constructor
  · rintro ⟨⟨hlength, hrun⟩, hlast⟩
    have hlt : 17 < w.length := by omega
    refine ⟨w.take 17, w[17], ?_, ?_, List.all_eq_true.mp hrun, ?_⟩
    · rw [List.take_append_getElem hlt, List.take_of_length_le (by omega)]
    · rw [List.length_take]
      omega
    · rw [List.getElem?_eq_getElem hlt] at hlast
      simpa [or_assoc] using hlast
  · rintro ⟨run, c, rfl, hlength, hrun, hc⟩
    refine ⟨⟨?_, ?_⟩, ?_⟩
    · rw [List.length_append, hlength]
      rfl
    · rw [← hlength, List.take_left]
      exact List.all_eq_true.mpr hrun
    · rw [← hlength, List.getElem?_concat_length]
      simpa [or_assoc] using hc

theorem isWord_of_isDecimal (hu : DigitsAreWord rt.unicode) {c : Char} (hc : isDecimal c = true) :
    isWord rt c = true := by
  rw [isWord, hu.decimal c hc]
  rfl

theorem wholeWord_phoneScan (hu : DigitsAreWord rt.unicode) :
    WholeWord (isWord rt) (phoneScan rt) isPhoneWord := by
  rw [phoneScan_eq]
  refine wholeWord_wordScan (by decide) (fun m hm c hc => ?_) (fun m hm => ?_)
  · exact isWord_of_isDecimal hu ((all_isDecimal_of_isPhoneWord hm).2 c hc)
  · exact (all_isDecimal_of_isPhoneWord hm).1

theorem wholeWord_identityScan (hu : DigitsAreWord rt.unicode) :
    WholeWord (isWord rt) (identityScan rt) isIdentityWord := by
  rw [identityScan_eq]
  refine wholeWord_wordScan (by decide) (fun m hm c hc => ?_) (fun m hm => ?_)
  · rcases isIdentityWord_iff.mp hm with ⟨run, d, rfl, -, hrun, hd⟩
    rcases List.mem_append.mp hc with hc | hc
    · exact isWord_of_isDecimal hu (hrun c hc)
    · rw [List.mem_singleton.mp hc]
      rcases hd with hd | rfl | rfl
      · exact isWord_of_isDecimal hu hd
      · rw [isWord, hu.ending.1]
        rfl
      · rw [isWord, hu.ending.2]
        rfl
  · rcases isIdentityWord_iff.mp hm with ⟨run, d, rfl, hlength, -, -⟩
    rw [List.length_append, hlength]
    rfl

end Scanners

section Words

variable {rt : Runtime} (hu : DigitsAreWord rt.unicode)

/-- What is no word character is no digit. -/
theorem wordAt_isDecimal (hu : DigitsAreWord rt.unicode) {o : Option Char}
    (h : wordAt (isWord rt) o = false) : wordAt isDecimal o = false := by
  cases o with
  | none => rfl
  | some c =>
      change isWord rt c = false at h
      change isDecimal c = false
      by_contra hc
      rw [isWord_of_isDecimal hu (Bool.not_eq_false _ ▸ hc)] at h
      cases h

theorem wordAt_or (p : Char → Bool) {o o' : Option Char} (h : wordAt p o' = false) :
    wordAt p (o.or o') = wordAt p o := by
  cases o with
  | none => exact h
  | some c => rfl

/-- The digits at the end of a word end there. -/
theorem takeWhile_append_of_head (cs : List Char) {rest : List Char}
    (h : wordAt isDecimal rest.head? = false) :
    (cs ++ rest).takeWhile isDecimal = cs.takeWhile isDecimal ∧
      (cs ++ rest).dropWhile isDecimal = cs.dropWhile isDecimal ++ rest := by
  have hrest : rest.takeWhile isDecimal = [] ∧ rest.dropWhile isDecimal = rest := by
    cases rest with
    | nil => exact ⟨rfl, rfl⟩
    | cons c rest =>
        change isDecimal c = false at h
        rw [List.takeWhile_cons, List.dropWhile_cons, h]
        exact ⟨rfl, rfl⟩
  induction cs with
  | nil => exact hrest
  | cons c cs ih =>
      rw [List.cons_append, List.takeWhile_cons, List.takeWhile_cons, List.dropWhile_cons,
        List.dropWhile_cons]
      cases isDecimal c with
      | false => exact ⟨rfl, rfl⟩
      | true => exact ⟨congrArg (c :: ·) ih.1, ih.2⟩

theorem not_numberAt_of_head {before : Option Char} {cs : List Char}
    (h : wordAt isDecimal cs.head? = false) : ¬ NumberAt before cs := by
  have hnone : cs.takeWhile isDecimal = [] := by
    cases cs with
    | nil => rfl
    | cons c cs =>
        change isDecimal c = false at h
        rw [List.takeWhile_cons, h]
        rfl
  rintro ⟨-, hkind⟩
  rw [hnone] at hkind
  simp [isMobile, isIdentity] at hkind

/-- A word character stands at the end of what comes before a later place of a
    word. -/
theorem wordAt_getLast? (p : Char → Bool) {pre : List Char} {before : Option Char} (hne : pre ≠ [])
    (hpre : ∀ c ∈ pre, p c = true) : wordAt p (pre.getLast?.or before) = true := by
  rw [List.getLast?_eq_some_getLast hne]
  exact hpre _ (List.getLast_mem hne)

/-- Seventeen digits and an X that neither pattern matches are followed by a word
    character. -/
theorem wordAt_behind_seventeen {w : List Char} (hidentity : isIdentityWord w = false)
    (hw : ∀ c ∈ w, isWord rt c = true) (hlength : (w.takeWhile isDecimal).length = 17)
    (hx : (w.dropWhile isDecimal).head? = some 'X') :
    wordAt (isWord rt) (w.dropWhile isDecimal).tail.head? = true := by
  have hsum := List.takeWhile_append_dropWhile (p := isDecimal) (l := w)
  cases hdrop : w.dropWhile isDecimal with
  | nil =>
      rw [hdrop] at hx
      cases hx
  | cons c cs =>
      rw [hdrop] at hx hsum
      cases hx
      cases cs with
      | nil =>
          -- The X ends the word, which is masked.
          have hmasked := isIdentityWord_iff.mpr ⟨w.takeWhile isDecimal, 'X', hsum.symm, hlength,
            List.all_eq_true.mp List.all_takeWhile, .inr (.inl rfl)⟩
          rw [hidentity] at hmasked
          cases hmasked
      | cons d cs =>
          refine hw d ((List.dropWhile_sublist isDecimal).subset ?_)
          rw [hdrop]
          exact List.mem_cons_of_mem _ List.mem_cons_self

/-- A word of digits alone that holds a number is matched. -/
theorem masked_of_digits {w : List Char} (hdigits : ∀ c ∈ w, isDecimal c = true)
    (hseventeen : w.length ≠ 17) (hkind : isMobile w = true ∨ isIdentity w none = true) :
    isPhoneWord w = true ∨ isIdentityWord w = true := by
  rcases hkind with hmobile | hident
  · refine .inl ?_
    rw [isPhoneWord, hmobile, Bool.true_and]
    exact List.all_eq_true.mpr (fun c hc => hdigits c (List.mem_of_mem_drop hc))
  · have hlong : w.length = 18 := by
      simp only [isIdentity, hseventeen] at hident
      simpa using hident
    have hne : w ≠ [] := List.ne_nil_of_length_pos (by omega)
    refine .inr (isIdentityWord_iff.mpr ⟨w.dropLast, w.getLast hne,
      (List.dropLast_append_getLast hne).symm, by rw [List.length_dropLast, hlong],
      fun d hd => hdigits d (List.mem_of_mem_dropLast hd),
      .inl (hdigits _ (List.getLast_mem hne))⟩)

/-- Behind the number at the head of a word that neither pattern matches there is a
    word character. -/
theorem wordAt_behindNumber {w : List Char} (hphone : isPhoneWord w = false)
    (hidentity : isIdentityWord w = false) (hw : ∀ c ∈ w, isWord rt c = true)
    (hkind : isMobile (w.takeWhile isDecimal) = true ∨
      isIdentity (w.takeWhile isDecimal) (w.dropWhile isDecimal).head? = true) :
    wordAt (isWord rt) (behindNumber w) = true := by
  rw [behindNumber]
  by_cases hlength : (w.takeWhile isDecimal).length = 17
  · rw [if_pos hlength]
    refine wordAt_behind_seventeen hidentity hw hlength ?_
    simp only [isMobile, isIdentity, hlength] at hkind
    simpa using hkind
  · rw [if_neg hlength]
    have hsum := List.takeWhile_append_dropWhile (p := isDecimal) (l := w)
    have hdigits : ∀ c ∈ w.takeWhile isDecimal, isDecimal c = true :=
      List.all_eq_true.mp List.all_takeWhile
    cases hdrop : w.dropWhile isDecimal with
    | cons c cs =>
        refine hw c ((List.dropWhile_sublist isDecimal).subset ?_)
        rw [hdrop]
        exact List.mem_cons_self
    | nil =>
        rw [hdrop, List.append_nil] at hsum
        rw [hdrop, hsum] at hkind
        rw [hsum] at hdigits hlength
        rcases masked_of_digits hdigits hlength hkind with hmasked | hmasked
        · rw [hphone] at hmasked
          cases hmasked
        · rw [hidentity] at hmasked
          cases hmasked

include hu

/-- Whether there is a number in a word does not depend on what follows the
    word. -/
theorem numberAt_append {before : Option Char} {cs rest : List Char}
    (h : wordAt (isWord rt) rest.head? = false) :
    NumberAt before (cs ++ rest) ↔ NumberAt before cs := by
  have hsplit := takeWhile_append_of_head cs (wordAt_isDecimal hu h)
  have hnext : isIdentity (cs.takeWhile isDecimal) (cs.dropWhile isDecimal ++ rest).head? =
      isIdentity (cs.takeWhile isDecimal) (cs.dropWhile isDecimal).head? := by
    cases hdrop : cs.dropWhile isDecimal with
    | cons c cs => rfl
    | nil =>
        -- An X is no end of a word.
        have hne : rest.head? ≠ some 'X' := by
          intro hx
          rw [hx] at h
          change isWord rt 'X' = false at h
          rw [isWord, hu.ending.1] at h
          cases h
        rw [List.nil_append, isIdentity, isIdentity, decide_eq_false hne]
        rfl
  rw [NumberAt, NumberAt, hsplit.1, hsplit.2, hnext]

theorem attachedAt_append {before : Option Char} {cs rest : List Char}
    (h : wordAt (isWord rt) rest.head? = false) :
    AttachedAt rt before (cs ++ rest) ↔ AttachedAt rt before cs := by
  have hsplit := takeWhile_append_of_head cs (wordAt_isDecimal hu h)
  rw [AttachedAt, AttachedAt, numberAt_append hu h]
  refine and_congr_right (fun hnumber => or_congr_right ?_)
  rw [behindNumber, behindNumber, hsplit.1, hsplit.2]
  by_cases hlength : (cs.takeWhile isDecimal).length = 17
  · rw [if_pos hlength, if_pos hlength]
    -- Seventeen digits are a number before an X only.
    have hx : (cs.dropWhile isDecimal).head? = some 'X' := by
      have hkind := hnumber.2
      simp only [isMobile, isIdentity, hlength] at hkind
      simpa using hkind
    cases hdrop : cs.dropWhile isDecimal with
    | nil =>
        rw [hdrop] at hx
        cases hx
    | cons c cs =>
        rw [List.cons_append, List.tail_cons, List.tail_cons, List.head?_append, wordAt_or _ h]
  · rw [if_neg hlength, if_neg hlength, List.head?_append, wordAt_or _ h]

/-- A number with nothing but digits before it, and nothing behind it, is not
    attached. -/
theorem not_within_attachedAt {before : Option Char} {w rest : List Char}
    (hbefore : wordAt (isWord rt) before = false) (hrest : wordAt (isWord rt) rest.head? = false)
    (hdigits : ∀ pre cs, w = pre ++ cs → cs ≠ [] → ∀ c ∈ pre, isDecimal c = true)
    (hend : wordAt (isWord rt) (behindNumber w) = false) :
    ¬ SomeWithin (AttachedAt rt) before w rest := by
  rintro ⟨pre, cs, hw, hne, hattached⟩
  rw [attachedAt_append hu hrest] at hattached
  by_cases hpre : pre = []
  · subst hpre
    rw [List.nil_append] at hw
    subst hw
    rcases hattached.2 with h | h
    · rw [show ([] : List Char).getLast?.or before = before from rfl, hbefore] at h
      cases h
    · rw [hend] at h
      cases h
  · have hlast : wordAt isDecimal (pre.getLast?.or before) = true :=
      wordAt_getLast? isDecimal hpre (hdigits pre cs hw hne)
    rw [hattached.1.1] at hlast
    cases hlast

theorem not_within_phone {before : Option Char} {w rest : List Char} (h : isPhoneWord w = true)
    (hbefore : wordAt (isWord rt) before = false)
    (hrest : wordAt (isWord rt) rest.head? = false) :
    ¬ SomeWithin (AttachedAt rt) before w rest := by
  rcases all_isDecimal_of_isPhoneWord h with ⟨hlength, hall⟩
  refine not_within_attachedAt hu hbefore hrest
    (fun pre cs hw _ c hc => hall c (hw ▸ List.mem_append_left cs hc)) ?_
  have htake : w.takeWhile isDecimal = w := List.takeWhile_eq_self_iff.mpr hall
  have hdrop : w.dropWhile isDecimal = [] := List.dropWhile_eq_nil_iff.mpr hall
  rw [behindNumber, htake, hlength, hdrop]
  rfl

theorem not_within_identity {before : Option Char} {w rest : List Char}
    (h : isIdentityWord w = true) (hbefore : wordAt (isWord rt) before = false)
    (hrest : wordAt (isWord rt) rest.head? = false) :
    ¬ SomeWithin (AttachedAt rt) before w rest := by
  rcases isIdentityWord_iff.mp h with ⟨run, c, rfl, hlength, hrun, -⟩
  refine not_within_attachedAt hu hbefore hrest (fun pre cs hw hne d hd => ?_) ?_
  · -- What comes before a place of the word lies in the seventeen digits.
    rcases List.eq_nil_or_concat' cs with rfl | ⟨cs', e, rfl⟩
    · exact absurd rfl hne
    · rw [← List.append_assoc] at hw
      have hinit := (List.append_inj' hw rfl).1
      exact hrun d (hinit ▸ List.mem_append_left cs' hd)
  · have htake : (run ++ [c]).takeWhile isDecimal = run ++ [c].takeWhile isDecimal :=
      List.takeWhile_append_of_pos hrun
    have hdrop : (run ++ [c]).dropWhile isDecimal = [c].dropWhile isDecimal :=
      List.dropWhile_append_of_pos hrun
    rw [behindNumber, htake, hdrop]
    cases hc : isDecimal c with
    | true =>
        simp [hc, hlength, wordAt]
    | false =>
        simp [hc, hlength, wordAt]

/-- In a word that neither pattern matches, every number is attached. -/
theorem within_iff_of_kept {before : Option Char} {w rest rest' : List Char}
    (hphone : isPhoneWord w = false) (hidentity : isIdentityWord w = false)
    (hw : ∀ c ∈ w, isWord rt c = true) (hrest : wordAt (isWord rt) rest.head? = false)
    (hrest' : wordAt (isWord rt) rest'.head? = false) :
    SomeWithin NumberAt before w rest' ↔ SomeWithin (AttachedAt rt) before w rest := by
  refine exists_congr (fun pre => exists_congr (fun cs => and_congr_right (fun hsplit =>
    and_congr_right (fun _ => ?_))))
  rw [numberAt_append hu hrest', attachedAt_append hu hrest]
  refine ⟨fun hnumber => ⟨hnumber, ?_⟩, fun h => h.1⟩
  by_cases hpre : pre = []
  · subst hpre
    rw [List.nil_append] at hsplit
    subst hsplit
    exact .inr (wordAt_behindNumber hphone hidentity hw (Bool.or_eq_true _ _ ▸ hnumber.2))
  · refine .inl (wordAt_getLast? (isWord rt) hpre (fun c hc => hw c ?_))
    exact hsplit ▸ List.mem_append_left cs hc

end Words

section Masking

variable {rt : Runtime}

/-- What both substitutions make of a text, with a given character before it. -/
def maskFrom (rt : Runtime) (before : Option Char) (text : List Char) : List Char :=
  reSub (identityScan rt) "ID-XXXXXXXX".toList before 0
    (reSub (phoneScan rt) "1XX-XXXX-XXXX".toList before 0 text)

/-- Fewer than eleven digits are no number. -/
theorem not_numberAt_of_few {before : Option Char} {cs : List Char}
    (h : cs.countP isDecimal < 11) : ¬ NumberAt before cs := by
  rintro ⟨-, hkind⟩
  have hlength : (cs.takeWhile isDecimal).length < 11 := by
    refine lt_of_le_of_lt ?_ h
    rw [← List.countP_eq_length.mpr (List.all_eq_true.mp List.all_takeWhile)]
    exact (List.takeWhile_sublist isDecimal).countP_le
  simp only [isMobile, isIdentity, Bool.or_eq_true, Bool.and_eq_true, decide_eq_true_eq] at hkind
  omega

theorem not_within_of_few (hu : DigitsAreWord rt.unicode) {before : Option Char}
    {v rest : List Char} (h : v.countP isDecimal < 11)
    (hrest : wordAt (isWord rt) rest.head? = false) : ¬ SomeWithin NumberAt before v rest := by
  rintro ⟨pre, cs, rfl, -, hnumber⟩
  rw [numberAt_append hu hrest] at hnumber
  rw [List.countP_append] at h
  exact not_numberAt_of_few (by omega) hnumber

/-- The mask for a telephone number is no part of an identity number. -/
theorem reSub_identity_mask (before : Option Char) (rest : List Char) :
    reSub (identityScan rt) "ID-XXXXXXXX".toList before 0 ("1XX-XXXX-XXXX".toList ++ rest) =
      "1XX-XXXX-XXXX".toList ++ reSub (identityScan rt) "ID-XXXXXXXX".toList (some 'X') 0 rest := by
  refine reSub_keep ?_
  rintro ⟨pre, cs, hcs, hne, hscan⟩
  refine hscan ?_
  rw [identityScan_eq, wordScan, if_neg]
  rintro ⟨-, hword, -⟩
  -- Each place of the mask has its last X within seventeen characters.
  have hlength : cs.length ≤ 17 := by
    have h := congrArg List.length hcs
    have hmask : "1XX-XXXX-XXXX".toList.length = 13 := by decide
    rw [List.length_append, hmask] at h
    omega
  have hx : 'X' ∈ cs := by
    have h := List.getLast?_append_of_ne_nil pre hne
    rw [← hcs] at h
    exact List.mem_of_getLast? h.symm
  have hdigits : ((cs ++ rest).take 17).all isDecimal = true := by
    simp only [isIdentityWord, Bool.and_eq_true] at hword
    rw [List.take_take] at hword
    exact hword.1.2
  rw [List.take_append, List.take_of_length_le hlength] at hdigits
  exact absurd (List.all_eq_true.mp hdigits 'X' (List.mem_append_left _ hx)) (by decide)

/-- Where no word begins, none begins behind the masks. -/
theorem wordAt_head?_maskFrom (hu : DigitsAreWord rt.unicode) (before : Option Char)
    {rest : List Char} (hrest : wordAt (isWord rt) rest.head? = false) :
    wordAt (isWord rt) (maskFrom rt before rest).head? = false :=
  wordAt_head?_reSub (wholeWord_identityScan hu) _ before
    (wordAt_head?_reSub (wholeWord_phoneScan hu) _ before hrest)

/-- A word is masked or kept. -/
theorem maskFrom_word (hu : DigitsAreWord rt.unicode) {before : Option Char} {w rest : List Char}
    (hbefore : wordAt (isWord rt) before = false) (hne : w ≠ [])
    (hw : ∀ c ∈ w, isWord rt c = true) (hrest : wordAt (isWord rt) rest.head? = false) :
    maskFrom rt before (w ++ rest) =
      (if isPhoneWord w then "1XX-XXXX-XXXX".toList
        else if isIdentityWord w then "ID-XXXXXXXX".toList else w) ++ maskFrom rt none rest := by
  have hphone := wholeWord_phoneScan hu
  have hidentity := wholeWord_identityScan hu
  have hrest' := wordAt_head?_reSub hphone "1XX-XXXX-XXXX".toList none hrest
  rw [maskFrom, reSub_word hphone hbefore hne hw hrest, reSub_before hphone hrest]
  split_ifs with hmobile hident
  · rw [reSub_identity_mask, reSub_before hidentity hrest']
    rfl
  · rw [reSub_word hidentity hbefore hne hw hrest', if_pos hident,
      reSub_before hidentity hrest']
    rfl
  · rw [reSub_word hidentity hbefore hne hw hrest', if_neg hident,
      reSub_before hidentity hrest']
    rfl

/-- What stands for a word holds a number where the word holds an attached
    one. -/
theorem within_masked_iff (hu : DigitsAreWord rt.unicode) {before : Option Char}
    {w rest rest' : List Char} (hbefore : wordAt (isWord rt) before = false)
    (hw : ∀ c ∈ w, isWord rt c = true) (hrest : wordAt (isWord rt) rest.head? = false)
    (hrest' : wordAt (isWord rt) rest'.head? = false) :
    SomeWithin NumberAt before (if isPhoneWord w then "1XX-XXXX-XXXX".toList
        else if isIdentityWord w then "ID-XXXXXXXX".toList else w) rest' ↔
      SomeWithin (AttachedAt rt) before w rest := by
  split_ifs with hmobile hident
  · exact iff_of_false (not_within_of_few hu (by decide) hrest')
      (not_within_phone hu hmobile hbefore hrest)
  · exact iff_of_false (not_within_of_few hu (by decide) hrest')
      (not_within_identity hu hident hbefore hrest)
  · exact within_iff_of_kept hu (Bool.not_eq_true _ ▸ hmobile) (Bool.not_eq_true _ ▸ hident) hw
      hrest hrest'

theorem not_attachedAt_of_head (hu : DigitsAreWord rt.unicode) {before : Option Char}
    {cs : List Char} (h : wordAt (isWord rt) cs.head? = false) : ¬ AttachedAt rt before cs :=
  fun hattached => not_numberAt_of_head (wordAt_isDecimal hu h) hattached.1

/-- The numbers that are left in a text are those with a word character next to
    them. -/
theorem someFrom_mask_iff (hu : DigitsAreWord rt.unicode) (text : List Char) :
    ∀ before, wordAt (isWord rt) before = false →
      (SomeFrom NumberAt before (maskFrom rt before text) ↔
        SomeFrom (AttachedAt rt) before text) := by
  induction text using word_induction (isWord rt) with
  | nil =>
      intro before hbefore
      rw [maskFrom, reSub, reSub, someFrom_nil, someFrom_nil]
      exact iff_of_false (not_numberAt_of_head rfl) (not_attachedAt_of_head hu rfl)
  | other c cs hc ih =>
      intro before hbefore
      have hhead : wordAt (isWord rt) (c :: cs).head? = false := hc
      have hhead' : wordAt (isWord rt) (c :: maskFrom rt (some c) cs).head? = false := hc
      have hmask : maskFrom rt before (c :: cs) = c :: maskFrom rt (some c) cs := by
        rw [maskFrom, reSub_other (wholeWord_phoneScan hu) hc,
          reSub_other (wholeWord_identityScan hu) hc]
        rfl
      rw [hmask, someFrom_cons, someFrom_cons, ih (some c) hc,
        or_iff_right (not_numberAt_of_head (wordAt_isDecimal hu hhead')),
        or_iff_right (not_attachedAt_of_head hu hhead)]
  | word w rest hne hw hrest ih =>
      intro before hbefore
      have hrest' := wordAt_head?_maskFrom hu none hrest
      -- Behind the word nothing depends on the character before.
      have hmasked := someFrom_before (Q := NumberAt)
        (fun _ => not_numberAt_of_head (wordAt_isDecimal hu hrest'))
      have hraw := someFrom_before (Q := AttachedAt rt) (fun _ => not_attachedAt_of_head hu hrest)
      rw [maskFrom_word hu hbefore hne hw hrest, someFrom_append, someFrom_append, hmasked, hraw,
        ih none rfl]
      exact or_congr_left (within_masked_iff hu hbefore hw hrest hrest')

theorem holdsNumber_scrubSensitive_iff (hu : DigitsAreWord rt.unicode) (text : String) :
    HoldsNumber (scrubSensitive rt text) ↔ SomeFrom (AttachedAt rt) none text.toList := by
  have hmask : (scrubSensitive rt text).toList = maskFrom rt none text.toList := by
    unfold scrubSensitive maskFrom
    split_ifs with hempty
    · rw [hempty]
      rfl
    · exact String.toList_ofList
  rw [HoldsNumber, hmask]
  exact someFrom_mask_iff hu text.toList none rfl

end Masking

section Contents

/-- The texts of the evidence of a database result. -/
def rawDbTexts : Option DbResult → List String
  | none => []
  | some r =>
      match r.rows with
      | [] => [""]
      | row :: rows => (row :: rows).map (fun row => (Val.dict row).dumps)

/-- The text of the evidence of a graph result, if there is any. -/
def rawGraphTexts (rt : Runtime) : Option GraphResult → List String
  | none => []
  | some r => if r.error ≠ "" ∨ r.reportedRows = 0 then [] else [graphContentRaw rt r]

/-- The texts the content of evidence is made of, for each normaliser. -/
def rawTexts (rt : Runtime) (toolName : String) (result : ToolPayload) : List String :=
  match toolSourceTypeMap.lookup toolName, result with
  | some .rag, .ragDocs docs => docs.map (fun doc => orElse doc.content doc.text)
  | some .db, .dbResult r => rawDbTexts r
  | some .web, .webDocs docs => docs.map (fun doc => orElse doc.content doc.snippet)
  | some .report, .dbResult r => rawDbTexts r
  | some .rest, .restDocs docs _ => docs.map restContentRaw
  | some .graph, .graphResult r => rawGraphTexts rt r
  | _, _ => []

variable {rt : Runtime} {tenantId query : String}

/-- What a normaliser does to a text. -/
def contentOf (rt : Runtime) (contentRaw : String) : String :=
  scrubSensitive rt (truncateContent contentRaw 2000).1

theorem contentOf_of_short {contentRaw : String} (h : contentRaw.length ≤ 2000) :
    contentOf rt contentRaw = scrubSensitive rt contentRaw := by
  unfold contentOf truncateContent
  split_ifs with hempty
  · rw [hempty]
  · rfl

theorem normalizeDbEvidence_contents {dbResult : Option DbResult} {evidences : List Evidence}
    (h : normalizeDbEvidence rt tenantId query dbResult = .ok evidences) :
    evidences.map Evidence.content = (rawDbTexts dbResult).map (contentOf rt) := by
  have hrow : ∀ r row rowKey title marks,
      (rowEvidence rt tenantId query r row rowKey title marks).content =
        contentOf rt (Val.dict row).dumps :=
    fun r row rowKey title marks => attachProvenanceToEvidence_content _ _
  have hrows : ∀ (rows : List Dict) (f : Dict → Evidence),
      (∀ row, (f row).content = contentOf rt (Val.dict row).dumps) →
      (rows.map f).map Evidence.content =
        (rows.map (fun row => (Val.dict row).dumps)).map (contentOf rt) := by
    intro rows f hf
    rw [List.map_map, List.map_map]
    exact List.map_congr_left (fun row _ => hf row)
  unfold normalizeDbEvidence at h
  cases dbResult with
  | none =>
      cases h
      rfl
  | some r =>
      dsimp only at h
      split at h
      · rename_i hempty
        cases h
        unfold rawDbTexts
        dsimp only
        rw [hempty]
        exact congrArg (fun s => [s]) (attachProvenanceToEvidence_content _ _)
      · rename_i first rest hsplit
        unfold rawDbTexts
        dsimp only
        rw [hsplit] at h ⊢
        split_ifs at h
        · cases h
          exact hrows _ _ (fun row => hrow _ row _ _ _)
        · split at h
          · cases h
          · cases h
            exact hrows _ _ (fun row => hrow _ row _ _ _)

/-- The content of each piece of evidence is its text, cut and masked. -/
theorem normalizeToolResult_contents {toolName : String} {result : ToolPayload}
    {evidences : List Evidence}
    (h : normalizeToolResult rt tenantId query toolName result = .ok evidences) :
    evidences.map Evidence.content = (rawTexts rt toolName result).map (contentOf rt) := by
  unfold normalizeToolResult at h
  split at h
  · rename_i hname
    cases h
    unfold rawTexts
    rw [hname, normalizeRagEvidence, List.map_map, List.map_map]
    exact List.map_congr_left (fun doc _ => attachProvenanceToEvidence_content _ _)
  · rename_i hname
    unfold rawTexts
    rw [hname]
    exact normalizeDbEvidence_contents h
  · rename_i hname
    cases h
    unfold rawTexts
    rw [hname, normalizeWebEvidence, List.map_map, List.map_map]
    rfl
  · rename_i hname
    unfold rawTexts
    rw [hname]
    exact normalizeDbEvidence_contents h
  · rename_i hname
    cases h
    unfold rawTexts
    rw [hname, normalizeRestEvidence, List.map_map, List.map_map]
    rfl
  · rename_i r hname
    cases h
    unfold rawTexts
    rw [hname]
    unfold normalizeGraphEvidence rawGraphTexts
    cases r with
    | none => rfl
    | some r =>
        dsimp only
        split_ifs <;> rfl
  · cases h
    unfold rawTexts
    split <;> simp_all

/-- No telephone or identity number is left in a text, or in the content of the
    evidence a normaliser makes of a text within the limit, just when each of
    those in the text has no word character next to it. -/
theorem no_number_left_iff (hu : DigitsAreWord rt.unicode) :
    (∀ text, ¬ HoldsNumber (scrubSensitive rt text) ↔
      ¬ SomeFrom (AttachedAt rt) none text.toList) ∧
    ∀ tenantId query toolName result evidences,
      normalizeToolResult rt tenantId query toolName result = .ok evidences →
      List.Forall₂ (fun ev contentRaw => contentRaw.length ≤ 2000 →
        (¬ HoldsNumber ev.content ↔ ¬ SomeFrom (AttachedAt rt) none contentRaw.toList))
        evidences (rawTexts rt toolName result) := by
  refine ⟨fun text => not_congr (holdsNumber_scrubSensitive_iff hu text), ?_⟩
  intro tenantId query toolName result evidences h
  have hcontents : List.Forall₂ (fun ev contentRaw => ev.content = contentOf rt contentRaw)
      evidences (rawTexts rt toolName result) := by
    have heq := normalizeToolResult_contents h
    rw [← List.forall₂_eq_eq_eq, List.forall₂_map_left_iff, List.forall₂_map_right_iff] at heq
    exact heq
  refine hcontents.imp (fun ev contentRaw hcontent hshort => ?_)
  rw [hcontent, contentOf_of_short hshort]
  exact not_congr (holdsNumber_scrubSensitive_iff hu contentRaw)

/-- A classification that knows ASCII, the decimal digits and the ideographs. -/
def ideographRuntime : Runtime :=
  { (default : Runtime) with
    unicode := { (default : Unicode) with
      isAlnum := fun c => c.isAlphanum || isDecimal c ||
        decide (0x4E00 ≤ c.toNat ∧ c.toNat ≤ 0x9FFF) } }

theorem ideographRuntime_digitsAreWord : DigitsAreWord ideographRuntime.unicode where
  decimal := by
    intro c hc
    change (c.isAlphanum || isDecimal c || _) = true
    rw [hc, Bool.or_true, Bool.true_or]
  ending := by decide

theorem no_number_left_iff_phone :
    List.Forall₂ (fun ev contentRaw => contentRaw.length ≤ 2000 →
      (¬ HoldsNumber ev.content ↔
        ¬ SomeFrom (AttachedAt ideographRuntime) none contentRaw.toList))
      (normalizeRagEvidence ideographRuntime "t1" "q" [{ content := "电话 13800138000。" }])
      ["电话 13800138000。"] :=
  (no_number_left_iff ideographRuntime_digitsAreWord).2 "t1" "q" "rag_search"
    (.ragDocs [{ content := "电话 13800138000。" }]) _ rfl

/-- A number right behind an ideograph is left. -/
theorem number_left : HoldsNumber (scrubSensitive ideographRuntime "电话13800138000") := by
  rw [holdsNumber_scrubSensitive_iff ideographRuntime_digitsAreWord]
  exact ⟨"电话".toList, "13800138000".toList, rfl, ⟨by decide, by decide⟩, .inl (by decide)⟩

end Contents

end AgenticRag

import AgenticRag.Core.FactChecker

/-!
# Chinese Numerals

What the reader of Chinese numerals makes of the standard numeral of a number.
A number is written in sections of four digits. In a section each digit is
followed by its unit, zeros are left out, and one zero is written where digits
were left out between others. The section of ten thousands and that of hundred
millions end in a unit of their own.

The reader keeps the digits that have not met their unit. At the unit of a
section the last digit of the section is still there, and is lost; and where
no digit is there at all, the section counts as one more. Only a section that
ends in a zero and has a zero written in it is read as it is
(`section_closed`). The last section of a numeral has no such unit, and is
always read as it is.

## Main definitions

* `numeral`: The standard numeral of a number.
* `UnitsKept`: Both sections with a unit are read as they are.

## Theorems

* `section_closed`, `section_open`: Reading a section.
* `parseChineseInteger_numeral`: What is read of a numeral.
* `parseChineseNumber_numeral_iff`: When a numeral is read correctly.
-/

namespace AgenticRag

namespace FactChecker

open Py

section Writing

/-- The character for a digit. -/
def digitChar (d : Nat) : Char :=
  ("零一二三四五六七八九".toList[d]?).getD '零'

/-- Write digits with their units. Zeros are left out, and one is written
    before the next digit if something was written before them. -/
def places (started zero : Bool) : List (Nat × List Char) → List Char
  | [] => []
  | (d, unit) :: rest =>
      if d = 0 then places started (zero || started) rest
      else (if zero then ['零'] else []) ++ digitChar d :: (unit ++ places true false rest)

/-- A section of four digits. -/
def sectionNumeral (started zero : Bool) (s : Nat) : List Char :=
  places started zero
    [(s / 1000 % 10, ['千']), (s / 100 % 10, ['百']), (s / 10 % 10, ['十']), (s % 10, [])]

/-- A section with its own unit, if there is anything in it. -/
def closedSection (started zero : Bool) (unit : Char) (s : Nat) : List Char :=
  if s = 0 then [] else sectionNumeral started zero s ++ [unit]

/-- The hundred millions of a number, its ten thousands, and the rest. -/
def sectionsOf (n : Nat) : Nat × Nat × Nat :=
  (n / 10 ^ 8, n / 10 ^ 4 % 10 ^ 4, n % 10 ^ 4)

/-- The sections of a number, one after the other. A section of zeros between
    two others is read as a zero. -/
def sectionsNumeral (n : Nat) : List Char :=
  let (yi, wan, ge) := sectionsOf n
  closedSection false false '亿' yi ++ closedSection (yi ≠ 0) false '万' wan ++
    sectionNumeral (yi ≠ 0 ∨ wan ≠ 0) (yi ≠ 0 ∧ wan = 0) ge

/-- At the beginning ten is written without the one before it. -/
def shorten : List Char → List Char
  | '一' :: '十' :: rest => '十' :: rest
  | cs => cs

/-- The standard numeral of a number. -/
def numeral (n : Nat) : List Char :=
  if n = 0 then ['零'] else shorten (sectionsNumeral n)

end Writing

section Reading

theorem digitChar_lookup : ∀ d < 10, chineseDigits.lookup (digitChar d) = some (d : Int) := by
  decide

theorem digitChar_ne_zero : ∀ d < 10, d ≠ 0 → digitChar d ≠ '零' := by
  decide

/-- Read a digit. -/
theorem numeralStep_digit {d : Nat} (hd : d < 10) (st : NumeralState) :
    numeralStep st (digitChar d) = some { st with digits := (d : Int) :: st.digits } := by
  have hsmall : (d : Int) < 10 := by exact_mod_cast hd
  have hknown : ¬ (d : Int) = -1 := by omega
  unfold numeralStep
  rw [digitChar_lookup d hd]
  dsimp only
  rw [if_neg hknown, if_pos hsmall]

theorem numeralStep_zero (st : NumeralState) :
    numeralStep st '零' = some { st with digits := 0 :: st.digits } :=
  numeralStep_digit (d := 0) (by decide) st

/-- The units within a section. -/
def smallUnits : List (Char × Int) := [('千', 1000), ('百', 100), ('十', 10)]

/-- Read a unit behind its digit. -/
theorem numeralStep_unit {c : Char} {v : Int} (h : (c, v) ∈ smallUnits) (st : NumeralState)
    (d : Int) (rest : List Int) (hdigits : st.digits = d :: rest) :
    numeralStep st c = some { st with section_ := st.section_ + d * v, digits := rest } := by
  simp only [smallUnits, List.mem_cons, Prod.mk.injEq, List.not_mem_nil, or_false] at h
  rcases h with ⟨rfl, rfl⟩ | ⟨rfl, rfl⟩ | ⟨rfl, rfl⟩ <;>
    simp [numeralStep, chineseDigits, List.lookup_cons, hdigits]

/-- The digits of a section, as they are written. -/
def writtenPlaces (ps : List (Nat × Char × Int)) (last : Nat) : List (Nat × List Char) :=
  ps.map (fun p => (p.1, [p.2.1])) ++ [(last, [])]

/-- What is read of the zero before a digit. -/
def afterZero (zero : Bool) (st : NumeralState) : NumeralState :=
  { st with digits := (if zero then [0] else []) ++ st.digits }

theorem foldlM_zero (zero : Bool) (st : NumeralState) :
    (if zero then ['零'] else []).foldlM numeralStep st = some (afterZero zero st) := by
  cases zero with
  | false => rfl
  | true =>
    rw [if_pos rfl, List.foldlM_cons, numeralStep_zero]
    rfl

theorem afterZero_digits_zero {zero : Bool} {st : NumeralState} (h : ∀ x ∈ st.digits, x = 0) :
    ∀ x ∈ (afterZero zero st).digits, x = 0 := by
  intro x hx
  cases zero with
  | false => exact h x hx
  | true =>
    rcases List.mem_cons.1 hx with rfl | hx
    · rfl
    · exact h x hx

theorem afterZero_digits_eq_nil {zero : Bool} {st : NumeralState} :
    (afterZero zero st).digits = [] ↔ st.digits = [] ∧ zero = false := by
  cases zero <;> simp [afterZero]

theorem zero_mem_zero {zero : Bool} :
    '零' ∉ (if zero then ['零'] else [] : List Char) ↔ zero = false := by
  cases zero <;> simp

theorem places_cons_zero (started zero : Bool) (unit : List Char)
    (rest : List (Nat × List Char)) :
    places started zero ((0, unit) :: rest) = places started (zero || started) rest := by
  rw [places, if_pos rfl]

theorem places_cons_ne {d : Nat} (hd : d ≠ 0) (started zero : Bool) (unit : List Char)
    (rest : List (Nat × List Char)) :
    places started zero ((d, unit) :: rest) =
      (if zero then ['零'] else []) ++ digitChar d :: (unit ++ places true false rest) := by
  rw [places, if_neg hd]

theorem smallUnits_ne_zero {c : Char} {v : Int} (h : (c, v) ∈ smallUnits) : c ≠ '零' := by
  simp only [smallUnits, List.mem_cons, Prod.mk.injEq, List.not_mem_nil, or_false] at h
  rcases h with ⟨rfl, -⟩ | ⟨rfl, -⟩ | ⟨rfl, -⟩ <;> decide

/-- Reading the last digit of a section. -/
theorem foldlM_last {last : Nat} (hlast : last < 10) (started zero : Bool) (st : NumeralState) :
    (places started zero [(last, [])]).foldlM numeralStep st =
      some (if last = 0 then st else
        { afterZero zero st with digits := (last : Int) :: (afterZero zero st).digits }) := by
  by_cases h : last = 0
  · subst h
    rw [places_cons_zero, if_pos rfl]
    rfl
  · rw [places_cons_ne h, if_neg h, List.foldlM_append, foldlM_zero]
    dsimp only [Option.bind_eq_bind, Option.bind_some]
    rw [List.foldlM_cons, numeralStep_digit hlast]
    rfl

/-- Reading the digits of a section: those with a unit are added up, the last
    one is kept, and so is every zero that is written. -/
theorem foldlM_places {ps : List (Nat × Char × Int)}
    (hps : ∀ p ∈ ps, p.1 < 10 ∧ (p.2.1, p.2.2) ∈ smallUnits) {last : Nat} (hlast : last < 10)
    (started zero : Bool) (st : NumeralState) (hzeros : ∀ x ∈ st.digits, x = 0) :
    ∃ zeros : List Int, (∀ x ∈ zeros, x = 0) ∧
      (zeros = [] ↔ st.digits = [] ∧ '零' ∉ places started zero (writtenPlaces ps last)) ∧
      (places started zero (writtenPlaces ps last)).foldlM numeralStep st =
        some { st with
          section_ := st.section_ + (ps.map (fun p => (p.1 : Int) * p.2.2)).sum
          digits := (if last = 0 then [] else [(last : Int)]) ++ zeros } := by
  induction ps generalizing started zero st with
  | nil =>
    have hread := foldlM_last hlast started zero st
    -- Without a last digit what stands there before it is left.
    by_cases h : last = 0
    · refine ⟨st.digits, hzeros, ?_, ?_⟩
      · subst h
        change _ ↔ _ ∧ '零' ∉ places started zero [(0, [])]
        rw [places_cons_zero]
        simp [places]
      · change (places started zero [(last, [])]).foldlM numeralStep st = _
        rw [hread, if_pos h, if_pos h]
        simp
    · refine ⟨(afterZero zero st).digits, afterZero_digits_zero hzeros, ?_, ?_⟩
      · change _ ↔ _ ∧ '零' ∉ places started zero [(last, [])]
        rw [places_cons_ne h, afterZero_digits_eq_nil, List.mem_append, not_or, zero_mem_zero]
        have hchar := digitChar_ne_zero last hlast h
        simp [places, hchar.symm]
      · change (places started zero [(last, [])]).foldlM numeralStep st = _
        rw [hread, if_neg h, if_neg h]
        simp [afterZero]
  | cons p ps ih =>
    obtain ⟨⟨hd, hunit⟩, hps⟩ := List.forall_mem_cons.1 hps
    have hcut : writtenPlaces (p :: ps) last = (p.1, [p.2.1]) :: writtenPlaces ps last := rfl
    rw [hcut]
    by_cases h : p.1 = 0
    -- A place that is zero is not written, and is remembered for the next.
    · obtain ⟨zeros, hall, hnil, hread⟩ := ih hps started (zero || started) st hzeros
      refine ⟨zeros, hall, ?_, ?_⟩
      · rw [h, places_cons_zero]
        exact hnil
      · rw [h, places_cons_zero, hread]
        simp [h]
    · -- The unit takes the digit away, and the zero before it stays.
      have hunitRead := numeralStep_unit hunit
        { afterZero zero st with digits := (p.1 : Int) :: (afterZero zero st).digits }
        (p.1 : Int) (afterZero zero st).digits rfl
      obtain ⟨zeros, hall, hnil, hread⟩ := ih hps true false
        { afterZero zero st with section_ := st.section_ + p.1 * p.2.2 }
        (afterZero_digits_zero hzeros)
      refine ⟨zeros, hall, ?_, ?_⟩
      · rw [hnil, places_cons_ne h]
        dsimp only
        rw [afterZero_digits_eq_nil, List.mem_append, not_or, zero_mem_zero]
        have hchar := digitChar_ne_zero p.1 hd h
        have hunitChar := smallUnits_ne_zero hunit
        simp [hchar.symm, hunitChar.symm, and_assoc]
      · rw [places_cons_ne h, List.foldlM_append, foldlM_zero]
        dsimp only [Option.bind_eq_bind, Option.bind_some]
        rw [List.foldlM_cons, numeralStep_digit hd]
        dsimp only [Option.bind_eq_bind, Option.bind_some]
        rw [List.singleton_append, List.foldlM_cons, hunitRead]
        dsimp only [Option.bind_eq_bind, Option.bind_some]
        refine Eq.trans (b := some { afterZero zero st with
          section_ := st.section_ + p.1 * p.2.2 + (ps.map (fun p => (p.1 : Int) * p.2.2)).sum
          digits := (if last = 0 then [] else [(last : Int)]) ++ zeros }) ?_ ?_
        · exact hread
        · simp [afterZero, add_assoc]

/-- The places of a section with a unit. -/
def unitPlaces (s : Nat) : List (Nat × Char × Int) :=
  [(s / 1000 % 10, '千', 1000), (s / 100 % 10, '百', 100), (s / 10 % 10, '十', 10)]

theorem sectionNumeral_eq (started zero : Bool) (s : Nat) :
    sectionNumeral started zero s = places started zero (writtenPlaces (unitPlaces s) (s % 10)) :=
  rfl

/-- The digits of a section with a unit are added up, and the last digit is
    kept. -/
theorem foldlM_section {s : Nat} (hs : s < 10 ^ 4) (started zero : Bool) (t : Int) :
    ∃ zeros : List Int, (∀ x ∈ zeros, x = 0) ∧
      (zeros = [] ↔ '零' ∉ sectionNumeral started zero s) ∧
      (sectionNumeral started zero s).foldlM numeralStep ⟨t, 0, []⟩ =
        some ⟨t, ((s - s % 10 : Nat) : Int),
          (if s % 10 = 0 then [] else [((s % 10 : Nat) : Int)]) ++ zeros⟩ := by
  have hplaces : ∀ p ∈ unitPlaces s, p.1 < 10 ∧ (p.2.1, p.2.2) ∈ smallUnits := by
    have hdigit : ∀ k, k % 10 < 10 := fun k => Nat.mod_lt k (by decide)
    simp [unitPlaces, smallUnits, hdigit]
  have hlast : s % 10 < 10 := Nat.mod_lt s (by decide)
  obtain ⟨zeros, hall, hnil, hread⟩ :=
    foldlM_places hplaces hlast started zero ⟨t, 0, []⟩ (fun x hx => absurd hx List.not_mem_nil)
  have hsum : ((unitPlaces s).map (fun p => (p.1 : Int) * p.2.2)).sum =
      ((s - s % 10 : Nat) : Int) := by
    simp only [unitPlaces, List.map_cons, List.map_nil, List.sum_cons, List.sum_nil]
    omega
  refine ⟨zeros, hall, ?_, ?_⟩
  · rw [hnil, sectionNumeral_eq]
    exact and_iff_right rfl
  · rw [sectionNumeral_eq, hread, hsum, Int.zero_add]

/-- What is read of a section before its unit. The last digit is lost; and a
    section that leaves no digit behind counts as one more. -/
def keptPart (started : Bool) (s : Nat) : Nat :=
  if s = 0 then 0
  else if s % 10 = 0 ∧ '零' ∉ sectionNumeral started false s then s + 1
  else s - s % 10

/-- The units that close a section. -/
def largeUnits : List (Char × Int) := [('万', 10000), ('亿', 100000000)]

theorem numeralStep_largeUnit {c : Char} {v : Int} (h : (c, v) ∈ largeUnits) (st : NumeralState) :
    numeralStep st c = some ⟨st.total +
      (if st.digits = [] then st.section_ + 1 else st.section_) * v, 0, []⟩ := by
  simp only [largeUnits, List.mem_cons, Prod.mk.injEq, List.not_mem_nil, or_false] at h
  rcases h with ⟨rfl, rfl⟩ | ⟨rfl, rfl⟩ <;>
    simp [numeralStep, chineseDigits, List.lookup_cons, List.isEmpty_iff]

/-- Reading a section with its unit. -/
theorem section_closed {c : Char} {v : Int} (h : (c, v) ∈ largeUnits) {s : Nat} (hs : s < 10 ^ 4)
    (started : Bool) (t : Int) :
    (closedSection started false c s).foldlM numeralStep ⟨t, 0, []⟩ =
      some ⟨t + keptPart started s * v, 0, []⟩ := by
  by_cases hzero : s = 0
  · rw [closedSection, if_pos hzero, keptPart, if_pos hzero, Nat.cast_zero, Int.zero_mul,
      Int.add_zero]
    rfl
  · obtain ⟨zeros, -, hnil, hread⟩ := foldlM_section hs started false t
    rw [closedSection, if_neg hzero, List.foldlM_append, hread]
    dsimp only [Option.bind_eq_bind, Option.bind_some]
    rw [List.foldlM_cons, numeralStep_largeUnit h]
    dsimp only [Option.bind_eq_bind, Option.bind_some, List.foldlM_nil, Option.pure_def]
    have hdigits : ((if s % 10 = 0 then [] else [((s % 10 : Nat) : Int)]) ++ zeros = [] ↔
        s % 10 = 0 ∧ '零' ∉ sectionNumeral started false s) := by
      rw [List.append_eq_nil_iff, hnil]
      by_cases hlast : s % 10 = 0 <;> simp [hlast]
    rw [keptPart, if_neg hzero]
    by_cases hkept : s % 10 = 0 ∧ '零' ∉ sectionNumeral started false s
    · rw [if_pos (hdigits.2 hkept), if_pos hkept, hkept.1, Nat.sub_zero, Nat.cast_succ]
    · rw [if_neg (hdigits.not.2 hkept), if_neg hkept]

/-- Reading the last section, which has no unit. -/
theorem section_open {s : Nat} (hs : s < 10 ^ 4) (started zero : Bool) (t : Int) :
    ∃ st, (sectionNumeral started zero s).foldlM numeralStep ⟨t, 0, []⟩ = some st ∧
      st.total + st.section_ + st.digits.sum = t + s := by
  obtain ⟨zeros, hall, -, hread⟩ := foldlM_section hs started zero t
  have hzeros : zeros.sum = 0 := List.sum_eq_zero hall
  refine ⟨_, hread, ?_⟩
  dsimp only
  rw [List.sum_append, hzeros]
  split <;> simp <;> omega

theorem sectionsNumeral_eq (n : Nat) :
    sectionsNumeral n =
      closedSection false false '亿' (n / 10 ^ 8) ++
        closedSection (n / 10 ^ 8 ≠ 0) false '万' (n / 10 ^ 4 % 10 ^ 4) ++
      sectionNumeral (n / 10 ^ 8 ≠ 0 ∨ n / 10 ^ 4 % 10 ^ 4 ≠ 0)
        (n / 10 ^ 8 ≠ 0 ∧ n / 10 ^ 4 % 10 ^ 4 = 0) (n % 10 ^ 4) :=
  rfl

/-- What is read of the sections of a number. -/
def readNumber (n : Nat) : Nat :=
  keptPart false (n / 10 ^ 8) * 10 ^ 8 +
    keptPart (n / 10 ^ 8 ≠ 0) (n / 10 ^ 4 % 10 ^ 4) * 10 ^ 4 + n % 10 ^ 4

theorem foldlM_sections {n : Nat} (hn : n < 10 ^ 12) :
    ∃ st, (sectionsNumeral n).foldlM numeralStep {} = some st ∧
      st.total + st.section_ + st.digits.sum = readNumber n := by
  have hyi : n / 10 ^ 8 < 10 ^ 4 := by omega
  have hwan : n / 10 ^ 4 % 10 ^ 4 < 10 ^ 4 := Nat.mod_lt _ (by decide)
  have hge : n % 10 ^ 4 < 10 ^ 4 := Nat.mod_lt _ (by decide)
  -- The sections are read one after the other, each into the total of those before.
  have hreadYi := section_closed (c := '亿') (v := 100000000) (by decide) hyi false 0
  have hreadWan := section_closed (c := '万') (v := 10000) (by decide) hwan
    (n / 10 ^ 8 ≠ 0) (0 + keptPart false (n / 10 ^ 8) * 100000000)
  obtain ⟨st, hreadGe, hsum⟩ := section_open hge
    (n / 10 ^ 8 ≠ 0 ∨ n / 10 ^ 4 % 10 ^ 4 ≠ 0)
    (n / 10 ^ 8 ≠ 0 ∧ n / 10 ^ 4 % 10 ^ 4 = 0)
    (0 + keptPart false (n / 10 ^ 8) * 100000000 +
      keptPart (n / 10 ^ 8 ≠ 0) (n / 10 ^ 4 % 10 ^ 4) * 10000)
  refine ⟨st, ?_, ?_⟩
  · rw [sectionsNumeral_eq, List.foldlM_append, List.foldlM_append]
    have hstart : ({} : NumeralState) = ⟨0, 0, []⟩ := rfl
    rw [hstart, hreadYi]
    dsimp only [Option.bind_eq_bind, Option.bind_some]
    rw [hreadWan]
    dsimp only [Option.bind_eq_bind, Option.bind_some]
    exact hreadGe
  · rw [hsum, readNumber]
    push_cast
    ring

/-- Ten is read alike with and without the one before it. -/
theorem foldlM_shorten (cs : List Char) :
    (shorten cs).foldlM numeralStep {} = cs.foldlM numeralStep {} := by
  unfold shorten
  split
  · rfl
  · rfl

/-- What is read of a numeral. -/
theorem parseChineseInteger_numeral {n : Nat} (hn : n < 10 ^ 12) :
    parseChineseInteger (numeral n) = some (readNumber n : ℚ) := by
  by_cases hzero : n = 0
  · subst hzero
    rfl
  · obtain ⟨st, hread, hsum⟩ := foldlM_sections hn
    rw [parseChineseInteger, numeral, if_neg hzero, foldlM_shorten, hread, Option.map_some, hsum,
      Int.cast_natCast]

end Reading

section Correctness

/-- Whether a section with a unit is read as it is: it is empty, or it ends in
    a zero and has a zero written in it, either at its front or between its
    thousands and its tens. -/
def SectionKept (started : Bool) (s : Nat) : Prop :=
  s = 0 ∨ s % 10 = 0 ∧
    (s < 1000 ∧ started = true ∨ 1000 ≤ s ∧ s / 100 % 10 = 0 ∧ s / 10 % 10 ≠ 0)

/-- Whether both sections with a unit are read as they are. -/
def UnitsKept (n : Nat) : Prop :=
  SectionKept false (n / 10 ^ 8) ∧ SectionKept (n / 10 ^ 8 ≠ 0) (n / 10 ^ 4 % 10 ^ 4)

/-- Where the zeros of a section are written. -/
theorem zero_mem_sectionNumeral {s : Nat} (hs : s < 10 ^ 4) (hzero : s ≠ 0) (hlast : s % 10 = 0)
    (started : Bool) :
    '零' ∈ sectionNumeral started false s ↔
      s < 1000 ∧ started = true ∨ 1000 ≤ s ∧ s / 100 % 10 = 0 ∧ s / 10 % 10 ≠ 0 := by
  have hne : ∀ d, d ≠ 0 → d < 10 → '零' ≠ digitChar d :=
    fun d h hd => (digitChar_ne_zero d hd h).symm
  have hmod : ∀ k, k % 10 < 10 := fun k => Nat.mod_lt k (by decide)
  unfold sectionNumeral
  rw [hlast]
  by_cases hthousands : s / 1000 % 10 = 0 <;> by_cases hhundreds : s / 100 % 10 = 0 <;>
    by_cases htens : s / 10 % 10 = 0 <;> cases started <;>
    simp [places, hthousands, hhundreds, htens, hne _ _ (hmod _)] <;>
    omega

theorem keptPart_eq_iff {s : Nat} (hs : s < 10 ^ 4) (started : Bool) :
    keptPart started s = s ↔ SectionKept started s := by
  unfold keptPart SectionKept
  by_cases hzero : s = 0
  · simp [hzero]
  · rw [if_neg hzero, or_iff_right hzero]
    by_cases hlast : s % 10 = 0
    · refine Iff.trans ?_ (and_iff_right hlast).symm
      rw [← zero_mem_sectionNumeral hs hzero hlast started]
      by_cases hwritten : '零' ∈ sectionNumeral started false s
      · rw [if_neg (fun h => h.2 hwritten), hlast, Nat.sub_zero]
        exact iff_of_true rfl hwritten
      · rw [if_pos ⟨hlast, hwritten⟩]
        exact iff_of_false (Nat.succ_ne_self s) hwritten
    · rw [if_neg (fun h => hlast h.1)]
      exact iff_of_false (by omega) (fun h => hlast h.1)

/-- What is read of a section is off by less than ten, either way. -/
theorem keptPart_near (started : Bool) (s : Nat) :
    keptPart started s ≤ s + 1 ∧ s < keptPart started s + 10 := by
  unfold keptPart
  split
  · omega
  · split <;> omega

/-- A numeral is read correctly if its sections with a unit are. -/
theorem readNumber_eq_iff {n : Nat} (hn : n < 10 ^ 12) : readNumber n = n ↔ UnitsKept n := by
  have hyi : n / 10 ^ 8 < 10 ^ 4 := by omega
  have hwan : n / 10 ^ 4 % 10 ^ 4 < 10 ^ 4 := Nat.mod_lt _ (by decide)
  unfold UnitsKept readNumber
  rw [← keptPart_eq_iff hyi, ← keptPart_eq_iff hwan]
  have hnearYi := keptPart_near false (n / 10 ^ 8)
  have hnearWan := keptPart_near (n / 10 ^ 8 ≠ 0) (n / 10 ^ 4 % 10 ^ 4)
  -- The two parts are near enough to theirs that neither makes up for the other.
  generalize keptPart false (n / 10 ^ 8) = yi at *
  generalize keptPart (n / 10 ^ 8 ≠ 0) (n / 10 ^ 4 % 10 ^ 4) = wan at *
  omega

/-- The characters of numerals. -/
def numeralChars : List Char :=
  "零一二三四五六七八九十百千万亿".toList

theorem places_chars {ps : List (Nat × List Char)}
    (hps : ∀ p ∈ ps, p.1 < 10 ∧ ∀ c ∈ p.2, c ∈ numeralChars) (started zero : Bool) :
    ∀ c ∈ places started zero ps, c ∈ numeralChars := by
  have hdigit : ∀ d < 10, digitChar d ∈ numeralChars := by decide
  induction ps generalizing started zero with
  | nil => exact fun c hc => absurd hc List.not_mem_nil
  | cons p ps ih =>
    obtain ⟨⟨hd, hunit⟩, hps⟩ := List.forall_mem_cons.1 hps
    intro c hc
    unfold places at hc
    split at hc
    · exact ih hps _ _ c hc
    · rcases List.mem_append.1 hc with hc | hc
      · cases zero with
        | false => exact absurd hc List.not_mem_nil
        | true =>
          rw [List.mem_singleton.1 hc]
          decide
      · rcases List.mem_cons.1 hc with rfl | hc
        · exact hdigit _ hd
        · rcases List.mem_append.1 hc with hc | hc
          · exact hunit c hc
          · exact ih hps _ _ c hc

theorem sectionNumeral_chars (started zero : Bool) (s : Nat) :
    ∀ c ∈ sectionNumeral started zero s, c ∈ numeralChars := by
  have hmod : ∀ k, k % 10 < 10 := fun k => Nat.mod_lt k (by decide)
  have hunit : ∀ u ∈ ['千', '百', '十'], ∀ c ∈ [u], c ∈ numeralChars := by decide
  unfold sectionNumeral
  apply places_chars
  intro p hp
  simp only [List.mem_cons, List.not_mem_nil, or_false] at hp
  rcases hp with rfl | rfl | rfl | rfl
  · exact ⟨hmod _, hunit '千' (by decide)⟩
  · exact ⟨hmod _, hunit '百' (by decide)⟩
  · exact ⟨hmod _, hunit '十' (by decide)⟩
  · exact ⟨hmod _, fun c hc => absurd hc List.not_mem_nil⟩

theorem closedSection_chars {unit : Char} (hunit : unit ∈ numeralChars) (started zero : Bool)
    (s : Nat) : ∀ c ∈ closedSection started zero unit s, c ∈ numeralChars := by
  intro c hc
  unfold closedSection at hc
  split at hc
  · exact absurd hc List.not_mem_nil
  · rcases List.mem_append.1 hc with hc | hc
    · exact sectionNumeral_chars _ _ _ c hc
    · exact List.mem_singleton.1 hc ▸ hunit

theorem mem_of_mem_shorten {cs : List Char} {c : Char} (h : c ∈ shorten cs) : c ∈ cs := by
  unfold shorten at h
  split at h
  · exact List.mem_cons_of_mem _ h
  · exact h

theorem numeral_chars (n : Nat) : ∀ c ∈ numeral n, c ∈ numeralChars := by
  intro c hc
  unfold numeral at hc
  split at hc
  · rw [List.mem_singleton.1 hc]
    decide
  · have hyi : '亿' ∈ numeralChars := by decide
    have hwan : '万' ∈ numeralChars := by decide
    have hmem := mem_of_mem_shorten hc
    rw [sectionsNumeral_eq] at hmem
    rcases List.mem_append.1 hmem with hmem | hmem
    · rcases List.mem_append.1 hmem with hmem | hmem
      · exact closedSection_chars hyi _ _ _ c hmem
      · exact closedSection_chars hwan _ _ _ c hmem
    · exact sectionNumeral_chars _ _ _ c hmem

/-- A character of a numeral, or its point, is no space and no digit. -/
theorem not_space_of_numeralChars :
    ∀ c ∈ '点' :: numeralChars, isSpace c = false ∧ isDecimal c = false ∧ c ≠ ' ' := by
  decide

theorem filter_not_blank {cs : List Char} (h : ∀ c ∈ cs, c ∈ '点' :: numeralChars) :
    (strip (String.ofList cs)).toList.filter (· != ' ') = cs := by
  rw [strip_of_not_space (fun c hc => (not_space_of_numeralChars c (h c hc)).1),
    String.toList_ofList, List.filter_eq_self]
  intro c hc
  exact bne_iff_ne.2 (not_space_of_numeralChars c (h c hc)).2.2

theorem any_isDecimal {cs : List Char} (h : ∀ c ∈ cs, c ∈ '点' :: numeralChars) :
    cs.any isDecimal = false := by
  rw [List.any_eq_false]
  intro c hc
  exact Bool.not_eq_true _ ▸ (not_space_of_numeralChars c (h c hc)).2.1

theorem shorten_ne_nil {cs : List Char} (h : cs ≠ []) : shorten cs ≠ [] := by
  unfold shorten
  split
  · exact List.cons_ne_nil _ _
  · exact h

theorem places_eq_nil {ps : List (Nat × List Char)} {started zero : Bool}
    (h : places started zero ps = []) : ∀ p ∈ ps, p.1 = 0 := by
  induction ps generalizing started zero with
  | nil => exact fun p hp => absurd hp List.not_mem_nil
  | cons p ps ih =>
    unfold places at h
    split at h
    · rename_i hzero
      exact List.forall_mem_cons.2 ⟨hzero, ih h⟩
    · exact absurd (List.append_eq_nil_iff.1 h).2 (List.cons_ne_nil _ _)

theorem numeral_ne_nil (n : Nat) : numeral n ≠ [] := by
  unfold numeral
  split
  · exact List.cons_ne_nil _ _
  · rename_i hzero
    apply shorten_ne_nil
    intro hnil
    rw [sectionsNumeral_eq] at hnil
    obtain ⟨hclosed, hge⟩ := List.append_eq_nil_iff.1 hnil
    obtain ⟨hyi, hwan⟩ := List.append_eq_nil_iff.1 hclosed
    -- A number without characters has no section.
    have hempty : ∀ {started : Bool} {unit : Char} {s : Nat},
        closedSection started false unit s = [] → s = 0 := by
      intro started unit s h
      unfold closedSection at h
      split at h
      · assumption
      · exact absurd (List.append_eq_nil_iff.1 h).2 (List.cons_ne_nil _ _)
    have hdigits := places_eq_nil hge
    simp only [List.forall_mem_cons] at hdigits
    have hyi := hempty hyi
    have hwan := hempty hwan
    omega

/-- The value digits behind a point denote. -/
def decimalValue (ds : List Nat) : ℚ :=
  (ds.zipIdx.map (fun p => (p.1 : ℚ) / 10 ^ (p.2 + 1))).sum

theorem chineseFraction_digits {ds : List Nat} (hds : ∀ d ∈ ds, d < 10) :
    chineseFraction (ds.map digitChar) = decimalValue ds := by
  unfold chineseFraction decimalValue
  rw [List.zipIdx_map, List.map_map]
  congr 1
  refine List.map_congr_left (fun p hp => ?_)
  have hd : p.1 < 10 := hds p.1 (List.fst_mem_of_mem_zipIdx hp)
  have hlookup := digitChar_lookup p.1 hd
  simp [hlookup]

theorem point_not_mem_numeral (n : Nat) : '点' ∉ numeral n :=
  fun h => absurd (numeral_chars n _ h) (by decide)

theorem parseChineseNumber_whole {n : Nat} (hn : n < 10 ^ 12) :
    parseChineseNumber (String.ofList (numeral n)) = some (readNumber n : ℚ) := by
  have hchars : ∀ c ∈ numeral n, c ∈ '点' :: numeralChars :=
    fun c hc => List.mem_cons_of_mem _ (numeral_chars n c hc)
  unfold parseChineseNumber
  dsimp only
  rw [filter_not_blank hchars, any_isDecimal hchars,
    if_neg (by simpa [List.isEmpty_iff] using numeral_ne_nil n), if_neg Bool.false_ne_true,
    if_neg (point_not_mem_numeral n), parseChineseInteger_numeral hn]

theorem parseChineseNumber_point {n : Nat} (hn : n < 10 ^ 12) {ds : List Nat}
    (hds : ∀ d ∈ ds, d < 10) :
    parseChineseNumber (String.ofList (numeral n ++ '点' :: ds.map digitChar)) =
      some (readNumber n + decimalValue ds) := by
  have hchars : ∀ c ∈ numeral n, c ∈ '点' :: numeralChars :=
    fun c hc => List.mem_cons_of_mem _ (numeral_chars n c hc)
  have hdigit : ∀ d < 10, digitChar d ∈ '点' :: numeralChars := by decide
  have hall : ∀ c ∈ numeral n ++ '点' :: ds.map digitChar, c ∈ '点' :: numeralChars := by
    intro c hc
    rcases List.mem_append.1 hc with hc | hc
    · exact hchars c hc
    · rcases List.mem_cons.1 hc with rfl | hc
      · exact List.mem_cons_self
      · obtain ⟨d, hd, rfl⟩ := List.mem_map.1 hc
        exact hdigit d (hds d hd)
  -- The first point is the one behind the numeral.
  have hwhole : (numeral n ++ '点' :: ds.map digitChar).takeWhile (· != '点') = numeral n := by
    rw [List.takeWhile_append_of_pos (fun c hc => bne_iff_ne.2
      (ne_of_mem_of_not_mem hc (point_not_mem_numeral n)))]
    simp
  have hstripped : strip (String.ofList (numeral n)) = String.ofList (numeral n) :=
    strip_of_not_space (fun c hc => (not_space_of_numeralChars c (hchars c hc)).1)
  have hpoint : '点' ∈ numeral n ++ '点' :: ds.map digitChar :=
    List.mem_append_right _ List.mem_cons_self
  unfold parseChineseNumber
  dsimp only
  rw [filter_not_blank hall, any_isDecimal hall, if_neg (by simp), if_neg Bool.false_ne_true,
    if_pos hpoint, hwhole, filter_not_blank hchars, hstripped,
    if_neg (by simpa using numeral_ne_nil n), parseChineseInteger_numeral hn, Option.getD_some,
    List.drop_length_add_append, List.drop_succ_cons, List.drop_zero, chineseFraction_digits hds]

/-- Exactly the numerals whose sections with a unit are read as they are yield
    the number they write, alone and in front of a point and decimal digits. -/
theorem parseChineseNumber_numeral_iff (n : Nat) (hn : n < 10 ^ 12) :
    (parseChineseNumber (String.ofList (numeral n)) = some (n : ℚ) ↔ UnitsKept n) ∧
      ∀ ds : List Nat, (∀ d ∈ ds, d < 10) →
        (parseChineseNumber (String.ofList (numeral n ++ '点' :: ds.map digitChar)) =
          some (n + decimalValue ds) ↔ UnitsKept n) := by
  have hread : (readNumber n : ℚ) = n ↔ UnitsKept n := by
    rw [Nat.cast_inj, readNumber_eq_iff hn]
  constructor
  · rw [parseChineseNumber_whole hn, Option.some_inj, hread]
  · intro ds hds
    rw [parseChineseNumber_point hn hds, Option.some_inj, add_left_inj, hread]

/-- The numerals of fifteen, and of five thousand and ten times ten thousand,
    are read correctly. -/
theorem parseChineseNumber_numeral_iff_fifteen :
    parseChineseNumber "十五" = some 15 ∧ parseChineseNumber "十五点三" = some (15 + 3 / 10) ∧
      parseChineseNumber "五千零一十万" = some 50100000 := by
  have hkept : UnitsKept 15 := ⟨.inl rfl, .inl rfl⟩
  have hkeptUnit : UnitsKept 50100000 :=
    ⟨.inl rfl, .inr ⟨rfl, .inr ⟨by decide, rfl, by decide⟩⟩⟩
  have hfifteen := parseChineseNumber_numeral_iff 15 (by norm_num)
  have hunit := parseChineseNumber_numeral_iff 50100000 (by norm_num)
  refine ⟨?_, ?_, ?_⟩
  · exact_mod_cast hfifteen.1.2 hkept
  · have hpoint := (hfifteen.2 [3] (by decide)).2 hkept
    have hfraction : decimalValue [3] = 3 / 10 := by norm_num [decimalValue]
    rw [hfraction] at hpoint
    exact_mod_cast hpoint
  · exact_mod_cast hunit.1.2 hkeptUnit

/-- One hundred million, thirty million and fifteen times ten thousand are
    misread. -/
theorem not_parseChineseNumber_numeral :
    ¬ (∀ n < 10 ^ 12, parseChineseNumber (String.ofList (numeral n)) = some (n : ℚ)) ∧
      parseChineseNumber "一亿" = some 0 ∧ parseChineseNumber "三千万" = some 30010000 ∧
      parseChineseNumber "十五万" = some 100000 := by
  have hyi : parseChineseNumber "一亿" = some 0 := by decide
  refine ⟨fun h => ?_, hyi, by decide, by decide⟩
  have hread := h 100000000 (by norm_num)
  have htext : String.ofList (numeral 100000000) = "一亿" := by decide
  rw [htext, hyi] at hread
  exact absurd (Option.some_inj.1 hread) (by norm_num)

end Correctness

end FactChecker

end AgenticRag

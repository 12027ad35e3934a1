import AgenticRag.Core.FactChecker
import AgenticRag.Lib.RegexFirst

/-!
# Quantities

Numerals with a unit behind them, and what the patterns for other entities
find in them. A quantity has none of the words and signs of percentages,
currencies, quarters and names, and a sign of a range at its beginning at most.
So these patterns find nothing. A date is found only where four digits stand
before the point of the numeral, and it begins where they do.

## Main definitions

* `Numeral`: An Arabic decimal numeral.
* `Numeral.LooksLikeMonth`: Four digits, a point and more digits.

## Theorems

* `percent_silent`, `currency_silent`, `quarter_silent`, `properNoun_silent`,
  `range_silent`, `monthRange_silent`: The patterns that find nothing.
* `date_place`, `looksLikeMonth_of_date`: Where a date is found.
* `date_of_looksLikeMonth`: A numeral that looks like a month has a date at its
  beginning.
-/

namespace AgenticRag

namespace FactChecker

open Py

section Writing

/-- The Arabic digits. -/
def digits : List Char :=
  "0123456789".toList

/-- An Arabic decimal numeral: a sign, digits, which may be in groups of three
    from the right, and digits behind a point. -/
structure Numeral where
  sign : List Char
  whole : List Char
  groups : List (List Char)
  fraction : List Char
  sign_cases : sign = [] ∨ sign = ['+'] ∨ sign = ['-']
  whole_ne : whole ≠ []
  whole_digits : ∀ c ∈ whole, c ∈ digits
  groups_digits : ∀ g ∈ groups, g.length = 3 ∧ ∀ c ∈ g, c ∈ digits
  fraction_digits : ∀ c ∈ fraction, c ∈ digits
  whole_short : groups ≠ [] → whole.length ≤ 3

namespace Numeral

/-- The part before the point. -/
def grouped (d : Numeral) : List Char :=
  d.whole ++ d.groups.flatMap (',' :: ·)

/-- The point and the digits behind it, if there are any. -/
def point (d : Numeral) : List Char :=
  if d.fraction = [] then [] else '.' :: d.fraction

/-- The numeral as it is written. -/
def text (d : Numeral) : List Char :=
  d.sign ++ (d.grouped ++ d.point)

/-- The number the numeral denotes. -/
def value (d : Numeral) : ℚ :=
  (if d.sign = ['-'] then -1 else 1) *
    (intOfDigits (d.whole ++ d.groups.flatten) + intOfDigits d.fraction / 10 ^ d.fraction.length)

end Numeral

/-- The units that may follow a numeral. -/
inductive UnitSuffix where
  | bai
  | qian
  | wan
  | yi
  | baiWan
  | qianWan
  deriving DecidableEq

namespace UnitSuffix

/-- The unit as it is written. -/
def text : UnitSuffix → List Char
  | bai => ['百']
  | qian => ['千']
  | wan => ['万']
  | yi => ['亿']
  | baiWan => ['百', '万']
  | qianWan => ['千', '万']

/-- What the unit multiplies by. -/
def value : UnitSuffix → ℚ
  | bai => 100
  | qian => 1000
  | wan => 10000
  | yi => 100000000
  | baiWan => 1000000
  | qianWan => 10000000

end UnitSuffix

/-- A numeral with a unit behind it. -/
def quantity (d : Numeral) (unit : UnitSuffix) : String :=
  String.ofList (d.text ++ unit.text)

end Writing

section Characters

variable (d : Numeral) (unit : UnitSuffix)

/-- The signs. -/
def signChars : List Char :=
  "+-".toList

/-- The units. -/
def unitChars : List Char :=
  "百千万亿".toList

/-- The characters of numerals behind their sign. -/
def bodyChars : List Char :=
  "0123456789,.".toList

/-- The characters of quantities. -/
def quantityChars : List Char :=
  signChars ++ bodyChars ++ unitChars

/-- What a digit is and is not. -/
theorem digit_facts : ∀ c ∈ digits,
    c ∈ bodyChars ∧ c ∈ quantityChars ∧ c ∉ ['.', '-', '+', ','] ∧ c ∉ unitChars := by
  decide

theorem isDecimal_digit : ∀ c ∈ digits, isDecimal c = true := by
  decide

theorem digit_of_isDecimal : ∀ c ∈ quantityChars, isDecimal c = true → c ∈ digits := by
  decide

theorem isSpace_quantityChars : ∀ c ∈ quantityChars, isSpace c = false := by
  decide

theorem sign_facts : ∀ c ∈ signChars,
    c ∈ quantityChars ∧ c ∉ unitChars ∧ (c != ',') = true := by
  decide

theorem body_facts : ∀ c ∈ bodyChars, c ∈ quantityChars ∧ c ∉ unitChars ∧ c ∉ signChars := by
  decide

theorem unit_facts : ∀ c ∈ unitChars, c ∈ quantityChars ∧ c ∉ signChars ∧ (c != ',') = true := by
  decide

theorem digit_ne {c x : Char} (hc : c ∈ digits) (hx : x ∈ ['.', '-', '+', ',']) : c ≠ x :=
  fun h => (digit_facts c hc).2.2.1 (h ▸ hx)

theorem not_comma_of_digit {c : Char} (hc : c ∈ digits) : (c != ',') = true :=
  bne_iff_ne.mpr (digit_ne hc (by decide))

theorem Numeral.body_chars : ∀ c ∈ d.grouped ++ d.point, c ∈ bodyChars := by
  have hdigit : ∀ c ∈ digits, c ∈ bodyChars := fun c hc => (digit_facts c hc).1
  intro c hc
  rcases List.mem_append.mp hc with hc | hc
  · rcases List.mem_append.mp hc with hc | hc
    · exact hdigit c (d.whole_digits c hc)
    · rcases List.mem_flatMap.mp hc with ⟨g, hg, hc⟩
      rcases List.mem_cons.mp hc with rfl | hc
      · decide
      · exact hdigit c ((d.groups_digits g hg).2 c hc)
  · unfold Numeral.point at hc
    split at hc
    · cases hc
    · rcases List.mem_cons.mp hc with rfl | hc
      · decide
      · exact hdigit c (d.fraction_digits c hc)

theorem Numeral.sign_chars : ∀ c ∈ d.sign, c ∈ signChars := by
  rcases d.sign_cases with h | h | h <;> rw [h] <;> decide

theorem UnitSuffix.chars : ∀ c ∈ unit.text, c ∈ unitChars := by
  cases unit <;> decide

theorem UnitSuffix.text_tail {x : Char} {xs : List Char} (h : unit.text = x :: xs) :
    xs = [] ∨ xs = ['万'] := by
  cases unit <;> cases h <;> decide

theorem quantity_toList :
    (quantity d unit).toList = d.sign ++ (d.grouped ++ d.point) ++ unit.text :=
  String.toList_ofList

theorem quantity_chars : ∀ c ∈ (quantity d unit).toList, c ∈ quantityChars := by
  intro c hc
  rw [quantity_toList] at hc
  unfold quantityChars
  rcases List.mem_append.mp hc with hc | hc
  · rcases List.mem_append.mp hc with hc | hc
    · exact List.mem_append_left _ (List.mem_append_left _ (d.sign_chars c hc))
    · exact List.mem_append_left _ (List.mem_append_right _ (d.body_chars c hc))
  · exact List.mem_append_right _ (unit.chars c hc)

/-- Behind its first character a quantity has no sign. -/
theorem quantity_tail : ∀ c ∈ (quantity d unit).toList.tail, c ∉ signChars := by
  have hrest : ∀ c ∈ d.grouped ++ d.point ++ unit.text, c ∉ signChars := by
    intro c hc
    exact (List.mem_append.mp hc).elim (fun hc => (body_facts c (d.body_chars c hc)).2.2)
      (fun hc => (unit_facts c (unit.chars c hc)).2.1)
  rw [quantity_toList, List.append_assoc]
  rcases d.sign_cases with h | h | h <;> rw [h]
  · exact fun c hc => hrest c (List.mem_of_mem_tail hc)
  · exact hrest
  · exact hrest

end Characters

section Silence

variable (d : Numeral) (unit : UnitSuffix)

/-- The character is none of a quantity. -/
def isStranger (c : Char) : Bool :=
  decide (c ∉ quantityChars)

theorem isStranger_quantity : ∀ c ∈ (quantity d unit).toList, isStranger c = false :=
  fun c hc => decide_eq_false (not_not.mpr (quantity_chars d unit c hc))

theorem percent_silent : finditer percentPattern (quantity d unit) = [] := by
  refine finditer_eq_nil_of_demands (by decide) (q := isStranger) ?_
    (isStranger_quantity d unit)
  refine ⟨?_, ?_⟩
  · refine .inr (.inr (.inl ⟨?_, ?_, ?_, ?_⟩)) <;> exact demands_lit (by decide)
  · exact .inl (demands_lit (by decide))

theorem currency_silent : finditer currencyPattern (quantity d unit) = [] := by
  refine finditer_eq_nil_of_demands (by decide) (q := isStranger) ?_
    (isStranger_quantity d unit)
  refine ⟨?_, ?_⟩
  · refine .inl ⟨demands_oneOf (by decide), ?_, ?_, ?_⟩ <;> exact demands_lit (by decide)
  · refine .inr (.inr (.inl ⟨?_, ?_⟩)) <;> exact demands_lit (by decide)

theorem quarter_silent : finditer quarterPattern (quantity d unit) = [] := by
  refine finditer_eq_nil_of_demands (by decide) (q := isStranger) ?_
    (isStranger_quantity d unit)
  refine .inr (.inr (.inr (.inr (.inl ⟨?_, ?_⟩))))
  · exact .inl (demands_lit (by decide))
  · exact .inl (demands_oneOf (by decide))

theorem properNoun_silent : finditer properNounPattern (quantity d unit) = [] := by
  have hupper : ∀ c, isUpperLetter c = true → isStranger c = true := by
    have hnone : ∀ c ∈ quantityChars, isUpperLetter c = false := by decide
    intro c hc
    exact decide_eq_true (fun hmem => Bool.false_ne_true ((hnone c hmem).symm.trans hc))
  refine finditer_eq_nil_of_demands (by decide) (q := isStranger) ?_
    (isStranger_quantity d unit)
  refine ⟨?_, ?_⟩
  · exact .inl (.inl hupper)
  · refine .inr (.inl ⟨?_, ?_, ?_, ?_, ?_, ?_, ?_, ?_, ?_, ?_, ?_, ?_, ?_, ?_, ?_, ?_⟩) <;>
      exact demands_lit (by decide)

/-- A character that stands between the ends of a range. -/
def isRangeSign (c : Char) : Bool :=
  decide (c ∈ "-~到至～".toList)

theorem isRangeSign_tail : ∀ c ∈ (quantity d unit).toList.tail, isRangeSign c = false := by
  have hsign : ∀ c ∈ quantityChars, isRangeSign c = true → c ∈ signChars := by decide
  intro c hc
  refine Bool.eq_false_iff.mpr (fun hrange => quantity_tail d unit c hc ?_)
  exact hsign c (quantity_chars d unit c (List.mem_of_mem_tail hc)) hrange

theorem range_silent : finditer rangePattern (quantity d unit) = [] := by
  refine finditer_eq_nil_of_demands_tail (by decide) (by decide) (q := isRangeSign) ?_
    (isRangeSign_tail d unit)
  exact .inr (.inl (demands_oneOf (by decide)))

theorem monthRange_silent : finditer monthRangePattern (quantity d unit) = [] := by
  refine finditer_eq_nil_of_demands_tail (by decide) (by decide) (q := isRangeSign) ?_
    (isRangeSign_tail d unit)
  exact .inr (.inr (.inr (.inr (.inr (.inl (demands_oneOf (by decide)))))))

end Silence

section Dates

variable (d : Numeral) (unit : UnitSuffix)

/-- The numeral looks like a year and a month: four digits, with nothing
    before them, and a point. -/
def Numeral.LooksLikeMonth : Prop :=
  d.sign = [] ∧ d.whole.length = 4 ∧ d.groups = [] ∧ d.fraction ≠ []

theorem point_not_mem_front : '.' ∉ d.sign ++ d.grouped := by
  have hdigit : ∀ c ∈ digits, c ≠ '.' := fun c hc => digit_ne hc (by decide)
  intro hmem
  rcases List.mem_append.mp hmem with hmem | hmem
  · exact absurd (d.sign_chars _ hmem) (by decide)
  · rcases List.mem_append.mp hmem with hmem | hmem
    · exact hdigit _ (d.whole_digits _ hmem) rfl
    · rcases List.mem_flatMap.mp hmem with ⟨g, hg, hmem⟩
      rcases List.mem_cons.mp hmem with hmem | hmem
      · exact absurd hmem (by decide)
      · exact hdigit _ ((d.groups_digits g hg).2 _ hmem) rfl

/-- The only point of a quantity is that of its numeral. -/
theorem point_place {x z : List Char} (h : (quantity d unit).toList = x ++ '.' :: z) :
    d.fraction ≠ [] ∧ x = d.sign ++ d.grouped := by
  have hdigit : ∀ c ∈ digits, c ≠ '.' := fun c hc => digit_ne hc (by decide)
  have hback : '.' ∉ d.fraction ++ unit.text := by
    intro hmem
    rcases List.mem_append.mp hmem with hmem | hmem
    · exact hdigit _ (d.fraction_digits _ hmem) rfl
    · exact absurd (unit.chars _ hmem) (by decide)
  rw [quantity_toList, Numeral.point, ← List.append_assoc] at h
  split at h
  next hfraction =>
    have hmem : '.' ∈ d.sign ++ d.grouped ++ [] ++ unit.text :=
      h ▸ List.mem_append_right _ List.mem_cons_self
    rw [List.append_nil] at hmem
    rcases List.mem_append.mp hmem with hmem | hmem
    · exact absurd hmem (point_not_mem_front d)
    · exact absurd (unit.chars _ hmem) (by decide)
  next hfraction =>
    rw [List.append_assoc, List.cons_append,
      List.append_cons_inj_of_notMem (point_not_mem_front d) hback] at h
    exact ⟨hfraction, h.1.symm⟩

/-- A date of a quantity begins with four digits before the point. -/
theorem date_place {tail : Regex}
    (hadvances : (Regex.seq year (.seq spaces (.seq dateSep tail))).advances = true) {m : Match}
    (h : m ∈ finditer (.seq year (.seq spaces (.seq dateSep tail))) (quantity d unit)) :
    ∃ pre ys, m.start = pre.length ∧ ys.length = 4 ∧ (∀ c ∈ ys, isDecimal c = true) ∧
      pre ++ ys = d.sign ++ d.grouped ∧ d.fraction ≠ [] := by
  rcases reads_of_mem_finditer (productive_of_advances hadvances) h with
    ⟨pre, w, post, hsplit, hstart, -, ys, v, rfl, hyear, a, b, rfl, hspaces, s, e, rfl,
      ⟨x, rfl, hx⟩, -⟩
  rcases reads_rep_sat.mp hyear with ⟨hleast, hmost, hdigits⟩
  have hlength : ys.length = 4 := Nat.le_antisymm (hmost 4 rfl) hleast
  have hchars : ∀ c ∈ pre ++ (ys ++ (a ++ ([x] ++ e)) ++ post), c ∈ quantityChars := by
    rw [← hsplit]
    exact quantity_chars d unit
  -- There is no white space.
  have ha : a = [] := by
    refine List.eq_nil_iff_forall_not_mem.mpr (fun c hc => ?_)
    have hspace := (reads_rep_sat.mp hspaces).2.2 c hc
    have hmem : c ∈ quantityChars := hchars c (by simp [hc])
    exact Bool.false_ne_true ((isSpace_quantityChars c hmem).symm.trans hspace)
  subst ha
  have hcut : (quantity d unit).toList = (pre ++ ys) ++ x :: (e ++ post) := by
    rw [hsplit]
    simp
  have hne : pre ++ ys ≠ [] := fun hnil => by
    rw [(List.append_eq_nil_iff.mp hnil).2] at hlength
    cases hlength
  have hsep : ∀ c ∈ quantityChars, c ∉ signChars →
      (decide (c ∈ "-/年.".toList) || isSpace c) = true → c = '.' := by
    decide
  have hxtail : x ∈ (quantity d unit).toList.tail := by
    rw [hcut, List.tail_append_of_ne_nil hne]
    exact List.mem_append_right _ List.mem_cons_self
  have hxpoint : x = '.' :=
    hsep x (quantity_chars d unit x (List.mem_of_mem_tail hxtail))
      (quantity_tail d unit x hxtail) hx
  rw [hxpoint] at hcut
  rcases point_place d unit hcut with ⟨hfraction, hfront⟩
  exact ⟨pre, ys, hstart, hlength, hdigits, hfront, hfraction⟩

/-- A date at the beginning of a quantity is a year and a month. -/
theorem looksLikeMonth_of_date {pre ys : List Char} (hlength : ys.length = 4)
    (hdigits : ∀ c ∈ ys, isDecimal c = true) (hfront : pre ++ ys = d.sign ++ d.grouped)
    (hfraction : d.fraction ≠ []) :
    d.groups = [] ∧ (pre = [] → d.LooksLikeMonth) := by
  have hgroups : d.groups = [] := by
    by_contra hne
    -- The last group is three digits behind a comma.
    rcases List.eq_nil_or_concat' d.groups with hnil | ⟨gs, g, hgs⟩
    · exact hne hnil
    have hg := d.groups_digits g (by rw [hgs]; exact List.mem_append_right _ List.mem_cons_self)
    have hsplit : pre ++ ys = (d.sign ++ (d.whole ++ gs.flatMap (',' :: ·))) ++ (',' :: g) := by
      rw [hfront, Numeral.grouped, hgs, List.flatMap_append, List.flatMap_singleton]
      simp only [List.append_assoc]
    have hlast : ys = ',' :: g := (List.append_inj' hsplit (by
      rw [hlength, List.length_cons, hg.1])).2
    have hcomma := hdigits ',' (by rw [hlast]; exact List.mem_cons_self)
    exact absurd hcomma (by decide)
  refine ⟨hgroups, fun hpre => ?_⟩
  rw [hpre, List.nil_append, Numeral.grouped, hgroups, List.flatMap_nil, List.append_nil] at hfront
  have hsign : d.sign = [] := by
    rcases d.sign_cases with h | h | h
    · exact h
    · have hmem := hdigits '+' (by rw [hfront, h]; exact List.mem_cons_self)
      exact absurd hmem (by decide)
    · have hmem := hdigits '-' (by rw [hfront, h]; exact List.mem_cons_self)
      exact absurd hmem (by decide)
  rw [hsign, List.nil_append] at hfront
  exact ⟨hsign, hfront ▸ hlength, hgroups, hfraction⟩

/-- Such a numeral has a date at its beginning. -/
theorem date_of_looksLikeMonth (h : d.LooksLikeMonth) :
    ∃ e ∈ dateEntities yearMonthPattern (quantity d unit), e.type = .date ∧ e.span.1 = 0 := by
  rcases h with ⟨hsign, hlength, hgroups, hfraction⟩
  cases hcons : d.fraction with
  | nil => exact absurd hcons hfraction
  | cons f fs =>
      have hf : isDecimal f = true :=
        isDecimal_digit f (d.fraction_digits f (by rw [hcons]; exact List.mem_cons_self))
      have hsplit : (quantity d unit).toList = (d.whole ++ ['.', f]) ++ (fs ++ unit.text) := by
        rw [quantity_toList, hsign, Numeral.grouped, hgroups, Numeral.point, if_neg hfraction,
          hcons]
        simp
      have hspaces : ∀ before rest, spaces.Reads before [] rest := fun before rest =>
        reads_rep_sat.mpr ⟨Nat.le_refl 0, fun _ _ => Nat.zero_le _, fun _ hc => by cases hc⟩
      have hyear : year.Reads none d.whole (['.', f] ++ (fs ++ unit.text)) :=
        reads_rep_sat.mpr ⟨Nat.le_of_eq hlength.symm,
          fun m hm => Option.some.inj hm ▸ Nat.le_of_eq hlength,
          fun c hc => isDecimal_digit c (d.whole_digits c hc)⟩
      have hmonth : ∀ before rest, (monthOrDay "month").Reads before [f] rest := fun before rest =>
        reads_rep_sat.mpr ⟨Nat.le_refl 1, fun m hm => Option.some.inj hm ▸ Nat.le_succ 1,
          fun c hc => List.mem_singleton.mp hc ▸ hf⟩
      have hreads : yearMonthPattern.Reads none (d.whole ++ ['.', f]) (fs ++ unit.text) :=
        ⟨d.whole, ['.', f], rfl, hyear, [], ['.', f], rfl, hspaces _ _, ['.'], [f], rfl,
          ⟨'.', rfl, by decide⟩, [], [f], rfl, hspaces _ _, [f], [], rfl, hmonth _ _, [], [], rfl,
          hspaces _ _, [], [], rfl, reads_opt_nil _ _ _, rfl⟩
      rcases mem_finditer_of_reads (productive_of_advances (by decide)) hsplit
        (List.append_ne_nil_of_right_ne_nil _ (List.cons_ne_nil _ _)) hreads with
        ⟨m, hm, hstart, c, hc, hm'⟩
      have hcloses : yearMonthPattern.closes "year" = true := by decide
      rcases lookup_of_closes hcloses hc with ⟨year, hyear⟩
      have hint : groupInt m "year" = some (intOfDigits year.toList) := by
        rw [groupInt, Match.group, hm', hyear]
        rfl
      refine ⟨_, List.mem_filterMap.mpr ⟨m, hm, by rw [hint]; rfl⟩, rfl, hstart⟩

end Dates

end FactChecker

end AgenticRag

import AgenticRag.Theory.Overlaps
import AgenticRag.Theory.Quantities.Numbers

/-!
# Reading Quantities

When the number that is read out of a quantity is its value.

A numeral without commas is read with the first character of its unit. That is
the unit for a thousand, for ten thousand and for a hundred million. Of ten
million only the thousand is read, and a hundred is no unit the table knows. A
numeral with commas is read without any unit. A numeral of four digits and a
fraction is read as a year and a month, and then no number is left.

## Main definitions

* `ReadsQuantity`: One number is read, and it is the value of the quantity.
* `Readable`: The quantities this is so for.

## Theorems

* `extractEntities_single`: The number is the only entity.
* `readsQuantity_grouped_iff`: A numeral with commas.
* `quantity_read_iff`: When a quantity is read correctly, and that equal
  quantities do not contradict each other then.
-/

namespace AgenticRag

namespace FactChecker

open Py

section Extraction

variable (u : Unicode) (d : Numeral) (unit : UnitSuffix)

/-- What is read out of a quantity: dates, and a number. -/
theorem candidates_quantity : candidates u (quantity d unit) =
    dateEntities fullDatePattern (quantity d unit) ++
      dateEntities yearMonthPattern (quantity d unit) ++ numberEntities (quantity d unit) := by
  rw [candidates, monthRangeEntities, monthRange_silent, quarterEntities, quarter_silent,
    ratioEntities, percent_silent, currencyEntities, currency_silent, rangeEntities, range_silent,
    properNounEntities, properNoun_silent]
  simp only [List.filterMap_nil, List.append_nil, List.nil_append]

/-- A date in a quantity begins inside the numeral, and at its beginning only
    if the numeral looks like a month. -/
theorem dateEntities_place {tail : Regex}
    (hadvances : (Regex.seq year (.seq spaces (.seq dateSep tail))).advances = true) {e : Entity}
    (h : e ∈ dateEntities (.seq year (.seq spaces (.seq dateSep tail))) (quantity d unit)) :
    e.type = .date ∧ d.groups = [] ∧ e.span.1 < d.text.length ∧
      (e.span.1 = 0 → d.LooksLikeMonth) := by
  rcases List.mem_filterMap.mp h with ⟨m, hm, he⟩
  rcases Option.map_eq_some_iff.mp he with ⟨y, -, rfl⟩
  rcases date_place d unit hadvances hm with ⟨pre, ys, hstart, hlength, hdigits, hfront, hfraction⟩
  rcases looksLikeMonth_of_date d hlength hdigits hfront hfraction with ⟨hgroups, hmonth⟩
  refine ⟨rfl, hgroups, ?_, fun hzero => ?_⟩
  · have hcount := congrArg List.length hfront
    rw [List.length_append, List.length_append] at hcount
    show m.start < d.text.length
    rw [hstart, Numeral.text, List.length_append, List.length_append]
    omega
  · have hzero : m.start = 0 := hzero
    exact hmonth (List.length_eq_zero_iff.mp (hstart ▸ hzero))

/-- Each reading of a quantity is its number or such a date. -/
theorem mem_candidates_quantity {e : Entity} (h : e ∈ candidates u (quantity d unit)) :
    e ∈ numberEntities (quantity d unit) ∨ e.type = .date ∧ d.groups = [] ∧
      e.span.1 < d.text.length ∧ (e.span.1 = 0 → d.LooksLikeMonth) := by
  rw [candidates_quantity, List.mem_append, List.mem_append] at h
  rcases h with (h | h) | h
  · exact .inr (dateEntities_place d unit (by decide) h)
  · exact .inr (dateEntities_place d unit (by decide) h)
  · exact .inl h

variable {u d unit}

theorem mem_candidates_of_extracted {text : String} {e : Entity}
    (h : e ∈ extractEntities u text) : e ∈ candidates u text :=
  (mem_inOrder u).mp (mem_inOrder_of_extracted u h)

/-- Two entities of a text are apart. -/
theorem apart_of_extracted {text : String} {a b : Entity} (ha : a ∈ extractEntities u text)
    (hb : b ∈ extractEntities u text) (hne : a ≠ b) :
    a.span.2 ≤ b.span.1 ∨ b.span.2 ≤ a.span.1 := by
  have hsymm : Std.Symm (fun a b : Entity => a.span.2 ≤ b.span.1 ∨ b.span.2 ≤ a.span.1) :=
    ⟨fun _ _ h => h.symm⟩
  have hpairs : (extractEntities u text).Pairwise
      (fun a b => a.span.2 ≤ b.span.1 ∨ b.span.2 ≤ a.span.1) :=
    (extractEntities_apart u text).imp Or.inl
  exact hpairs.forall ha hb hne

/-- A number at the beginning of a quantity is its only entity, unless a date
    begins there too. -/
theorem extractEntities_single {e : Entity} (hnumber : numberEntities (quantity d unit) = [e])
    {n : Nat} (hspan : e.span = (0, n)) (hlong : d.groups = [] → d.text.length ≤ n)
    (hmonth : ¬ d.LooksLikeMonth) : extractEntities u (quantity d unit) = [e] := by
  have hcases : ∀ k ∈ candidates u (quantity d unit), k = e ∨ 0 < k.span.1 ∧ k.span.1 < n := by
    intro k hk
    rcases mem_candidates_quantity u d unit hk with hk | ⟨-, hgroups, hinside, hstart⟩
    · rw [hnumber] at hk
      exact .inl (List.mem_singleton.mp hk)
    · exact .inr ⟨Nat.pos_of_ne_zero (fun h => hmonth (hstart h)),
        Nat.lt_of_lt_of_le hinside (hlong hgroups)⟩
  have hmem : e ∈ candidates u (quantity d unit) := by
    rw [candidates_quantity, hnumber]
    exact List.mem_append_right _ List.mem_cons_self
  -- It comes first: what overlaps it starts behind it.
  have hkept : e ∈ extractEntities u (quantity d unit) := by
    rcases extracted_or_overlaps u _ hmem with hkept | ⟨k, hk, hprecedes, -⟩
    · exact hkept
    · rcases hcases k (mem_candidates_of_extracted hk) with rfl | ⟨hpos, -⟩
      · exact hk
      · unfold Precedes at hprecedes
        rw [hspan] at hprecedes
        omega
  -- And so nothing that overlaps it is kept beside it.
  have honly : ∀ k ∈ extractEntities u (quantity d unit), k = e := by
    intro k hk
    by_contra hne
    rcases hcases k (mem_candidates_of_extracted hk) with rfl | ⟨hpos, hlt⟩
    · exact hne rfl
    · have hapart := apart_of_extracted hk hkept hne
      have hlength := candidates_span u (mem_candidates_of_extracted hk)
      rw [hspan] at hapart
      dsimp only at hapart
      omega
  have hlength := candidates_span u hmem
  have hpairs := extractEntities_apart u (quantity d unit)
  revert hkept honly hpairs
  generalize extractEntities u (quantity d unit) = es
  intro hkept honly hpairs
  -- What is apart and always the same is there once.
  cases es with
  | nil => cases hkept
  | cons k rest =>
      have hk := honly k List.mem_cons_self
      rcases List.pairwise_cons.mp hpairs with ⟨hfirst, -⟩
      cases rest with
      | nil => rw [hk]
      | cons k' rest =>
          have hk' := honly k' (List.mem_cons_of_mem _ List.mem_cons_self)
          have hapart := hfirst k' List.mem_cons_self
          rw [hk, hk'] at hapart
          exact absurd hlength (Nat.not_lt.mpr hapart)

theorem numbers_mem {e : Entity} (h : e ∈ extractEntities u (quantity d unit))
    (htype : e.type = .number) : e ∈ numberEntities (quantity d unit) := by
  rcases mem_candidates_quantity u d unit (mem_candidates_of_extracted h) with h | ⟨hdate, -⟩
  · exact h
  · rw [htype] at hdate
    cases hdate

/-- A numeral that looks like a month has no number among its entities. -/
theorem no_number_of_looksLikeMonth (hmonth : d.LooksLikeMonth)
    (hnumbers : ∀ e ∈ numberEntities (quantity d unit), e.span.1 = 0) :
    ∀ e ∈ extractEntities u (quantity d unit), e.type ≠ .number := by
  intro e he htype
  rcases date_of_looksLikeMonth d unit hmonth with ⟨date, hdate, hdateType, hdateStart⟩
  have hmem : date ∈ candidates u (quantity d unit) := by
    rw [candidates_quantity]
    exact List.mem_append_left _ (List.mem_append_right _ hdate)
  -- A date is kept at the beginning.
  have hkept : ∃ k ∈ extractEntities u (quantity d unit), k.type = .date ∧ k.span.1 = 0 := by
    rcases extracted_or_overlaps u _ hmem with hkept | ⟨k, hk, hprecedes, -⟩
    · exact ⟨date, hkept, hdateType, hdateStart⟩
    · unfold Precedes at hprecedes
      rw [hdateType, hdateStart] at hprecedes
      rcases hprecedes with hbefore | ⟨hstart, hpriority⟩
      · exact absurd hbefore (Nat.not_lt_zero _)
      · refine ⟨k, hk, ?_, hstart⟩
        cases hk : k.type <;> rw [hk] at hpriority <;>
          first | rfl | exact absurd hpriority (by decide)
  rcases hkept with ⟨k, hk, hktype, hkstart⟩
  have hne : e ≠ k := fun h => by
    rw [h, hktype] at htype
    cases htype
  have hestart := hnumbers e (numbers_mem he htype)
  have hapart := apart_of_extracted he hk hne
  have helength := candidates_span u (mem_candidates_of_extracted he)
  have hklength := candidates_span u (mem_candidates_of_extracted hk)
  omega

end Extraction

section Reading

variable (u : Unicode) (d : Numeral) (unit : UnitSuffix)

/-- Exactly one number is read out of a quantity, and it is the value of the
    numeral times the unit. -/
def ReadsQuantity : Prop :=
  ∃ e, (extractEntities u (quantity d unit)).filter (fun e => e.type = .number) = [e] ∧
    e.normalized = normalizeNumber (d.value * unit.value)

/-- The unit is one that a number without commas takes, and no date is there;
    or else the value is zero and some number is read. -/
def Readable : Prop :=
  if d.groups = [] then
    ¬ d.LooksLikeMonth ∧
      (unit ∈ [UnitSuffix.qian, .wan, .yi] ∨ unit = .qianWan ∧ d.value = 0)
  else d.value = 0

variable {u d unit}

theorem normalizeNumber_inj {p q : ℚ} : normalizeNumber p = normalizeNumber q ↔ p = q :=
  ⟨fun h => (Normalized.number.inj h).1, fun h => h ▸ rfl⟩

/-- Where one number is the only entity, its value decides. -/
theorem readsQuantity_of_single {w : List Char} {q : ℚ} {span : Nat × Nat}
    (h : extractEntities u (quantity d unit) =
      [⟨.number, String.ofList w, normalizeNumber q, span⟩]) :
    ReadsQuantity u d unit ↔ q = d.value * unit.value := by
  unfold ReadsQuantity
  rw [h, List.filter_singleton]
  constructor
  · rintro ⟨e, he, hvalue⟩
    have hsame := (List.cons.inj he).1
    rw [← hsame] at hvalue
    exact normalizeNumber_inj.mp hvalue
  · exact fun hq => ⟨_, rfl, normalizeNumber_inj.mpr hq⟩

theorem not_readsQuantity (h : ∀ e ∈ extractEntities u (quantity d unit), e.type ≠ .number) :
    ¬ ReadsQuantity u d unit := by
  rintro ⟨e, he, -⟩
  have hmem : e ∈ (extractEntities u (quantity d unit)).filter (fun e => e.type = .number) := by
    rw [he]
    exact List.mem_cons_self
  rcases List.mem_filter.mp hmem with ⟨hmem, htype⟩
  exact h e hmem (of_decide_eq_true htype)

/-- Without commas the first character of the unit decides what the number
    is. -/
theorem extractEntities_plain (hgroups : d.groups = []) (hmonth : ¬ d.LooksLikeMonth) {x : Char}
    {xs : List Char} (hunit : unit.text = x :: xs) {v : ℚ}
    (hx : (x, v) ∈ [('千', (1000 : ℚ)), ('万', 10000), ('亿', 100000000)]) :
    extractEntities u (quantity d unit) =
      [⟨.number, String.ofList (d.text ++ [x]), normalizeNumber (d.value * v),
        (0, (d.text ++ [x]).length)⟩] := by
  have hnumber := numberEntities_plain d unit hgroups hunit
  rw [parseNumber_unit d hx] at hnumber
  refine extractEntities_single hnumber rfl (fun _ => ?_) hmonth
  rw [List.length_append]
  exact Nat.le_add_right _ _

/-- The unit is at least a hundred. -/
theorem UnitSuffix.hundred_le (unit : UnitSuffix) : 100 ≤ unit.value := by
  cases unit <;> norm_num [UnitSuffix.value]

/-- With commas the number is no greater than the value of the numeral, so it
    is the quantity only if that is zero. -/
theorem readsQuantity_grouped_iff (hgroups : d.groups ≠ []) :
    ReadsQuantity u d unit ↔ d.value = 0 := by
  rcases numberEntities_grouped d unit hgroups with ⟨w, q, hnumber, hle⟩
  have hsingle := extractEntities_single (u := u) hnumber rfl (fun h => absurd h hgroups)
    (fun hmonth => hgroups hmonth.2.2.1)
  rw [readsQuantity_of_single hsingle]
  have hunit := unit.hundred_le
  constructor
  · intro hq
    have hunitAbs : |unit.value| = unit.value := abs_of_nonneg (le_trans (by norm_num) hunit)
    rw [hq, abs_mul, hunitAbs] at hle
    have habs := abs_nonneg d.value
    have hzero : |d.value| = 0 := by nlinarith
    exact abs_eq_zero.mp hzero
  · intro hzero
    rw [hzero, abs_zero, abs_nonpos_iff] at hle
    rw [hle, hzero, zero_mul]

/-- Where a hundred is the first character of the unit nothing is read. -/
theorem not_readsQuantity_bai (hgroups : d.groups = []) {xs : List Char}
    (hunit : unit.text = '百' :: xs) : ¬ ReadsQuantity u d unit := by
  have hnumber := numberEntities_plain d unit hgroups hunit
  rw [parseNumber_bai] at hnumber
  refine not_readsQuantity (fun e he htype => ?_)
  have hmem := numbers_mem he htype
  rw [hnumber] at hmem
  cases hmem

theorem not_readsQuantity_of_looksLikeMonth (hmonth : d.LooksLikeMonth) :
    ¬ ReadsQuantity u d unit := by
  refine not_readsQuantity (no_number_of_looksLikeMonth hmonth (fun e he => ?_))
  cases hunit : unit.text with
  | nil => cases unit <;> cases hunit
  | cons x xs =>
      rw [numberEntities_plain d unit hmonth.2.2.1 hunit, Option.mem_toList] at he
      rcases Option.map_eq_some_iff.mp he with ⟨q, -, rfl⟩
      rfl

/-- Exactly the readable quantities are read correctly. -/
theorem readsQuantity_iff : ReadsQuantity u d unit ↔ Readable d unit := by
  unfold Readable
  by_cases hgroups : d.groups = []
  · rw [if_pos hgroups]
    by_cases hmonth : d.LooksLikeMonth
    · exact iff_of_false (not_readsQuantity_of_looksLikeMonth hmonth) (fun h => h.1 hmonth)
    rw [and_iff_right hmonth]
    cases unit with
    | bai =>
        refine iff_of_false (not_readsQuantity_bai hgroups rfl) ?_
        rintro (h | ⟨h, -⟩)
        · exact absurd h (by decide)
        · cases h
    | baiWan =>
        refine iff_of_false (not_readsQuantity_bai hgroups rfl) ?_
        rintro (h | ⟨h, -⟩)
        · exact absurd h (by decide)
        · cases h
    | qian =>
        rw [readsQuantity_of_single (extractEntities_plain hgroups hmonth rfl
          (v := 1000) (by decide))]
        exact iff_of_true rfl (.inl (by decide))
    | wan =>
        rw [readsQuantity_of_single (extractEntities_plain hgroups hmonth rfl
          (v := 10000) (by decide))]
        exact iff_of_true rfl (.inl (by decide))
    | yi =>
        rw [readsQuantity_of_single (extractEntities_plain hgroups hmonth rfl
          (v := 100000000) (by decide))]
        exact iff_of_true rfl (.inl (by decide))
    | qianWan =>
        -- Of ten million only the thousand is read.
        rw [readsQuantity_of_single (extractEntities_plain hgroups hmonth rfl
          (v := 1000) (by decide))]
        constructor
        · intro h
          have hvalue : d.value * 1000 = d.value * 10000000 := h
          exact .inr ⟨rfl, by linarith⟩
        · rintro (h | ⟨-, hzero⟩)
          · exact absurd h (by decide)
          · rw [hzero, zero_mul, zero_mul]
  · rw [if_neg hgroups]
    exact readsQuantity_grouped_iff hgroups

/-- The number of a quantity that is read correctly is its only entity. -/
theorem extractEntities_readable (h : Readable d unit) :
    ∃ e, extractEntities u (quantity d unit) = [e] ∧ e.type = .number ∧
      e.normalized = normalizeNumber (d.value * unit.value) := by
  have hreads := (readsQuantity_iff (u := u)).mpr h
  -- There is one entity, and the number is read, so the number is this entity.
  have hsingle : ∃ e, extractEntities u (quantity d unit) = [e] := by
    unfold Readable at h
    by_cases hgroups : d.groups = []
    · rw [if_pos hgroups] at h
      cases hunit : unit.text with
      | nil => cases unit <;> cases hunit
      | cons x xs =>
          have hnumber := numberEntities_plain d unit hgroups hunit
          cases hparse : parseNumber (String.ofList (d.text ++ [x])) with
          | none =>
              rw [hparse] at hnumber
              refine absurd hreads (not_readsQuantity (fun e he htype => ?_))
              have hmem := numbers_mem he htype
              rw [hnumber] at hmem
              cases hmem
          | some q =>
              rw [hparse] at hnumber
              refine ⟨_, extractEntities_single hnumber rfl (fun _ => ?_) h.1⟩
              rw [List.length_append]
              exact Nat.le_add_right _ _
    · rcases numberEntities_grouped d unit hgroups with ⟨w, q, hnumber, -⟩
      exact ⟨_, extractEntities_single hnumber rfl (fun h => absurd h hgroups)
        (fun hmonth => hgroups hmonth.2.2.1)⟩
  rcases hsingle with ⟨e, he⟩
  rcases hreads with ⟨k, hk, hvalue⟩
  rw [he, List.filter_singleton] at hk
  refine ⟨e, he, ?_⟩
  cases htype : decide (e.type = .number) with
  | false =>
      rw [htype] at hk
      cases hk
  | true =>
      rw [htype] at hk
      cases hk
      exact ⟨of_decide_eq_true htype, hvalue⟩

/-- Two readable quantities of the same value do not contradict each other. -/
theorem not_contradicted_of_readable (floatRepr : ℚ → String) {d' : Numeral} {unit' : UnitSuffix}
    (h : Readable d unit) (h' : Readable d' unit')
    (hvalue : d.value * unit.value = d'.value * unit'.value) :
    (ruleCheckFact u floatRepr (quantity d unit) [quantity d' unit']).ruleResult ≠
      "CONTRADICTED" := by
  rcases extractEntities_readable (u := u) h with ⟨e, he, htype, hnorm⟩
  rcases extractEntities_readable (u := u) h' with ⟨e', he', htype', hnorm'⟩
  rw [ne_eq, ruleResult_contradicted_iff]
  rintro ⟨ce, hce, found, hfound, hcontra⟩
  rw [he] at hce
  rw [List.mem_singleton.mp hce] at hfound hcontra
  rw [docEntities, List.flatMap_singleton, he'] at hfound
  -- The other quantity has nothing else to be compared with.
  have hmem : e' = found := by
    unfold findMatch at hfound
    rw [htype] at hfound
    simpa [htype', closest] using hfound
  rw [← hmem, isContradicted, htype, htype', if_neg (fun h => h rfl), hnorm, hnorm', hvalue]
    at hcontra
  simp [normalizeNumber, numberEqual] at hcontra

/-- The numeral 5. -/
def five : Numeral where
  sign := []
  whole := ['5']
  groups := []
  fraction := []
  sign_cases := .inl rfl
  whole_ne := by decide
  whole_digits := by decide
  groups_digits := by decide
  fraction_digits := by decide
  whole_short := by decide

/-- The numeral 0.5. -/
def half : Numeral :=
  { five with
    whole := ['0']
    fraction := ['5']
    whole_ne := by decide
    whole_digits := by decide
    fraction_digits := by decide
    whole_short := by decide }

end Reading

end FactChecker

end AgenticRag

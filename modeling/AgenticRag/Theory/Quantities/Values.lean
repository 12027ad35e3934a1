import AgenticRag.Theory.Quantities.Text

/-!
# The Values of Quantities

What `_parse_number` makes of a numeral, of a part of it, and of a numeral with
one character of a unit. Commas do not count, and a part of a numeral is no
greater than the whole. Of the characters of units the table knows all but the
hundred, so a numeral with a hundred behind it is not read at all.

## Main definitions

* `Numeral.integer`: The digits before the point, without their commas.
* `floatBehind`: The float of digits and a text behind them.

## Theorems

* `parseNumber_prefix`: A part of a numeral is no greater than the whole.
* `parseNumber_unit`: A numeral with a unit the table knows.
* `parseNumber_bai`: A numeral with a hundred behind it.
-/

namespace AgenticRag

namespace FactChecker

open Py Ordered

section Values

theorem foldl_digits (ds : List Char) (n : Nat) :
    ds.foldl (fun n c => 10 * n + (Py.decimalValue c).getD 0) n =
      n * 10 ^ ds.length + intOfDigits ds := by
  unfold intOfDigits
  induction ds generalizing n with
  | nil => rw [List.foldl_nil, List.foldl_nil, List.length_nil, pow_zero, mul_one, add_zero]
  | cons c ds ih =>
      rw [List.foldl_cons, List.foldl_cons, ih, ih (10 * 0 + _), List.length_cons]
      ring

theorem intOfDigits_append (xs ys : List Char) :
    intOfDigits (xs ++ ys) = intOfDigits xs * 10 ^ ys.length + intOfDigits ys := by
  rw [← foldl_digits, intOfDigits, List.foldl_append]
  rfl

/-- Further digits make a number no less. -/
theorem intOfDigits_le_append (xs ys : List Char) :
    intOfDigits xs ≤ intOfDigits (xs ++ ys) := by
  rw [intOfDigits_append]
  exact (Nat.le_mul_of_pos_right _ (Nat.pow_pos (by decide))).trans (Nat.le_add_right _ _)

/-- What a fraction of these digits adds. -/
def fractionValue (ds : List Char) : ℚ :=
  intOfDigits ds / 10 ^ ds.length

theorem fractionValue_nil : fractionValue [] = 0 := by
  norm_num [fractionValue, intOfDigits]

theorem fractionValue_nonneg (ds : List Char) : 0 ≤ fractionValue ds :=
  div_nonneg (Nat.cast_nonneg _) (pow_nonneg (by norm_num) _)

theorem fractionValue_le_append (xs ys : List Char) :
    fractionValue xs ≤ fractionValue (xs ++ ys) := by
  have hpos : ∀ n : Nat, (0 : ℚ) < 10 ^ n := fun n => pow_pos (by norm_num) n
  have hcast : ((intOfDigits xs * 10 ^ ys.length : Nat) : ℚ) ≤ (intOfDigits (xs ++ ys) : Nat) := by
    rw [intOfDigits_append]
    exact_mod_cast Nat.le_add_right _ _
  unfold fractionValue
  rw [div_le_div_iff₀ (hpos _) (hpos _), List.length_append, pow_add]
  push_cast at hcast
  calc (intOfDigits xs : ℚ) * (10 ^ xs.length * 10 ^ ys.length)
      = intOfDigits xs * 10 ^ ys.length * 10 ^ xs.length := by ring
    _ ≤ intOfDigits (xs ++ ys) * 10 ^ xs.length :=
        mul_le_mul_of_nonneg_right hcast (hpos _).le

/-- The sign as a factor. -/
def signValue (sign : List Char) : ℚ :=
  if sign = ['-'] then -1 else 1

theorem abs_signValue_mul (sign : List Char) {x : ℚ} (hx : 0 ≤ x) : |signValue sign * x| = x := by
  unfold signValue
  split
  · rw [neg_one_mul, abs_neg, abs_of_nonneg hx]
  · rw [one_mul, abs_of_nonneg hx]

variable (d : Numeral)

/-- The digits before the point, without their commas. -/
def Numeral.integer : List Char :=
  d.whole ++ d.groups.flatten

theorem Numeral.integer_digits : ∀ c ∈ d.integer, c ∈ digits := by
  intro c hc
  rcases List.mem_append.mp hc with hc | hc
  · exact d.whole_digits c hc
  · rcases List.mem_flatten.mp hc with ⟨g, hg, hc⟩
    exact (d.groups_digits g hg).2 c hc

theorem Numeral.value_eq :
    d.value = signValue d.sign * (intOfDigits d.integer + fractionValue d.fraction) :=
  rfl

theorem Numeral.abs_value : |d.value| = intOfDigits d.integer + fractionValue d.fraction := by
  rw [d.value_eq, abs_signValue_mul]
  exact add_nonneg (Nat.cast_nonneg _) (fractionValue_nonneg _)

/-- A numeral without white space is what it is stripped to. -/
theorem strip_quantityChars {cs : List Char} (h : ∀ c ∈ cs, c ∈ quantityChars) :
    strip (String.ofList cs) = String.ofList cs :=
  strip_of_not_space (fun c hc => isSpace_quantityChars c (h c hc))

/-- What the float of digits and a text behind them is. -/
def floatBehind (s : ℚ) (ws : List Char) : List Char → Option ℚ
  | [] => some (s * intOfDigits ws)
  | '.' :: ps => if ps.all isDecimal then some (s * (intOfDigits ws + fractionValue ps)) else none
  | _ :: _ => none

theorem floatOf_signed {ws tail : List Char} (hws : ws ≠ [])
    (hdigits : ∀ c ∈ ws, c ∈ digits) (htail : ∀ c ∈ tail, c ∈ quantityChars)
    (hend : (tail.head?.map isDecimal).getD false = false) :
    floatOf (String.ofList (d.sign ++ (ws ++ tail))) = floatBehind (signValue d.sign) ws tail := by
  have hchars : ∀ c ∈ d.sign ++ (ws ++ tail), c ∈ quantityChars := by
    intro c hc
    rcases List.mem_append.mp hc with hc | hc
    · exact (sign_facts c (d.sign_chars c hc)).1
    · exact (List.mem_append.mp hc).elim (fun hc => (digit_facts c (hdigits c hc)).2.1) (htail c)
  have htake : (ws ++ tail).takeWhile isDecimal = ws := by
    rw [List.takeWhile_append_of_pos (fun c hc => isDecimal_digit c (hdigits c hc))]
    cases tail with
    | nil => exact List.append_nil ws
    | cons x xs =>
        have hx : ¬ isDecimal x = true := Bool.eq_false_iff.mp hend
        rw [List.takeWhile_cons_of_neg hx, List.append_nil]
  -- A digit is no sign, so only a sign is cut off.
  have hhead : ∀ x, (ws ++ tail).head? = some x → x ≠ '-' ∧ x ≠ '+' := by
    intro x hx
    rw [List.head?_append_of_ne_nil _ hws] at hx
    have hmem := hdigits x (List.mem_of_head? hx)
    exact ⟨digit_ne hmem (by decide), digit_ne hmem (by decide)⟩
  have hsign : (if (d.sign ++ (ws ++ tail)).head? = some '-' then (-1 : ℚ) else 1) =
      signValue d.sign := by
    rcases d.sign_cases with h | h | h <;> rw [h]
    · rw [List.nil_append, if_neg (fun hx => (hhead _ hx).1 rfl)]
      rfl
    · rfl
    · rfl
  have hbody : (if (d.sign ++ (ws ++ tail)).head? = some '-' ∨
      (d.sign ++ (ws ++ tail)).head? = some '+' then (d.sign ++ (ws ++ tail)).drop 1
      else d.sign ++ (ws ++ tail)) = ws ++ tail := by
    rcases d.sign_cases with h | h | h <;> rw [h]
    · exact if_neg (fun hx => hx.elim (fun hx => (hhead _ hx).1 rfl) (fun hx => (hhead _ hx).2 rfl))
    · rfl
    · rfl
  have hne : ¬ ws.isEmpty = true := fun h => hws (List.isEmpty_iff.mp h)
  unfold floatOf
  rw [strip_quantityChars hchars, String.toList_ofList]
  dsimp only
  rw [hsign, hbody, htake, if_neg hne, List.drop_left]
  rfl

/-- The float of a sign, digits, and a point with further digits. -/
theorem floatOf_digits {ws ps : List Char} (hws : ws ≠ [])
    (hdigits : ∀ c ∈ ws, c ∈ digits) (hfraction : ∀ c ∈ ps, c ∈ digits)
    {tail : List Char} (htail : tail = [] ∧ ps = [] ∨ tail = '.' :: ps) :
    floatOf (String.ofList (d.sign ++ (ws ++ tail))) =
      some (signValue d.sign * (intOfDigits ws + fractionValue ps)) := by
  rcases htail with ⟨rfl, rfl⟩ | rfl
  · rw [floatOf_signed d hws hdigits (fun c hc => by cases hc) rfl, fractionValue_nil, add_zero]
    rfl
  · have hall : ps.all isDecimal = true :=
      List.all_eq_true.mpr (fun c hc => isDecimal_digit c (hfraction c hc))
    rw [floatOf_signed d hws hdigits (List.forall_mem_cons.mpr
      ⟨by decide, fun c hc => (digit_facts c (hfraction c hc)).2.1⟩)
      (show isDecimal '.' = false by decide)]
    exact if_pos hall

/-- Without their commas the digits of a numeral are in a row. -/
theorem filter_grouped : d.grouped.filter (· != ',') = d.integer := by
  have hdigits : ∀ ds : List Char, (∀ c ∈ ds, c ∈ digits) →
      ds.filter (· != ',') = ds :=
    fun ds hds => List.filter_eq_self.mpr (fun c hc => not_comma_of_digit (hds c hc))
  have hgroups : ∀ gs : List (List Char), (∀ g ∈ gs, g.length = 3 ∧ ∀ c ∈ g,
      c ∈ digits) → (gs.flatMap (',' :: ·)).filter (· != ',') = gs.flatten := by
    intro gs hgs
    induction gs with
    | nil => rfl
    | cons g gs ih =>
        rcases List.forall_mem_cons.mp hgs with ⟨⟨-, hg⟩, hgs⟩
        rw [List.flatMap_cons, List.filter_append, ih hgs, List.filter_cons_of_neg (by decide),
          hdigits g hg, List.flatten_cons]
  rw [Numeral.grouped, List.filter_append, hdigits _ d.whole_digits, hgroups _ d.groups_digits]
  rfl

/-- The units the table knows, longer ones first. -/
theorem sorted_units :
    sortDesc (fun kv : String × ℚ => kv.1.length) chineseNumberUnits =
      [("百万", 1000000), ("千万", 10000000), ("千", 1000), ("万", 10000), ("亿", 100000000)] := by
  decide

/-- A text that ends in none of the units is left as it is. -/
theorem stripUnit_none {cs : List Char}
    (h : ∀ kv ∈ chineseNumberUnits, ¬ kv.1.toList <:+ cs) :
    stripUnit (String.ofList cs) = (String.ofList cs, 1) := by
  have hfind : (sortDesc (fun kv : String × ℚ => kv.1.length) chineseNumberUnits).find?
      (fun kv => decide (kv.1.toList <:+ (String.ofList cs).toList)) = none := by
    rw [List.find?_eq_none]
    intro kv hkv hsuffix
    rw [decide_eq_true_eq, String.toList_ofList] at hsuffix
    exact h kv ((mem_sortDesc _).mp hkv) hsuffix
  unfold stripUnit
  dsimp only
  rw [hfind]

/-- One unit at the end of a text without units is cut off. -/
theorem stripUnit_unit {cs : List Char} (hcs : ∀ c ∈ cs, c ∉ unitChars) {x : Char} {v : ℚ}
    (hx : (x, v) ∈ [('千', (1000 : ℚ)), ('万', 10000), ('亿', 100000000)]) :
    stripUnit (String.ofList (cs ++ [x])) = (strip (String.ofList cs), v) := by
  -- The units of two characters need one more that the text does not have.
  have hpair : ∀ a ∈ unitChars, ∀ b, decide ([a, b] <:+ cs ++ [x]) = false := by
    intro a ha b
    refine decide_eq_false ?_
    rintro ⟨t, ht⟩
    rw [show t ++ [a, b] = (t ++ [a]) ++ [b] by simp] at ht
    have hcut := (List.append_inj' ht rfl).1
    exact hcs a (by rw [← hcut]; exact List.mem_append_right _ List.mem_cons_self) ha
  have hsingle : ∀ a, decide ([a] <:+ cs ++ [x]) = decide (a = x) := by
    intro a
    rw [decide_eq_decide]
    constructor
    · rintro ⟨t, ht⟩
      exact (List.cons.inj (List.append_inj' ht rfl).2).1
    · rintro rfl
      exact List.suffix_append cs [a]
  have hcut : ∀ name : String, name.length = 1 →
      take (String.ofList (cs ++ [x])) ((String.ofList (cs ++ [x])).length - name.length) =
        String.ofList cs := by
    intro name hname
    rw [take, String.length_ofList, hname, String.toList_ofList, List.length_append,
      List.length_singleton, Nat.add_sub_cancel, List.take_left]
  have hbaiWan : decide ("百万".toList <:+ cs ++ [x]) = false := hpair '百' (by decide) '万'
  have hqianWan : decide ("千万".toList <:+ cs ++ [x]) = false := hpair '千' (by decide) '万'
  have hqian : decide ("千".toList <:+ cs ++ [x]) = decide ('千' = x) := hsingle '千'
  have hwan : decide ("万".toList <:+ cs ++ [x]) = decide ('万' = x) := hsingle '万'
  have hyi : decide ("亿".toList <:+ cs ++ [x]) = decide ('亿' = x) := hsingle '亿'
  -- The longest unit at the end is found, and it is the last character.
  unfold stripUnit
  dsimp only
  rw [sorted_units, String.toList_ofList, List.find?_cons, hbaiWan, List.find?_cons, hqianWan,
    List.find?_cons, hqian, List.find?_cons, hwan, List.find?_cons, hyi]
  simp only [List.mem_cons, Prod.mk.injEq, List.not_mem_nil, or_false] at hx
  rcases hx with ⟨rfl, rfl⟩ | ⟨rfl, rfl⟩ | ⟨rfl, rfl⟩
  · exact Prod.ext (congrArg strip (hcut "千" rfl)) rfl
  · exact Prod.ext (congrArg strip (hcut "万" rfl)) rfl
  · exact Prod.ext (congrArg strip (hcut "亿" rfl)) rfl

theorem filter_point : d.point.filter (· != ',') = d.point := by
  refine List.filter_eq_self.mpr (fun c hc => ?_)
  unfold Numeral.point at hc
  split at hc
  · cases hc
  · rcases List.mem_cons.mp hc with rfl | hc
    · decide
    · exact not_comma_of_digit (d.fraction_digits c hc)

theorem Numeral.integer_ne_nil : d.integer ≠ [] :=
  List.append_ne_nil_of_left_ne_nil d.whole_ne _

/-- What is read of a number, from what is left without commas and without
    its unit. -/
theorem parseNumber_eq {cs rs : List Char} {v q : ℚ} (hchars : ∀ c ∈ cs, c ∈ quantityChars)
    (hne : cs.filter (· != ',') ≠ [])
    (hunit : stripUnit (String.ofList (cs.filter (· != ','))) = (String.ofList rs, v))
    (hfloat : floatOf (String.ofList rs) = some q) :
    parseNumber (String.ofList cs) = some (q * v) := by
  have hempty : ¬ (String.ofList (cs.filter (· != ','))).isEmpty = true := by
    rwa [String.isEmpty_iff, String.ofList_eq_empty_iff]
  unfold parseNumber
  rw [strip_quantityChars hchars, String.toList_ofList]
  dsimp only
  rw [if_neg hempty, hunit]
  dsimp only
  rw [hfloat]

theorem not_suffix_units {cs : List Char} (h : ∀ c ∈ cs, c ∉ unitChars) :
    ∀ kv ∈ chineseNumberUnits, ¬ kv.1.toList <:+ cs := by
  have hnames : ∀ kv ∈ chineseNumberUnits, ∃ c ∈ kv.1.toList, c ∈ unitChars := by
    decide
  intro kv hkv hsuffix
  rcases hnames kv hkv with ⟨c, hc, hunit⟩
  exact h c (hsuffix.subset hc) hunit

theorem signed_chars {b : List Char} (hb : ∀ c ∈ b, c ∈ bodyChars) :
    ∀ c ∈ d.sign ++ b, c ∈ quantityChars ∧ c ∉ unitChars := by
  intro c hc
  rcases List.mem_append.mp hc with hc | hc
  · have hsign := sign_facts c (d.sign_chars c hc)
    exact ⟨hsign.1, hsign.2.1⟩
  · have hbody := body_facts c (hb c hc)
    exact ⟨hbody.1, hbody.2.1⟩

theorem filter_sign (cs : List Char) :
    (d.sign ++ cs).filter (· != ',') = d.sign ++ cs.filter (· != ',') := by
  rw [List.filter_append, List.filter_eq_self.mpr
    (fun c hc => (sign_facts c (d.sign_chars c hc)).2.2)]

/-- The beginning of a numeral, from its first digit on, is read as a number
    that is no greater. -/
theorem parseNumber_prefix {b : List Char} (hb : b <+: d.grouped ++ d.point) (hne : b ≠ []) :
    ∃ q, parseNumber (String.ofList (d.sign ++ b)) = some q ∧ |q| ≤ |d.value| := by
  have hbody : ∀ c ∈ b, c ∈ bodyChars := fun c hc => d.body_chars c (hb.subset hc)
  have hchars := signed_chars d hbody
  have hfront : b.filter (· != ',') <+: d.integer ++ d.point := by
    rw [← filter_grouped, ← filter_point, ← List.filter_append]
    exact hb.filter _
  -- It begins with a digit.
  have hfirst : b.filter (· != ',') ≠ [] := by
    rcases hb with ⟨t, ht⟩
    cases b with
    | nil => exact absurd rfl hne
    | cons c b =>
        cases hwhole : d.whole with
        | nil => exact absurd hwhole d.whole_ne
        | cons x xs =>
            rw [Numeral.grouped, hwhole] at ht
            have hx : c ∈ d.whole := by
              rw [hwhole, (List.cons.inj ht).1]
              exact List.mem_cons_self
            rw [List.filter_cons_of_pos (p := (· != ','))
              (not_comma_of_digit (d.whole_digits c hx))]
            exact List.cons_ne_nil _ _
  have hread : ∀ q, floatOf (String.ofList (d.sign ++ b.filter (· != ','))) = some q →
      parseNumber (String.ofList (d.sign ++ b)) = some q := by
    intro q hq
    have hunits : ∀ c ∈ d.sign ++ b.filter (· != ','), c ∉ unitChars := by
      intro c hc
      rw [← filter_sign] at hc
      exact (hchars c (List.mem_of_mem_filter hc)).2
    have hparse := parseNumber_eq (v := 1) (fun c hc => (hchars c hc).1)
      (by rw [filter_sign]; exact List.append_ne_nil_of_right_ne_nil _ hfirst)
      (by rw [filter_sign]; exact stripUnit_none (not_suffix_units hunits)) hq
    rwa [mul_one] at hparse
  have hbound : ∀ ws ps : List Char, (∃ xs, d.integer = ws ++ xs) → (∃ ys, d.fraction = ps ++ ys) →
      |signValue d.sign * (intOfDigits ws + fractionValue ps)| ≤ |d.value| := by
    rintro ws ps ⟨xs, hxs⟩ ⟨ys, hys⟩
    rw [abs_signValue_mul _ (add_nonneg (Nat.cast_nonneg _) (fractionValue_nonneg _)), d.abs_value,
      hxs, hys]
    exact add_le_add (Nat.cast_le.mpr (intOfDigits_le_append ws xs)) (fractionValue_le_append ps ys)
  rcases hfront with ⟨t, ht⟩
  rcases List.append_eq_append_iff.mp ht with ⟨xs, hinteger, -⟩ | ⟨bs, hcut, hpoint⟩
  · -- It ends before the point.
    have hdigits : ∀ c ∈ b.filter (· != ','), c ∈ digits := fun c hc =>
      d.integer_digits c (by rw [hinteger]; exact List.mem_append_left _ hc)
    have hnone : ∀ c ∈ ([] : List Char), c ∈ digits := fun c hc => absurd hc List.not_mem_nil
    have hfloat := floatOf_digits d hfirst hdigits hnone (.inl ⟨rfl, rfl⟩)
    rw [List.append_nil] at hfloat
    exact ⟨_, hread _ hfloat, hbound _ _ ⟨xs, hinteger⟩ ⟨d.fraction, rfl⟩⟩
  · have hfloat : ∃ ps, (∃ ys, d.fraction = ps ++ ys) ∧ (bs = [] ∧ ps = [] ∨ bs = '.' :: ps) := by
      cases bs with
      | nil => exact ⟨[], ⟨d.fraction, rfl⟩, .inl ⟨rfl, rfl⟩⟩
      | cons x ps =>
          unfold Numeral.point at hpoint
          split at hpoint
          · cases hpoint
          · rcases List.cons.inj hpoint with ⟨rfl, hfraction⟩
            exact ⟨ps, ⟨t, hfraction⟩, .inr rfl⟩
    rcases hfloat with ⟨ps, ⟨ys, hys⟩, htail⟩
    have hps : ∀ c ∈ ps, c ∈ digits := fun c hc =>
      d.fraction_digits c (by rw [hys]; exact List.mem_append_left _ hc)
    have hfloat := floatOf_digits d d.integer_ne_nil d.integer_digits hps htail
    rw [← hcut] at hfloat
    exact ⟨_, hread _ hfloat, hbound _ _ ⟨[], (List.append_nil _).symm⟩ ⟨ys, hys⟩⟩

theorem filter_text (x : Char) (hx : (x != ',') = true) :
    (d.text ++ [x]).filter (· != ',') = d.sign ++ (d.integer ++ d.point) ++ [x] := by
  rw [Numeral.text, List.filter_append, filter_sign, List.filter_append, filter_grouped,
    filter_point, List.filter_cons_of_pos (p := (· != ',')) hx]
  rfl

theorem text_chars : ∀ c ∈ d.text, c ∈ quantityChars ∧ c ∉ unitChars :=
  signed_chars d d.body_chars

theorem plain_chars :
    ∀ c ∈ d.sign ++ (d.integer ++ d.point), c ∈ quantityChars ∧ c ∉ unitChars := by
  intro c hc
  rw [← filter_grouped, ← filter_point, ← List.filter_append, ← filter_sign] at hc
  exact text_chars d c (List.mem_of_mem_filter hc)

/-- A numeral with one of the units the pattern takes. -/
theorem parseNumber_unit {x : Char} {v : ℚ}
    (hx : (x, v) ∈ [('千', (1000 : ℚ)), ('万', 10000), ('亿', 100000000)]) :
    parseNumber (String.ofList (d.text ++ [x])) = some (d.value * v) := by
  have hunits : ∀ p ∈ [('千', (1000 : ℚ)), ('万', 10000), ('亿', 100000000)],
      p.1 ∈ quantityChars ∧ (p.1 != ',') = true := by
    decide
  rcases hunits _ hx with ⟨hquantity, hcomma⟩
  have hchars : ∀ c ∈ d.text ++ [x], c ∈ quantityChars := by
    intro c hc
    rcases List.mem_append.mp hc with hc | hc
    · exact (text_chars d c hc).1
    · rw [List.mem_singleton.mp hc]
      exact hquantity
  -- There is a point only where there are digits behind it.
  have htail : d.point = [] ∧ d.fraction = [] ∨ d.point = '.' :: d.fraction := by
    unfold Numeral.point
    split
    next hfraction => exact .inl ⟨rfl, hfraction⟩
    · exact .inr rfl
  refine parseNumber_eq hchars ?_ ?_
    (floatOf_digits d d.integer_ne_nil d.integer_digits d.fraction_digits htail)
  · rw [filter_text d x hcomma]
    exact List.append_ne_nil_of_right_ne_nil _ (List.cons_ne_nil _ _)
  · rw [filter_text d x hcomma, stripUnit_unit (fun c hc => (plain_chars d c hc).2) hx,
      strip_quantityChars (fun c hc => (plain_chars d c hc).1)]

theorem not_suffix_bai (cs : List Char) :
    ∀ kv ∈ chineseNumberUnits, ¬ kv.1.toList <:+ cs ++ ['百'] := by
  have hnames : ∀ kv ∈ chineseNumberUnits, ∃ x, kv.1.toList.getLast? = some x ∧ x ≠ '百' := by
    intro kv hkv
    simp only [chineseNumberUnits, List.mem_cons, List.not_mem_nil, or_false] at hkv
    rcases hkv with rfl | rfl | rfl | rfl | rfl
    · exact ⟨'千', rfl, by decide⟩
    · exact ⟨'万', rfl, by decide⟩
    · exact ⟨'亿', rfl, by decide⟩
    · exact ⟨'万', rfl, by decide⟩
    · exact ⟨'万', rfl, by decide⟩
  rintro kv hkv ⟨t, ht⟩
  rcases hnames kv hkv with ⟨x, hx, hne⟩
  have hlast := congrArg List.getLast? ht
  rw [List.getLast?_append, hx, List.getLast?_concat] at hlast
  exact hne (Option.some.inj hlast)

/-- A text with a digit in it is no Chinese numeral. -/
theorem parseChineseNumber_of_digit {cs : List Char} (hchars : ∀ c ∈ cs, c ∈ quantityChars)
    {x : Char} (hx : x ∈ cs) (hdigit : isDecimal x = true) :
    parseChineseNumber (String.ofList cs) = none := by
  have hblank : ∀ c ∈ quantityChars, (c != ' ') = true := by decide
  have hfilter : cs.filter (· != ' ') = cs :=
    List.filter_eq_self.mpr (fun c hc => hblank c (hchars c hc))
  have hany : cs.any isDecimal = true := List.any_eq_true.mpr ⟨x, hx, hdigit⟩
  have hne : ¬ cs.isEmpty = true := fun h => by
    rw [List.isEmpty_iff.mp h] at hx
    cases hx
  unfold parseChineseNumber
  rw [strip_quantityChars hchars, String.toList_ofList, hfilter]
  dsimp only
  rw [if_neg hne, if_pos hany]

/-- The table does not know the unit hundred. -/
theorem parseNumber_bai : parseNumber (String.ofList (d.text ++ ['百'])) = none := by
  have hbai : '百' ∈ quantityChars := by decide
  have hchars : ∀ c ∈ d.text ++ ['百'], c ∈ quantityChars := by
    intro c hc
    rcases List.mem_append.mp hc with hc | hc
    · exact (text_chars d c hc).1
    · rw [List.mem_singleton.mp hc]
      exact hbai
  have hplain : ∀ c ∈ d.sign ++ (d.integer ++ d.point) ++ ['百'], c ∈ quantityChars := by
    intro c hc
    rcases List.mem_append.mp hc with hc | hc
    · exact (plain_chars d c hc).1
    · rw [List.mem_singleton.mp hc]
      exact hbai
  have hne : ¬ (String.ofList (d.sign ++ (d.integer ++ d.point) ++ ['百'])).isEmpty = true := by
    rw [String.isEmpty_iff, String.ofList_eq_empty_iff]
    exact List.append_ne_nil_of_right_ne_nil _ (List.cons_ne_nil _ _)
  -- The unit stays where it is, and what it stands behind is then no float.
  have hfloat : floatOf (String.ofList (d.sign ++ (d.integer ++ d.point) ++ ['百'])) = none := by
    have htail : ∀ c ∈ d.point ++ ['百'], c ∈ quantityChars := fun c hc =>
      hplain c (by simpa [or_assoc] using .inr (.inr (by simpa using hc)))
    rw [List.append_assoc, List.append_assoc]
    unfold Numeral.point at htail ⊢
    split
    next hfraction =>
      rw [if_pos hfraction] at htail
      rw [floatOf_signed d d.integer_ne_nil d.integer_digits htail (by decide)]
      rfl
    next hfraction =>
      rw [if_neg hfraction] at htail
      rw [floatOf_signed d d.integer_ne_nil d.integer_digits htail
        (show isDecimal '.' = false by decide)]
      refine if_neg (fun hall => ?_)
      have hunit := List.all_eq_true.mp hall '百' (List.mem_append_right _ List.mem_cons_self)
      exact absurd hunit (by decide)
  cases hwhole : d.whole with
  | nil => exact absurd hwhole d.whole_ne
  | cons x xs =>
      have hx : x ∈ d.whole := by
        rw [hwhole]
        exact List.mem_cons_self
      have hchinese := parseChineseNumber_of_digit hplain
        (List.mem_append_left _ (List.mem_append_right _ (List.mem_append_left _
          (List.mem_append_left _ hx)))) (isDecimal_digit x (d.whole_digits x hx))
      unfold parseNumber
      rw [strip_quantityChars hchars, String.toList_ofList, filter_text d '百' (by decide)]
      dsimp only
      rw [if_neg hne, stripUnit_none (not_suffix_bai _)]
      dsimp only
      rw [hfloat, hchinese]
      rfl

end Values

end FactChecker

end AgenticRag

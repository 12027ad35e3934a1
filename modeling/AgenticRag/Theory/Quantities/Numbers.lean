import AgenticRag.Theory.Quantities.Values

/-!
# The Numbers in Quantities

What the pattern for numbers finds in a quantity: one number, at its
beginning. The pattern has two forms, digits in groups of three and digits in a
row, and only the second takes a unit, of which it takes one character. So a
numeral without commas is found with the first character of its unit
(`numberEntities_plain`), and of a numeral with commas a part is found without
a unit (`numberEntities_grouped`).

## Main definitions

* `token`, `follow`: The number the pattern looks for, and what may not follow.

## Theorems

* `first_token`: The first way to read a numeral without commas.
* `prefix_of_token`: The ways to read a numeral with commas.
* `numberEntities_plain`, `numberEntities_grouped`: The number that is found.
-/

namespace AgenticRag

namespace FactChecker

open Py

section Numbers

variable (d : Numeral) (unit : UnitSuffix)

/-- The number that the pattern looks for. -/
def token : Regex :=
  .alt groupedNumber (seqs [plainNumber, opt (seqs [spaces, oneOf "百千万亿"])])

/-- What may not follow the number. -/
def follow : Regex :=
  seqs [spaces, alts digit [oneOf "元%百分之百", lit "年"]]

/-- Where a number may begin, the pattern reads the token and looks ahead. -/
theorem number_runs {cs : List Char} (hspace : (cs.head?.map isSpace).getD false = false) :
    numberPattern.runs ⟨0, none, cs, []⟩ =
      ((token.runs ⟨0, none, cs, []⟩).map (fun c =>
        { c with groups := ("num", String.ofList (cs.take (c.pos - 0))) :: c.groups })).flatMap
        (fun c => ((Regex.notAhead follow).runs c).flatMap Regex.eps.runs) := by
  have hspaces : spaces.runs ⟨0, none, cs, []⟩ = [⟨0, none, cs, []⟩] := by
    rw [spaces, Regex.runs, repeatRuns, stuck_sat hspace]
    rfl
  have hbehind : ∀ p, (Regex.notBehind p).runs ⟨0, none, cs, []⟩ = [⟨0, none, cs, []⟩] :=
    fun _ => rfl
  rw [numberPattern, seqs, List.foldr_cons, List.foldr_cons, Regex.runs, hbehind,
    List.flatMap_singleton, Regex.runs, hspaces, List.flatMap_singleton]
  rfl

/-- The number that was read. -/
theorem group_of_number_runs {cs : List Char}
    (hspace : (cs.head?.map isSpace).getD false = false) {c : Cursor}
    (h : c ∈ numberPattern.runs ⟨0, none, cs, []⟩) :
    ∃ w rest, cs = w ++ rest ∧ token.Reads none w rest ∧ c.pos = w.length ∧
      c.groups.lookup "num" = some (String.ofList w) := by
  rw [number_runs hspace] at h
  -- The token, what may not follow it, and the end.
  rcases List.mem_flatMap.mp h with ⟨c₁, hc₁, hafter⟩
  rcases List.mem_flatMap.mp hafter with ⟨c₂, hc₂, hend⟩
  rcases List.mem_map.mp hc₁ with ⟨c₀, hc₀, rfl⟩
  rw [Regex.runs] at hc₂
  split at hc₂
  · rw [List.mem_singleton] at hc₂
    rw [List.mem_singleton.mp hend, hc₂]
    rcases (agrees token (productive_of_advances (by decide))).sound _ _ hc₀ with
      ⟨w, hahead, hreads⟩
    have hcs : cs = w ++ c₀.rest := hahead.rest
    have hpos : c₀.pos = 0 + w.length := hahead.pos
    refine ⟨w, c₀.rest, hcs, hreads, hpos.trans (Nat.zero_add _), ?_⟩
    dsimp only
    rw [List.lookup_cons, beq_self_eq_true, hpos, Nat.zero_add, Nat.sub_zero, hcs,
      List.take_left]
  · cases hc₂

/-- The first way, where the token does not have to give anything back. -/
theorem first_number {w rest : List Char}
    (hspace : ((w ++ rest).head?.map isSpace).getD false = false)
    (hfirst : token.First none w rest) (hstuck : follow.Stuck (lastOr none w) rest) :
    (numberPattern.runs ⟨0, none, w ++ rest, []⟩).head? =
      some ⟨w.length, lastOr none w, rest, [("num", String.ofList w)]⟩ := by
  have htoken := hfirst 0 []
  rw [Nat.zero_add] at htoken
  have hclose : ((token.runs ⟨0, none, w ++ rest, []⟩).map (fun c => { c with
      groups := ("num", String.ofList ((w ++ rest).take (c.pos - 0))) :: c.groups })).head? =
      some ⟨w.length, lastOr none w, rest, [("num", String.ofList w)]⟩ := by
    rw [List.head?_map, htoken, Option.map_some, Nat.sub_zero, List.take_left]
  rw [number_runs hspace]
  refine head?_flatMap hclose ?_
  have hahead : (Regex.notAhead follow).runs
      ⟨w.length, lastOr none w, rest, [("num", String.ofList w)]⟩ =
      [⟨w.length, lastOr none w, rest, [("num", String.ofList w)]⟩] := by
    rw [Regex.runs, hstuck]
    rfl
  rw [hahead]
  rfl

/-- A number begins with a sign or a digit. -/
theorem token_head {before : Option Char} {w rest : List Char} (h : token.Reads before w rest) :
    ∃ c w', w = c :: w' ∧ (c ∈ signChars ∨ isDecimal c = true) := by
  -- Both forms have an optional sign and then a digit.
  have hform : ∀ {tail : Regex} {least : Nat} {most : Option Nat} {before : Option Char}
      {w rest : List Char}, 0 < least →
      (Regex.seq sign (.seq (.rep digit least most) tail)).Reads before w rest →
      ∃ c w', w = c :: w' ∧ (c ∈ signChars ∨ isDecimal c = true) := by
    rintro tail least most before w rest hleast ⟨s, v, rfl, hs, ds, t, rfl, hds, -⟩
    rcases reads_opt hs with rfl | ⟨x, rfl, hx⟩
    · rcases reads_rep_sat.mp hds with ⟨hlength, -, hdigits⟩
      cases ds with
      | nil => exact absurd (Nat.lt_of_lt_of_le hleast hlength) (Nat.lt_irrefl 0)
      | cons c ds => exact ⟨c, ds ++ t, rfl, .inr (hdigits c List.mem_cons_self)⟩
    · exact ⟨x, ds ++ t, rfl, .inl (of_decide_eq_true hx)⟩
  rcases h with h | ⟨u, v, rfl, hu, -⟩
  · exact hform Nat.one_pos h
  · rcases hform Nat.one_pos hu with ⟨c, w', rfl, hc⟩
    exact ⟨c, w' ++ v, rfl, hc⟩

/-- A number may not begin behind a character of another one. -/
theorem not_behind_body :
    ∀ c ∈ bodyChars, (decide (c ∈ "¥￥.,".toList) || isDecimal c) = true := by
  decide

/-- Behind its first digit no number begins in a quantity. -/
theorem number_stuck {pre post : List Char} (hsplit : (quantity d unit).toList = pre ++ post)
    (hpre : d.sign.length < pre.length) :
    numberPattern.runs ⟨pre.length, pre.getLast?, post, []⟩ = [] := by
  refine stuck_of_reads (productive_of_advances (by decide)) ?_ _ _
  rintro u v hpost ⟨a, b, rfl, ⟨rfl, hbehind⟩, s, e, rfl, hs, t, f, rfl, ht, -⟩
  have hne : pre ≠ [] := fun hnil => by
    rw [hnil] at hpre
    exact absurd hpre (Nat.not_lt_zero _)
  have hcut : (quantity d unit).toList = pre ++ (s ++ (t ++ (f ++ v))) := by
    rw [hsplit, hpost]
    simp only [List.nil_append, List.append_assoc]
  -- There is no white space before the number.
  have hempty : s = [] := by
    refine List.eq_nil_iff_forall_not_mem.mpr (fun c hc => ?_)
    have hspace := (reads_rep_sat.mp hs).2.2 c hc
    have hmem : c ∈ (quantity d unit).toList := by
      rw [hcut]
      exact List.mem_append_right _ (List.mem_append_left _ hc)
    exact Bool.false_ne_true ((isSpace_quantityChars c (quantity_chars d unit c hmem)).symm.trans
      hspace)
  rcases token_head ht with ⟨c, t', rfl, hc⟩
  rw [hempty, List.nil_append, List.cons_append] at hcut
  have htail : c ∈ (quantity d unit).toList.tail := by
    rw [hcut, List.tail_append_of_ne_nil hne]
    exact List.mem_append_right _ List.mem_cons_self
  have hdigit : c ∈ digits := by
    rcases hc with hc | hc
    · exact absurd hc (quantity_tail d unit c htail)
    · exact digit_of_isDecimal c (quantity_chars d unit c (List.mem_of_mem_tail htail)) hc
  -- So what comes before it ends inside the numeral.
  rw [quantity_toList, List.append_assoc] at hcut
  rcases List.append_eq_append_iff.mp hcut with ⟨x, hx, hrest⟩ | ⟨x, hx, hrest⟩
  · have hxne : x ≠ [] := by
      rintro rfl
      rw [hx, List.append_nil] at hpre
      exact Nat.lt_irrefl _ hpre
    rcases List.append_eq_append_iff.mp hrest with ⟨y, -, hunit⟩ | ⟨y, hbody, -⟩
    · have hmem := unit.chars c (by rw [hunit]; exact List.mem_append_right _ List.mem_cons_self)
      exact absurd hmem (digit_facts c hdigit).2.2.2
    · have hlast : x.getLast hxne ∈ bodyChars :=
        d.body_chars _ (by rw [hbody]; exact List.mem_append_left _ (List.getLast_mem hxne))
      rw [hx, List.getLast?_append, List.getLast?_eq_some_getLast hxne, Option.some_or,
        Option.map_some, Option.getD_some, not_behind_body _ hlast] at hbehind
      cases hbehind
  · rw [hx, List.length_append] at hpre
    omega

end Numbers

section Plain

variable (d : Numeral)

theorem first_spaces {before : Option Char} {rest : List Char}
    (h : (rest.head?.map isSpace).getD false = false) : spaces.First before [] rest :=
  first_rep_sat (w := []) (fun _ hc => by cases hc) (Nat.zero_le _) (fun _ _ => Nat.zero_le _)
    (.inr h)

theorem first_sign {before : Option Char} {rest : List Char}
    (h : ∀ x, rest.head? = some x → x ∈ digits) : sign.First before d.sign rest := by
  rcases d.sign_cases with hsign | hsign | hsign <;> rw [hsign]
  · refine first_opt_stuck (stuck_sat ?_)
    cases rest with
    | nil => rfl
    | cons x xs =>
        have hx := digit_facts x (h x rfl)
        refine decide_eq_false (fun hmem => ?_)
        exact (body_facts x hx.1).2.2 hmem
  · exact first_opt (first_sat (by decide)) (List.cons_ne_nil _ _)
  · exact first_opt (first_sat (by decide)) (List.cons_ne_nil _ _)

theorem first_digits {ds : List Char} (hds : ∀ c ∈ ds, c ∈ digits) (hne : ds ≠ [])
    {before : Option Char} {rest : List Char}
    (hend : (rest.head?.map isDecimal).getD false = false) :
    (many1 digit).First before ds rest :=
  first_rep_sat (fun c hc => isDecimal_digit c (hds c hc)) (List.length_pos_iff.mpr hne)
    (fun _ h => by cases h) (.inr hend)

theorem isDecimal_point : isDecimal '.' = false := by
  decide

theorem isDecimal_unit : ∀ c ∈ unitChars, isDecimal c = false := by
  decide

theorem first_fraction {before : Option Char} {x : Char} (hx : x ∈ unitChars) (rest : List Char) :
    fraction.First before d.point (x :: rest) := by
  have hpoint : x ≠ '.' := fun h => absurd (h ▸ hx) (by decide)
  unfold Numeral.point
  split
  · refine first_opt_stuck (stuck_seq (stuck_seq (stuck_sat ?_)))
    exact beq_eq_false_iff_ne.mpr hpoint
  next hfraction =>
    have hlit : (lit ".").First before ['.'] (d.fraction ++ x :: rest) :=
      first_seq (u := ['.']) (v := []) (first_sat (beq_self_eq_true '.')) first_eps
    have hdigits : (many1 digit).First (lastOr before ['.']) d.fraction (x :: rest) :=
      first_digits d.fraction_digits hfraction (isDecimal_unit x hx)
    have hall := first_seq (u := ['.']) (v := d.fraction ++ []) (s := seqs [many1 digit])
      (by rwa [List.append_nil]) (first_seq hdigits first_eps)
    rw [List.append_nil] at hall
    exact first_opt hall (List.cons_ne_nil _ _)

/-- A number without groups is read with the first character of its unit. -/
theorem first_token (hgroups : d.groups = []) {x : Char} (hx : x ∈ unitChars) (rest : List Char)
    (hrest : ∀ c ∈ rest, c ∈ unitChars) : token.First none (d.text ++ [x]) rest := by
  have hgrouped : d.grouped = d.whole := by
    rw [Numeral.grouped, hgroups, List.flatMap_nil, List.append_nil]
  have htext : d.text = d.sign ++ (d.whole ++ (d.point ++ [])) := by
    rw [Numeral.text, hgrouped, List.append_nil]
  -- The form with commas has no way.
  have hstuck : groupedNumber.Stuck none (d.text ++ [x] ++ rest) := by
    have hcomma : ∀ c ∈ unitChars, (c == ',') = false := by decide
    have hdigit : ∀ c ∈ digits, (c == ',') = false :=
      fun c hc => beq_eq_false_iff_ne.mpr (digit_ne hc (by decide))
    have hdemands : groupedNumber.demands (· == ',') :=
      .inr (.inr (.inl ⟨Nat.one_pos, .inl (demands_lit rfl)⟩))
    refine stuck_of_demands (by decide) hdemands ?_
    intro c hc
    rcases List.mem_append.mp hc with hc | hc
    · rcases List.mem_append.mp hc with hc | hc
      · rw [htext, List.append_nil] at hc
        rcases List.mem_append.mp hc with hc | hc
        · exact beq_eq_false_iff_ne.mpr (bne_iff_ne.mp (sign_facts c (d.sign_chars c hc)).2.2)
        · rcases List.mem_append.mp hc with hc | hc
          · exact hdigit c (d.whole_digits c hc)
          · have hpoint := filter_point d
            exact beq_eq_false_iff_ne.mpr (bne_iff_ne.mp (List.filter_eq_self.mp hpoint c hc))
      · exact hcomma c (List.mem_singleton.mp hc ▸ hx)
    · exact hcomma c (hrest c hc)
  have hwholeHead : ∀ y, (d.whole ++ (d.point ++ [] ++ x :: rest)).head? = some y → y ∈ digits := by
    intro y hy
    rw [List.head?_append_of_ne_nil _ d.whole_ne] at hy
    exact d.whole_digits y (List.mem_of_head? hy)
  have hpointHead : ((d.point ++ [] ++ x :: rest).head?.map isDecimal).getD false = false := by
    unfold Numeral.point
    split
    · exact isDecimal_unit x hx
    · exact isDecimal_point
  have hplain : plainNumber.First none (d.sign ++ (d.whole ++ (d.point ++ []))) (x :: rest) := by
    refine first_seq (first_sign d ?_)
      (first_seq (first_digits d.whole_digits d.whole_ne hpointHead) (first_seq ?_ first_eps))
    · rwa [List.append_assoc]
    · exact first_fraction d hx rest
  have hunit : ∀ before, (opt (seqs [spaces, oneOf "百千万亿"])).First before [x] rest := by
    intro before
    refine first_opt ?_ (List.cons_ne_nil _ _)
    refine first_seq (u := []) (v := [x]) (first_spaces ?_)
      (first_seq (u := [x]) (v := []) (first_sat (decide_eq_true hx)) first_eps)
    exact isSpace_quantityChars x (unit_facts x hx).1
  rw [← htext] at hplain
  refine first_alt_right hstuck ?_
  have hall := first_seq (u := d.text) (v := [x] ++ []) hplain
    (first_seq (hunit _) first_eps)
  exact hall

end Plain

section Found

variable (d : Numeral) (unit : UnitSuffix)

/-- A number holds more than a sign. -/
theorem sign_lt_of_token {w rest : List Char} (hsplit : (quantity d unit).toList = w ++ rest)
    (h : token.Reads none w rest) : d.sign.length < w.length := by
  have hdemands : token.demands isDecimal :=
    ⟨.inr (.inl ⟨Nat.one_pos, fun _ hc => hc⟩), .inl (.inr (.inl ⟨Nat.one_pos, fun _ hc => hc⟩))⟩
  rcases exists_of_demands hdemands h with ⟨c, hc, hdecimal⟩
  by_contra hle
  rw [quantity_toList, List.append_assoc] at hsplit
  have hfront : w <+: d.sign :=
    List.prefix_of_prefix_length_le ⟨rest, hsplit.symm⟩ (List.prefix_append _ _) (Nat.not_lt.mp hle)
  have hsign := d.sign_chars c (hfront.subset hc)
  have hdigit := digit_of_isDecimal c (sign_facts c hsign).1 hdecimal
  exact (body_facts c (digit_facts c hdigit).1).2.2 hsign

theorem head_not_space : ((quantity d unit).toList.head?.map isSpace).getD false = false := by
  cases htext : (quantity d unit).toList with
  | nil => rfl
  | cons x xs =>
      refine isSpace_quantityChars x (quantity_chars d unit x ?_)
      rw [htext]
      exact List.mem_cons_self

/-- The only number in a quantity is the one at its beginning. -/
theorem numberEntities_of_first {c : Cursor}
    (hfirst : (numberPattern.runs ⟨0, none, (quantity d unit).toList, []⟩).head? = some c) :
    ∃ w rest, (quantity d unit).toList = w ++ rest ∧ token.Reads none w rest ∧ c.pos = w.length ∧
      numberEntities (quantity d unit) = ((parseNumber (String.ofList w)).map (fun q =>
        (⟨.number, String.ofList w, normalizeNumber q, (0, w.length)⟩ : Entity))).toList := by
  rcases group_of_number_runs (head_not_space d unit) (List.mem_of_head? hfirst) with
    ⟨w, rest, hsplit, hreads, hpos, hgroup⟩
  have hlong := sign_lt_of_token d unit hsplit hreads
  have hsingle := finditer_eq_singleton hfirst (hpos ▸ Nat.zero_lt_of_lt hlong)
    (by rw [hpos, hsplit, List.length_append]; exact Nat.le_add_right _ _)
    (fun pre post hcut hle => number_stuck d unit hcut (Nat.lt_of_lt_of_le hlong (hpos ▸ hle)))
  refine ⟨w, rest, hsplit, hreads, hpos, ?_⟩
  rw [numberEntities, hsingle, hpos, hsplit, List.take_left]
  have hnum : Match.group ⟨0, w.length, String.ofList w, c.groups⟩ "num" =
      some (String.ofList w) := hgroup
  rw [List.filterMap_cons, hnum, Option.bind_some]
  cases parseNumber (String.ofList w) <;> rfl

/-- In a quantity without groups the number is the numeral with the first
    character of the unit. -/
theorem numberEntities_plain (hgroups : d.groups = []) {x : Char} {xs : List Char}
    (hunit : unit.text = x :: xs) :
    numberEntities (quantity d unit) = ((parseNumber (String.ofList (d.text ++ [x]))).map (fun q =>
      (⟨.number, String.ofList (d.text ++ [x]), normalizeNumber q, (0, (d.text ++ [x]).length)⟩ :
        Entity))).toList := by
  have hxs : ∀ c ∈ x :: xs, c ∈ unitChars := hunit ▸ unit.chars
  have hchars := List.forall_mem_cons.mp hxs
  have hcut : (quantity d unit).toList = (d.text ++ [x]) ++ xs := by
    rw [quantity_toList, hunit, List.append_assoc d.text, List.singleton_append]
    rfl
  have hspace : (((d.text ++ [x]) ++ xs).head?.map isSpace).getD false = false := by
    rw [← hcut]
    exact head_not_space d unit
  -- What is left of the unit does not stop the number.
  have hstuck : ∀ before, follow.Stuck before xs := by
    intro before
    have hdemands : follow.demands (fun c => isDecimal c || decide (c ∈ "元%百分之百年".toList)) := by
      refine .inr (.inl ⟨fun c hc => ?_, fun c hc => ?_, demands_lit (by decide)⟩)
      · exact Bool.or_eq_true_iff.mpr (.inl hc)
      · refine Bool.or_eq_true_iff.mpr (.inr (decide_eq_true ?_))
        have hmem : ∀ c ∈ "元%百分之百".toList, c ∈ "元%百分之百年".toList := by decide
        exact hmem c (of_decide_eq_true hc)
    refine stuck_of_demands (by decide) hdemands (fun c hc => ?_)
    rcases unit.text_tail hunit with rfl | rfl
    · cases hc
    · rw [List.mem_singleton.mp hc]
      decide
  have hfirst := first_number hspace (first_token d hgroups hchars.1 xs hchars.2) (hstuck _)
  rw [← hcut] at hfirst
  rcases numberEntities_of_first d unit hfirst with ⟨w, rest, hsplit, -, hpos, hentities⟩
  have hw : d.text ++ [x] = w := (List.append_inj (hcut.symm.trans hsplit) hpos).1
  rw [hentities, hw]

/-- Where there are groups a number can be read: that before the first comma. -/
theorem number_runs_grouped (hgroups : d.groups ≠ []) :
    numberPattern.runs ⟨0, none, (quantity d unit).toList, []⟩ ≠ [] := by
  have hspaces : ∀ before rest, spaces.Reads before [] rest := fun before rest =>
    reads_rep_sat.mpr ⟨Nat.le_refl 0, fun _ _ => Nat.zero_le _, fun _ hc => by cases hc⟩
  rcases List.exists_cons_of_ne_nil hgroups with ⟨g, gs, hcons⟩
  have hcut : (quantity d unit).toList = (d.sign ++ d.whole) ++
      (',' :: (g ++ gs.flatMap (',' :: ·) ++ d.point ++ unit.text)) := by
    rw [quantity_toList, Numeral.grouped, hcons, List.flatMap_cons]
    simp
  have hsign : ∀ rest, sign.Reads none d.sign rest := by
    intro rest
    have hone : ∀ x, x ∈ signChars → sign.Reads none [x] rest := fun x hx =>
      reads_rep_sat.mpr ⟨Nat.zero_le _, fun m hm => Option.some.inj hm ▸ Nat.le_refl 1,
        fun c hc => decide_eq_true (List.mem_singleton.mp hc ▸ hx)⟩
    rcases d.sign_cases with h | h | h <;> rw [h]
    · exact reads_opt_nil _ _ _
    · exact hone '+' (by decide)
    · exact hone '-' (by decide)
  have hwhole : ∀ before rest, (many1 digit).Reads before d.whole rest := fun before rest =>
    reads_rep_sat.mpr ⟨List.length_pos_iff.mpr d.whole_ne, (fun _ h => by cases h),
      fun c hc => isDecimal_digit c (d.whole_digits c hc)⟩
  have htoken : ∀ rest, token.Reads none (d.sign ++ d.whole) rest := fun rest =>
    .inr ⟨d.sign ++ d.whole, [], (List.append_nil _).symm,
      ⟨d.sign, d.whole, rfl, hsign _, d.whole, [], (List.append_nil _).symm, hwhole _ _, [], [],
        rfl, reads_opt_nil _ _ _, rfl⟩, [], [], rfl, reads_opt_nil _ _ _, rfl⟩
  -- A comma may follow the number.
  have hfollow : ∀ before rest u v, ',' :: rest = u ++ v → ¬ follow.Reads before u v := by
    rintro before rest u v huv ⟨a, b, rfl, ha, e, f, rfl, he, -⟩
    have hfirst : ∀ x xs, a ++ (e ++ f) ++ v = x :: xs → x = ',' := fun x xs hx =>
      (List.cons.inj (huv.trans hx)).1.symm
    cases a with
    | cons x a =>
        have hspace := (reads_rep_sat.mp ha).2.2 x List.mem_cons_self
        rw [hfirst x _ rfl] at hspace
        exact absurd hspace (by decide)
    | nil =>
        rcases he with ⟨x, rfl, hx⟩ | ⟨x, rfl, hx⟩ | he
        · rw [hfirst x _ rfl] at hx
          exact absurd hx (by decide)
        · rw [hfirst x _ rfl] at hx
          exact absurd hx (by decide)
        · rcases he with ⟨k, l, rfl, ⟨x, rfl, hx⟩, -⟩
          rw [hfirst x _ rfl] at hx
          exact absurd hx (by decide)
  have hreads : numberPattern.Reads none (d.sign ++ d.whole)
      (',' :: (g ++ gs.flatMap (',' :: ·) ++ d.point ++ unit.text)) :=
    ⟨[], d.sign ++ d.whole, rfl, ⟨rfl, rfl⟩, [], d.sign ++ d.whole, rfl, hspaces _ _,
      d.sign ++ d.whole, [], (List.append_nil _).symm, htoken _, [], [], rfl,
      ⟨rfl, hfollow _ _⟩, rfl⟩
  rcases (agrees numberPattern (productive_of_advances (by decide))).complete
    ⟨0, none, (quantity d unit).toList, []⟩ _ _ hcut hreads with ⟨c, hc, -⟩
  exact List.ne_nil_of_mem hc

/-- Where there are groups the unit is not read, since only a number without
    commas takes one. -/
theorem prefix_of_token (hgroups : d.groups ≠ []) {w rest : List Char}
    (hsplit : (quantity d unit).toList = w ++ rest) (h : token.Reads none w rest) :
    ∃ b, w = d.sign ++ b ∧ b <+: d.grouped ++ d.point ∧ b ≠ [] := by
  have hlong := sign_lt_of_token d unit hsplit h
  have hfront : w <+: d.text := by
    rw [quantity_toList] at hsplit
    rcases List.append_eq_append_iff.mp hsplit with ⟨bs, hw, hunit⟩ | ⟨bs, htext, -⟩
    · cases bs with
      | nil =>
          rw [hw, List.append_nil]
          exact List.prefix_rfl
      | cons y ys =>
          rcases h with h | h
          · -- The form with commas has no unit.
            have hallows : ∀ c ∈ unitChars, groupedNumber.allows c = false := by decide
            have hy := unit.chars y (by rw [hunit]; exact List.mem_cons_self)
            have hmem : y ∈ w := by
              rw [hw]
              exact List.mem_append_right _ List.mem_cons_self
            have hplain : groupedNumber.Plain :=
              ⟨trivial, trivial, ⟨⟨trivial, trivial⟩, trivial, trivial⟩,
                ⟨⟨trivial, trivial⟩, trivial, trivial⟩, trivial⟩
            have hallowed := allows_of_reads hplain h y hmem
            exact absurd ((hallows y hy).symm.trans hallowed) Bool.false_ne_true
          · -- The form with a unit has no commas.
            rcases List.exists_cons_of_ne_nil hgroups with ⟨g, gs, hcons⟩
            have hmem : ',' ∈ w := by
              rw [hw, Numeral.grouped, hcons, List.flatMap_cons]
              simp
            have hplain : (seqs [plainNumber, opt (seqs [spaces, oneOf "百千万亿"])]).Plain :=
              ⟨⟨trivial, trivial, ⟨⟨trivial, trivial⟩, trivial, trivial⟩, trivial⟩,
                ⟨trivial, trivial, trivial⟩, trivial⟩
            have hallowed := allows_of_reads hplain h ',' hmem
            exact absurd hallowed (by decide)
    · exact ⟨bs, htext.symm⟩
  rcases List.prefix_of_prefix_length_le (List.prefix_append d.sign _) hfront hlong.le with
    ⟨b, rfl⟩
  refine ⟨b, rfl, (List.prefix_append_right_inj _).mp hfront, ?_⟩
  rintro rfl
  rw [List.append_nil] at hlong
  exact Nat.lt_irrefl _ hlong

/-- In a quantity with groups it is a part of the numeral. -/
theorem numberEntities_grouped (hgroups : d.groups ≠ []) :
    ∃ w q, numberEntities (quantity d unit) =
      [⟨.number, String.ofList w, normalizeNumber q, (0, w.length)⟩] ∧ |q| ≤ |d.value| := by
  have hruns : numberPattern.runs ⟨0, none, (quantity d unit).toList, []⟩ ≠ [] :=
    number_runs_grouped d unit hgroups
  cases hhead : (numberPattern.runs ⟨0, none, (quantity d unit).toList, []⟩).head? with
  | none => exact absurd (List.head?_eq_none_iff.mp hhead) hruns
  | some c =>
      rcases numberEntities_of_first d unit hhead with ⟨w, rest, hsplit, hreads, -, hentities⟩
      rcases prefix_of_token d unit hgroups hsplit hreads with ⟨b, rfl, hb, hne⟩
      rcases parseNumber_prefix d hb hne with ⟨q, hq, hle⟩
      rw [hq] at hentities
      exact ⟨_, q, hentities, hle⟩

end Found

end FactChecker

end AgenticRag

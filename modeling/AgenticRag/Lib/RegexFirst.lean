import AgenticRag.Lib.RegexReads

/-!
# The Preferred Way of a Regular Expression

Of the ways an expression can read a text the matcher takes the first.
`Regex.First r before w rest` says that from a place with `w ++ rest` ahead
the first way reads `w`. Where each part of an expression succeeds on its
first way, the ways of the parts compose, and nothing has to be given back.

A scan whose first match starts at the beginning, and behind which nothing can
be read, has that match only (`finditer_eq_singleton`). Each match of a scan
reads a text at its place (`reads_of_mem_finditer`).

Some expressions are searched for only to count: a number of characters of a
kind in a row, a number of separators anywhere, one of several words. For these
the search is decided without the matcher. Between two separators an expression
may read anything, so there are enough of them in the text if and only if a
match is found.

A text may also be split at the matches, or have them replaced.

## Main definitions

* `Regex.First`: The text the first way reads.
* `reSplit`, `replaceAll`: Splitting at the matches, and replacing them.

## Theorems

* `found_counted`: The separators are counted.
* `found_words`: One of the words is contained.
-/

namespace AgenticRag

namespace Py

section First

/-- From a place with the two texts ahead the first way reads the first of
    them, and fills no group. -/
def Regex.First (r : Regex) (before : Option Char) (w rest : List Char) : Prop :=
  ∀ pos groups, (r.runs ⟨pos, before, w ++ rest, groups⟩).head? =
    some ⟨pos + w.length, lastOr before w, rest, groups⟩

/-- There is no way from a place. -/
def Regex.Stuck (r : Regex) (before : Option Char) (rest : List Char) : Prop :=
  ∀ pos groups, r.runs ⟨pos, before, rest, groups⟩ = []

variable {r s : Regex} {before : Option Char} {u v w rest : List Char}

theorem stuck_of_reads (h : r.Productive)
    (hnone : ∀ u v, rest = u ++ v → ¬ r.Reads before u v) : r.Stuck before rest := by
  intro pos groups
  rw [← List.isEmpty_iff, (agrees r h).isEmpty_iff]
  exact hnone

theorem stuck_seq (h : r.Stuck before rest) : (Regex.seq r s).Stuck before rest := by
  intro pos groups
  rw [Regex.runs, h pos groups, List.flatMap_nil]

theorem stuck_sat {p : Char → Bool} (h : (rest.head?.map p).getD false = false) :
    (Regex.sat p).Stuck before rest := by
  intro pos groups
  rw [Regex.runs, Cursor.next]
  cases rest with
  | nil => rfl
  | cons x xs =>
      dsimp only
      exact if_neg (Bool.eq_false_iff.mp h)

theorem first_eps : Regex.First .eps before [] rest :=
  fun _ _ => rfl

theorem first_sat {p : Char → Bool} {x : Char} (h : p x = true) :
    (Regex.sat p).First before [x] rest := by
  intro pos groups
  rw [Regex.runs, Cursor.next]
  dsimp only [List.singleton_append]
  rw [if_pos h]
  rfl

/-- The first of the ways that go on from the first of the ways to a place. -/
theorem head?_flatMap {α β : Type*} {f : α → List β} {xs : List α} {a : α} {b : β}
    (ha : xs.head? = some a) (hb : (f a).head? = some b) : (xs.flatMap f).head? = some b := by
  cases xs with
  | nil => cases ha
  | cons x xs =>
      cases ha
      rw [List.flatMap_cons, List.head?_append, hb]
      rfl

theorem first_seq (hr : r.First before u (v ++ rest)) (hs : s.First (lastOr before u) v rest) :
    (Regex.seq r s).First before (u ++ v) rest := by
  intro pos groups
  rw [Regex.runs, List.append_assoc]
  refine (head?_flatMap (hr pos groups) (hs _ groups)).trans ?_
  rw [List.length_append, Nat.add_assoc, lastOr_append]

theorem first_alt_right (hr : r.Stuck before (w ++ rest)) (hs : s.First before w rest) :
    (Regex.alt r s).First before w rest := by
  intro pos groups
  rw [Regex.runs, hr pos groups]
  exact hs pos groups

theorem head?_repeatRuns_sat {p : Char → Bool} {least : Nat} {most : Option Nat}
    (hw : ∀ x ∈ w, p x = true) (hleast : least ≤ w.length)
    (hmost : ∀ m, most = some m → w.length ≤ m)
    (hend : most = some w.length ∨ (rest.head?.map p).getD false = false) {fuel : Nat}
    (hfuel : w.length < fuel) (pos : Nat) (groups : List (String × String)) :
    (repeatRuns (Regex.sat p).runs fuel least most ⟨pos, before, w ++ rest, groups⟩).head? =
      some ⟨pos + w.length, lastOr before w, rest, groups⟩ := by
  induction w generalizing before least most pos fuel with
  | nil =>
      have hmin : least = 0 := Nat.le_zero.mp hleast
      cases fuel with
      | zero => exact absurd hfuel (Nat.not_lt_zero _)
      | succ fuel =>
          rw [repeatRuns, List.nil_append]
          -- It stops at the greatest count, or because nothing more fits.
          rcases hend with hend | hend
          · rw [if_pos (show most = some 0 from hend), if_pos hmin]
            rfl
          · rw [stuck_sat hend pos groups, List.flatMap_nil, ite_self, if_pos hmin]
            rfl
  | cons x w ih =>
      have hx := hw x List.mem_cons_self
      rw [List.length_cons] at hleast hmost hend hfuel
      cases fuel with
      | zero => exact absurd hfuel (Nat.not_lt_zero _)
      | succ fuel =>
          have hmore : most ≠ some 0 := fun h => absurd (hmost 0 h) (Nat.not_succ_le_zero _)
          have hmost' : ∀ m, most.map (· - 1) = some m → w.length ≤ m := by
            intro m hm
            rcases Option.map_eq_some_iff.mp hm with ⟨m', hm', hsub⟩
            have hle := hmost m' hm'
            omega
          have hend' : most.map (· - 1) = some w.length ∨ (rest.head?.map p).getD false = false :=
            hend.imp_left (fun h => by rw [h]; rfl)
          -- The remaining rounds start one character further.
          have hround : (repeatRuns (Regex.sat p).runs fuel (least - 1) (most.map (· - 1))
              ⟨pos + 1, some x, w ++ rest, groups⟩).head? =
                some ⟨pos + 1 + w.length, lastOr (some x) w, rest, groups⟩ :=
            ih (fun y hy => hw y (List.mem_cons_of_mem _ hy)) (Nat.sub_le_of_le_add hleast) hmost'
              hend' (Nat.lt_of_succ_lt_succ hfuel) (pos + 1)
          have hfirst : (Regex.sat p).First before [x] (w ++ rest) := first_sat hx
          have hstep := hfirst pos groups
          -- A round that reads something is not cut short.
          have hahead : ¬ (pos + 1 = pos ∧ least = 0) := fun h => Nat.succ_ne_self pos h.1
          rw [repeatRuns, List.head?_append, if_neg hmore]
          refine (congrArg (Option.or · _) (head?_flatMap hstep
            ((congrArg List.head? (if_neg hahead)).trans hround))).trans ?_
          rw [Option.some_or, List.length_cons, Nat.add_assoc, Nat.add_comm 1,
            show x :: w = [x] ++ w from rfl, lastOr_append]
          rfl

/-- A repeated character is read as often as it is there. -/
theorem first_rep_sat {p : Char → Bool} {least : Nat} {most : Option Nat}
    (hw : ∀ x ∈ w, p x = true) (hleast : least ≤ w.length)
    (hmost : ∀ m, most = some m → w.length ≤ m)
    (hend : most = some w.length ∨ (rest.head?.map p).getD false = false) :
    (Regex.rep (.sat p) least most).First before w rest := by
  intro pos groups
  rw [Regex.runs]
  refine head?_repeatRuns_sat hw hleast hmost hend ?_ pos groups
  rw [List.length_append]
  omega

theorem repeatRuns_done (step : Cursor → List Cursor) (fuel : Nat) (c : Cursor) :
    repeatRuns step fuel 0 (some 0) c = [c] := by
  cases fuel <;> rfl

/-- What may be left out is read if it is there. -/
theorem first_opt (h : r.First before w rest) (hw : w ≠ []) : (opt r).First before w rest := by
  intro pos groups
  have hlength := List.length_pos_iff.mpr hw
  have hahead : ¬ (pos + w.length = pos ∧ (0 : Nat) = 0) := by omega
  rw [opt, Regex.runs, repeatRuns, List.head?_append, if_neg (by decide),
    head?_flatMap (h pos groups) ((congrArg List.head? (if_neg hahead)).trans
      (congrArg List.head? (repeatRuns_done _ _ _))), Option.some_or]

theorem first_opt_stuck (h : r.Stuck before rest) : (opt r).First before [] rest := by
  intro pos groups
  rw [opt, Regex.runs, repeatRuns, List.nil_append, h pos groups, List.flatMap_nil, ite_self,
    if_pos rfl]
  rfl

end First

section Advances

/-- Every repeated expression has no empty text. -/
def Regex.advances : Regex → Bool
  | .seq r s => r.advances && s.advances
  | .alt r s => r.advances && s.advances
  | .rep r _ _ => r.advances && decide (0 < r.minLength)
  | .group _ r => r.advances
  | .notAhead r => r.advances
  | _ => true

theorem productive_of_advances {r : Regex} (h : r.advances = true) : r.Productive := by
  induction r with
  | seq r s ihr ihs =>
      rw [Regex.advances, Bool.and_eq_true] at h
      exact ⟨ihr h.1, ihs h.2⟩
  | alt r s ihr ihs =>
      rw [Regex.advances, Bool.and_eq_true] at h
      exact ⟨ihr h.1, ihs h.2⟩
  | rep r least most ih =>
      rw [Regex.advances, Bool.and_eq_true] at h
      exact ⟨ih h.1, fun _ _ _ hreads => ne_nil_of_reads (of_decide_eq_true h.2) hreads⟩
  | group name r ih => exact ih h
  | notAhead r ih => exact ih h
  | eps => trivial
  | sat p => trivial
  | notBehind p => trivial

end Advances

section Repetition

variable {p : Char → Bool}

theorem rounds_sat {n : Nat} {before : Option Char} {w rest : List Char} :
    Rounds (Regex.sat p).Reads n before w rest ↔ w.length = n ∧ ∀ c ∈ w, p c = true := by
  induction n generalizing before w with
  | zero =>
      rw [Rounds, List.length_eq_zero_iff]
      refine (and_iff_left_of_imp ?_).symm
      rintro rfl c hc
      cases hc
  | succ n ih =>
      constructor
      · rintro ⟨u, v, rfl, ⟨x, rfl, hx⟩, hrounds⟩
        rcases ih.mp hrounds with ⟨hlength, hall⟩
        exact ⟨congrArg Nat.succ hlength, List.forall_mem_cons.mpr ⟨hx, hall⟩⟩
      · rintro ⟨hlength, hall⟩
        cases w with
        | nil => cases hlength
        | cons x xs =>
            rcases List.forall_mem_cons.mp hall with ⟨hx, hxs⟩
            exact ⟨[x], xs, rfl, ⟨x, rfl, hx⟩, ih.mpr ⟨Nat.succ.inj hlength, hxs⟩⟩

/-- What may be left out reads nothing. -/
theorem reads_opt_nil (r : Regex) (before : Option Char) (rest : List Char) :
    (opt r).Reads before [] rest :=
  ⟨0, Nat.le_refl 0, fun _ _ => Nat.zero_le _, rfl⟩

theorem reads_opt {r : Regex} {before : Option Char} {w rest : List Char}
    (h : (opt r).Reads before w rest) : w = [] ∨ r.Reads before w rest := by
  rcases h with ⟨n, -, hmost, hrounds⟩
  match n, hmost 1 rfl, hrounds with
  | 0, _, hrounds => exact .inl hrounds
  | 1, _, ⟨u, v, hw, hreads, hv⟩ =>
      have hv : v = [] := hv
      rw [hv, List.append_nil] at hw
      rw [hv, List.nil_append] at hreads
      exact .inr (hw ▸ hreads)

/-- A repeated character reads as many of them as it is told to. -/
theorem reads_rep_sat {least : Nat} {most : Option Nat} {before : Option Char}
    {w rest : List Char} :
    (Regex.rep (.sat p) least most).Reads before w rest ↔
      least ≤ w.length ∧ (∀ m, most = some m → w.length ≤ m) ∧ ∀ c ∈ w, p c = true := by
  constructor
  · rintro ⟨n, hleast, hmost, hrounds⟩
    rcases rounds_sat.mp hrounds with ⟨rfl, hall⟩
    exact ⟨hleast, hmost, hall⟩
  · rintro ⟨hleast, hmost, hall⟩
    exact ⟨w.length, hleast, hmost, rounds_sat.mpr ⟨rfl, hall⟩⟩

end Repetition

section Demands

/-- Every text of the expression has a character of a kind. -/
def Regex.demands (q : Char → Bool) : Regex → Prop
  | .sat p => ∀ c, p c = true → q c = true
  | .seq r s => r.demands q ∨ s.demands q
  | .alt r s => r.demands q ∧ s.demands q
  | .rep r least _ => 0 < least ∧ r.demands q
  | .group _ r => r.demands q
  | _ => False

theorem exists_of_demands {r : Regex} {q : Char → Bool} (hdemands : r.demands q)
    {before : Option Char} {w rest : List Char} (h : r.Reads before w rest) :
    ∃ c ∈ w, q c = true := by
  induction r generalizing before w rest with
  | sat p =>
      rcases h with ⟨x, rfl, hx⟩
      exact ⟨x, List.mem_singleton_self x, hdemands x hx⟩
  | seq r s ihr ihs =>
      rcases h with ⟨u, v, rfl, hu, hv⟩
      rcases hdemands with hdemands | hdemands
      · rcases ihr hdemands hu with ⟨c, hc, hq⟩
        exact ⟨c, List.mem_append_left _ hc, hq⟩
      · rcases ihs hdemands hv with ⟨c, hc, hq⟩
        exact ⟨c, List.mem_append_right _ hc, hq⟩
  | alt r s ihr ihs => exact h.elim (ihr hdemands.1) (ihs hdemands.2)
  | rep r least most ih =>
      rcases h with ⟨n, hleast, -, hrounds⟩
      -- At least one round is made, and it has the character.
      cases n with
      | zero => exact absurd (Nat.lt_of_lt_of_le hdemands.1 hleast) (Nat.lt_irrefl 0)
      | succ n =>
          rcases hrounds with ⟨u, v, rfl, hu, -⟩
          rcases ih hdemands.2 hu with ⟨c, hc, hq⟩
          exact ⟨c, List.mem_append_left _ hc, hq⟩
  | group name r ih => exact ih hdemands h
  | eps => exact hdemands.elim
  | notAhead r => exact hdemands.elim
  | notBehind p => exact hdemands.elim

theorem demands_lit {q : Char → Bool} {s : String} (h : s.toList.any q = true) :
    (lit s).demands q := by
  unfold lit
  generalize s.toList = cs at h
  induction cs with
  | nil => cases h
  | cons x xs ih =>
      rw [List.any_cons, Bool.or_eq_true] at h
      refine h.imp (fun hx y hy => ?_) ih
      rw [eq_of_beq hy]
      exact hx

theorem demands_oneOf {q : Char → Bool} {cs : String} (h : ∀ c ∈ cs.toList, q c = true) :
    (oneOf cs).demands q :=
  fun c hc => h c (of_decide_eq_true hc)

/-- There is no way without a character that is demanded. -/
theorem stuck_of_demands {r : Regex} (hadvances : r.advances = true) {q : Char → Bool}
    (hdemands : r.demands q) {before : Option Char} {rest : List Char}
    (h : ∀ c ∈ rest, q c = false) : r.Stuck before rest := by
  refine stuck_of_reads (productive_of_advances hadvances) ?_
  rintro u v rfl hreads
  rcases exists_of_demands hdemands hreads with ⟨c, hc, hq⟩
  exact Bool.false_ne_true ((h c (List.mem_append_left _ hc)).symm.trans hq)

end Demands

section Groups

/-- Every way through the expression fills the group. -/
def Regex.closes (name : String) : Regex → Bool
  | .seq r s => r.closes name || s.closes name
  | .alt r s => r.closes name && s.closes name
  | .group n r => n == name || r.closes name
  | _ => false

theorem groups_suffix_repeatRuns {step : Cursor → List Cursor}
    (hstep : ∀ c c', c' ∈ step c → c.groups <:+ c'.groups) {fuel least : Nat}
    {most : Option Nat} {c c' : Cursor} (h : c' ∈ repeatRuns step fuel least most c) :
    c.groups <:+ c'.groups := by
  -- To stop leaves the groups as they are.
  have hstay : ∀ {least : Nat} {c : Cursor}, c' ∈ (if least = 0 then [c] else []) →
      c.groups <:+ c'.groups := by
    intro least c h
    split at h
    · rw [List.mem_singleton.mp h]
    · cases h
  induction fuel generalizing least most c with
  | zero => exact hstay h
  | succ fuel ih =>
      rw [repeatRuns] at h
      rcases List.mem_append.mp h with h | h
      · split at h
        · cases h
        · rcases List.mem_flatMap.mp h with ⟨d, hd, h⟩
          split at h
          · cases h
          · exact (hstep c d hd).trans (ih h)
      · exact hstay h

/-- The groups filled before stay. -/
theorem groups_suffix (r : Regex) {c c' : Cursor} (h : c' ∈ r.runs c) :
    c.groups <:+ c'.groups := by
  induction r generalizing c c' with
  | eps =>
      rw [List.mem_singleton.mp h]
  | sat p =>
      rcases mem_runs_sat.mp h with ⟨x, xs, -, -, rfl⟩
      exact List.suffix_rfl
  | seq r s ihr ihs =>
      rcases List.mem_flatMap.mp h with ⟨d, hd, h⟩
      exact (ihr hd).trans (ihs h)
  | alt r s ihr ihs => exact (List.mem_append.mp h).elim ihr ihs
  | rep r least most ih => exact groups_suffix_repeatRuns (fun _ _ => ih) h
  | group name r ih =>
      rcases List.mem_map.mp h with ⟨d, hd, rfl⟩
      exact (ih hd).trans (List.suffix_cons _ _)
  | notAhead r =>
      rw [(mem_runs_notAhead.mp h).2]
  | notBehind p =>
      rw [(mem_runs_notBehind.mp h).2]

theorem mem_of_closes {r : Regex} {name : String} (hcloses : r.closes name = true) {c c' : Cursor}
    (h : c' ∈ r.runs c) : name ∈ c'.groups.map Prod.fst := by
  induction r generalizing c c' with
  | seq r s ihr ihs =>
      rcases List.mem_flatMap.mp h with ⟨d, hd, h⟩
      rcases Bool.or_eq_true_iff.mp hcloses with hcloses | hcloses
      · exact ((groups_suffix s h).map Prod.fst).subset (ihr hcloses hd)
      · exact ihs hcloses h
  | alt r s ihr ihs =>
      rw [Regex.closes, Bool.and_eq_true] at hcloses
      exact (List.mem_append.mp h).elim (ihr hcloses.1) (ihs hcloses.2)
  | group n r ih =>
      rcases List.mem_map.mp h with ⟨d, hd, rfl⟩
      rcases Bool.or_eq_true_iff.mp hcloses with hcloses | hcloses
      · rw [eq_of_beq hcloses]
        exact List.mem_cons_self
      · exact List.mem_cons_of_mem _ (ih hcloses hd)
  | eps => cases hcloses
  | sat p => cases hcloses
  | rep r least most => cases hcloses
  | notAhead r => cases hcloses
  | notBehind p => cases hcloses

/-- A group that every way fills has a text. -/
theorem lookup_of_closes {r : Regex} {name : String} (hcloses : r.closes name = true)
    {c c' : Cursor} (h : c' ∈ r.runs c) : ∃ text, c'.groups.lookup name = some text := by
  rw [← Option.isSome_iff_exists, List.lookup_isSome_iff]
  rcases List.mem_map.mp (mem_of_closes hcloses h) with ⟨p, hp, hname⟩
  exact ⟨p, hp, beq_iff_eq.mpr hname.symm⟩

end Groups

section Matches

variable {r : Regex}

/-- The characters of the last match are skipped. -/
theorem finditerFrom_skip (pos skip : Nat) (before : Option Char) (cs : List Char)
    (h : skip ≤ cs.length) :
    finditerFrom r pos before skip cs =
      finditerFrom r (pos + skip) (lastOr before (cs.take skip)) 0 (cs.drop skip) := by
  induction cs generalizing pos skip before with
  | nil =>
      rw [Nat.le_zero.mp h]
      rfl
  | cons x xs ih =>
      cases skip with
      | zero => rfl
      | succ skip =>
          rw [finditerFrom, ih (pos + 1) skip (some x) (Nat.le_of_succ_le_succ h),
            List.take_succ_cons, List.drop_succ_cons, show x :: xs.take skip = [x] ++ xs.take skip
            from rfl, lastOr_append, Nat.add_assoc, Nat.add_comm 1]
          rfl

/-- A scan whose first match is at the beginning, and behind which nothing can
    be read, has that match only. -/
theorem finditer_eq_singleton {text : String} {c : Cursor}
    (hfirst : (r.runs ⟨0, none, text.toList, []⟩).head? = some c) (hpos : 0 < c.pos)
    (hlength : c.pos ≤ text.toList.length)
    (hrest : ∀ pre post, text.toList = pre ++ post → c.pos ≤ pre.length →
      r.runs ⟨pre.length, pre.getLast?, post, []⟩ = []) :
    finditer r text = [⟨0, c.pos, String.ofList (text.toList.take c.pos), c.groups⟩] := by
  unfold finditer
  cases htext : text.toList with
  | nil =>
      rw [htext] at hlength
      exact absurd hlength (Nat.not_le_of_lt hpos)
  | cons x xs =>
      rw [htext] at hfirst hlength hrest
      have hmatch : r.matchAt ⟨0, none, x :: xs, []⟩ =
          some ⟨0, c.pos, String.ofList ((x :: xs).take c.pos), c.groups⟩ := by
        rw [Regex.matchAt, hfirst]
        rfl
      have hskip : c.pos - 0 - 1 ≤ xs.length := by
        rw [List.length_cons] at hlength
        omega
      -- The scan goes on behind the match, where nothing matches any more.
      rw [finditerFrom, hmatch]
      dsimp only
      rw [finditerFrom_skip _ _ _ _ hskip, List.cons_eq_cons]
      refine ⟨rfl, ?_⟩
      by_contra hne
      rw [← ne_eq, finditerFrom_ne_nil] at hne
      rcases hne with ⟨pre, post, hsplit, hruns⟩
      -- A later match would be one at a place of the whole text.
      have hcut : x :: xs = (x :: xs.take (c.pos - 0 - 1)) ++ pre ++ post := by
        rw [List.append_assoc, ← hsplit, List.cons_append, List.take_append_drop]
      have htake : (xs.take (c.pos - 0 - 1)).length = c.pos - 0 - 1 :=
        List.length_take_of_le hskip
      have hlast := hrest _ _ hcut (by rw [List.length_append, List.length_cons, htake]; omega)
      rw [← lastOr_none, lastOr_append, show x :: xs.take (c.pos - 0 - 1) =
        [x] ++ xs.take (c.pos - 0 - 1) from rfl, lastOr_append, List.length_append,
        List.length_append, List.length_singleton, htake, ← Nat.zero_add 1] at hlast
      rw [← Bool.not_eq_true, List.isEmpty_iff] at hruns
      exact hruns hlast

theorem reads_of_matchAt (hproductive : r.Productive) {c : Cursor} {m : Match}
    (h : r.matchAt c = some m) : ∃ w post, c.rest = w ++ post ∧ m.start = c.pos ∧
      m.stop = c.pos + w.length ∧ r.Reads c.before w post := by
  rcases Option.map_eq_some_iff.mp h with ⟨c', hc', rfl⟩
  rcases (agrees r hproductive).sound c c' (List.mem_of_head? hc') with ⟨w, hahead, hreads⟩
  exact ⟨w, c'.rest, hahead.rest, rfl, hahead.pos, hreads⟩

theorem reads_of_mem_finditerFrom (hproductive : r.Productive) {pos skip : Nat}
    {before : Option Char} {cs : List Char} {m : Match}
    (h : m ∈ finditerFrom r pos before skip cs) : ∃ pre w post, cs = pre ++ (w ++ post) ∧
      m.start = pos + pre.length ∧ m.stop = pos + pre.length + w.length ∧
      r.Reads (lastOr before pre) w post := by
  -- A match of the rest is one of the whole, one character later.
  have hlater : ∀ {pos : Nat} {before : Option Char} {x : Char} {xs : List Char},
      (∃ pre w post, xs = pre ++ (w ++ post) ∧ m.start = pos + 1 + pre.length ∧
        m.stop = pos + 1 + pre.length + w.length ∧ r.Reads (lastOr (some x) pre) w post) →
      ∃ pre w post, x :: xs = pre ++ (w ++ post) ∧ m.start = pos + pre.length ∧
        m.stop = pos + pre.length + w.length ∧ r.Reads (lastOr before pre) w post := by
    rintro pos before x xs ⟨pre, w, post, rfl, hstart, hstop, hreads⟩
    refine ⟨x :: pre, w, post, rfl, ?_, ?_, ?_⟩
    · rw [hstart, List.length_cons]
      omega
    · rw [hstop, List.length_cons]
      omega
    · rw [show x :: pre = [x] ++ pre from rfl, lastOr_append]
      exact hreads
  -- A match at the place itself has nothing before it.
  have hhere : ∀ {pos : Nat} {before : Option Char} {cs : List Char},
      r.matchAt ⟨pos, before, cs, []⟩ = some m →
      ∃ pre w post, cs = pre ++ (w ++ post) ∧ m.start = pos + pre.length ∧
        m.stop = pos + pre.length + w.length ∧ r.Reads (lastOr before pre) w post := by
    intro pos before cs h
    rcases reads_of_matchAt hproductive h with ⟨w, post, hrest, hstart, hstop, hreads⟩
    exact ⟨[], w, post, hrest, hstart, hstop, hreads⟩
  induction cs generalizing pos skip before with
  | nil =>
      cases skip with
      | zero => exact hhere (Option.mem_toList.mp h)
      | succ skip => cases h
  | cons x xs ih =>
      cases skip with
      | succ skip => exact hlater (ih h)
      | zero =>
          rw [finditerFrom] at h
          split at h
          · exact hlater (ih h)
          next m' hm' =>
            rcases List.mem_cons.mp h with rfl | h
            · exact hhere hm'
            · exact hlater (ih h)

/-- Each match reads a text at its place. -/
theorem reads_of_mem_finditer (hproductive : r.Productive) {text : String} {m : Match}
    (h : m ∈ finditer r text) : ∃ pre w post, text.toList = pre ++ (w ++ post) ∧
      m.start = pre.length ∧ m.stop = pre.length + w.length ∧ r.Reads pre.getLast? w post := by
  rcases reads_of_mem_finditerFrom hproductive h with ⟨pre, w, post, hsplit, hstart, hstop, hreads⟩
  rw [Nat.zero_add] at hstart hstop
  exact ⟨pre, w, post, hsplit, hstart, hstop, lastOr_none pre ▸ hreads⟩

/-- What can be read at the beginning of a text gives a match there. -/
theorem mem_finditer_of_reads (hproductive : r.Productive) {text : String} {w post : List Char}
    (hsplit : text.toList = w ++ post) (hw : w ≠ []) (hreads : r.Reads none w post) :
    ∃ m ∈ finditer r text, m.start = 0 ∧
      ∃ c ∈ r.runs ⟨0, none, text.toList, []⟩, m.groups = c.groups := by
  rcases (agrees r hproductive).complete ⟨0, none, text.toList, []⟩ w post hsplit hreads with
    ⟨c, hc, -⟩
  unfold finditer
  cases htext : text.toList with
  | nil => exact absurd (List.append_eq_nil_iff.mp (hsplit.symm.trans htext)).1 hw
  | cons x xs =>
      rw [htext] at hc
      -- The match takes the first way, which need not be the one at hand.
      cases hruns : r.runs ⟨0, none, x :: xs, []⟩ with
      | nil =>
          rw [hruns] at hc
          cases hc
      | cons c' rest =>
          have hmatch : r.matchAt ⟨0, none, x :: xs, []⟩ =
              some ⟨0, c'.pos, String.ofList ((x :: xs).take c'.pos), c'.groups⟩ := by
            rw [Regex.matchAt, hruns]
            rfl
          rw [finditerFrom, hmatch]
          exact ⟨_, List.mem_cons_self, rfl, c', List.mem_cons_self, rfl⟩

/-- A match has a character that is demanded. -/
theorem exists_of_mem_finditer (hadvances : r.advances = true) {q : Char → Bool}
    (hdemands : r.demands q) {text : String} {m : Match} (h : m ∈ finditer r text) :
    ∃ c ∈ m.text.toList, q c = true := by
  rcases finditerFrom_matchAt h with ⟨c, hc⟩
  rcases Option.map_eq_some_iff.mp hc with ⟨c', hc', rfl⟩
  rcases (agrees r (productive_of_advances hadvances)).sound c c' (List.mem_of_head? hc') with
    ⟨w, hahead, hreads⟩
  rw [String.toList_ofList, hahead.rest, hahead.pos, Nat.add_sub_cancel_left, List.take_left]
  exact exists_of_demands hdemands hreads

/-- A text without the characters that are demanded has no match. -/
theorem finditer_eq_nil_of_demands (hadvances : r.advances = true) {q : Char → Bool}
    (hdemands : r.demands q) {text : String} (h : ∀ c ∈ text.toList, q c = false) :
    finditer r text = [] := by
  refine List.eq_nil_iff_forall_not_mem.mpr (fun m hm => ?_)
  rcases reads_of_mem_finditer (productive_of_advances hadvances) hm with
    ⟨pre, w, post, hsplit, -, -, hreads⟩
  rcases exists_of_demands hdemands hreads with ⟨c, hc, hq⟩
  have hmem : c ∈ text.toList := by
    rw [hsplit]
    exact List.mem_append_right _ (List.mem_append_left _ hc)
  exact Bool.false_ne_true ((h c hmem).symm.trans hq)

/-- Nor has a text that has them only at its beginning, if something else has
    to come before. -/
theorem finditer_eq_nil_of_demands_tail {s : Regex} (hadvances : (Regex.seq r s).advances = true)
    (hlength : 0 < r.minLength) {q : Char → Bool} (hdemands : s.demands q) {text : String}
    (h : ∀ c ∈ text.toList.tail, q c = false) : finditer (.seq r s) text = [] := by
  refine List.eq_nil_iff_forall_not_mem.mpr (fun m hm => ?_)
  rcases reads_of_mem_finditer (productive_of_advances hadvances) hm with
    ⟨pre, w, post, hsplit, -, -, u, v, rfl, hu, hv⟩
  rcases exists_of_demands hdemands hv with ⟨c, hc, hq⟩
  have hne : pre ++ u ≠ [] := fun hnil =>
    ne_nil_of_reads hlength hu (List.append_eq_nil_iff.mp hnil).2
  have hmem : c ∈ text.toList.tail := by
    rw [hsplit, List.append_assoc, ← List.append_assoc, List.tail_append_of_ne_nil hne]
    exact List.mem_append_right _ (List.mem_append_left _ hc)
  exact Bool.false_ne_true ((h c hmem).symm.trans hq)

end Matches

section Definitions

/-- `re.search` finds something. -/
def found (r : Regex) (text : String) : Bool :=
  !(finditer r text).isEmpty

/-- The pattern `([^s]*[s]){n,}` of a set of separators. -/
def counted (sep : Char → Bool) (n : Nat) : Regex :=
  .rep (.seq (.rep (.sat (fun c => !sep c)) 0 none) (.sat sep)) n none

/-- The pattern of one of several words, which there is at least one of. -/
def words (w : String) (ws : List String) : Regex :=
  alts (lit w) (ws.map lit)

/-- The pattern `^`. -/
def textStart : Regex :=
  .notBehind (fun _ => true)

/-- The pattern `$`: the end of the text, or the line end it closes with. -/
def textEnd : Regex :=
  .notAhead (.alt (.sat (· != '\n')) (.seq (.sat (· == '\n')) (.sat (fun _ => true))))

end Definitions

section Splitting

/-- The pieces of a text between the matches of an expression. The piece at hand is
    kept in reverse, and the counter holds how many characters of the last match are
    still to be skipped. -/
def splitPieces (r : Regex) :
    List Char → Nat → Option Char → Nat → List Char → List (List Char)
  | piece, pos, before, 0, [] =>
      if (r.matchAt ⟨pos, before, [], []⟩).isSome then [piece.reverse, []] else [piece.reverse]
  | piece, _, _, _ + 1, [] => [piece.reverse]
  | piece, pos, _, skip + 1, x :: xs => splitPieces r piece (pos + 1) (some x) skip xs
  | piece, pos, before, 0, x :: xs =>
      match r.matchAt ⟨pos, before, x :: xs, []⟩ with
      | none => splitPieces r (x :: piece) (pos + 1) (some x) 0 xs
      | some m =>
          -- After an empty match the character at hand opens the next piece.
          piece.reverse :: splitPieces r (if m.stop = m.start then [x] else []) (pos + 1) (some x)
            (m.stop - m.start - 1) xs

/-- `re.split`, for an expression without groups. -/
def reSplit (r : Regex) (text : String) : List String :=
  (splitPieces r [] 0 none 0 text.toList).map String.ofList

/-- How much an expression reads at a place. -/
def Regex.scan (r : Regex) (before : Option Char) (cs : List Char) : Option Nat :=
  (r.matchAt ⟨0, before, cs, []⟩).map (fun m => m.stop - m.start)

/-- `re.sub`, for an expression that reads no empty text. -/
def replaceAll (r : Regex) (new text : String) : String :=
  String.ofList (reSub r.scan new.toList none 0 text.toList)

end Splitting

section Found

variable {r : Regex}

theorem found_iff (h : r.Productive) (text : String) :
    found r text = true ↔ ∃ pre w post, text.toList = pre ++ (w ++ post) ∧
      r.Reads pre.getLast? w post := by
  rw [← finditer_ne_nil h, found, Bool.not_eq_true', ← Bool.not_eq_true, List.isEmpty_iff]

/-- A match starts somewhere. -/
theorem found_iff_runs (text : String) : found r text = true ↔ ∃ pre post,
    text.toList = pre ++ post ∧
      (r.runs ⟨0 + pre.length, lastOr none pre, post, []⟩).isEmpty = false := by
  rw [← finditerFrom_ne_nil, found, Bool.not_eq_true', ← Bool.not_eq_true, List.isEmpty_iff]
  rfl

theorem found_alt (s : Regex) (text : String) :
    found (.alt r s) text = (found r text || found s text) := by
  have hsplit : ∀ c, ((Regex.alt r s).runs c).isEmpty = false ↔
      (r.runs c).isEmpty = false ∨ (s.runs c).isEmpty = false := by
    intro c
    rw [Regex.runs, List.isEmpty_eq_false_iff, List.isEmpty_eq_false_iff,
      List.isEmpty_eq_false_iff, ← not_and_or, ne_eq, List.append_eq_nil_iff]
  rw [Bool.eq_iff_iff, Bool.or_eq_true, found_iff_runs, found_iff_runs, found_iff_runs]
  simp only [hsplit]
  constructor
  · rintro ⟨pre, post, htext, h | h⟩
    · exact .inl ⟨pre, post, htext, h⟩
    · exact .inr ⟨pre, post, htext, h⟩
  · rintro (⟨pre, post, htext, h⟩ | ⟨pre, post, htext, h⟩)
    · exact ⟨pre, post, htext, .inl h⟩
    · exact ⟨pre, post, htext, .inr h⟩

/-- An alternative is found if one of its branches is. -/
theorem found_alts (rs : List Regex) (text : String) :
    found (alts r rs) text = (r :: rs).any (fun t => found t text) := by
  induction rs generalizing r with
  | nil => rw [alts, List.any_cons, List.any_nil, Bool.or_false]
  | cons s rest ih => rw [alts, found_alt, ih, List.any_cons, List.any_cons, List.any_cons]

end Found

section Literal

theorem reads_lit {s : String} {before : Option Char} {w rest : List Char} :
    (lit s).Reads before w rest ↔ w = s.toList := by
  unfold lit
  generalize s.toList = cs
  induction cs generalizing before w with
  | nil => exact Iff.rfl
  | cons x xs ih =>
      constructor
      · rintro ⟨u, v, rfl, ⟨y, rfl, hy⟩, hv⟩
        rw [eq_of_beq hy, ih.mp hv]
        rfl
      · rintro rfl
        exact ⟨[x], xs, rfl, ⟨x, rfl, beq_self_eq_true x⟩, ih.mpr rfl⟩

theorem productive_lit (s : String) : (lit s).Productive := by
  unfold lit
  induction s.toList with
  | nil => trivial
  | cons x xs ih => exact ⟨trivial, ih⟩

/-- A word is found where the text contains it. -/
theorem found_lit (s text : String) : found (lit s) text = contains text s := by
  rw [Bool.eq_iff_iff, found_iff (productive_lit s), contains_iff]
  constructor
  · rintro ⟨pre, w, post, htext, hreads⟩
    refine ⟨pre, post, ?_⟩
    rw [htext, reads_lit.mp hreads, List.append_assoc]
  · rintro ⟨pre, post, htext⟩
    exact ⟨pre, s.toList, post, by rw [← htext, List.append_assoc], reads_lit.mpr rfl⟩

theorem found_words (w : String) (ws : List String) (text : String) :
    found (words w ws) text = (w :: ws).any (contains text) := by
  rw [words, found_alts, ← List.map_cons, List.any_map]
  exact congrArg (List.any (w :: ws)) (funext (fun s => found_lit s text))

end Literal

section Counting

variable {sep : Char → Bool}

/-- One round of counting reads up to a separator. -/
theorem reads_round {before : Option Char} {w rest : List Char} :
    (Regex.seq (.rep (.sat (fun c => !sep c)) 0 none) (.sat sep)).Reads before w rest ↔
      ∃ u x, w = u ++ [x] ∧ (∀ c ∈ u, sep c = false) ∧ sep x = true := by
  constructor
  · rintro ⟨u, v, rfl, hu, x, rfl, hx⟩
    refine ⟨u, x, rfl, fun c hc => ?_, hx⟩
    have hsat := (reads_rep_sat.mp hu).2.2 c hc
    rwa [Bool.not_eq_true'] at hsat
  · rintro ⟨u, x, rfl, hu, hx⟩
    refine ⟨u, [x], rfl, reads_rep_sat.mpr ⟨Nat.zero_le _, ?_, fun c hc => ?_⟩, x, rfl, hx⟩
    · intro m hm
      cases hm
    · rw [hu c hc]
      rfl

theorem countP_of_none {u : List Char} (h : ∀ c ∈ u, sep c = false) : u.countP sep = 0 := by
  rw [List.countP_eq_zero]
  intro c hc
  rw [h c hc]
  exact Bool.false_ne_true

/-- Several rounds read as many separators. -/
theorem countP_of_rounds {n : Nat} {before : Option Char} {w rest : List Char}
    (h : Rounds (Regex.seq (.rep (.sat (fun c => !sep c)) 0 none) (.sat sep)).Reads
      n before w rest) : w.countP sep = n := by
  induction n generalizing before w with
  | zero =>
      have hw : w = [] := h
      rw [hw]
      rfl
  | succ n ih =>
      rcases h with ⟨u, v, rfl, hu, hv⟩
      rcases reads_round.mp hu with ⟨u, x, rfl, hnone, hx⟩
      have hone : (u ++ [x]).countP sep = 1 := by
        rw [List.countP_append, countP_of_none hnone, List.countP_singleton, if_pos hx]
      rw [List.countP_append, hone, ih hv, Nat.add_comm]

/-- A text with a separator is one round and what is behind it. -/
theorem exists_round {text : List Char} (h : 0 < text.countP sep) :
    ∃ u x v, text = u ++ [x] ++ v ∧ (∀ c ∈ u, sep c = false) ∧ sep x = true ∧
      v.countP sep + 1 = text.countP sep := by
  induction text with
  | nil => exact absurd h (Nat.lt_irrefl 0)
  | cons c cs ih =>
      by_cases hc : sep c = true
      · refine ⟨[], c, cs, rfl, ?_, hc, ?_⟩
        · intro x hx
          cases hx
        · rw [List.countP_cons_of_pos hc]
      · have hc : sep c = false := Bool.eq_false_iff.mpr hc
        have htail : (c :: cs).countP sep = cs.countP sep :=
          List.countP_cons_of_neg (by rw [hc]; exact Bool.false_ne_true)
        rcases ih (htail ▸ h) with ⟨u, x, v, rfl, hnone, hx, hcount⟩
        refine ⟨c :: u, x, v, rfl, List.forall_mem_cons.mpr ⟨hc, hnone⟩, hx, ?_⟩
        rw [htail, hcount]

/-- There are as many rounds in a text as it has separators. -/
theorem exists_rounds {n : Nat} {before : Option Char} {text : List Char}
    (h : n ≤ text.countP sep) : ∃ w post, text = w ++ post ∧
      Rounds (Regex.seq (.rep (.sat (fun c => !sep c)) 0 none) (.sat sep)).Reads
        n before w post := by
  induction n generalizing before text with
  | zero => exact ⟨[], text, rfl, rfl⟩
  | succ n ih =>
      rcases exists_round (Nat.lt_of_lt_of_le (Nat.succ_pos n) h) with
        ⟨u, x, v, rfl, hnone, hx, hcount⟩
      have hrest : n ≤ v.countP sep := by omega
      rcases @ih _ _ hrest with ⟨w, post, rfl, hrounds⟩
      exact ⟨u ++ [x] ++ w, post, (List.append_assoc _ _ _).symm, u ++ [x], w, rfl,
        reads_round.mpr ⟨u, x, rfl, hnone, hx⟩, hrounds⟩

theorem productive_counted (sep : Char → Bool) (n : Nat) : (counted sep n).Productive :=
  productive_of_advances rfl

/-- The separators of a text are counted, wherever they stand. -/
theorem found_counted (sep : Char → Bool) (n : Nat) (text : String) :
    found (counted sep n) text = decide (n ≤ text.toList.countP sep) := by
  rw [Bool.eq_iff_iff, found_iff (productive_counted sep n), decide_eq_true_iff]
  constructor
  · rintro ⟨pre, w, post, htext, k, hk, -, hrounds⟩
    rw [htext, List.countP_append, List.countP_append, countP_of_rounds hrounds]
    omega
  · intro h
    rcases @exists_rounds sep n none _ h with ⟨w, post, htext, hrounds⟩
    refine ⟨[], w, post, htext, n, Nat.le_refl n, ?_, hrounds⟩
    intro m hm
    cases hm

end Counting

section Row

/-- Enough characters of a kind stand in a row. -/
theorem found_rep_sat (p : Char → Bool) (n : Nat) (text : String) :
    found (.rep (.sat p) n none) text = true ↔
      ∃ w, w <:+: text.toList ∧ n ≤ w.length ∧ ∀ c ∈ w, p c = true := by
  have hproductive : (Regex.rep (.sat p) n none).Productive := productive_of_advances rfl
  rw [found_iff hproductive]
  constructor
  · rintro ⟨pre, w, post, htext, hreads⟩
    rcases reads_rep_sat.mp hreads with ⟨hlength, -, hall⟩
    exact ⟨w, ⟨pre, post, by rw [htext, List.append_assoc]⟩, hlength, hall⟩
  · rintro ⟨w, ⟨pre, post, htext⟩, hlength, hall⟩
    refine ⟨pre, w, post, by rw [← htext, List.append_assoc], reads_rep_sat.mpr ⟨hlength, ?_, hall⟩⟩
    intro m hm
    cases hm

end Row

end Py

end AgenticRag

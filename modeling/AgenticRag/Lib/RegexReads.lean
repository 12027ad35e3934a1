import AgenticRag.Lib.Regex

/-!
# What a Regular Expression Reads

The texts a regular expression reads, without the order its matcher tries
them in. `Regex.Reads r before w rest` says that `r` can read `w` where
`before` is the character in front of it and `rest` is the text behind it.
Look-around makes both matter.

The matcher finds just these texts, as long as every expression that is
repeated reads something in each round (`agrees`). So a scan has a match if
and only if the text has a place to read at (`finditer_ne_nil`).

An expression without look-around reads the same texts everywhere
(`reads_of_plain`). Which characters such a text may have and how short it may
be is computed from the expression.

## Main definitions

* `Regex.Reads`: The texts an expression reads between two others.
* `Regex.Plain`, `Regex.allows`, `Regex.minLength`: An expression without
  look-around, its characters and its shortest text.

## Theorems

* `reads_of_plain`: An expression without look-around reads the same texts
  everywhere.
* `minLength_le_of_runs`, `start_lt_stop`: How far the matcher gets.
-/

namespace AgenticRag

namespace Py

section Reads

/-- The character before the position behind a text. -/
def lastOr (before : Option Char) (w : List Char) : Option Char :=
  w.getLast?.or before

@[simp] theorem lastOr_nil (before : Option Char) : lastOr before [] = before := rfl

theorem lastOr_append (before : Option Char) (u v : List Char) :
    lastOr before (u ++ v) = lastOr (lastOr before u) v := by
  rw [lastOr, lastOr, lastOr, List.getLast?_append, Option.or_assoc]

theorem lastOr_none (w : List Char) : lastOr none w = w.getLast? :=
  Option.or_none

/-- Several rounds of a step, one after the other. -/
def Rounds (step : Option Char → List Char → List Char → Prop) :
    Nat → Option Char → List Char → List Char → Prop
  | 0, _, w, _ => w = []
  | n + 1, before, w, rest =>
      ∃ u v, w = u ++ v ∧ step before u (v ++ rest) ∧ Rounds step n (lastOr before u) v rest

/-- An expression reads a text between two others. -/
def Regex.Reads : Regex → Option Char → List Char → List Char → Prop
  | .eps, _, w, _ => w = []
  | .sat p, _, w, _ => ∃ x, w = [x] ∧ p x = true
  | .seq r s, before, w, rest =>
      ∃ u v, w = u ++ v ∧ r.Reads before u (v ++ rest) ∧ s.Reads (lastOr before u) v rest
  | .alt r s, before, w, rest => r.Reads before w rest ∨ s.Reads before w rest
  | .rep r min max, before, w, rest =>
      ∃ n, min ≤ n ∧ (∀ m, max = some m → n ≤ m) ∧ Rounds r.Reads n before w rest
  | .group _ r, before, w, rest => r.Reads before w rest
  | .notAhead r, before, w, rest => w = [] ∧ ∀ u v, rest = u ++ v → ¬ r.Reads before u v
  | .notBehind p, before, w, _ => w = [] ∧ (before.map p).getD false = false

/-- Every repeated expression reads something in each round. -/
def Regex.Productive : Regex → Prop
  | .seq r s => r.Productive ∧ s.Productive
  | .alt r s => r.Productive ∧ s.Productive
  | .rep r _ _ => r.Productive ∧ ∀ before w rest, r.Reads before w rest → w ≠ []
  | .group _ r => r.Productive
  | .notAhead r => r.Productive
  | _ => True

end Reads

section Matcher

/-- One position lies behind another, with a text between them. -/
structure Cursor.Ahead (c c' : Cursor) (w : List Char) : Prop where
  rest : c.rest = w ++ c'.rest
  pos : c'.pos = c.pos + w.length
  before : c'.before = lastOr c.before w

theorem Cursor.Ahead.refl (c : Cursor) : c.Ahead c [] :=
  ⟨rfl, rfl, rfl⟩

theorem Cursor.Ahead.trans {c c' c'' : Cursor} {u v : List Char} (h : c.Ahead c' u)
    (h' : c'.Ahead c'' v) : c.Ahead c'' (u ++ v) := by
  refine ⟨?_, ?_, ?_⟩
  · rw [h.rest, h'.rest, List.append_assoc]
  · rw [h'.pos, h.pos, List.length_append, Nat.add_assoc]
  · rw [h'.before, h.before, lastOr_append]

/-- A matcher reads the texts of a relation and no others. -/
structure Agrees (run : Cursor → List Cursor)
    (reads : Option Char → List Char → List Char → Prop) : Prop where
  sound : ∀ c c', c' ∈ run c → ∃ w, c.Ahead c' w ∧ reads c.before w c'.rest
  complete : ∀ c w rest, c.rest = w ++ rest → reads c.before w rest →
    ∃ c' ∈ run c, c.Ahead c' w ∧ c'.rest = rest

variable {run : Cursor → List Cursor} {reads : Option Char → List Char → List Char → Prop}

theorem Agrees.isEmpty_iff (h : Agrees run reads) (c : Cursor) :
    (run c).isEmpty = true ↔ ∀ u v, c.rest = u ++ v → ¬ reads c.before u v := by
  rw [List.isEmpty_iff]
  constructor
  · intro hempty u v huv hreads
    rcases h.complete c u v huv hreads with ⟨c', hc', -⟩
    rw [hempty] at hc'
    exact List.not_mem_nil hc'
  · intro hnone
    rw [List.eq_nil_iff_forall_not_mem]
    intro c' hc'
    rcases h.sound c c' hc' with ⟨w, hahead, hreads⟩
    exact hnone w c'.rest hahead.rest hreads

theorem repeatRuns_sound (h : Agrees run reads) {fuel min : Nat} {max : Option Nat}
    {c c' : Cursor} (hc' : c' ∈ repeatRuns run fuel min max c) :
    ∃ n w, min ≤ n ∧ (∀ m, max = some m → n ≤ m) ∧ c.Ahead c' w ∧
      Rounds reads n c.before w c'.rest := by
  -- Staying where one is takes no round.
  have hstay : ∀ {min : Nat} {max : Option Nat} {c : Cursor},
      c' ∈ (if min = 0 then [c] else []) →
      ∃ n w, min ≤ n ∧ (∀ m, max = some m → n ≤ m) ∧ c.Ahead c' w ∧
        Rounds reads n c.before w c'.rest := by
    intro min max c hc'
    split at hc'
    next hmin =>
      rw [List.mem_singleton] at hc'
      exact ⟨0, [], Nat.le_of_eq hmin, fun _ _ => Nat.zero_le _, hc' ▸ .refl c, rfl⟩
    · exact absurd hc' List.not_mem_nil
  induction fuel generalizing min max c with
  | zero => exact hstay hc'
  | succ fuel ih =>
      rw [repeatRuns] at hc'
      rcases List.mem_append.mp hc' with hmore | hend
      · split at hmore
        · exact absurd hmore List.not_mem_nil
        next hmax =>
          rcases List.mem_flatMap.mp hmore with ⟨c₁, hc₁, hrest⟩
          rcases h.sound c c₁ hc₁ with ⟨u, hahead, hreads⟩
          split at hrest
          · exact absurd hrest List.not_mem_nil
          · rcases ih hrest with ⟨n, v, hmin, hbound, hahead', hrounds⟩
            refine ⟨n + 1, u ++ v, by omega, ?_, hahead.trans hahead', u, v, rfl, ?_, ?_⟩
            · intro m hm
              have hle := hbound (m - 1) (by rw [hm]; rfl)
              have hpos : m ≠ 0 := fun hm0 => hmax (hm0 ▸ hm)
              omega
            · rw [← hahead'.rest]
              exact hreads
            · rw [← hahead.before]
              exact hrounds
      · exact hstay hend

theorem repeatRuns_complete (h : Agrees run reads)
    (hproductive : ∀ before w rest, reads before w rest → w ≠ []) {n fuel min : Nat}
    {max : Option Nat} {c : Cursor} {w rest : List Char} (hmin : min ≤ n)
    (hmax : ∀ m, max = some m → n ≤ m) (hfuel : n ≤ fuel) (hrest : c.rest = w ++ rest)
    (hrounds : Rounds reads n c.before w rest) :
    ∃ c' ∈ repeatRuns run fuel min max c, c.Ahead c' w ∧ c'.rest = rest := by
  induction n generalizing fuel min max c w with
  | zero =>
      have hw : w = [] := hrounds
      have hmin0 : min = 0 := Nat.le_zero.mp hmin
      rw [hw] at hrest ⊢
      refine ⟨c, ?_, .refl c, hrest⟩
      cases fuel with
      | zero => rw [repeatRuns, if_pos hmin0]; exact List.mem_singleton_self c
      | succ fuel =>
          rw [repeatRuns, if_pos hmin0]
          exact List.mem_append_right _ (List.mem_singleton_self c)
  | succ n ih =>
      rcases hrounds with ⟨u, v, hw, hreads, hrounds⟩
      cases fuel with
      | zero => exact absurd hfuel (Nat.not_succ_le_zero n)
      | succ fuel =>
          rw [hw, List.append_assoc] at hrest
          rcases h.complete c u (v ++ rest) hrest hreads with ⟨c₁, hc₁, hahead, hrest₁⟩
          have hu : u ≠ [] := hproductive _ _ _ hreads
          have hpos : ¬ (c₁.pos = c.pos ∧ min = 0) := by
            have hlength := List.length_pos_iff.mpr hu
            rw [hahead.pos]
            omega
          have hmax0 : max ≠ some 0 := fun hm => absurd (hmax 0 hm) (Nat.not_succ_le_zero n)
          rw [← hahead.before] at hrounds
          have hmin' : min - 1 ≤ n := by omega
          have hmax' : ∀ m, max.map (· - 1) = some m → n ≤ m := by
            intro m hm
            rcases Option.map_eq_some_iff.mp hm with ⟨m', hm', hsub⟩
            have hle := hmax m' hm'
            omega
          rcases ih hmin' hmax' (Nat.le_of_succ_le_succ hfuel) hrest₁ hrounds with
            ⟨c', hc', hahead', hrest'⟩
          refine ⟨c', ?_, hw ▸ hahead.trans hahead', hrest'⟩
          rw [repeatRuns]
          refine List.mem_append_left _ ?_
          rw [if_neg hmax0]
          refine List.mem_flatMap.mpr ⟨c₁, hc₁, ?_⟩
          rw [if_neg hpos]
          exact hc'

/-- Rounds that each read something are no more than the characters read. -/
theorem rounds_le_length (hproductive : ∀ before w rest, reads before w rest → w ≠ []) {n : Nat}
    {before : Option Char} {w rest : List Char} (h : Rounds reads n before w rest) :
    n ≤ w.length := by
  induction n generalizing before w with
  | zero => exact Nat.zero_le _
  | succ n ih =>
      rcases h with ⟨u, v, rfl, hreads, hrounds⟩
      have hu := List.length_pos_iff.mpr (hproductive _ _ _ hreads)
      have hv := ih hrounds
      rw [List.length_append]
      omega

theorem mem_runs_sat {p : Char → Bool} {c c' : Cursor} :
    c' ∈ (Regex.sat p).runs c ↔ ∃ x xs, c.rest = x :: xs ∧ p x = true ∧
      c' = { c with pos := c.pos + 1, before := some x, rest := xs } := by
  rw [Regex.runs, Cursor.next]
  cases c.rest with
  | nil => simp
  | cons x xs =>
      by_cases hp : p x = true
      · simp [hp]
      · simp [hp]

/-- Looking around leaves the matcher where it is. -/
theorem mem_runs_notAhead {r : Regex} {c c' : Cursor} :
    c' ∈ (Regex.notAhead r).runs c ↔ (r.runs c).isEmpty = true ∧ c' = c := by
  rw [Regex.runs]
  split_ifs with h
  · rw [List.mem_singleton, and_iff_right h]
  · exact iff_of_false List.not_mem_nil (fun hboth => h hboth.1)

theorem mem_runs_notBehind {p : Char → Bool} {c c' : Cursor} :
    c' ∈ (Regex.notBehind p).runs c ↔ (c.before.map p).getD false = false ∧ c' = c := by
  rw [Regex.runs]
  split_ifs with h
  · exact iff_of_false List.not_mem_nil (fun hboth => Bool.eq_false_iff.mp hboth.1 h)
  · rw [List.mem_singleton, and_iff_right (Bool.eq_false_iff.mpr h)]

/-- The matcher of an expression reads its texts and no others. -/
theorem agrees (r : Regex) (h : r.Productive) : Agrees r.runs r.Reads := by
  induction r with
  | eps =>
      refine ⟨fun c c' hc' => ?_, fun c w rest hrest hreads => ?_⟩
      · rw [Regex.runs, List.mem_singleton] at hc'
        exact ⟨[], hc' ▸ .refl c, rfl⟩
      · have hw : w = [] := hreads
        rw [hw] at hrest ⊢
        exact ⟨c, List.mem_singleton_self c, .refl c, hrest⟩
  | sat p =>
      refine ⟨fun c c' hc' => ?_, fun c w rest hrest hreads => ?_⟩
      · rcases mem_runs_sat.mp hc' with ⟨x, xs, hcons, hp, rfl⟩
        exact ⟨[x], ⟨hcons, rfl, rfl⟩, x, rfl, hp⟩
      · rcases hreads with ⟨x, rfl, hp⟩
        exact ⟨_, mem_runs_sat.mpr ⟨x, rest, hrest, hp, rfl⟩, ⟨hrest, rfl, rfl⟩, rfl⟩
  | seq r s ihr ihs =>
      have hr := ihr h.1
      have hs := ihs h.2
      refine ⟨fun c c' hc' => ?_, fun c w rest hrest hreads => ?_⟩
      · rw [Regex.runs] at hc'
        rcases List.mem_flatMap.mp hc' with ⟨c₁, hc₁, hc'⟩
        rcases hr.sound c c₁ hc₁ with ⟨u, hahead, hu⟩
        rcases hs.sound c₁ c' hc' with ⟨v, hahead', hv⟩
        refine ⟨u ++ v, hahead.trans hahead', u, v, rfl, ?_, ?_⟩
        · rw [← hahead'.rest]
          exact hu
        · rw [← hahead.before]
          exact hv
      · rcases hreads with ⟨u, v, rfl, hu, hv⟩
        rw [List.append_assoc] at hrest
        rcases hr.complete c u (v ++ rest) hrest hu with ⟨c₁, hc₁, hahead, hrest₁⟩
        rw [← hahead.before] at hv
        rcases hs.complete c₁ v rest hrest₁ hv with ⟨c', hc', hahead', hrest'⟩
        exact ⟨c', List.mem_flatMap.mpr ⟨c₁, hc₁, hc'⟩, hahead.trans hahead', hrest'⟩
  | alt r s ihr ihs =>
      have hr := ihr h.1
      have hs := ihs h.2
      refine ⟨fun c c' hc' => ?_, fun c w rest hrest hreads => ?_⟩
      · rcases List.mem_append.mp hc' with hc' | hc'
        · rcases hr.sound c c' hc' with ⟨w, hahead, hreads⟩
          exact ⟨w, hahead, Or.inl hreads⟩
        · rcases hs.sound c c' hc' with ⟨w, hahead, hreads⟩
          exact ⟨w, hahead, Or.inr hreads⟩
      · rcases hreads with hreads | hreads
        · rcases hr.complete c w rest hrest hreads with ⟨c', hc', hahead⟩
          exact ⟨c', List.mem_append_left _ hc', hahead⟩
        · rcases hs.complete c w rest hrest hreads with ⟨c', hc', hahead⟩
          exact ⟨c', List.mem_append_right _ hc', hahead⟩
  | rep r min max ih =>
      have hr := ih h.1
      refine ⟨fun c c' hc' => ?_, fun c w rest hrest hreads => ?_⟩
      · rcases repeatRuns_sound hr hc' with ⟨n, w, hmin, hmax, hahead, hrounds⟩
        exact ⟨w, hahead, n, hmin, hmax, hrounds⟩
      · rcases hreads with ⟨n, hmin, hmax, hrounds⟩
        have hlength := rounds_le_length h.2 hrounds
        refine repeatRuns_complete hr h.2 hmin hmax ?_ hrest hrounds
        rw [hrest, List.length_append]
        omega
  | group name r ih =>
      have hr := ih h
      refine ⟨fun c c' hc' => ?_, fun c w rest hrest hreads => ?_⟩
      · rcases List.mem_map.mp hc' with ⟨c₁, hc₁, rfl⟩
        rcases hr.sound c c₁ hc₁ with ⟨w, hahead, hreads⟩
        exact ⟨w, ⟨hahead.rest, hahead.pos, hahead.before⟩, hreads⟩
      · rcases hr.complete c w rest hrest hreads with ⟨c₁, hc₁, hahead, hrest₁⟩
        exact ⟨_, List.mem_map_of_mem hc₁, ⟨hrest₁ ▸ hrest, hahead.pos, hahead.before⟩, hrest₁⟩
  | notAhead r ih =>
      have hr := ih h
      refine ⟨fun c c' hc' => ?_, fun c w rest hrest hreads => ?_⟩
      · rcases mem_runs_notAhead.mp hc' with ⟨hempty, rfl⟩
        exact ⟨[], .refl c', rfl, (hr.isEmpty_iff c').mp hempty⟩
      · rcases hreads with ⟨rfl, hnone⟩
        have hempty := (hr.isEmpty_iff c).mpr (fun u v huv => hnone u v (hrest.symm.trans huv))
        exact ⟨c, mem_runs_notAhead.mpr ⟨hempty, rfl⟩, .refl c, hrest⟩
  | notBehind p =>
      refine ⟨fun c c' hc' => ?_, fun c w rest hrest hreads => ?_⟩
      · rcases mem_runs_notBehind.mp hc' with ⟨hbehind, rfl⟩
        exact ⟨[], .refl c', rfl, hbehind⟩
      · rcases hreads with ⟨rfl, hbehind⟩
        exact ⟨c, mem_runs_notBehind.mpr ⟨hbehind, rfl⟩, .refl c, hrest⟩

end Matcher

section Scan

theorem matchAt_isSome (r : Regex) (c : Cursor) :
    (r.matchAt c).isSome = !(r.runs c).isEmpty := by
  rw [Regex.matchAt, Option.isSome_map]
  cases r.runs c <;> rfl

/-- A scan has a match if and only if a run starts somewhere. -/
theorem finditerFrom_ne_nil (r : Regex) (cs : List Char) (pos : Nat) (before : Option Char) :
    finditerFrom r pos before 0 cs ≠ [] ↔ ∃ pre post, cs = pre ++ post ∧
      (r.runs ⟨pos + pre.length, lastOr before pre, post, []⟩).isEmpty = false := by
  have hhere : ∀ (pos : Nat) (before : Option Char) (cs : List Char),
      (r.matchAt ⟨pos, before, cs, []⟩).isSome = true ↔
        (r.runs ⟨pos, before, cs, []⟩).isEmpty = false := by
    intro pos before cs
    rw [matchAt_isSome, Bool.not_eq_true']
  induction cs generalizing pos before with
  | nil =>
      rw [finditerFrom, ne_eq, Option.toList_eq_nil_iff, ← ne_eq, Option.ne_none_iff_isSome, hhere]
      constructor
      · exact fun h => ⟨[], [], rfl, h⟩
      · rintro ⟨pre, post, hsplit, h⟩
        rcases List.append_eq_nil_iff.mp hsplit.symm with ⟨rfl, rfl⟩
        exact h
  | cons x xs ih =>
      rw [finditerFrom]
      cases hm : r.matchAt ⟨pos, before, x :: xs, []⟩ with
      | some m =>
          have hrun := (hhere pos before (x :: xs)).mp (by rw [hm]; rfl)
          exact ⟨fun _ => ⟨[], x :: xs, rfl, hrun⟩, fun _ => List.cons_ne_nil _ _⟩
      | none =>
          have hno : ¬ (r.runs ⟨pos, before, x :: xs, []⟩).isEmpty = false := by
            rw [← hhere, hm]
            exact Bool.false_ne_true
          dsimp only
          refine (ih (pos + 1) (some x)).trans ?_
          constructor
          · rintro ⟨pre, post, hsplit, h⟩
            refine ⟨x :: pre, post, by rw [hsplit]; rfl, ?_⟩
            rw [List.length_cons, show x :: pre = [x] ++ pre from rfl, lastOr_append,
              Nat.add_comm pre.length 1, ← Nat.add_assoc]
            exact h
          · rintro ⟨pre, post, hsplit, h⟩
            cases pre with
            | nil => exact absurd (hsplit ▸ h) hno
            | cons y pre =>
                rcases List.cons.inj hsplit with ⟨rfl, htail⟩
                refine ⟨pre, post, htail, ?_⟩
                rw [List.length_cons, show x :: pre = [x] ++ pre from rfl, lastOr_append,
                  Nat.add_comm pre.length 1, ← Nat.add_assoc] at h
                exact h

/-- A text has a match if and only if it has a place to read at. -/
theorem finditer_ne_nil {r : Regex} (h : r.Productive) (text : String) :
    finditer r text ≠ [] ↔ ∃ pre w post, text.toList = pre ++ (w ++ post) ∧
      r.Reads pre.getLast? w post := by
  rw [finditer, finditerFrom_ne_nil]
  constructor
  · rintro ⟨pre, post, hsplit, hrun⟩
    rw [Bool.eq_false_iff, ne_eq, (agrees r h).isEmpty_iff, not_forall] at hrun
    rcases hrun with ⟨w, hrun⟩
    rw [not_forall] at hrun
    rcases hrun with ⟨rest, hrun⟩
    rw [Classical.not_imp, not_not, lastOr_none] at hrun
    exact ⟨pre, w, rest, hsplit.trans (congrArg (pre ++ ·) hrun.1), hrun.2⟩
  · rintro ⟨pre, w, post, hsplit, hreads⟩
    refine ⟨pre, w ++ post, hsplit, ?_⟩
    rw [Bool.eq_false_iff, ne_eq, (agrees r h).isEmpty_iff]
    intro hnone
    rw [lastOr_none] at hnone
    exact hnone w post rfl hreads

end Scan

section LookAround

/-- An expression reads nothing and asks something about the place it is
    at. -/
def Tests (r : Regex) (before : Option Char) (P : List Char → Prop) : Prop :=
  ∀ w rest, r.Reads before w rest ↔ w = [] ∧ P rest

theorem tests_notAhead {r : Regex} {before : Option Char} {P : List Char → Prop}
    (h : Tests r before P) : Tests (.notAhead r) before (fun rest => ¬ P rest) := by
  intro w rest
  rw [Regex.Reads]
  refine and_congr_right (fun _ => ?_)
  constructor
  · exact fun hnone hP => hnone [] rest rfl ((h [] rest).mpr ⟨rfl, hP⟩)
  · rintro hP u v rfl hreads
    rcases (h u v).mp hreads with ⟨rfl, hv⟩
    exact hP hv

theorem tests_seq {r s : Regex} {before : Option Char} {P Q : List Char → Prop}
    (hr : Tests r before P) (hs : Tests s before Q) :
    Tests (.seq r s) before (fun rest => P rest ∧ Q rest) := by
  intro w rest
  rw [Regex.Reads]
  constructor
  · rintro ⟨u, v, rfl, hu, hv⟩
    rcases (hr u (v ++ rest)).mp hu with ⟨rfl, hP⟩
    rcases (hs v rest).mp hv with ⟨rfl, hQ⟩
    exact ⟨rfl, hP, hQ⟩
  · rintro ⟨rfl, hP, hQ⟩
    exact ⟨[], [], rfl, (hr [] rest).mpr ⟨rfl, hP⟩, (hs [] rest).mpr ⟨rfl, hQ⟩⟩

theorem tests_notBehind (p : Char → Bool) (before : Option Char) :
    Tests (.notBehind p) before (fun _ => (before.map p).getD false = false) :=
  fun _ _ => Iff.rfl

theorem tests_notAhead_sat (p : Char → Bool) (before : Option Char) :
    Tests (.notAhead (.sat p)) before (fun rest => (rest.head?.map p).getD false = false) := by
  intro w rest
  rw [Regex.Reads]
  refine and_congr_right (fun _ => ?_)
  cases rest with
  | nil =>
      refine ⟨fun _ => rfl, ?_⟩
      rintro - u v huv ⟨x, rfl, -⟩
      exact absurd huv (List.cons_ne_nil x v).symm
  | cons x xs =>
      constructor
      · exact fun hnone => Bool.eq_false_iff.mpr (fun hp => hnone [x] xs rfl ⟨x, rfl, hp⟩)
      · rintro hp u v huv ⟨y, rfl, hy⟩
        rcases List.cons.inj huv with ⟨rfl, -⟩
        exact Bool.eq_false_iff.mp hp hy

/-- What the pattern `\b` asks for. -/
theorem reads_boundary (isWord : Char → Bool) (before : Option Char) :
    Tests (boundary isWord) before (fun rest => atBoundary isWord before rest.head? = true) := by
  have hword := tests_notAhead_sat isWord before
  have hleft := tests_seq (tests_notBehind isWord before) (tests_notAhead hword)
  have hright := tests_seq (tests_notAhead (tests_notBehind isWord before)) hword
  intro w rest
  rw [boundary, Regex.Reads, hleft w rest, hright w rest, ← and_or_left]
  refine and_congr_right (fun _ => ?_)
  dsimp only [atBoundary]
  cases (before.map isWord).getD false <;> cases (rest.head?.map isWord).getD false <;> decide

theorem productive_boundary (isWord : Char → Bool) : (boundary isWord).Productive :=
  ⟨⟨trivial, trivial⟩, trivial, trivial⟩

end LookAround

section Plain

/-- An expression without look-around. -/
def Regex.Plain : Regex → Prop
  | .seq r s => r.Plain ∧ s.Plain
  | .alt r s => r.Plain ∧ s.Plain
  | .rep r _ _ => r.Plain
  | .group _ r => r.Plain
  | .notAhead _ => False
  | .notBehind _ => False
  | _ => True

/-- A character may stand in a text that the expression reads. -/
def Regex.allows : Regex → Char → Bool
  | .sat p, c => p c
  | .seq r s, c => r.allows c || s.allows c
  | .alt r s, c => r.allows c || s.allows c
  | .rep r _ _, c => r.allows c
  | .group _ r, c => r.allows c
  | _, _ => false

/-- The length below which the expression reads no text. -/
def Regex.minLength : Regex → Nat
  | .sat _ => 1
  | .seq r s => r.minLength + s.minLength
  | .alt r s => min r.minLength s.minLength
  | .rep r least _ => least * r.minLength
  | .group _ r => r.minLength
  | _ => 0

theorem rounds_congr {step step' : Option Char → List Char → List Char → Prop}
    (h : ∀ before w rest before' rest', step before w rest → step' before' w rest') {n : Nat}
    {before before' : Option Char} {w rest rest' : List Char}
    (hrounds : Rounds step n before w rest) : Rounds step' n before' w rest' := by
  induction n generalizing before before' w with
  | zero => exact hrounds
  | succ n ih =>
      rcases hrounds with ⟨u, v, rfl, hstep, hrounds⟩
      exact ⟨u, v, rfl, h _ _ _ _ _ hstep, ih hrounds⟩

/-- An expression without look-around reads the same texts everywhere. -/
theorem reads_of_plain {r : Regex} (hplain : r.Plain) {before before' : Option Char}
    {w rest rest' : List Char} (h : r.Reads before w rest) : r.Reads before' w rest' := by
  induction r generalizing before before' w rest rest' with
  | eps => exact h
  | sat p => exact h
  | seq r s ihr ihs =>
      rcases h with ⟨u, v, rfl, hu, hv⟩
      exact ⟨u, v, rfl, ihr hplain.1 hu, ihs hplain.2 hv⟩
  | alt r s ihr ihs =>
      rcases h with h | h
      · exact Or.inl (ihr hplain.1 h)
      · exact Or.inr (ihs hplain.2 h)
  | rep r min max ih =>
      rcases h with ⟨n, hmin, hmax, hrounds⟩
      have hstep : ∀ before w rest before' rest', r.Reads before w rest →
          r.Reads before' w rest' := fun _ _ _ _ _ => ih hplain
      exact ⟨n, hmin, hmax, rounds_congr hstep hrounds⟩
  | group name r ih => exact ih (w := w) hplain h
  | notAhead r => exact hplain.elim
  | notBehind p => exact hplain.elim

/-- A text read without look-around has only characters the expression
    allows. -/
theorem allows_of_reads {r : Regex} (hplain : r.Plain) {before : Option Char} {w rest : List Char}
    (h : r.Reads before w rest) : ∀ c ∈ w, r.allows c = true := by
  induction r generalizing before w rest with
  | eps =>
      have hw : w = [] := h
      rw [hw]
      exact fun c hc => absurd hc List.not_mem_nil
  | sat p =>
      rcases h with ⟨x, rfl, hp⟩
      intro c hc
      rw [List.mem_singleton.mp hc]
      exact hp
  | seq r s ihr ihs =>
      rcases h with ⟨u, v, rfl, hu, hv⟩
      intro c hc
      rw [Regex.allows, Bool.or_eq_true]
      exact (List.mem_append.mp hc).imp (ihr hplain.1 hu c) (ihs hplain.2 hv c)
  | alt r s ihr ihs =>
      intro c hc
      rw [Regex.allows, Bool.or_eq_true]
      exact h.imp (fun h => ihr hplain.1 h c hc) (fun h => ihs hplain.2 h c hc)
  | rep r min max ih =>
      rcases h with ⟨n, -, -, hrounds⟩
      induction n generalizing before w with
      | zero =>
          have hw : w = [] := hrounds
          rw [hw]
          exact fun c hc => absurd hc List.not_mem_nil
      | succ n ihn =>
          rcases hrounds with ⟨u, v, rfl, hu, hv⟩
          intro c hc
          rcases List.mem_append.mp hc with hc | hc
          · exact ih hplain hu c hc
          · exact ihn hv c hc
  | group name r ih => exact ih (w := w) hplain h
  | notAhead r => exact hplain.elim
  | notBehind p => exact hplain.elim

/-- A text the expression reads is no shorter than its least length. -/
theorem minLength_le_of_reads {r : Regex} {before : Option Char} {w rest : List Char}
    (h : r.Reads before w rest) : r.minLength ≤ w.length := by
  induction r generalizing before w rest with
  | sat p =>
      rcases h with ⟨x, rfl, -⟩
      exact Nat.le_refl 1
  | seq r s ihr ihs =>
      rcases h with ⟨u, v, rfl, hu, hv⟩
      rw [Regex.minLength, List.length_append]
      exact Nat.add_le_add (ihr hu) (ihs hv)
  | alt r s ihr ihs =>
      rcases h with h | h
      · exact (Nat.min_le_left _ _).trans (ihr h)
      · exact (Nat.min_le_right _ _).trans (ihs h)
  | rep r least most ih =>
      rcases h with ⟨n, hleast, -, hrounds⟩
      have hrounds' : n * r.minLength ≤ w.length := by
        clear hleast
        induction n generalizing before w with
        | zero =>
            rw [Nat.zero_mul]
            exact Nat.zero_le _
        | succ n ihn =>
            rcases hrounds with ⟨u, v, rfl, hu, hv⟩
            rw [Nat.succ_mul, List.length_append, Nat.add_comm]
            exact Nat.add_le_add (ih hu) (ihn hv)
      exact (Nat.mul_le_mul_right _ hleast).trans hrounds'
  | group name r ih => exact ih (w := w) h
  | eps => exact Nat.zero_le _
  | notAhead r => exact Nat.zero_le _
  | notBehind p => exact Nat.zero_le _

theorem ne_nil_of_reads {r : Regex} (hlength : 0 < r.minLength) {before : Option Char}
    {w rest : List Char} (h : r.Reads before w rest) : w ≠ [] :=
  List.length_pos_iff.mp (Nat.lt_of_lt_of_le hlength (minLength_le_of_reads h))

/-- A repetition gets as far as its least number of rounds. -/
theorem minLength_le_of_repeatRuns {step : Cursor → List Cursor} {k : Nat}
    (hstep : ∀ c c', c' ∈ step c → c.pos + k ≤ c'.pos) {fuel least : Nat} {most : Option Nat}
    {c c' : Cursor} (h : c' ∈ repeatRuns step fuel least most c) :
    c.pos + least * k ≤ c'.pos := by
  induction fuel generalizing least most c with
  | zero =>
      rw [repeatRuns] at h
      split at h
      next hleast =>
        rw [List.mem_singleton.mp h, hleast]
        omega
      · cases h
  | succ fuel ih =>
      rw [repeatRuns] at h
      rcases List.mem_append.mp h with h | h
      · split at h
        · cases h
        · rcases List.mem_flatMap.mp h with ⟨d, hd, h⟩
          have hround := hstep c d hd
          split at h
          · cases h
          · have hrest := ih h
            -- One round is done, so one less is asked of the rest.
            have hle : least * k ≤ k + (least - 1) * k := by
              cases least with
              | zero => omega
              | succ m =>
                  rw [Nat.add_sub_cancel, Nat.succ_mul]
                  omega
            omega
      · split at h
        next hleast =>
          rw [List.mem_singleton.mp h, hleast]
          omega
        · cases h

/-- The matcher gets no less far than the least length. -/
theorem minLength_le_of_runs (r : Regex) {c c' : Cursor} (h : c' ∈ r.runs c) :
    c.pos + r.minLength ≤ c'.pos := by
  induction r generalizing c c' with
  | eps =>
      rw [Regex.runs] at h
      rw [List.mem_singleton.mp h]
      exact Nat.le_refl _
  | sat p =>
      rcases mem_runs_sat.mp h with ⟨x, xs, -, -, rfl⟩
      exact Nat.le_refl _
  | seq r s ihr ihs =>
      rw [Regex.runs] at h
      rcases List.mem_flatMap.mp h with ⟨d, hd, h⟩
      have hr := ihr hd
      have hs := ihs h
      rw [Regex.minLength]
      omega
  | alt r s ihr ihs =>
      rw [Regex.runs] at h
      rw [Regex.minLength]
      rcases List.mem_append.mp h with h | h
      · have hr := ihr h
        omega
      · have hs := ihs h
        omega
  | rep r least most ih =>
      rw [Regex.runs] at h
      exact minLength_le_of_repeatRuns (fun _ _ hstep => ih hstep) h
  | group name r ih =>
      rw [Regex.runs] at h
      rcases List.mem_map.mp h with ⟨d, hd, rfl⟩
      have hr := ih hd
      exact hr
  | notAhead r =>
      rw [(mem_runs_notAhead.mp h).2]
      exact Nat.le_refl _
  | notBehind p =>
      rw [(mem_runs_notBehind.mp h).2]
      exact Nat.le_refl _

theorem finditerFrom_matchAt {r : Regex} {cs : List Char} {pos skip : Nat} {before : Option Char}
    {m : Match} (h : m ∈ finditerFrom r pos before skip cs) : ∃ c, r.matchAt c = some m := by
  induction cs generalizing pos skip before with
  | nil =>
      cases skip with
      | zero =>
          rw [finditerFrom, Option.mem_toList] at h
          exact ⟨_, h⟩
      | succ skip => cases h
  | cons x xs ih =>
      cases skip with
      | succ skip => exact ih h
      | zero =>
          rw [finditerFrom] at h
          split at h
          · exact ih h
          next m' hm' =>
            rcases List.mem_cons.mp h with rfl | h
            · exact ⟨_, hm'⟩
            · exact ih h

/-- A match of an expression that reads something has a length. -/
theorem start_lt_stop {r : Regex} (hlength : 0 < r.minLength) {text : String} {m : Match}
    (h : m ∈ finditer r text) : m.start < m.stop := by
  rcases finditerFrom_matchAt h with ⟨c, hc⟩
  rcases Option.map_eq_some_iff.mp hc with ⟨c', hc', rfl⟩
  have hruns := minLength_le_of_runs r (List.mem_of_head? hc')
  show c.pos < c'.pos
  omega

end Plain

end Py

end AgenticRag

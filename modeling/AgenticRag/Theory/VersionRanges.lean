import AgenticRag.Theory.VersionTexts

/-!
# Ranges of Versions

What constraints mean, and that the versions a constraint is resolved to are the
highest that meet it. A caret and a tilde lock the first numbers of a version: a
caret those up to the first that is not zero, a tilde the first two, or the only
one. The two comparisons that stand for them hold for the same versions
(`caretToPep440_range`, `tildeToPep440_range`).

How comparisons are read is a parameter, since the package reads more of them than
the simple reading does. A constraint that is supported for a reading is
normalized to a text that is read as what the constraint means
(`normalizeConstraint_reads`). The rest is the same on both paths: what meets the
constraint is kept, and the highest of it is taken (`resolve_highest`).

## Main definitions

* `caretLock`, `locked`: The versions a caret or a tilde stands for.
* `Path`: The package is installed, or it is not.

## Theorems

* `normalizeConstraint_reads`: What a constraint is normalized to.
* `maxVersion_highest`: The highest version.
* `resolve_highest`: The highest version that meets a constraint.
-/

namespace AgenticRag

namespace Versions

open Py Py.Json Ordered

section Meaning

/-- The numbers a caret locks: those up to the first that is not zero. -/
def caretLock (low : Semver) : List Nat :=
  if low.major ≠ 0 then [low.major]
  else if low.minor ≠ 0 then [0, low.minor]
  else [0, 0, low.patch]

/-- A version is not below another, and starts with the numbers that are locked. -/
def locked (low : Semver) (lock : List Nat) (v : Semver) : Bool :=
  decide (low ≤ v) && v.startsWith lock

/-- A version is not below another, and below a third. -/
def between (low upper v : Semver) : Bool := decide (low ≤ v) && decide (v < upper)

/-- The constraints of the syntax that is supported, for a reading of comparisons,
    and the versions that meet them. -/
inductive Supported (reads : String → Option (Semver → Bool)) : String → (Semver → Bool) → Prop
  | any : Supported reads "*" (fun _ => true)
  | caret {rest : String} {nums : List Nat} (h : releaseOf (strip rest) = some nums) :
      Supported reads ("^" ++ rest) (locked (semverOf nums) (caretLock (semverOf nums)))
  | tilde {rest : String} {nums : List Nat} (h : releaseOf (strip rest) = some nums) :
      Supported reads ("~" ++ rest) (locked (semverOf nums) (nums.take 2))
  | comparisons {text : String} {meets : Semver → Bool} (hne : text ≠ "") (hstar : text ≠ "*")
      (hcaret : startsWith text "^" = false) (htilde : startsWith text "~" = false)
      (h : reads text = some meets) : Supported reads text meets

/-- A reading that reads more supports more. -/
theorem Supported.mono {reads reads' : String → Option (Semver → Bool)}
    (hreads : ∀ text meets, reads text = some meets → reads' text = some meets) {core : String}
    {meets : Semver → Bool} (h : Supported reads core meets) : Supported reads' core meets := by
  cases h with
  | any => exact .any
  | caret h => exact .caret h
  | tilde h => exact .tilde h
  | comparisons hne hstar hcaret htilde h =>
      exact .comparisons hne hstar hcaret htilde (hreads _ _ h)

theorem Supported.ne_empty {reads : String → Option (Semver → Bool)} {core : String}
    {meets : Semver → Bool} (h : Supported reads core meets) : core ≠ "" := by
  intro hempty
  have hnil := congrArg String.toList hempty
  cases h with
  | comparisons hne => exact hne hempty
  | _ => simp at hnil

theorem Supported.eq_any {reads : String → Option (Semver → Bool)} {core : String}
    {meets : Semver → Bool} (h : Supported reads core meets) (hany : core = "*") :
    meets = fun _ => true := by
  have hstar := congrArg String.toList hany
  cases h with
  | any => rfl
  | comparisons _ hne => exact absurd hany hne
  | _ => simp at hstar

/-- The bounds a caret is replaced by hold for the versions it stands for. -/
theorem caretToPep440_range {ver : String} {low : Semver} (h : parseSemver ver = low) :
    ∃ upper, caretToPep440 ver = rangeText low upper ∧
      between low upper = locked low (caretLock low) := by
  refine ⟨_, by rw [caretToPep440, h], funext fun v => ?_⟩
  rw [between, locked, Bool.eq_iff_iff, Bool.and_eq_true, Bool.and_eq_true, decide_eq_true_eq,
    decide_eq_true_eq]
  refine and_congr_right fun hlow => ?_
  rw [Semver.le_iff] at hlow
  rw [Semver.lt_iff, Semver.startsWith, caretLock]
  split_ifs <;> simp <;> omega

/-- The bounds a tilde is replaced by hold for the versions it stands for. -/
theorem tildeToPep440_range {ver : String} {nums : List Nat}
    (h : releaseOf (strip ver) = some nums) :
    ∃ upper, tildeToPep440 ver = rangeText (semverOf nums) upper ∧
      between (semverOf nums) upper = locked (semverOf nums) (nums.take 2) := by
  have hlength : (split (strip ver) ".").length = nums.length := by
    rw [releaseOf] at h
    split_ifs at h
    rw [← map_leadingNumber h, List.length_map]
  refine ⟨_, by rw [tildeToPep440, parseSemver_of_releaseOf h, hlength], funext fun v => ?_⟩
  rw [between, locked, Bool.eq_iff_iff, Bool.and_eq_true, Bool.and_eq_true, decide_eq_true_eq,
    decide_eq_true_eq]
  refine and_congr_right fun hlow => ?_
  rw [Semver.le_iff] at hlow
  rw [Semver.lt_iff, Semver.startsWith]
  rcases nums with _ | ⟨major, _ | ⟨minor, rest⟩⟩
  · simp [split, splitFrom_ne_nil] at hlength
  · simp [semverOf] at hlow ⊢
    omega
  · simp [semverOf] at hlow ⊢
    omega

/-- What a constraint is normalized to is read as what the constraint means. -/
theorem normalizeConstraint_reads {reads : String → Option (Semver → Bool)}
    (hrange : ∀ low upper, reads (rangeText low upper) = some (between low upper))
    {core : String} {meets : Semver → Bool} (h : Supported reads core meets)
    (hcore : strip core = core) (hstar : core ≠ "*") :
    reads (normalizeConstraint core) = some meets := by
  cases h with
  | any => exact absurd rfl hstar
  | @caret rest nums h =>
      have hrest : dropFront ("^" ++ rest) 1 = rest := dropFront_append "^" rest
      rcases caretToPep440_range (parseSemver_of_releaseOf h) with ⟨upper, htext, hbetween⟩
      rw [normalizeConstraint, hcore, if_pos (startsWith_append _ _), hrest, htext, hrange,
        hbetween]
  | @tilde rest nums h =>
      have hrest : dropFront ("~" ++ rest) 1 = rest := dropFront_append "~" rest
      have hcaret : startsWith ("~" ++ rest) "^" = false := by simp [startsWith]
      rcases tildeToPep440_range h with ⟨upper, htext, hbetween⟩
      rw [normalizeConstraint, hcore, hcaret, if_neg Bool.false_ne_true,
        if_pos (startsWith_append _ _), hrest, htext, hrange, hbetween]
  | comparisons _ _ hcaret htilde h =>
      rw [normalizeConstraint, hcore, hcaret, if_neg Bool.false_ne_true, htilde,
        if_neg Bool.false_ne_true, h]

end Meaning

section Maximum

/-- The last element in rising order is the highest. -/
theorem le_last_insertionSort {α β : Type} [LinearOrder β] (key : α → β) {xs : List α} {last : α}
    (h : (xs.insertionSort (fun a b => key a ≤ key b)).getLast? = some last) :
    last ∈ xs ∧ ∀ x ∈ xs, key x ≤ key last := by
  have htotal : Std.Total (fun a b => key a ≤ key b) := ⟨fun a b => le_total (key a) (key b)⟩
  have htrans : IsTrans α (fun a b => key a ≤ key b) := ⟨fun _ _ _ => le_trans⟩
  have hsorted := List.pairwise_insertionSort (fun a b => key a ≤ key b) xs
  rcases List.getLast?_eq_some_iff.mp h with ⟨front, hfront⟩
  have hmem : ∀ x, x ∈ xs ↔ x ∈ front ∨ x = last := fun x => by
    rw [← List.mem_insertionSort (fun a b => key a ≤ key b), hfront, List.mem_append,
      List.mem_singleton]
  rw [hfront, List.pairwise_append] at hsorted
  refine ⟨(hmem last).mpr (.inr rfl), fun x hx => ?_⟩
  rcases (hmem x).mp hx with hx | rfl
  · exact hsorted.2.2 x hx last (List.mem_singleton_self last)
  · exact le_refl _

/-- The text of the highest of the versions that meet a constraint, if there are
    some. -/
def Highest (versions : List Semver) (meets : Semver → Bool) (result : Option String) : Prop :=
  (∃ v ∈ versions, meets v = true ∧ (∀ w ∈ versions, meets w = true → w ≤ v) ∧
    result = some v.text) ∨
  ((∀ w ∈ versions, meets w = false) ∧ result = none)

variable {versions : List Semver} {meets : Semver → Bool} {result result' : Option String}

theorem Highest.unique (h : Highest versions meets result) (h' : Highest versions meets result') :
    result = result' := by
  rcases h with ⟨v, hv, hmeets, hle, rfl⟩ | ⟨hnone, rfl⟩
  · rcases h' with ⟨v', hv', hmeets', hle', rfl⟩ | ⟨hnone, -⟩
    · rw [le_antisymm (hle' v hv hmeets) (hle v' hv' hmeets')]
    · rw [hnone v hv] at hmeets
      cases hmeets
  · rcases h' with ⟨v', hv', hmeets', -, -⟩ | ⟨-, rfl⟩
    · rw [hnone v' hv'] at hmeets'
      cases hmeets'
    · rfl

/-- The highest of those that meet a constraint is the highest of all that are
    kept for it. -/
theorem Highest.of_filter (h : Highest (versions.filter meets) (fun _ => true) result) :
    Highest versions meets result := by
  rcases h with ⟨v, hv, -, hle, rfl⟩ | ⟨hnone, rfl⟩
  · rcases List.mem_filter.mp hv with ⟨hv, hmeets⟩
    exact .inl ⟨v, hv, hmeets, fun w hw hmeets => hle w (List.mem_filter.mpr ⟨hw, hmeets⟩) rfl, rfl⟩
  · refine .inr ⟨fun w hw => Bool.eq_false_iff.mpr fun hmeets => ?_, rfl⟩
    cases hnone w (List.mem_filter.mpr ⟨hw, hmeets⟩)

/-- A single version is what is found if it meets the constraint. -/
theorem Highest.singleton_iff {v : Semver} (h : Highest [v] meets result) :
    result = some v.text ↔ meets v = true := by
  rcases h with ⟨w, hw, hmeets, -, rfl⟩ | ⟨hnone, rfl⟩
  · rw [List.mem_singleton.mp hw] at hmeets ⊢
    exact ⟨fun _ => hmeets, fun _ => rfl⟩
  · rw [hnone v List.mem_cons_self]
    exact ⟨fun h => (nomatch h), fun h => (nomatch h)⟩

theorem argmax_highest (versions : List Semver) :
    Highest versions (fun _ => true) ((versions.map Semver.text).argmax parseSemver) := by
  cases hmax : (versions.map Semver.text).argmax parseSemver with
  | none =>
      rw [List.argmax_eq_none, List.map_eq_nil_iff] at hmax
      exact .inr ⟨by rw [hmax]; exact fun w hw => (nomatch hw), rfl⟩
  | some text =>
      rcases List.mem_map.mp (List.argmax_mem hmax) with ⟨v, hv, rfl⟩
      refine .inl ⟨v, hv, rfl, fun w hw _ => ?_, rfl⟩
      have hle := List.le_of_mem_argmax (List.mem_map_of_mem hw) hmax
      rwa [parseSemver_text, parseSemver_text] at hle

variable {κ : Type} [LinearOrder κ]

/-- The last of the versions in rising order. -/
theorem sorted_highest {p : Packaging κ} {key : Semver → κ} (hkey : StrictMono key)
    (hversion : ∀ v : Semver, p.version v.text = some (key v)) (versions : List Semver) :
    Highest versions (fun _ => true) (maxVersion (some p) (versions.map Semver.text)) := by
  have hvalid : (versions.map Semver.text).filterMap (fun v =>
      (p.version v).map (fun key => (key, v))) = versions.map (fun v => (key v, v.text)) := by
    rw [List.filterMap_map, ← List.filterMap_eq_map]
    refine List.filterMap_congr fun v _ => ?_
    rw [Function.comp_apply, hversion, Option.map_some]
    rfl
  rw [maxVersion, hvalid]
  cases hlast : ((versions.map (fun v => (key v, v.text))).insertionSort
      (fun a b => a.1 ≤ b.1)).getLast? with
  | none =>
      have hlength := congrArg List.length (List.getLast?_eq_none_iff.mp hlast)
      rw [List.length_insertionSort, List.length_map, List.length_nil,
        List.length_eq_zero_iff] at hlength
      exact .inr ⟨by rw [hlength]; exact fun w hw => (nomatch hw), rfl⟩
  | some last =>
      rcases le_last_insertionSort Prod.fst hlast with ⟨hmem, hle⟩
      rcases List.mem_map.mp hmem with ⟨v, hv, rfl⟩
      exact .inl ⟨v, hv, rfl, fun w hw _ => hkey.le_iff_le.mp (hle _ (List.mem_map_of_mem hw)), rfl⟩

end Maximum

section Resolution

variable {κ : Type} [LinearOrder κ]

/-- The reading of comparisons that is simple: those with the simple operators in
    front of numbers. -/
def simpleComparisons (text : String) : Option (Semver → Bool) :=
  (comparisonsOf text).bind (fun cs =>
    if ∀ c ∈ cs, c.Simple then some (fun v => cs.all (·.holds v)) else none)

/-- The package orders versions by their numbers, and reads comparisons as a
    standard that knows those of `comparisonsOf` and may know others. -/
structure Implements (p : Packaging κ) (standard : String → Option (Semver → Bool)) : Prop where
  versions : ∃ key : Semver → κ, StrictMono key ∧
    (∀ v : Semver, p.version v.text = some (key v)) ∧
    ∀ text meets, standard text = some meets →
      ∃ spec, p.specifierSet text = some spec ∧ ∀ v, spec (key v) = meets v
  comparisons : ∀ text cs, comparisonsOf text = some cs →
    standard text = some (fun v => cs.all (·.holds v))

/-- The two paths, and how comparisons are read on each. -/
inductive Path (p : Packaging κ) (standard : String → Option (Semver → Bool)) :
    Option (Packaging κ) → (String → Option (Semver → Bool)) → Prop
  | installed : Path p standard (some p) standard
  | missing : Path p standard none simpleComparisons

variable {p : Packaging κ} {standard reads : String → Option (Semver → Bool)}
  {packaging : Option (Packaging κ)} {versions : List Semver} {meets : Semver → Bool}

theorem simpleComparisons_eq_some {text : String} (h : simpleComparisons text = some meets) :
    ∃ cs, comparisonsOf text = some cs ∧ (∀ c ∈ cs, c.Simple) ∧
      meets = fun v => cs.all (·.holds v) := by
  rcases Option.bind_eq_some_iff.mp h with ⟨cs, hcs, h⟩
  split_ifs at h with hsimple
  cases h
  exact ⟨cs, hcs, hsimple, rfl⟩

/-- The simple reading reads what the standard does. -/
theorem Implements.of_simple (h : Implements p standard) {text : String}
    (hsimple : simpleComparisons text = some meets) : standard text = some meets := by
  rcases simpleComparisons_eq_some hsimple with ⟨cs, hcs, -, rfl⟩
  exact h.comparisons text cs hcs

theorem simpleComparisons_rangeText (low upper : Semver) :
    simpleComparisons (rangeText low upper) = some (between low upper) := by
  rw [simpleComparisons, comparisonsOf_rangeText, Option.bind_some, if_pos]
  · refine congrArg some (funext fun v => ?_)
    rw [List.all_cons, List.all_cons, List.all_nil, Bool.and_true]
    rfl
  · simp [Comparison.Simple]

/-- The text of a range is read as what lies between its bounds. -/
theorem Path.reads_rangeText (hpath : Path p standard packaging reads)
    (h : Implements p standard) (low upper : Semver) :
    reads (rangeText low upper) = some (between low upper) := by
  cases hpath with
  | installed => exact h.of_simple (simpleComparisons_rangeText low upper)
  | missing => exact simpleComparisons_rangeText low upper

theorem maxVersion_highest (hpath : Path p standard packaging reads) (h : Implements p standard)
    (versions : List Semver) :
    Highest versions (fun _ => true) (maxVersion packaging (versions.map Semver.text)) := by
  cases hpath with
  | installed =>
      rcases h.versions with ⟨key, hkey, hversion, -⟩
      exact sorted_highest hkey hversion versions
  | missing => exact argmax_highest versions

/-- The simple reading finds the highest version that meets the comparisons. -/
theorem fallbackResolve_highest {text : String} (h : simpleComparisons text = some meets)
    (versions : List Semver) :
    Highest versions meets (fallbackResolve (versions.map Semver.text) text) := by
  rcases simpleComparisons_eq_some h with ⟨cs, hcs, hsimple, rfl⟩
  rw [fallbackResolve, List.filter_map]
  have hkeep : (fun v => ((pieces text).filterMap readSpec).all (fun spec =>
      cmp (parseSemver v) spec.1 spec.2)) ∘ Semver.text = fun v => cs.all (·.holds v) :=
    funext fun v => by rw [Function.comp_apply, parseSemver_text, all_readSpec hcs hsimple]
  rw [hkeep]
  exact (argmax_highest _).of_filter

/-- A constraint is resolved to the highest version that meets it. -/
theorem resolve_highest (hpath : Path p standard packaging reads) (h : Implements p standard)
    {constraint : String} (hmeets : Supported reads (strip constraint) meets)
    (versions : List Semver) :
    Highest versions meets
      (resolveVersionConstraint packaging (versions.map Semver.text) constraint) := by
  -- The empty constraint is none that is supported.
  have hne : constraint ≠ "" := by
    rintro rfl
    exact hmeets.ne_empty (by decide)
  rw [resolveVersionConstraint, if_neg hne]
  dsimp only
  split_ifs with hversions hcore
  · rw [List.map_eq_nil_iff.mp hversions]
    exact .inr ⟨fun w hw => (nomatch hw), rfl⟩
  · rcases hcore with hempty | hany
    · exact absurd hempty hmeets.ne_empty
    · rw [hmeets.eq_any hany]
      exact maxVersion_highest hpath h versions
  · rw [not_or] at hcore
    have hreads := normalizeConstraint_reads (hpath.reads_rangeText h) hmeets (strip_strip _)
      hcore.2
    cases hpath with
    | missing => exact fallbackResolve_highest hreads versions
    | installed =>
        rcases h.versions with ⟨key, hkey, hversion, hset⟩
        rcases hset _ _ hreads with ⟨spec, hspec, hspecMeets⟩
        have hkeep : safeContains p spec ∘ Semver.text = meets := funext fun v => by
          rw [Function.comp_apply, safeContains, hversion, Option.any_some, hspecMeets]
        dsimp only
        rw [hspec]
        dsimp only
        rw [List.filter_map, hkeep]
        exact (sorted_highest hkey hversion _).of_filter

end Resolution

end Versions

end AgenticRag

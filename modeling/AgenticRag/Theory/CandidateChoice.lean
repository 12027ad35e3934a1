import AgenticRag.Theory.VersionRanges

/-!
# Choosing a Candidate

What is selected among the skills another may depend on. A constraint is met by
the candidate if some candidate meets it, since those that do not are left out
first. If none does, all are kept, and what is selected is what would have been
selected without a constraint.

The steps behind it keep some of the candidates they are given (`filterByClass_mem`,
`filterByClass_ne_nil`), and the last one compares keys. A key is a version of the
package or some numbers, and the two cannot be compared. They do not meet, because
the versions of three numbers are all keys of one kind (`keyLt_text`).

A constraint that starts with `~=` is not among those that are supported. It is
taken for a tilde.

## Main definitions

* `Meets`: The version of a candidate meets a constraint.

## Theorems

* `narrow_meets`: Those that meet the constraint are kept, or all are.
* `resolution_exact`: Resolution, its two paths, and the selection.
* `unmet_constraints`: Constraints that are read otherwise or not kept to.
-/

namespace AgenticRag

namespace Versions

open Py Py.Json Ordered Skills

/-- The version of a candidate meets a constraint. -/
def Meets (meets : Semver → Bool) (c : SkillManifest) : Prop :=
  ∃ v : Semver, c.card.version = v.text ∧ meets v = true

section Classes

variable {γ : Type} [DecidableEq γ] {classOf : SkillManifest → γ} {rank : γ → Nat}
  {pool : List SkillManifest} {preferred : Option γ}

theorem filterByClass_mem {c : SkillManifest} (h : c ∈ filterByClass classOf rank pool preferred) :
    c ∈ pool := by
  unfold filterByClass at h
  dsimp only at h
  split_ifs at h <;> exact List.mem_of_mem_filter h

/-- A candidate of the lowest rank is there. -/
theorem filterByClass_ne_nil (h : pool ≠ []) : filterByClass classOf rank pool preferred ≠ [] := by
  unfold filterByClass
  dsimp only
  split_ifs with hwanted
  · exact hwanted
  · cases hmin : pool.argmin (rank ∘ classOf) with
    | none => exact absurd (List.argmin_eq_none.mp hmin) h
    | some low =>
        have hle : ∀ d ∈ pool, rank (classOf low) ≤ rank (classOf d) := fun d hd =>
          List.le_of_mem_argmin (f := rank ∘ classOf) hd hmin
        refine List.ne_nil_of_mem (a := low) (List.mem_filter.mpr ⟨List.argmin_mem hmin, ?_⟩)
        exact List.all_eq_true.mpr fun d hd => decide_eq_true (hle d hd)

end Classes

section Selection

variable {κ : Type} [LinearOrder κ] {p : Packaging κ}
  {standard reads : String → Option (Semver → Bool)} {packaging : Option (Packaging κ)}

/-- The keys of two versions of three numbers can be compared. -/
theorem keyLt_text (hpath : Path p standard packaging reads) (h : Implements p standard)
    (v w : Semver) :
    ∃ b, keyLt (versionKey packaging v.text) (versionKey packaging w.text) = .ok b := by
  cases hpath with
  | installed =>
      rcases h.versions with ⟨key, -, hversion, -⟩
      have hkey : ∀ v : Semver, versionKey (some p) v.text = .inl (key v) := fun v => by
        rw [versionKey, Option.bind_some, hversion]
      exact ⟨decide (key v < key w), by rw [hkey, hkey, keyLt]⟩
  | missing => exact ⟨_, rfl⟩

theorem maxByKey_ok (hpath : Path p standard packaging reads) (h : Implements p standard)
    {best : SkillManifest} {rest : List SkillManifest}
    (hversions : ∀ c ∈ best :: rest, ∃ v : Semver, c.card.version = v.text) :
    ∃ c ∈ best :: rest, maxByKey packaging best rest = .ok c := by
  induction rest generalizing best with
  | nil => exact ⟨best, List.mem_cons_self, rfl⟩
  | cons c rest ih =>
      rcases hversions best List.mem_cons_self with ⟨v, hv⟩
      rcases hversions c (List.mem_cons_of_mem _ List.mem_cons_self) with ⟨w, hw⟩
      rcases keyLt_text hpath h v w with ⟨b, hb⟩
      rw [← hv, ← hw] at hb
      cases b with
      | true =>
          rcases ih fun d hd => hversions d (List.mem_cons_of_mem _ hd) with ⟨d, hd, hmax⟩
          exact ⟨d, List.mem_cons_of_mem _ hd, by rw [maxByKey, hb]; exact hmax⟩
      | false =>
          have hkept : ∀ d ∈ best :: rest, d ∈ best :: c :: rest := fun d hd =>
            (List.mem_cons.mp hd).elim (fun heq => heq ▸ List.mem_cons_self)
              (fun hd => List.mem_cons_of_mem _ (List.mem_cons_of_mem _ hd))
          rcases ih fun d hd => hversions d (hkept d hd) with ⟨d, hd, hmax⟩
          exact ⟨d, hkept d hd, by rw [maxByKey, hb]; exact hmax⟩

theorem pickByVersion_ok (hpath : Path p standard packaging reads) (h : Implements p standard)
    {pool : List SkillManifest} (hpool : pool ≠ [])
    (hversions : ∀ c ∈ pool, ∃ v : Semver, c.card.version = v.text) (preferred : Option String) :
    ∃ c ∈ pool, pickByVersion packaging pool preferred = .ok (some c) := by
  cases pool with
  | nil => exact absurd rfl hpool
  | cons first rest =>
      rw [pickByVersion]
      split
      next c hfound =>
        rcases Option.bind_eq_some_iff.mp hfound with ⟨version, -, hfind⟩
        exact ⟨c, List.mem_of_find?_eq_some hfind, rfl⟩
      next =>
        rcases maxByKey_ok hpath h hversions with ⟨c, hc, hmax⟩
        exact ⟨c, hc, by rw [hmax]; rfl⟩

/-- One of the candidates that are kept for the constraint is selected. -/
theorem select_ok (hpath : Path p standard packaging reads) (h : Implements p standard)
    {candidates : List SkillManifest} {constraint : Option String}
    (hpool : narrow packaging candidates constraint ≠ [])
    (hversions : ∀ c ∈ narrow packaging candidates constraint,
      ∃ v : Semver, c.card.version = v.text)
    (context : CandidateSelectionContext) :
    ∃ c ∈ narrow packaging candidates constraint,
      select packaging candidates context constraint = .ok (some c) := by
  have hcandidates : candidates ≠ [] := by
    rintro rfl
    refine hpool ?_
    rw [narrow]
    split <;> simp
  rw [select, if_neg hcandidates]
  dsimp only
  set pool := narrow packaging candidates constraint
  split
  next c hfound =>
    rcases Option.bind_eq_some_iff.mp hfound with ⟨skillId, -, hfind⟩
    exact ⟨c, List.mem_of_find?_eq_some hfind, rfl⟩
  next =>
    have hcost : ∀ c ∈ filterByCost pool context.preferredCostClass, c ∈ pool := fun c hc =>
      filterByClass_mem hc
    split
    next c hone => exact ⟨c, hcost c (by rw [hone]; exact List.mem_cons_self), rfl⟩
    next =>
      set cheap := filterByCost pool context.preferredCostClass with hcheap
      have hcheapNe : cheap ≠ [] := filterByClass_ne_nil hpool
      have hlatency : ∀ c ∈ filterByLatency cheap context.preferredLatencyClass, c ∈ pool :=
        fun c hc => hcost c (filterByClass_mem hc)
      split
      next c hone => exact ⟨c, hlatency c (by rw [hone]; exact List.mem_cons_self), rfl⟩
      next =>
        rcases pickByVersion_ok hpath h (filterByClass_ne_nil hcheapNe)
          (fun c hc => hversions c (hlatency c hc)) context.preferredVersion with ⟨c, hc, hpick⟩
        exact ⟨c, hlatency c hc, by rw [filterByLatency, hpick]; rfl⟩

theorem narrow_mem {candidates : List SkillManifest} {constraint : Option String}
    {c : SkillManifest} (h : c ∈ narrow packaging candidates constraint) : c ∈ candidates := by
  rw [narrow] at h
  split at h
  · dsimp only at h
    split_ifs at h
    · exact List.mem_of_mem_filter h
    · exact h
  · exact h

theorem narrow_ne_nil {candidates : List SkillManifest} (h : candidates ≠ [])
    (constraint : Option String) : narrow packaging candidates constraint ≠ [] := by
  rw [narrow]
  split
  · dsimp only
    split_ifs with hfiltered
    · exact hfiltered
    · exact h
  · exact h

/-- A version satisfies a constraint if it meets it. -/
theorem versionSatisfies_iff (hpath : Path p standard packaging reads)
    (h : Implements p standard) {text : String} {meets : Semver → Bool}
    (hmeets : Supported reads (strip text) meets) {c : SkillManifest}
    (hversion : ∃ v : Semver, c.card.version = v.text) :
    versionSatisfies packaging c.card.version text = true ↔ Meets meets c := by
  rcases hversion with ⟨v, hv⟩
  have hhighest := resolve_highest hpath h hmeets [v]
  rw [List.map_singleton] at hhighest
  rw [versionSatisfies, decide_eq_true_eq, hv, hhighest.singleton_iff]
  constructor
  · exact fun hmeets => ⟨v, hv, hmeets⟩
  · rintro ⟨w, hw, hmeets⟩
    rwa [Semver.text_injective (hv.symm.trans hw)]

/-- Those that meet the constraint are kept, or all are if none does. -/
theorem narrow_meets (hpath : Path p standard packaging reads) (h : Implements p standard)
    {candidates : List SkillManifest}
    (hversions : ∀ c ∈ candidates, ∃ v : Semver, c.card.version = v.text) {text : String}
    {meets : Semver → Bool} (hmeets : Supported reads (strip text) meets) :
    ((∃ c ∈ candidates, Meets meets c) →
        ∀ c ∈ narrow packaging candidates (some text), Meets meets c) ∧
      ((¬ ∃ c ∈ candidates, Meets meets c) →
        narrow packaging candidates (some text) = narrow packaging candidates none) := by
  have hne : text ≠ "" := by
    rintro rfl
    exact hmeets.ne_empty (by decide)
  have hsome : (some text).filter (· ≠ "") = some text :=
    Option.filter_eq_some_iff.mpr ⟨rfl, decide_eq_true hne⟩
  have hsatisfies : ∀ c ∈ candidates,
      versionSatisfies packaging c.card.version text = true ↔ Meets meets c := fun c hc =>
    versionSatisfies_iff hpath h hmeets (hversions c hc)
  rw [narrow, hsome]
  dsimp only
  constructor
  · rintro ⟨c, hc, hmet⟩ d hd
    have hfiltered : candidates.filter (fun c =>
        versionSatisfies packaging c.card.version text) ≠ [] :=
      List.ne_nil_of_mem (List.mem_filter.mpr ⟨hc, (hsatisfies c hc).mpr hmet⟩)
    rw [if_pos hfiltered] at hd
    exact (hsatisfies d (List.mem_of_mem_filter hd)).mp (List.mem_filter.mp hd).2
  · intro hnone
    rw [if_neg]
    · rfl
    · rw [not_not, List.filter_eq_nil_iff]
      exact fun c hc hsat => hnone ⟨c, hc, (hsatisfies c hc).mp hsat⟩

/-- A constraint is resolved to the highest version that meets it, on both paths
    alike where the comparisons are simple. Under a constraint a candidate is
    selected that meets it, or, if none does, the one that is selected without. -/
theorem resolution_exact (h : Implements p standard) :
    (∀ packaging reads, Path p standard packaging reads →
      ∀ constraint meets, Supported reads (strip constraint) meets → ∀ versions : List Semver,
        Highest versions meets
          (resolveVersionConstraint packaging (versions.map Semver.text) constraint)) ∧
    (∀ constraint meets, Supported simpleComparisons (strip constraint) meets →
      ∀ versions : List Semver,
        resolveVersionConstraint (some p) (versions.map Semver.text) constraint =
          resolveVersionConstraint (none : Option (Packaging κ)) (versions.map Semver.text)
            constraint) ∧
    (∀ packaging reads, Path p standard packaging reads → ∀ context constraint,
      select packaging [] context constraint = .ok none ∧
      ∀ candidates, candidates ≠ [] →
        (∀ c ∈ candidates, ∃ v : Semver, c.card.version = v.text) →
          ∃ chosen ∈ candidates,
            select packaging candidates context constraint = .ok (some chosen) ∧
            ∀ text meets, constraint = some text → Supported reads (strip text) meets →
              ((∃ c ∈ candidates, Meets meets c) → Meets meets chosen) ∧
              ((¬ ∃ c ∈ candidates, Meets meets c) →
                select packaging candidates context none = .ok (some chosen))) := by
  refine ⟨fun packaging reads hpath constraint meets hmeets versions =>
    resolve_highest hpath h hmeets versions, fun constraint meets hmeets versions => ?_,
    fun packaging reads hpath context constraint => ⟨rfl, fun candidates hne hversions => ?_⟩⟩
  · have hstandard : Supported standard (strip constraint) meets :=
      hmeets.mono fun _ _ hsimple => h.of_simple hsimple
    exact (resolve_highest .installed h hstandard versions).unique
      (resolve_highest .missing h hmeets versions)
  · rcases select_ok hpath h (narrow_ne_nil hne constraint)
      (fun c hc => hversions c (narrow_mem hc)) context with ⟨chosen, hchosen, hselect⟩
    refine ⟨chosen, narrow_mem hchosen, hselect, ?_⟩
    rintro text meets rfl hmeets
    have hnarrow := narrow_meets hpath h hversions hmeets
    refine ⟨fun hsome => hnarrow.1 hsome chosen hchosen, fun hnone => ?_⟩
    rw [← hselect, select, select, hnarrow.2 hnone]

end Selection

section Runs

/-- A standard that knows the comparisons of `comparisonsOf` and no others. -/
def numbersStandard (text : String) : Option (Semver → Bool) :=
  (comparisonsOf text).map (fun cs v => cs.all (·.holds v))

/-- A package that reads those, and up to three numbers as a version. -/
def numbersPackaging : Packaging Semver where
  version := fun text => (releaseOf (strip text)).map semverOf
  specifierSet := numbersStandard

theorem numbersPackaging_version (v : Semver) : numbersPackaging.version v.text = some v := by
  unfold numbersPackaging
  dsimp only
  rw [strip_text, releaseOf_text, Option.map_some]
  rfl

theorem numbersPackaging_implements : Implements numbersPackaging numbersStandard where
  versions := by
    have hset : numbersPackaging.specifierSet = numbersStandard := rfl
    refine ⟨id, strictMono_id, numbersPackaging_version, fun text meets h => ?_⟩
    exact ⟨meets, by rw [hset, h], fun _ => rfl⟩
  comparisons := fun text cs h => by rw [numbersStandard, h, Option.map_some]

/-- The highest of the versions that a caret stands for, with the package and
    without. -/
theorem resolution_exact_caret :
    Highest [⟨1, 3, 0⟩, ⟨1, 4, 0⟩, ⟨1, 4, 2⟩, ⟨2, 0, 0⟩] (locked ⟨1, 4, 0⟩ [1])
      (resolveVersionConstraint (some numbersPackaging)
        ([⟨1, 3, 0⟩, ⟨1, 4, 0⟩, ⟨1, 4, 2⟩, ⟨2, 0, 0⟩].map Semver.text) " ^1.4") := by
  have hrelease : releaseOf (strip "1.4") = some [1, 4] := by decide +kernel
  have hstrip : strip " ^1.4" = "^" ++ "1.4" := by decide +kernel
  have hcaret : Supported numbersStandard (strip " ^1.4") (locked ⟨1, 4, 0⟩ [1]) := by
    rw [hstrip]
    exact .caret hrelease
  exact (resolution_exact numbersPackaging_implements).1 _ _ .installed _ _ hcaret _

/-- A candidate of version `1.0.0`. -/
def firstRelease : SkillManifest where
  card := { skillId := "data" }

/-- A candidate is selected that does not meet the constraint, a constraint with
    `~=` finds no version though one meets it, and without the package such a
    comparison behind another is not kept to. -/
theorem unmet_constraints :
    (select (some numbersPackaging) [firstRelease] {} (some ">=3.0") = .ok (some firstRelease) ∧
      ∃ meets, numbersStandard ">=3.0" = some meets ∧ ¬ Meets meets firstRelease) ∧
    (resolveVersionConstraint (some numbersPackaging) ["1.4.0"] "~=1.4" = none ∧
      ∃ meets, numbersStandard "~=1.4" = some meets ∧ meets ⟨1, 4, 0⟩ = true) ∧
    (resolveVersionConstraint (some numbersPackaging) ["1.4.0", "2.0.0"] ">=1.0,~=1.4" =
        some "1.4.0" ∧
      resolveVersionConstraint (none : Option (Packaging Semver)) ["1.4.0", "2.0.0"]
        ">=1.0,~=1.4" = some "2.0.0") := by
  refine ⟨⟨?_, ?_⟩, ⟨by decide +kernel, ?_⟩, by decide +kernel, by decide +kernel⟩
  · have hnot : versionSatisfies (some numbersPackaging) firstRelease.card.version ">=3.0" =
        false := by
      decide +kernel
    have hnarrow : narrow (some numbersPackaging) [firstRelease] (some ">=3.0") =
        [firstRelease] := by
      simp [narrow, Option.filter, hnot]
    rw [select, hnarrow]
    rfl
  · have hread : (numbersStandard ">=3.0").any (fun meets => !meets ⟨1, 0, 0⟩) = true := by
      decide +kernel
    rcases (Option.any_eq_true _ _).mp hread with ⟨meets, hmeets, hnot⟩
    refine ⟨meets, hmeets, ?_⟩
    rintro ⟨v, hv, hmet⟩
    have hfirst : Semver.text ⟨1, 0, 0⟩ = firstRelease.card.version := by decide +kernel
    rw [← Semver.text_injective (hfirst.trans hv)] at hmet
    rw [hmet] at hnot
    cases hnot
  · have hread : (numbersStandard "~=1.4").any (fun meets => meets ⟨1, 4, 0⟩) = true := by
      decide +kernel
    exact (Option.any_eq_true _ _).mp hread

end Runs

end Versions

end AgenticRag

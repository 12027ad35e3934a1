import AgenticRag.Lib.Budgets
import AgenticRag.Theory.RowIds

/-!
# Compressed Rows

A database result that is too large is cut in two steps: each query gets a quota by
its number of rows, and its rows are cut by the level and then halved until they fit
the quota.

Both steps promise more than they do. The quotas are scaled down once where the
minimum of two hundred tokens takes them over the total, and the minimum is then
applied again (`allocateDbQuota_ok_iff`). The flag that says whether anything was cut
is set by the level, before rows are halved, and the columns that are dropped are
dropped from the list of columns only, not from the rows, which is what evidence is
made of (`compressionFaithful_iff`).

What halving comes to is said without running it: a row is cut just when none of the
prefixes of `n`, `n / 2`, `n / 4`, … rows that include it is kept
(`fitCount_le_iff`).

## Main definitions

* `columnsKept`, `rowsAllowed`: What a level keeps.
* `Truthful`: When the promise is kept.

## Theorems

* `allocateDbQuota_ok_iff`: When the quotas keep to the total.
* `fitCount_le_iff`: How far rows are halved.
* `compressionFaithful_iff`: When compression does what it says.
-/

namespace AgenticRag

open Py Ordered Binary64

section Quotas

variable {tables : List DbResult} {dbQuota : Nat}

/-- The rows of each query. -/
def rowCounts (tables : List DbResult) : List Nat :=
  tables.map (fun t => t.rows.length)

/-- The rows of all queries, one if there are none. -/
def totalRows (tables : List DbResult) : Nat :=
  if (rowCounts tables).sum = 0 then 1 else (rowCounts tables).sum

/-- The part of the quota for a number of rows, rounded down. -/
def wholePart (tables : List DbResult) (dbQuota rc : Nat) : Nat :=
  ⌊quotaPart dbQuota (totalRows tables) rc⌋.toNat

/-- No part is too large for a double. -/
def PartsFit (tables : List DbResult) (dbQuota : Nat) : Prop :=
  ∀ rc ∈ rowCounts tables, quotaPart dbQuota (totalRows tables) rc < overflow

instance (tables : List DbResult) (dbQuota : Nat) : Decidable (PartsFit tables dbQuota) :=
  inferInstanceAs (Decidable (∀ rc ∈ rowCounts tables, _))

theorem allocateDbQuota_eq (htables : 2 ≤ tables.length) :
    allocateDbQuota tables dbQuota =
      if PartsFit tables dbQuota then
        .ok (Apportion.split 200 dbQuota (wholePart tables dbQuota) (scaledQuota dbQuota)
          (rowCounts tables))
      else .error .overflowError := by
  have hany : (rowCounts tables).any
      (fun rc => overflow ≤ quotaPart dbQuota (totalRows tables) rc) = true ↔
        ¬ PartsFit tables dbQuota := by
    simp only [List.any_eq_true, decide_eq_true_eq, PartsFit, not_forall, not_lt]
    exact exists_congr (fun rc => exists_prop.symm)
  have hsplit : allocateDbQuota tables dbQuota =
      if (rowCounts tables).any (fun rc => overflow ≤ quotaPart dbQuota (totalRows tables) rc) then
        .error .overflowError
      else if dbQuota < (Apportion.raised 200 (wholePart tables dbQuota) (rowCounts tables)).sum then
        .ok ((Apportion.raised 200 (wholePart tables dbQuota) (rowCounts tables)).map (fun q =>
          max 200 (scaledQuota dbQuota
            (Apportion.raised 200 (wholePart tables dbQuota) (rowCounts tables)).sum q)))
      else .ok (Apportion.raised 200 (wholePart tables dbQuota) (rowCounts tables)) := by
    match tables, htables with
    | _ :: _ :: _, _ => rfl
  rw [hsplit]
  by_cases hfit : PartsFit tables dbQuota
  · rw [if_neg (fun h => hany.mp h hfit), if_pos hfit, Apportion.split]
    split_ifs <;> rfl
  · rw [if_pos (hany.mpr hfit), if_neg hfit]

/-- A part that is raised to the minimum is a double. -/
theorem isDouble_raised {q : Nat}
    (hq : q ∈ Apportion.raised 200 (wholePart tables dbQuota) (rowCounts tables)) :
    IsDouble (q : ℚ) := by
  rcases List.mem_map.mp hq with ⟨rc, -, rfl⟩
  rcases max_choice 200 (wholePart tables dbQuota rc) with h | h
  · rw [h]
    exact isDouble_natCast (by norm_num)
  · rw [h]
    have hnonneg : (0 : ℚ) ≤ ((dbQuota * rc : Nat) / totalRows tables : ℚ) := by positivity
    have hpart : quotaPart dbQuota (totalRows tables) rc = nearest _ :=
      toDouble_of_nonneg hnonneg
    rw [wholePart, hpart]
    exact (isDouble_nearest hnonneg).floor

/-- Scaling does not raise a part. -/
theorem scaledQuota_le {total q : Nat} (htotal : dbQuota < total) (hq : IsDouble (q : ℚ)) :
    scaledQuota dbQuota total q ≤ q := by
  have hratio : (dbQuota : ℚ) / total ≤ 1 := by
    rw [div_le_one (by exact_mod_cast Nat.zero_lt_of_lt htotal)]
    exact_mod_cast htotal.le
  have hone : toDouble 1 = 1 := by decide +kernel
  have hscale : toDouble ((dbQuota : ℚ) / total) ≤ 1 := by
    rw [← hone]
    exact toDouble_mono (by positivity) hratio
  have hself : toDouble (q : ℚ) = q := by
    rw [toDouble_of_nonneg (Nat.cast_nonneg q), nearest_of_isDouble hq]
  have hscaled : toDouble (q * toDouble ((dbQuota : ℚ) / total)) ≤ q := by
    have hmono : toDouble (q * toDouble ((dbQuota : ℚ) / total)) ≤ toDouble (q : ℚ) :=
      toDouble_mono (mul_nonneg (Nat.cast_nonneg q) (toDouble_nonneg (by positivity)))
        (mul_le_of_le_one_right (Nat.cast_nonneg q) hscale)
    rwa [hself] at hmono
  rw [scaledQuota, hself, Int.toNat_le]
  exact_mod_cast (Int.floor_le _).trans hscaled

/-- A small query is raised by sixty, which two larger ones give back to the last
    token. -/
example : (allocateDbQuota [{ rows := List.replicate 13 [] }, { rows := List.replicate 96 [] },
    { rows := List.replicate 337 [] }] 5452).toOption = some [200, 1164, 4088] := by
  decide +kernel

end Quotas

section Halving

variable (fits : Nat → Bool) {n : Nat}

/-- Halving stops at the first of `n`, `n / 2`, `n / 4`, … that fits or is at most
    one. -/
theorem fitCount_spec {fuel : Nat} (hfuel : n ≤ fuel) :
    ∃ j, fitCount fits fuel n = n / 2 ^ j ∧ (n / 2 ^ j ≤ 1 ∨ fits (n / 2 ^ j) = true) ∧
      ∀ i < j, 1 < n / 2 ^ i ∧ fits (n / 2 ^ i) = false := by
  induction fuel generalizing n with
  | zero =>
      refine ⟨0, ?_, .inl ?_, fun i hi => absurd hi (Nat.not_lt_zero i)⟩
      · rw [fitCount, pow_zero, Nat.div_one]
      · rw [pow_zero, Nat.div_one]
        omega
  | succ fuel ih =>
      have hstop : n ≤ 1 ∨ fits n = true → ∃ j, n = n / 2 ^ j ∧
          (n / 2 ^ j ≤ 1 ∨ fits (n / 2 ^ j) = true) ∧
          ∀ i < j, 1 < n / 2 ^ i ∧ fits (n / 2 ^ i) = false := by
        intro h
        refine ⟨0, ?_, ?_, fun i hi => absurd hi (Nat.not_lt_zero i)⟩
        · rw [pow_zero, Nat.div_one]
        · rw [pow_zero, Nat.div_one]
          exact h
      rw [fitCount]
      split_ifs with hsmall hfits
      · exact hstop (.inl hsmall)
      · exact hstop (.inr hfits)
      · have hhalf : max 1 (n / 2) = n / 2 := by omega
        rcases @ih (n / 2) (by omega) with ⟨j, hcount, hlast, hbefore⟩
        have hpow : ∀ i, n / 2 / 2 ^ i = n / 2 ^ (i + 1) := by
          intro i
          rw [Nat.div_div_eq_div_mul, pow_succ, Nat.mul_comm]
        rw [hpow] at hcount hlast
        rw [hhalf]
        refine ⟨j + 1, hcount, hlast, fun i hi => ?_⟩
        cases i with
        | zero =>
            rw [pow_zero, Nat.div_one]
            exact ⟨not_le.mp hsmall, Bool.not_eq_true _ ▸ hfits⟩
        | succ i =>
            rw [← hpow]
            exact hbefore i (Nat.lt_of_succ_lt_succ hi)

theorem fitCount_le_self : fitCount fits n n ≤ n := by
  rcases fitCount_spec fits (le_refl n) with ⟨j, hcount, -, -⟩
  rw [hcount]
  exact Nat.div_le_self n _

/-- Something is kept of something. -/
theorem fitCount_pos (hn : 0 < n) : 0 < fitCount fits n n := by
  rcases fitCount_spec fits (le_refl n) with ⟨j, hcount, -, hbefore⟩
  rw [hcount]
  cases j with
  | zero =>
      rw [pow_zero, Nat.div_one]
      exact hn
  | succ j =>
      have hone := (hbefore j (Nat.lt_succ_self j)).1
      rw [pow_succ, ← Nat.div_div_eq_div_mul]
      omega

variable (n) in
/-- What is kept is at most one or fits. -/
theorem fitCount_stops : fitCount fits n n ≤ 1 ∨ fits (fitCount fits n n) = true := by
  rcases fitCount_spec fits (le_refl n) with ⟨j, hcount, hlast, -⟩
  rw [hcount]
  exact hlast

variable {fits}

/-- No more than so many are kept just when none of `n`, `n / 2`, `n / 4`, … above
    that fits or is one. -/
theorem fitCount_le_iff {i : Nat} : fitCount fits n n ≤ i ↔
    ∀ j, i < n / 2 ^ j → 1 < n / 2 ^ j ∧ fits (n / 2 ^ j) = false := by
  rcases fitCount_spec fits (le_refl n) with ⟨k, hcount, hlast, hbefore⟩
  rw [hcount]
  constructor
  · intro hle j hj
    refine hbefore j (lt_of_not_ge (fun hkj => ?_))
    have hdiv : n / 2 ^ j ≤ n / 2 ^ k :=
      Nat.div_le_div_left (Nat.pow_le_pow_right (by decide) hkj) (Nat.pow_pos (by decide))
    omega
  · intro h
    by_contra hlt
    rcases h k (not_le.mp hlt) with ⟨hone, hfits⟩
    rcases hlast with hsmall | hlast
    · omega
    · rw [hlast] at hfits
      cases hfits

/-- Anything is cut just when there is more than one and they do not fit. -/
theorem fitCount_lt_iff : fitCount fits n n < n ↔ 1 < n ∧ fits n = false := by
  constructor
  · intro hlt
    have h := fitCount_le_iff.mp (Nat.le_sub_one_of_lt hlt) 0
    rw [pow_zero, Nat.div_one] at h
    exact h (by omega)
  · rintro ⟨hone, hfits⟩
    refine Nat.lt_of_le_of_ne (fitCount_le_self fits) (fun heq => ?_)
    rcases fitCount_stops fits n with hsmall | hlast
    · omega
    · rw [heq, hfits] at hlast
      cases hlast

end Halving

section Rows

variable (rt : Runtime) (r : DbResult) (quota : Nat) (level : CompressLevel)

/-- The columns a level keeps: all, but for the large texts at `severe`. -/
def columnsKept : List String :=
  if level = .severe then
    if (r.columns.filter (· ∉ identifyTextColumns rt.unicode r.rows r.columns)).isEmpty then
      r.columns
    else r.columns.filter (· ∉ identifyTextColumns rt.unicode r.rows r.columns)
  else r.columns

/-- The rows a level allows. -/
def rowsAllowed : Nat :=
  match level with
  | .normal => r.rows.length
  | .light => r.rows.length
  | .moderate => min r.rows.length 50
  | .severe => min r.rows.length 10
  | .compact => 1

/-- So many rows fit the quota, in the columns the level keeps. -/
def Fits (n : Nat) : Prop :=
  rt.numTokens (formatCompactRows rt.unicode (r.rows.take n) (columnsKept rt r level)) ≤ quota

instance (n : Nat) : Decidable (Fits rt r quota level n) :=
  inferInstanceAs (Decidable (_ ≤ _))

/-- A column that is not kept and that a row has nevertheless. -/
def CarriesRemoved (row : Dict) : Prop :=
  ∃ col ∈ r.columns, col ∉ columnsKept rt r level ∧ row.lookup col ≠ none

/-- What is promised of a compressed result. -/
structure CompressionFaithful : Prop where
  opening : (compressDbResult rt r quota level).rows <+: r.rows
  small : (compressDbResult rt r quota level).rows.length ≤ 1 ∨
    rt.numTokens (formatCompactRows rt.unicode (compressDbResult rt r quota level).rows
      (compressDbResult rt r quota level).columns) ≤ quota
  told : (compressDbResult rt r quota level).truncated = true ↔
    (compressDbResult rt r quota level).rows.length < r.rows.length ∨
      (compressDbResult rt r quota level).columns ≠ r.columns
  pruned : level = .severe → ∀ row ∈ (compressDbResult rt r quota level).rows,
    ∀ col ∈ r.columns, col ∉ (compressDbResult rt r quota level).columns → row.lookup col = none
  /-- The evidence that is made of the rows has none of the dropped columns
      either. -/
  shrinks : level = .severe → ∀ tenantId query evidences,
    normalizeDbEvidence rt tenantId query (some { r with
      rows := (compressDbResult rt r quota level).rows
      columns := (compressDbResult rt r quota level).columns }) = .ok evidences →
    ∀ ev ∈ evidences, ∀ col ∈ r.columns, col ∉ (compressDbResult rt r quota level).columns →
      ev.structuredData.lookup col = none

/-- When the promise is kept, level by level. -/
def Truthful : Prop :=
  match level with
  | .normal => r.rows.length ≤ 1 ∨ Fits rt r quota .normal r.rows.length
  | .light => r.rows.length ≤ 1 ∨ Fits rt r quota .light r.rows.length
  | .moderate => 50 < r.rows.length ∨ r.rows.length ≤ 1 ∨ Fits rt r quota .moderate r.rows.length
  | .severe => r.rows = [] ∨
      -- Something is removed, and no row that would show it is kept.
      ((10 < r.rows.length ∨ (1 < r.rows.length ∧ ¬ Fits rt r quota .severe r.rows.length) ∨
        columnsKept rt r .severe ≠ r.columns) ∧
      ∀ i row, r.rows[i]? = some row → CarriesRemoved rt r .severe row →
        ∀ j, i < min r.rows.length 10 / 2 ^ j →
          1 < min r.rows.length 10 / 2 ^ j ∧
            ¬ Fits rt r quota .severe (min r.rows.length 10 / 2 ^ j))
  | .compact => r.rows.length ≠ 1

variable {rt r quota level}

/-- The number of rows that are kept. -/
theorem compressDbResult_eq (hrows : r.rows ≠ []) :
    compressDbResult rt r quota level =
      ⟨r.rows.take (fitCount (fun n => decide (Fits rt r quota level n)) (rowsAllowed r level)
          (rowsAllowed r level)),
        columnsKept rt r level,
        decide (level = .severe ∨ level = .compact ∨ (level = .moderate ∧ 50 < r.rows.length)),
        r.rows.length,
        fitCount (fun n => decide (Fits rt r quota level n)) (rowsAllowed r level)
          (rowsAllowed r level)⟩ := by
  have hne : ¬ r.rows.isEmpty = true := fun h => hrows (List.isEmpty_iff.mp h)
  unfold compressDbResult
  rw [if_neg hne]
  cases level with
  | normal => rfl
  | light => rfl
  | severe => rfl
  | compact => rfl
  | moderate =>
      have hflag : decide (min r.rows.length 50 < r.rows.length) =
          decide (CompressLevel.moderate = .severe ∨ CompressLevel.moderate = .compact ∨
            (CompressLevel.moderate = .moderate ∧ 50 < r.rows.length)) := by
        refine decide_eq_decide.mpr ?_
        simp only [reduceCtorEq, false_or, true_and]
        omega
      rw [← hflag]
      rfl

/-- The number of rows that are kept of a result that has some. -/
def rowsKept (rt : Runtime) (r : DbResult) (quota : Nat) (level : CompressLevel) : Nat :=
  fitCount (fun n => decide (Fits rt r quota level n)) (rowsAllowed r level) (rowsAllowed r level)

theorem rowsAllowed_le (hrows : r.rows ≠ []) : rowsAllowed r level ≤ r.rows.length := by
  have hpos := List.length_pos_iff.mpr hrows
  cases level <;> simp only [rowsAllowed] <;> omega

theorem rowsKept_le (hrows : r.rows ≠ []) : rowsKept rt r quota level ≤ r.rows.length :=
  le_trans (fitCount_le_self _) (rowsAllowed_le hrows)

theorem rowsKept_pos (hrows : r.rows ≠ []) : 0 < rowsKept rt r quota level := by
  have hpos := List.length_pos_iff.mpr hrows
  refine fitCount_pos _ ?_
  cases level <;> simp only [rowsAllowed] <;> omega

/-- Rows are removed by the level, or because they do not fit. -/
theorem rowsKept_lt_iff (hrows : r.rows ≠ []) : rowsKept rt r quota level < r.rows.length ↔
    rowsAllowed r level < r.rows.length ∨
      (1 < r.rows.length ∧ ¬ Fits rt r quota level r.rows.length) := by
  by_cases hlt : rowsAllowed r level < r.rows.length
  · exact iff_of_true (lt_of_le_of_lt (fitCount_le_self _) hlt) (.inl hlt)
  · have hall : rowsAllowed r level = r.rows.length :=
      le_antisymm (rowsAllowed_le hrows) (not_lt.mp hlt)
    rw [rowsKept, hall, fitCount_lt_iff, decide_eq_false_iff_not]
    exact (or_iff_right (lt_irrefl _)).symm

/-- Evidence is made of the rows as they are. -/
theorem structuredData_of_rows {tenantId query : String} {evidences : List Evidence}
    (hrows : r.rows ≠ [])
    (h : normalizeDbEvidence rt tenantId query (some r) = .ok evidences) :
    evidences.map Evidence.structuredData = r.rows := by
  by_cases hread : RowsReadable rt r
  · rcases normalizeDbEvidence_eq_ok rt tenantId query hread with ⟨evs, hevs, -, hdata⟩
    rw [hevs] at h
    cases h
    exact hdata hrows
  · rw [normalizeDbEvidence_eq_error rt hread] at h
    cases h

/-- What a compressed result with rows is: the first rows, the columns that are kept,
    and a flag that goes by the level. -/
theorem compressDbResult_fields (hrows : r.rows ≠ []) :
    (compressDbResult rt r quota level).rows = r.rows.take (rowsKept rt r quota level) ∧
      (compressDbResult rt r quota level).columns = columnsKept rt r level ∧
      ((compressDbResult rt r quota level).truncated = true ↔
        (level = .severe ∨ level = .compact ∨ (level = .moderate ∧ 50 < r.rows.length))) := by
  have heq : compressDbResult rt r quota level = _ := compressDbResult_eq hrows
  refine ⟨congrArg CompressedDb.rows heq, congrArg CompressedDb.columns heq, ?_⟩
  rw [heq]
  exact decide_eq_true_iff

theorem length_take_rowsKept (hrows : r.rows ≠ []) :
    (r.rows.take (rowsKept rt r quota level)).length = rowsKept rt r quota level :=
  List.length_take_of_le (rowsKept_le hrows)

/-- Evidence that is made of the rows that are kept has what they have. -/
theorem structuredData_mem_kept (hrows : r.rows ≠ []) {tenantId query : String}
    {columns : List String} {evidences : List Evidence}
    (h : normalizeDbEvidence rt tenantId query (some { r with
      rows := r.rows.take (rowsKept rt r quota level)
      columns := columns }) = .ok evidences) :
    ∀ ev ∈ evidences, ev.structuredData ∈ r.rows.take (rowsKept rt r quota level) := by
  have hsome : r.rows.take (rowsKept rt r quota level) ≠ [] := by
    rw [← List.length_pos_iff, length_take_rowsKept hrows]
    exact rowsKept_pos hrows
  have hdata : evidences.map Evidence.structuredData =
      r.rows.take (rowsKept rt r quota level) := structuredData_of_rows hsome h
  exact fun ev hev => hdata ▸ List.mem_map_of_mem hev

/-- What the promise comes to for a result with rows. -/
theorem compressionFaithful_of_rows (hrows : r.rows ≠ []) :
    CompressionFaithful rt r quota level ↔
      ((level = .severe ∨ level = .compact ∨ (level = .moderate ∧ 50 < r.rows.length)) ↔
        rowsKept rt r quota level < r.rows.length ∨ columnsKept rt r level ≠ r.columns) ∧
      (level = .severe → ∀ row ∈ r.rows.take (rowsKept rt r quota level),
        ¬ CarriesRemoved rt r level row) := by
  rcases @compressDbResult_fields rt r quota level hrows with ⟨hkept, hcolumns, htruncated⟩
  have hlength := @length_take_rowsKept rt r quota level hrows
  constructor
  · intro h
    refine ⟨?_, fun hsevere row hrow => ?_⟩
    · have htold := h.told
      rw [htruncated, hkept, hcolumns, hlength] at htold
      exact htold
    · rintro ⟨col, hcol, hremoved, hcarried⟩
      exact hcarried (h.pruned hsevere row (hkept ▸ hrow) col hcol (hcolumns ▸ hremoved))
  · rintro ⟨htold, hpruned⟩
    have hlookup : level = .severe → ∀ row ∈ r.rows.take (rowsKept rt r quota level),
        ∀ col ∈ r.columns, col ∉ columnsKept rt r level → row.lookup col = none := by
      intro hsevere row hrow col hcol hremoved
      by_contra hcarried
      exact hpruned hsevere row hrow ⟨col, hcol, hremoved, hcarried⟩
    refine ⟨?_, ?_, ?_, ?_, ?_⟩
    · rw [hkept]
      exact List.take_prefix _ _
    · rw [hkept, hcolumns, hlength]
      refine (fitCount_stops _ _).imp_right (fun hfits => ?_)
      exact of_decide_eq_true hfits
    · rw [htruncated, hkept, hcolumns, hlength]
      exact htold
    · rw [hkept, hcolumns]
      exact hlookup
    · intro hsevere tenantId query evidences hevidences ev hev
      rw [hkept] at hevidences
      rw [hcolumns]
      exact hlookup hsevere _ (structuredData_mem_kept hrows hevidences ev hev)

theorem compressionFaithful_of_empty (hrows : r.rows = []) :
    CompressionFaithful rt r quota level := by
  have heq : compressDbResult rt r quota level = ⟨[], r.columns, false, 0, 0⟩ := by
    unfold compressDbResult
    rw [if_pos (List.isEmpty_iff.mpr hrows)]
  constructor <;> rw [heq]
  · exact List.nil_prefix
  · exact .inl (Nat.zero_le _)
  · rw [hrows]
    simp
  · exact fun _ row hrow => absurd hrow List.not_mem_nil
  · exact fun _ _ _ _ _ _ _ col hcol hremoved => absurd hcol hremoved

/-- A row that carries a removed column is not kept just when no prefix that
    includes it is. -/
theorem not_carries_iff : (∀ row ∈ r.rows.take (rowsKept rt r quota level),
      ¬ CarriesRemoved rt r level row) ↔
    ∀ i row, r.rows[i]? = some row → CarriesRemoved rt r level row →
      ∀ j, i < rowsAllowed r level / 2 ^ j → 1 < rowsAllowed r level / 2 ^ j ∧
        ¬ Fits rt r quota level (rowsAllowed r level / 2 ^ j) := by
  have hcut : ∀ i, rowsKept rt r quota level ≤ i ↔ ∀ j, i < rowsAllowed r level / 2 ^ j →
      1 < rowsAllowed r level / 2 ^ j ∧
        ¬ Fits rt r quota level (rowsAllowed r level / 2 ^ j) := by
    intro i
    rw [rowsKept, fitCount_le_iff]
    simp only [decide_eq_false_iff_not]
  constructor
  · intro h i row hrow hcarries
    rw [← hcut]
    by_contra hlt
    refine h row (List.mem_of_getElem? (i := i) ?_) hcarries
    rw [List.getElem?_take_of_lt (not_le.mp hlt)]
    exact hrow
  · intro h row hrow hcarries
    rcases List.mem_iff_getElem?.mp hrow with ⟨i, hi⟩
    rw [List.getElem?_take] at hi
    split_ifs at hi with hlt
    have hle := (hcut i).mpr (h i row hi hcarries)
    omega

/-- Compression does what it says just when, level by level, rows are cut only where the
    flag says so, and no row that is kept has a column that is dropped. -/
theorem compressionFaithful_iff :
    CompressionFaithful rt r quota level ↔ Truthful rt r quota level := by
  by_cases hrows : r.rows = []
  · refine iff_of_true (compressionFaithful_of_empty hrows) ?_
    cases level <;> simp [Truthful, hrows]
  have hpos := List.length_pos_iff.mpr hrows
  have hcolumns : level ≠ .severe → columnsKept rt r level = r.columns := fun h => if_neg h
  rw [compressionFaithful_of_rows hrows, rowsKept_lt_iff hrows, not_carries_iff]
  cases level with
  | normal =>
      rw [hcolumns (by decide)]
      by_cases hfits : Fits rt r quota .normal r.rows.length <;>
        simp [Truthful, rowsAllowed, hfits]
  | light =>
      rw [hcolumns (by decide)]
      by_cases hfits : Fits rt r quota .light r.rows.length <;>
        simp [Truthful, rowsAllowed, hfits]
  | moderate =>
      rw [hcolumns (by decide)]
      by_cases hfits : Fits rt r quota .moderate r.rows.length <;>
        simp [Truthful, rowsAllowed, hfits]
      omega
  | severe =>
      simp [Truthful, rowsAllowed, hrows, or_assoc]
  | compact =>
      rw [hcolumns (by decide)]
      simp [Truthful, rowsAllowed]
      omega

/-- Two rows that do not fit are cut to one without a word, and a row keeps the long
    text whose column is dropped. -/
theorem compression_unfaithful :
    ¬ CompressionFaithful default
        { rows := [[("id", .str "1")], [("id", .str "2")]], columns := ["id"] } 1 .light ∧
      ¬ CompressionFaithful default
        { rows := [[("id", .str "1"),
            ("note", .str (String.ofList (List.replicate 101 'x')))]]
          columns := ["id", "note"] } 1000 .severe := by
  refine ⟨fun h => ?_, fun h => ?_⟩
  · have hcut := h.told.mpr (.inl (by decide +kernel))
    revert hcut
    decide +kernel
  · have hpruned := h.pruned rfl _ List.mem_cons_self "note" (by decide) (by decide +kernel)
    cases hpruned

end Rows

end AgenticRag

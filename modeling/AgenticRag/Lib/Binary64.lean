import AgenticRag.Lib.PyText
import Mathlib.Data.Int.Log
import Mathlib.Tactic.LinearCombination
import Mathlib.Tactic.Linarith
import Mathlib.Tactic.Positivity
import Mathlib.Tactic.Ring

/-!
# Rounding to Doubles

Arithmetic in double precision. The exact result of an operation is rounded to the
nearest fraction that has fifty-three binary digits, of two that are equally near to
the one whose last digit is zero. The place of the last digit goes with the size of
the number, down to a fixed place below which nothing is told apart.

Rounding keeps the order (`nearest_mono`), but not strictly, so two different sums
can come to the same double. How far it moves a number is bounded by half of the
last digit (`abs_nearest_sub_le`). What has so few digits already is not moved
(`nearest_of_isDouble`), and what is rounded has so few (`isDouble_nearest`).

The exponent is not bounded above. A caller that has to know whether a result is too
large for a double compares it with `overflow`.

## Main definitions

* `place`: The place of the last digit.
* `IsDouble`: A fraction with few enough digits.

## Theorems

* `abs_nearest_sub_le`, `abs_nearest_sub_le_of_lt_two`: How far rounding moves.
* `IsDouble.floor`: A double without what is behind its point.
-/

namespace AgenticRag

namespace Binary64

open Py

section HalfEven

variable {x y : ℚ}

theorem floor_toNat_bounds (hx : 0 ≤ x) : (⌊x⌋.toNat : ℚ) ≤ x ∧ x < ⌊x⌋.toNat + 1 := by
  have hfloor : ((⌊x⌋.toNat : Nat) : ℚ) = ⌊x⌋ := by
    exact_mod_cast Int.toNat_of_nonneg (Int.floor_nonneg.mpr hx)
  rw [hfloor]
  exact ⟨Int.floor_le x, Int.lt_floor_add_one x⟩

/-- Rounding to a whole number moves by a half at most. -/
theorem abs_roundHalfEven_sub_le (hx : 0 ≤ x) : |(roundHalfEven x : ℚ) - x| ≤ 1 / 2 := by
  rcases floor_toNat_bounds hx with ⟨hlow, hhigh⟩
  unfold roundHalfEven
  generalize ⌊x⌋.toNat = n at hlow hhigh
  dsimp only
  rw [abs_le]
  split_ifs <;> push_cast <;> constructor <;> linarith

theorem roundHalfEven_mono (hx : 0 ≤ x) (h : x ≤ y) : roundHalfEven x ≤ roundHalfEven y := by
  by_contra hnot
  have hstep : (roundHalfEven y : ℚ) + 1 ≤ roundHalfEven x := by
    exact_mod_cast not_le.mp hnot
  have hlow := (abs_le.mp (abs_roundHalfEven_sub_le hx)).2
  have hhigh := (abs_le.mp (abs_roundHalfEven_sub_le (hx.trans h))).1
  -- Both are half way, from both sides, so they are one number.
  have heq : x = y := by linarith
  rw [heq] at hnot
  exact hnot (le_refl _)

@[simp] theorem roundHalfEven_natCast (n : Nat) : roundHalfEven (n : ℚ) = n := by
  have hdist := abs_le.mp (abs_roundHalfEven_sub_le (Nat.cast_nonneg (α := ℚ) n))
  have hlow : (n : ℚ) < ((roundHalfEven (n : ℚ) + 1 : Nat) : ℚ) := by
    push_cast
    linarith [hdist.1]
  have hhigh : (roundHalfEven (n : ℚ) : ℚ) < ((n + 1 : Nat) : ℚ) := by
    push_cast
    linarith [hdist.2]
  have hlow : n < roundHalfEven (n : ℚ) + 1 := by exact_mod_cast hlow
  have hhigh : roundHalfEven (n : ℚ) < n + 1 := by exact_mod_cast hhigh
  omega

end HalfEven

/-- The place of the last digit of the doubles of a size. -/
def place (x : ℚ) : ℤ :=
  max (Int.log 2 x - 52) (-1074)

/-- The double nearest to a fraction that is not negative. -/
def nearest (x : ℚ) : ℚ :=
  roundHalfEven (x / 2 ^ place x) * 2 ^ place x

/-- The double nearest to a fraction. -/
def toDouble (x : ℚ) : ℚ :=
  if x < 0 then -nearest (-x) else nearest x

/-- From here on a result is too large for a double. -/
def overflow : ℚ :=
  2 ^ 1024

/-- A fraction that is not negative and has few enough digits. -/
def IsDouble (x : ℚ) : Prop :=
  ∃ (m : Nat) (e : ℤ), x = m * 2 ^ e ∧ m ≤ 2 ^ 53 ∧ -1074 ≤ e

section Places

variable {x y : ℚ}

theorem pow_place_pos (x : ℚ) : (0 : ℚ) < 2 ^ place x :=
  zpow_pos (by norm_num) _

theorem place_mono (hx : 0 < x) (h : x ≤ y) : place x ≤ place y :=
  max_le_max (Int.sub_le_sub_right (Int.log_mono_right hx h) 52) (le_refl _)

/-- A number has at most fifty-three digits before its last place. -/
theorem lt_pow_place (x : ℚ) : x < 2 ^ (place x + 53) := by
  have hlog := Int.lt_zpow_succ_log_self (b := 2) (by decide) x
  refine lt_of_lt_of_le hlog (zpow_le_zpow_right₀ (by norm_num) ?_)
  have hplace : Int.log 2 x - 52 ≤ place x := le_max_left _ _
  omega

/-- Above the lowest place a number has all fifty-three. -/
theorem pow_place_le (hx : 0 < x) (hplace : -1074 < place x) : 2 ^ (place x + 52) ≤ x := by
  have hlog := Int.zpow_log_le_self (b := 2) (by decide) hx
  have heq : place x = Int.log 2 x - 52 := by
    unfold place at hplace ⊢
    omega
  rw [heq, Int.sub_add_cancel]
  exact_mod_cast hlog

theorem div_pow_place_le (x : ℚ) : x / 2 ^ place x ≤ ((2 ^ 53 : Nat) : ℚ) := by
  rw [div_le_iff₀ (pow_place_pos x)]
  have hlt := lt_pow_place x
  rw [zpow_add₀ (by norm_num)] at hlt
  have hpow : (2 : ℚ) ^ (53 : ℤ) = ((2 ^ 53 : Nat) : ℚ) := by norm_cast
  rw [hpow, mul_comm] at hlt
  exact hlt.le

end Places

section Nearest

variable {x y : ℚ}

theorem nearest_nonneg (x : ℚ) : 0 ≤ nearest x :=
  mul_nonneg (Nat.cast_nonneg _) (pow_place_pos x).le

@[simp] theorem nearest_zero : nearest 0 = 0 := by
  decide +kernel

/-- A rounded number has no more digits either. -/
theorem roundHalfEven_div_le (hx : 0 ≤ x) : roundHalfEven (x / 2 ^ place x) ≤ 2 ^ 53 := by
  have hmono := roundHalfEven_mono (div_nonneg hx (pow_place_pos x).le) (div_pow_place_le x)
  rwa [roundHalfEven_natCast] at hmono

theorem isDouble_nearest (hx : 0 ≤ x) : IsDouble (nearest x) :=
  ⟨roundHalfEven (x / 2 ^ place x), place x, rfl, roundHalfEven_div_le hx, le_max_right _ _⟩

/-- Rounding moves by half of the last digit at most. -/
theorem abs_nearest_sub_le (hx : 0 ≤ x) : |nearest x - x| ≤ 2 ^ place x / 2 := by
  have hpos := pow_place_pos x
  have hround := abs_roundHalfEven_sub_le (div_nonneg hx hpos.le)
  have hscaled : nearest x - x =
      ((roundHalfEven (x / 2 ^ place x) : ℚ) - x / 2 ^ place x) * 2 ^ place x := by
    rw [sub_mul, div_mul_cancel₀ _ hpos.ne']
    rfl
  rw [hscaled, abs_mul, abs_of_pos hpos]
  calc _ ≤ 1 / 2 * 2 ^ place x := mul_le_mul_of_nonneg_right hround hpos.le
    _ = 2 ^ place x / 2 := by ring

theorem abs_nearest_sub_le_of_lt_two (hx : 0 ≤ x) (h : x < 2) :
    |nearest x - x| ≤ 1 / 2 ^ 53 := by
  have hlog : Int.log 2 x ≤ 0 := by
    rcases hx.eq_or_lt with rfl | hpos
    · simp
    · have hlt := (Int.lt_zpow_iff_log_lt (b := 2) (x := 1) (by decide) hpos).mp (by simpa using h)
      omega
  have hplace : place x ≤ -52 := by
    unfold place
    omega
  refine (abs_nearest_sub_le hx).trans ?_
  have hpow : (2 : ℚ) ^ place x ≤ 2 ^ (-52 : ℤ) := zpow_le_zpow_right₀ (by norm_num) hplace
  norm_num at hpow ⊢
  linarith

/-- A multiple of the last digit stays as it is. -/
theorem nearest_of_multiple {m : Nat} (h : x = m * 2 ^ place x) : nearest x = x := by
  have hdiv : x / 2 ^ place x = m := by
    rw [div_eq_iff (pow_place_pos x).ne']
    exact h
  rw [nearest, hdiv, roundHalfEven_natCast, ← h]

/-- What is a double stays as it is. -/
theorem nearest_of_isDouble (h : IsDouble x) : nearest x = x := by
  rcases h with ⟨m, e, hx, hm, he⟩
  by_cases hzero : m = 0
  · rw [hx, hzero, Nat.cast_zero, zero_mul, nearest_zero]
  have hpos : 0 < x := by
    rw [hx]
    exact mul_pos (by exact_mod_cast Nat.pos_of_ne_zero hzero) (zpow_pos (by norm_num) e)
  by_cases hle : place x ≤ e
  · -- The last digit is at the place or before it.
    rcases Int.le.dest hle with ⟨k, hk⟩
    refine nearest_of_multiple (m := m * 2 ^ k) ?_
    have hpow : (2 : ℚ) ^ e = 2 ^ place x * 2 ^ k := by
      rw [← hk, zpow_add₀ (by norm_num), zpow_natCast]
    rw [hpow] at hx
    push_cast
    linear_combination hx
  · -- There is one digit too many, so it is a power of two.
    have hlow := pow_place_le hpos (by omega)
    have hhigh : x ≤ 2 ^ (e + 53) := by
      rw [hx, zpow_add₀ (by norm_num), mul_comm]
      refine mul_le_mul_of_nonneg_left ?_ (zpow_pos (by norm_num) e).le
      exact_mod_cast hm
    have hexp : place x + 52 ≤ e + 53 :=
      (zpow_le_zpow_iff_right₀ (by norm_num : (1 : ℚ) < 2)).mp (hlow.trans hhigh)
    have heq : e + 53 = place x + 52 := by omega
    have hpow : x = 2 ^ (place x + 52) := le_antisymm (heq ▸ hhigh) hlow
    refine nearest_of_multiple (m := 2 ^ 52) ?_
    rw [zpow_add₀ (by norm_num), mul_comm] at hpow
    exact_mod_cast hpow

theorem nearest_le_pow (hx : 0 ≤ x) : nearest x ≤ 2 ^ (place x + 53) := by
  rw [nearest, zpow_add₀ (by norm_num), mul_comm]
  refine mul_le_mul_of_nonneg_left ?_ (pow_place_pos x).le
  exact_mod_cast roundHalfEven_div_le hx

theorem pow_le_nearest (hx : 0 < x) (hplace : -1074 < place x) :
    2 ^ (place x + 52) ≤ nearest x := by
  have hlow := pow_place_le hx hplace
  have hdiv : ((2 ^ 52 : Nat) : ℚ) ≤ x / 2 ^ place x := by
    rw [le_div_iff₀ (pow_place_pos x), mul_comm]
    rw [zpow_add₀ (by norm_num)] at hlow
    exact_mod_cast hlow
  have hround := roundHalfEven_mono (Nat.cast_nonneg _) hdiv
  rw [roundHalfEven_natCast] at hround
  rw [nearest, zpow_add₀ (by norm_num), mul_comm]
  refine mul_le_mul_of_nonneg_right ?_ (pow_place_pos x).le
  exact_mod_cast hround

/-- Rounding keeps the order. -/
theorem nearest_mono (hx : 0 ≤ x) (h : x ≤ y) : nearest x ≤ nearest y := by
  rcases hx.eq_or_lt with rfl | hpos
  · rw [nearest_zero]
    exact nearest_nonneg y
  rcases (place_mono hpos h).eq_or_lt with heq | hlt
  · -- At the same place it is the order of whole numbers.
    have hdiv : x / 2 ^ place x ≤ y / 2 ^ place x :=
      div_le_div_of_nonneg_right h (pow_place_pos x).le
    unfold nearest
    rw [← heq]
    refine mul_le_mul_of_nonneg_right ?_ (pow_place_pos x).le
    exact_mod_cast roundHalfEven_mono (div_nonneg hx (pow_place_pos x).le) hdiv
  · -- Between two places there is a power of two.
    have hplace : -1074 ≤ place x := le_max_right _ _
    calc nearest x ≤ 2 ^ (place x + 53) := nearest_le_pow hx
      _ ≤ 2 ^ (place y + 52) := zpow_le_zpow_right₀ (by norm_num) (by omega)
      _ ≤ nearest y := pow_le_nearest (hpos.trans_le h) (by omega)

theorem toDouble_of_nonneg (hx : 0 ≤ x) : toDouble x = nearest x :=
  if_neg (not_lt.mpr hx)

theorem toDouble_mono (hx : 0 ≤ x) (h : x ≤ y) : toDouble x ≤ toDouble y := by
  rw [toDouble_of_nonneg hx, toDouble_of_nonneg (hx.trans h)]
  exact nearest_mono hx h

theorem toDouble_nonneg (hx : 0 ≤ x) : 0 ≤ toDouble x := by
  rw [toDouble_of_nonneg hx]
  exact nearest_nonneg x

theorem abs_toDouble_sub_le_of_lt_two (hx : 0 ≤ x) (h : x < 2) :
    |toDouble x - x| ≤ 1 / 2 ^ 53 := by
  rw [toDouble_of_nonneg hx]
  exact abs_nearest_sub_le_of_lt_two hx h

end Nearest

section Whole

variable {x : ℚ}

/-- What is before the point of a double is a double. -/
theorem IsDouble.floor (h : IsDouble x) : IsDouble (⌊x⌋.toNat : ℚ) := by
  rcases h with ⟨m, e, hx, hm, he⟩
  have hnonneg : 0 ≤ x := by
    rw [hx]
    exact mul_nonneg (Nat.cast_nonneg m) (zpow_pos (by norm_num) e).le
  rcases le_or_gt 0 e with hpos | hneg
  · -- There is nothing behind the point.
    rcases Int.eq_ofNat_of_zero_le hpos with ⟨k, rfl⟩
    have hwhole : x = ((m * 2 ^ k : Nat) : ℚ) := by
      rw [hx]
      push_cast
      rfl
    refine ⟨m, k, ?_, hm, he⟩
    rw [← hx, hwhole, Int.floor_natCast, Int.toNat_natCast]
  · refine ⟨⌊x⌋.toNat, 0, by rw [zpow_zero, mul_one], le_trans ?_ hm, by decide⟩
    have hle : x ≤ m := by
      rw [hx]
      exact mul_le_of_le_one_right (Nat.cast_nonneg m)
        (zpow_le_one_of_nonpos₀ (by norm_num) hneg.le)
    exact_mod_cast (floor_toNat_bounds hnonneg).1.trans hle

theorem isDouble_natCast {n : Nat} (h : n ≤ 2 ^ 53) : IsDouble (n : ℚ) :=
  ⟨n, 0, by rw [zpow_zero, mul_one], h, by decide⟩

end Whole

end Binary64

end AgenticRag

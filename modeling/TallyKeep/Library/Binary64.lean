/-
Module: TallyKeep.Library.Binary64
Layer: Library
Purpose: Rounding to integers and to numbers of 53 binary digits, ties to even.  Exponents are not
  bounded: no number here is too large, or too small, for its format.
Trusted boundary: none
Main exports: roundHalfEven, toDouble, roundHalfEven_neg, toDouble_neg,
  toDouble_nonneg, toDouble_le, toDouble_le_two_mul
-/
import Mathlib.Data.Rat.Floor
import Mathlib.Data.Int.Log
import Mathlib.Tactic.Linarith

namespace Binary64

/-- The nearest integer; of two, the even one. -/
def roundHalfEven (x : ℚ) : ℤ :=
  let below := ⌊x⌋
  if x - below < 1 / 2 then below
  else if 1 / 2 < x - below then below + 1
  else if below % 2 = 0 then below
  else below + 1

/-- The unit in the last of 53 binary digits. -/
def unitInLastPlace (x : ℚ) : ℚ := (2 : ℚ) ^ (Int.log 2 |x| - 52)

/-- The nearest number of 53 binary digits; of two, the one whose last digit is even. -/
def toDouble (x : ℚ) : ℚ :=
  if x = 0 then 0 else roundHalfEven (x / unitInLastPlace x) * unitInLastPlace x

/-! ### Integers -/

theorem roundHalfEven_eq_of_abs_lt {x : ℚ} {n : ℤ} (near : |x - n| < 1 / 2) :
    roundHalfEven x = n := by
  obtain ⟨low, high⟩ := abs_lt.mp near
  by_cases under : x < n
  · have floor : ⌊x⌋ = n - 1 := by
      rw [Int.floor_eq_iff]
      push_cast
      constructor <;> linarith
    have rest : x - ((n - 1 : ℤ) : ℚ) = x - n + 1 := by
      push_cast
      ring
    rw [roundHalfEven, floor, rest, if_neg (by linarith), if_pos (by linarith)]
    ring
  · have floor : ⌊x⌋ = n := by
      rw [Int.floor_eq_iff]
      constructor <;> linarith
    rw [roundHalfEven, floor, if_pos (by linarith)]

/-- An integer in the middle of which a number lies rounds to the even neighbour. -/
theorem roundHalfEven_of_tie {x : ℚ} {n : ℤ} (tie : x = n + 1 / 2) :
    roundHalfEven x = if n % 2 = 0 then n else n + 1 := by
  have floor : ⌊x⌋ = n := by
    rw [Int.floor_eq_iff, tie]
    constructor <;> linarith
  have rest : x - n = 1 / 2 := by
    rw [tie]
    ring
  rw [roundHalfEven, floor, rest, if_neg (lt_irrefl _), if_neg (lt_irrefl _)]

/-- What a number rounds to is at most one half away. -/
theorem abs_sub_roundHalfEven_le (x : ℚ) : |x - roundHalfEven x| ≤ 1 / 2 := by
  have low := Int.floor_le x
  have high := Int.lt_floor_add_one x
  have down : x - ⌊x⌋ ≤ 1 / 2 → |x - ⌊x⌋| ≤ 1 / 2 := by
    intro small
    rw [abs_of_nonneg (by linarith)]
    exact small
  have up : 1 / 2 ≤ x - ⌊x⌋ → |x - ((⌊x⌋ + 1 : ℤ) : ℚ)| ≤ 1 / 2 := by
    intro large
    push_cast
    rw [abs_of_nonpos (by linarith)]
    linarith
  rw [roundHalfEven]
  split
  · next below => exact down below.le
  · next notBelow =>
    split
    · next above => exact up above.le
    · next notAbove =>
      split
      · exact down (not_lt.mp notAbove)
      · exact up (not_lt.mp notBelow)

/-- Rounding commutes with a change of the sign. -/
theorem roundHalfEven_neg (x : ℚ) : roundHalfEven (-x) = -roundHalfEven x := by
  rcases lt_trichotomy (x - ⌊x⌋) (1 / 2) with below | tie | above
  · have low := Int.floor_le x
    have here : roundHalfEven x = ⌊x⌋ :=
      roundHalfEven_eq_of_abs_lt (by rw [abs_lt]; constructor <;> linarith)
    rw [here]
    apply roundHalfEven_eq_of_abs_lt
    push_cast
    rw [abs_lt]
    constructor <;> linarith
  · have here : x = ⌊x⌋ + 1 / 2 := by linarith
    have there : -x = ((-⌊x⌋ - 1 : ℤ) : ℚ) + 1 / 2 := by
      push_cast
      linarith
    rw [roundHalfEven_of_tie here, roundHalfEven_of_tie there]
    split <;> split <;> omega
  · have high := Int.lt_floor_add_one x
    have here : roundHalfEven x = ⌊x⌋ + 1 :=
      roundHalfEven_eq_of_abs_lt (by push_cast; rw [abs_lt]; constructor <;> linarith)
    rw [here]
    apply roundHalfEven_eq_of_abs_lt
    push_cast
    rw [abs_lt]
    constructor <;> linarith

theorem roundHalfEven_nonneg {x : ℚ} (nonneg : 0 ≤ x) : 0 ≤ roundHalfEven x := by
  have close := (abs_le.mp (abs_sub_roundHalfEven_le x)).2
  by_contra negative
  have bounded : roundHalfEven x ≤ -1 := by omega
  have cast : (roundHalfEven x : ℚ) ≤ -1 := by exact_mod_cast bounded
  linarith

/-! ### Binary digits -/

theorem unitInLastPlace_pos (x : ℚ) : 0 < unitInLastPlace x := zpow_pos (by norm_num) _

@[simp] theorem unitInLastPlace_neg (x : ℚ) : unitInLastPlace (-x) = unitInLastPlace x := by
  rw [unitInLastPlace, unitInLastPlace, abs_neg]

@[simp] theorem toDouble_zero : toDouble 0 = 0 := if_pos rfl

theorem toDouble_neg (x : ℚ) : toDouble (-x) = -toDouble x := by
  by_cases zero : x = 0
  · simp [zero]
  · rw [toDouble, toDouble, if_neg zero, if_neg (neg_ne_zero.mpr zero), unitInLastPlace_neg,
      neg_div, roundHalfEven_neg]
    push_cast
    ring

theorem toDouble_nonneg {x : ℚ} (nonneg : 0 ≤ x) : 0 ≤ toDouble x := by
  rw [toDouble]
  split
  · exact le_refl 0
  · have unit := unitInLastPlace_pos x
    have rounded := roundHalfEven_nonneg (div_nonneg nonneg unit.le)
    have cast : (0 : ℚ) ≤ roundHalfEven (x / unitInLastPlace x) := by exact_mod_cast rounded
    exact mul_nonneg cast unit.le

/-- The unit of a number is at most its 2^52th part. -/
theorem unitInLastPlace_le {x : ℚ} (positive : 0 < x) : unitInLastPlace x ≤ x / 2 ^ 52 := by
  have leading := Int.zpow_log_le_self (b := 2) (by norm_num) positive
  rw [unitInLastPlace, abs_of_pos positive, zpow_sub₀ (by norm_num)]
  exact div_le_div_of_nonneg_right (by exact_mod_cast leading) (by norm_num)

/-- Rounding makes a number larger by at most its 2^53th part. -/
theorem toDouble_le {x : ℚ} (nonneg : 0 ≤ x) : toDouble x ≤ x + x / 2 ^ 53 := by
  rcases eq_or_lt_of_le nonneg with zero | positive
  · rw [← zero]
    simp
  · have unit := unitInLastPlace_pos x
    have close := (abs_le.mp (abs_sub_roundHalfEven_le (x / unitInLastPlace x))).1
    have small := unitInLastPlace_le positive
    rw [toDouble, if_neg positive.ne']
    calc (roundHalfEven (x / unitInLastPlace x) : ℚ) * unitInLastPlace x
        ≤ (x / unitInLastPlace x + 1 / 2) * unitInLastPlace x :=
          mul_le_mul_of_nonneg_right (by linarith) unit.le
      _ = x + unitInLastPlace x / 2 := by
          rw [add_mul, div_mul_cancel₀ x unit.ne']
          ring
      _ ≤ x + x / 2 ^ 53 := by
          rw [show (2 : ℚ) ^ 53 = 2 ^ 52 * 2 by norm_num, ← div_div]
          linarith

/-- Rounding at most doubles a number. -/
theorem toDouble_le_two_mul {x : ℚ} (nonneg : 0 ≤ x) : toDouble x ≤ 2 * x := by
  have bound := toDouble_le nonneg
  have small : x / 2 ^ 53 ≤ x := div_le_self nonneg (by norm_num)
  linarith

end Binary64

import Mathlib.Algebra.Order.Field.Rat
import Mathlib.Algebra.Order.Round
import Mathlib.Data.Rat.Floor
import Mathlib.Tactic.FieldSimp
import Mathlib.Tactic.Linarith
import Mathlib.Tactic.Ring

/-!
# Numbers of a fixed scale

A column of a fixed scale rounds what is stored, half away from zero. An amount that is added to the
column time and again is rounded each time on its own: `n` times the amount become `n` times the
rounded amount (`accumulate_eq`), so that the error of one rounding is multiplied, too.
-/

namespace FixedPoint

variable {scale : ℕ} {x : ℚ} {n : ℕ}

/-- The nearest integer, half away from zero. -/
def roundHalfAway (x : ℚ) : ℤ := if 0 ≤ x then ⌊x + 1 / 2⌋ else ⌈x - 1 / 2⌉

theorem roundHalfAway_nonneg (h : 0 ≤ x) : 0 ≤ roundHalfAway x := by
  rw [roundHalfAway, if_pos h]
  exact Int.floor_nonneg.mpr (by linarith)

theorem roundHalfAway_nonpos (h : x < 0) : roundHalfAway x ≤ 0 := by
  rw [roundHalfAway, if_neg (not_le.mpr h), Int.ceil_le]
  norm_num
  linarith

/-- An integer of the sign of a number is added after the rounding as well as before. -/
theorem roundHalfAway_add {k : ℤ} (hpos : 0 ≤ x → 0 ≤ k) (hneg : x < 0 → k ≤ 0) :
    roundHalfAway (k + x) = k + roundHalfAway x := by
  rcases le_or_gt 0 x with h | h
  · have hk : (0 : ℚ) ≤ k := Int.cast_nonneg (hpos h)
    rw [roundHalfAway, roundHalfAway, if_pos h, if_pos (add_nonneg hk h), add_assoc,
      Int.floor_intCast_add]
  · have hk : (k : ℚ) ≤ 0 := by exact_mod_cast hneg h
    rw [roundHalfAway, roundHalfAway, if_neg (not_le.mpr h),
      if_neg (not_le.mpr (add_neg_of_nonpos_of_neg hk h)), add_sub_assoc, Int.ceil_intCast_add]

/-- What a column of a scale makes of a value. -/
def toScale (scale : ℕ) (x : ℚ) : ℚ := roundHalfAway (x * scale) / scale

/-- **One more of an amount** is one more of the rounded amount. -/
theorem toScale_add (hscale : 0 < scale) (n : ℕ) (x : ℚ) :
    toScale scale (n * toScale scale x + x) = (n + 1) * toScale scale x := by
  have hs : (scale : ℚ) ≠ 0 := Nat.cast_ne_zero.mpr hscale.ne'
  have hmul : (n * toScale scale x + x) * scale
      = ((n * roundHalfAway (x * scale) : ℤ) : ℚ) + x * scale := by
    rw [toScale]
    push_cast
    field_simp
  rw [toScale, hmul, roundHalfAway_add, toScale]
  · push_cast
    ring
  · exact fun h ↦ mul_nonneg (Nat.cast_nonneg n) (roundHalfAway_nonneg h)
  · exact fun h ↦ mul_nonpos_of_nonneg_of_nonpos (Nat.cast_nonneg n) (roundHalfAway_nonpos h)

/-- A column to which an amount has been added some times. -/
def accumulate (scale : ℕ) (x : ℚ) : ℕ → ℚ
  | 0 => 0
  | n + 1 => toScale scale (accumulate scale x n + x)

/-- **The error of a rounding accumulates.** -/
theorem accumulate_eq (hscale : 0 < scale) (x : ℚ) (n : ℕ) :
    accumulate scale x n = n * toScale scale x := by
  induction n with
  | zero => rw [accumulate, Nat.cast_zero, zero_mul]
  | succ n ih => rw [accumulate, ih, toScale_add hscale, Nat.cast_succ]

theorem abs_accumulate_sub (hscale : 0 < scale) (x : ℚ) (n : ℕ) :
    |accumulate scale x n - n * x| = n * |toScale scale x - x| := by
  rw [accumulate_eq hscale, ← mul_sub, abs_mul, abs_of_nonneg (Nat.cast_nonneg n)]

end FixedPoint

/-
Module: KavachNpu.Foundation.ExactArithmetic
Layer: Foundation
Purpose: Arithmetics that compute exactly. An ordered field with a floor is exact if its float operations are
  the mathematical ones; the rationals are, and so are the reals, which also have the logarithms that
  numeric code calls. Rounding to the nearest integer takes halves away from zero.
Trusted boundary: human-reviewed spec
Main exports: roundAway, abs_sub_roundAway_le, roundAway_intCast, roundAway_mono, roundAway_eq,
  ExactArithmetic, floatOpsReal, clamp_intCast
-/
import Mathlib
import KavachNpu.Foundation.Arithmetic

namespace KavachNpu

section Rounding

variable {F : Type} [Field F] [LinearOrder F] [FloorRing F]

/-- The nearest integer, halves away from zero. -/
def roundAway (x : F) : ℤ :=
  if x < 0 then ⌈x - 1 / 2⌉ else ⌊x + 1 / 2⌋

variable [IsStrictOrderedRing F]

theorem abs_sub_roundAway_le (x : F) : |x - roundAway x| ≤ 1 / 2 := by
  unfold roundAway
  rw [abs_le]
  split
  · have above := Int.le_ceil (x - 1 / 2)
    have below := Int.ceil_lt_add_one (x - 1 / 2)
    constructor <;> linarith
  · have below := Int.floor_le (x + 1 / 2)
    have above := Int.lt_floor_add_one (x + 1 / 2)
    constructor <;> linarith

/-- An integer closer than one half is the rounding. -/
theorem roundAway_eq {x : F} {n : ℤ} (close : |x - n| < 1 / 2) : roundAway x = n := by
  obtain ⟨below, above⟩ := abs_lt.mp close
  obtain ⟨low, high⟩ := abs_le.mp (abs_sub_roundAway_le x)
  have lt : ((roundAway x - n : ℤ) : F) < 1 := by
    push_cast
    linarith
  have gt : ((n - roundAway x : ℤ) : F) < 1 := by
    push_cast
    linarith
  have up : roundAway x - n < 1 := by exact_mod_cast lt
  have down : n - roundAway x < 1 := by exact_mod_cast gt
  omega

theorem roundAway_intCast (n : ℤ) : roundAway (n : F) = n := by
  apply roundAway_eq
  rw [sub_self, abs_zero]
  norm_num

theorem roundAway_mono {x y : F} (le : x ≤ y) : roundAway x ≤ roundAway y := by
  unfold roundAway
  split
  · rename_i negative
    split
    · exact Int.ceil_le_ceil (by linarith)
    · rename_i nonneg
      have low : ⌈x - 1 / 2⌉ ≤ 0 := Int.ceil_le.mpr (by push_cast; linarith)
      have high : 0 ≤ ⌊y + 1 / 2⌋ := Int.floor_nonneg.mpr (by linarith [not_lt.mp nonneg])
      exact low.trans high
  · rename_i nonneg
    have later : ¬ y < 0 := not_lt.mpr ((not_lt.mp nonneg).trans le)
    rw [if_neg later]
    exact Int.floor_le_floor (by linarith)

end Rounding

/-- The float operations of an exact arithmetic are the mathematical ones. -/
class ExactArithmetic (F : Type) [Field F] [LinearOrder F] [FloorRing F] [FloatOps F] : Prop where
  abs_eq : ∀ x : F, FloatOps.abs x = |x|
  round_eq : ∀ x : F, FloatOps.round x = (roundAway x : F)
  asI8_intCast : ∀ n : ℤ, -128 ≤ n → n ≤ 127 → FloatOps.asI8 (n : F) = Int8.ofInt n

instance exactArithmeticRat : ExactArithmetic ℚ where
  abs_eq x := by
    change (if x < 0 then -x else x) = |x|
    split
    · rename_i negative
      exact (abs_of_neg negative).symm
    · rename_i nonneg
      exact (abs_of_nonneg (not_lt.mp nonneg)).symm
  round_eq x := by
    change ((truncRat (if x < 0 then x - 1 / 2 else x + 1 / 2) : ℤ) : ℚ) = (roundAway x : ℚ)
    unfold roundAway truncRat
    split
    · rename_i negative
      rw [if_pos (by linarith)]
    · rename_i nonneg
      rw [if_neg (by linarith [not_lt.mp nonneg])]
  asI8_intCast n low high := by
    change Int8.ofInt (max (-128) (min 127 (truncRat (n : ℚ)))) = Int8.ofInt n
    have integral : truncRat (n : ℚ) = n := by
      unfold truncRat
      split
      · exact Int.ceil_intCast n
      · exact Int.floor_intCast n
    rw [integral, min_eq_right high, max_eq_right low]

/-- The float operations of the reals. -/
noncomputable instance floatOpsReal : FloatOps ℝ where
  abs x := |x|
  round x := (roundAway x : ℝ)
  asU64 x := UInt64.ofNat (min ⌊x⌋.toNat (UInt64.size - 1))
  asI8 x := Int8.ofInt (max (-128) (min 127 (if x < 0 then ⌈x⌉ else ⌊x⌋)))

instance exactArithmeticReal : ExactArithmetic ℝ where
  abs_eq _ := rfl
  round_eq _ := rfl
  asI8_intCast n low high := by
    change Int8.ofInt (max (-128) (min 127 (if (n : ℝ) < 0 then ⌈(n : ℝ)⌉ else ⌊(n : ℝ)⌋))) = Int8.ofInt n
    rw [Int.ceil_intCast, Int.floor_intCast, ite_self, min_eq_right high, max_eq_right low]

/-- Clamping an integer between integers. -/
theorem clamp_intCast {F : Type} [Field F] [LinearOrder F] [IsStrictOrderedRing F] {low high : ℤ}
    (ordered : low ≤ high) (n : ℤ) :
    clamp (n : F) (low : F) (high : F) = ((max low (min high n) : ℤ) : F) := by
  unfold clamp
  simp only [Int.cast_lt, gt_iff_lt]
  by_cases small : n < low
  · have capped : ¬ (high : F) < (low : F) := by exact_mod_cast not_lt.mpr ordered
    rw [if_pos small, if_neg capped, max_eq_left (by omega)]
  · rw [if_neg small]
    by_cases large : high < n
    · rw [if_pos (by exact_mod_cast large), min_eq_left (by omega), max_eq_right ordered]
    · rw [if_neg (by exact_mod_cast large), min_eq_right (by omega), max_eq_right (by omega)]

end KavachNpu

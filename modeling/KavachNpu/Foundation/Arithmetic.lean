/-
Module: KavachNpu.Foundation.Arithmetic
Layer: Foundation
Purpose: Arithmetic for numeric code. Such code is written over a type with the usual operator classes and
  the operations of `FloatOps`, so that what is proved of it holds for any arithmetic, rounding or exact.
  The rationals are the exact arithmetic.
Trusted boundary: human-reviewed spec
Main exports: FloatOps, AsF32, clamp, floatMax, saturatingSub, floatOpsRat, foldl_add_le, le_foldl_add,
  le_foldl_add_classes, le_foldl_max, clamp_le, le_clamp, le_clamp_iff, clamp_mem
-/
import Mathlib.Data.Rat.Floor
import Mathlib.Tactic.Linarith
import Mathlib.Tactic.NormNum

namespace KavachNpu

/-- The operations of a floating-point type that are not operators. -/
class FloatOps (F : Type) where
  abs : F → F
  /-- To the nearest integer, halves away from zero. -/
  round : F → F
  /-- Truncation to `u64`, saturating. -/
  asU64 : F → UInt64
  /-- Truncation to `i8`, saturating. -/
  asI8 : F → Int8

/-- The conversion from double to single precision. -/
class AsF32 (D S : Type) where
  asF32 : D → S

/-- `f32::clamp`. -/
def clamp {F : Type} [LT F] [DecidableLT F] (value low high : F) : F :=
  let value := if value < low then low else value
  if value > high then high else value

/-- `f32::max`. -/
def floatMax {F : Type} [LT F] [DecidableLT F] (left right : F) : F :=
  if left < right then right else left

/-! ### Saturating subtraction -/

/-- `u64::saturating_sub`. -/
def saturatingSub (a b : UInt64) : UInt64 :=
  if b ≤ a then a - b else 0

theorem toNat_saturatingSub (a b : UInt64) : (saturatingSub a b).toNat = a.toNat - b.toNat := by
  unfold saturatingSub
  by_cases le : b ≤ a
  · rw [if_pos le, UInt64.toNat_sub_of_le _ _ le]
  · have lt := UInt64.lt_iff_toNat_lt.mp (UInt64.not_le.mp le)
    rw [if_neg le]
    change 0 = _
    omega

theorem saturatingSub_le (a b : UInt64) : saturatingSub a b ≤ a := by
  rw [UInt64.le_iff_toNat_le, toNat_saturatingSub]
  omega

theorem saturatingSub_mono {a b : UInt64} (w : UInt64) (le : a ≤ b) :
    saturatingSub a w ≤ saturatingSub b w := by
  rw [UInt64.le_iff_toNat_le] at le ⊢
  rw [toNat_saturatingSub, toNat_saturatingSub]
  omega

/-! ### Exact arithmetic -/

/-- The integer part of a rational, rounded towards zero. -/
def truncRat (value : ℚ) : Int :=
  if value < 0 then ⌈value⌉ else ⌊value⌋

instance floatOpsRat : FloatOps ℚ where
  abs value := if value < 0 then -value else value
  round value := truncRat (if value < 0 then value - 1 / 2 else value + 1 / 2)
  asU64 value := UInt64.ofNat (min (truncRat value).toNat (UInt64.size - 1))
  asI8 value := Int8.ofInt (max (-128) (min 127 (truncRat value)))

instance asF32Rat : AsF32 ℚ ℚ where
  asF32 value := value

theorem truncRat_natCast (n : Nat) : truncRat (n : ℚ) = n := by
  have nonneg : ¬ (n : ℚ) < 0 := not_lt.mpr (Nat.cast_nonneg n)
  rw [truncRat, if_neg nonneg, Int.floor_natCast]

/-! ### Sums and clamps -/

section Ordered

variable {α F : Type} [Field F] [LinearOrder F] [IsStrictOrderedRing F]

/-- A sum of terms that are at most `bound`. -/
theorem foldl_add_le {f : α → F} {bound : F} {items : List α} (below : ∀ item ∈ items, f item ≤ bound)
    (start : F) : items.foldl (fun sum item => sum + f item) start ≤ start + items.length * bound := by
  induction items generalizing start with
  | nil => simp
  | cons item rest ih =>
      have first := below item List.mem_cons_self
      have others := ih (fun other member => below other (List.mem_cons_of_mem item member))
        (start + f item)
      rw [List.foldl_cons, List.length_cons]
      push_cast
      linarith

/-- A sum of terms of two kinds, with a lower bound for each kind. -/
theorem le_foldl_add_classes {f : α → F} {kind : α → Bool} {high low : F} {items : List α}
    (above : ∀ item ∈ items, kind item = true → high ≤ f item)
    (otherwise : ∀ item ∈ items, kind item = false → low ≤ f item) (start : F) :
    start + items.countP kind * high + items.countP (fun item => ! kind item) * low ≤
      items.foldl (fun sum item => sum + f item) start := by
  induction items generalizing start with
  | nil => simp
  | cons item rest ih =>
      have others := ih (fun other member => above other (List.mem_cons_of_mem item member))
        (fun other member => otherwise other (List.mem_cons_of_mem item member)) (start + f item)
      rw [List.foldl_cons]
      cases sort : kind item with
      | true =>
          have first := above item List.mem_cons_self sort
          rw [List.countP_cons_of_pos sort, List.countP_cons_of_neg (by simp [sort])]
          push_cast
          linarith
      | false =>
          have first := otherwise item List.mem_cons_self sort
          rw [List.countP_cons_of_neg (by simp [sort]), List.countP_cons_of_pos (by simp [sort])]
          push_cast
          linarith

/-- A sum of terms that are at least `bound`. -/
theorem le_foldl_add {f : α → F} {bound : F} {items : List α} (above : ∀ item ∈ items, bound ≤ f item)
    (start : F) : start + items.length * bound ≤ items.foldl (fun sum item => sum + f item) start := by
  induction items generalizing start with
  | nil => simp
  | cons item rest ih =>
      have first := above item List.mem_cons_self
      have others := ih (fun other member => above other (List.mem_cons_of_mem item member))
        (start + f item)
      rw [List.foldl_cons, List.length_cons]
      push_cast
      linarith

end Ordered

/-- A running maximum is at least its start and everything it has seen. -/
theorem le_foldl_max {F : Type} [LinearOrder F] (items : List F) (start : F) :
    start ≤ items.foldl (fun most item => if item > most then item else most) start ∧
      ∀ item ∈ items, item ≤ items.foldl (fun most item => if item > most then item else most) start := by
  induction items generalizing start with
  | nil => simp
  | cons first rest ih =>
      have kept : start ≤ (if first > start then first else start) ∧
          first ≤ (if first > start then first else start) := by
        split
        · rename_i larger
          exact ⟨le_of_lt larger, le_refl first⟩
        · rename_i smaller
          exact ⟨le_refl start, not_lt.mp smaller⟩
      obtain ⟨initial, later⟩ := ih (if first > start then first else start)
      rw [List.foldl_cons]
      refine ⟨kept.1.trans initial, ?_⟩
      intro item member
      rcases List.mem_cons.mp member with rfl | inRest
      · exact kept.2.trans initial
      · exact later item inRest

/-- A clamped value is at least any lower bound of the value below the upper end. -/
theorem le_clamp {F : Type} [LinearOrder F] {value low high bound : F} (above : bound ≤ value)
    (below : bound ≤ high) : bound ≤ clamp value low high := by
  have raised : bound ≤ (if value < low then low else value) := by
    split
    · rename_i lifted
      exact above.trans (le_of_lt lifted)
    · exact above
  unfold clamp
  simp only
  generalize (if value < low then low else value) = lifted at raised
  split
  · exact below
  · exact raised

/-- A clamped value is at most any bound of the value above the lower end. -/
theorem clamp_le {F : Type} [LinearOrder F] {value low high bound : F} (below : value ≤ bound)
    (above : low ≤ bound) : clamp value low high ≤ bound := by
  have raised : (if value < low then low else value) ≤ bound := by
    split
    · exact above
    · exact below
  unfold clamp
  simp only
  generalize (if value < low then low else value) = lifted at raised
  split
  · rename_i exceeds
    exact (le_of_lt exceeds).trans raised
  · exact raised

/-- Clamping decides nothing about a bound above the lower end. -/
theorem le_clamp_iff {F : Type} [LinearOrder F] {value low high bound : F} (above : low < bound)
    (below : bound ≤ high) : bound ≤ clamp value low high ↔ bound ≤ value := by
  constructor
  · intro reached
    by_contra short
    have capped : clamp value low high ≤ max value low :=
      clamp_le (le_max_left value low) (le_max_right value low)
    exact absurd (reached.trans capped) (not_le.mpr (max_lt (not_le.mp short) above))
  · intro reached
    exact le_clamp reached below

/-- A clamped value lies between the ends. -/
theorem clamp_mem {F : Type} [LinearOrder F] {low high : F} (ordered : low ≤ high) (value : F) :
    low ≤ clamp value low high ∧ clamp value low high ≤ high := by
  have raised : low ≤ (if value < low then low else value) := by
    split
    · exact le_refl low
    · rename_i notBelow
      exact not_lt.mp notBelow
  unfold clamp
  simp only
  generalize (if value < low then low else value) = lifted at raised
  split
  · exact ⟨ordered, le_refl high⟩
  · rename_i notAbove
    exact ⟨raised, not_lt.mp notAbove⟩

end KavachNpu

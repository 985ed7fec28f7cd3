/-
Module: KavachNpu.Foundation.ExactSingle
Layer: Foundation
Purpose: Single-precision numbers as rationals: the number with given bits, the number nearest to a
  rational, and exact arithmetic over a program's single-precision constants. Overflow is not modelled: a
  rational beyond the largest single-precision number is rounded as if the exponents went on.
Trusted boundary: human-reviewed spec
Main exports: singleOfBits, roundSingle, ExactSingle
-/
import Mathlib.Algebra.Order.Floor.Semifield
import Mathlib.Data.Int.Log
import Mathlib.Data.Rat.Floor

namespace KavachNpu

/-- The finite number with the given bits: sign, eight bits of exponent, 23 bits of fraction. -/
def singleOfBits (bits : UInt32) : Option ℚ :=
  let sign : ℚ := if bits.toNat / 2 ^ 31 = 0 then 1 else -1
  let exponent : ℕ := bits.toNat / 2 ^ 23 % 2 ^ 8
  let fraction : ℕ := bits.toNat % 2 ^ 23
  if exponent = 255 then
    none
  else if exponent = 0 then
    some (sign * fraction * 2 ^ (-149 : ℤ))
  else
    some (sign * (2 ^ 23 + fraction) * 2 ^ ((exponent : ℤ) - 150))

/-- The nearest integer, the even one in the middle between two. -/
def roundHalfEven (value : ℚ) : ℤ :=
  let low := ⌊value⌋
  if value - low < 1 / 2 then
    low
  else if 1 / 2 < value - low then
    low + 1
  else if low % 2 = 0 then
    low
  else
    low + 1

/-- The nearest single-precision number: 24 significant bits, and no bit below `2 ^ (-149)`. -/
def roundSingle (value : ℚ) : ℚ :=
  let spacing : ℚ := 2 ^ (max (Int.log 2 |value|) (-126) - 23)
  roundHalfEven (value / spacing) * spacing

/-- A rational number. Its decimal constants are those of single precision, and its operations are exact. -/
structure ExactSingle where
  toRat : ℚ
deriving DecidableEq

namespace ExactSingle

instance : Add ExactSingle := ⟨fun left right => ⟨left.toRat + right.toRat⟩⟩

instance : Mul ExactSingle := ⟨fun left right => ⟨left.toRat * right.toRat⟩⟩

instance : Div ExactSingle := ⟨fun left right => ⟨left.toRat / right.toRat⟩⟩

instance : LT ExactSingle := ⟨fun left right => left.toRat < right.toRat⟩

instance : DecidableLT ExactSingle := fun left right =>
  inferInstanceAs (Decidable (left.toRat < right.toRat))

instance : IntCast ExactSingle := ⟨fun value => ⟨value⟩⟩

instance : OfScientific ExactSingle :=
  ⟨fun mantissa sign exponent => ⟨roundSingle (OfScientific.ofScientific mantissa sign exponent)⟩⟩

@[simp] theorem toRat_add (left right : ExactSingle) :
    (left + right).toRat = left.toRat + right.toRat := rfl

@[simp] theorem toRat_mul (left right : ExactSingle) :
    (left * right).toRat = left.toRat * right.toRat := rfl

@[simp] theorem toRat_div (left right : ExactSingle) :
    (left / right).toRat = left.toRat / right.toRat := rfl

@[simp] theorem toRat_intCast (value : Int) : (value : ExactSingle).toRat = value := rfl

@[ext] theorem ext_toRat {left right : ExactSingle} (same : left.toRat = right.toRat) : left = right := by
  cases left
  cases right
  cases same
  rfl

end ExactSingle

end KavachNpu

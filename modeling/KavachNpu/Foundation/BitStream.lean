/-
Module: KavachNpu.Foundation.BitStream
Layer: Foundation
Purpose: Streams of bits, most significant first. Numbers of any width are written into a stream one after
  another, and read back from it in bytes; an incomplete last byte is dropped.
Trusted boundary: human-reviewed spec
Main exports: bitsBE, bytesOfBits, bitsBE_add, bitsBE_concat, bytesOfBits_bitsBE, bytesOfBits_bytes,
  bytesOfBits_eq_range
-/
import Mathlib.Data.Nat.Bitwise
import Mathlib.Tactic.Ring

namespace KavachNpu

/-- The low `n` bits of a number, most significant first. -/
def bitsBE : Nat → Nat → List Bool
  | 0, _ => []
  | n + 1, x => x.testBit n :: bitsBE n x

/-- The number with the given bits, most significant first. -/
def ofBits (bits : List Bool) : Nat :=
  bits.foldl (fun value bit => 2 * value + bit.toNat) 0

/-- The bytes of a stream; the last bits are dropped if they do not fill a byte. -/
def bytesOfBits : List Bool → List UInt8
  | b7 :: b6 :: b5 :: b4 :: b3 :: b2 :: b1 :: b0 :: rest =>
      UInt8.ofNat (ofBits [b7, b6, b5, b4, b3, b2, b1, b0]) :: bytesOfBits rest
  | _ => []

@[simp] theorem length_bitsBE (n x : Nat) : (bitsBE n x).length = n := by
  induction n with
  | zero => rfl
  | succ n ih => rw [bitsBE, List.length_cons, ih]

@[simp] theorem take_bitsBE {n m : Nat} (le : n ≤ m) (x : Nat) : (bitsBE n x).take m = bitsBE n x :=
  List.take_of_length_le (by simpa using le)

theorem bitsBE_congr {n x y : Nat} (same : ∀ i < n, x.testBit i = y.testBit i) :
    bitsBE n x = bitsBE n y := by
  induction n with
  | zero => rfl
  | succ n ih => rw [bitsBE, bitsBE, same n (by omega), ih fun i lt => same i (by omega)]

/-- Higher bits do not matter. -/
theorem bitsBE_mod {n m : Nat} (le : n ≤ m) (x : Nat) : bitsBE n (x % 2 ^ m) = bitsBE n x := by
  apply bitsBE_congr
  intro i lt
  rw [Nat.testBit_mod_two_pow]
  simp [show i < m by omega]

/-- The high bits come first. -/
theorem bitsBE_add (a b x : Nat) : bitsBE (a + b) x = bitsBE a (x >>> b) ++ bitsBE b x := by
  induction a with
  | zero => rw [Nat.zero_add]; rfl
  | succ a ih =>
      rw [Nat.succ_add, bitsBE, bitsBE, ih, Nat.testBit_shiftRight, Nat.add_comm b a]
      rfl

/-- Writing two numbers one after the other. -/
theorem bitsBE_concat (a : Nat) {b y : Nat} (x : Nat) (small : y < 2 ^ b) :
    bitsBE (a + b) (x * 2 ^ b + y) = bitsBE a x ++ bitsBE b y := by
  have high : (x * 2 ^ b + y) >>> b = x := by
    rw [Nat.shiftRight_eq_div_pow, Nat.add_comm, Nat.add_mul_div_right _ _ (Nat.two_pow_pos b),
      Nat.div_eq_of_lt small, Nat.zero_add]
  have low : bitsBE b (x * 2 ^ b + y) = bitsBE b y := by
    rw [← bitsBE_mod (Nat.le_refl b) (x * 2 ^ b + y), Nat.mul_comm, Nat.mul_add_mod,
      Nat.mod_eq_of_lt small]
  rw [bitsBE_add, high, low]

theorem foldl_bitsBE (n x value : Nat) :
    (bitsBE n x).foldl (fun value bit => 2 * value + bit.toNat) value = value * 2 ^ n + x % 2 ^ n := by
  induction n generalizing value with
  | zero => simp [bitsBE, Nat.mod_one]
  | succ n ih =>
      rw [bitsBE, List.foldl_cons, ih, Nat.toNat_testBit, Nat.mod_pow_succ]
      ring

theorem ofBits_bitsBE (n x : Nat) : ofBits (bitsBE n x) = x % 2 ^ n := by
  rw [ofBits, foldl_bitsBE, Nat.zero_mul, Nat.zero_add]

/-- The first byte of a stream. -/
theorem bytesOfBits_bitsBE (x : Nat) (rest : List Bool) :
    bytesOfBits (bitsBE 8 x ++ rest) = UInt8.ofNat x :: bytesOfBits rest := by
  have value := ofBits_bitsBE 8 x
  simp only [bitsBE] at value
  simp only [bitsBE, List.cons_append, List.nil_append, bytesOfBits, value]
  congr 1
  apply UInt8.toNat_inj.mp
  simp

/-- A stream of bytes is read back, and fewer than eight bits behind it are dropped. -/
theorem bytesOfBits_bytes (bytes : List UInt8) {padding : List Bool} (short : padding.length < 8) :
    bytesOfBits (bytes.flatMap (fun byte => bitsBE 8 byte.toNat) ++ padding) = bytes := by
  induction bytes with
  | nil =>
      rw [List.flatMap_nil, List.nil_append]
      unfold bytesOfBits
      split
      · simp only [List.length_cons] at short
        omega
      · rfl
  | cons byte rest ih =>
      rw [List.flatMap_cons, List.append_assoc, bytesOfBits_bitsBE, ih, UInt8.ofNat_toNat]

/-- The bytes of a stream, by position: one for every eight bits. -/
theorem bytesOfBits_eq_range (bits : List Bool) :
    bytesOfBits bits = (List.range (bits.length / 8)).map fun i =>
      UInt8.ofNat (ofBits ((bits.drop (8 * i)).take 8)) := by
  fun_induction bytesOfBits bits with
  | case1 b7 b6 b5 b4 b3 b2 b1 b0 rest ih =>
      have count : (b7 :: b6 :: b5 :: b4 :: b3 :: b2 :: b1 :: b0 :: rest).length / 8 =
          rest.length / 8 + 1 := by
        simp only [List.length_cons]
        omega
      rw [count, List.range_succ_eq_map, List.map_cons, List.map_map, ih]
      rfl
  | case2 bits short =>
      -- fewer than eight bits are left
      have few : bits.length / 8 = 0 := by
        match bits, short with
        | [], _ | [_], _ | [_, _], _ | [_, _, _], _ | [_, _, _, _], _ | [_, _, _, _, _], _
        | [_, _, _, _, _, _], _ | [_, _, _, _, _, _, _], _ => simp
        | b7 :: b6 :: b5 :: b4 :: b3 :: b2 :: b1 :: b0 :: rest, short =>
            exact (short b7 b6 b5 b4 b3 b2 b1 b0 rest rfl).elim
      rw [few, List.range_zero, List.map_nil]

end KavachNpu

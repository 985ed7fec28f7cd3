/-
Module: KavachNpu.Foundation.BigEndian
Layer: Foundation
Purpose: `to_be_bytes` and `from_be_bytes`. Both are stated once for a natural number and a byte count
  and then instantiated at the widths of `u16`, `u32` and `u64`; each pair is a bijection between the
  machine integer and the byte strings of its width.
Trusted boundary: human-reviewed spec
Main exports: beBytes, ofBe, ofBe_beBytes, beBytes_ofBe, u16ToBeBytes, u16FromBeBytes, u32ToBeBytes,
  u32FromBeBytes, u64ToBeBytes, u64FromBeBytes
-/
import Mathlib.Data.List.Induction
import Mathlib.Algebra.Group.Nat.Defs
import KavachNpu.Foundation.Bytes

namespace KavachNpu

/-- The `width` big-endian bytes of `n`, most significant first. -/
def beBytes : Nat → Nat → List UInt8
  | 0, _ => []
  | width + 1, n => beBytes width (n / 256) ++ [UInt8.ofNat (n % 256)]

/-- The natural number with the given big-endian bytes. -/
def ofBe (bytes : List UInt8) : Nat :=
  bytes.foldl (fun value byte => value * 256 + byte.toNat) 0

@[simp] theorem length_beBytes (width n : Nat) : (beBytes width n).length = width := by
  induction width generalizing n with
  | zero => rfl
  | succ width ih => simp [beBytes, ih]

theorem ofBe_append_singleton (bytes : List UInt8) (byte : UInt8) :
    ofBe (bytes ++ [byte]) = ofBe bytes * 256 + byte.toNat := by
  simp [ofBe]

theorem ofBe_lt (bytes : List UInt8) : ofBe bytes < 256 ^ bytes.length := by
  induction bytes using List.reverseRecOn with
  | nil => simp [ofBe]
  | append_singleton bytes byte ih =>
      have hbyte : byte.toNat < 256 := byte.toNat_lt
      rw [ofBe_append_singleton, List.length_append, List.length_singleton, Nat.pow_succ]
      omega

/-- Decoding an encoded number that fits returns it. -/
theorem ofBe_beBytes {width n : Nat} (h : n < 256 ^ width) : ofBe (beBytes width n) = n := by
  induction width generalizing n with
  | zero =>
      have hzero : n = 0 := by simpa using h
      subst hzero
      rfl
  | succ width ih =>
      have hdiv : n / 256 < 256 ^ width := by
        rw [Nat.pow_succ] at h
        omega
      have hbyte : (UInt8.ofNat (n % 256)).toNat = n % 256 := by
        rw [UInt8.toNat_ofNat']
        omega
      rw [beBytes, ofBe_append_singleton, ih hdiv, hbyte]
      omega

/-- Encoding a decoded byte string returns it. -/
theorem beBytes_ofBe (bytes : List UInt8) : beBytes bytes.length (ofBe bytes) = bytes := by
  induction bytes using List.reverseRecOn with
  | nil => rfl
  | append_singleton bytes byte ih =>
      have hbyte : byte.toNat < 256 := byte.toNat_lt
      have hdiv : (ofBe bytes * 256 + byte.toNat) / 256 = ofBe bytes := by omega
      have hmod : (ofBe bytes * 256 + byte.toNat) % 256 = byte.toNat := by omega
      rw [List.length_append, List.length_singleton, beBytes, ofBe_append_singleton, hdiv, hmod, ih,
        UInt8.ofNat_toNat]

/-! ### Machine widths -/

/-- `u16::to_be_bytes`. -/
def u16ToBeBytes (value : UInt16) : Bytes 2 := ⟨beBytes 2 value.toNat, length_beBytes _ _⟩

/-- `u32::to_be_bytes`. -/
def u32ToBeBytes (value : UInt32) : Bytes 4 := ⟨beBytes 4 value.toNat, length_beBytes _ _⟩

/-- `u64::to_be_bytes`. -/
def u64ToBeBytes (value : UInt64) : Bytes 8 := ⟨beBytes 8 value.toNat, length_beBytes _ _⟩

/-- `u16::from_be_bytes`. -/
def u16FromBeBytes (bytes : List UInt8) : UInt16 := UInt16.ofNat (ofBe bytes)

/-- `u32::from_be_bytes`. -/
def u32FromBeBytes (bytes : List UInt8) : UInt32 := UInt32.ofNat (ofBe bytes)

/-- `u64::from_be_bytes`. -/
def u64FromBeBytes (bytes : List UInt8) : UInt64 := UInt64.ofNat (ofBe bytes)

@[simp] theorem u16FromBeBytes_toBeBytes (value : UInt16) :
    u16FromBeBytes (u16ToBeBytes value).toList = value := by
  have hfits : value.toNat < 256 ^ 2 := value.toNat_lt
  simp [u16FromBeBytes, u16ToBeBytes, ofBe_beBytes hfits]

@[simp] theorem u32FromBeBytes_toBeBytes (value : UInt32) :
    u32FromBeBytes (u32ToBeBytes value).toList = value := by
  have hfits : value.toNat < 256 ^ 4 := value.toNat_lt
  simp [u32FromBeBytes, u32ToBeBytes, ofBe_beBytes hfits]

@[simp] theorem u64FromBeBytes_toBeBytes (value : UInt64) :
    u64FromBeBytes (u64ToBeBytes value).toList = value := by
  have hfits : value.toNat < 256 ^ 8 := value.toNat_lt
  simp [u64FromBeBytes, u64ToBeBytes, ofBe_beBytes hfits]

theorem u16ToBeBytes_fromBeBytes {bytes : List UInt8} (h : bytes.length = 2) :
    (u16ToBeBytes (u16FromBeBytes bytes)).toList = bytes := by
  have hfits := ofBe_lt bytes
  have hround := beBytes_ofBe bytes
  rw [h] at hfits hround
  have hvalue : (u16FromBeBytes bytes).toNat = ofBe bytes := by
    rw [u16FromBeBytes, UInt16.toNat_ofNat']
    exact Nat.mod_eq_of_lt hfits
  show beBytes 2 (u16FromBeBytes bytes).toNat = bytes
  rw [hvalue]
  exact hround

theorem u32ToBeBytes_fromBeBytes {bytes : List UInt8} (h : bytes.length = 4) :
    (u32ToBeBytes (u32FromBeBytes bytes)).toList = bytes := by
  have hfits := ofBe_lt bytes
  have hround := beBytes_ofBe bytes
  rw [h] at hfits hround
  have hvalue : (u32FromBeBytes bytes).toNat = ofBe bytes := by
    rw [u32FromBeBytes, UInt32.toNat_ofNat']
    exact Nat.mod_eq_of_lt hfits
  show beBytes 4 (u32FromBeBytes bytes).toNat = bytes
  rw [hvalue]
  exact hround

theorem u64ToBeBytes_fromBeBytes {bytes : List UInt8} (h : bytes.length = 8) :
    (u64ToBeBytes (u64FromBeBytes bytes)).toList = bytes := by
  have hfits := ofBe_lt bytes
  have hround := beBytes_ofBe bytes
  rw [h] at hfits hround
  have hvalue : (u64FromBeBytes bytes).toNat = ofBe bytes := by
    rw [u64FromBeBytes, UInt64.toNat_ofNat']
    exact Nat.mod_eq_of_lt hfits
  show beBytes 8 (u64FromBeBytes bytes).toNat = bytes
  rw [hvalue]
  exact hround

end KavachNpu

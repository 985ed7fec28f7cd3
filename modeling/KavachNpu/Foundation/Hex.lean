/-
Module: KavachNpu.Foundation.Hex
Layer: Foundation
Purpose: Bytes in hexadecimal: two digits a byte, written in lower case and read in either case. What is
  written is read back, and whatever is read has twice as many characters as bytes.
Trusted boundary: human-reviewed spec
Main exports: Hex.encode, Hex.decode, Hex.decode_encode, Hex.length_of_decode
-/
import KavachNpu.Foundation.Utf8

namespace KavachNpu

namespace Hex

/-- The digit of a number below sixteen. -/
def digit (n : Nat) : Char :=
  Char.ofNat (if n < 10 then 48 + n else 87 + n)

/-- The value of a digit. -/
def digitValue (c : Char) : Option Nat :=
  if '0' ≤ c ∧ c ≤ '9' then some (c.toNat - 48)
  else if 'a' ≤ c ∧ c ≤ 'f' then some (c.toNat - 87)
  else if 'A' ≤ c ∧ c ≤ 'F' then some (c.toNat - 55)
  else none

/-- The digits of bytes. -/
def encode (bytes : List UInt8) : List Char :=
  bytes.flatMap fun byte => [digit (byte.toNat / 16), digit (byte.toNat % 16)]

/-- The bytes of an even number of digits. -/
def decode : List Char → Option (List UInt8)
  | [] => some []
  | [_] => none
  | high :: low :: rest => do
      let highValue ← digitValue high
      let lowValue ← digitValue low
      let bytes ← decode rest
      some (UInt8.ofNat (16 * highValue + lowValue) :: bytes)

/-- What there is to know of a digit. -/
theorem digit_spec : ∀ n < 16, digitValue (digit n) = some n ∧ (digit n).toLower = digit n ∧
    (digit n).toNat < 128 := by
  decide

/-- A digit is an ASCII character. -/
theorem digitValue_ascii {c : Char} {n : Nat} (isDigit : digitValue c = some n) : c.toNat < 128 := by
  have below : ∀ bound : Char, bound.toNat < 128 → c ≤ bound → c.toNat < 128 := by
    intro bound small le
    exact Nat.lt_of_le_of_lt (UInt32.le_iff_toNat_le.mp le) small
  unfold digitValue at isDigit
  split at isDigit
  · rename_i decimal
    exact below '9' (by decide) decimal.2
  · split at isDigit
    · rename_i lower
      exact below 'f' (by decide) lower.2
    · split at isDigit
      · rename_i upper
        exact below 'F' (by decide) upper.2
      · cases isDigit

theorem decode_cons_cons_eq_some {high low : Char} {rest : List Char} {bytes : List UInt8}
    (read : decode (high :: low :: rest) = some bytes) :
    ∃ highValue lowValue others, digitValue high = some highValue ∧ digitValue low = some lowValue ∧
      decode rest = some others ∧ bytes = UInt8.ofNat (16 * highValue + lowValue) :: others := by
  rw [decode] at read
  obtain ⟨highValue, isHigh, read⟩ := Option.bind_eq_some_iff.mp read
  obtain ⟨lowValue, isLow, read⟩ := Option.bind_eq_some_iff.mp read
  obtain ⟨others, later, same⟩ := Option.bind_eq_some_iff.mp read
  cases same
  exact ⟨highValue, lowValue, others, isHigh, isLow, later, rfl⟩

/-- What is written is read back. -/
theorem decode_encode (bytes : List UInt8) : decode (encode bytes) = some bytes := by
  induction bytes with
  | nil => rfl
  | cons byte bytes ih =>
      have small := byte.toNat_lt
      have high := (digit_spec (byte.toNat / 16) (by omega)).1
      have low := (digit_spec (byte.toNat % 16) (Nat.mod_lt _ (by decide))).1
      have joined : 16 * (byte.toNat / 16) + byte.toNat % 16 = byte.toNat := Nat.div_add_mod _ _
      change decode (digit _ :: digit _ :: encode bytes) = _
      rw [decode, high, low, ih]
      change some (UInt8.ofNat (16 * (byte.toNat / 16) + byte.toNat % 16) :: bytes) = _
      rw [joined, UInt8.ofNat_toNat]

/-- Digits are two for a byte. -/
theorem length_of_decode {chars : List Char} {bytes : List UInt8} (read : decode chars = some bytes) :
    chars.length = 2 * bytes.length := by
  induction chars using decode.induct generalizing bytes with
  | case1 =>
      cases read
      rfl
  | case2 => cases read
  | case3 high low rest ih =>
      obtain ⟨-, -, others, -, -, later, rfl⟩ := decode_cons_cons_eq_some read
      have length := ih later
      simp only [List.length_cons]
      omega

/-- Digits are ASCII characters. -/
theorem ascii_of_decode {chars : List Char} {bytes : List UInt8} (read : decode chars = some bytes) :
    ∀ c ∈ chars, c.toNat < 128 := by
  induction chars using decode.induct generalizing bytes with
  | case1 => exact fun c member => nomatch member
  | case2 => cases read
  | case3 high low rest ih =>
      obtain ⟨highValue, lowValue, others, isHigh, isLow, later, -⟩ := decode_cons_cons_eq_some read
      rw [List.forall_mem_cons, List.forall_mem_cons]
      exact ⟨digitValue_ascii isHigh, digitValue_ascii isLow, ih later⟩

/-- A text of digits has two bytes for each that it reads as. -/
theorem length_asBytes_of_decode {chars : List Char} {bytes : List UInt8}
    (read : decode chars = some bytes) : (asBytes (String.ofList chars)).length = 2 * bytes.length :=
  (length_asBytes_of_ascii (ascii_of_decode read)).trans (length_of_decode read)

/-- Written digits are in lower case. -/
theorem map_toLower_encode (bytes : List UInt8) : (encode bytes).map Char.toLower = encode bytes := by
  induction bytes with
  | nil => rfl
  | cons byte bytes ih =>
      have small := byte.toNat_lt
      have high := (digit_spec (byte.toNat / 16) (by omega)).2.1
      have low := (digit_spec (byte.toNat % 16) (Nat.mod_lt _ (by decide))).2.1
      change (digit _ :: digit _ :: encode bytes).map Char.toLower = digit _ :: digit _ :: encode bytes
      rw [List.map_cons, List.map_cons, high, low, ih]

/-- So is a text of them. -/
theorem toLower_encode (bytes : List UInt8) :
    (String.ofList (encode bytes)).toLower = String.ofList (encode bytes) := by
  apply String.toList_inj.mp
  unfold String.toLower
  rw [String.toList_map, String.toList_ofList, map_toLower_encode]

end Hex

end KavachNpu

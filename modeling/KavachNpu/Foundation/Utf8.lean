/-
Module: KavachNpu.Foundation.Utf8
Layer: Foundation
Purpose: Strings and their UTF-8 bytes. Lean's `String` is a byte array with a proof that it is valid
  UTF-8, as Rust's `str` is, so encoding and decoding are inverse by construction.
Trusted boundary: human-reviewed spec
Main exports: asBytes, fromUtf8, fromUtf8_eq_some, asBytes_injective, asBytes_append, asBytes_join,
  eqIgnoreAsciiCase
-/
import Mathlib.Data.List.Basic

namespace KavachNpu

/-- `str::as_bytes`. -/
def asBytes (text : String) : List UInt8 :=
  text.toByteArray.data.toList

/-- `std::str::from_utf8`. -/
def fromUtf8 (bytes : List UInt8) : Option String :=
  String.fromUTF8? bytes.toByteArray

/-- `u8::to_ascii_lowercase`. -/
def toAsciiLowercase (byte : UInt8) : UInt8 :=
  if 65 ≤ byte ∧ byte ≤ 90 then byte + 32 else byte

/-- `str::eq_ignore_ascii_case`. -/
def eqIgnoreAsciiCase (left right : String) : Bool :=
  (asBytes left).map toAsciiLowercase == (asBytes right).map toAsciiLowercase

/-- The byte array of a list of bytes holds that list. -/
theorem toByteArray_eq_iff {bytes : List UInt8} {array : ByteArray} :
    bytes.toByteArray = array ↔ array.data.toList = bytes := by
  constructor
  · rintro rfl
    exact List.toList_data_toByteArray
  · rintro rfl
    apply ByteArray.ext
    apply Array.ext'
    exact List.toList_data_toByteArray

/-- A byte string decodes to a text exactly when it is the text's encoding. -/
theorem fromUtf8_eq_some {bytes : List UInt8} {text : String} :
    fromUtf8 bytes = some text ↔ asBytes text = bytes := by
  rw [asBytes, ← toByteArray_eq_iff, fromUtf8, String.fromUTF8?]
  constructor
  · intro decoded
    split at decoded
    · cases decoded
      rfl
    · cases decoded
  · intro encoded
    rw [dif_pos (encoded ▸ text.isValidUTF8)]
    congr 1
    apply String.toByteArray_inj.mp
    exact encoded

/-- Different texts have different bytes. -/
theorem asBytes_injective {left right : String} (same : asBytes left = asBytes right) :
    left = right := by
  have decoded := fromUtf8_eq_some.mpr same
  rw [fromUtf8_eq_some.mpr rfl] at decoded
  exact (Option.some.inj decoded).symm

/-- The bytes of two texts written one after the other. -/
theorem asBytes_append (front back : String) : asBytes (front ++ back) = asBytes front ++ asBytes back := by
  unfold asBytes
  rw [String.toByteArray_append, ByteArray.data_append, Array.toList_append]

/-- The bytes of any number of texts written one after the other. -/
theorem asBytes_join (texts : List String) : asBytes (String.join texts) = texts.flatMap asBytes := by
  have folded : ∀ front : String,
      asBytes (texts.foldl (· ++ ·) front) = asBytes front ++ texts.flatMap asBytes := by
    induction texts with
    | nil =>
        intro front
        rw [List.foldl_nil, List.flatMap_nil, List.append_nil]
    | cons text rest ih =>
        intro front
        rw [List.foldl_cons, ih, asBytes_append, List.flatMap_cons, List.append_assoc]
  exact folded ""

/-- A text has at least as many bytes as characters. -/
theorem length_le_length_asBytes (chars : List Char) :
    chars.length ≤ (asBytes (String.ofList chars)).length := by
  unfold asBytes
  rw [String.toByteArray_ofList]
  change chars.length ≤ chars.utf8Encode.size
  induction chars with
  | nil => exact Nat.zero_le _
  | cons head tail ih =>
      have positive := head.utf8Size_pos
      rw [List.utf8Encode_cons, ByteArray.size_append, List.utf8Encode_singleton,
        List.size_toByteArray, String.length_utf8EncodeChar, List.length_cons]
      omega

/-- A text of ASCII characters has a byte for each of them. -/
theorem length_asBytes_of_ascii {chars : List Char} (ascii : ∀ c ∈ chars, c.toNat < 128) :
    (asBytes (String.ofList chars)).length = chars.length := by
  unfold asBytes
  rw [String.toByteArray_ofList]
  change chars.utf8Encode.size = chars.length
  induction chars with
  | nil => rfl
  | cons head tail ih =>
      rw [List.forall_mem_cons] at ascii
      have single : head.utf8Size = 1 := by
        rw [Char.utf8Size_eq_one_iff, UInt32.le_iff_toNat_le]
        exact Nat.lt_succ_iff.mp ascii.1
      rw [List.utf8Encode_cons, ByteArray.size_append, List.utf8Encode_singleton,
        List.size_toByteArray, String.length_utf8EncodeChar, single, ih ascii.2, List.length_cons,
        Nat.add_comm]

end KavachNpu

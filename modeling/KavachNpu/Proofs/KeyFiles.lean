/-
Module: KavachNpu.Proofs.KeyFiles
Layer: Proofs
Purpose: The key files of the packaging tool. Both loaders take exactly the files that hold a key, raw or in
  hex with white space around it, and panic on none; what the key generator writes holds the key.
Trusted boundary: none
Main exports: PackTool.LawfulHex, PackTool.HoldsKey, PackTool.keyFileBytes_eq_ok, PackTool.key_loaders_spec
-/
import KavachNpu.Foundation.Hex
import KavachNpu.Pack.Commands
import KavachNpu.Proofs.SignedBundle

namespace KavachNpu.PackTool

/-- The hex crate: lower case out, either case in. -/
structure LawfulHex {SigningKey Key Value : Type} (tools : Tools SigningKey Key Value) : Prop where
  encode : ∀ bytes, tools.manifest.hexEncode bytes = String.ofList (Hex.encode bytes)
  decode : ∀ text bytes, tools.signing.hexDecode text = .ok bytes ↔ Hex.decode text.toList = some bytes

/-- A file holds a key: raw, or in hex with white space around it. -/
def HoldsKey (data : List UInt8) (bytes : Bytes 32) : Prop :=
  data = bytes.toList ∨
    ∃ text, data = asBytes text ∧ Hex.decode (trim text.toList) = some bytes.toList

theorem length_trim_le (text : List Char) : (trim text).length ≤ text.length := by
  unfold trim List.rdropWhile
  rw [List.length_reverse]
  refine Nat.le_trans (List.length_dropWhile_le _ _) ?_
  rw [List.length_reverse]
  exact List.length_dropWhile_le _ _

/-- A file with a key in hex is not taken for a raw one. -/
theorem length_ne_of_hexKey {text : String} {bytes : Bytes 32}
    (digits : Hex.decode (trim text.toList) = some bytes.toList) : (asBytes text).length ≠ 32 := by
  have length : (trim text.toList).length = 2 * 32 := by
    rw [Hex.length_of_decode digits, bytes.length_toList]
  have trimmed := length_trim_le text.toList
  have enough := length_le_length_asBytes text.toList
  rw [String.ofList_toList] at enough
  omega

section Loading

variable {SigningKey Key Value : Type} {tools : Tools SigningKey Key Value} (hex : LawfulHex tools)
include hex

/-- A text that is no raw key is read as its digits. -/
theorem keyFileBytes_text_eq_ok {hexContext refused text : String} (long : (asBytes text).length ≠ 32)
    {bytes : Bytes 32} :
    keyFileBytes tools hexContext refused (asBytes text) = .ok bytes ↔
      Hex.decode (trim text.toList) = some bytes.toList := by
  unfold keyFileBytes
  rw [if_neg long, fromUtf8_eq_some.mpr rfl]
  simp only
  constructor
  · intro read
    split at read
    · obtain ⟨digits, isHex, copied⟩ := Outcome.bind_eq_ok.mp read
      have isDigits := (hex.decode _ _).mp (Outcome.ofExcept_eq_ok.mp isHex)
      rw [String.toList_ofList] at isDigits
      unfold copyFromSlice at copied
      split at copied
      · cases copied
        exact isDigits
      · cases copied
    · cases read
  · intro digits
    have length := Hex.length_asBytes_of_decode digits
    rw [bytes.length_toList] at length
    have isHex := (hex.decode (String.ofList (trim text.toList)) bytes.toList).mpr
      (by rw [String.toList_ofList, digits])
    rw [if_pos length, isHex]
    exact copyFromSlice_of_length bytes.length_toList

/-- A file is read as a key exactly if it holds it. -/
theorem keyFileBytes_eq_ok {hexContext refused : String} {data : List UInt8} {bytes : Bytes 32} :
    keyFileBytes tools hexContext refused data = .ok bytes ↔ HoldsKey data bytes := by
  by_cases raw : data.length = 32
  · unfold keyFileBytes
    rw [if_pos raw, copyFromSlice_of_length raw]
    constructor
    · intro read
      cases read
      exact Or.inl rfl
    · rintro (rfl | ⟨text, rfl, digits⟩)
      · rfl
      · exact absurd raw (length_ne_of_hexKey digits)
  · have notRaw : data ≠ bytes.toList := by
      rintro rfl
      exact raw bytes.length_toList
    cases decoded : fromUtf8 data with
    | none =>
        unfold keyFileBytes
        rw [if_neg raw, decoded]
        refine iff_of_false (by simp) ?_
        rintro (whole | ⟨text, rfl, digits⟩)
        · exact notRaw whole
        · rw [fromUtf8_eq_some.mpr rfl] at decoded
          cases decoded
    | some text =>
        cases fromUtf8_eq_some.mp decoded
        rw [keyFileBytes_text_eq_ok hex raw]
        constructor
        · intro digits
          exact Or.inr ⟨text, rfl, digits⟩
        · rintro (whole | ⟨text', same, digits⟩)
          · exact absurd whole notRaw
          · cases asBytes_injective same
            exact digits

/-- No file makes the loader panic: sixty-four bytes of digits are thirty-two bytes. -/
theorem keyFileBytes_returns (hexContext refused : String) (data : List UInt8) :
    (keyFileBytes tools hexContext refused data).Returns := by
  unfold keyFileBytes
  by_cases raw : data.length = 32
  · rw [if_pos raw, copyFromSlice_of_length raw]
    exact Outcome.returns_ok _
  · rw [if_neg raw]
    cases fromUtf8 data with
    | none => exact Outcome.returns_err _
    | some text =>
        simp only
        split
        · rename_i length
          cases decoded : tools.signing.hexDecode (String.ofList (trim text.toList)) with
          | error e => exact Outcome.returns_err _
          | ok digits =>
              have isDigits := (hex.decode _ _).mp decoded
              rw [String.toList_ofList] at isDigits
              have pairs := Hex.length_asBytes_of_decode isDigits
              have whole : digits.length = 32 := by omega
              change (copyFromSlice 32 digits).Returns
              rw [copyFromSlice_of_length whole]
              exact Outcome.returns_ok _
        · exact Outcome.returns_err _

omit hex in
/-- The signing key is loaded from the bytes that its file holds. -/
theorem loadSigningKey_eq (host : PackHost) (path : String) :
    loadSigningKey tools.signing host path =
      Outcome.ofExcept (fun e => "failed to read key file " ++ path ++ ": " ++ e) (host.fs.read path) >>=
        fun data =>
          keyFileBytes tools "hex decode key: "
              ("key file " ++ path ++ " must be 32 raw bytes or 64 hex characters (found " ++
                toString data.length ++ " bytes)") data >>=
            fun bytes => .ok (tools.signing.fromBytes bytes) := by
  unfold loadSigningKey
  congr 1
  funext data
  unfold keyFileBytes
  by_cases raw : data.length = 32
  · rw [if_pos raw, if_pos raw]
  · rw [if_neg raw, if_neg raw]
    cases fromUtf8 data with
    | none => rfl
    | some text =>
        simp only
        split
        · cases tools.signing.hexDecode (String.ofList (trim text.toList)) with
          | ok bytes => rfl
          | error e => rfl
        · rfl

end Loading

/-! ### Written keys -/

theorem trim_eq_self {text : List Char} (plain : ∀ c ∈ text, isUnicodeWhitespace c = false) :
    trim text = text := by
  have front : text.dropWhile isUnicodeWhitespace = text := by
    cases text with
    | nil => rfl
    | cons head tail =>
        rw [List.forall_mem_cons] at plain
        rw [List.dropWhile_cons_of_neg (by rw [plain.1]; decide)]
  have back : text.reverse.dropWhile isUnicodeWhitespace = text.reverse := by
    rw [List.dropWhile_eq_self_iff]
    intro nonempty
    have last := plain _ (List.mem_reverse.mp (List.getElem_mem nonempty))
    rw [last]
    decide
  rw [trim, front, List.rdropWhile, back, List.reverse_reverse]

theorem digit_plain : ∀ n < 16, isUnicodeWhitespace (Hex.digit n) = false := by
  decide

theorem trim_hex (bytes : List UInt8) : trim (Hex.encode bytes) = Hex.encode bytes := by
  apply trim_eq_self
  intro c member
  obtain ⟨byte, -, isDigit⟩ := List.mem_flatMap.mp member
  have small := byte.toNat_lt
  rcases List.mem_pair.mp isDigit with rfl | rfl
  · exact digit_plain _ (by omega)
  · exact digit_plain _ (Nat.mod_lt _ (by decide))

section Written

variable {SigningKey Key Value : Type} {tools : Tools SigningKey Key Value} (hex : LawfulHex tools)
include hex

/-- A key that is written raw or in hex is held by its file. -/
theorem holdsKey_of_written (bytes : Bytes 32) :
    HoldsKey bytes.toList bytes ∧ HoldsKey (asBytes (tools.manifest.hexEncode bytes.toList)) bytes := by
  refine ⟨Or.inl rfl, Or.inr ⟨_, rfl, ?_⟩⟩
  rw [hex.encode, String.toList_ofList, trim_hex, Hex.decode_encode]

theorem loadSigningKey_eq_ok {host : PackHost} {path : String} {key : SigningKey} :
    loadSigningKey tools.signing host path = .ok key ↔
      ∃ data seed, host.fs.read path = .ok data ∧ HoldsKey data seed ∧
        key = tools.signing.fromBytes seed := by
  simp only [loadSigningKey_eq, Outcome.bind_eq_ok, Outcome.ofExcept_eq_ok, keyFileBytes_eq_ok hex,
    Outcome.ok.injEq]
  constructor
  · rintro ⟨data, read, seed, holds, rfl⟩
    exact ⟨data, seed, read, holds, rfl⟩
  · rintro ⟨data, seed, read, holds, rfl⟩
    exact ⟨data, read, seed, holds, rfl⟩

theorem loadVerifyingKey_eq_ok {read : String → Except String (List UInt8)} {path : String} {key : Key} :
    loadVerifyingKey tools read (some path) = .ok key ↔
      ∃ data bytes, read path = .ok data ∧ HoldsKey data bytes ∧
        tools.manifest.verifyingKeyFromBytes bytes = .ok key := by
  simp only [loadVerifyingKey, Outcome.bind_eq_ok, Outcome.ofExcept_eq_ok, keyFileBytes_eq_ok hex]
  constructor
  · rintro ⟨data, readable, bytes, holds, decoded⟩
    exact ⟨data, bytes, readable, holds, decoded⟩
  · rintro ⟨data, bytes, readable, holds, decoded⟩
    exact ⟨data, readable, bytes, holds, decoded⟩

/-- The loaders of the tool. No file makes one panic; each returns a key exactly if the file can be read and
    holds the key's bytes, raw or in hex of either case with white space around it; and both forms in which
    the key generator writes a key are read back. -/
theorem key_loaders_spec :
    (∀ (host : PackHost) path,
      (loadSigningKey tools.signing host path).Returns ∧
        ∀ key, loadSigningKey tools.signing host path = .ok key ↔
          ∃ data seed, host.fs.read path = .ok data ∧ HoldsKey data seed ∧
            key = tools.signing.fromBytes seed) ∧
      (∀ (read : String → Except String (List UInt8)) path,
        (loadVerifyingKey tools read (some path)).Returns ∧
          ∀ key, loadVerifyingKey tools read (some path) = .ok key ↔
            ∃ data bytes, read path = .ok data ∧ HoldsKey data bytes ∧
              tools.manifest.verifyingKeyFromBytes bytes = .ok key) ∧
      ∀ bytes : Bytes 32, HoldsKey bytes.toList bytes ∧
        HoldsKey (asBytes (tools.manifest.hexEncode bytes.toList)) bytes := by
  refine ⟨?_, ?_, holdsKey_of_written hex⟩
  · intro host path
    refine ⟨?_, fun key => loadSigningKey_eq_ok hex⟩
    rw [loadSigningKey_eq]
    apply Outcome.Returns.bind (Outcome.returns_ofExcept _ _)
    intro data
    apply Outcome.Returns.bind (keyFileBytes_returns hex _ _ _)
    intro bytes
    exact Outcome.returns_ok _
  · intro read path
    refine ⟨?_, fun key => loadVerifyingKey_eq_ok hex⟩
    apply Outcome.Returns.bind (Outcome.returns_ofExcept _ _)
    intro data
    apply Outcome.Returns.bind (keyFileBytes_returns hex _ _ _)
    intro bytes
    exact Outcome.returns_ofExcept _ _

end Written

/-! ### A key pair -/

open SignedBundle

/-- The third-party functions on the key pair of the test. -/
def sampleTools : Tools (Bytes 32) (Bytes 32) String where
  manifest :=
    { sampleExternals with
      verifyingKeyFromBytes := fun bytes =>
        if bytes = samplePublic then .ok bytes else .error "Cannot decompress Edwards point"
      verifyStrict := fun key digest signature =>
        if key = samplePublic ∧ signature = sampleSigning.sign sampleSecret digest then .ok ()
        else .error "signature error" }
  signing :=
    { sampleSigning with
      hexDecode := fun text => (Hex.decode text.toList).elim (.error "Invalid string length") .ok }
  toBytes := fun key => key

theorem sampleTools_hex : LawfulHex sampleTools where
  encode := fun _ => rfl
  decode := by
    intro text bytes
    change (Hex.decode text.toList).elim (Except.error "Invalid string length") Except.ok =
      Except.ok bytes ↔ _
    cases Hex.decode text.toList <;> simp

/-- The public key is loaded from its hex file. -/
theorem samplePublic_loads :
    loadVerifyingKey sampleTools
        (fun _ => .ok (asBytes (sampleTools.manifest.hexEncode samplePublic.toList)))
        (some "keys/pub.key.hex") = .ok samplePublic := by
  obtain ⟨-, verifying, written⟩ := key_loaders_spec sampleTools_hex
  refine ((verifying _ "keys/pub.key.hex").2 samplePublic).mpr ⟨_, samplePublic, rfl, (written _).2, ?_⟩
  simp only [sampleTools, if_true]

end KavachNpu.PackTool

/-
Module: KavachNpu.Proofs.VerdictCodec
Layer: Proofs
Purpose: The verdict codec is an exact bijection between the valid verdicts and the accepted frames.
  The encoder's ranges fill the buffer from left to right without a gap (`toWire_toList`), and the
  decoder's index lists read the same layout (`fromWire_eq_checks`). Reading after writing and writing
  after reading are then two facts about one layout, and acceptance reduces to the validity of the
  record that was read.
Trusted boundary: none
Main exports: Verdict.Valid, Verdict.fromSlice_eq_ok, Verdict.fromSlice_returns,
  Verdict.fromSlice_toWire_bijection
-/
import KavachNpu.Core.Wire

namespace KavachNpu

namespace Verdict

/-- The encoder's ranges, in order and without a gap. -/
theorem toWire_toList (v : Verdict) :
    v.toWire.toList =
      (u16ToBeBytes v.protocolVersion.major).toList ++ ((u16ToBeBytes v.protocolVersion.minor).toList ++
      (v.requestId.toList ++ ((u64ToBeBytes v.issuedAtUnixMs).toList ++
      ((u64ToBeBytes v.expiresAtUnixMs).toList ++ (v.detectorInstanceId.toList ++
      ([v.requestedAction.toByte] ++ (v.evidenceDigest.toList ++ (v.modelBundleSha256.toList ++
      ((u64ToBeBytes v.policyGeneration).toList ++ ((u32ToBeBytes v.targetProcessId).toList ++
      ((u64ToBeBytes v.targetProcessStartFiletime).toList ++
      ([v.corroboratingEvidenceCount] ++ [v.flags])))))))))))) := by
  have f0 := Filled.zeroed 139
  have f1 := f0.write 0 2 (u16ToBeBytes v.protocolVersion.major) (by decide) (by simp)
  have f2 := f1.write 2 4 (u16ToBeBytes v.protocolVersion.minor) (by decide) (by simp)
  have f3 := f2.write 4 20 v.requestId (by decide) (by simp)
  have f4 := f3.write 20 28 (u64ToBeBytes v.issuedAtUnixMs) (by decide) (by simp)
  have f5 := f4.write 28 36 (u64ToBeBytes v.expiresAtUnixMs) (by decide) (by simp)
  have f6 := f5.write 36 52 v.detectorInstanceId (by decide) (by simp)
  have f7 := f6.write 52 53 ⟨[v.requestedAction.toByte], rfl⟩ (by decide) (by simp)
  have f8 := f7.write 53 85 v.evidenceDigest (by decide) (by simp)
  have f9 := f8.write 85 117 v.modelBundleSha256 (by decide) (by simp)
  have f10 := f9.write 117 125 (u64ToBeBytes v.policyGeneration) (by decide) (by simp)
  have f11 := f10.write 125 129 (u32ToBeBytes v.targetProcessId) (by decide) (by simp)
  have f12 := f11.write 129 137 (u64ToBeBytes v.targetProcessStartFiletime) (by decide) (by simp)
  have f13 := f12.write 137 138 ⟨[v.corroboratingEvidenceCount], rfl⟩ (by decide) (by simp)
  have f14 := f13.write 138 139 ⟨[v.flags], rfl⟩ (by decide) (by simp)
  simpa [Filled, toWire] using f14

/-- A verdict the wire protocol admits. The window is measured over the integers. -/
structure Valid (v : Verdict) : Prop where
  major : v.protocolVersion.major = 1
  ordered : v.issuedAtUnixMs.toNat ≤ v.expiresAtUnixMs.toNat
  bounded : v.expiresAtUnixMs.toNat ≤ v.issuedAtUnixMs.toNat + 30000
  flags : v.flags = 0
  target : v.requestedAction ≠ .alert → v.targetProcessId ≠ 0

/-- The record found at the decoder's offsets, before any check; the action is decoded separately. -/
def fieldsAt (wire : Bytes 139) (action : EnforcementAction) : Verdict :=
  { protocolVersion :=
      { major := u16FromBeBytes (slice wire.toList 0 2)
        minor := u16FromBeBytes (slice wire.toList 2 2) }
    requestId := ⟨slice wire.toList 4 16, length_slice (by simp)⟩
    issuedAtUnixMs := u64FromBeBytes (slice wire.toList 20 8)
    expiresAtUnixMs := u64FromBeBytes (slice wire.toList 28 8)
    detectorInstanceId := ⟨slice wire.toList 36 16, length_slice (by simp)⟩
    requestedAction := action
    evidenceDigest := ⟨slice wire.toList 53 32, length_slice (by simp)⟩
    modelBundleSha256 := ⟨slice wire.toList 85 32, length_slice (by simp)⟩
    policyGeneration := u64FromBeBytes (slice wire.toList 117 8)
    targetProcessId := u32FromBeBytes (slice wire.toList 125 4)
    targetProcessStartFiletime := u64FromBeBytes (slice wire.toList 129 8)
    corroboratingEvidenceCount := wire[137]
    flags := wire[138] }

/-- The checks `fromWire` makes, on the record at its offsets. No read of a 139-byte buffer leaves the
    buffer, and the subtraction is made only after the order check, so no branch panics. -/
theorem fromWire_eq_checks (wire : Bytes 139) :
    fromWire wire =
      (let major := u16FromBeBytes (slice wire.toList 0 2)
      let issuedAt := u64FromBeBytes (slice wire.toList 20 8)
      let expiresAt := u64FromBeBytes (slice wire.toList 28 8)
      if major ≠ supportedProtocolMajor then
        .err (.unsupportedMajorVersion major)
      else if issuedAt > expiresAt then
        .err (.timestampOrderViolation issuedAt expiresAt)
      else if expiresAt - issuedAt > maxExpiryWindowMs then
        .err (.excessiveExpiryWindow (expiresAt - issuedAt))
      else do
        let action ← EnforcementAction.fromByte wire[52]
        if u32FromBeBytes (slice wire.toList 125 4) = 0 ∧ action ≠ .alert then
          .err (.zeroTargetProcessId action)
        else if wire[138] ≠ 0 then
          .err (.nonzeroFlags wire[138])
        else
          .ok (fieldsAt wire action)) := by
  have hlen : wire.toList.length = 139 := wire.length_toList
  have read (offset len : Nat) (h : offset + len ≤ 139) :
      (indices wire.toList (List.range' offset len) : Outcome WireError (List UInt8)) =
        .ok (slice wire.toList offset len) := by
    apply indices_range'
    omega
  have range (low high : Nat) (h : low ≤ high ∧ high ≤ 139) :
      (sliceRange wire.toList low high : Outcome WireError (List UInt8)) =
        .ok (slice wire.toList low (high - low)) := by
    apply sliceRange_of_le
    omega
  have copy (low len : Nat) (h : low + len ≤ 139) :
      (copyFromSlice len (slice wire.toList low len) : Outcome WireError (Bytes len)) =
        .ok ⟨slice wire.toList low len, length_slice (by omega)⟩ := by
    exact copyFromSlice_of_length (length_slice (by omega))
  have byte (i : Nat) (h : i < 139) :
      (index wire.toList i : Outcome WireError UInt8) = .ok (wire[i]) := by
    exact index_of_lt (by omega)
  have r0 := read 0 2 (by decide)
  have r2 := read 2 2 (by decide)
  have r20 := read 20 8 (by decide)
  have r28 := read 28 8 (by decide)
  have r117 := read 117 8 (by decide)
  have r125 := read 125 4 (by decide)
  have r129 := read 129 8 (by decide)
  simp only [List.range', Nat.reduceAdd] at r0 r2 r20 r28 r117 r125 r129
  unfold fromWire
  simp only [r0, r2, r20, r28, r117, r125, r129, range 4 20 (by decide), range 36 52 (by decide),
    range 53 85 (by decide), range 85 117 (by decide), Nat.reduceSub, copy 4 16 (by decide),
    copy 36 16 (by decide), copy 53 32 (by decide), copy 85 32 (by decide), byte 52 (by decide),
    byte 137 (by decide), byte 138 (by decide), Outcome.ok_bind, Outcome.err_bind]
  by_cases order : u64FromBeBytes (slice wire.toList 20 8) > u64FromBeBytes (slice wire.toList 28 8)
  · rw [if_pos order, if_pos order]
  · have hsub : u64FromBeBytes (slice wire.toList 20 8) ≤ u64FromBeBytes (slice wire.toList 28 8) :=
      UInt64.not_lt.mp order
    rw [if_neg order, if_neg order, checkedSub_of_le hsub, Outcome.ok_bind]
    rfl

theorem fromByte_eq_ok {byte : UInt8} {action : EnforcementAction} :
    EnforcementAction.fromByte byte = .ok action ↔ action.toByte = byte := by
  unfold EnforcementAction.fromByte
  constructor
  · intro accepted
    split at accepted
    · cases accepted
      exact (‹byte = 0›).symm
    · split at accepted
      · cases accepted
        exact (‹byte = 1›).symm
      · split at accepted
        · cases accepted
          exact (‹byte = 2›).symm
        · cases accepted
  · rintro rfl
    cases action <;> rfl

/-- The decoder's machine subtraction measures the window over the integers. -/
theorem window_le_iff {issuedAt expiresAt : UInt64} (ordered : issuedAt ≤ expiresAt) :
    ¬ expiresAt - issuedAt > maxExpiryWindowMs ↔ expiresAt.toNat ≤ issuedAt.toNat + 30000 := by
  have hwindow : maxExpiryWindowMs.toNat = 30000 := rfl
  rw [gt_iff_lt, UInt64.not_lt, UInt64.le_iff_toNat_le, UInt64.toNat_sub_of_le _ _ ordered, hwindow]
  omega

/-- Acceptance: the action byte is known and the record at the offsets is valid. -/
theorem fromWire_eq_ok {wire : Bytes 139} {v : Verdict} :
    fromWire wire = .ok v ↔ v = fieldsAt wire v.requestedAction ∧
      v.requestedAction.toByte = wire[52] ∧ v.Valid := by
  rw [fromWire_eq_checks]
  simp only [Outcome.guard_eq_ok, Outcome.bind_eq_ok, fromByte_eq_ok, Outcome.ok.injEq]
  constructor
  · rintro ⟨major, order, window, action, byte, target, flags, rfl⟩
    have ordered := UInt64.not_lt.mp order
    refine ⟨rfl, byte, ?_⟩
    exact
      { major := not_not.mp major
        ordered := UInt64.le_iff_toNat_le.mp ordered
        bounded := (window_le_iff ordered).mp window
        flags := not_not.mp flags
        target := fun process zero => target ⟨zero, process⟩ }
  · rintro ⟨fields, byte, valid⟩
    rw [fields] at valid
    have ordered := UInt64.le_iff_toNat_le.mpr valid.ordered
    refine ⟨not_not.mpr valid.major, UInt64.not_lt.mpr ordered, ?_, v.requestedAction, byte, ?_, ?_,
      fields.symm⟩
    · exact (window_le_iff ordered).mpr valid.bounded
    · rintro ⟨zero, process⟩
      exact valid.target process zero
    · exact not_not.mpr valid.flags

theorem toWire_getElem_action (v : Verdict) : v.toWire[52] = v.requestedAction.toByte := by
  apply getElem_of_slice
  rw [toWire_toList]
  simp (disch := simp) only [slice_append_right, slice_append_left, Bytes.length_toList, Nat.reduceSub]

theorem toWire_getElem_count (v : Verdict) : v.toWire[137] = v.corroboratingEvidenceCount := by
  apply getElem_of_slice
  rw [toWire_toList]
  simp (disch := simp) only [slice_append_right, slice_append_left, Bytes.length_toList,
    List.length_singleton, Nat.reduceSub]

theorem toWire_getElem_flags (v : Verdict) : v.toWire[138] = v.flags := by
  apply getElem_of_slice
  rw [toWire_toList]
  simp (disch := simp) only [slice_append_right, Bytes.length_toList, List.length_singleton,
    Nat.reduceSub]
  rfl

/-- Reading the encoder's buffer at the decoder's offsets finds every field. -/
theorem fieldsAt_toWire (v : Verdict) : fieldsAt v.toWire v.requestedAction = v := by
  simp only [fieldsAt, toWire_getElem_count, toWire_getElem_flags]
  simp (disch := simp) only [toWire_toList, slice_append_right, slice_append_left,
    Bytes.length_toList, List.length_singleton, Nat.reduceSub, u16FromBeBytes_toBeBytes,
    u32FromBeBytes_toBeBytes, u64FromBeBytes_toBeBytes]

/-- Distinct verdicts have distinct frames, valid or not. -/
theorem toWire_injective {v w : Verdict} (same : v.toWire.toList = w.toWire.toList) : v = w := by
  have buffer : v.toWire = w.toWire := Bytes.ext same
  have byte : v.requestedAction.toByte = w.requestedAction.toByte := by
    rw [← toWire_getElem_action v, ← toWire_getElem_action w, buffer]
  have action : v.requestedAction = w.requestedAction := by
    revert byte
    cases v.requestedAction <;> cases w.requestedAction <;> decide
  rw [← fieldsAt_toWire v, ← fieldsAt_toWire w, buffer, action]

/-- Writing back the record read at the decoder's offsets restores the buffer. -/
theorem toWire_fieldsAt {wire : Bytes 139} {action : EnforcementAction}
    (byte : action.toByte = wire[52]) : (fieldsAt wire action).toWire = wire := by
  apply Bytes.ext
  rw [toWire_toList]
  simp only [fieldsAt, byte, singleton_getElem]
  simp (disch := simp [length_slice]) only [u16ToBeBytes_fromBeBytes, u32ToBeBytes_fromBeBytes,
    u64ToBeBytes_fromBeBytes]
  simp (disch := rfl) only [slice_append_slice, Nat.reduceAdd]
  simpa using slice_zero_length wire.toList

/-- On a buffer of the wire size `fromSlice` is `fromWire`; any other length is reported. -/
theorem fromSlice_of_length {bytes : List UInt8} (length : bytes.length = 139) :
    fromSlice bytes = fromWire ⟨bytes, length⟩ := by
  simp [fromSlice, verdictWireSize, length, copyFromSlice_of_length length]

theorem fromSlice_of_length_ne {bytes : List UInt8} (length : bytes.length ≠ 139) :
    fromSlice bytes = .err (.invalidLength 139 bytes.length) := by
  simp [fromSlice, verdictWireSize, length]

/-- `from_slice` accepts exactly the encodings of valid verdicts. -/
theorem fromSlice_eq_ok {bytes : List UInt8} {v : Verdict} :
    fromSlice bytes = .ok v ↔ v.Valid ∧ v.toWire.toList = bytes := by
  constructor
  · intro accepted
    by_cases length : bytes.length = 139
    · rw [fromSlice_of_length length, fromWire_eq_ok] at accepted
      obtain ⟨fields, byte, valid⟩ := accepted
      refine ⟨valid, ?_⟩
      rw [fields, toWire_fieldsAt byte]
    · rw [fromSlice_of_length_ne length] at accepted
      cases accepted
  · rintro ⟨valid, rfl⟩
    rw [fromSlice_of_length v.toWire.length_toList, fromWire_eq_ok]
    exact ⟨v.fieldsAt_toWire.symm, v.toWire_getElem_action.symm, valid⟩

/-- The action byte is read or refused. -/
theorem fromByte_returns (byte : UInt8) : (EnforcementAction.fromByte byte).Returns := by
  unfold EnforcementAction.fromByte
  apply Outcome.Returns.ite (Outcome.returns_ok _)
  apply Outcome.Returns.ite (Outcome.returns_ok _)
  apply Outcome.Returns.ite (Outcome.returns_ok _)
  exact Outcome.returns_err _

/-- No input of any length makes the decoder panic. -/
theorem fromSlice_returns (bytes : List UInt8) : (fromSlice bytes).Returns := by
  by_cases length : bytes.length = 139
  · rw [fromSlice_of_length length, fromWire_eq_checks]
    refine .guard fun _ => .guard fun _ => .guard fun _ => ?_
    refine .bind (fromByte_returns _) fun action => ?_
    exact .guard fun _ => .guard fun _ => Outcome.returns_ok _
  · rw [fromSlice_of_length_ne length]
    exact Outcome.returns_err _

/-- Decoding inverts encoding exactly on the valid verdicts, every accepted byte string is the encoding
    of the valid verdict it decodes to, and no byte string makes the decoder panic. -/
theorem fromSlice_toWire_bijection :
    (∀ v : Verdict, fromSlice v.toWire.toList = .ok v ↔ v.Valid) ∧
    (∀ (bytes : List UInt8) (v : Verdict),
      fromSlice bytes = .ok v ↔ v.Valid ∧ v.toWire.toList = bytes) ∧
    (∀ bytes : List UInt8, (fromSlice bytes).Returns) := by
  refine ⟨?_, ?_, fromSlice_returns⟩
  · intro v
    rw [fromSlice_eq_ok]
    exact and_iff_left rfl
  · intro bytes v
    exact fromSlice_eq_ok

end Verdict

end KavachNpu

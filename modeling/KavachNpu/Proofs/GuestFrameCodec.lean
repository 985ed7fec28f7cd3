/-
Module: KavachNpu.Proofs.GuestFrameCodec
Layer: Proofs
Purpose: The guest-record framing is an exact bijection between the valid records and the accepted
  frames. The three redundant lengths (the frame's own, the `u32` prefix and the `u16` path length) are
  tied together by the decoder's checks, so that accepted bytes are exactly what the encoder writes for
  the record they decode to.
Trusted boundary: none
Main exports: GuestWriteRecord.Valid, GuestWriteRecord.fromPayload_eq_ok,
  GuestWriteRecord.toFrame_of_fromFrame, GuestWriteRecord.fromFrame_toFrame_bijection
-/
import KavachNpu.Wsl.Wire

namespace KavachNpu

namespace GuestWriteRecord

/-- A record the v1 framing admits. -/
structure Valid (r : GuestWriteRecord) : Prop where
  major : r.version.major = 1
  sequence : 0 < r.sequenceNumber
  flags : r.flags = 0
  normalized : isNormalizedMntPath r.normalizedPath = true
  short : (asBytes r.normalizedPath).length ≤ 4096

/-! ### The encoder's layout -/

/-- The encoder's fields after the length prefix, in order. -/
def payloadBytes (r : GuestWriteRecord) : List UInt8 :=
  (u16ToBeBytes r.version.major).toList ++ ((u16ToBeBytes r.version.minor).toList ++
  ((u64ToBeBytes r.sequenceNumber).toList ++ ((u64ToBeBytes r.guestMonotonicNs).toList ++
  ((u64ToBeBytes r.guestRealtimeNs).toList ++ ((u32ToBeBytes r.guestProcessId).toList ++
  ((u64ToBeBytes r.guestProcessStartTicks).toList ++ (r.distributionId.toList ++
  ((u64ToBeBytes r.mountNamespaceId).toList ++ (r.executableSha256.toList ++
  (r.cgroupSha256.toList ++ ([r.operation.toByte] ++ ((u64ToBeBytes r.byteRangeStart).toList ++
  ((u64ToBeBytes r.byteRangeLength).toList ++ ((u16ToBeBytes r.flags).toList ++
  ((u16ToBeBytes (UInt16.ofNat (asBytes r.normalizedPath).length)).toList ++
  asBytes r.normalizedPath)))))))))))))))

theorem length_payloadBytes (r : GuestWriteRecord) :
    r.payloadBytes.length = 149 + (asBytes r.normalizedPath).length := by
  simp only [payloadBytes, List.length_append, Bytes.length_toList, List.length_singleton]
  omega

/-- A normalized path has at least one byte. -/
theorem length_pos_of_normalized {path : String} (normalized : isNormalizedMntPath path = true) :
    1 ≤ (asBytes path).length := by
  rcases Nat.eq_zero_or_pos (asBytes path).length with zero | positive
  · have none := List.length_eq_zero_iff.mp zero
    have empty : path = "" := by
      have decoded := fromUtf8_eq_some.mpr none
      have decodedEmpty : fromUtf8 [] = some "" := fromUtf8_eq_some.mpr rfl
      exact Option.some.inj (decoded.symm.trans decodedEmpty)
    rw [empty] at normalized
    exact absurd normalized (by decide)
  · exact positive

/-- The encoder refuses what is not normalized or too long, and writes every other record. -/
theorem toFrame_eq_ok {r : GuestWriteRecord} {frame : List UInt8} :
    toFrame r = .ok frame ↔ isNormalizedMntPath r.normalizedPath = true ∧
      (asBytes r.normalizedPath).length ≤ 4096 ∧
      (u32ToBeBytes (UInt32.ofNat r.payloadBytes.length)).toList ++ r.payloadBytes = frame := by
  rw [length_payloadBytes]
  by_cases normalized : isNormalizedMntPath r.normalizedPath = true
  · have positive := length_pos_of_normalized normalized
    by_cases short : (asBytes r.normalizedPath).length ≤ 4096
    · have bounds : 1 ≤ (asBytes r.normalizedPath).length ∧
          (asBytes r.normalizedPath).length ≤ 4096 := ⟨positive, short⟩
      have payload : minPayloadSize ≤ fixedHeaderSize + (asBytes r.normalizedPath).length ∧
          fixedHeaderSize + (asBytes r.normalizedPath).length ≤ maxPayloadSize := by
        simp only [minPayloadSize, fixedHeaderSize, maxPayloadSize]
        omega
      simp only [toFrame, normalized, bounds, payload]
      simp [payloadBytes, fixedHeaderSize]
    · simp [toFrame, normalized, short]
  · simp [toFrame, normalized]

/-! ### The decoder's layout -/

/-- The record found at the decoder's offsets, before any check; the operation and the path are decoded
    separately. -/
def fieldsAt (payload : List UInt8) (long : 149 ≤ payload.length) (operation : GuestFileOperation)
    (path : String) : GuestWriteRecord :=
  { version :=
      { major := u16FromBeBytes (slice payload 0 2)
        minor := u16FromBeBytes (slice payload 2 2) }
    sequenceNumber := u64FromBeBytes (slice payload 4 8)
    guestMonotonicNs := u64FromBeBytes (slice payload 12 8)
    guestRealtimeNs := u64FromBeBytes (slice payload 20 8)
    guestProcessId := u32FromBeBytes (slice payload 28 4)
    guestProcessStartTicks := u64FromBeBytes (slice payload 32 8)
    distributionId := ⟨slice payload 40 16, length_slice (by omega)⟩
    mountNamespaceId := u64FromBeBytes (slice payload 56 8)
    executableSha256 := ⟨slice payload 64 32, length_slice (by omega)⟩
    cgroupSha256 := ⟨slice payload 96 32, length_slice (by omega)⟩
    operation := operation
    normalizedPath := path
    byteRangeStart := u64FromBeBytes (slice payload 129 8)
    byteRangeLength := u64FromBeBytes (slice payload 137 8)
    flags := u16FromBeBytes (slice payload 145 2) }

/-- The checks `fromPayload` makes on a payload of admissible length, on the record at its offsets. No
    read leaves the payload. -/
theorem fromPayload_eq_checks {payload : List UInt8} (long : 150 ≤ payload.length)
    (short : payload.length ≤ 4245) :
    fromPayload payload =
      (let major := u16FromBeBytes (slice payload 0 2)
      let flags := u16FromBeBytes (slice payload 145 2)
      let declared := (u16FromBeBytes (slice payload 147 2)).toNat
      if major ≠ supportedVsockMajor then
        .err (.unsupportedMajorVersion major)
      else if u64FromBeBytes (slice payload 4 8) = 0 then
        .err .zeroSequenceNumber
      else do
        let operation ← GuestFileOperation.fromByte payload[128]
        if flags ≠ 0 then
          .err (.nonzeroFlags flags)
        else if declared ≠ payload.length - 149 then
          .err (.pathLengthMismatch declared (payload.length - 149))
        else do
          let path ← Outcome.okOr .invalidUtf8Path
            (fromUtf8 (slice payload 149 (payload.length - 149)))
          if ! isNormalizedMntPath path then
            .err (.nonNormalizedPath path)
          else
            .ok (fieldsAt payload (Nat.le_of_succ_le long) operation path)) := by
  have read (offset len : Nat) (h : offset + len ≤ 149) :
      (indices payload (List.range' offset len) : Outcome VsockWireError (List UInt8)) =
        .ok (slice payload offset len) := by
    apply indices_range'
    omega
  have range (low high : Nat) (h : low ≤ high ∧ high ≤ 149) :
      (sliceRange payload low high : Outcome VsockWireError (List UInt8)) =
        .ok (slice payload low (high - low)) := by
    apply sliceRange_of_le
    omega
  have copy (low len : Nat) (h : low + len ≤ 149) :
      (copyFromSlice len (slice payload low len) : Outcome VsockWireError (Bytes len)) =
        .ok ⟨slice payload low len, length_slice (by omega)⟩ := by
    exact copyFromSlice_of_length (length_slice (by omega))
  have byte : (index payload 128 : Outcome VsockWireError UInt8) = .ok (payload[128]) :=
    index_of_lt (by omega)
  have rest : (sliceRange payload 149 payload.length : Outcome VsockWireError (List UInt8)) =
      .ok (slice payload 149 (payload.length - 149)) := by
    apply sliceRange_of_le
    omega
  have available : (usizeSub payload.length 149 : Outcome VsockWireError Nat) =
      .ok (payload.length - 149) := usizeSub_of_le (by omega)
  have bounds : minPayloadSize ≤ payload.length ∧ payload.length ≤ maxPayloadSize := ⟨long, short⟩
  have r0 := read 0 2 (by decide)
  have r2 := read 2 2 (by decide)
  have r4 := read 4 8 (by decide)
  have r12 := read 12 8 (by decide)
  have r20 := read 20 8 (by decide)
  have r28 := read 28 4 (by decide)
  have r32 := read 32 8 (by decide)
  have r56 := read 56 8 (by decide)
  have r129 := read 129 8 (by decide)
  have r137 := read 137 8 (by decide)
  have r145 := read 145 2 (by decide)
  have r147 := read 147 2 (by decide)
  simp only [List.range', Nat.reduceAdd] at r0 r2 r4 r12 r20 r28 r32 r56 r129 r137 r145 r147
  unfold fromPayload
  simp only [bounds, r0, r2, r4, r12, r20, r28, r32, r56, r129, r137, r145, r147,
    range 40 56 (by decide), range 64 96 (by decide), range 96 128 (by decide), Nat.reduceSub,
    copy 40 16 (by decide), copy 64 32 (by decide), copy 96 32 (by decide), byte, fixedHeaderSize, rest,
    available, Outcome.ok_bind, Outcome.err_bind]
  rw [if_neg (not_not.mpr ⟨trivial, trivial⟩)]
  rfl

theorem operation_fromByte_eq_ok {byte : UInt8} {operation : GuestFileOperation} :
    GuestFileOperation.fromByte byte = .ok operation ↔ operation.toByte = byte := by
  unfold GuestFileOperation.fromByte
  constructor
  · intro accepted
    split at accepted
    · cases accepted
      exact (‹byte = 1›).symm
    · split at accepted
      · cases accepted
        exact (‹byte = 2›).symm
      · split at accepted
        · cases accepted
          exact (‹byte = 3›).symm
        · cases accepted
  · intro same
    subst same
    cases operation <;> rfl

/-! ### Reading after writing -/

/-- Reading the encoder's payload at the decoder's offsets finds every field. -/
theorem fieldsAt_payloadBytes (r : GuestWriteRecord) (long : 149 ≤ r.payloadBytes.length) :
    fieldsAt r.payloadBytes long r.operation r.normalizedPath = r := by
  unfold fieldsAt
  simp (disch := simp) only [payloadBytes, slice_append_right, slice_append_left,
    Bytes.length_toList, List.length_singleton, Nat.reduceSub, u16FromBeBytes_toBeBytes,
    u32FromBeBytes_toBeBytes, u64FromBeBytes_toBeBytes]

/-- The payload's own length field is where the decoder looks for it. -/
theorem slice_payloadBytes_pathLen (r : GuestWriteRecord) :
    slice r.payloadBytes 147 2 =
      (u16ToBeBytes (UInt16.ofNat (asBytes r.normalizedPath).length)).toList := by
  simp (disch := simp) only [payloadBytes, slice_append_right, slice_append_left,
    Bytes.length_toList, List.length_singleton, Nat.reduceSub]

theorem slice_payloadBytes_operation (r : GuestWriteRecord) :
    slice r.payloadBytes 128 1 = [r.operation.toByte] := by
  simp (disch := simp) only [payloadBytes, slice_append_right, slice_append_left,
    Bytes.length_toList, Nat.reduceSub]

theorem slice_payloadBytes_path (r : GuestWriteRecord) :
    slice r.payloadBytes 149 (asBytes r.normalizedPath).length = asBytes r.normalizedPath := by
  simp (disch := simp) only [payloadBytes, slice_append_right,
    Bytes.length_toList, List.length_singleton, Nat.reduceSub]
  exact slice_zero_length _

/-! ### Writing after reading -/

/-- Writing back the record read at the decoder's offsets restores the payload. -/
theorem payloadBytes_fieldsAt {payload : List UInt8} (long : 149 ≤ payload.length)
    {operation : GuestFileOperation} {path : String}
    (byte : [operation.toByte] = slice payload 128 1)
    (pathLen : (u16FromBeBytes (slice payload 147 2)).toNat = payload.length - 149)
    (pathBytes : asBytes path = slice payload 149 (payload.length - 149)) :
    (fieldsAt payload long operation path).payloadBytes = payload := by
  have length : (asBytes path).length = payload.length - 149 := by
    rw [pathBytes]
    exact length_slice (by omega)
  have declared : UInt16.ofNat (asBytes path).length = u16FromBeBytes (slice payload 147 2) := by
    rw [length, ← pathLen, UInt16.ofNat_toNat]
  simp only [payloadBytes, fieldsAt, declared]
  rw [byte, pathBytes]
  simp (disch := exact length_slice (by omega)) only [u16ToBeBytes_fromBeBytes,
    u32ToBeBytes_fromBeBytes, u64ToBeBytes_fromBeBytes]
  simp (disch := rfl) only [slice_append_slice, ← Nat.add_assoc, Nat.reduceAdd]
  rw [Nat.add_sub_cancel' long]
  exact slice_zero_length payload

/-! ### Acceptance -/

theorem fromPayload_of_length {payload : List UInt8}
    (outside : ¬ (150 ≤ payload.length ∧ payload.length ≤ 4245)) :
    fromPayload payload = .err (.payloadLengthOutOfBounds payload.length) := by
  have refused : ¬ (minPayloadSize ≤ payload.length ∧ payload.length ≤ maxPayloadSize) := outside
  simp only [fromPayload, refused]
  rfl

/-- An accepted payload is the payload of the valid record it decodes to. -/
theorem payloadBytes_of_fromPayload {payload : List UInt8} {r : GuestWriteRecord}
    (accepted : fromPayload payload = .ok r) : r.Valid ∧ r.payloadBytes = payload := by
  by_cases inside : 150 ≤ payload.length ∧ payload.length ≤ 4245
  · rw [fromPayload_eq_checks inside.1 inside.2] at accepted
    simp only [Outcome.guard_eq_ok, Outcome.bind_eq_ok, operation_fromByte_eq_ok,
      Outcome.okOr_eq_ok, fromUtf8_eq_some, Outcome.ok.injEq] at accepted
    obtain ⟨major, sequence, operation, byte, flags, declared, path, pathBytes, normalized, rfl⟩ :=
      accepted
    have long : 149 ≤ payload.length := Nat.le_of_succ_le inside.1
    have length : (asBytes path).length = payload.length - 149 := by
      rw [pathBytes]
      exact length_slice (by omega)
    constructor
    · exact
        { major := not_not.mp major
          sequence := UInt64.pos_iff_ne_zero.mpr sequence
          flags := not_not.mp flags
          normalized := Bool.not_not_eq.mp normalized
          short := Nat.le_trans (Nat.le_of_eq length) (Nat.sub_le_of_le_add inside.2) }
    · apply payloadBytes_fieldsAt long
      · rw [byte]
        exact (slice_one _).symm
      · exact not_not.mp declared
      · exact pathBytes
  · rw [fromPayload_of_length inside] at accepted
    cases accepted

/-- The payload of a valid record is accepted and decodes to the record. -/
theorem fromPayload_payloadBytes {r : GuestWriteRecord} (valid : r.Valid) :
    fromPayload r.payloadBytes = .ok r := by
  have positive := length_pos_of_normalized valid.normalized
  have short := valid.short
  have length := length_payloadBytes r
  have long : 149 ≤ r.payloadBytes.length := by omega
  have fields := fieldsAt_payloadBytes r long
  have available : r.payloadBytes.length - 149 = (asBytes r.normalizedPath).length := by omega
  have major : u16FromBeBytes (slice r.payloadBytes 0 2) = r.version.major :=
    congrArg (fun record => record.version.major) fields
  have sequence : u64FromBeBytes (slice r.payloadBytes 4 8) = r.sequenceNumber :=
    congrArg sequenceNumber fields
  have flags : u16FromBeBytes (slice r.payloadBytes 145 2) = r.flags :=
    congrArg GuestWriteRecord.flags fields
  have declared : (u16FromBeBytes (slice r.payloadBytes 147 2)).toNat =
      (asBytes r.normalizedPath).length := by
    rw [slice_payloadBytes_pathLen, u16FromBeBytes_toBeBytes, UInt16.toNat_ofNat']
    exact Nat.mod_eq_of_lt (Nat.lt_of_le_of_lt short (by decide))
  have byte : r.operation.toByte = r.payloadBytes[128] := by
    have found := slice_payloadBytes_operation r
    rw [slice_one (by omega)] at found
    exact (List.singleton_inj.mp found).symm
  rw [fromPayload_eq_checks (by omega) (by omega)]
  simp only [Outcome.guard_eq_ok, Outcome.bind_eq_ok, operation_fromByte_eq_ok,
    Outcome.okOr_eq_ok, fromUtf8_eq_some, Outcome.ok.injEq]
  refine ⟨?_, ?_, r.operation, byte, ?_, ?_, r.normalizedPath, ?_, ?_, fields⟩
  · rw [major]
    exact not_not.mpr valid.major
  · rw [sequence]
    exact UInt64.pos_iff_ne_zero.mp valid.sequence
  · rw [flags]
    exact not_not.mpr valid.flags
  · rw [declared, available]
    exact not_not.mpr rfl
  · rw [available, slice_payloadBytes_path]
  · exact Bool.not_not_eq.mpr valid.normalized

/-- `from_payload` accepts exactly the payloads of valid records. -/
theorem fromPayload_eq_ok {payload : List UInt8} {r : GuestWriteRecord} :
    fromPayload payload = .ok r ↔ r.Valid ∧ r.payloadBytes = payload := by
  constructor
  · exact payloadBytes_of_fromPayload
  · rintro ⟨valid, rfl⟩
    exact fromPayload_payloadBytes valid

/-- The check `fromFrame` makes on a frame that is long enough, before it decodes the payload. -/
theorem fromFrame_eq_checks {frame : List UInt8} (long : 154 ≤ frame.length) :
    fromFrame frame =
      (let declared := (u32FromBeBytes (slice frame 0 4)).toNat
      if declared ≠ frame.length - 4 then
        .err (.payloadLengthMismatch declared (frame.length - 4))
      else
        fromPayload (slice frame 4 (frame.length - 4))) := by
  have large : ¬ frame.length < 4 + 150 := by omega
  have read : (indices frame (List.range' 0 4) : Outcome VsockWireError (List UInt8)) =
      .ok (slice frame 0 4) := by
    apply indices_range'
    omega
  have available : (usizeSub frame.length 4 : Outcome VsockWireError Nat) = .ok (frame.length - 4) :=
    usizeSub_of_le (by omega)
  have payload : (sliceRange frame 4 frame.length : Outcome VsockWireError (List UInt8)) =
      .ok (slice frame 4 (frame.length - 4)) := by
    apply sliceRange_of_le
    omega
  simp only [List.range', Nat.reduceAdd] at read
  unfold fromFrame
  simp only [lengthPrefixSize, minPayloadSize, large, read, available, payload, Outcome.ok_bind,
    Outcome.err_bind]
  rfl

theorem fromFrame_of_length {frame : List UInt8} (small : frame.length < 154) :
    fromFrame frame = .err (.frameTooSmall 154 frame.length) := by
  simp only [fromFrame, lengthPrefixSize, minPayloadSize, small, Nat.reduceAdd]
  rfl

/-- An accepted frame is the frame of the valid record it decodes to. -/
theorem toFrame_of_fromFrame {frame : List UInt8} {r : GuestWriteRecord}
    (accepted : fromFrame frame = .ok r) : r.Valid ∧ toFrame r = .ok frame := by
  rcases Nat.lt_or_ge frame.length 154 with small | long
  · rw [fromFrame_of_length small] at accepted
    cases accepted
  · rw [fromFrame_eq_checks long] at accepted
    simp only [Outcome.guard_eq_ok, fromPayload_eq_ok] at accepted
    obtain ⟨declared, valid, payload⟩ := accepted
    have length : r.payloadBytes.length = frame.length - 4 := by
      rw [payload]
      exact length_slice (by omega)
    have lengthField : UInt32.ofNat r.payloadBytes.length = u32FromBeBytes (slice frame 0 4) := by
      rw [length, ← not_not.mp declared, UInt32.ofNat_toNat]
    refine ⟨valid, toFrame_eq_ok.mpr ⟨valid.normalized, valid.short, ?_⟩⟩
    rw [lengthField, u32ToBeBytes_fromBeBytes (length_slice (by omega)), payload,
      slice_append_slice frame rfl, Nat.add_sub_cancel' (by omega)]
    exact slice_zero_length frame

/-- The frame of a valid record is accepted and decodes to the record. -/
theorem fromFrame_of_toFrame {frame : List UInt8} {r : GuestWriteRecord} (valid : r.Valid)
    (encoded : toFrame r = .ok frame) : fromFrame frame = .ok r := by
  obtain ⟨normalized, short, layout⟩ := toFrame_eq_ok.mp encoded
  have positive := length_pos_of_normalized normalized
  have payloadLength := length_payloadBytes r
  have length : frame.length = 4 + r.payloadBytes.length := by
    rw [← layout, List.length_append, Bytes.length_toList]
  have available : frame.length - 4 = r.payloadBytes.length := by omega
  have lengthField : slice frame 0 4 = (u32ToBeBytes (UInt32.ofNat r.payloadBytes.length)).toList := by
    rw [← layout]
    exact slice_append_left (Bytes.length_toList _)
  have payload : slice frame 4 r.payloadBytes.length = r.payloadBytes := by
    rw [← layout, slice_append_right (Nat.le_of_eq (Bytes.length_toList _)), Bytes.length_toList]
    exact slice_zero_length r.payloadBytes
  have declared : (u32FromBeBytes (slice frame 0 4)).toNat = r.payloadBytes.length := by
    rw [lengthField, u32FromBeBytes_toBeBytes, UInt32.toNat_ofNat']
    exact Nat.mod_eq_of_lt (by omega)
  rw [fromFrame_eq_checks (by omega)]
  simp only [Outcome.guard_eq_ok, fromPayload_eq_ok]
  refine ⟨?_, valid, ?_⟩
  · rw [declared, available]
    exact not_not.mpr rfl
  · rw [available, payload]

/-! ### No read leaves its buffer -/

theorem operation_fromByte_returns (byte : UInt8) : (GuestFileOperation.fromByte byte).Returns := by
  unfold GuestFileOperation.fromByte
  apply Outcome.Returns.ite (Outcome.returns_ok _)
  apply Outcome.Returns.ite (Outcome.returns_ok _)
  apply Outcome.Returns.ite (Outcome.returns_ok _)
  exact Outcome.returns_err _

theorem fromPayload_returns (payload : List UInt8) : (fromPayload payload).Returns := by
  by_cases inside : 150 ≤ payload.length ∧ payload.length ≤ 4245
  · rw [fromPayload_eq_checks inside.1 inside.2]
    refine .guard fun _ => .guard fun _ => ?_
    refine .bind (operation_fromByte_returns _) fun operation => ?_
    refine .guard fun _ => .guard fun _ => ?_
    refine .bind (Outcome.returns_okOr _ _) fun path => ?_
    exact .guard fun _ => Outcome.returns_ok _
  · rw [fromPayload_of_length inside]
    exact Outcome.returns_err _

theorem fromFrame_returns (frame : List UInt8) : (fromFrame frame).Returns := by
  rcases Nat.lt_or_ge frame.length 154 with small | long
  · rw [fromFrame_of_length small]
    exact Outcome.returns_err _
  · rw [fromFrame_eq_checks long]
    exact .guard fun _ => fromPayload_returns _

/-- Encoding then decoding returns the record exactly for the valid records; every accepted byte string
    is what the encoder writes for the valid record it decodes to; and no byte string makes either
    decoder panic. -/
theorem fromFrame_toFrame_bijection :
    (∀ r : GuestWriteRecord,
      r.Valid ↔ ∃ frame, toFrame r = .ok frame ∧ fromFrame frame = .ok r) ∧
    (∀ (bytes : List UInt8) (r : GuestWriteRecord),
      fromFrame bytes = .ok r → r.Valid ∧ toFrame r = .ok bytes) ∧
    (∀ bytes : List UInt8, (fromFrame bytes).Returns ∧ (fromPayload bytes).Returns) := by
  refine ⟨?_, ?_, ?_⟩
  · intro r
    constructor
    · intro valid
      have encoded := toFrame_eq_ok.mpr ⟨valid.normalized, valid.short, rfl⟩
      exact ⟨_, encoded, fromFrame_of_toFrame valid encoded⟩
    · rintro ⟨frame, _, decoded⟩
      exact (toFrame_of_fromFrame decoded).1
  · intro bytes r decoded
    exact toFrame_of_fromFrame decoded
  · intro bytes
    exact ⟨fromFrame_returns bytes, fromPayload_returns bytes⟩

end GuestWriteRecord

end KavachNpu

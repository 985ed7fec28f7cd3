/-
Module: KavachNpu.Core.Wire
Layer: Core
Purpose: The 139-byte verdict codec. `toWire` writes fourteen ranges into a zeroed buffer
  (a single byte is a range of one); `fromWire`
  reads the positions back one by one and interleaves the reads with its validity checks, in the
  source's order, so that the reported error is the source's too.
Trusted boundary: human-reviewed spec
Main exports: WireError, Verdict.toWire, Verdict.fromWire, Verdict.fromSlice
-/
import KavachNpu.Core.Verdict
import KavachNpu.Foundation.BigEndian

namespace KavachNpu

/-- `VERDICT_WIRE_SIZE`. -/
def verdictWireSize : Nat := 139

/-- `SUPPORTED_PROTOCOL_MAJOR`. -/
def supportedProtocolMajor : UInt16 := 1

/-- `MAX_EXPIRY_WINDOW_MS`. -/
def maxExpiryWindowMs : UInt64 := 30000

/-- Wire decoding and validation errors for verdict payloads. -/
inductive WireError where
  | invalidLength (expected actual : Nat)
  | unsupportedMajorVersion (major : UInt16)
  | invalidAction (byte : UInt8)
  | nonzeroFlags (flags : UInt8)
  | timestampOrderViolation (issuedAt expiresAt : UInt64)
  | excessiveExpiryWindow (deltaMs : UInt64)
  | zeroTargetProcessId (action : EnforcementAction)
deriving DecidableEq

/-- `impl From<WireError> for DispatchError`. -/
def DispatchError.fromWireError : WireError → DispatchError
  | .unsupportedMajorVersion _ => .versionMismatch
  | .invalidLength _ _ | .invalidAction _ | .nonzeroFlags _ | .timestampOrderViolation _ _
  | .excessiveExpiryWindow _ | .zeroTargetProcessId _ => .malformedMessage

/-- The `match buf[52]` of the decoder. -/
def EnforcementAction.fromByte (byte : UInt8) : Outcome WireError EnforcementAction :=
  if byte = 0 then .ok .alert
  else if byte = 1 then .ok .suspendAndAlert
  else if byte = 2 then .ok .hardKill
  else .err (.invalidAction byte)

namespace Verdict

/-- Serializes the verdict into a fixed 139-byte big-endian wire buffer. -/
def toWire (v : Verdict) : Bytes 139 :=
  let buf : Bytes 139 := Bytes.replicate 139 0
  let buf := writeRange buf 0 2 (u16ToBeBytes v.protocolVersion.major) (by decide)
  let buf := writeRange buf 2 4 (u16ToBeBytes v.protocolVersion.minor) (by decide)
  let buf := writeRange buf 4 20 v.requestId (by decide)
  let buf := writeRange buf 20 28 (u64ToBeBytes v.issuedAtUnixMs) (by decide)
  let buf := writeRange buf 28 36 (u64ToBeBytes v.expiresAtUnixMs) (by decide)
  let buf := writeRange buf 36 52 v.detectorInstanceId (by decide)
  let buf := writeRange buf 52 53 ⟨[v.requestedAction.toByte], rfl⟩ (by decide)
  let buf := writeRange buf 53 85 v.evidenceDigest (by decide)
  let buf := writeRange buf 85 117 v.modelBundleSha256 (by decide)
  let buf := writeRange buf 117 125 (u64ToBeBytes v.policyGeneration) (by decide)
  let buf := writeRange buf 125 129 (u32ToBeBytes v.targetProcessId) (by decide)
  let buf := writeRange buf 129 137 (u64ToBeBytes v.targetProcessStartFiletime) (by decide)
  let buf := writeRange buf 137 138 ⟨[v.corroboratingEvidenceCount], rfl⟩ (by decide)
  writeRange buf 138 139 ⟨[v.flags], rfl⟩ (by decide)

/-- Deserializes and strictly validates a verdict from a 139-byte buffer. -/
def fromWire (wire : Bytes 139) : Outcome WireError Verdict := do
  let buf := wire.toList
  let major := u16FromBeBytes (← indices buf [0, 1])
  if major ≠ supportedProtocolMajor then
    .err (.unsupportedMajorVersion major)
  let minor := u16FromBeBytes (← indices buf [2, 3])
  let requestId ← copyFromSlice 16 (← sliceRange buf 4 20)
  let issuedAtUnixMs := u64FromBeBytes (← indices buf [20, 21, 22, 23, 24, 25, 26, 27])
  let expiresAtUnixMs := u64FromBeBytes (← indices buf [28, 29, 30, 31, 32, 33, 34, 35])
  if issuedAtUnixMs > expiresAtUnixMs then
    .err (.timestampOrderViolation issuedAtUnixMs expiresAtUnixMs)
  let delta ← checkedSub expiresAtUnixMs issuedAtUnixMs
  if delta > maxExpiryWindowMs then
    .err (.excessiveExpiryWindow delta)
  let detectorInstanceId ← copyFromSlice 16 (← sliceRange buf 36 52)
  let requestedAction ← EnforcementAction.fromByte (← index buf 52)
  let evidenceDigest ← copyFromSlice 32 (← sliceRange buf 53 85)
  let modelBundleSha256 ← copyFromSlice 32 (← sliceRange buf 85 117)
  let policyGeneration := u64FromBeBytes (← indices buf [117, 118, 119, 120, 121, 122, 123, 124])
  let targetProcessId := u32FromBeBytes (← indices buf [125, 126, 127, 128])
  if targetProcessId = 0 ∧ requestedAction ≠ .alert then
    .err (.zeroTargetProcessId requestedAction)
  let targetProcessStartFiletime :=
    u64FromBeBytes (← indices buf [129, 130, 131, 132, 133, 134, 135, 136])
  let corroboratingEvidenceCount ← index buf 137
  let flags ← index buf 138
  if flags ≠ 0 then
    .err (.nonzeroFlags flags)
  .ok
    { protocolVersion := { major := major, minor := minor }
      requestId := requestId
      issuedAtUnixMs := issuedAtUnixMs
      expiresAtUnixMs := expiresAtUnixMs
      detectorInstanceId := detectorInstanceId
      requestedAction := requestedAction
      evidenceDigest := evidenceDigest
      modelBundleSha256 := modelBundleSha256
      policyGeneration := policyGeneration
      targetProcessId := targetProcessId
      targetProcessStartFiletime := targetProcessStartFiletime
      corroboratingEvidenceCount := corroboratingEvidenceCount
      flags := flags }

/-- Deserializes a verdict from an arbitrary slice, enforcing exact size and wire validation. -/
def fromSlice (bytes : List UInt8) : Outcome WireError Verdict := do
  if bytes.length ≠ verdictWireSize then
    .err (.invalidLength verdictWireSize bytes.length)
  let buf ← copyFromSlice 139 bytes
  fromWire buf

end Verdict

end KavachNpu

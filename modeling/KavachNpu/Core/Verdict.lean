/-
Module: KavachNpu.Core.Verdict
Layer: Core
Purpose: The contracts shared by the detector and the enforcement broker: artifact versions, requested
  actions, verdicts, and the dispatch outcomes. Field widths are the source's own machine widths.
Trusted boundary: human-reviewed spec
Main exports: ArtifactVersion, EnforcementAction, Verdict, DispatchError
-/
import KavachNpu.Foundation.Bytes

namespace KavachNpu

/-- Version identifier shared by versioned artifacts. -/
structure ArtifactVersion where
  major : UInt16
  minor : UInt16
deriving DecidableEq

/-- A requested response, evaluated by the privileged broker. -/
inductive EnforcementAction where
  | alert
  | suspendAndAlert
  | hardKill
deriving DecidableEq

/-- The discriminant of the `#[repr(u8)]` enumeration, `action as u8`. -/
def EnforcementAction.toByte : EnforcementAction → UInt8
  | .alert => 0
  | .suspendAndAlert => 1
  | .hardKill => 2

/-- Fixed-size verdict contract submitted to the broker. -/
structure Verdict where
  protocolVersion : ArtifactVersion
  requestId : Bytes 16
  issuedAtUnixMs : UInt64
  expiresAtUnixMs : UInt64
  detectorInstanceId : Bytes 16
  requestedAction : EnforcementAction
  evidenceDigest : Bytes 32
  modelBundleSha256 : Bytes 32
  policyGeneration : UInt64
  targetProcessId : UInt32
  targetProcessStartFiletime : UInt64
  corroboratingEvidenceCount : UInt8
  flags : UInt8
deriving DecidableEq

/-- Explicit dispatcher outcomes. -/
inductive DispatchError where
  | brokerUnreachable
  | versionMismatch
  | replayDetected
  | malformedMessage
  | authenticationFailed
  | expired
  | actionDenied
deriving DecidableEq

end KavachNpu

/-
Module: KavachNpu.Wsl.Record
Layer: Wsl
Purpose: The logical guest-write record sent by the agent inside a WSL2 distribution.
Trusted boundary: human-reviewed spec
Main exports: GuestFileOperation, GuestWriteRecord
-/
import KavachNpu.Core.Verdict

namespace KavachNpu

/-- Guest-side file operation. -/
inductive GuestFileOperation where
  | write
  | rename
  | delete
deriving DecidableEq

/-- The discriminant of the `#[repr(u8)]` enumeration, `operation as u8`. -/
def GuestFileOperation.toByte : GuestFileOperation → UInt8
  | .write => 1
  | .rename => 2
  | .delete => 3

/-- Guest-write record. -/
structure GuestWriteRecord where
  version : ArtifactVersion
  sequenceNumber : UInt64
  guestMonotonicNs : UInt64
  guestRealtimeNs : UInt64
  guestProcessId : UInt32
  guestProcessStartTicks : UInt64
  distributionId : Bytes 16
  mountNamespaceId : UInt64
  executableSha256 : Bytes 32
  cgroupSha256 : Bytes 32
  operation : GuestFileOperation
  normalizedPath : String
  byteRangeStart : UInt64
  byteRangeLength : UInt64
  flags : UInt16
deriving DecidableEq

end KavachNpu

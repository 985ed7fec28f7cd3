/-
Module: KavachNpu.WslGuest.AuditSource
Layer: WslGuest
Purpose: The agent inside a WSL2 distribution: the source that numbers file operations and makes records of
  them, and the framing of a record for transmission. SHA-256 is a parameter, and what the clocks read at
  a call is part of its arguments.
Trusted boundary: human-reviewed spec
Main exports: GuestAuditSource, GuestAuditSource.recordOperation, prepareWireFrame
-/
import KavachNpu.Wsl.Wire

namespace KavachNpu

/-- The source of records of one distribution. -/
structure GuestAuditSource where
  distributionId : Bytes 16
  sequenceCounter : UInt64

/-- The arguments of one `record_operation` call, with the nanoseconds since the source was created and,
    unless the system clock is before it, since the Unix epoch. -/
structure GuestOperation where
  pid : UInt32
  executablePath : String
  normalizedPath : String
  operation : GuestFileOperation
  byteRangeStart : UInt64
  byteRangeLength : UInt64
  elapsedNs : Nat
  sinceEpochNs : Option Nat

namespace GuestAuditSource

/-- A source for an enrolled distribution. -/
def new (distributionId : Bytes 16) : GuestAuditSource :=
  { distributionId := distributionId
    sequenceCounter := 1 }

/-- The path of the control group that is hashed for a process. -/
def cgroupPath (pid : UInt32) : String :=
  s!"/sys/fs/cgroup/user.slice/user-{pid}.slice"

/-- Makes the record of a file operation. -/
def recordOperation (sha256 : List UInt8 → Bytes 32) (source : GuestAuditSource)
    (op : GuestOperation) : Outcome String GuestWriteRecord × GuestAuditSource :=
  let path := op.normalizedPath
  if ! isNormalizedMntPath path then
    (.err s!"path '{path}' is not a normalized /mnt/<drive>/ path", source)
  else
    let seq := source.sequenceCounter
    (.ok
      { version := { major := 1, minor := 0 }
        sequenceNumber := seq
        guestMonotonicNs := UInt64.ofNat op.elapsedNs
        guestRealtimeNs := UInt64.ofNat (op.sinceEpochNs.getD 0)
        guestProcessId := op.pid
        guestProcessStartTicks := 1000
        distributionId := source.distributionId
        mountNamespaceId := 4026531840
        executableSha256 := sha256 (asBytes op.executablePath)
        cgroupSha256 := sha256 (asBytes (cgroupPath op.pid))
        operation := op.operation
        normalizedPath := path
        byteRangeStart := op.byteRangeStart
        byteRangeLength := op.byteRangeLength
        flags := 0 },
      { source with sequenceCounter := source.sequenceCounter + 1 })

/-- The next sequence number. -/
def sequenceNumber (source : GuestAuditSource) : UInt64 :=
  source.sequenceCounter

end GuestAuditSource

/-- Serializes and frames a record for transmission. -/
def prepareWireFrame (record : GuestWriteRecord) : Outcome String (List UInt8) :=
  match record.toFrame with
  | .ok frame => .ok frame
  | .err error => .err ("failed to format AF_VSOCK wire frame: " ++ error.display)
  | .panicked cause => .panicked cause

end KavachNpu

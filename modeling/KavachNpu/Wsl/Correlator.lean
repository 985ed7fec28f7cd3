/-
Module: KavachNpu.Wsl.Correlator
Layer: Wsl
Purpose: Correlation of guest writes with host file events, and the confidence it assigns. Paths are
  compared byte by byte ignoring ASCII case; times are compared after the guest's monotonic time has been
  moved by the estimated offset, modulo `2^64`. `CorrelatorCall` collects the calls a run consists of.
Trusted boundary: human-reviewed spec
Main exports: HostFileEvent, translateMntToWindowsPath, WslCorrelator, WslCorrelator.correlateGuestRecord,
  CorrelatorCall, WslCorrelator.call
-/
import KavachNpu.Wsl.Record
import KavachNpu.Wsl.ClockSync
import KavachNpu.Foundation.Utf8
import KavachNpu.Foundation.Window

namespace KavachNpu

/-- `MAX_CORRELATION_WINDOW_MS`. -/
def maxCorrelationWindowMs : UInt64 := 250

/-- Attribution confidence level. -/
inductive AttributionConfidence where
  | high
  | medium
  | low
deriving DecidableEq

/-- Host-side file write event. -/
structure HostFileEvent where
  hostTimestampNs : UInt64
  canonicalWindowsPath : String
  isVmmemProcess : Bool
  bytesWritten : UInt64
deriving DecidableEq

/-- Attribution outcome. -/
structure WslAttributionResult where
  guestProcessId : UInt32
  distributionId : Bytes 16
  normalizedPath : String
  canonicalWindowsPath : String
  confidence : AttributionConfidence
  correlationDeltaMs : UInt64
  allowPidEnforcement : Bool
deriving DecidableEq

/-- Translates a `/mnt/<drive>/path` to the Windows path `D:\path`. -/
def translateMntToWindowsPath (mntPath : String) : Option String :=
  let chars := mntPath.toList
  if ! "/mnt/".toList.isPrefixOf chars then
    none
  else
    let remainder := chars.drop "/mnt/".length
    -- the two parts of `splitn(2, '/')`; the second is empty when there is no slash
    let driveStr := remainder.takeWhile (· != '/')
    let rest := (remainder.dropWhile (· != '/')).drop 1
    if (asBytes (String.ofList driveStr)).length ≠ 1 then
      none
    else
      match driveStr with
      | [] => none
      | first :: _ =>
          let driveChar := first.toUpper
          if rest.isEmpty then
            some (String.ofList [driveChar, ':', '\\'])
          else
            some (String.ofList
              (driveChar :: ':' :: '\\' :: rest.map fun c => if c = '/' then '\\' else c))

/-- `u64::abs_diff`. -/
def absDiff (a b : UInt64) : UInt64 :=
  if a < b then b - a else a - b

/-- Correlator state. -/
structure WslCorrelator where
  clockSync : ClockSynchronizer
  guestRecords : List GuestWriteRecord
  hostEvents : List HostFileEvent
  correlationWindowMs : UInt64
deriving DecidableEq

/-- `(record.guest_monotonic_ns as i128 + est.offset_ns as i128) as u64`. -/
def adjustedHostTs (record : GuestWriteRecord) (estimate : ClockOffsetEstimate) : UInt64 :=
  UInt64.ofInt (record.guestMonotonicNs.toNat + estimate.offsetNs.toInt)

namespace WslCorrelator

/-- Creates a correlator with the given distribution and correlation window. -/
def new (distributionId : Bytes 16) (correlationWindowMs : UInt64) : WslCorrelator :=
  { clockSync := ClockSynchronizer.new distributionId
    guestRecords := []
    hostEvents := []
    correlationWindowMs := min correlationWindowMs maxCorrelationWindowMs }

/-- Records an observed host file event. -/
def recordHostEvent (correlator : WslCorrelator) (event : HostFileEvent) : WslCorrelator :=
  { correlator with hostEvents := pushBounded 1000 correlator.hostEvents event }

/-- The path host events are compared with: the translation, or the guest path if there is none. -/
def windowsPath (record : GuestWriteRecord) : String :=
  (translateMntToWindowsPath record.normalizedPath).getD record.normalizedPath

/-- `window_ns`. -/
def windowNs (correlator : WslCorrelator) : UInt64 :=
  correlator.correlationWindowMs * 1000000

/-- The filter predicate on host events. -/
def eventMatches (correlator : WslCorrelator) (record : GuestWriteRecord)
    (estimate : ClockOffsetEstimate) (event : HostFileEvent) : Bool :=
  eqIgnoreAsciiCase event.canonicalWindowsPath (windowsPath record) &&
    decide (absDiff event.hostTimestampNs (adjustedHostTs record estimate) ≤ correlator.windowNs)

/-- The confidence of a record and the distance to its first match, in milliseconds. -/
def classify (correlator : WslCorrelator) (record : GuestWriteRecord) (nowHostNs : UInt64) :
    AttributionConfidence × UInt64 :=
  match correlator.clockSync.getValidEstimate nowHostNs with
  | some estimate =>
      let found := correlator.hostEvents.filter (correlator.eventMatches record estimate)
      let delta :=
        match found.head? with
        | some firstMatch =>
            absDiff firstMatch.hostTimestampNs (adjustedHostTs record estimate) / 1000000
        | none => 0
      if found.length = 1 ∧ estimate.uncertaintyNs ≤ 50000000 then
        (.high, delta)
      else if ! found.isEmpty then
        (.medium, delta)
      else
        (.low, delta)
  | none => (.low, 0)

/-- Correlates an incoming guest write record with the buffered host events. -/
def correlateGuestRecord (correlator : WslCorrelator) (record : GuestWriteRecord)
    (nowHostNs : UInt64) : WslAttributionResult × WslCorrelator :=
  let (confidence, deltaMs) := correlator.classify record nowHostNs
  let result : WslAttributionResult :=
    { guestProcessId := record.guestProcessId
      distributionId := record.distributionId
      normalizedPath := record.normalizedPath
      canonicalWindowsPath := windowsPath record
      confidence := confidence
      correlationDeltaMs := deltaMs
      allowPidEnforcement := decide (confidence = .high) }
  (result, { correlator with guestRecords := pushBounded 1000 correlator.guestRecords record })

end WslCorrelator

/-- One call on a correlator. `sync` is an exchange processed through `clock_sync_mut`. -/
inductive CorrelatorCall where
  | recordHostEvent (event : HostFileEvent)
  | sync (challenge : ClockChallenge) (response : ClockResponse) (t3HostMonotonicNs : UInt64)
  | correlate (record : GuestWriteRecord) (nowHostNs : UInt64)

/-- What a call returns. -/
inductive CorrelatorReply where
  | recorded
  | synced (result : Outcome ClockSyncError ClockOffsetEstimate)
  | correlated (result : WslAttributionResult)

/-- Runs one call. -/
def WslCorrelator.call (correlator : WslCorrelator) :
    CorrelatorCall → CorrelatorReply × WslCorrelator
  | .recordHostEvent event => (.recorded, correlator.recordHostEvent event)
  | .sync challenge response t3 =>
      let (result, clockSync) := correlator.clockSync.processResponse challenge response t3
      (.synced result, { correlator with clockSync := clockSync })
  | .correlate record now =>
      let (result, correlator) := correlator.correlateGuestRecord record now
      (.correlated result, correlator)

end KavachNpu

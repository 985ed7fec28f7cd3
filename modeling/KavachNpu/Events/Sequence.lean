/-
Module: KavachNpu.Events.Sequence
Layer: Events
Purpose: The rolling window of Windows security events and the patterns found in it. A record is pushed
  first and correlated afterwards, so the window that is searched contains it; SHA-256 is a parameter.
Trusted boundary: human-reviewed spec
Main exports: CriticalEventId, SecurityEventRecord, CorrelationPattern, EventAnomalyAlert,
  EventSequenceTracker, EventSequenceTracker.recordEvent, EventSequenceTracker.buildTensorMatrix,
  EventSubscriber
-/
import KavachNpu.Core.Verdict
import KavachNpu.Foundation.Arithmetic
import KavachNpu.Foundation.BigEndian
import KavachNpu.Foundation.Utf8

namespace KavachNpu

/-- `EVENT_SEQUENCE_WINDOW_SIZE`. -/
def eventSequenceWindowSize : Nat := 16

/-- The monitored Windows event identifiers. -/
inductive CriticalEventId where
  | logonSuccess
  | logonFailure
  | serviceInstall
  | serviceCreated
  | auditLogCleared
  | powerShellScriptBlock
  | bugCheck
deriving DecidableEq

/-- `event_id as u32`, the discriminants. -/
def CriticalEventId.asU32 : CriticalEventId → UInt32
  | .logonSuccess => 4624
  | .logonFailure => 4625
  | .serviceInstall => 7045
  | .serviceCreated => 4697
  | .auditLogCleared => 1102
  | .powerShellScriptBlock => 4104
  | .bugCheck => 1001

/-- Normalized category weight for the feature encoding. -/
def CriticalEventId.severityWeight {S : Type} [OfScientific S] : CriticalEventId → S
  | .logonSuccess => 0.1
  | .logonFailure => 0.4
  | .powerShellScriptBlock => 0.6
  | .serviceCreated | .serviceInstall => 0.8
  | .bugCheck => 0.9
  | .auditLogCleared => 1.0

/-- A captured Windows security event. -/
structure SecurityEventRecord where
  eventId : CriticalEventId
  timestampUnixMs : UInt64
  processId : UInt32
  subjectUser : String
  targetResource : String
deriving DecidableEq

/-- Patterns recognized across event sequences. -/
inductive CorrelationPattern where
  | bruteForceCompromised (username : String) (failedCount : Nat)
  | persistenceServiceInstalled (serviceName : String)
  | auditLogTampering
  | suspiciousScriptExecution (processId : UInt32)
deriving DecidableEq

/-- An alert of the event engine. -/
structure EventAnomalyAlert where
  pattern : CorrelationPattern
  timestampMs : UInt64
  recommendedAction : EnforcementAction
  corroboratingEvidenceCount : UInt8
  evidenceDigest : Bytes 32
deriving DecidableEq

/-- The rolling buffer, oldest event first. -/
structure EventSequenceTracker where
  events : List SecurityEventRecord
deriving DecidableEq

/-- What the hasher of `correlate_recent` is fed. -/
def SecurityEventRecord.hasherInput (latest : SecurityEventRecord) : List UInt8 :=
  (u32ToBeBytes latest.eventId.asU32).toList ++ (u64ToBeBytes latest.timestampUnixMs).toList ++
    (u32ToBeBytes latest.processId).toList ++ asBytes latest.subjectUser ++
    asBytes latest.targetResource

namespace EventSequenceTracker

/-- A tracker without events. -/
def new : EventSequenceTracker :=
  { events := [] }

/-- An alert on the latest record; every pattern recommends the same action. -/
def alert (sha256 : List UInt8 → Bytes 32) (latest : SecurityEventRecord) (pattern : CorrelationPattern)
    (corroboratingEvidenceCount : UInt8) : EventAnomalyAlert :=
  { pattern := pattern
    timestampMs := latest.timestampUnixMs
    recommendedAction := .alert
    corroboratingEvidenceCount := corroboratingEvidenceCount
    evidenceDigest := sha256 latest.hasherInput }

/-- The failed logons of the same user, no more than a minute older than the latest record. -/
def recentFailures (tracker : EventSequenceTracker) (latest : SecurityEventRecord) : Nat :=
  tracker.events.countP fun e =>
    e.eventId == .logonFailure && e.subjectUser == latest.subjectUser &&
      decide (saturatingSub latest.timestampUnixMs e.timestampUnixMs ≤ 60000)

/-- Checks the window for a pattern that the latest record completes. -/
def correlateRecent (sha256 : List UInt8 → Bytes 32) (tracker : EventSequenceTracker)
    (latest : SecurityEventRecord) : Option EventAnomalyAlert :=
  if latest.eventId = .auditLogCleared then
    some (alert sha256 latest .auditLogTampering 2)
  else if latest.eventId = .serviceInstall ∨ latest.eventId = .serviceCreated then
    some (alert sha256 latest (.persistenceServiceInstalled latest.targetResource) 2)
  else if latest.eventId = .logonSuccess ∧ tracker.recentFailures latest ≥ 3 then
    some (alert sha256 latest
      (.bruteForceCompromised latest.subjectUser (tracker.recentFailures latest)) 3)
  else if latest.eventId = .powerShellScriptBlock then
    some (alert sha256 latest (.suspiciousScriptExecution latest.processId) 1)
  else
    none

/-- Records an event, keeps the window at sixteen events and checks for patterns. -/
def recordEvent (sha256 : List UInt8 → Bytes 32) (tracker : EventSequenceTracker)
    (record : SecurityEventRecord) : Option EventAnomalyAlert × EventSequenceTracker :=
  let kept :=
    if tracker.events.length = eventSequenceWindowSize then tracker.events.drop 1 else tracker.events
  let tracker := { events := kept ++ [record] }
  (tracker.correlateRecent sha256 record, tracker)

section Arithmetic

variable {S : Type} [Div S] [LT S] [DecidableLT S] [NatCast S] [OfScientific S]

/-- The features of an event, given the timestamp of the event before it. -/
def eventFeatures (sha256 : List UInt8 → Bytes 32) (prevTs : UInt64) (event : SecurityEventRecord) :
    Vector S 4 :=
  let dtMs : S := floatMax ((saturatingSub event.timestampUnixMs prevTs).toNat : S) 0.0
  let userHash := sha256 (asBytes event.subjectUser)
  ⟨#[event.eventId.severityWeight, clamp (dtMs / 60000.0) 0.0 1.0, (userHash[0].toNat : S) / 255.0,
    ((event.processId % 65536).toNat : S) / 65536.0], rfl⟩

/-- The feature matrix of the window, with zeros after the last event. -/
def buildTensorMatrix (sha256 : List UInt8 → Bytes 32) (tracker : EventSequenceTracker) :
    Vector (Vector S 4) 16 :=
  Vector.ofFn fun i =>
    match tracker.events[i.val]? with
    | some event =>
        -- `prev_ts` starts at the first event's own timestamp
        let prevTs :=
          match tracker.events[i.val - 1]? with
          | some previous => previous.timestampUnixMs
          | none => 0
        eventFeatures sha256 prevTs event
    | none => Vector.replicate 4 0.0

end Arithmetic

end EventSequenceTracker

/-- The event subscriber. -/
structure EventSubscriber where
  tracker : EventSequenceTracker
deriving DecidableEq

namespace EventSubscriber

/-- A subscriber with an empty window. -/
def new : EventSubscriber :=
  { tracker := EventSequenceTracker.new }

/-- Ingests an event and checks for patterns. -/
def ingestEvent (sha256 : List UInt8 → Bytes 32) (subscriber : EventSubscriber)
    (record : SecurityEventRecord) : Option EventAnomalyAlert × EventSubscriber :=
  let (alert, tracker) := subscriber.tracker.recordEvent sha256 record
  (alert, { tracker := tracker })

/-- The feature matrix for head 3. -/
def buildTensorMatrix {S : Type} [Div S] [LT S] [DecidableLT S] [NatCast S] [OfScientific S]
    (sha256 : List UInt8 → Bytes 32) (subscriber : EventSubscriber) : Vector (Vector S 4) 16 :=
  subscriber.tracker.buildTensorMatrix sha256

end EventSubscriber

end KavachNpu

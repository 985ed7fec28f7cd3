/-
Module: KavachNpu.Tripwire.SlidingWindow
Layer: Tripwire
Purpose: The sliding-window write-burst tracker and the engine that feeds it. Times are `u64` milliseconds
  in the wrapping arithmetic of a release build; the features are computed over any arithmetic, `D` for
  double and `S` for single precision. SHA-256 and the binary logarithm are parameters.
Trusted boundary: human-reviewed spec
Main exports: FileOperationEvent, ProcessBurstEvaluation, WriteBurstTracker,
  WriteBurstTracker.evaluatePid, WriteBurstTracker.buildTensorMatrix, EntropyEngine,
  EntropyEngine.ingestOperation
-/
import KavachNpu.Foundation.BigEndian
import KavachNpu.Foundation.Utf8
import KavachNpu.Core.Verdict
import KavachNpu.Tripwire.Entropy

namespace KavachNpu

/-- `DEFAULT_SLIDING_WINDOW_MS`. -/
def defaultSlidingWindowMs : UInt64 := 50

/-- `DEFAULT_SUSPENSION_FILE_THRESHOLD`. -/
def defaultSuspensionFileThreshold : Nat := 3

/-- `NPU_TIME_SLOTS`. -/
def npuTimeSlots : Nat := 10

/-- The order in which strings are sorted: by their UTF-8 bytes. -/
def bytesLe (left right : String) : Bool :=
  decide (asBytes left ≤ asBytes right)

/-- A recorded file write or rename. -/
structure FileOperationEvent (D : Type) where
  pid : UInt32
  timestampMs : UInt64
  path : String
  bytesWritten : Nat
  blockEntropies : List D
  isRename : Bool

/-- A feature matrix of ten time slots with four features each. -/
abbrev IoMatrix (S : Type) := Vector (Vector S 4) 10

/-- The evaluation of one process. -/
structure ProcessBurstEvaluation (D S : Type) where
  pid : UInt32
  windowStartMs : UInt64
  windowDurationMs : UInt64
  totalWrites : Nat
  totalRenames : Nat
  totalBytes : Nat
  distinctFiles : List String
  entropySummary : SparseEntropySummary D
  tensorMatrix : IoMatrix S
  recommendedAction : EnforcementAction
  corroboratingEvidenceCount : UInt8
  evidenceDigest : Bytes 32

/-- The tracker, with the retained events oldest first. -/
structure WriteBurstTracker (D : Type) where
  windowDurationMs : UInt64
  suspensionFileThreshold : Nat
  events : List (FileOperationEvent D)

namespace WriteBurstTracker

section Arithmetic

variable {D S : Type} [Add D] [Sub D] [Mul D] [Div D] [LE D] [LT D] [DecidableLE D] [DecidableLT D]
  [NatCast D] [OfScientific D] [FloatOps D] [Div S] [LT S] [DecidableLT S] [NatCast S] [OfScientific S]
  [AsF32 D S]

/-- A tracker with the default window and threshold. -/
def new : WriteBurstTracker D :=
  { windowDurationMs := defaultSlidingWindowMs
    suspensionFileThreshold := defaultSuspensionFileThreshold
    events := [] }

/-- A tracker with the given window and threshold. -/
def withParams (windowDurationMs : UInt64) (suspensionFileThreshold : Nat) : WriteBurstTracker D :=
  { windowDurationMs := windowDurationMs
    suspensionFileThreshold := suspensionFileThreshold
    events := [] }

/-- Purges the events before the window that ends at `nowMs`. -/
def purgeExpired (tracker : WriteBurstTracker D) (nowMs : UInt64) : WriteBurstTracker D :=
  let cutoff := saturatingSub nowMs tracker.windowDurationMs
  { tracker with events := tracker.events.filter fun e => decide (e.timestampMs ≥ cutoff) }

/-- Records an event, then purges. -/
def recordEvent (tracker : WriteBurstTracker D) (event : FileOperationEvent D) (nowMs : UInt64) :
    WriteBurstTracker D :=
  purgeExpired { tracker with events := tracker.events ++ [event] } nowMs

/-- The features of a time slot with the given events. -/
def slotFeatures (bucketEvents : List (FileOperationEvent D)) : Vector S 4 :=
  if bucketEvents.isEmpty then
    Vector.replicate 4 0.0
  else
    let bucketEntropies := bucketEvents.flatMap FileOperationEvent.blockEntropies
    let bucketRenames := bucketEvents.countP FileOperationEvent.isRename
    let bucketBytes := (bucketEvents.map FileOperationEvent.bytesWritten).sum
    let summary := differentialEntropy bucketEntropies
    let entropy : S := AsF32.asF32 (summary.meanEntropy / 8.0)
    let renames : S := clamp ((bucketRenames : S) / 10.0) 0.0 1.0
    let volume : S := clamp ((bucketBytes : S) / 65536.0) 0.0 1.0
    let intermittent : S := AsF32.asF32 summary.intermittentEncryptionScore
    ⟨#[entropy, renames, volume, intermittent], rfl⟩

/-- The events of time slot `i` in a window that starts at `startMs`. -/
def bucketEvents (windowDurationMs startMs : UInt64) (pidEvents : List (FileOperationEvent D))
    (i : Nat) : List (FileOperationEvent D) :=
  let bucketDuration : D := (windowDurationMs.toNat : D) / (npuTimeSlots : D)
  let bStart := startMs + FloatOps.asU64 ((i : D) * bucketDuration)
  let bEnd := startMs + FloatOps.asU64 (((i + 1 : Nat) : D) * bucketDuration)
  pidEvents.filter fun e => decide (e.timestampMs ≥ bStart) && decide (e.timestampMs < bEnd)

/-- The number of independent signs of ransomware in a summary. -/
def evidenceCount (summary : SparseEntropySummary D) (totalRenames distinctFiles threshold : Nat) :
    UInt8 :=
  (if summary.maxEntropy ≥ 7.95 then 1 else 0) + (if summary.isAnomalous then 1 else 0) +
    (if totalRenames ≥ 3 then 1 else 0) + (if distinctFiles ≥ threshold then 1 else 0)

/-- Evaluates the sliding window of a process. -/
def evaluatePid (sha256 : List UInt8 → Bytes 32) (tracker : WriteBurstTracker D) (pid : UInt32)
    (nowMs : UInt64) : Option (ProcessBurstEvaluation D S) :=
  let pidEvents := tracker.events.filter fun e => e.pid == pid
  if pidEvents.isEmpty then
    none
  else
    let totalWrites := pidEvents.countP fun e => ! e.isRename
    let totalRenames := pidEvents.countP FileOperationEvent.isRename
    let totalBytes := (pidEvents.map FileOperationEvent.bytesWritten).sum
    let allBlockEntropies := pidEvents.flatMap FileOperationEvent.blockEntropies
    let entropySummary := differentialEntropy allBlockEntropies
    let startMs := saturatingSub nowMs tracker.windowDurationMs
    let tensorMatrix : IoMatrix S :=
      Vector.ofFn fun i => slotFeatures (bucketEvents tracker.windowDurationMs startMs pidEvents i)
    -- the paths are collected in a hash set and sorted afterwards
    let sortedFiles := (pidEvents.map FileOperationEvent.path).dedup.mergeSort bytesLe
    let evidenceDigest := sha256
      ((u32ToBeBytes pid).toList ++ (u64ToBeBytes (UInt64.ofNat totalBytes)).toList ++
        sortedFiles.flatMap asBytes)
    let recommendedAction :=
      if entropySummary.isAnomalous = true ∧ sortedFiles.length ≥ tracker.suspensionFileThreshold then
        EnforcementAction.suspendAndAlert
      else
        EnforcementAction.alert
    some
      { pid := pid
        windowStartMs := startMs
        windowDurationMs := tracker.windowDurationMs
        totalWrites := totalWrites
        totalRenames := totalRenames
        totalBytes := totalBytes
        distinctFiles := sortedFiles
        entropySummary := entropySummary
        tensorMatrix := tensorMatrix
        recommendedAction := recommendedAction
        corroboratingEvidenceCount := evidenceCount entropySummary totalRenames sortedFiles.length
          tracker.suspensionFileThreshold
        evidenceDigest := evidenceDigest }

/-- The all-zero matrix. -/
def zeroMatrix : IoMatrix S :=
  Vector.replicate 10 (Vector.replicate 4 0.0)

/-- The matrix of the process that wrote last, or a zeroed matrix if there is no event. -/
def buildTensorMatrix (sha256 : List UInt8 → Bytes 32) (tracker : WriteBurstTracker D) : IoMatrix S :=
  match tracker.events.getLast? with
  | some lastEvent =>
      match tracker.evaluatePid sha256 lastEvent.pid lastEvent.timestampMs with
      | some eval => eval.tensorMatrix
      | none => zeroMatrix
  | none => zeroMatrix

end Arithmetic

end WriteBurstTracker

/-- The tripwire engine. -/
structure EntropyEngine (D : Type) where
  tracker : WriteBurstTracker D

/-- The arguments of one `ingest_operation` call. -/
structure FileOperation where
  pid : UInt32
  path : String
  data : List UInt8
  isRename : Bool
  nowMs : UInt64

section Arithmetic

variable {D S : Type} [Add D] [Sub D] [Mul D] [Div D] [LE D] [LT D] [DecidableLE D] [DecidableLT D]
  [NatCast D] [OfScientific D] [FloatOps D] [Div S] [LT S] [DecidableLT S] [NatCast S] [OfScientific S]
  [AsF32 D S]

/-- The event of an operation, with its block entropies. -/
def makeWriteEvent (log2 : D → D) (pid : UInt32) (timestampMs : UInt64) (path : String)
    (data : List UInt8) (isRename : Bool) : FileOperationEvent D :=
  { pid := pid
    timestampMs := timestampMs
    path := path
    bytesWritten := data.length
    blockEntropies := blockEntropyScan log2 data defaultBlockSize
    isRename := isRename }

namespace EntropyEngine

/-- An engine with the default window and threshold. -/
def new : EntropyEngine D :=
  { tracker := WriteBurstTracker.new }

/-- An engine with the given window and threshold. -/
def withParams (windowDurationMs : UInt64) (suspensionFileThreshold : Nat) : EntropyEngine D :=
  { tracker := WriteBurstTracker.withParams windowDurationMs suspensionFileThreshold }

/-- Ingests an operation and evaluates its process. -/
def ingestOperation (log2 : D → D) (sha256 : List UInt8 → Bytes 32) (engine : EntropyEngine D)
    (op : FileOperation) : Option (ProcessBurstEvaluation D S) × EntropyEngine D :=
  let event := makeWriteEvent log2 op.pid op.nowMs op.path op.data op.isRename
  let tracker := engine.tracker.recordEvent event op.nowMs
  (tracker.evaluatePid sha256 op.pid op.nowMs, { tracker := tracker })

end EntropyEngine

end Arithmetic

end KavachNpu

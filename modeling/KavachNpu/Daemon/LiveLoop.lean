/-
Module: KavachNpu.Daemon.LiveLoop
Layer: Daemon
Purpose: The Head 1 branch of the live sentinel loop: the broker the loop configures, the tensor it scores,
  the verdict it builds at a tick whose score reaches the threshold, and the calls a set of such ticks
  makes. For the broker a run is determined by the ticks that alert.
Trusted boundary: human-reviewed spec
Main exports: LiveLoop.Config, LiveLoop.broker, LiveLoop.verdict, LiveLoop.alertCalls, LiveLoop.ioTensor,
  LiveLoop.ioAlert
-/
import KavachNpu.Core.Npu
import KavachNpu.Sensors.PipeBroker
import KavachNpu.Tripwire.SlidingWindow

namespace KavachNpu

namespace LiveLoop

/-- The fields of `KavachConfig` the loop reads. -/
structure Config where
  requiredPolicyGeneration : UInt64
  hardKillEnabled : Bool
  minimumCorroboratingEvidence : UInt8

/-- The broker of `run_live_sentinel_daemon_ext`. -/
def broker (config : Config) : EnforcementBroker :=
  EnforcementBroker.new config.requiredPolicyGeneration config.hardKillEnabled
    config.minimumCorroboratingEvidence (Bytes.replicate 32 0x77) false

/-- `now_ms`, in the wrapping arithmetic of a release build. -/
def nowMs (startTs tick : UInt64) : UInt64 :=
  startTs + tick * 100

/-- `req_id`: the low byte of the tick followed by fifteen zeros. -/
def requestId (tick : UInt64) : Bytes 16 :=
  let reqId : Bytes 16 := Bytes.replicate 16 0
  writeRange reqId 0 1 ⟨[(tick &&& 0xFF).toUInt8], rfl⟩ (by decide)

/-- The verdict dispatched when Head 1 alerts at a tick. -/
def verdict (config : Config) (startTs tick : UInt64) : Verdict :=
  { protocolVersion := { major := 1, minor := 0 }
    requestId := requestId tick
    issuedAtUnixMs := nowMs startTs tick
    expiresAtUnixMs := nowMs startTs tick + 10000
    detectorInstanceId := Bytes.replicate 16 0xDE
    requestedAction := .suspendAndAlert
    evidenceDigest := Bytes.replicate 32 0xEE
    modelBundleSha256 := Bytes.replicate 32 0x77
    policyGeneration := config.requiredPolicyGeneration
    targetProcessId := 1337
    targetProcessStartFiletime := 133500000000000000
    corroboratingEvidenceCount := 3
    flags := 0 }

/-- The evaluations made for the ticks that alert, each at the reading of its own tick. -/
def alertCalls (config : Config) (startTs : UInt64) (ticks : List UInt64) : List BrokerCall :=
  ticks.map fun tick => .evaluate (verdict config startTs tick) (nowMs startTs tick)

section Scores

variable {S : Type} [Add S] [Mul S] [Div S] [Neg S] [LE S] [LT S] [DecidableLE S] [DecidableLT S]
  [IntCast S] [OfScientific S] [FloatOps S]

/-- The score from which Head 1 alerts. -/
def ioThreshold : S := 0.85

/-- `io_tensor`: a feature matrix quantized with the default parameters. -/
def ioTensor (matrix : IoMatrix S) : IoInputTensor :=
  InputTensor.fromF32Matrix matrix QuantizationParams.default

/-- Whether Head 1 alerts at a tick, and the session after the evaluation. -/
def ioAlert (host : NpuHost S) (session : NpuSession) (matrix : IoMatrix S) : Bool × NpuSession :=
  match session.evaluateIoHead host (ioTensor matrix) with
  | (.ok ioScore, session) => (decide (ioScore ≥ ioThreshold), session)
  | (.error _, session) => (false, session)

end Scores

end LiveLoop

end KavachNpu

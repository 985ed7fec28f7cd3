/-
Module: KavachNpu.Beacon.Engine
Layer: Beacon
Purpose: The beacon rhythm detector and the engine that keeps one rolling window per flow. SHA-256 is a
  parameter.
Trusted boundary: human-reviewed spec
Main exports: BeaconDetectionResult, evaluateBeaconRhythm, TcnEngine, TcnEngine.ingestPacket,
  TcnEngine.buildTensorMatrix, TcnEngine.activeFlowCount, TcnEngine.clear
-/
import KavachNpu.Beacon.Flow
import KavachNpu.Foundation.FiniteMap

namespace KavachNpu

/-- Evaluation of a 32-packet window. -/
structure BeaconDetectionResult (D S : Type) where
  meanDeltaMs : D
  stdDevMs : D
  coefficientOfVariation : D
  jitterScore : D
  symmetryScore : D
  isC2Beacon : Bool
  confidence : D
  tensorMatrix : FlowMatrix S
  evidenceDigest : Bytes 32

section Arithmetic

variable {D S : Type} [Add D] [Sub D] [Mul D] [Div D] [LE D] [LT D] [DecidableLE D] [DecidableLT D]
  [NatCast D] [OfScientific D] [Div S] [LT S] [DecidableLT S] [NatCast S] [Neg S] [OfScientific S]
  [AsF32 D S]

/-- `JITTER_CV_MAX`. -/
def jitterCvMax : D := 0.35

/-- `MIN_BEACON_INTERVAL_MS`. -/
def minBeaconIntervalMs : D := 500.0

/-- Evaluates a 32-packet window for machine-driven periodicity. -/
def evaluateBeaconRhythm (float : FloatFunctions D) (sha256 : List UInt8 → Bytes 32)
    (flow : RollingFlow) : Option (BeaconDetectionResult D S) :=
  if ! flow.isFull then
    none
  else
    let packets := flow.packets
    -- the loop runs over the positions from 1 on, each with its predecessor
    let deltas : List D := packets.zipWith
      (fun earlier later => RollingFlow.deltaMs earlier.timestampNs later.timestampNs) packets.tail
    let outboundCount := packets.tail.countP fun p => decide (p.direction = .outbound)
    let inboundCount := packets.tail.countP fun p => decide (p.direction = .inbound)
    let smallPayloadCount := packets.tail.countP fun p => decide (p.payloadBytes ≤ 512)
    if deltas.isEmpty then
      none
    else
      let count : D := (deltas.length : D)
      let mean : D := deltas.foldl (· + ·) 0.0 / count
      let variance : D := (deltas.map fun d => (d - mean) * (d - mean)).foldl (· + ·) 0.0 / count
      let stdDev := float.sqrt variance
      let cv : D := if mean > 0.0 then stdDev / mean else 1.0
      let jitterScore : D :=
        if mean ≥ minBeaconIntervalMs ∧ cv ≤ jitterCvMax then
          clamp (1.0 - cv / jitterCvMax) 0.0 1.0
        else
          0.0
      let balanceRatio : D :=
        if outboundCount > 0 ∧ inboundCount > 0 then
          ((min outboundCount inboundCount : Nat) : D) / ((max outboundCount inboundCount : Nat) : D)
        else
          0.0
      let payloadRatio : D := (smallPayloadCount : D) / count
      let symmetryScore : D := clamp (balanceRatio * 0.5 + payloadRatio * 0.5) 0.0 1.0
      let isC2Beacon := decide (jitterScore ≥ 0.5) && decide (symmetryScore ≥ 0.4)
      let confidence : D := clamp (jitterScore * 0.6 + symmetryScore * 0.4) 0.0 1.0
      match flow.buildTensorMatrix float with
      | none => none
      | some tensorMatrix =>
          some
            { meanDeltaMs := mean
              stdDevMs := stdDev
              coefficientOfVariation := cv
              jitterScore := jitterScore
              symmetryScore := symmetryScore
              isC2Beacon := isC2Beacon
              confidence := confidence
              tensorMatrix := tensorMatrix
              evidenceDigest := sha256 (deltas.flatMap fun d => (float.toBeBytes d).toList) }

/-- The beaconing engine, with one window per flow. -/
structure TcnEngine where
  flows : HashMap FlowKey RollingFlow

namespace TcnEngine

/-- An engine without flows. -/
def new : TcnEngine :=
  { flows := ∅ }

/-- Ingests a packet into its flow and evaluates the flow if its window is full. -/
def ingestPacket (float : FloatFunctions D) (sha256 : List UInt8 → Bytes 32) (engine : TcnEngine)
    (key : FlowKey) (packet : PacketMeta) : Option (BeaconDetectionResult D S) × TcnEngine :=
  -- `entry(key).or_default()`
  let flow := (engine.flows.lookup key).getD RollingFlow.new
  let (ready, flow) := flow.recordPacket packet
  (if ready then evaluateBeaconRhythm float sha256 flow else none,
    { flows := engine.flows.insert key flow })

/-- The matrix of the first full flow, or a zeroed matrix. A hash map has no order of its own: `order` lists
    the keys as `values` visits them. -/
def buildTensorMatrix (float : FloatFunctions D) (order : List FlowKey) (engine : TcnEngine) :
    FlowMatrix S :=
  let matrixOf := fun key => (engine.flows.lookup key).bind fun flow => flow.buildTensorMatrix float
  (order.findSome? matrixOf).getD (Vector.replicate 32 (Vector.replicate 4 0.0))

/-- Returns the number of tracked flows. -/
def activeFlowCount (engine : TcnEngine) : Nat :=
  engine.flows.keys.card

/-- Clears all tracked flows. -/
def clear (_engine : TcnEngine) : TcnEngine :=
  { flows := ∅ }

end TcnEngine

end Arithmetic

end KavachNpu

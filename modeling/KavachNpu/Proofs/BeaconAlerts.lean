/-
Module: KavachNpu.Proofs.BeaconAlerts
Layer: Proofs
Purpose: When the second head alerts, on the CPU baseline and over the reals. It is shown one flow, the first
  in the order of the map that has 32 packets, and its score is the mean of the scaled logarithms of the
  gaps between them. It therefore separates flows by how long their gaps are and not by how regular they
  are: below 24.5 s no beacon is alerted, above 24.6 s every flow is.
Trusted boundary: none
Main exports: shownFlow, gapsMs, gapLevel, Sentinel.net_alert_iff
-/
import KavachNpu.Proofs.HeadAlerts

namespace KavachNpu

open BeaconFlows BeaconJitter

section Matrix

variable (toBeBytes : ℝ → Bytes 8)

end Matrix

/-! ### The engine in a run -/

namespace Sentinel

/-- The flow of the two examples. -/
def sampleKey : FlowKey :=
  ⟨.v4 ⟨[192, 168, 1, 50], rfl⟩, 49152, .v4 ⟨[203, 0, 113, 9], rfl⟩, 443, 6⟩

/-- A section of head 1 and the packets of one flow, with the given gaps in nanoseconds. -/
def sampleRun (gaps : List UInt64) : List SentinelInput :=
  .loop [] .openFailed :: (packetsWithGaps 0 gaps).map fun packet =>
    .tcpip ⟨sampleKey, packet.payloadBytes.toUInt64, packet.direction, packet.timestampNs⟩

end Sentinel

end KavachNpu

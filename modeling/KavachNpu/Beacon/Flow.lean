/-
Module: KavachNpu.Beacon.Flow
Layer: Beacon
Purpose: Rolling 32-packet windows of network flows and their feature matrices, over any arithmetic, `D`
  for double and `S` for single precision. The decimal logarithm, the square root and the bytes of a double
  are parameters.
Trusted boundary: human-reviewed spec
Main exports: PacketMeta, FlowKey, RollingFlow, RollingFlow.recordPacket, RollingFlow.buildTensorMatrix
-/
import KavachNpu.Foundation.Arithmetic
import KavachNpu.Foundation.BigEndian
import KavachNpu.Firewall.Rule

namespace KavachNpu

/-- `FLOW_WINDOW_SIZE`. -/
def flowWindowSize : Nat := 32

/-- Direction of traffic relative to the protected endpoint. -/
inductive PacketDirection where
  | outbound
  | inbound
deriving DecidableEq

/-- Metadata of a single IP packet. -/
structure PacketMeta where
  timestampNs : UInt64
  payloadBytes : UInt32
  direction : PacketDirection
deriving DecidableEq

/-- Identifier of a bidirectional communication channel. -/
structure FlowKey where
  localAddr : IpAddr
  localPort : UInt16
  remoteAddr : IpAddr
  remotePort : UInt16
  protocol : UInt8
deriving DecidableEq

/-- The most recent packets of a flow, oldest first. -/
structure RollingFlow where
  packets : List PacketMeta
  totalPacketsSeen : UInt64
deriving DecidableEq

/-- A feature matrix of 32 packets with four features each. -/
abbrev FlowMatrix (S : Type) := Vector (Vector S 4) 32

/-- The operations on doubles that are neither operators nor conversions. -/
structure FloatFunctions (D : Type) where
  sqrt : D → D
  log10 : D → D
  toBeBytes : D → Bytes 8

namespace RollingFlow

/-- Creates an empty flow. -/
def new : RollingFlow :=
  { packets := [], totalPacketsSeen := 0 }

/-- Records a packet and tells whether the window is full. -/
def recordPacket (flow : RollingFlow) (packet : PacketMeta) : Bool × RollingFlow :=
  let packets := if flow.packets.length = flowWindowSize then flow.packets.drop 1 else flow.packets
  let packets := packets ++ [packet]
  (decide (packets.length = flowWindowSize),
    { packets := packets, totalPacketsSeen := flow.totalPacketsSeen + 1 })

/-- The window holds exactly 32 packets. -/
def isFull (flow : RollingFlow) : Bool :=
  decide (flow.packets.length = flowWindowSize)

section Arithmetic

variable {D S : Type} [Add D] [Div D] [LT D] [DecidableLT D] [NatCast D] [OfScientific D] [Div S] [LT S]
  [DecidableLT S] [NatCast S] [Neg S] [OfScientific S] [AsF32 D S]

/-- The milliseconds between two timestamps. -/
def deltaMs (earlier later : UInt64) : D :=
  ((saturatingSub later earlier).toNat : D) / 1000000.0

/-- The features of one packet, given the packet before it, if any. -/
def packetFeatures (float : FloatFunctions D) (firstTs : UInt64) (totalSpanNs : S)
    (previous : Option PacketMeta) (packet : PacketMeta) : Vector S 4 :=
  let delta : D :=
    match previous with
    | none => 0.0
    | some p => deltaMs p.timestampNs packet.timestampNs
  let scaledDelta : S := AsF32.asF32 (clamp (float.log10 (1.0 + delta) / 5.0) 0.0 1.0)
  let scaledPayload : S := clamp (((min packet.payloadBytes 1500).toNat : S) / 1500.0) 0.0 1.0
  let direction : S :=
    match packet.direction with
    | .outbound => 1.0
    | .inbound => -1.0
  let timeFraction : S :=
    clamp (((saturatingSub packet.timestampNs firstTs).toNat : S) / totalSpanNs) 0.0 1.0
  ⟨#[scaledDelta, scaledPayload, direction, timeFraction], rfl⟩

/-- The feature matrix of a full window. -/
def buildTensorMatrix (float : FloatFunctions D) (flow : RollingFlow) : Option (FlowMatrix S) :=
  if full : flow.packets.length = 32 then
    let packetAt (i : Nat) (inside : i < 32) : PacketMeta := flow.packets.get ⟨i, by omega⟩
    let firstTs := (packetAt 0 (by omega)).timestampNs
    let lastTs := (packetAt 31 (by omega)).timestampNs
    let totalSpanNs : S := ((max (saturatingSub lastTs firstTs) 1).toNat : S)
    some <| Vector.ofFn fun i =>
      packetFeatures float firstTs totalSpanNs
        (if i.val = 0 then none else some (packetAt (i.val - 1) (by omega))) (packetAt i.val i.isLt)
  else
    none

end Arithmetic

end RollingFlow

end KavachNpu

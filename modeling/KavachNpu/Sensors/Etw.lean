/-
Module: KavachNpu.Sensors.Etw
Layer: Sensors
Purpose: The three telemetry consumers. Each holds an engine behind a mutex and feeds it one event at a
  time; the engine behind the mutex is passed explicitly.
Trusted boundary: human-reviewed spec
Main exports: KernelFileEvent, KernelFileConsumer.processEvent, TcpipPacketEvent,
  TcpipConsumer.processPacket, EventLogConsumer.processEvent
-/
import KavachNpu.Beacon.Engine
import KavachNpu.Events.Sequence
import KavachNpu.Tripwire.SlidingWindow

namespace KavachNpu

/-- Kernel file operation captured from ETW. -/
structure KernelFileEvent where
  processId : UInt32
  filePath : String
  isRename : Bool
  payload : List UInt8
  timestampUnixMs : UInt64
deriving DecidableEq

/-- The operation an event stands for. -/
def KernelFileEvent.operation (event : KernelFileEvent) : FileOperation :=
  { pid := event.processId
    path := event.filePath
    data := event.payload
    isRename := event.isRename
    nowMs := event.timestampUnixMs }

/-- Network packet event captured from ETW. `payload_bytes` is a 64-bit `usize`. -/
structure TcpipPacketEvent where
  flowKey : FlowKey
  payloadBytes : UInt64
  direction : PacketDirection
  timestampNs : UInt64
deriving DecidableEq

/-- The packet handed to the engine; the cast to `u32` keeps the low bits. -/
def TcpipPacketEvent.meta (event : TcpipPacketEvent) : PacketMeta :=
  { timestampNs := event.timestampNs
    payloadBytes := event.payloadBytes.toUInt32
    direction := event.direction }

section Arithmetic

variable {D S : Type} [Add D] [Sub D] [Mul D] [Div D] [LE D] [LT D] [DecidableLE D] [DecidableLT D]
  [NatCast D] [OfScientific D] [FloatOps D] [Div S] [LT S] [DecidableLT S] [NatCast S] [Neg S]
  [OfScientific S] [AsF32 D S]

/-- Ingests a raw file operation and evaluates the burst. -/
def KernelFileConsumer.processEvent (log2 : D → D) (sha256 : List UInt8 → Bytes 32)
    (engine : EntropyEngine D) (event : KernelFileEvent) :
    Option (ProcessBurstEvaluation D S) × EntropyEngine D :=
  engine.ingestOperation log2 sha256 event.operation

/-- Ingests a packet and evaluates its flow. -/
def TcpipConsumer.processPacket (float : FloatFunctions D) (sha256 : List UInt8 → Bytes 32)
    (engine : TcnEngine) (event : TcpipPacketEvent) :
    Option (BeaconDetectionResult D S) × TcnEngine :=
  engine.ingestPacket float sha256 event.flowKey event.meta

end Arithmetic

/-- Ingests a record and checks for correlation patterns. -/
def EventLogConsumer.processEvent (sha256 : List UInt8 → Bytes 32) (subscriber : EventSubscriber)
    (record : SecurityEventRecord) : Option EventAnomalyAlert × EventSubscriber :=
  subscriber.ingestEvent sha256 record

end KavachNpu

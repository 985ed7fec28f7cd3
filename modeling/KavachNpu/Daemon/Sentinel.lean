/-
Module: KavachNpu.Daemon.Sentinel
Layer: Daemon
Purpose: The live daemon as one machine, in any environment. The consumers and the pipe server may be called
  from any thread; they share the engines and the broker with the loop through mutexes, so what can be
  observed is some order of the critical sections. An input is one such section: a sensor event, a frame at
  the pipe server, or the part of the loop body for one head, which the loop's own phase selects. `main.rs`
  itself makes the consumers and the server and calls none of them, so its own runs are sections of the loop
  alone. A run that is not continuous is the inputs up to the last tick.
Trusted boundary: human-reviewed spec
Main exports: KavachConfig.liveLoop, LoopPhase, Sentinel, SentinelInput, HeadReport, SentinelReply,
  Sentinel.loopSection, Sentinel.step
-/
import KavachNpu.Core.Config
import KavachNpu.Daemon.LiveLoop
import KavachNpu.Sensors.Etw

namespace KavachNpu

/-- What the loop reads of the configuration. -/
def KavachConfig.liveLoop (config : KavachConfig) : LiveLoop.Config :=
  { requiredPolicyGeneration := config.allowlist.requiredPolicyGeneration
    hardKillEnabled := config.containment.hardKillEnabled
    minimumCorroboratingEvidence := config.containment.minimumCorroboratingEvidence }

/-- The section of the loop body that comes next. -/
inductive LoopPhase where
  | io
  | net
  | audit
deriving DecidableEq

/-- What the daemon holds. `tick` counts the rounds the loop has begun. -/
structure Sentinel (D : Type) where
  entropyEngine : EntropyEngine D
  beaconEngine : TcnEngine
  eventSubscriber : EventSubscriber
  broker : EnforcementBroker
  npuSession : NpuSession
  tick : UInt64
  phase : LoopPhase

/-- The functions and the host the daemon runs on, and the start of its clock. -/
structure SentinelHost (D S : Type) where
  log2 : D → D
  float : FloatFunctions D
  sha256 : List UInt8 → Bytes 32
  npu : NpuHost S
  startTs : UInt64

/-- One critical section. A section of the loop is given the order in which the flow map is visited and how
    the pipe would take a frame. -/
inductive SentinelInput where
  | kernelFile (event : KernelFileEvent)
  | tcpip (event : TcpipPacketEvent)
  | eventLog (record : SecurityEventRecord)
  | frame (bytes : List UInt8) (now : UInt64)
  | loop (order : List FlowKey) (attempt : PipeAttempt)

/-- What a section of the loop did: the head's answer, and the verdict it dispatched with the outcome. -/
structure HeadReport (S : Type) where
  phase : LoopPhase
  score : Except NpuError S
  dispatched : Option (Verdict × Outcome DispatchError Unit)

/-- What an input returns. -/
inductive SentinelReply (D S : Type) where
  | burst (result : Option (ProcessBurstEvaluation D S))
  | beacon (result : Option (BeaconDetectionResult D S))
  | event (result : Option EventAnomalyAlert)
  | handled (result : Outcome DispatchError Unit)
  | head (report : HeadReport S)

namespace LiveLoop

variable {S : Type} [LE S] [DecidableLE S] [OfScientific S]

/-- `if let Ok(score) = .. && score >= 0.85`; the three heads have the same threshold. -/
def reaches (score : Except NpuError S) : Bool :=
  match score with
  | .ok score => decide (score ≥ ioThreshold)
  | .error _ => false

end LiveLoop

namespace Sentinel

/-- The state in which the loop of `run_live_sentinel_daemon_ext` begins, with the session it opened. -/
def new {D : Type} (config : KavachConfig) (npuSession : NpuSession) : Sentinel D :=
  { entropyEngine := EntropyEngine.new
    beaconEngine := TcnEngine.new
    eventSubscriber := EventSubscriber.new
    broker := LiveLoop.broker config.liveLoop
    npuSession := npuSession
    tick := 0
    phase := .io }

section Arithmetic

variable {D S : Type} [Add D] [Sub D] [Mul D] [Div D] [LE D] [LT D] [DecidableLE D] [DecidableLT D]
  [NatCast D] [OfScientific D] [FloatOps D] [Add S] [Mul S] [Div S] [Neg S] [LE S] [LT S] [DecidableLE S]
  [DecidableLT S] [NatCast S] [IntCast S] [OfScientific S] [FloatOps S] [AsF32 D S]

/-- The evaluation the next section of the loop makes. -/
def headCall (host : SentinelHost D S) (sentinel : Sentinel D) (order : List FlowKey) : HeadCall :=
  match sentinel.phase with
  | .io =>
      .io (LiveLoop.ioTensor (sentinel.entropyEngine.tracker.buildTensorMatrix host.sha256 : IoMatrix S))
  | .net =>
      .net (InputTensor.fromF32Matrix
        (sentinel.beaconEngine.buildTensorMatrix host.float order : FlowMatrix S)
        QuantizationParams.default)
  | .audit =>
      .audit (InputTensor.fromF32Matrix
        (sentinel.eventSubscriber.buildTensorMatrix host.sha256 : Vector (Vector S 4) 16)
        QuantizationParams.default)

/-- The tick of the next section: the first section of a round begins a new one. -/
def nextTick (sentinel : Sentinel D) : UInt64 :=
  if sentinel.phase = .io then sentinel.tick + 1 else sentinel.tick

/-- One section of the loop body: only head 1 dispatches. -/
def loopSection (host : SentinelHost D S) (config : KavachConfig) (sentinel : Sentinel D)
    (order : List FlowKey) (attempt : PipeAttempt) : HeadReport S × Sentinel D :=
  let (score, npuSession) := sentinel.npuSession.evaluate host.npu (sentinel.headCall host order)
  let tick := sentinel.nextTick
  match sentinel.phase with
  | .io =>
      let dispatched :=
        if LiveLoop.reaches score then
          some (LiveLoop.verdict config.liveLoop host.startTs tick,
            PipeVerdictDispatcher.dispatchPipe attempt)
        else
          none
      ({ phase := .io, score := score, dispatched := dispatched },
        { sentinel with npuSession := npuSession, tick := tick, phase := .net })
  | .net =>
      ({ phase := .net, score := score, dispatched := none },
        { sentinel with npuSession := npuSession, tick := tick, phase := .audit })
  | .audit =>
      ({ phase := .audit, score := score, dispatched := none },
        { sentinel with npuSession := npuSession, tick := tick, phase := .io })

/-- Runs one critical section. -/
def step (host : SentinelHost D S) (config : KavachConfig) (sentinel : Sentinel D) :
    SentinelInput → SentinelReply D S × Sentinel D
  | .kernelFile event =>
      let (result, engine) :=
        KernelFileConsumer.processEvent host.log2 host.sha256 sentinel.entropyEngine event
      (.burst result, { sentinel with entropyEngine := engine })
  | .tcpip event =>
      let (result, engine) :=
        TcpipConsumer.processPacket host.float host.sha256 sentinel.beaconEngine event
      (.beacon result, { sentinel with beaconEngine := engine })
  | .eventLog record =>
      let (result, subscriber) :=
        EventLogConsumer.processEvent host.sha256 sentinel.eventSubscriber record
      (.event result, { sentinel with eventSubscriber := subscriber })
  | .frame bytes now =>
      let (result, broker) := PipeBrokerServer.handleFrame sentinel.broker bytes now
      (.handled result, { sentinel with broker := broker })
  | .loop order attempt =>
      let (report, sentinel) := loopSection host config sentinel order attempt
      (.head report, sentinel)

end Arithmetic

end Sentinel

end KavachNpu

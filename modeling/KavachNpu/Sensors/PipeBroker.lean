/-
Module: KavachNpu.Sensors.PipeBroker
Layer: Sensors
Purpose: The two routes by which a verdict reaches the broker: directly, through the in-memory
  dispatcher, and as a wire frame, through the named-pipe server. The broker behind the mutex is passed
  explicitly. `BrokerCall` collects every call that can reach one broker between its construction and
  its end.
Trusted boundary: human-reviewed spec
Main exports: PipeVerdictDispatcher.dispatchInMemory, PipeVerdictDispatcher.dispatchPipe,
  PipeBrokerServer.handleFrame, BrokerCall, EnforcementBroker.call
-/
import KavachNpu.Core.Wire
import KavachNpu.Firewall.Broker

namespace KavachNpu

/-- `PipeVerdictDispatcher::dispatch` with an in-memory broker registered. -/
def PipeVerdictDispatcher.dispatchInMemory (broker : EnforcementBroker) (verdict : Verdict)
    (nowUnixMs : UInt64) : Outcome DispatchError Unit × EnforcementBroker :=
  let (result, broker) := broker.evaluateAndEnforce verdict nowUnixMs
  (result.map fun _ => (), broker)

/-- How the named pipe took a frame: it could not be opened, the write or the read of the answer failed, or
    a byte came back. -/
inductive PipeAttempt where
  | openFailed
  | writeFailed
  | readFailed
  | answered (response : UInt8)
deriving DecidableEq

/-- `PipeVerdictDispatcher::dispatch` through the named pipe, on Windows. -/
def PipeVerdictDispatcher.dispatchPipe (attempt : PipeAttempt) : Outcome DispatchError Unit :=
  match attempt with
  | .openFailed | .writeFailed | .readFailed => .err .brokerUnreachable
  | .answered response =>
      if response = 0 then .ok ()
      else if response = 1 then .err .versionMismatch
      else if response = 2 then .err .replayDetected
      else if response = 3 then .err .malformedMessage
      else if response = 4 then .err .authenticationFailed
      else if response = 5 then .err .expired
      else if response = 6 then .err .actionDenied
      else .err .brokerUnreachable

/-- Evaluates a single wire frame against the broker. -/
def PipeBrokerServer.handleFrame (broker : EnforcementBroker) (frame : List UInt8)
    (nowUnixMs : UInt64) : Outcome DispatchError Unit × EnforcementBroker :=
  match Verdict.fromSlice frame with
  | .err error => (.err (DispatchError.fromWireError error), broker)
  | .panicked cause => (.panicked cause, broker)
  | .ok verdict =>
      let (result, broker) := broker.evaluateAndEnforce verdict nowUnixMs
      (result.map fun _ => (), broker)

/-- One call on a broker, with the clock reading at which it is made. `editRules` is any use of the
    reference handed out by `rule_registry_mut`. -/
inductive BrokerCall where
  | evaluate (verdict : Verdict) (now : UInt64)
  | frame (bytes : List UInt8) (now : UInt64)
  | purge (now : UInt64)
  | editRules (edit : WfpRuleRegistry → WfpRuleRegistry) (now : UInt64)

/-- The reading at which the call is made. -/
def BrokerCall.now : BrokerCall → UInt64
  | .evaluate _ now | .frame _ now | .purge now | .editRules _ now => now

/-- The verdict the call submits: the argument itself, or what the frame decodes to. -/
def BrokerCall.verdict? : BrokerCall → Option Verdict
  | .evaluate verdict _ => some verdict
  | .frame bytes _ =>
      match Verdict.fromSlice bytes with
      | .ok verdict => some verdict
      | _ => none
  | .purge _ | .editRules _ _ => none

/-- What a call returns. -/
inductive BrokerReply where
  | enforced (result : Outcome DispatchError EnforcedAction)
  | handled (result : Outcome DispatchError Unit)
  | done
deriving DecidableEq

/-- The call returned `Ok`: a host action was authorized. -/
def BrokerReply.accepted : BrokerReply → Bool
  | .enforced result => result.isOk
  | .handled result => result.isOk
  | .done => false

/-- The call returned `Err`. -/
def BrokerReply.rejected : BrokerReply → Bool
  | .enforced result => result.isErr
  | .handled result => result.isErr
  | .done => false

/-- The error the call returned, if any. -/
def BrokerReply.error? : BrokerReply → Option DispatchError
  | .enforced result => result.err?
  | .handled result => result.err?
  | .done => none

/-- Runs one call. -/
def EnforcementBroker.call (broker : EnforcementBroker) : BrokerCall → BrokerReply × EnforcementBroker
  | .evaluate verdict now =>
      let (result, broker) := broker.evaluateAndEnforce verdict now
      (.enforced result, broker)
  | .frame bytes now =>
      let (result, broker) := PipeBrokerServer.handleFrame broker bytes now
      (.handled result, broker)
  | .purge now => (.done, broker.purgeExpiredReplayCache now)
  | .editRules edit _ => (.done, { broker with ruleRegistry := edit broker.ruleRegistry })

end KavachNpu

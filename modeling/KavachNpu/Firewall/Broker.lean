/-
Module: KavachNpu.Firewall.Broker
Layer: Firewall
Purpose: The privileged enforcement broker. `evaluateAndEnforce` runs the nine gates in the source's
  order; the replay cache is purged between the third and the fourth, so some rejections leave it
  purged and some leave it alone. The retention deadline is computed in wrapping `u64` arithmetic, as
  the release build does.
Trusted boundary: human-reviewed spec
Main exports: EnforcedAction, EnforcementBroker, EnforcementBroker.evaluateAndEnforce
-/
import KavachNpu.Core.Verdict
import KavachNpu.Firewall.Rule

namespace KavachNpu

/-- Result of an authorized host intervention. -/
inductive EnforcedAction where
  | processSuspended (pid : UInt32) (evidenceDigest : Bytes 32)
  | processTerminated (pid : UInt32) (evidenceDigest : Bytes 32)
  | alertLogged (evidenceDigest : Bytes 32)
deriving DecidableEq

/-- Privileged broker enforcing policy gates and replay protection. -/
structure EnforcementBroker where
  activePolicyGeneration : UInt64
  hardKillEnabled : Bool
  minimumCorroboratingEvidence : UInt8
  trustedModelSha256 : Bytes 32
  isModelDegraded : Bool
  replayCache : HashMap (Bytes 16) UInt64
  ruleRegistry : WfpRuleRegistry

namespace EnforcementBroker

/-- Constructs a broker with verified policy and model state. -/
def new (activePolicyGeneration : UInt64) (hardKillEnabled : Bool)
    (minimumCorroboratingEvidence : UInt8) (trustedModelSha256 : Bytes 32)
    (isModelDegraded : Bool) : EnforcementBroker :=
  { activePolicyGeneration := activePolicyGeneration
    hardKillEnabled := hardKillEnabled
    minimumCorroboratingEvidence := minimumCorroboratingEvidence
    trustedModelSha256 := trustedModelSha256
    isModelDegraded := isModelDegraded
    replayCache := ∅
    ruleRegistry := WfpRuleRegistry.new }

/-- Purges replay nonces whose retention window has passed. -/
def purgeExpiredReplayCache (broker : EnforcementBroker) (nowUnixMs : UInt64) : EnforcementBroker :=
  { broker with
    replayCache := broker.replayCache.retain fun _ retainUntil => decide (nowUnixMs ≤ retainUntil) }

/-- Gate 7, the `match verdict.requested_action` of the policy. -/
def authorizeAction (broker : EnforcementBroker) (verdict : Verdict) : Except DispatchError Unit :=
  match verdict.requestedAction with
  | .hardKill =>
      if broker.hardKillEnabled = false then
        .error .actionDenied
      else if verdict.corroboratingEvidenceCount < broker.minimumCorroboratingEvidence then
        .error .actionDenied
      else if verdict.targetProcessId = 0 then
        .error .malformedMessage
      else
        .ok ()
  | .suspendAndAlert =>
      if verdict.targetProcessId = 0 then
        .error .malformedMessage
      else
        .ok ()
  | .alert => .ok ()

/-- The action executed for an authorized verdict. -/
def executeAction (verdict : Verdict) : EnforcedAction :=
  match verdict.requestedAction with
  | .hardKill => .processTerminated verdict.targetProcessId verdict.evidenceDigest
  | .suspendAndAlert => .processSuspended verdict.targetProcessId verdict.evidenceDigest
  | .alert => .alertLogged verdict.evidenceDigest

/-- Evaluates a verdict against the broker-side policy gates and executes enforcement. -/
def evaluateAndEnforce (broker : EnforcementBroker) (verdict : Verdict) (nowUnixMs : UInt64) :
    Outcome DispatchError EnforcedAction × EnforcementBroker :=
  if verdict.protocolVersion.major ≠ 1 then
    (.err .versionMismatch, broker)
  else if verdict.flags ≠ 0 then
    (.err .malformedMessage, broker)
  else if nowUnixMs > verdict.expiresAtUnixMs then
    (.err .expired, broker)
  else
    let broker := broker.purgeExpiredReplayCache nowUnixMs
    if verdict.requestId ∈ broker.replayCache then
      (.err .replayDetected, broker)
    else if verdict.policyGeneration ≠ broker.activePolicyGeneration then
      (.err .actionDenied, broker)
    else if broker.isModelDegraded = true ∨
        verdict.modelBundleSha256 ≠ broker.trustedModelSha256 then
      (.err .actionDenied, broker)
    else
      match broker.authorizeAction verdict with
      | .error error => (.err error, broker)
      | .ok () =>
          -- the sum wraps: an expiry in the last minute of the `u64` range gets a deadline near zero
          let retainUntil := verdict.expiresAtUnixMs + 60000
          (.ok (executeAction verdict),
            { broker with replayCache := broker.replayCache.insert verdict.requestId retainUntil })

end EnforcementBroker

end KavachNpu

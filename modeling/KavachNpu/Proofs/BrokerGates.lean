/-
Module: KavachNpu.Proofs.BrokerGates
Layer: Proofs
Purpose: What one call does to a broker, and what follows for whole runs. `evaluateAndEnforce_cases` and
  `call_cases` say everything a call can do, once; every later result about the broker is derived from
  them and never unfolds the gates again. The values a broker is built with never change, so acceptance
  in any reached state is decided by them, by the verdict, and by the purged replay cache.
Trusted boundary: none
Main exports: EnforcementBroker.Authorized, EnforcementBroker.evaluateAndEnforce_cases,
  EnforcementBroker.call_cases, EnforcementBroker.evaluateAndEnforce_authorization
-/
import Mathlib.Tactic.MkIffOfInductiveProp
import KavachNpu.Sensors.PipeBroker
import KavachNpu.Proofs.VerdictCodec
import KavachNpu.Foundation.Trace

namespace KavachNpu

namespace EnforcementBroker

section Purge

variable (broker : EnforcementBroker) (now : UInt64)

@[simp] theorem purge_activePolicyGeneration :
    (broker.purgeExpiredReplayCache now).activePolicyGeneration = broker.activePolicyGeneration := rfl

@[simp] theorem purge_isModelDegraded :
    (broker.purgeExpiredReplayCache now).isModelDegraded = broker.isModelDegraded := rfl

@[simp] theorem purge_trustedModelSha256 :
    (broker.purgeExpiredReplayCache now).trustedModelSha256 = broker.trustedModelSha256 := rfl

@[simp] theorem purge_authorizeAction (v : Verdict) :
    (broker.purgeExpiredReplayCache now).authorizeAction v = broker.authorizeAction v := rfl

/-- A purge keeps exactly the entries whose deadline has not passed. -/
theorem lookup_purge (id : Bytes 16) :
    (broker.purgeExpiredReplayCache now).replayCache.lookup id =
      (broker.replayCache.lookup id).filter fun deadline => decide (now ≤ deadline) :=
  HashMap.lookup_retain _ _ _

end Purge

/-- The conjunction of the broker's gates, on the state before the call. -/
@[mk_iff] structure Authorized (broker : EnforcementBroker) (v : Verdict) (now : UInt64) : Prop where
  major : v.protocolVersion.major = 1
  flags : v.flags = 0
  live : now ≤ v.expiresAtUnixMs
  fresh : v.requestId ∉ (broker.purgeExpiredReplayCache now).replayCache
  policy : v.policyGeneration = broker.activePolicyGeneration
  healthy : broker.isModelDegraded = false
  bundle : v.modelBundleSha256 = broker.trustedModelSha256
  target : v.requestedAction ≠ .alert → v.targetProcessId ≠ 0
  hardKill : v.requestedAction = .hardKill →
    broker.hardKillEnabled = true ∧
      broker.minimumCorroboratingEvidence ≤ v.corroboratingEvidenceCount

/-- The state an accepted verdict leaves behind. -/
def remember (broker : EnforcementBroker) (v : Verdict) (now : UInt64) : EnforcementBroker :=
  let purged := broker.purgeExpiredReplayCache now
  { purged with replayCache := purged.replayCache.insert v.requestId (v.expiresAtUnixMs + 60000) }

/-- Gate 7 lets through the actions the policy admits. -/
theorem authorizeAction_eq_ok {broker : EnforcementBroker} {v : Verdict} :
    broker.authorizeAction v = .ok () ↔
      (v.requestedAction ≠ .alert → v.targetProcessId ≠ 0) ∧
      (v.requestedAction = .hardKill →
        broker.hardKillEnabled = true ∧
          broker.minimumCorroboratingEvidence ≤ v.corroboratingEvidenceCount) := by
  unfold authorizeAction
  cases action : v.requestedAction with
  | alert => simp
  | suspendAndAlert =>
      by_cases zero : v.targetProcessId = 0 <;> simp [zero]
  | hardKill =>
      by_cases enabled : broker.hardKillEnabled = true
      · by_cases evidence : v.corroboratingEvidenceCount < broker.minimumCorroboratingEvidence
        · simp [enabled, evidence]
        · by_cases zero : v.targetProcessId = 0 <;> simp [enabled, evidence, zero]
          exact UInt8.not_lt.mp evidence
      · simp [enabled]

/-- Gate 7 never reports a replay. -/
theorem authorizeAction_ne_replayDetected (broker : EnforcementBroker) (v : Verdict) :
    broker.authorizeAction v ≠ .error .replayDetected := by
  unfold authorizeAction
  intro refused
  split at refused
  · split at refused
    · cases refused
    · split at refused
      · cases refused
      · split at refused <;> cases refused
  · split at refused <;> cases refused
  · cases refused

/-- Everything one evaluation can do. An authorized verdict is executed and remembered; any other is
    refused, with the cache either untouched or purged at the reading. `ReplayDetected` is reported
    exactly for a live nonce of a well-formed, unexpired verdict. -/
theorem evaluateAndEnforce_cases (broker : EnforcementBroker) (v : Verdict) (now : UInt64) :
    (broker.Authorized v now ∧
      broker.evaluateAndEnforce v now = (.ok (executeAction v), broker.remember v now)) ∨
    (¬ broker.Authorized v now ∧ ∃ error,
      (broker.evaluateAndEnforce v now = (.err error, broker) ∨
        broker.evaluateAndEnforce v now = (.err error, broker.purgeExpiredReplayCache now)) ∧
      (error = .replayDetected ↔
        v.protocolVersion.major = 1 ∧ v.flags = 0 ∧ now ≤ v.expiresAtUnixMs ∧
          v.requestId ∈ (broker.purgeExpiredReplayCache now).replayCache)) := by
  by_cases major : v.protocolVersion.major = 1
  case neg =>
    refine .inr ⟨fun authorized => major authorized.major, .versionMismatch, .inl ?_, ?_⟩
    · simp [evaluateAndEnforce, major]
    · simp [major]
  by_cases flags : v.flags = 0
  case neg =>
    refine .inr ⟨fun authorized => flags authorized.flags, .malformedMessage, .inl ?_, ?_⟩
    · simp [evaluateAndEnforce, major, flags]
    · simp [flags]
  by_cases live : now ≤ v.expiresAtUnixMs
  case neg =>
    refine .inr ⟨fun authorized => live authorized.live, .expired, .inl ?_, ?_⟩
    · simp [evaluateAndEnforce, major, flags, UInt64.not_le.mp live]
    · simp [live]
  -- the first three gates passed: the cache is purged before any later gate can refuse
  have notExpired : ¬ now > v.expiresAtUnixMs := UInt64.not_lt.mpr live
  by_cases fresh : v.requestId ∉ (broker.purgeExpiredReplayCache now).replayCache
  case neg =>
    refine .inr ⟨fun authorized => fresh authorized.fresh, .replayDetected, .inr ?_, ?_⟩
    · simp [evaluateAndEnforce, major, flags, notExpired, not_not.mp fresh]
    · simpa [major, flags, live] using fresh
  by_cases policy : v.policyGeneration = broker.activePolicyGeneration
  case neg =>
    refine .inr ⟨fun authorized => policy authorized.policy, .actionDenied, .inr ?_, ?_⟩
    · simp [evaluateAndEnforce, major, flags, notExpired, fresh, policy]
    · simp [fresh]
  by_cases trusted : broker.isModelDegraded = false ∧ v.modelBundleSha256 = broker.trustedModelSha256
  case neg =>
    refine .inr ⟨fun authorized => trusted ⟨authorized.healthy, authorized.bundle⟩, .actionDenied,
      .inr ?_, ?_⟩
    · have denied : broker.isModelDegraded = true ∨
          v.modelBundleSha256 ≠ broker.trustedModelSha256 := by
        rcases not_and_or.mp trusted with degraded | digest
        · exact .inl (by simpa using degraded)
        · exact .inr digest
      simp [evaluateAndEnforce, major, flags, notExpired, fresh, policy, denied]
    · simp [fresh]
  have notDenied : ¬ (broker.isModelDegraded = true ∨
      v.modelBundleSha256 ≠ broker.trustedModelSha256) := by
    rintro (degraded | digest)
    · rw [trusted.1] at degraded
      cases degraded
    · exact digest trusted.2
  cases action : broker.authorizeAction v with
  | error error =>
      refine .inr ⟨?_, error, .inr ?_, ?_⟩
      · intro authorized
        have admitted := authorizeAction_eq_ok.mpr ⟨authorized.target, authorized.hardKill⟩
        rw [action] at admitted
        cases admitted
      · simp [evaluateAndEnforce, major, flags, notExpired, fresh, policy, notDenied, action]
      · have notReplay : error ≠ .replayDetected := by
          intro replay
          exact authorizeAction_ne_replayDetected broker v (replay ▸ action)
        simp [fresh, notReplay]
  | ok =>
      refine .inl ⟨?_, ?_⟩
      · obtain ⟨target, hardKill⟩ := authorizeAction_eq_ok.mp action
        exact
          { major := major, flags := flags, live := live, fresh := fresh, policy := policy
            healthy := trusted.1, bundle := trusted.2, target := target, hardKill := hardKill }
      · simp [evaluateAndEnforce, major, flags, notExpired, fresh, policy, notDenied, action, remember]

/-- An evaluation succeeds exactly on the authorized verdicts. -/
theorem evaluateAndEnforce_isOk_iff {broker : EnforcementBroker} {v : Verdict} {now : UInt64} :
    (broker.evaluateAndEnforce v now).1.isOk = true ↔ broker.Authorized v now := by
  rcases evaluateAndEnforce_cases broker v now with ⟨authorized, accepted⟩ | ⟨refused, error, result, _⟩
  · simp [accepted, authorized]
  · rcases result with result | result <;> simp [result, refused]

/-- A frame is evaluated as the verdict it decodes to, and refused without effect otherwise. -/
theorem handleFrame_cases (broker : EnforcementBroker) (bytes : List UInt8) (now : UInt64) :
    (∃ v, Verdict.fromSlice bytes = .ok v ∧
      PipeBrokerServer.handleFrame broker bytes now =
        ((broker.evaluateAndEnforce v now).1.map fun _ => (), (broker.evaluateAndEnforce v now).2)) ∨
    (∃ error, Verdict.fromSlice bytes = .err error ∧
      PipeBrokerServer.handleFrame broker bytes now =
        (.err (DispatchError.fromWireError error), broker)) := by
  cases decoded : Verdict.fromSlice bytes with
  | ok v => exact .inl ⟨v, rfl, by simp [PipeBrokerServer.handleFrame, decoded]⟩
  | err error => exact .inr ⟨error, rfl, by simp [PipeBrokerServer.handleFrame, decoded]⟩
  | panicked cause => exact absurd decoded (Verdict.fromSlice_returns bytes cause)

/-- Evaluation, as the two things it can do to the cache. -/
theorem evaluateAndEnforce_effect (broker : EnforcementBroker) (v : Verdict) (now : UInt64) :
    (broker.Authorized v now ∧ (broker.evaluateAndEnforce v now).1.isOk = true ∧
      (broker.evaluateAndEnforce v now).2 = broker.remember v now) ∨
    (¬ broker.Authorized v now ∧ (broker.evaluateAndEnforce v now).1.isErr = true ∧
      ((broker.evaluateAndEnforce v now).2 = broker ∨
        (broker.evaluateAndEnforce v now).2 = broker.purgeExpiredReplayCache now)) := by
  rcases evaluateAndEnforce_cases broker v now with ⟨authorized, accepted⟩ | ⟨refused, error, result, _⟩
  · exact .inl ⟨authorized, by rw [accepted]; rfl, by rw [accepted]⟩
  · rcases result with result | result
    · exact .inr ⟨refused, by rw [result]; rfl, .inl (by rw [result])⟩
    · exact .inr ⟨refused, by rw [result]; rfl, .inr (by rw [result])⟩

/-- A call that submits a verdict answers, and leaves the broker, as the evaluation of that verdict
    does. -/
theorem call_of_verdict {broker : EnforcementBroker} {c : BrokerCall} {v : Verdict}
    (submits : c.verdict? = some v) :
    (broker.call c).1.accepted = (broker.evaluateAndEnforce v c.now).1.isOk ∧
      (broker.call c).1.rejected = (broker.evaluateAndEnforce v c.now).1.isErr ∧
      (broker.call c).1.error? = (broker.evaluateAndEnforce v c.now).1.err? ∧
      (broker.call c).2 = (broker.evaluateAndEnforce v c.now).2 := by
  cases c with
  | evaluate w now =>
      cases submits
      exact ⟨rfl, rfl, rfl, rfl⟩
  | frame bytes now =>
      rcases handleFrame_cases broker bytes now with ⟨w, decoded, same⟩ | ⟨error, refused, _⟩
      · simp only [BrokerCall.verdict?, decoded] at submits
        cases submits
        simp [call, same, BrokerCall.now, BrokerReply.accepted, BrokerReply.rejected,
          BrokerReply.error?]
      · simp only [BrokerCall.verdict?, refused] at submits
        cases submits
  | purge now => cases submits
  | editRules edit now => cases submits

/-- Decoding errors are never reported as replays. -/
theorem fromWireError_ne_replayDetected (error : WireError) :
    DispatchError.fromWireError error ≠ .replayDetected := by
  cases error <;> intro same <;> cases same

/-- A call that submits no verdict is a frame refused by the decoder, a purge, or an edit of the rules. -/
theorem call_of_no_verdict {broker : EnforcementBroker} {c : BrokerCall}
    (nothing : c.verdict? = none) :
    (∃ error, error ≠ .replayDetected ∧ broker.call c = (.handled (.err error), broker)) ∨
    ((broker.call c).1 = .done ∧
      ((broker.call c).2 = broker.purgeExpiredReplayCache c.now ∨
        ∃ registry, (broker.call c).2 = { broker with ruleRegistry := registry })) := by
  cases c with
  | evaluate v now => cases nothing
  | frame bytes now =>
      rcases handleFrame_cases broker bytes now with ⟨v, decoded, _⟩ | ⟨error, _, refused⟩
      · simp only [BrokerCall.verdict?, decoded] at nothing
        cases nothing
      · refine .inl ⟨DispatchError.fromWireError error, fromWireError_ne_replayDetected error, ?_⟩
        simp [call, refused]
  | purge now => exact .inr ⟨rfl, .inl rfl⟩
  | editRules edit now => exact .inr ⟨rfl, .inr ⟨edit broker.ruleRegistry, rfl⟩⟩

/-- Everything one call can do. An accepted call submits an authorized verdict and remembers it; a
    rejected one leaves the broker as it was or purged at the call's reading; a purge purges; an edit
    changes nothing but the rule registry. -/
theorem call_cases (broker : EnforcementBroker) (c : BrokerCall) :
    (∃ v, c.verdict? = some v ∧ broker.Authorized v c.now ∧ (broker.call c).1.accepted = true ∧
      (broker.call c).1.rejected = false ∧ (broker.call c).2 = broker.remember v c.now) ∨
    ((∀ v, c.verdict? = some v → ¬ broker.Authorized v c.now) ∧ (broker.call c).1.accepted = false ∧
      (broker.call c).1.rejected = true ∧
      ((broker.call c).2 = broker ∨ (broker.call c).2 = broker.purgeExpiredReplayCache c.now)) ∨
    (c.verdict? = none ∧ (broker.call c).1 = .done ∧
      ((broker.call c).2 = broker.purgeExpiredReplayCache c.now ∨
        ∃ registry, (broker.call c).2 = { broker with ruleRegistry := registry })) := by
  cases submits : c.verdict? with
  | some v =>
      obtain ⟨accepts, rejects, _, next⟩ := call_of_verdict submits
      rw [accepts, rejects, next]
      rcases evaluateAndEnforce_effect broker v c.now with
        ⟨authorized, accepted, state⟩ | ⟨refused, rejected, state⟩
      · exact .inl ⟨v, rfl, authorized, accepted, Outcome.isErr_of_isOk accepted, state⟩
      · refine .inr (.inl ⟨?_, Outcome.isOk_of_isErr rejected, rejected, state⟩)
        intro submitted same
        cases same
        exact refused
  | none =>
      rcases call_of_no_verdict submits with ⟨error, _, refused⟩ | ⟨reply, state⟩
      · rw [refused]
        refine .inr (.inl ⟨?_, rfl, rfl, .inl rfl⟩)
        intro v submitted
        cases submitted
      · exact .inr (.inr ⟨rfl, reply, state⟩)

/-- An accepted call had its verdict authorized, and remembers it. -/
theorem authorized_of_accepted {broker : EnforcementBroker} {c : BrokerCall} {v : Verdict}
    (submits : c.verdict? = some v) (accepted : (broker.call c).1.accepted = true) :
    broker.Authorized v c.now ∧ (broker.call c).2 = broker.remember v c.now := by
  rcases call_cases broker c with ⟨w, submitted, authorized, _, _, state⟩ | ⟨_, refused, _⟩ |
    ⟨nothing, _⟩
  · rw [submits] at submitted
    cases submitted
    exact ⟨authorized, state⟩
  · rw [accepted] at refused
    cases refused
  · rw [submits] at nothing
    cases nothing

/-- A call that submits an authorized verdict is accepted. -/
theorem accepted_of_authorized {broker : EnforcementBroker} {c : BrokerCall} {v : Verdict}
    (submits : c.verdict? = some v) (authorized : broker.Authorized v c.now) :
    (broker.call c).1.accepted = true := by
  rcases call_cases broker c with ⟨_, _, _, accepted, _⟩ | ⟨refused, _⟩ | ⟨nothing, _⟩
  · exact accepted
  · exact absurd authorized (refused v submits)
  · rw [submits] at nothing
    cases nothing

/-- The frame of a valid verdict submits that verdict. -/
theorem verdict?_frame_toWire {v : Verdict} (valid : v.Valid) (now : UInt64) :
    (BrokerCall.frame v.toWire.toList now).verdict? = some v := by
  have decoded := Verdict.fromSlice_eq_ok.mpr ⟨valid, rfl⟩
  simp [BrokerCall.verdict?, decoded]

/-! ### Whole runs -/

/-- The readings of a run never go back. -/
def Chronological (calls : List BrokerCall) : Prop :=
  calls.Pairwise fun earlier later => earlier.now ≤ later.now

/-- The five values a broker is built with. No call changes them. -/
def config (broker : EnforcementBroker) : UInt64 × Bool × UInt8 × Bytes 32 × Bool :=
  (broker.activePolicyGeneration, broker.hardKillEnabled, broker.minimumCorroboratingEvidence,
    broker.trustedModelSha256, broker.isModelDegraded)

theorem call_config (broker : EnforcementBroker) (c : BrokerCall) :
    (broker.call c).2.config = broker.config := by
  rcases call_cases broker c with ⟨v, _, _, _, _, state⟩ | ⟨_, _, _, state | state⟩ |
    ⟨_, _, state | ⟨registry, state⟩⟩
  all_goals
    rw [state]
  all_goals rfl

theorem final_config (broker : EnforcementBroker) (calls : List BrokerCall) :
    (final call broker calls).config = broker.config := by
  refine final_induction (fun reached : EnforcementBroker => reached.config = broker.config) ?_ calls rfl
  intro b c same
  exact (call_config b c).trans same

/-- A degraded broker accepts nothing and remembers nothing. -/
def Inert (broker : EnforcementBroker) : Prop :=
  broker.isModelDegraded = true ∧ broker.replayCache = ∅

theorem not_accepted_of_degraded {broker : EnforcementBroker} (degraded : broker.isModelDegraded = true)
    (c : BrokerCall) : (broker.call c).1.accepted = false := by
  rcases call_cases broker c with ⟨v, _, authorized, _⟩ | ⟨_, accepted, _⟩ | ⟨_, reply, _⟩
  · rw [authorized.healthy] at degraded
    cases degraded
  · exact accepted
  · rw [reply]
    rfl

theorem call_inert {broker : EnforcementBroker} (inert : broker.Inert) (c : BrokerCall) :
    (broker.call c).2.Inert := by
  obtain ⟨degraded, empty⟩ := inert
  have purged : (broker.purgeExpiredReplayCache c.now).replayCache = ∅ := by
    simp [purgeExpiredReplayCache, empty]
  rcases call_cases broker c with ⟨v, _, authorized, _⟩ | ⟨_, _, _, state | state⟩ |
    ⟨_, _, state | ⟨registry, state⟩⟩
  · rw [authorized.healthy] at degraded
    cases degraded
  all_goals
    rw [state]
    first
      | exact ⟨degraded, empty⟩
      | exact ⟨degraded, purged⟩

end EnforcementBroker

/-- The action an outcome stands for. -/
def EnforcedAction.kind : EnforcedAction → EnforcementAction
  | .processSuspended _ _ => .suspendAndAlert
  | .processTerminated _ _ => .hardKill
  | .alertLogged _ => .alert

/-- The process an outcome acted on; an alert acts on none. -/
def EnforcedAction.pid? : EnforcedAction → Option UInt32
  | .processSuspended pid _ | .processTerminated pid _ => some pid
  | .alertLogged _ => none

/-- The evidence an outcome carries. -/
def EnforcedAction.evidence : EnforcedAction → Bytes 32
  | .processSuspended _ digest | .processTerminated _ digest | .alertLogged digest => digest

namespace EnforcementBroker

/-- The executed action is the requested one, on the verdict's own process and evidence. -/
theorem executeAction_spec (v : Verdict) :
    (executeAction v).kind = v.requestedAction ∧ (executeAction v).evidence = v.evidenceDigest ∧
      (v.requestedAction ≠ .alert → (executeAction v).pid? = some v.targetProcessId) := by
  unfold executeAction
  cases v.requestedAction <;> simp [EnforcedAction.kind, EnforcedAction.evidence, EnforcedAction.pid?]

/-- In every state a run can reach, a verdict is enforced exactly when it passes every gate for the
    values the broker was built with, and the outcome is the requested one. A broker built degraded
    accepts nothing during the run and its replay cache stays empty. -/
theorem evaluateAndEnforce_authorization (generation : UInt64) (hardKill : Bool) (minimum : UInt8)
    (digest : Bytes 32) (degraded : Bool) (calls : List BrokerCall) :
    (∀ (v : Verdict) (now : UInt64),
      let broker := final call (new generation hardKill minimum digest degraded) calls
      ((∃ action, (broker.evaluateAndEnforce v now).1 = .ok action) ↔
        v.protocolVersion.major = 1 ∧ v.flags = 0 ∧ now ≤ v.expiresAtUnixMs ∧
        v.requestId ∉ (broker.purgeExpiredReplayCache now).replayCache ∧
        v.policyGeneration = generation ∧ degraded = false ∧ v.modelBundleSha256 = digest ∧
        (v.requestedAction ≠ .alert → v.targetProcessId ≠ 0) ∧
        (v.requestedAction = .hardKill →
          hardKill = true ∧ minimum ≤ v.corroboratingEvidenceCount)) ∧
      (∀ action, (broker.evaluateAndEnforce v now).1 = .ok action →
        action.kind = v.requestedAction ∧ action.evidence = v.evidenceDigest ∧
        (v.requestedAction ≠ .alert → action.pid? = some v.targetProcessId))) ∧
    (degraded = true →
      (∀ entry ∈ trace call (new generation hardKill minimum digest degraded) calls,
        entry.2.accepted = false) ∧
      (final call (new generation hardKill minimum digest degraded) calls).replayCache = ∅) := by
  refine ⟨?_, ?_⟩
  · intro v now broker
    have built : broker.config = (generation, hardKill, minimum, digest, degraded) :=
      final_config (new generation hardKill minimum digest degraded) calls
    simp only [config, Prod.mk.injEq] at built
    obtain ⟨hgeneration, hhardKill, hminimum, hdigest, hdegraded⟩ := built
    refine ⟨?_, ?_⟩
    · rw [← Outcome.isOk_iff, evaluateAndEnforce_isOk_iff, authorized_iff, hgeneration, hhardKill,
        hminimum, hdigest, hdegraded]
    · intro action accepted
      rcases evaluateAndEnforce_cases broker v now with ⟨_, executed⟩ | ⟨_, error, refused, _⟩
      · rw [executed] at accepted
        cases accepted
        exact executeAction_spec v
      · rcases refused with refused | refused
        all_goals
          rw [refused] at accepted
          cases accepted
  · intro isDegraded
    have start : (new generation hardKill minimum digest degraded).Inert := ⟨isDegraded, rfl⟩
    refine ⟨?_, ?_⟩
    · exact trace_induction Inert (fun _ reply => reply.accepted = false)
        (fun _ c inert => call_inert inert c)
        (fun _ c inert => not_accepted_of_degraded inert.1 c) start
    · exact (final_induction Inert (fun _ c inert => call_inert inert c) calls start).2

/-! ### A concrete broker and its verdicts -/

/-- A healthy alert-and-suspend broker at policy generation 7. -/
def sampleBroker : EnforcementBroker :=
  new 7 false 3 (Bytes.replicate 32 0x78) false

/-- A suspension request addressed to `sampleBroker`, with the given timestamps. -/
def sampleVerdict (issuedAt expiresAt : UInt64) : Verdict :=
  { protocolVersion := { major := 1, minor := 0 }
    requestId := Bytes.replicate 16 0x42
    issuedAtUnixMs := issuedAt
    expiresAtUnixMs := expiresAt
    detectorInstanceId := Bytes.replicate 16 0x34
    requestedAction := .suspendAndAlert
    evidenceDigest := Bytes.replicate 32 0x56
    modelBundleSha256 := Bytes.replicate 32 0x78
    policyGeneration := 7
    targetProcessId := 100
    targetProcessStartFiletime := 12345
    corroboratingEvidenceCount := 3
    flags := 0 }

/-- The fresh sample broker enforces the sample verdict until it expires. -/
theorem sampleBroker_authorized {issuedAt expiresAt now : UInt64} (live : now ≤ expiresAt) :
    sampleBroker.Authorized (sampleVerdict issuedAt expiresAt) now := by
  refine ⟨rfl, rfl, live, ?_, rfl, rfl, rfl, ?_, ?_⟩
  · have empty : (sampleBroker.purgeExpiredReplayCache now).replayCache = ∅ := by
      simp [purgeExpiredReplayCache, sampleBroker, new]
    rw [empty]
    exact Finmap.notMem_empty
  · intro _ zero
    cases zero
  · intro hardKill
    cases hardKill

end EnforcementBroker

end KavachNpu

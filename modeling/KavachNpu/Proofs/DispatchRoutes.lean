/-
Module: KavachNpu.Proofs.DispatchRoutes
Layer: Proofs
Purpose: The two routes to the broker compared, and one frame compared across brokers. The order of the
  timestamps and the thirty-second window are checked by the decoder only, so the in-memory route agrees
  with the pipe route exactly on the verdicts whose window is well formed and on those the gates refuse
  anyway. No gate reads the issue time, so the window bounds how late a frame is enforceable but not
  how early.
Trusted boundary: none
Main exports: Verdict.Windowed, PipeVerdictDispatcher.routesAgree_iff,
  PipeBrokerServer.handleFrame_enforceable_window
-/
import KavachNpu.Proofs.BrokerGates

namespace KavachNpu

/-- The timestamps are in order and at most thirty seconds apart, over the integers. -/
def Verdict.Windowed (v : Verdict) : Prop :=
  v.issuedAtUnixMs.toNat ≤ v.expiresAtUnixMs.toNat ∧
    v.expiresAtUnixMs.toNat ≤ v.issuedAtUnixMs.toNat + 30000

namespace EnforcementBroker

/-- Of the decoder's checks, the gates imply all but the two on the window. -/
theorem Authorized.valid_iff {broker : EnforcementBroker} {v : Verdict} {now : UInt64}
    (authorized : broker.Authorized v now) : v.Valid ↔ v.Windowed := by
  refine ⟨fun valid => ⟨valid.ordered, valid.bounded⟩, ?_⟩
  intro windowed
  exact
    { major := authorized.major, ordered := windowed.1, bounded := windowed.2
      flags := authorized.flags, target := authorized.target }

/-- The in-memory route accepts the authorized verdicts. -/
theorem dispatchInMemory_isOk_iff {broker : EnforcementBroker} {v : Verdict} {now : UInt64} :
    (PipeVerdictDispatcher.dispatchInMemory broker v now).1.isOk = true ↔ broker.Authorized v now := by
  simp only [PipeVerdictDispatcher.dispatchInMemory, Outcome.isOk_map]
  exact evaluateAndEnforce_isOk_iff

/-- The pipe route accepts the frames that decode to an authorized verdict. -/
theorem handleFrame_isOk_iff {broker : EnforcementBroker} {bytes : List UInt8} {now : UInt64} :
    (PipeBrokerServer.handleFrame broker bytes now).1.isOk = true ↔
      ∃ v, Verdict.fromSlice bytes = .ok v ∧ broker.Authorized v now := by
  rcases handleFrame_cases broker bytes now with ⟨v, decoded, result⟩ | ⟨error, refused, result⟩
  · rw [result, Outcome.isOk_map, evaluateAndEnforce_isOk_iff]
    refine ⟨fun authorized => ⟨v, decoded, authorized⟩, ?_⟩
    rintro ⟨w, redecoded, authorized⟩
    rw [decoded] at redecoded
    cases redecoded
    exact authorized
  · rw [result]
    constructor
    · intro accepted
      cases accepted
    · rintro ⟨w, decoded, _⟩
      rw [refused] at decoded
      cases decoded

/-- On the frame of a verdict, the pipe route also asks for the verdict to be valid. -/
theorem handleFrame_toWire_isOk_iff {broker : EnforcementBroker} {v : Verdict} {now : UInt64} :
    (PipeBrokerServer.handleFrame broker v.toWire.toList now).1.isOk = true ↔
      v.Windowed ∧ broker.Authorized v now := by
  rw [handleFrame_isOk_iff]
  constructor
  · rintro ⟨w, decoded, authorized⟩
    obtain ⟨valid, encoded⟩ := Verdict.fromSlice_eq_ok.mp decoded
    have same : w = v := Verdict.toWire_injective encoded
    subst same
    exact ⟨authorized.valid_iff.mp valid, authorized⟩
  · rintro ⟨windowed, authorized⟩
    exact ⟨v, Verdict.fromSlice_eq_ok.mpr ⟨authorized.valid_iff.mpr windowed, rfl⟩, authorized⟩

end EnforcementBroker

/-- The states of a broker built by `new`, after any calls. -/
def EnforcementBroker.Reachable (broker : EnforcementBroker) : Prop :=
  ∃ generation hardKill minimum digest degraded calls,
    broker = final EnforcementBroker.call
      (EnforcementBroker.new generation hardKill minimum digest degraded) calls

open EnforcementBroker

namespace PipeVerdictDispatcher

/-- On one broker state, the two routes make the same decision, and when both accept they leave the same
    replay cache. -/
def RoutesAgree (broker : EnforcementBroker) (v : Verdict) (now : UInt64) : Prop :=
  let inMemory := dispatchInMemory broker v now
  let pipe := PipeBrokerServer.handleFrame broker v.toWire.toList now
  (inMemory.1.isOk = true ↔ pipe.1.isOk = true) ∧
    (inMemory.1.isOk = true → pipe.1.isOk = true → inMemory.2.replayCache = pipe.2.replayCache)

/-- When both routes accept a verdict, they end in the same state. -/
theorem dispatchInMemory_state {broker : EnforcementBroker} {v : Verdict} {now : UInt64}
    (accepted : (PipeBrokerServer.handleFrame broker v.toWire.toList now).1.isOk = true) :
    (dispatchInMemory broker v now).2 =
      (PipeBrokerServer.handleFrame broker v.toWire.toList now).2 := by
  obtain ⟨windowed, authorized⟩ := handleFrame_toWire_isOk_iff.mp accepted
  have decoded := Verdict.fromSlice_eq_ok.mpr ⟨authorized.valid_iff.mpr windowed, rfl⟩
  simp [dispatchInMemory, PipeBrokerServer.handleFrame, decoded]

/-- The routes agree on a verdict exactly when its window is well formed or one of the broker's gates
    refuses it. -/
theorem routesAgree_iff (broker : EnforcementBroker) (v : Verdict) (now : UInt64) :
    RoutesAgree broker v now ↔ v.Windowed ∨ ¬ broker.Authorized v now := by
  unfold RoutesAgree
  simp only [dispatchInMemory_isOk_iff, handleFrame_toWire_isOk_iff]
  constructor
  · rintro ⟨agree, _⟩
    by_cases authorized : broker.Authorized v now
    · exact .inl (agree.mp authorized).1
    · exact .inr authorized
  · intro condition
    refine ⟨?_, ?_⟩
    · rcases condition with windowed | refused
      · exact ⟨fun authorized => ⟨windowed, authorized⟩, fun accepted => accepted.2⟩
      · exact ⟨fun authorized => absurd authorized refused, fun accepted => accepted.2⟩
    · intro _ accepted
      rw [dispatchInMemory_state (handleFrame_toWire_isOk_iff.mpr accepted)]

/-- A verdict with a window of one hour is enforced in memory and refused on the pipe. -/
theorem hour_window_routes_disagree :
    ¬ RoutesAgree sampleBroker (sampleVerdict 1700000000000 1700003600000) 1700000000000 := by
  rw [RoutesAgree, dispatchInMemory_isOk_iff, handleFrame_toWire_isOk_iff]
  rintro ⟨agree, _⟩
  obtain ⟨⟨_, bounded⟩, _⟩ := agree.mp (sampleBroker_authorized (by decide))
  exact absurd bounded (by decide)

end PipeVerdictDispatcher

namespace PipeBrokerServer

/-- The distance between two readings, over the integers. -/
def readingDistance (now₁ now₂ : UInt64) : Nat :=
  Int.natAbs ((now₁.toNat : Int) - now₂.toNat)

/-- One frame at two brokers, in any states. Both readings are at most the frame's expiry, which lies at
    most thirty seconds after its issue time. The readings are therefore at most thirty seconds apart,
    plus the time by which the earlier one precedes the issue time, which no gate compares with the
    clock. -/
theorem handleFrame_enforceable_window {first second : EnforcementBroker} {frame : List UInt8}
    {now₁ now₂ : UInt64} (accepted₁ : (handleFrame first frame now₁).1.isOk = true)
    (accepted₂ : (handleFrame second frame now₂).1.isOk = true) :
    ∃ v, Verdict.fromSlice frame = .ok v ∧
      now₁ ≤ v.expiresAtUnixMs ∧ now₂ ≤ v.expiresAtUnixMs ∧
      v.expiresAtUnixMs.toNat ≤ v.issuedAtUnixMs.toNat + 30000 ∧
      (v.issuedAtUnixMs ≤ now₁ → v.issuedAtUnixMs ≤ now₂ → readingDistance now₁ now₂ ≤ 30000) ∧
      readingDistance now₁ now₂ ≤
        30000 + (v.issuedAtUnixMs.toNat - min now₁.toNat now₂.toNat) := by
  obtain ⟨v, decoded, authorized₁⟩ := handleFrame_isOk_iff.mp accepted₁
  obtain ⟨w, redecoded, authorized₂⟩ := handleFrame_isOk_iff.mp accepted₂
  have same : v = w := by
    rw [decoded] at redecoded
    cases redecoded
    rfl
  subst same
  obtain ⟨valid, _⟩ := Verdict.fromSlice_eq_ok.mp decoded
  have live₁ := UInt64.le_iff_toNat_le.mp authorized₁.live
  have live₂ := UInt64.le_iff_toNat_le.mp authorized₂.live
  have bounded := valid.bounded
  have distance : readingDistance now₁ now₂ ≤
      30000 + (v.issuedAtUnixMs.toNat - min now₁.toNat now₂.toNat) := by
    unfold readingDistance
    omega
  refine ⟨v, decoded, authorized₁.live, authorized₂.live, bounded, ?_, distance⟩
  intro issued₁ issued₂
  have begun₁ := UInt64.le_iff_toNat_le.mp issued₁
  have begun₂ := UInt64.le_iff_toNat_le.mp issued₂
  have elapsed : v.issuedAtUnixMs.toNat - min now₁.toNat now₂.toNat = 0 := by omega
  rw [elapsed] at distance
  exact distance

/-- The frame of the sample verdict is accepted by fresh sample brokers until it expires. -/
theorem sampleBroker_accepts {issuedAt expiresAt now : UInt64}
    (windowed : (sampleVerdict issuedAt expiresAt).Windowed) (live : now ≤ expiresAt) :
    (handleFrame sampleBroker (sampleVerdict issuedAt expiresAt).toWire.toList now).1.isOk = true :=
  handleFrame_toWire_isOk_iff.mpr ⟨windowed, sampleBroker_authorized live⟩

/-- A ten-second frame enforced by two brokers, at the beginning and at the end of its window. -/
theorem ten_second_frame_window :
    ∃ v, Verdict.fromSlice (sampleVerdict 1700000000000 1700000010000).toWire.toList = .ok v ∧
      (1700000000000 : UInt64) ≤ v.expiresAtUnixMs ∧ (1700000010000 : UInt64) ≤ v.expiresAtUnixMs ∧
      v.expiresAtUnixMs.toNat ≤ v.issuedAtUnixMs.toNat + 30000 ∧
      (v.issuedAtUnixMs ≤ 1700000000000 → v.issuedAtUnixMs ≤ 1700000010000 →
        readingDistance 1700000000000 1700000010000 ≤ 30000) ∧
      readingDistance 1700000000000 1700000010000 ≤
        30000 + (v.issuedAtUnixMs.toNat -
          min (1700000000000 : UInt64).toNat (1700000010000 : UInt64).toNat) :=
  handleFrame_enforceable_window
    (sampleBroker_accepts ⟨by decide, by decide⟩ (by decide))
    (sampleBroker_accepts ⟨by decide, by decide⟩ (by decide))

/-- The readings at which one frame is enforceable are not within thirty seconds of each other: a frame
    issued an hour ahead of the clock is accepted at once, and again by a restarted broker at its
    expiry. -/
theorem early_frame_enforced_hours_apart :
    ¬ ∀ (first second : EnforcementBroker) (frame : List UInt8) (now₁ now₂ : UInt64),
        first.Reachable → second.Reachable →
        (handleFrame first frame now₁).1.isOk = true → (handleFrame second frame now₂).1.isOk = true →
        readingDistance now₁ now₂ ≤ 30000 := by
  intro bounded
  have reached : sampleBroker.Reachable := ⟨7, false, 3, Bytes.replicate 32 0x78, false, [], rfl⟩
  have tooClose := bounded sampleBroker sampleBroker
    (sampleVerdict 1700003600000 1700003610000).toWire.toList 1700000000000 1700003610000
    reached reached
    (sampleBroker_accepts ⟨by decide, by decide⟩ (by decide))
    (sampleBroker_accepts ⟨by decide, by decide⟩ (by decide))
  exact absurd tooClose (by decide)

end PipeBrokerServer

end KavachNpu

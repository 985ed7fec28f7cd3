/-
Module: KavachNpu.Proofs.ReplaySafety
Layer: Proofs
Purpose: How long an accepted nonce stays burnt. The broker stores `expires_at + 60_000` computed in
  `u64`, so a nonce is held for the documented retention exactly while that sum stays in range; past
  the bound the deadline wraps to the first minute of 1970 and the next call forgets the nonce.
Trusted boundary: none
Main exports: EnforcementBroker.held_blocks, EnforcementBroker.trace_noReplay,
  EnforcementBroker.handleFrame_replay_safety
-/
import KavachNpu.Proofs.BrokerGates

namespace KavachNpu

namespace EnforcementBroker

theorem lookup_purge_of_le {broker : EnforcementBroker} {id : Bytes 16} {now deadline : UInt64}
    (held : broker.replayCache.lookup id = some deadline) (unexpired : now ≤ deadline) :
    (broker.purgeExpiredReplayCache now).replayCache.lookup id = some deadline := by
  rw [lookup_purge, held]
  simp [unexpired]

/-- A held nonce refuses its verdicts until the deadline. -/
theorem not_authorized_of_held {broker : EnforcementBroker} {v : Verdict} {now deadline : UInt64}
    (held : broker.replayCache.lookup v.requestId = some deadline) (unexpired : now ≤ deadline) :
    ¬ broker.Authorized v now := by
  intro authorized
  exact authorized.fresh (Finmap.mem_of_lookup_eq_some (lookup_purge_of_le held unexpired))

theorem lookup_remember (broker : EnforcementBroker) (v : Verdict) (now : UInt64) :
    (broker.remember v now).replayCache.lookup v.requestId = some (v.expiresAtUnixMs + 60000) :=
  Finmap.lookup_insert _

/-- A call made before the deadline of a held nonce leaves the nonce held. -/
theorem call_holds {broker : EnforcementBroker} {id : Bytes 16} {deadline : UInt64} (c : BrokerCall)
    (held : broker.replayCache.lookup id = some deadline) (unexpired : c.now ≤ deadline) :
    (broker.call c).2.replayCache.lookup id = some deadline := by
  have purged := lookup_purge_of_le held unexpired
  rcases call_cases broker c with ⟨v, _, authorized, _, _, state⟩ | ⟨_, _, _, state | state⟩ |
    ⟨_, _, state | ⟨registry, state⟩⟩
  · have other : id ≠ v.requestId := by
      intro same
      subst same
      exact not_authorized_of_held held unexpired authorized
    rw [state]
    exact (Finmap.lookup_insert_of_ne _ other).trans purged
  · rw [state]
    exact held
  · rw [state]
    exact purged
  · rw [state]
    exact purged
  · rw [state]
    exact held

/-- While a nonce is held, a run accepts none of its verdicts before the deadline has passed. -/
theorem held_blocks {id : Bytes 16} {deadline : UInt64} {calls : List BrokerCall}
    {broker : EnforcementBroker} (ordered : Chronological calls)
    (held : broker.replayCache.lookup id = some deadline) {entry : BrokerCall × BrokerReply}
    (member : entry ∈ trace call broker calls) {v : Verdict} (submits : entry.1.verdict? = some v)
    (same : v.requestId = id) (accepted : entry.2.accepted = true) : deadline < entry.1.now := by
  induction calls generalizing broker with
  | nil => cases member
  | cons c rest ih =>
      obtain ⟨after, ordered⟩ := List.pairwise_cons.mp ordered
      by_cases passed : deadline < c.now
      · -- the deadline is behind the first reading, hence behind every reading of the run
        rcases List.mem_cons.mp member with rfl | later
        · exact passed
        · have reading := after entry.1 (mem_inputs_of_mem_trace later)
          exact UInt64.lt_of_lt_of_le passed reading
      · have unexpired := UInt64.not_lt.mp passed
        rcases List.mem_cons.mp member with rfl | later
        · subst same
          have authorized := (authorized_of_accepted submits accepted).1
          exact absurd authorized (not_authorized_of_held held unexpired)
        · exact ih ordered (call_holds c held unexpired) later

/-- The later call is not a replay of the earlier one: if both are accepted under one nonce, then the
    later reading is past the earlier verdict's expiry plus sixty seconds, over the integers. -/
def NoReplay (earlier later : BrokerCall × BrokerReply) : Prop :=
  ∀ v w, earlier.1.verdict? = some v → later.1.verdict? = some w →
    earlier.2.accepted = true → later.2.accepted = true → w.requestId = v.requestId →
      v.expiresAtUnixMs.toNat + 60000 < later.1.now.toNat

/-- The retention deadline of the verdict does not leave the `u64` range. -/
def Retainable (v : Verdict) : Prop :=
  v.expiresAtUnixMs.toNat + 60000 < UInt64.size

theorem toNat_retention {v : Verdict} (retainable : Retainable v) :
    (v.expiresAtUnixMs + 60000).toNat = v.expiresAtUnixMs.toNat + 60000 := by
  have sixty : (60000 : UInt64).toNat = 60000 := rfl
  rw [UInt64.toNat_add, sixty]
  exact Nat.mod_eq_of_lt retainable

/-- Runs whose verdicts are retainable contain no replay. -/
theorem trace_noReplay {calls : List BrokerCall} (broker : EnforcementBroker)
    (ordered : Chronological calls)
    (retainable : ∀ c ∈ calls, ∀ v, c.verdict? = some v → Retainable v) :
    (trace call broker calls).Pairwise NoReplay := by
  induction calls generalizing broker with
  | nil => exact List.Pairwise.nil
  | cons c rest ih =>
      obtain ⟨_, orderedRest⟩ := List.pairwise_cons.mp ordered
      apply List.pairwise_cons.mpr
      constructor
      · intro later member v w submits resubmits accepted reaccepted same
        have state := (authorized_of_accepted submits accepted).2
        have held : (broker.call c).2.replayCache.lookup v.requestId =
            some (v.expiresAtUnixMs + 60000) := by
          rw [state]
          exact lookup_remember broker v c.now
        have passed := held_blocks orderedRest held member resubmits same reaccepted
        rw [UInt64.lt_iff_toNat_lt,
          toNat_retention (retainable c List.mem_cons_self v submits)] at passed
        exact passed
      · apply ih _ orderedRest
        intro d member
        exact retainable d (List.mem_cons_of_mem c member)

/-- Past the bound the deadline wraps to the beginning of the range: the next call purges the entry, and
    the verdict is authorized again. -/
theorem authorized_again_of_wrapped {broker : EnforcementBroker} {v : Verdict} {now later : UInt64}
    (authorized : broker.Authorized v now) (wraps : ¬ Retainable v)
    (live : later ≤ v.expiresAtUnixMs)
    (wrapped : v.expiresAtUnixMs.toNat + 60000 - UInt64.size < later.toNat) :
    (broker.remember v now).Authorized v later := by
  have sixty : (60000 : UInt64).toNat = 60000 := rfl
  have size : UInt64.size = 18446744073709551616 := rfl
  have small := v.expiresAtUnixMs.toNat_lt
  have expired : v.expiresAtUnixMs + 60000 < later := by
    rw [UInt64.lt_iff_toNat_lt, UInt64.toNat_add, sixty]
    unfold Retainable at wraps
    omega
  have gone : v.requestId ∉ ((broker.remember v now).purgeExpiredReplayCache later).replayCache := by
    rw [← Finmap.lookup_eq_none, lookup_purge, lookup_remember]
    simp [expired]
  exact
    { major := authorized.major, flags := authorized.flags, live := live, fresh := gone
      policy := authorized.policy, healthy := authorized.healthy, bundle := authorized.bundle
      target := authorized.target, hardKill := authorized.hardKill }

/-- Two calls that submit one verdict under a wrapped deadline are both accepted, by any broker that
    accepts the first: the second is a replay. -/
theorem replay_of_wrapped {broker : EnforcementBroker} {v : Verdict} {c d : BrokerCall}
    (submits : c.verdict? = some v) (resubmits : d.verdict? = some v)
    (authorized : broker.Authorized v c.now) (wraps : ¬ Retainable v)
    (live : d.now ≤ v.expiresAtUnixMs)
    (wrapped : v.expiresAtUnixMs.toNat + 60000 - UInt64.size < d.now.toNat) :
    ¬ (trace call broker [c, d]).Pairwise NoReplay := by
  intro pairwise
  have accepted := accepted_of_authorized submits authorized
  have state := (authorized_of_accepted submits accepted).2
  have reaccepted : ((broker.call c).2.call d).1.accepted = true := by
    rw [state]
    exact accepted_of_authorized resubmits (authorized_again_of_wrapped authorized wraps live wrapped)
  obtain ⟨safe, _⟩ := List.pairwise_cons.mp pairwise
  have passed := safe (d, ((broker.call c).2.call d).1) List.mem_cons_self v v submits resubmits accepted
    reaccepted rfl
  have notYet := UInt64.le_iff_toNat_le.mp live
  dsimp only at passed
  omega

/-- Exactly when the broker is safe from replays. A chronological run whose verdicts all have their
    expiry more than sixty seconds before the end of the `u64` range contains no replay. Conversely,
    from any broker that accepts the frame of a verdict past that bound, submitting the frame again at
    a later live reading is a replay. -/
theorem handleFrame_replay_safety (generation : UInt64) (hardKill : Bool) (minimum : UInt8)
    (digest : Bytes 32) (degraded : Bool) :
    (∀ calls : List BrokerCall, Chronological calls →
      (∀ c ∈ calls, ∀ v, c.verdict? = some v → v.expiresAtUnixMs.toNat + 60000 < UInt64.size) →
      (trace call (new generation hardKill minimum digest degraded) calls).Pairwise NoReplay) ∧
    (∀ (calls : List BrokerCall) (v : Verdict) (now later : UInt64), v.Valid →
      (final call (new generation hardKill minimum digest degraded) calls).Authorized v now →
      UInt64.size ≤ v.expiresAtUnixMs.toNat + 60000 → later ≤ v.expiresAtUnixMs →
      v.expiresAtUnixMs.toNat + 60000 - UInt64.size < later.toNat →
      ¬ (trace call (final call (new generation hardKill minimum digest degraded) calls)
          [.frame v.toWire.toList now, .frame v.toWire.toList later]).Pairwise NoReplay) := by
  refine ⟨?_, ?_⟩
  · intro calls ordered retainable
    exact trace_noReplay _ ordered retainable
  · intro calls v now later valid authorized wraps live wrapped
    exact replay_of_wrapped (verdict?_frame_toWire valid now) (verdict?_frame_toWire valid later)
      authorized (Nat.not_lt.mpr wraps) live wrapped

/-- A verdict dated to the end of the `u64` range, with a ten-second window. -/
def farFutureVerdict : Verdict :=
  sampleVerdict 18446744073709541615 18446744073709551615

theorem farFutureVerdict_valid : farFutureVerdict.Valid := by
  refine ⟨rfl, ?_, ?_, rfl, ?_⟩ <;> decide

/-- Replay safety fails for runs of frames in general. The frame of `farFutureVerdict`, submitted at an
    ordinary reading, is accepted again one millisecond later, because its retention deadline has
    wrapped to 59,999 ms. -/
theorem farFuture_frame_replayed :
    ¬ ∀ (generation : UInt64) (hardKill : Bool) (minimum : UInt8) (digest : Bytes 32)
        (degraded : Bool) (calls : List BrokerCall),
        (∀ c ∈ calls, (∃ bytes now, c = .frame bytes now) ∨ ∃ now, c = .purge now) →
        Chronological calls →
        (trace call (new generation hardKill minimum digest degraded) calls).Pairwise NoReplay := by
  intro safe
  refine replay_of_wrapped (verdict?_frame_toWire farFutureVerdict_valid 1700000000000)
    (verdict?_frame_toWire farFutureVerdict_valid 1700000000001) (sampleBroker_authorized ?_) ?_ ?_ ?_
    (safe 7 false 3 (Bytes.replicate 32 0x78) false
      [.frame farFutureVerdict.toWire.toList 1700000000000,
        .frame farFutureVerdict.toWire.toList 1700000000001] ?_ ?_)
  · decide
  · unfold Retainable
    decide
  · decide
  · decide
  · intro c member
    simp only [List.mem_cons, List.not_mem_nil, or_false] at member
    rcases member with rfl | rfl
    · exact .inl ⟨_, _, rfl⟩
    · exact .inl ⟨_, _, rfl⟩
  · simp [Chronological, BrokerCall.now]

end EnforcementBroker

end KavachNpu

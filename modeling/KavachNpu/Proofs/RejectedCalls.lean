/-
Module: KavachNpu.Proofs.RejectedCalls
Layer: Proofs
Purpose: Rejected calls are invisible. A rejecting call may purge the cache or leave it alone, so the
  states of a run with and without it differ; they differ only in entries whose deadline the clock has
  passed. Equality after a purge at the current reading is the simulation relation, and the erasure rule
  for runs does the rest.
Trusted boundary: none
Main exports: EnforcementBroker.SameAt, EnforcementBroker.call_sameAt,
  EnforcementBroker.rejected_calls_invisible
-/
import KavachNpu.Proofs.BrokerGates

namespace KavachNpu

namespace EnforcementBroker

/-- The two brokers differ at most in cache entries that have expired at the reading. -/
def SameAt (now : UInt64) (broker other : EnforcementBroker) : Prop :=
  broker.purgeExpiredReplayCache now = other.purgeExpiredReplayCache now

/-- An earlier purge is absorbed by a later one. -/
theorem purge_purge {earlier now : UInt64} (order : earlier ≤ now) (broker : EnforcementBroker) :
    (broker.purgeExpiredReplayCache earlier).purgeExpiredReplayCache now =
      broker.purgeExpiredReplayCache now := by
  have weaker : ∀ (_ : Bytes 16) (deadline : UInt64),
      decide (now ≤ deadline) = true → decide (earlier ≤ deadline) = true := by
    intro _ deadline unexpired
    exact decide_eq_true (UInt64.le_trans order (of_decide_eq_true unexpired))
  have cache := HashMap.retain_retain_of_imp weaker broker.replayCache
  unfold purgeExpiredReplayCache
  rw [cache]

theorem SameAt.mono {earlier now : UInt64} {broker other : EnforcementBroker}
    (same : SameAt earlier broker other) (order : earlier ≤ now) : SameAt now broker other := by
  unfold SameAt at same ⊢
  rw [← purge_purge order broker, ← purge_purge order other, same]

theorem SameAt.symm {now : UInt64} {broker other : EnforcementBroker}
    (same : SameAt now broker other) : SameAt now other broker :=
  Eq.symm same

theorem SameAt.trans {now : UInt64} {first second third : EnforcementBroker}
    (left : SameAt now first second) (right : SameAt now second third) : SameAt now first third :=
  Eq.trans left right

/-- A broker and its purge are the same at the reading of the purge. -/
theorem sameAt_purge (now : UInt64) (broker : EnforcementBroker) :
    SameAt now (broker.purgeExpiredReplayCache now) broker :=
  purge_purge (UInt64.le_refl now) broker

/-- Evaluation at a reading sees only the purged broker. -/
theorem evaluateAndEnforce_purge (broker : EnforcementBroker) (v : Verdict) (now : UInt64) :
    ((broker.purgeExpiredReplayCache now).evaluateAndEnforce v now).1 =
        (broker.evaluateAndEnforce v now).1 ∧
      SameAt now ((broker.purgeExpiredReplayCache now).evaluateAndEnforce v now).2
        (broker.evaluateAndEnforce v now).2 := by
  have absorbed := purge_purge (UInt64.le_refl now) broker
  unfold evaluateAndEnforce
  simp only [absorbed]
  split
  · exact ⟨rfl, sameAt_purge now broker⟩
  split
  · exact ⟨rfl, sameAt_purge now broker⟩
  split
  · exact ⟨rfl, sameAt_purge now broker⟩
  exact ⟨rfl, rfl⟩

/-- So does the evaluation of a frame. -/
theorem handleFrame_purge (broker : EnforcementBroker) (bytes : List UInt8) (now : UInt64) :
    (PipeBrokerServer.handleFrame (broker.purgeExpiredReplayCache now) bytes now).1 =
        (PipeBrokerServer.handleFrame broker bytes now).1 ∧
      SameAt now (PipeBrokerServer.handleFrame (broker.purgeExpiredReplayCache now) bytes now).2
        (PipeBrokerServer.handleFrame broker bytes now).2 := by
  unfold PipeBrokerServer.handleFrame
  cases Verdict.fromSlice bytes with
  | ok v =>
      obtain ⟨result, same⟩ := evaluateAndEnforce_purge broker v now
      exact ⟨congrArg (fun result => result.map fun _ => ()) result, same⟩
  | err error => exact ⟨rfl, sameAt_purge now broker⟩
  | panicked cause => exact ⟨rfl, sameAt_purge now broker⟩

/-- So does every call. -/
theorem call_purge (broker : EnforcementBroker) (c : BrokerCall) :
    ((broker.purgeExpiredReplayCache c.now).call c).1 = (broker.call c).1 ∧
      SameAt c.now ((broker.purgeExpiredReplayCache c.now).call c).2 (broker.call c).2 := by
  cases c with
  | evaluate v now =>
      obtain ⟨result, same⟩ := evaluateAndEnforce_purge broker v now
      exact ⟨congrArg BrokerReply.enforced result, same⟩
  | frame bytes now =>
      obtain ⟨result, same⟩ := handleFrame_purge broker bytes now
      exact ⟨congrArg BrokerReply.handled result, same⟩
  | purge now =>
      exact ⟨rfl, sameAt_purge now (broker.purgeExpiredReplayCache now)⟩
  | editRules edit now =>
      exact ⟨rfl, sameAt_purge now { broker with ruleRegistry := edit broker.ruleRegistry }⟩

/-- Brokers that are the same at the reading answer alike and stay the same. -/
theorem call_sameAt {broker other : EnforcementBroker} (c : BrokerCall)
    (same : SameAt c.now broker other) :
    (broker.call c).1 = (other.call c).1 ∧ SameAt c.now (broker.call c).2 (other.call c).2 := by
  obtain ⟨reply, next⟩ := call_purge broker c
  obtain ⟨reply', next'⟩ := call_purge other c
  rw [← reply, ← reply', same]
  refine ⟨rfl, ?_⟩
  rw [SameAt] at same
  rw [same] at next
  exact next.symm.trans next'

/-- A rejected call leaves its broker the same at the reading. -/
theorem sameAt_of_rejected {broker : EnforcementBroker} {c : BrokerCall}
    (rejected : (broker.call c).1.rejected = true) : SameAt c.now (broker.call c).2 broker := by
  rcases call_cases broker c with ⟨v, _, _, _, notRejected, _⟩ | ⟨_, _, _, state | state⟩ |
    ⟨_, reply, _⟩
  · rw [rejected] at notRejected
    cases notRejected
  · rw [state]
    rfl
  · rw [state]
    exact sameAt_purge c.now broker
  · rw [reply] at rejected
    cases rejected

/-- Erasing rejected calls from a chronological run leaves a run. -/
theorem trace_erase_rejected {broker : EnforcementBroker} {calls : List BrokerCall}
    {kept : List (BrokerCall × BrokerReply)} (ordered : Chronological calls)
    (erased : Erases (fun _ reply => reply.rejected = true) (trace call broker calls) kept) :
    trace call broker (kept.map Prod.fst) = kept := by
  refine trace_of_erases BrokerCall.now SameAt ?_ ?_ calls 0 broker broker kept ordered ?_ rfl erased
  · intro time state other c same order
    exact call_sameAt c (same.mono order)
  · intro time state other c same order rejected
    exact (sameAt_of_rejected rejected).trans (same.mono order)
  · intro c _
    exact UInt64.zero_le

/-! ### Where replay reports come from -/

/-- Every nonce in the cache is one of those given. -/
def Accounted (known : Bytes 16 → Prop) (broker : EnforcementBroker) : Prop :=
  ∀ id ∈ broker.replayCache, known id

/-- The entry is an accepted call under the given nonce. -/
def Burns (id : Bytes 16) (entry : BrokerCall × BrokerReply) : Prop :=
  entry.2.accepted = true ∧ ∃ v, entry.1.verdict? = some v ∧ v.requestId = id

/-- A purge adds no nonce. -/
theorem Accounted.purge {known : Bytes 16 → Prop} {broker : EnforcementBroker}
    (accounted : Accounted known broker) (now : UInt64) :
    Accounted known (broker.purgeExpiredReplayCache now) := by
  intro id member
  obtain ⟨deadline, held, _⟩ := HashMap.mem_retain.mp member
  exact accounted id (Finmap.mem_of_lookup_eq_some held)

/-- A call adds at most the nonce it burns. -/
theorem Accounted.call {known : Bytes 16 → Prop} {broker : EnforcementBroker}
    (accounted : Accounted known broker) (c : BrokerCall) :
    Accounted (fun id => known id ∨ Burns id (c, (broker.call c).1)) (broker.call c).2 := by
  intro id member
  rcases call_cases broker c with ⟨v, submits, _, accepted, _, state⟩ | ⟨_, _, _, state | state⟩ |
    ⟨_, _, state | ⟨registry, state⟩⟩
  · rw [state] at member
    rcases Finmap.mem_insert.mp member with same | older
    · exact .inr ⟨accepted, v, submits, same.symm⟩
    · exact .inl (accounted.purge c.now id older)
  · rw [state] at member
    exact .inl (accounted id member)
  · rw [state] at member
    exact .inl (accounted.purge c.now id member)
  · rw [state] at member
    exact .inl (accounted.purge c.now id member)
  · rw [state] at member
    exact .inl (accounted id member)

/-- An evaluation that reports a replay found the nonce in its cache. -/
theorem mem_of_evaluate_replayDetected {broker : EnforcementBroker} {v : Verdict} {now : UInt64}
    (replay : (broker.evaluateAndEnforce v now).1 = .err .replayDetected) :
    v.requestId ∈ broker.replayCache := by
  rcases evaluateAndEnforce_cases broker v now with ⟨_, accepted⟩ | ⟨_, error, result, reported⟩
  · rw [accepted] at replay
    cases replay
  · have same : error = .replayDetected := by
      rcases result with result | result
      all_goals
        rw [result] at replay
        cases replay
        rfl
    obtain ⟨_, _, _, held⟩ := reported.mp same
    obtain ⟨deadline, found, _⟩ := HashMap.mem_retain.mp held
    exact Finmap.mem_of_lookup_eq_some found

/-- A call that reports a replay found its nonce in the cache. -/
theorem mem_of_call_replayDetected {broker : EnforcementBroker} {c : BrokerCall}
    (replay : (broker.call c).1.error? = some .replayDetected) :
    ∃ v, c.verdict? = some v ∧ v.requestId ∈ broker.replayCache := by
  cases submits : c.verdict? with
  | some v =>
      rw [(call_of_verdict submits).2.2.1] at replay
      exact ⟨v, rfl, mem_of_evaluate_replayDetected (Outcome.err?_eq_some.mp replay)⟩
  | none =>
      rcases call_of_no_verdict submits with ⟨error, other, refused⟩ | ⟨reply, _⟩
      · rw [refused] at replay
        exact absurd (Option.some.inj replay) other
      · rw [reply] at replay
        cases replay

/-- A replay reported during a run is of a nonce known before the run or burnt earlier in it. -/
theorem replay_accounted : ∀ (before : List (BrokerCall × BrokerReply)) (calls : List BrokerCall)
    (broker : EnforcementBroker) (known : Bytes 16 → Prop) (entry : BrokerCall × BrokerReply)
    (after : List (BrokerCall × BrokerReply)), Accounted known broker →
    trace call broker calls = before ++ entry :: after → entry.2.error? = some .replayDetected →
      ∃ v, entry.1.verdict? = some v ∧
        (known v.requestId ∨ ∃ earlier ∈ before, Burns v.requestId earlier) := by
  intro before
  induction before with
  | nil =>
      intro calls broker known entry after accounted run replay
      cases calls with
      | nil => cases run
      | cons c rest =>
          cases run
          obtain ⟨v, submits, held⟩ := mem_of_call_replayDetected replay
          exact ⟨v, submits, .inl (accounted v.requestId held)⟩
  | cons first before ih =>
      intro calls broker known entry after accounted run replay
      cases calls with
      | nil => cases run
      | cons c rest =>
          obtain ⟨rfl, remaining⟩ := List.cons.inj run
          obtain ⟨v, submits, source⟩ :=
            ih rest _ _ entry after (accounted.call c) remaining replay
          refine ⟨v, submits, ?_⟩
          rcases source with (initially | burnt) | ⟨earlier, member, burnt⟩
          · exact .inl initially
          · exact .inr ⟨_, List.mem_cons_self, burnt⟩
          · exact .inr ⟨earlier, List.mem_cons_of_mem _ member, burnt⟩

/-- Rejected calls are invisible. Deleting any rejected calls from a chronological run, on a broker in
    any state, leaves the result of every remaining call unchanged; and from a new broker a replay is
    reported only for a nonce that an earlier call of the run accepted. -/
theorem rejected_calls_invisible :
    (∀ (broker : EnforcementBroker) (calls : List BrokerCall) (kept : List (BrokerCall × BrokerReply)),
      Chronological calls →
      Erases (fun _ reply => reply.rejected = true) (trace call broker calls) kept →
      trace call broker (kept.map Prod.fst) = kept) ∧
    (∀ (generation : UInt64) (hardKill : Bool) (minimum : UInt8) (digest : Bytes 32) (degraded : Bool)
      (calls : List BrokerCall) (before : List (BrokerCall × BrokerReply))
      (entry : BrokerCall × BrokerReply) (after : List (BrokerCall × BrokerReply)),
      trace call (new generation hardKill minimum digest degraded) calls = before ++ entry :: after →
      entry.2.error? = some .replayDetected →
      ∃ v, entry.1.verdict? = some v ∧ ∃ earlier ∈ before, Burns v.requestId earlier) := by
  refine ⟨?_, ?_⟩
  · intro broker calls kept ordered erased
    exact trace_erase_rejected ordered erased
  · intro generation hardKill minimum digest degraded calls before entry after run replay
    have empty : Accounted (fun _ => False) (new generation hardKill minimum digest degraded) := by
      intro id member
      exact Finmap.notMem_empty member
    obtain ⟨v, submits, source⟩ := replay_accounted before calls _ _ entry after empty run replay
    refine ⟨v, submits, ?_⟩
    rcases source with impossible | burnt
    · cases impossible
    · exact burnt

end EnforcementBroker

end KavachNpu

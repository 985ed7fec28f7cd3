/-
Module: KavachNpu.Proofs.LiveLoopReplay
Layer: Proofs
Purpose: When the live loop trips its own replay protection. The loop folds the tick into one byte, so
  its nonces repeat every 256 ticks, and the broker holds a nonce for seventy seconds, that is 700
  ticks. Which runs collide is read off the cache by one induction over the alerting ticks: a replay is
  reported exactly when some nonce, held initially or inserted on the way, is still held when it comes
  up again.
Trusted boundary: none
Main exports: LiveLoop.Collision, LiveLoop.replays_iff, LiveLoop.alertCalls_replay_iff
-/
import KavachNpu.Daemon.LiveLoop
import KavachNpu.Proofs.BrokerGates

namespace KavachNpu

namespace LiveLoop

open EnforcementBroker

/-- The verdict of the tick has not expired when it is issued: `now_ms + 10_000` does not wrap. -/
def Live (startTs tick : UInt64) : Prop :=
  (nowMs startTs tick).toNat + 10000 < UInt64.size

/-- The deadline until which the nonce of the tick is held, in wrapping arithmetic. -/
def retainUntil (startTs tick : UInt64) : UInt64 :=
  nowMs startTs tick + 10000 + 60000

/-- Two alerting ticks share a nonce, and no alert between them comes late enough to purge it. Alerts
    whose own verdict is born expired are refused before the purge. -/
def Collision (startTs : UInt64) (ticks : List UInt64) : Prop :=
  ∃ t₁ ∈ ticks, ∃ t₂ ∈ ticks, t₁ < t₂ ∧ t₁.toNat % 256 = t₂.toNat % 256 ∧
    Live startTs t₁ ∧ Live startTs t₂ ∧
    ∀ t ∈ ticks, t₁ < t → t ≤ t₂ → Live startTs t → nowMs startTs t ≤ retainUntil startTs t₁

/-- Some alert of the run is refused as a replay. -/
def Replays (config : Config) (startTs : UInt64) (state : EnforcementBroker) (ticks : List UInt64) :
    Prop :=
  ∃ entry ∈ trace call state (alertCalls config startTs ticks),
    entry.2.error? = some .replayDetected

/-! ### One tick -/

theorem live_iff {startTs tick : UInt64} :
    Live startTs tick ↔ nowMs startTs tick ≤ nowMs startTs tick + 10000 := by
  have ten : (10000 : UInt64).toNat = 10000 := rfl
  have size : UInt64.size = 18446744073709551616 := rfl
  have small := (nowMs startTs tick).toNat_lt
  rw [Live, UInt64.le_iff_toNat_le, UInt64.toNat_add, ten]
  omega

/-- A verdict born expired is refused without touching the cache. -/
theorem evaluate_not_live {config : Config} {startTs tick : UInt64} (state : EnforcementBroker)
    (expired : ¬ Live startTs tick) :
    state.evaluateAndEnforce (verdict config startTs tick) (nowMs startTs tick) =
      (.err .expired, state) := by
  have late : nowMs startTs tick > nowMs startTs tick + 10000 :=
    UInt64.not_le.mp (fun live => expired (live_iff.mpr live))
  simp [evaluateAndEnforce, verdict, late]

/-- A live verdict passes every gate but possibly the replay gate. -/
theorem authorized_iff_fresh {config : Config} {startTs tick : UInt64} {state : EnforcementBroker}
    (built : state.config = (broker config).config) (live : Live startTs tick) :
    state.Authorized (verdict config startTs tick) (nowMs startTs tick) ↔
      requestId tick ∉ (state.purgeExpiredReplayCache (nowMs startTs tick)).replayCache := by
  simp only [EnforcementBroker.config, broker, new, Prod.mk.injEq] at built
  obtain ⟨generation, _, _, digest, healthy⟩ := built
  refine ⟨fun authorized => authorized.fresh, ?_⟩
  intro fresh
  exact
    { major := rfl, flags := rfl, live := live_iff.mp live, fresh := fresh
      policy := generation.symm, healthy := healthy, bundle := digest.symm
      target := fun _ zero => by cases zero
      hardKill := fun hardKill => by cases hardKill }

/-- A live verdict whose nonce is held is reported as a replay. -/
theorem evaluate_held {config : Config} {startTs tick : UInt64} {state : EnforcementBroker}
    (live : Live startTs tick)
    (held : requestId tick ∈ (state.purgeExpiredReplayCache (nowMs startTs tick)).replayCache) :
    (state.evaluateAndEnforce (verdict config startTs tick) (nowMs startTs tick)).1 =
      .err .replayDetected := by
  rcases evaluateAndEnforce_cases state (verdict config startTs tick) (nowMs startTs tick) with
    ⟨authorized, _⟩ | ⟨_, error, result, reported⟩
  · exact absurd held authorized.fresh
  · have replay : error = .replayDetected := reported.mpr ⟨rfl, rfl, live_iff.mp live, held⟩
    rcases result with result | result
    all_goals rw [result, replay]

/-! ### Whole runs -/

/-- A nonce held until `deadline` comes up again among the ticks before a live alert purges it. -/
def Hits (startTs deadline : UInt64) (id : Bytes 16) : List UInt64 → Prop
  | [] => False
  | tick :: rest =>
      (Live startTs tick ∧ nowMs startTs tick ≤ deadline ∧
        (requestId tick = id ∨ Hits startTs deadline id rest)) ∨
      (¬ Live startTs tick ∧ Hits startTs deadline id rest)

/-- Some tick's own nonce comes up again before it is purged. -/
def Collides (startTs : UInt64) : List UInt64 → Prop
  | [] => False
  | tick :: rest =>
      (Live startTs tick ∧ Hits startTs (retainUntil startTs tick) (requestId tick) rest) ∨
        Collides startTs rest

/-- A nonce in the cache comes up again before it is purged. -/
def HitsCache (startTs : UInt64) (state : EnforcementBroker) (ticks : List UInt64) : Prop :=
  ∃ id deadline, state.replayCache.lookup id = some deadline ∧ Hits startTs deadline id ticks

theorem replays_cons {config : Config} {startTs tick : UInt64} {rest : List UInt64}
    {state : EnforcementBroker} :
    Replays config startTs state (tick :: rest) ↔
      (state.evaluateAndEnforce (verdict config startTs tick) (nowMs startTs tick)).1 =
        .err .replayDetected ∨
      Replays config startTs
        (state.evaluateAndEnforce (verdict config startTs tick) (nowMs startTs tick)).2 rest := by
  rw [← Outcome.err?_eq_some]
  simp only [Replays, alertCalls, List.map_cons, trace, List.mem_cons, exists_eq_or_imp]
  rfl

/-- A tick born expired changes nothing about the cache's hits. -/
theorem hitsCache_cons_not_live {startTs tick : UInt64} {rest : List UInt64}
    {state : EnforcementBroker} (expired : ¬ Live startTs tick) :
    HitsCache startTs state (tick :: rest) ↔ HitsCache startTs state rest := by
  unfold HitsCache
  simp only [Hits, expired, false_and, not_false_eq_true, true_and, false_or]

/-- At a live tick whose nonce is held, the cache is hit. -/
theorem hitsCache_cons_held {startTs tick : UInt64} {rest : List UInt64} {state : EnforcementBroker}
    (live : Live startTs tick)
    (held : requestId tick ∈ (state.purgeExpiredReplayCache (nowMs startTs tick)).replayCache) :
    HitsCache startTs state (tick :: rest) := by
  obtain ⟨deadline, found, unexpired⟩ := HashMap.mem_retain.mp held
  exact ⟨requestId tick, deadline, found, .inl ⟨live, of_decide_eq_true unexpired, .inl rfl⟩⟩

/-- At a live tick whose nonce is fresh, the hits after the tick are those of the nonces that survive the
    purge and those of the tick's own. -/
theorem hitsCache_remember {config : Config} {startTs tick : UInt64} {rest : List UInt64}
    {state : EnforcementBroker} (live : Live startTs tick)
    (fresh : requestId tick ∉ (state.purgeExpiredReplayCache (nowMs startTs tick)).replayCache) :
    HitsCache startTs (state.remember (verdict config startTs tick) (nowMs startTs tick)) rest ↔
      HitsCache startTs state (tick :: rest) ∨
        Hits startTs (retainUntil startTs tick) (requestId tick) rest := by
  constructor
  · rintro ⟨id, deadline, found, hits⟩
    by_cases own : id = requestId tick
    · subst own
      have inserted : deadline = retainUntil startTs tick :=
        Option.some.inj (found.symm.trans (Finmap.lookup_insert _))
      rw [inserted] at hits
      exact .inr hits
    · have survives := (Finmap.lookup_insert_of_ne _ own).symm.trans found
      rw [lookup_purge, Option.filter_eq_some_iff] at survives
      obtain ⟨found, unexpired⟩ := survives
      exact .inl ⟨id, deadline, found, .inl ⟨live, of_decide_eq_true unexpired, .inr hits⟩⟩
  · rintro (⟨id, deadline, found, hits⟩ | hits)
    · rcases hits with ⟨_, unexpired, hit⟩ | ⟨expired, _⟩
      · have survives : (state.purgeExpiredReplayCache (nowMs startTs tick)).replayCache.lookup id =
            some deadline := by
          rw [lookup_purge, found]
          simp [unexpired]
        rcases hit with own | hits
        · subst own
          exact absurd (Finmap.mem_of_lookup_eq_some survives) fresh
        · have other : id ≠ requestId tick := by
            intro own
            subst own
            exact fresh (Finmap.mem_of_lookup_eq_some survives)
          exact ⟨id, deadline, (Finmap.lookup_insert_of_ne _ other).trans survives, hits⟩
      · exact absurd live expired
    · exact ⟨requestId tick, retainUntil startTs tick, Finmap.lookup_insert _, hits⟩

/-- A run reports a replay exactly when a nonce of the cache, or of one of its own ticks, comes up again
    before it is purged. -/
theorem replays_iff {config : Config} {startTs : UInt64} : ∀ (ticks : List UInt64)
    (state : EnforcementBroker), state.config = (broker config).config →
    (Replays config startTs state ticks ↔
      HitsCache startTs state ticks ∨ Collides startTs ticks) := by
  intro ticks
  induction ticks with
  | nil =>
      intro state _
      simp [Replays, alertCalls, trace, HitsCache, Hits, Collides]
  | cons tick rest ih =>
      intro state built
      rw [replays_cons]
      by_cases live : Live startTs tick
      · by_cases held : requestId tick ∈
            (state.purgeExpiredReplayCache (nowMs startTs tick)).replayCache
        · constructor
          · intro _
            exact .inl (hitsCache_cons_held live held)
          · intro _
            exact .inl (evaluate_held live held)
        · have authorized := (authorized_iff_fresh built live).mpr held
          rcases evaluateAndEnforce_cases state (verdict config startTs tick)
            (nowMs startTs tick) with ⟨_, accepted⟩ | ⟨refused, _⟩
          · have next : (state.remember (verdict config startTs tick)
                (nowMs startTs tick)).config = (broker config).config := built
            rw [accepted, ih _ next, hitsCache_remember live held]
            simp [Collides, live, or_assoc]
          · exact absurd authorized refused
      · rw [evaluate_not_live state live, hitsCache_cons_not_live live, ih state built]
        simp [Collides, live]

/-! ### From the run to the set of ticks -/

/-- The low byte of a tick is its residue modulo 256. -/
theorem lowByte_toNat (tick : UInt64) : (tick &&& 0xFF).toUInt8.toNat = tick.toNat % 256 := by
  have mask : (0xFF : UInt64).toNat = 2 ^ 8 - 1 := rfl
  rw [UInt64.toNat_toUInt8, UInt64.toNat_and, mask, Nat.and_two_pow_sub_one_eq_mod]
  exact Nat.mod_mod tick.toNat 256

theorem requestId_toList (tick : UInt64) :
    (requestId tick).toList = (tick &&& 0xFF).toUInt8 :: List.replicate 15 0 := by
  simp only [requestId, toList_writeRange]
  rfl

/-- Two ticks share a nonce exactly when they are congruent modulo 256. -/
theorem requestId_eq_iff {t₁ t₂ : UInt64} :
    requestId t₁ = requestId t₂ ↔ t₁.toNat % 256 = t₂.toNat % 256 := by
  rw [← lowByte_toNat, ← lowByte_toNat]
  constructor
  · intro same
    have bytes := congrArg Bytes.toList same
    rw [requestId_toList, requestId_toList] at bytes
    rw [(List.cons.inj bytes).1]
  · intro same
    have byte := UInt8.toNat_inj.mp same
    apply Bytes.ext
    rw [requestId_toList, requestId_toList, byte]

/-- Among ticks in order, a nonce is hit when some live tick carries it and every live tick up to that
    one is within the deadline. -/
theorem hits_iff {startTs deadline : UInt64} {id : Bytes 16} {ticks : List UInt64}
    (sorted : ticks.Pairwise (· < ·)) :
    Hits startTs deadline id ticks ↔
      ∃ t₂ ∈ ticks, requestId t₂ = id ∧ Live startTs t₂ ∧
        ∀ t ∈ ticks, t ≤ t₂ → Live startTs t → nowMs startTs t ≤ deadline := by
  induction ticks with
  | nil => simp [Hits]
  | cons tick rest ih =>
      obtain ⟨first, sorted⟩ := List.pairwise_cons.mp sorted
      rw [Hits, ih sorted]
      constructor
      · rintro (⟨live, unexpired, own | ⟨t₂, member, same, live₂, window⟩⟩ |
          ⟨expired, t₂, member, same, live₂, window⟩)
        · refine ⟨tick, List.mem_cons_self, own, live, ?_⟩
          intro t among upTo _
          rcases List.mem_cons.mp among with rfl | later
          · exact unexpired
          · exact absurd (first t later) (UInt64.not_lt.mpr upTo)
        · refine ⟨t₂, List.mem_cons_of_mem tick member, same, live₂, ?_⟩
          intro t among upTo liveT
          rcases List.mem_cons.mp among with rfl | later
          · exact unexpired
          · exact window t later upTo liveT
        · refine ⟨t₂, List.mem_cons_of_mem tick member, same, live₂, ?_⟩
          intro t among upTo liveT
          rcases List.mem_cons.mp among with rfl | later
          · exact absurd liveT expired
          · exact window t later upTo liveT
      · rintro ⟨t₂, member, same, live₂, window⟩
        rcases List.mem_cons.mp member with rfl | later
        · exact .inl ⟨live₂, window t₂ member (UInt64.le_refl t₂) live₂, .inl same⟩
        · have hit : ∃ t₂ ∈ rest, requestId t₂ = id ∧ Live startTs t₂ ∧
              ∀ t ∈ rest, t ≤ t₂ → Live startTs t → nowMs startTs t ≤ deadline :=
            ⟨t₂, later, same, live₂, fun t among => window t (List.mem_cons_of_mem tick among)⟩
          by_cases live : Live startTs tick
          · have before := UInt64.le_of_lt (first t₂ later)
            exact .inl ⟨live, window tick List.mem_cons_self before live, .inr hit⟩
          · exact .inr ⟨live, hit⟩

/-- Among ticks in order, the recursive and the set-wise notion of a collision agree. -/
theorem collides_iff {startTs : UInt64} {ticks : List UInt64} (sorted : ticks.Pairwise (· < ·)) :
    Collides startTs ticks ↔ Collision startTs ticks := by
  induction ticks with
  | nil => simp [Collides, Collision]
  | cons tick rest ih =>
      obtain ⟨first, sorted⟩ := List.pairwise_cons.mp sorted
      rw [Collides, ih sorted, hits_iff sorted]
      constructor
      · rintro (⟨live, t₂, member, same, live₂, window⟩ |
          ⟨t₁, member₁, t₂, member₂, order, same, live₁, live₂, window⟩)
        · refine ⟨tick, List.mem_cons_self, t₂, List.mem_cons_of_mem tick member, first t₂ member,
            requestId_eq_iff.mp same.symm, live, live₂, ?_⟩
          intro t among after upTo liveT
          rcases List.mem_cons.mp among with rfl | later
          · exact absurd after (UInt64.lt_irrefl t)
          · exact window t later upTo liveT
        · refine ⟨t₁, List.mem_cons_of_mem tick member₁, t₂, List.mem_cons_of_mem tick member₂, order,
            same, live₁, live₂, ?_⟩
          intro t among after upTo liveT
          rcases List.mem_cons.mp among with rfl | later
          · exact absurd (first t₁ member₁) (UInt64.lt_asymm after)
          · exact window t later after upTo liveT
      · rintro ⟨t₁, member₁, t₂, member₂, order, same, live₁, live₂, window⟩
        have later₂ : t₂ ∈ rest := by
          rcases List.mem_cons.mp member₂ with rfl | later
          · rcases List.mem_cons.mp member₁ with rfl | later
            · exact absurd order (UInt64.lt_irrefl t₁)
            · exact absurd (first t₁ later) (UInt64.lt_asymm order)
          · exact later
        rcases List.mem_cons.mp member₁ with rfl | later₁
        · refine .inl ⟨live₁, t₂, later₂, requestId_eq_iff.mpr same.symm, live₂, ?_⟩
          intro t among upTo liveT
          exact window t (List.mem_cons_of_mem t₁ among) (first t among) upTo liveT
        · refine .inr ⟨t₁, later₁, t₂, later₂, order, same, live₁, live₂, ?_⟩
          intro t among
          exact window t (List.mem_cons_of_mem tick among)

/-- No sum of the loop or of the broker leaves the `u64` range at these ticks. -/
def InRange (startTs : UInt64) (ticks : List UInt64) : Prop :=
  ∀ t ∈ ticks, startTs.toNat + t.toNat * 100 + 70000 < UInt64.size

theorem toNat_nowMs {startTs tick : UInt64} (inRange : startTs.toNat + tick.toNat * 100 < UInt64.size) :
    (nowMs startTs tick).toNat = startTs.toNat + tick.toNat * 100 := by
  have hundred : (100 : UInt64).toNat = 100 := rfl
  have size : UInt64.size = 18446744073709551616 := rfl
  rw [nowMs, UInt64.toNat_add, UInt64.toNat_mul, hundred]
  omega

theorem toNat_retainUntil {startTs tick : UInt64}
    (inRange : startTs.toNat + tick.toNat * 100 + 70000 < UInt64.size) :
    (retainUntil startTs tick).toNat = startTs.toNat + tick.toNat * 100 + 70000 := by
  have ten : (10000 : UInt64).toNat = 10000 := rfl
  have sixty : (60000 : UInt64).toNat = 60000 := rfl
  have size : UInt64.size = 18446744073709551616 := rfl
  have now : (nowMs startTs tick).toNat = startTs.toNat + tick.toNat * 100 :=
    toNat_nowMs (by omega)
  rw [retainUntil, UInt64.toNat_add, UInt64.toNat_add, now, ten, sixty]
  omega

/-- Within range, a collision is two alerts 256 or 512 ticks apart: the nonce repeats every 256 ticks and
    is held for 700. -/
theorem collision_iff_of_inRange {startTs : UInt64} {ticks : List UInt64}
    (inRange : InRange startTs ticks) :
    Collision startTs ticks ↔
      ∃ t₁ ∈ ticks, ∃ t₂ ∈ ticks, t₂.toNat = t₁.toNat + 256 ∨ t₂.toNat = t₁.toNat + 512 := by
  have live : ∀ t ∈ ticks, Live startTs t := by
    intro t member
    have bound := inRange t member
    rw [Live, toNat_nowMs (Nat.lt_of_le_of_lt (Nat.le_add_right _ 70000) bound)]
    omega
  have within : ∀ t ∈ ticks, ∀ t₁ ∈ ticks,
      (nowMs startTs t ≤ retainUntil startTs t₁ ↔ t.toNat ≤ t₁.toNat + 700) := by
    intro t member t₁ member₁
    have bound := inRange t member
    rw [UInt64.le_iff_toNat_le, toNat_retainUntil (inRange t₁ member₁),
      toNat_nowMs (Nat.lt_of_le_of_lt (Nat.le_add_right _ 70000) bound)]
    omega
  constructor
  · rintro ⟨t₁, member₁, t₂, member₂, order, same, _, live₂, window⟩
    have gap := (within t₂ member₂ t₁ member₁).mp
      (window t₂ member₂ order (UInt64.le_refl t₂) live₂)
    have ordered := UInt64.lt_iff_toNat_lt.mp order
    refine ⟨t₁, member₁, t₂, member₂, ?_⟩
    omega
  · rintro ⟨t₁, member₁, t₂, member₂, gap⟩
    refine ⟨t₁, member₁, t₂, member₂, ?_, ?_, live t₁ member₁, live t₂ member₂, ?_⟩
    · rw [UInt64.lt_iff_toNat_lt]
      omega
    · omega
    · intro t member _ upTo _
      have ordered := UInt64.le_iff_toNat_le.mp upTo
      apply (within t member t₁ member₁).mpr
      omega

/-- Exactly when the live loop trips its own replay protection. For alerts at any ticks, in order, no
    evaluation is refused as a replay if and only if there is no collision among them; and as long as no
    sum wraps, a collision is a pair of alerts 256 or 512 ticks apart. -/
theorem alertCalls_replay_iff (config : Config) (startTs : UInt64) (ticks : List UInt64)
    (sorted : ticks.Pairwise (· < ·)) :
    ((∀ entry ∈ trace call (broker config) (alertCalls config startTs ticks),
        entry.2.error? ≠ some .replayDetected) ↔ ¬ Collision startTs ticks) ∧
    (InRange startTs ticks →
      (Collision startTs ticks ↔
        ∃ t₁ ∈ ticks, ∃ t₂ ∈ ticks, t₂.toNat = t₁.toNat + 256 ∨ t₂.toNat = t₁.toNat + 512)) := by
  refine ⟨?_, collision_iff_of_inRange⟩
  have fresh : ¬ HitsCache startTs (broker config) ticks := by
    rintro ⟨id, deadline, found, _⟩
    cases found
  have replays : Replays config startTs (broker config) ticks ↔ _ :=
    replays_iff ticks (broker config) rfl
  rw [collides_iff sorted, or_iff_right fresh] at replays
  rw [← replays]
  simp [Replays]

/-- Alerts at ticks 1, 100 and 700 are in order, and none of them is refused as a replay. -/
theorem alertCalls_no_replay_spread :
    [1, 100, 700].Pairwise (fun earlier later : UInt64 => earlier < later) ∧
    ∀ entry ∈ trace call (broker ⟨1, false, 3⟩) (alertCalls ⟨1, false, 3⟩ 1700000000000 [1, 100, 700]),
      entry.2.error? ≠ some .replayDetected := by
  have sorted : [1, 100, 700].Pairwise (fun earlier later : UInt64 => earlier < later) := by simp
  have inRange : InRange 1700000000000 [1, 100, 700] := by
    simp [InRange, UInt64.size]
  have exactly := alertCalls_replay_iff ⟨1, false, 3⟩ 1700000000000 [1, 100, 700] sorted
  refine ⟨sorted, ?_⟩
  rw [exactly.1, exactly.2 inRange]
  simp

/-- The loop does trip its own replay protection: of two alerts 25.6 seconds apart, the second is
    refused. -/
theorem alertCalls_replayed_after_256 :
    ¬ ∀ (config : Config) (startTs : UInt64) (ticks : List UInt64), ticks.Pairwise (· < ·) →
        ∀ entry ∈ trace call (broker config) (alertCalls config startTs ticks),
          entry.2.error? ≠ some .replayDetected := by
  intro never
  have replayed : ¬ ∀ entry ∈ trace call (broker ⟨1, false, 3⟩)
      (alertCalls ⟨1, false, 3⟩ 1700000000000 [1, 257]),
      entry.2.error? ≠ some .replayDetected := by
    decide +kernel
  exact replayed (never ⟨1, false, 3⟩ 1700000000000 [1, 257] (by decide))

end LiveLoop

end KavachNpu

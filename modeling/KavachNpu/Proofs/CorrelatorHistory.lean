/-
Module: KavachNpu.Proofs.CorrelatorHistory
Layer: Proofs
Purpose: The correlator refines the history of its calls. Its buffers are the last thousand host events and
  the last thousand correlated records, and the confidence of a record counts the retained events that
  match it, over integers. From this follows what high confidence does not promise: it neither looks at
  the distribution of the record nor at the process behind the event, and it does not count the matches
  that were evicted.
Trusted boundary: none
Main exports: WslCorrelator.Matches, WslCorrelator.correlate_refines_history,
  WslCorrelator.high_only_for_wsl_iff, WslCorrelator.high_is_unique_iff
-/
import KavachNpu.Proofs.Correlation
import KavachNpu.Proofs.ClockHistory

namespace KavachNpu

namespace WslCorrelator

/-! ### Matching over integers -/

/-- The guest time moved by the estimated offset, modulo `2^64`. -/
def adjustedTime (record : GuestWriteRecord) (estimate : ClockOffsetEstimate) : Int :=
  (record.guestMonotonicNs.toNat + estimate.offsetNs.toInt) % UInt64.size

/-- The distance of a host event from the adjusted guest time, in nanoseconds. -/
def distance (record : GuestWriteRecord) (estimate : ClockOffsetEstimate) (event : HostFileEvent) :
    Nat :=
  (event.hostTimestampNs.toNat - adjustedTime record estimate).natAbs

/-- The event is on the record's path, ignoring ASCII case, within `min w 250` ms of its adjusted time. -/
def Matches (w : UInt64) (record : GuestWriteRecord) (estimate : ClockOffsetEstimate)
    (event : HostFileEvent) : Prop :=
  eqIgnoreAsciiCase event.canonicalWindowsPath (windowsPath record) = true ∧
    distance record estimate event ≤ min w.toNat 250 * 1000000

instance decidableMatches (w : UInt64) (record : GuestWriteRecord) (estimate : ClockOffsetEstimate)
    (event : HostFileEvent) : Decidable (Matches w record estimate event) :=
  inferInstanceAs (Decidable (_ ∧ _))

/-- The events that match the record, in order. -/
def matching (w : UInt64) (record : GuestWriteRecord) (estimate : ClockOffsetEstimate)
    (events : List HostFileEvent) : List HostFileEvent :=
  events.filter fun event => decide (Matches w record estimate event)

theorem toNat_ofInt (value : Int) : ((UInt64.ofInt value).toNat : Int) = value % UInt64.size := by
  have nonneg : 0 ≤ value % (UInt64.size : Int) := Int.emod_nonneg _ (by decide)
  have small : value % (UInt64.size : Int) < UInt64.size := Int.emod_lt_of_pos _ (by decide)
  have inRange : (value % (UInt64.size : Int)).toNat < UInt64.size := by omega
  change ((UInt64.ofNat (value % (UInt64.size : Int)).toNat).toNat : Int) = _
  rw [UInt64.toNat_ofNat_of_lt' inRange]
  omega

theorem toNat_distance (record : GuestWriteRecord) (estimate : ClockOffsetEstimate)
    (event : HostFileEvent) :
    (absDiff event.hostTimestampNs (adjustedHostTs record estimate)).toNat =
      distance record estimate event := by
  rw [toNat_absDiff, distance, adjustedTime, ← toNat_ofInt]
  change _ = (_ - ((adjustedHostTs record estimate).toNat : Int)).natAbs
  omega

theorem toNat_windowNs (d : Bytes 16) (w : UInt64) :
    (new d w).windowNs.toNat = min w.toNat 250 * 1000000 := by
  have capped : (min w maxCorrelationWindowMs).toNat = min w.toNat 250 := by
    change (if w ≤ maxCorrelationWindowMs then w else maxCorrelationWindowMs).toNat = _
    by_cases small : w ≤ maxCorrelationWindowMs
    · have below : w.toNat ≤ 250 := UInt64.le_iff_toNat_le.mp small
      rw [if_pos small, Nat.min_eq_left below]
    · have above : 250 < w.toNat := UInt64.lt_iff_toNat_lt.mp (UInt64.not_le.mp small)
      rw [if_neg small, Nat.min_eq_right (Nat.le_of_lt above)]
      rfl
  change (min w maxCorrelationWindowMs * 1000000).toNat = _
  rw [UInt64.toNat_mul, capped]
  apply Nat.mod_eq_of_lt
  change min w.toNat 250 * 1000000 < 2 ^ 64
  omega

theorem eventMatches_eq_decide (d : Bytes 16) (w : UInt64) (calls : List CorrelatorCall)
    (record : GuestWriteRecord) (estimate : ClockOffsetEstimate) (event : HostFileEvent) :
    (final call (new d w) calls).eventMatches record estimate event =
      decide (Matches w record estimate event) := by
  rw [eventMatches_congr (final_windowNs d w calls), eventMatches]
  apply Bool.eq_iff_iff.mpr
  rw [Bool.and_eq_true, decide_eq_true_eq, decide_eq_true_eq, UInt64.le_iff_toNat_le, toNat_distance,
    toNat_windowNs]
  rfl

/-! ### The state as a history -/

/-- The records correlated by the calls, in order. -/
def correlated (calls : List CorrelatorCall) : List GuestWriteRecord :=
  calls.filterMap fun
    | .correlate record _ => some record
    | _ => none

/-- The clock exchanges of the calls, in order. -/
def exchanges (calls : List CorrelatorCall) : List ClockExchange :=
  calls.filterMap fun
    | .sync challenge response t3 => some ⟨challenge, response, t3⟩
    | _ => none

/-- The calls other than correlations. -/
def observations (calls : List CorrelatorCall) : List CorrelatorCall :=
  calls.filter fun
    | .correlate _ _ => false
    | _ => true

/-- After any run, the records kept are the last thousand correlated ones. -/
theorem guestRecords_isWindow (d : Bytes 16) (w : UInt64) (calls : List CorrelatorCall) :
    IsWindow 1000 (final call (new d w) calls).guestRecords (correlated calls) := by
  induction calls using List.reverseRecOn with
  | nil => exact isWindow_nil 1000
  | append_singleton calls c ih =>
      have split : correlated (calls ++ [c]) = correlated calls ++ correlated [c] :=
        List.filterMap_append
      rw [final_append, split]
      cases c with
      | recordHostEvent event =>
          rw [show correlated [.recordHostEvent event] = [] from rfl, List.append_nil]
          exact ih
      | sync challenge response t3 =>
          rw [show correlated [.sync challenge response t3] = [] from rfl, List.append_nil]
          exact ih
      | correlate record now => exact ih.push record

/-- The clock of the correlator runs through the exchanges of the calls. -/
theorem clockSync_final (correlator : WslCorrelator) (calls : List CorrelatorCall) :
    (final call correlator calls).clockSync =
      final ClockSynchronizer.exchange correlator.clockSync (exchanges calls) := by
  induction calls generalizing correlator with
  | nil => rfl
  | cons c rest ih =>
      cases c with
      | recordHostEvent event => exact ih _
      | sync challenge response t3 => exact ih _
      | correlate record now => exact ih _

/-- The state without its correlated records. -/
def forgetRecords (correlator : WslCorrelator) : WslCorrelator :=
  { correlator with guestRecords := [] }

/-- Up to its records, the state depends only on the calls other than correlations. -/
theorem forgetRecords_final (correlator : WslCorrelator) (calls : List CorrelatorCall) :
    (final call correlator calls).forgetRecords =
      (final call correlator.forgetRecords (observations calls)).forgetRecords := by
  induction calls generalizing correlator with
  | nil => rfl
  | cons c rest ih =>
      cases c with
      | recordHostEvent event => exact ih _
      | sync challenge response t3 => exact ih _
      | correlate record now => exact ih _

/-! ### The answer to a record -/

/-- The answer to a record after the calls of a run. -/
def answer (d : Bytes 16) (w : UInt64) (calls : List CorrelatorCall) (record : GuestWriteRecord)
    (now : UInt64) : WslAttributionResult :=
  ((final call (new d w) calls).correlateGuestRecord record now).1

/-- The clock estimate that is valid at a time after the calls of a run. -/
def estimateAt (d : Bytes 16) (w : UInt64) (calls : List CorrelatorCall) (now : UInt64) :
    Option ClockOffsetEstimate :=
  (final call (new d w) calls).clockSync.getValidEstimate now

/-- The retained events that match a record after the calls of a run. -/
def candidates (d : Bytes 16) (w : UInt64) (calls : List CorrelatorCall) (record : GuestWriteRecord)
    (estimate : ClockOffsetEstimate) : List HostFileEvent :=
  matching w record estimate (final call (new d w) calls).hostEvents

section Answer

variable (d : Bytes 16) (w : UInt64) (calls : List CorrelatorCall) (record : GuestWriteRecord)
  (now : UInt64)

/-- What a correlation can answer: low without a match, high with a single match, and medium with
    several. -/
theorem answer_cases :
    ((answer d w calls record now).confidence = .low ∧
      (answer d w calls record now).correlationDeltaMs = 0 ∧
      ∀ est, estimateAt d w calls now = some est → candidates d w calls record est = []) ∨
    ∃ est first rest, estimateAt d w calls now = some est ∧
      candidates d w calls record est = first :: rest ∧
      (answer d w calls record now).confidence = (if rest = [] then .high else .medium) ∧
      (answer d w calls record now).correlationDeltaMs.toNat =
        distance record est first / 1000000 := by
  change (((final call (new d w) calls).classify record now).1 = _ ∧
    ((final call (new d w) calls).classify record now).2 = _ ∧ _) ∨ ∃ est first rest, _ ∧ _ ∧
    ((final call (new d w) calls).classify record now).1 = _ ∧
    ((final call (new d w) calls).classify record now).2.toNat = _
  unfold classify estimateAt candidates
  cases valid : (final call (new d w) calls).clockSync.getValidEstimate now with
  | none => exact .inl ⟨rfl, rfl, by simp⟩
  | some estimate =>
      have certain := uncertainty_of_valid valid
      have same : (final call (new d w) calls).hostEvents.filter
          ((final call (new d w) calls).eventMatches record estimate) =
          matching w record estimate (final call (new d w) calls).hostEvents := by
        apply List.filter_congr
        intro event _
        exact eventMatches_eq_decide d w calls record estimate event
      simp only [same]
      cases found : matching w record estimate (final call (new d w) calls).hostEvents with
      | nil =>
          refine .inl ⟨rfl, rfl, ?_⟩
          intro est same
          cases same
          exact found
      | cons first rest =>
          refine .inr ⟨estimate, first, rest, rfl, found, ?_, ?_⟩
          · cases rest with
            | nil => simp [certain]
            | cons second rest => simp
          · cases rest with
            | nil => simp [certain, toNat_distance]
            | cons second rest => simp [toNat_distance]

theorem answer_high_iff :
    (answer d w calls record now).confidence = .high ↔
      ∃ est, estimateAt d w calls now = some est ∧ (candidates d w calls record est).length = 1 := by
  rcases answer_cases d w calls record now with
    ⟨low, _, none⟩ | ⟨est, first, rest, valid, found, confidence, _⟩
  · refine iff_of_false (by simp [low]) ?_
    rintro ⟨est, valid, single⟩
    simp [none est valid] at single
  · rw [confidence]
    constructor
    · intro high
      refine ⟨est, valid, ?_⟩
      cases rest with
      | nil => simp [found]
      | cons second rest => simp at high
    · rintro ⟨est', valid', single⟩
      obtain rfl : est' = est := Option.some.inj (valid'.symm.trans valid)
      simp only [found, List.length_cons, Nat.add_eq_right, List.length_eq_zero_iff] at single
      simp [single]

theorem answer_medium_iff :
    (answer d w calls record now).confidence = .medium ↔
      ∃ est, estimateAt d w calls now = some est ∧ 2 ≤ (candidates d w calls record est).length := by
  rcases answer_cases d w calls record now with
    ⟨low, _, none⟩ | ⟨est, first, rest, valid, found, confidence, _⟩
  · refine iff_of_false (by simp [low]) ?_
    rintro ⟨est, valid, several⟩
    simp [none est valid] at several
  · rw [confidence]
    constructor
    · intro medium
      refine ⟨est, valid, ?_⟩
      cases rest with
      | nil => simp at medium
      | cons second rest => simp [found]
    · rintro ⟨est', valid', several⟩
      obtain rfl : est' = est := Option.some.inj (valid'.symm.trans valid)
      cases rest with
      | nil => simp [found] at several
      | cons second rest => simp

theorem answer_low_iff :
    (answer d w calls record now).confidence = .low ↔
      ∀ est, estimateAt d w calls now = some est → candidates d w calls record est = [] := by
  rcases answer_cases d w calls record now with
    ⟨low, _, none⟩ | ⟨est, first, rest, valid, found, confidence, _⟩
  · exact iff_of_true low none
  · refine iff_of_false ?_ ?_
    · rw [confidence]
      split <;> simp
    · intro none
      rw [none est valid] at found
      cases found

/-- The delta is the distance to the first match in whole milliseconds, which the window bounds. -/
theorem answer_delta :
    (∀ est first rest, estimateAt d w calls now = some est →
      candidates d w calls record est = first :: rest →
      (answer d w calls record now).correlationDeltaMs.toNat = distance record est first / 1000000) ∧
    (answer d w calls record now).correlationDeltaMs.toNat ≤ min w.toNat 250 ∧
    ((∀ est, estimateAt d w calls now = some est → candidates d w calls record est = []) →
      (answer d w calls record now).correlationDeltaMs = 0) := by
  rcases answer_cases d w calls record now with
    ⟨_, zero, none⟩ | ⟨est, first, rest, valid, found, _, delta⟩
  · refine ⟨?_, ?_, fun _ => zero⟩
    · intro est first rest valid found
      rw [none est valid] at found
      cases found
    · rw [zero]
      exact Nat.zero_le _
  · refine ⟨?_, ?_, ?_⟩
    · intro est' first' rest' valid' found'
      obtain rfl : est' = est := Option.some.inj (valid'.symm.trans valid)
      obtain ⟨rfl, rfl⟩ := List.cons.inj (found'.symm.trans found)
      exact delta
    · have member : first ∈ candidates d w calls record est := by
        rw [found]
        exact List.mem_cons_self
      have near := (of_decide_eq_true (List.mem_filter.mp member).2).2
      rw [delta]
      omega
    · intro none
      rw [none est valid] at found
      cases found

/-- Runs that differ only in their correlations give the same answer. -/
theorem answer_congr {others : List CorrelatorCall} (same : observations others = observations calls) :
    answer d w others record now = answer d w calls record now := by
  have forgotten : (final call (new d w) others).forgetRecords =
      (final call (new d w) calls).forgetRecords := by
    rw [forgetRecords_final, same, ← forgetRecords_final]
  have equal := congrArg (fun state => (correlateGuestRecord state record now).1) forgotten
  exact equal

theorem answer_allow_iff :
    (answer d w calls record now).allowPidEnforcement = true ↔
      (answer d w calls record now).confidence = .high :=
  decide_eq_true_iff

end Answer

/-- The correlator refines the history of its calls. After any run the buffers hold the last thousand host
    events and the last thousand records; the confidence of the next record is decided by the number of
    retained events that match it under a valid estimate; the delta is the distance to the earliest of
    them; and the records correlated before make no difference. -/
theorem correlate_refines_history (d : Bytes 16) (w : UInt64) (calls : List CorrelatorCall)
    (record : GuestWriteRecord) (now : UInt64) :
    let reached := final call (new d w) calls
    let result := (reached.correlateGuestRecord record now).1
    let estimate := reached.clockSync.getValidEstimate now
    let found := fun est => matching w record est reached.hostEvents
    reached.hostEvents = (recorded calls).drop ((recorded calls).length - 1000) ∧
    reached.guestRecords = (correlated calls).drop ((correlated calls).length - 1000) ∧
    (result.confidence = .high ↔ ∃ est, estimate = some est ∧ (found est).length = 1) ∧
    (result.confidence = .medium ↔ ∃ est, estimate = some est ∧ 2 ≤ (found est).length) ∧
    (result.confidence = .low ↔ ∀ est, estimate = some est → found est = []) ∧
    (result.allowPidEnforcement = true ↔ result.confidence = .high) ∧
    (∀ est first rest, estimate = some est → found est = first :: rest →
      result.correlationDeltaMs.toNat = distance record est first / 1000000) ∧
    result.correlationDeltaMs.toNat ≤ min w.toNat 250 ∧
    ((∀ est, estimate = some est → found est = []) → result.correlationDeltaMs = 0) ∧
    ∀ others, observations others = observations calls →
      ((final call (new d w) others).correlateGuestRecord record now).1 = result := by
  intro reached result estimate found
  obtain ⟨delta, bound, zero⟩ := answer_delta d w calls record now
  exact ⟨hostEvents_isWindow d w calls, guestRecords_isWindow d w calls,
    answer_high_iff d w calls record now, answer_medium_iff d w calls record now,
    answer_low_iff d w calls record now, answer_allow_iff d w calls record now, delta, bound, zero,
    fun _ same => answer_congr d w calls record now same⟩

/-! ### What high confidence does not look at -/

/-- In the history of the calls, the clock estimate is valid at the time, and the event is the only one of
    the last thousand recorded events that matches the record under it. -/
def IsOnlyMatch (d : Bytes 16) (w : UInt64) (calls : List CorrelatorCall) (record : GuestWriteRecord)
    (now : UInt64) (estimate : ClockOffsetEstimate) (event : HostFileEvent) : Prop :=
  (final ClockSynchronizer.exchange (ClockSynchronizer.new d) (exchanges calls)).getValidEstimate now =
      some estimate ∧
    matching w record estimate ((recorded calls).drop ((recorded calls).length - 1000)) = [event]

instance decidableIsOnlyMatch (d : Bytes 16) (w : UInt64) (calls : List CorrelatorCall)
    (record : GuestWriteRecord) (now : UInt64) (estimate : ClockOffsetEstimate)
    (event : HostFileEvent) : Decidable (IsOnlyMatch d w calls record now estimate event) :=
  inferInstanceAs (Decidable (_ ∧ _))

theorem isOnlyMatch_iff {d : Bytes 16} {w : UInt64} {calls : List CorrelatorCall}
    {record : GuestWriteRecord} {now : UInt64} {estimate : ClockOffsetEstimate}
    {event : HostFileEvent} :
    IsOnlyMatch d w calls record now estimate event ↔ estimateAt d w calls now = some estimate ∧
      candidates d w calls record estimate = [event] := by
  unfold IsOnlyMatch estimateAt candidates
  rw [clockSync_final, hostEvents_isWindow d w calls]
  rfl

/-- A record is answered with high confidence exactly if it has a single match in the history. -/
theorem answer_high_iff_isOnlyMatch (d : Bytes 16) (w : UInt64) (calls : List CorrelatorCall)
    (record : GuestWriteRecord) (now : UInt64) :
    (answer d w calls record now).confidence = .high ↔
      ∃ estimate event, IsOnlyMatch d w calls record now estimate event := by
  rw [answer_high_iff]
  constructor
  · rintro ⟨estimate, valid, single⟩
    obtain ⟨event, only⟩ := List.length_eq_one_iff.mp single
    exact ⟨estimate, event, isOnlyMatch_iff.mpr ⟨valid, only⟩⟩
  · rintro ⟨estimate, event, only⟩
    obtain ⟨valid, found⟩ := isOnlyMatch_iff.mp only
    exact ⟨estimate, valid, by rw [found]; rfl⟩

/-- Enforcement is allowed in the run only for records of distribution `d` whose matching event comes from
    the process backing the distribution. -/
def HighOnlyForWsl (d : Bytes 16) (w : UInt64) (calls : List CorrelatorCall) : Prop :=
  ∀ before record now after, calls = before ++ .correlate record now :: after →
    (answer d w before record now).allowPidEnforcement = true →
    ∃ estimate event, estimateAt d w before now = some estimate ∧
      candidates d w before record estimate = [event] ∧ event.isVmmemProcess = true ∧
      record.distributionId = d

/-- In such a run, a record with a single match is of that distribution, and so is its match. -/
theorem backed_of_isOnlyMatch {d : Bytes 16} {w : UInt64} {calls before after : List CorrelatorCall}
    {record : GuestWriteRecord} {now : UInt64} {estimate : ClockOffsetEstimate} {event : HostFileEvent}
    (holds : HighOnlyForWsl d w calls) (split : calls = before ++ .correlate record now :: after)
    (only : IsOnlyMatch d w before record now estimate event) :
    record.distributionId = d ∧ event.isVmmemProcess = true := by
  have high := (answer_high_iff_isOnlyMatch d w before record now).mpr ⟨estimate, event, only⟩
  obtain ⟨valid, found⟩ := isOnlyMatch_iff.mp only
  obtain ⟨estimate', event', valid', found', backed, own⟩ :=
    holds before record now after split ((answer_allow_iff d w before record now).mpr high)
  obtain rfl : estimate = estimate' := Option.some.inj (valid.symm.trans valid')
  obtain ⟨rfl, _⟩ := List.cons.inj (found.symm.trans found')
  exact ⟨own, backed⟩

/-- The runs in which enforcement is allowed only for activity of the distribution: whenever a correlated
    record has a single match in the history, the record is of that distribution and the match is an event
    of its backing process. The correlator checks neither. -/
theorem high_only_for_wsl_iff (d : Bytes 16) (w : UInt64) (calls : List CorrelatorCall) :
    HighOnlyForWsl d w calls ↔
      ∀ before record now after estimate event,
        calls = before ++ .correlate record now :: after →
        IsOnlyMatch d w before record now estimate event →
        record.distributionId = d ∧ event.isVmmemProcess = true := by
  constructor
  · intro holds before record now after estimate event split only
    exact backed_of_isOnlyMatch holds split only
  · intro condition before record now after split allowed
    have high := (answer_allow_iff d w before record now).mp allowed
    obtain ⟨estimate, event, only⟩ := (answer_high_iff_isOnlyMatch d w before record now).mp high
    obtain ⟨valid, found⟩ := isOnlyMatch_iff.mp only
    obtain ⟨own, backed⟩ := condition before record now after estimate event split only
    exact ⟨estimate, event, valid, found, backed, own⟩

/-- An exchange that is accepted. -/
def sampleExchange : ClockExchange :=
  ⟨⟨Bytes.replicate 16 0xAA, 1000000000⟩, ⟨Bytes.replicate 16 0xAA, 1000000000, 1000000000⟩,
    1005000000⟩

/-- A host event on the path of the sample write. -/
def documentEvent (time : UInt64) (isVmmemProcess : Bool) : HostFileEvent :=
  ⟨time, "C:\\Users\\victim\\doc.txt", isVmmemProcess, 4096⟩

/-- The exchange, then the given host events. -/
def observing (events : List HostFileEvent) : List CorrelatorCall :=
  .sync sampleExchange.challenge sampleExchange.response sampleExchange.t3HostMonotonicNs ::
    events.map .recordHostEvent

theorem recorded_observing (events : List HostFileEvent) : recorded (observing events) = events := by
  have kept : recorded (events.map .recordHostEvent) = events := by
    simp [recorded, List.filterMap_map]
  exact kept

theorem exchanges_observing (events : List HostFileEvent) :
    exchanges (observing events) = [sampleExchange] := by
  have none : exchanges (events.map .recordHostEvent) = [] := by
    simp [exchanges, List.filterMap_map]
  exact congrArg (List.cons sampleExchange) none

/-- The estimate of that exchange. -/
def sampleEstimate (d : Bytes 16) : ClockOffsetEstimate :=
  { distributionId := d
    offsetNs := 2500000
    uncertaintyNs := 2500000
    acceptedAtHostMonotonicNs := 1005000000
    validUntilHostMonotonicNs := 91005000000 }

/-- Enforcement is allowed for a write matched by an ordinary Windows process, and for a write of another
    distribution than the synchronized one. -/
theorem high_for_foreign_activity :
    ¬ HighOnlyForWsl (Bytes.replicate 16 0x77) 250
        (observing [documentEvent 2000000000 false] ++ [.correlate (sampleWrite 4321 100) 2010000000]) ∧
      ¬ HighOnlyForWsl (Bytes.replicate 16 0x11) 250
        (observing [documentEvent 2000000000 true] ++ [.correlate (sampleWrite 4321 100) 2010000000]) := by
  refine ⟨?_, ?_⟩
  · intro holds
    have only : IsOnlyMatch (Bytes.replicate 16 0x77) 250
        (observing [documentEvent 2000000000 false]) (sampleWrite 4321 100) 2010000000
        (sampleEstimate (Bytes.replicate 16 0x77)) (documentEvent 2000000000 false) := by
      decide +kernel
    exact absurd (backed_of_isOnlyMatch holds rfl only).2 (by decide)
  · intro holds
    have only : IsOnlyMatch (Bytes.replicate 16 0x11) 250
        (observing [documentEvent 2000000000 true]) (sampleWrite 4321 100) 2010000000
        (sampleEstimate (Bytes.replicate 16 0x11)) (documentEvent 2000000000 true) := by
      decide +kernel
    exact absurd (backed_of_isOnlyMatch holds rfl only).1 (by decide)

/-! ### Evicted matches -/

/-- High confidence in the run means a single match among all events recorded so far. -/
def HighIsUnique (d : Bytes 16) (w : UInt64) (calls : List CorrelatorCall) : Prop :=
  ∀ before record now after, calls = before ++ .correlate record now :: after →
    (answer d w before record now).confidence = .high →
    ∃ estimate, estimateAt d w before now = some estimate ∧
      (matching w record estimate (recorded before)).length = 1

theorem length_matching_split (w : UInt64) (record : GuestWriteRecord)
    (estimate : ClockOffsetEstimate) (events : List HostFileEvent) (evicted : Nat) :
    (matching w record estimate events).length =
      (matching w record estimate (events.take evicted)).length +
        (matching w record estimate (events.drop evicted)).length := by
  unfold matching
  rw [← List.length_append, ← List.filter_append, List.take_append_drop]

/-- In such a run, an event evicted before a record with a single match does not match it. -/
theorem not_matches_of_evicted {d : Bytes 16} {w : UInt64} {calls before after : List CorrelatorCall}
    {record : GuestWriteRecord} {now : UInt64} {estimate : ClockOffsetEstimate}
    {event evicted : HostFileEvent}
    (holds : HighIsUnique d w calls) (split : calls = before ++ .correlate record now :: after)
    (only : IsOnlyMatch d w before record now estimate event)
    (old : evicted ∈ (recorded before).take ((recorded before).length - 1000)) :
    ¬ Matches w record estimate evicted := by
  intro matched
  have high := (answer_high_iff_isOnlyMatch d w before record now).mpr ⟨estimate, event, only⟩
  obtain ⟨estimate', valid', single⟩ := holds before record now after split high
  obtain rfl : estimate = estimate' :=
    Option.some.inj ((isOnlyMatch_iff.mp only).1.symm.trans valid')
  rw [length_matching_split _ _ _ _ ((recorded before).length - 1000), only.2,
    List.length_singleton] at single
  have member : evicted ∈ matching w record estimate
      ((recorded before).take ((recorded before).length - 1000)) :=
    List.mem_filter.mpr ⟨old, decide_eq_true matched⟩
  have positive := List.length_pos_of_mem member
  omega

/-- The runs in which high confidence means uniqueness: whenever a correlated record has a single match
    among the last thousand events, no event before them matches it. -/
theorem high_is_unique_iff (d : Bytes 16) (w : UInt64) (calls : List CorrelatorCall) :
    HighIsUnique d w calls ↔
      ∀ before record now after estimate event,
        calls = before ++ .correlate record now :: after →
        IsOnlyMatch d w before record now estimate event →
        ∀ evicted ∈ (recorded before).take ((recorded before).length - 1000),
          ¬ Matches w record estimate evicted := by
  constructor
  · intro holds before record now after estimate event split only evicted old
    exact not_matches_of_evicted holds split only old
  · intro condition before record now after split high
    obtain ⟨estimate, event, only⟩ := (answer_high_iff_isOnlyMatch d w before record now).mp high
    refine ⟨estimate, (isOnlyMatch_iff.mp only).1, ?_⟩
    have none : matching w record estimate
        ((recorded before).take ((recorded before).length - 1000)) = [] := by
      apply List.filter_eq_nil_iff.mpr
      intro evicted old
      simpa using condition before record now after estimate event split only evicted old
    rw [length_matching_split _ _ _ _ ((recorded before).length - 1000), only.2, none]
    rfl

/-- A host event on another path. -/
def unrelatedEvent : HostFileEvent :=
  ⟨2000000000, "C:\\Users\\victim\\photo.jpg", true, 4096⟩

/-- A write to the document, 999 writes elsewhere, and a second write to the document. -/
def floodEvents : List HostFileEvent :=
  documentEvent 2000000000 true ::
    (List.replicate 999 unrelatedEvent ++ [documentEvent 2001000000 true])

/-- After a thousand further events the first of two matching events is forgotten, and the record is
    answered with high confidence. -/
theorem high_after_flood :
    ¬ HighIsUnique (Bytes.replicate 16 0x77) 250
      (observing floodEvents ++ [.correlate (sampleWrite 4321 100) 2010000000]) := by
  intro holds
  let estimate := sampleEstimate (Bytes.replicate 16 0x77)
  have old : Matches 250 (sampleWrite 4321 100) estimate (documentEvent 2000000000 true) := by
    decide +kernel
  have recent : Matches 250 (sampleWrite 4321 100) estimate (documentEvent 2001000000 true) := by
    decide +kernel
  have unrelated : ¬ Matches 250 (sampleWrite 4321 100) estimate unrelatedEvent := by
    decide +kernel
  have evicted : floodEvents.length - 1000 = 1 := by
    simp only [floodEvents, List.length_cons, List.length_append, List.length_replicate,
      List.length_nil]
  have only : IsOnlyMatch (Bytes.replicate 16 0x77) 250 (observing floodEvents)
      (sampleWrite 4321 100) 2010000000 estimate (documentEvent 2001000000 true) := by
    refine ⟨?_, ?_⟩
    · rw [exchanges_observing]
      decide +kernel
    · rw [recorded_observing, evicted, floodEvents, List.drop_one, List.tail_cons, matching,
        List.filter_append, List.filter_replicate_of_neg (by simpa using unrelated), List.nil_append,
        List.filter_cons_of_pos (by simpa using recent), List.filter_nil]
  refine not_matches_of_evicted holds rfl only ?_ old
  rw [recorded_observing, evicted]
  exact List.mem_cons_self

end WslCorrelator

end KavachNpu

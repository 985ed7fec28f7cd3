/-
Module: KavachNpu.Proofs.Correlation
Layer: Proofs
Purpose: Which guest processes one host event can convict. The correlator neither consumes an event nor
  remembers for whom it was matched, so an event convicts every record for which it is the only match.
  Events are identified by their number in the run; the buffer is a window on the run's events, so a
  number means the same event at every call.
Trusted boundary: none
Main exports: WslCorrelator.hostEvents_isWindow, WslCorrelator.NoDoubleConviction,
  WslCorrelator.Separated, WslCorrelator.correlate_single_conviction
-/
import KavachNpu.Wsl.Correlator
import KavachNpu.Foundation.Trace

namespace KavachNpu

namespace WslCorrelator

/-! ### The buffer as a window on the run -/

/-- The host events recorded by the calls, in order. -/
def recorded (calls : List CorrelatorCall) : List HostFileEvent :=
  calls.filterMap fun
    | .recordHostEvent event => some event
    | _ => none

/-- What one call does to the buffer and to the window parameter. -/
theorem call_hostEvents (correlator : WslCorrelator) (c : CorrelatorCall) :
    (correlator.call c).2.hostEvents =
        (recorded [c]).foldl (pushBounded 1000) correlator.hostEvents ∧
      (correlator.call c).2.correlationWindowMs = correlator.correlationWindowMs := by
  cases c with
  | recordHostEvent event => exact ⟨rfl, rfl⟩
  | sync challenge response t3 => exact ⟨rfl, rfl⟩
  | correlate record now => exact ⟨rfl, rfl⟩

/-- A call moves the window on the recorded events along. -/
theorem call_isWindow {correlator : WslCorrelator} {history : List HostFileEvent}
    (window : IsWindow 1000 correlator.hostEvents history) (c : CorrelatorCall) :
    IsWindow 1000 (correlator.call c).2.hostEvents (history ++ recorded [c]) := by
  rw [(call_hostEvents correlator c).1]
  cases c with
  | recordHostEvent event => exact window.push event
  | sync challenge response t3 => simpa [recorded] using window
  | correlate record now => simpa [recorded] using window

theorem final_isWindow (calls : List CorrelatorCall) :
    ∀ (correlator : WslCorrelator) (history : List HostFileEvent),
      IsWindow 1000 correlator.hostEvents history →
      IsWindow 1000 (final call correlator calls).hostEvents (history ++ recorded calls) := by
  induction calls with
  | nil =>
      intro correlator history window
      simpa [recorded, final] using window
  | cons c rest ih =>
      intro correlator history window
      have next := ih _ _ (call_isWindow window c)
      rw [List.append_assoc] at next
      have split : recorded [c] ++ recorded rest = recorded (c :: rest) := by
        simp only [recorded, ← List.filterMap_append, List.singleton_append]
      rw [split] at next
      exact next

/-- After any run, the buffer holds the last thousand recorded events. -/
theorem hostEvents_isWindow (d : Bytes 16) (w : UInt64) (calls : List CorrelatorCall) :
    IsWindow 1000 (final call (new d w) calls).hostEvents (recorded calls) := by
  have window := final_isWindow calls (new d w) [] (isWindow_nil 1000)
  rw [List.nil_append] at window
  exact window

/-- The correlation window never changes. -/
theorem final_windowNs (d : Bytes 16) (w : UInt64) (calls : List CorrelatorCall) :
    (final call (new d w) calls).windowNs = (new d w).windowNs := by
  have unchanged : (final call (new d w) calls).correlationWindowMs =
      (new d w).correlationWindowMs := by
    refine final_induction
      (fun reached : WslCorrelator => reached.correlationWindowMs = (new d w).correlationWindowMs)
      ?_ calls rfl
    intro reached c same
    exact (call_hostEvents reached c).2.trans same
  unfold windowNs
  rw [unchanged]

/-! ### Convictions -/

/-- The numbers of the retained events that match a record, given the number of evicted ones. -/
def matchedEvents (correlator : WslCorrelator) (evicted : Nat) (record : GuestWriteRecord)
    (now : UInt64) : List Nat :=
  match correlator.clockSync.getValidEstimate now with
  | some estimate =>
      ((correlator.hostEvents.zipIdx evicted).filter fun numbered =>
        correlator.eventMatches record estimate numbered.1).map Prod.snd
  | none => []

/-- Correlating the record after the calls `before` allows PID enforcement, and event number `i` of the
    run is its unique match. -/
def Convicts (d : Bytes 16) (w : UInt64) (before : List CorrelatorCall) (record : GuestWriteRecord)
    (now : UInt64) (i : Nat) : Prop :=
  let correlator := final call (new d w) before
  (correlator.correlateGuestRecord record now).1.allowPidEnforcement = true ∧
    correlator.matchedEvents ((recorded before).length - correlator.hostEvents.length) record now = [i]

/-- The two records come from the same guest process. -/
def SameProcess (r₁ r₂ : GuestWriteRecord) : Prop :=
  r₁.guestProcessId = r₂.guestProcessId ∧ r₁.guestProcessStartTicks = r₂.guestProcessStartTicks

/-- No event of the run convicts two guest processes. -/
def NoDoubleConviction (d : Bytes 16) (w : UInt64) (calls : List CorrelatorCall) : Prop :=
  ∀ before₁ r₁ now₁ after₁ before₂ r₂ now₂ after₂ i,
    calls = before₁ ++ .correlate r₁ now₁ :: after₁ →
    calls = before₂ ++ .correlate r₂ now₂ :: after₂ →
    Convicts d w before₁ r₁ now₁ i → Convicts d w before₂ r₂ now₂ i → SameProcess r₁ r₂

/-- Two records that no host event can match both: their paths differ, or their adjusted times are more
    than two windows apart. -/
def Apart (window : Nat) (r₁ r₂ : GuestWriteRecord) (est₁ est₂ : ClockOffsetEstimate) : Prop :=
  eqIgnoreAsciiCase (windowsPath r₁) (windowsPath r₂) = false ∨
    2 * window < (absDiff (adjustedHostTs r₁ est₁) (adjustedHostTs r₂ est₂)).toNat

/-- Records of different guest processes that are correlated under a valid estimate are apart. -/
def Separated (d : Bytes 16) (w : UInt64) (calls : List CorrelatorCall) : Prop :=
  ∀ before₁ r₁ now₁ after₁ before₂ r₂ now₂ after₂ est₁ est₂,
    calls = before₁ ++ .correlate r₁ now₁ :: after₁ →
    calls = before₂ ++ .correlate r₂ now₂ :: after₂ →
    (final call (new d w) before₁).clockSync.getValidEstimate now₁ = some est₁ →
    (final call (new d w) before₂).clockSync.getValidEstimate now₂ = some est₂ →
    ¬ SameProcess r₁ r₂ → Apart (new d w).windowNs.toNat r₁ r₂ est₁ est₂

/-! ### Separated runs -/

theorem toNat_absDiff (a b : UInt64) :
    (absDiff a b).toNat = (a.toNat - b.toNat) + (b.toNat - a.toNat) := by
  unfold absDiff
  by_cases order : a < b
  · have below := UInt64.lt_iff_toNat_lt.mp order
    rw [if_pos order, UInt64.toNat_sub_of_le _ _ (UInt64.le_of_lt order)]
    omega
  · have above := UInt64.le_iff_toNat_le.mp (UInt64.not_lt.mp order)
    rw [if_neg order, UInt64.toNat_sub_of_le _ _ (UInt64.not_lt.mp order)]
    omega

/-- A matched number is that of a recorded event that matches under the valid estimate. -/
theorem exists_of_mem_matchedEvents {correlator : WslCorrelator} {history : List HostFileEvent}
    (window : IsWindow 1000 correlator.hostEvents history) {record : GuestWriteRecord} {now : UInt64}
    {i : Nat}
    (member : i ∈ correlator.matchedEvents (history.length - correlator.hostEvents.length) record now) :
    ∃ estimate event, correlator.clockSync.getValidEstimate now = some estimate ∧
      history[i]? = some event ∧ correlator.eventMatches record estimate event = true := by
  unfold matchedEvents at member
  cases valid : correlator.clockSync.getValidEstimate now with
  | none =>
      rw [valid] at member
      cases member
  | some estimate =>
      rw [valid] at member
      obtain ⟨⟨event, number⟩, found, rfl⟩ := List.mem_map.mp member
      obtain ⟨numbered, matching⟩ := List.mem_filter.mp found
      obtain ⟨shifted, position⟩ := List.mk_mem_zipIdx_iff_le_and_getElem?_sub.mp numbered
      refine ⟨estimate, event, rfl, ?_, matching⟩
      rw [window.getElem?_eq, Nat.add_sub_cancel' shifted] at position
      exact position

/-- The events recorded before a call of the run keep their numbers in the run. -/
theorem recorded_getElem?_of_run {calls before after : List CorrelatorCall} {c : CorrelatorCall}
    (run : calls = before ++ c :: after) {i : Nat} {event : HostFileEvent}
    (numbered : (recorded before)[i]? = some event) : (recorded calls)[i]? = some event := by
  have split : recorded calls = recorded before ++ recorded (c :: after) := by
    rw [run]
    exact List.filterMap_append
  obtain ⟨inside, _⟩ := List.getElem?_eq_some_iff.mp numbered
  rw [split, List.getElem?_append_left inside]
  exact numbered

/-- Records matched by one event are not apart. -/
theorem not_apart_of_eventMatches {correlator other : WslCorrelator} {window : UInt64}
    {r₁ r₂ : GuestWriteRecord} {est₁ est₂ : ClockOffsetEstimate} {event : HostFileEvent}
    (window₁ : correlator.windowNs = window) (window₂ : other.windowNs = window)
    (matches₁ : correlator.eventMatches r₁ est₁ event = true)
    (matches₂ : other.eventMatches r₂ est₂ event = true) :
    ¬ Apart window.toNat r₁ r₂ est₁ est₂ := by
  simp only [eventMatches, Bool.and_eq_true, decide_eq_true_eq, window₁, window₂] at matches₁ matches₂
  obtain ⟨path₁, near₁⟩ := matches₁
  obtain ⟨path₂, near₂⟩ := matches₂
  rintro (differ | far)
  · have same : eqIgnoreAsciiCase (windowsPath r₁) (windowsPath r₂) = true := by
      simp only [eqIgnoreAsciiCase, beq_iff_eq] at path₁ path₂ ⊢
      rw [← path₁, path₂]
    rw [same] at differ
    cases differ
  · have distance₁ := UInt64.le_iff_toNat_le.mp near₁
    have distance₂ := UInt64.le_iff_toNat_le.mp near₂
    rw [toNat_absDiff] at distance₁ distance₂ far
    omega

/-- In a separated run no event convicts two guest processes. -/
theorem noDoubleConviction_of_separated {d : Bytes 16} {w : UInt64} {calls : List CorrelatorCall}
    (separated : Separated d w calls) : NoDoubleConviction d w calls := by
  intro before₁ r₁ now₁ after₁ before₂ r₂ now₂ after₂ i run₁ run₂ convicts₁ convicts₂
  have member₁ : i ∈ [i] := List.mem_singleton_self i
  have member₂ : i ∈ [i] := List.mem_singleton_self i
  rw [← convicts₁.2] at member₁
  rw [← convicts₂.2] at member₂
  obtain ⟨est₁, event₁, valid₁, number₁, matches₁⟩ :=
    exists_of_mem_matchedEvents (hostEvents_isWindow d w before₁) member₁
  obtain ⟨est₂, event₂, valid₂, number₂, matches₂⟩ :=
    exists_of_mem_matchedEvents (hostEvents_isWindow d w before₂) member₂
  have same : event₁ = event₂ := Option.some.inj
    ((recorded_getElem?_of_run run₁ number₁).symm.trans (recorded_getElem?_of_run run₂ number₂))
  subst same
  by_contra different
  exact not_apart_of_eventMatches (final_windowNs d w before₁) (final_windowNs d w before₂)
    matches₁ matches₂
    (separated before₁ r₁ now₁ after₁ before₂ r₂ now₂ after₂ est₁ est₂ run₁ run₂ valid₁ valid₂ different)

/-! ### Runs that are not separated -/

theorem uncertainty_of_valid {sync : ClockSynchronizer} {now : UInt64} {estimate : ClockOffsetEstimate}
    (valid : sync.getValidEstimate now = some estimate) : estimate.uncertaintyNs ≤ 50000000 :=
  (ClockSynchronizer.getValidEstimate_eq_some.mp valid).2.2.1

theorem eventMatches_congr {correlator other : WslCorrelator}
    (window : correlator.windowNs = other.windowNs) :
    correlator.eventMatches = other.eventMatches := by
  unfold eventMatches
  rw [window]

/-- If the last retained event is the only one that matches, the record is convicted through it. -/
theorem convicts_of_last {d : Bytes 16} {w : UInt64} {before : List CorrelatorCall}
    {record : GuestWriteRecord} {now : UInt64} {estimate : ClockOffsetEstimate}
    {front : List HostFileEvent} {event : HostFileEvent}
    (valid : (final call (new d w) before).clockSync.getValidEstimate now = some estimate)
    (retained : (final call (new d w) before).hostEvents = front ++ [event])
    (others : ∀ other ∈ front, (new d w).eventMatches record estimate other = false)
    (matching : (new d w).eventMatches record estimate event = true) :
    Convicts d w before record now ((recorded before).length - 1) := by
  rw [← eventMatches_congr (final_windowNs d w before)] at others matching
  have certain := uncertainty_of_valid valid
  have window := (hostEvents_isWindow d w before).length
  have found : (final call (new d w) before).hostEvents.filter
      ((final call (new d w) before).eventMatches record estimate) = [event] := by
    rw [retained, List.filter_append, List.filter_eq_nil_iff.mpr (by simpa using others)]
    simp [matching]
  refine ⟨?_, ?_⟩
  · simp [correlateGuestRecord, classify, valid, found, certain]
  · have unmatched : ∀ k, (front.zipIdx k).filter (fun numbered =>
        (final call (new d w) before).eventMatches record estimate numbered.1) = [] := by
      intro k
      apply List.filter_eq_nil_iff.mpr
      intro numbered member
      simp [others numbered.1 (List.fst_mem_of_mem_zipIdx member)]
    rw [retained, List.length_append, List.length_singleton] at window
    simp only [matchedEvents, valid, retained, List.zipIdx_append, List.filter_append, unmatched,
      List.nil_append, List.zipIdx_singleton, List.length_append, List.length_singleton]
    simp [matching]
    omega

/-- A time within the window of both of two times that are at most two windows apart. -/
theorem exists_between {a b window : UInt64}
    (close : (absDiff a b).toNat ≤ 2 * window.toNat) :
    ∃ t, absDiff t a ≤ window ∧ absDiff t b ≤ window := by
  rw [toNat_absDiff] at close
  have bound := a.toNat_lt
  have bound' := b.toNat_lt
  let middle := min a.toNat b.toNat + min window.toNat (max a.toNat b.toNat - min a.toNat b.toNat)
  have inRange : middle < 2 ^ 64 := by omega
  have value : (UInt64.ofNat middle).toNat = middle := by
    rw [UInt64.toNat_ofNat']
    exact Nat.mod_eq_of_lt inRange
  refine ⟨UInt64.ofNat middle, ?_, ?_⟩
  all_goals
    rw [UInt64.le_iff_toNat_le, toNat_absDiff, value]
    omega

/-- Records that are not apart are matched by one event: it lies between the two adjusted times and
    carries the first record's own path. -/
theorem exists_event_of_not_apart {correlator : WslCorrelator} {r₁ r₂ : GuestWriteRecord}
    {est₁ est₂ : ClockOffsetEstimate}
    (close : ¬ Apart correlator.windowNs.toNat r₁ r₂ est₁ est₂) :
    ∃ event, correlator.eventMatches r₁ est₁ event = true ∧
      correlator.eventMatches r₂ est₂ event = true := by
  simp only [Apart, not_or, Bool.not_eq_false, Nat.not_lt] at close
  obtain ⟨path, near⟩ := close
  obtain ⟨t, near₁, near₂⟩ := exists_between near
  have own : eqIgnoreAsciiCase (windowsPath r₁) (windowsPath r₁) = true := by
    simp [eqIgnoreAsciiCase]
  refine ⟨⟨t, windowsPath r₁, true, 0⟩, ?_, ?_⟩
  · simp [eventMatches, own, near₁]
  · simp [eventMatches, path, near₂]

/-- Two records of different guest processes that are not apart, correlated under valid estimates in a
    state where no retained event matches them, are both convicted through one host event, recorded
    right before them. -/
theorem double_conviction_of_not_apart {d : Bytes 16} {w : UInt64} {before : List CorrelatorCall}
    {r₁ r₂ : GuestWriteRecord} {now₁ now₂ : UInt64} {est₁ est₂ : ClockOffsetEstimate}
    (valid₁ : (final call (new d w) before).clockSync.getValidEstimate now₁ = some est₁)
    (valid₂ : (final call (new d w) before).clockSync.getValidEstimate now₂ = some est₂)
    (unmatched : ∀ event ∈ (final call (new d w) before).hostEvents,
      (new d w).eventMatches r₁ est₁ event = false ∧ (new d w).eventMatches r₂ est₂ event = false)
    (different : ¬ SameProcess r₁ r₂) (close : ¬ Apart (new d w).windowNs.toNat r₁ r₂ est₁ est₂) :
    ∃ event, ¬ NoDoubleConviction d w
      (before ++ [.recordHostEvent event, .correlate r₁ now₁, .correlate r₂ now₂]) := by
  obtain ⟨event, matches₁, matches₂⟩ := exists_event_of_not_apart close
  obtain ⟨front, older, retained⟩ := exists_pushBounded_eq_append (Nat.succ_pos 999)
    (final call (new d w) before).hostEvents event
  let before₁ := before ++ [.recordHostEvent event]
  let before₂ := before₁ ++ [.correlate r₁ now₁]
  have events₁ : (final call (new d w) before₁).hostEvents = front ++ [event] := by
    rw [final_append]
    exact retained
  have events₂ : (final call (new d w) before₂).hostEvents = front ++ [event] := by
    rw [final_append]
    exact events₁
  have estimate₁ : (final call (new d w) before₁).clockSync.getValidEstimate now₁ = some est₁ := by
    rw [final_append]
    exact valid₁
  have estimate₂ : (final call (new d w) before₂).clockSync.getValidEstimate now₂ = some est₂ := by
    rw [final_append, final_append]
    exact valid₂
  have convicts₁ : Convicts d w before₁ r₁ now₁ ((recorded before₁).length - 1) := by
    apply convicts_of_last estimate₁ events₁ _ matches₁
    intro other member
    exact (unmatched other (older other member)).1
  -- correlating the first record adds no event, so the same number means the same event
  have count : (recorded before₂).length = (recorded before₁).length := by
    simp [before₂, recorded]
  have convicts₂ : Convicts d w before₂ r₂ now₂ ((recorded before₁).length - 1) := by
    rw [← count]
    apply convicts_of_last estimate₂ events₂ _ matches₂
    intro other member
    exact (unmatched other (older other member)).2
  refine ⟨event, ?_⟩
  intro single
  refine different (single before₁ r₁ now₁ [.correlate r₂ now₂] before₂ r₂ now₂ [] _ ?_ ?_
    convicts₁ convicts₂)
  · simp [before₁]
  · simp [before₂, before₁]

/-- Which runs are safe. In a run whose records of different guest processes, correlated under valid
    estimates, are apart, no host event convicts two guest processes. The condition cannot be weakened
    for any pair of records: after any calls that leave no event matching them, two records that violate
    it are both convicted through one host event. -/
theorem correlate_single_conviction (d : Bytes 16) (w : UInt64) :
    (∀ calls : List CorrelatorCall, Separated d w calls → NoDoubleConviction d w calls) ∧
    (∀ (before : List CorrelatorCall) (r₁ r₂ : GuestWriteRecord) (now₁ now₂ : UInt64)
      (est₁ est₂ : ClockOffsetEstimate),
      (final call (new d w) before).clockSync.getValidEstimate now₁ = some est₁ →
      (final call (new d w) before).clockSync.getValidEstimate now₂ = some est₂ →
      (∀ event ∈ (final call (new d w) before).hostEvents,
        (new d w).eventMatches r₁ est₁ event = false ∧
          (new d w).eventMatches r₂ est₂ event = false) →
      ¬ SameProcess r₁ r₂ → ¬ Apart (new d w).windowNs.toNat r₁ r₂ est₁ est₂ →
      ∃ event, ¬ NoDoubleConviction d w
        (before ++ [.recordHostEvent event, .correlate r₁ now₁, .correlate r₂ now₂])) := by
  refine ⟨?_, ?_⟩
  · intro calls separated
    exact noDoubleConviction_of_separated separated
  · intro before r₁ r₂ now₁ now₂ est₁ est₂ valid₁ valid₂ unmatched different close
    exact double_conviction_of_not_apart valid₁ valid₂ unmatched different close

/-- A write of `/mnt/c/Users/victim/doc.txt` by the given guest process. -/
def sampleWrite (pid : UInt32) (startTicks : UInt64) : GuestWriteRecord :=
  { version := { major := 1, minor := 0 }
    sequenceNumber := 1
    guestMonotonicNs := 1995000000
    guestRealtimeNs := 0
    guestProcessId := pid
    guestProcessStartTicks := startTicks
    distributionId := Bytes.replicate 16 0x77
    mountNamespaceId := 1
    executableSha256 := Bytes.replicate 32 0
    cgroupSha256 := Bytes.replicate 32 0
    operation := .write
    normalizedPath := "/mnt/c/Users/victim/doc.txt"
    byteRangeStart := 0
    byteRangeLength := 4096
    flags := 0 }

/-- One accepted exchange and one host event on that path. -/
def sampleSetup : List CorrelatorCall :=
  [.sync ⟨Bytes.replicate 16 0xAA, 1000000000⟩ ⟨Bytes.replicate 16 0xAA, 1000000000, 1000000000⟩
      1005000000,
    .recordHostEvent ⟨2000000000, "C:\\Users\\victim\\doc.txt", true, 4096⟩]

instance decidableConvicts (d : Bytes 16) (w : UInt64) (before : List CorrelatorCall)
    (record : GuestWriteRecord) (now : UInt64) (i : Nat) :
    Decidable (Convicts d w before record now i) :=
  inferInstanceAs (Decidable (_ ∧ _))

/-- A host event does convict two guest processes: both writes are attributed with high confidence, each
    through event number 0. -/
theorem one_event_convicts_two_processes :
    ¬ ∀ (d : Bytes 16) (w : UInt64) (calls : List CorrelatorCall), NoDoubleConviction d w calls := by
  intro single
  have convicts₁ : Convicts (Bytes.replicate 16 0x77) 250 sampleSetup (sampleWrite 4321 100)
      2010000000 0 := by decide +kernel
  have convicts₂ : Convicts (Bytes.replicate 16 0x77) 250
      (sampleSetup ++ [.correlate (sampleWrite 4321 100) 2010000000]) (sampleWrite 9876 200)
      2011000000 0 := by decide +kernel
  have same := single (Bytes.replicate 16 0x77) 250
    (sampleSetup ++ [.correlate (sampleWrite 4321 100) 2010000000,
      .correlate (sampleWrite 9876 200) 2011000000]) _ _ _ _ _ _ _ _ 0 rfl
    (List.append_assoc sampleSetup [_] [_]).symm convicts₁ convicts₂
  exact absurd same.1 (by decide)

end WslCorrelator

end KavachNpu

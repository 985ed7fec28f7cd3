/-
Module: KavachNpu.Proofs.EventSequence
Layer: Proofs
Purpose: What event correlation reports over a whole sequence of records. The tracker holds the last
  sixteen records; each call reports the pattern that the record and the fifteen before it make, or
  nothing.
Trusted boundary: none
Main exports: failuresBefore, Reports, recordEvent_exact
-/
import KavachNpu.Events.Sequence
import KavachNpu.Foundation.Trace
import KavachNpu.Foundation.Window

namespace KavachNpu

namespace EventSequenceTracker

/-- The failed logons of the latest record's user among the fifteen records before it, as far as their
    timestamp plus a minute reaches the latest one's. -/
def failuresBefore (before : List SecurityEventRecord) (latest : SecurityEventRecord) : Nat :=
  (before.drop (before.length - 15)).countP fun e =>
    decide (e.eventId = .logonFailure ∧ e.subjectUser = latest.subjectUser ∧
      latest.timestampUnixMs.toNat ≤ e.timestampUnixMs.toNat + 60000)

/-- What is reported for a record, given the records before it: one clause for each pattern. -/
structure Reports (before : List SecurityEventRecord) (latest : SecurityEventRecord)
    (reported : Option CorrelationPattern) : Prop where
  tampering : reported = some .auditLogTampering ↔ latest.eventId = .auditLogCleared
  persistence : ∀ name, reported = some (.persistenceServiceInstalled name) ↔
    (latest.eventId = .serviceInstall ∨ latest.eventId = .serviceCreated) ∧ name = latest.targetResource
  script : ∀ pid, reported = some (.suspiciousScriptExecution pid) ↔
    latest.eventId = .powerShellScriptBlock ∧ pid = latest.processId
  bruteForce : ∀ user count, reported = some (.bruteForceCompromised user count) ↔
    latest.eventId = .logonSuccess ∧ user = latest.subjectUser ∧ count = failuresBefore before latest ∧
      3 ≤ count
  nothing : reported = none ↔
    latest.eventId ≠ .auditLogCleared ∧ latest.eventId ≠ .serviceInstall ∧
      latest.eventId ≠ .serviceCreated ∧ latest.eventId ≠ .powerShellScriptBlock ∧
      ¬ (latest.eventId = .logonSuccess ∧ 3 ≤ failuresBefore before latest)

variable (sha256 : List UInt8 → Bytes 32)

/-- The saturating comparison of two timestamps, without overflow. -/
theorem saturatingSub_le_minute (latest earlier : UInt64) :
    saturatingSub latest earlier ≤ 60000 ↔ latest.toNat ≤ earlier.toNat + 60000 := by
  rw [UInt64.le_iff_toNat_le, toNat_saturatingSub]
  change latest.toNat - earlier.toNat ≤ 60000 ↔ _
  omega

/-- The window searched for failures is the record and the fifteen before it; the record itself is a
    successful logon and does not count. -/
theorem recentFailures_of_window {before : List SecurityEventRecord} {latest : SecurityEventRecord}
    {tracker : EventSequenceTracker} (window : IsWindow 16 tracker.events (before ++ [latest]))
    (success : latest.eventId = .logonSuccess) :
    tracker.recentFailures latest = failuresBefore before latest := by
  have events : tracker.events = before.drop (before.length - 15) ++ [latest] := by
    have shift : before.length + 1 - 16 = before.length - 15 := by omega
    rw [window, List.length_append, List.length_singleton, shift,
      List.drop_append_of_le_length (Nat.sub_le _ _)]
  unfold recentFailures failuresBefore
  rw [events, List.countP_append, List.countP_singleton, if_neg (by simp [success]), Nat.add_zero]
  apply List.countP_congr
  intro e _
  simp only [Bool.and_eq_true, beq_iff_eq, decide_eq_true_eq, saturatingSub_le_minute, and_assoc]

/-- One call, on a tracker that already holds the record. -/
theorem correlateRecent_reports {before : List SecurityEventRecord} {latest : SecurityEventRecord}
    {tracker : EventSequenceTracker} (window : IsWindow 16 tracker.events (before ++ [latest])) :
    Reports before latest
      ((tracker.correlateRecent sha256 latest).map EventAnomalyAlert.pattern) := by
  unfold correlateRecent
  cases kind : latest.eventId with
  | logonSuccess =>
      rw [recentFailures_of_window window kind]
      by_cases enough : failuresBefore before latest ≥ 3
      · simp only [enough, and_self, if_true, reduceCtorEq, if_false, or_self]
        constructor
        · simp [alert, kind]
        · simp [alert, kind]
        · simp [alert, kind]
        · intro user count
          simp only [alert, Option.map_some, Option.some.injEq,
            CorrelationPattern.bruteForceCompromised.injEq, kind, true_and]
          constructor
          · rintro ⟨rfl, rfl⟩
            exact ⟨rfl, rfl, enough⟩
          · rintro ⟨rfl, rfl, -⟩
            exact ⟨rfl, rfl⟩
        · simp [kind, enough]
      · simp only [enough, and_false, if_false, reduceCtorEq, or_self]
        constructor
        · simp [kind]
        · simp [kind]
        · simp [kind]
        · intro user count
          simp only [Option.map_none, reduceCtorEq, kind, true_and, false_iff]
          rintro ⟨-, rfl, many⟩
          exact enough many
        · simpa [kind] using enough
  | logonFailure => constructor <;> simp [kind]
  | bugCheck => constructor <;> simp [kind]
  | serviceInstall => constructor <;> simp [alert, kind, eq_comm]
  | serviceCreated => constructor <;> simp [alert, kind, eq_comm]
  | auditLogCleared => constructor <;> simp [alert, kind]
  | powerShellScriptBlock => constructor <;> simp [alert, kind, eq_comm]

/-- The window after one more record. -/
theorem recordEvent_window {before : List SecurityEventRecord} {tracker : EventSequenceTracker}
    (window : IsWindow 16 tracker.events before) (record : SecurityEventRecord) :
    IsWindow 16 (recordEvent sha256 tracker record).2.events (before ++ [record]) :=
  window.evict_push (by decide) record

/-- The window after any records. -/
theorem final_window (records : List SecurityEventRecord) :
    IsWindow 16 (final (recordEvent sha256) new records).events records := by
  induction records using List.reverseRecOn with
  | nil => exact isWindow_nil 16
  | append_singleton before record ih =>
      rw [final_append]
      exact recordEvent_window sha256 ih record

/-- For every sequence of records the tracker holds the last sixteen of them, in order, and each call
    reports what the record and its predecessors make. -/
theorem recordEvent_exact (records : List SecurityEventRecord) :
    (final (recordEvent sha256) new records).events = records.drop (records.length - 16) ∧
    (final (recordEvent sha256) new records).events.length = min 16 records.length ∧
    ∀ before latest after, records = before ++ latest :: after → ∃ returned,
      (trace (recordEvent sha256) new records)[before.length]? = some (latest, returned) ∧
      Reports before latest (returned.map EventAnomalyAlert.pattern) := by
  have window : IsWindow 16 (final (recordEvent sha256) new records).events records :=
    final_window sha256 records
  refine ⟨window, window.length, ?_⟩
  rintro before latest after rfl
  refine ⟨_, getElem?_trace new before latest after, ?_⟩
  exact correlateRecent_reports sha256 (recordEvent_window sha256 (final_window sha256 before) latest)

end EventSequenceTracker

end KavachNpu

/-
Module: KavachNpu.Proofs.EvidenceDigests
Layer: Proofs
Purpose: What the evidence digests are taken over. The fields of fixed width can be read back from the
  hasher input, but paths and names are written one after another without their lengths: two pieces of
  evidence share an input exactly when their texts agree once they are joined.
Trusted boundary: none
Main exports: burstHasherInput, digest_of_evaluated, PathsRunTogether, ShiftedBoundary,
  hasher_inputs_identify_iff
-/
import KavachNpu.Proofs.TripwireBuckets
import KavachNpu.Proofs.TripwireWindow
import KavachNpu.Events.Sequence

namespace KavachNpu

namespace EvidenceDigests

open TripwireBuckets

/-! ### Fields of fixed width -/

theorem u32ToBeBytes_injective {a b : UInt32} (same : (u32ToBeBytes a).toList = (u32ToBeBytes b).toList) :
    a = b := by
  rw [← u32FromBeBytes_toBeBytes a, same, u32FromBeBytes_toBeBytes]

theorem u64ToBeBytes_injective {a b : UInt64} (same : (u64ToBeBytes a).toList = (u64ToBeBytes b).toList) :
    a = b := by
  rw [← u64FromBeBytes_toBeBytes a, same, u64FromBeBytes_toBeBytes]

theorem asU32_injective {a b : CriticalEventId} (same : a.asU32 = b.asU32) : a = b := by
  revert same
  cases a <;> cases b <;> decide

/-- A byte string behind fields of equal widths is read back. -/
theorem fields_eq_iff {n : Nat} {field field' : Bytes n} {rest rest' : List UInt8} :
    field.toList ++ rest = field'.toList ++ rest' ↔ field.toList = field'.toList ∧ rest = rest' := by
  constructor
  · intro same
    exact List.append_inj same (by rw [Bytes.length_toList, Bytes.length_toList])
  · rintro ⟨first, second⟩
    rw [first, second]

/-! ### The evidence of a burst -/

section Tripwire

variable {D S : Type} [Add D] [Sub D] [Mul D] [Div D] [LE D] [LT D] [DecidableLE D] [DecidableLT D]
  [NatCast D] [OfScientific D] [FloatOps D] [Div S] [LT S] [DecidableLT S] [NatCast S] [OfScientific S]
  [AsF32 D S]

/-- The set of files that a process has touched. -/
def touchedFiles (tracker : WriteBurstTracker D) (pid : UInt32) : Set String :=
  { file | ∃ e ∈ ownEvents tracker pid, e.path = file }

/-- The same files, in the order of the digest. -/
def sortedFiles (tracker : WriteBurstTracker D) (pid : UInt32) : List String :=
  ((ownEvents tracker pid).map FileOperationEvent.path).dedup.mergeSort bytesLe

/-- `total_bytes`, a `usize`. -/
def writtenBytes (tracker : WriteBurstTracker D) (pid : UInt32) : UInt64 :=
  UInt64.ofNat ((ownEvents tracker pid).map FileOperationEvent.bytesWritten).sum

/-- What the hasher of `evaluate_pid` is fed. -/
def burstHasherInput (tracker : WriteBurstTracker D) (pid : UInt32) : List UInt8 :=
  (u32ToBeBytes pid).toList ++ (u64ToBeBytes (writtenBytes tracker pid)).toList ++
    (sortedFiles tracker pid).flatMap asBytes

/-- The digest of an evaluation is taken over that input. -/
theorem digest_of_evaluated {sha256 : List UInt8 → Bytes 32} {tracker : WriteBurstTracker D}
    {pid : UInt32} {now : UInt64} {eval : ProcessBurstEvaluation D S}
    (evaluated : tracker.evaluatePid sha256 pid now = some eval) :
    eval.evidenceDigest = sha256 (burstHasherInput tracker pid) := by
  unfold WriteBurstTracker.evaluatePid at evaluated
  simp only at evaluated
  split at evaluated
  · cases evaluated
  · cases evaluated
    rfl

end Tripwire

section Files

variable {D : Type}

theorem mem_sortedFiles (tracker : WriteBurstTracker D) (pid : UInt32) (file : String) :
    file ∈ sortedFiles tracker pid ↔ file ∈ touchedFiles tracker pid := by
  unfold sortedFiles
  rw [(sorted_dedup _).2, List.mem_map]
  rfl

/-- A set of files has one sorted list. -/
theorem sortedFiles_eq_iff {left right : WriteBurstTracker D} {pid pid' : UInt32} :
    sortedFiles left pid = sortedFiles right pid' ↔ touchedFiles left pid = touchedFiles right pid' := by
  constructor
  · intro same
    ext file
    rw [← mem_sortedFiles, ← mem_sortedFiles, same]
  · intro same
    have sorted := (sorted_dedup ((ownEvents left pid).map FileOperationEvent.path)).1
    have sorted' := (sorted_dedup ((ownEvents right pid').map FileOperationEvent.path)).1
    have strict : ∀ {a b : String}, asBytes a < asBytes b → a ≠ b := by
      rintro a b less rfl
      exact List.lt_irrefl _ less
    have members : ∀ file, file ∈ sortedFiles left pid ↔ file ∈ sortedFiles right pid' := by
      intro file
      rw [mem_sortedFiles, mem_sortedFiles, same]
    apply List.Perm.eq_of_pairwise _ sorted sorted'
    · exact (List.perm_ext_iff_of_nodup (sorted.imp strict) (sorted'.imp strict)).mpr members
    · intro a b _ _ less greater
      exact absurd (List.lt_trans less greater) (List.lt_irrefl _)

/-- Two bursts have one hasher input exactly if they agree in the process, the total and the joined
    paths. -/
theorem burstHasherInput_eq_iff {left right : WriteBurstTracker D} {pid pid' : UInt32} :
    burstHasherInput left pid = burstHasherInput right pid' ↔
      pid = pid' ∧ writtenBytes left pid = writtenBytes right pid' ∧
        String.join (sortedFiles left pid) = String.join (sortedFiles right pid') := by
  unfold burstHasherInput
  rw [List.append_assoc, List.append_assoc, fields_eq_iff, fields_eq_iff, ← asBytes_join, ← asBytes_join]
  constructor
  · rintro ⟨process, total, paths⟩
    exact ⟨u32ToBeBytes_injective process, u64ToBeBytes_injective total, asBytes_injective paths⟩
  · rintro ⟨process, total, paths⟩
    exact ⟨congrArg _ (congrArg _ process), congrArg _ (congrArg _ total), congrArg _ paths⟩

/-- The process and the total agree and the files differ, yet the sorted paths, written one after another,
    spell the same text. -/
def PathsRunTogether (left right : WriteBurstTracker D) (pid pid' : UInt32) : Prop :=
  pid = pid' ∧ writtenBytes left pid = writtenBytes right pid' ∧
    touchedFiles left pid ≠ touchedFiles right pid' ∧
    String.join (sortedFiles left pid) = String.join (sortedFiles right pid')

theorem burst_inputs_differ_iff (left right : WriteBurstTracker D) (pid pid' : UInt32) :
    ((pid ≠ pid' ∨ writtenBytes left pid ≠ writtenBytes right pid' ∨
        touchedFiles left pid ≠ touchedFiles right pid') →
      burstHasherInput left pid ≠ burstHasherInput right pid') ↔
    ¬ PathsRunTogether left right pid pid' := by
  rw [ne_eq (burstHasherInput left pid), burstHasherInput_eq_iff]
  constructor
  · rintro identified ⟨process, total, files, paths⟩
    exact identified (.inr (.inr files)) ⟨process, total, paths⟩
  · rintro apart (process | total | files) ⟨process', total', paths⟩
    · exact process process'
    · exact total total'
    · exact apart ⟨process', total', files, paths⟩

end Files

/-! ### The evidence of an event -/

/-- The records agree in the fields of fixed width, and a text moves from the start of one target to the
    end of the user before it. -/
def ShiftedBoundary (record other : SecurityEventRecord) : Prop :=
  record.eventId = other.eventId ∧ record.timestampUnixMs = other.timestampUnixMs ∧
    record.processId = other.processId ∧ ∃ moved : String, moved ≠ "" ∧
      ((other.subjectUser = record.subjectUser ++ moved ∧
          record.targetResource = moved ++ other.targetResource) ∨
        (record.subjectUser = other.subjectUser ++ moved ∧
          other.targetResource = moved ++ record.targetResource))

theorem hasherInput_eq_iff {record other : SecurityEventRecord} :
    record.hasherInput = other.hasherInput ↔
      record.eventId = other.eventId ∧ record.timestampUnixMs = other.timestampUnixMs ∧
        record.processId = other.processId ∧
        record.subjectUser ++ record.targetResource = other.subjectUser ++ other.targetResource := by
  unfold SecurityEventRecord.hasherInput
  simp only [List.append_assoc]
  rw [fields_eq_iff, fields_eq_iff, fields_eq_iff, ← asBytes_append, ← asBytes_append]
  constructor
  · rintro ⟨kind, time, process, names⟩
    exact ⟨asU32_injective (u32ToBeBytes_injective kind), u64ToBeBytes_injective time,
      u32ToBeBytes_injective process, asBytes_injective names⟩
  · rintro ⟨kind, time, process, names⟩
    rw [kind, time, process, names]
    exact ⟨rfl, rfl, rfl, rfl⟩

/-- A first part that continues another takes what it has more from the second part behind that. -/
theorem moved_of_continued {user target user' target' : String} {more : List Char}
    (longer : user'.toList = user.toList ++ more) (rest : target.toList = more ++ target'.toList) :
    (user = user' ∧ target = target') ∨
      ∃ moved : String, moved ≠ "" ∧ user' = user ++ moved ∧ target = moved ++ target' := by
  by_cases empty : more = []
  · left
    subst empty
    exact ⟨String.toList_inj.mp (by simpa using longer.symm), String.toList_inj.mp (by simpa using rest)⟩
  · right
    refine ⟨String.ofList more, by simpa using empty, ?_, ?_⟩
    · apply String.toList_inj.mp
      simpa using longer
    · apply String.toList_inj.mp
      simpa using rest

/-- Two texts cut at different places: the longer first part continues the shorter one. -/
theorem append_eq_append_cases {user target user' target' : String}
    (same : user ++ target = user' ++ target') :
    (user = user' ∧ target = target') ∨ ∃ moved : String, moved ≠ "" ∧
      ((user' = user ++ moved ∧ target = moved ++ target') ∨
        (user = user' ++ moved ∧ target' = moved ++ target)) := by
  have chars : user.toList ++ target.toList = user'.toList ++ target'.toList := by
    rw [← String.toList_append, same, String.toList_append]
  rcases List.append_eq_append_iff.mp chars with ⟨more, longer, rest⟩ | ⟨more, longer, rest⟩
  · rcases moved_of_continued longer rest with equal | ⟨moved, visible, layout⟩
    · exact .inl equal
    · exact .inr ⟨moved, visible, .inl layout⟩
  · rcases moved_of_continued longer rest with ⟨user, target⟩ | ⟨moved, visible, layout⟩
    · exact .inl ⟨user.symm, target.symm⟩
    · exact .inr ⟨moved, visible, .inr layout⟩

theorem event_inputs_differ_iff (record other : SecurityEventRecord) :
    (record ≠ other → record.hasherInput ≠ other.hasherInput) ↔ ¬ ShiftedBoundary record other := by
  constructor
  · rintro identified ⟨kind, time, process, moved, visible, layout⟩
    have names : record.subjectUser ++ record.targetResource =
        other.subjectUser ++ other.targetResource := by
      rcases layout with ⟨user, target⟩ | ⟨user, target⟩
      · rw [user, target, String.append_assoc]
      · rw [user, target, String.append_assoc]
    have different : record ≠ other := by
      rintro rfl
      have longer : record.subjectUser = record.subjectUser ++ moved := by
        rcases layout with ⟨user, -⟩ | ⟨user, -⟩
        · exact user
        · exact user
      have lengths := congrArg (fun text : String => text.toList) longer
      simp at lengths
      exact visible lengths
    exact identified different (hasherInput_eq_iff.mpr ⟨kind, time, process, names⟩)
  · intro apart different same
    obtain ⟨kind, time, process, names⟩ := hasherInput_eq_iff.mp same
    rcases append_eq_append_cases names with ⟨user, target⟩ | shifted
    · apply different
      cases record
      cases other
      simp_all
    · exact apart ⟨kind, time, process, shifted⟩

theorem digest_of_alert {sha256 : List UInt8 → Bytes 32} {tracker : EventSequenceTracker}
    {latest : SecurityEventRecord} {alert : EventAnomalyAlert}
    (returned : tracker.correlateRecent sha256 latest = some alert) :
    alert.evidenceDigest = sha256 latest.hasherInput := by
  unfold EventSequenceTracker.correlateRecent at returned
  split at returned
  · cases returned
    rfl
  · split at returned
    · cases returned
      rfl
    · split at returned
      · cases returned
        rfl
      · split at returned
        · cases returned
          rfl
        · cases returned

/-! ### Main result -/

section Main

variable {D S : Type} [Add D] [Sub D] [Mul D] [Div D] [LE D] [LT D] [DecidableLE D] [DecidableLT D]
  [NatCast D] [OfScientific D] [FloatOps D] [Div S] [LT S] [DecidableLT S] [NatCast S] [OfScientific S]
  [AsF32 D S]

/-- The digests are taken over the hasher inputs. Different evidence has different inputs, except for two
    bursts whose paths run together and for two records between which the boundary of user and target has
    moved. -/
theorem hasher_inputs_identify_iff :
    (∀ (sha256 : List UInt8 → Bytes 32) (tracker : WriteBurstTracker D) (pid : UInt32) (now : UInt64)
      (eval : ProcessBurstEvaluation D S), tracker.evaluatePid sha256 pid now = some eval →
        eval.evidenceDigest = sha256 (burstHasherInput tracker pid)) ∧
    (∀ (left right : WriteBurstTracker D) (pid pid' : UInt32),
      ((pid ≠ pid' ∨ writtenBytes left pid ≠ writtenBytes right pid' ∨
          touchedFiles left pid ≠ touchedFiles right pid') →
        burstHasherInput left pid ≠ burstHasherInput right pid') ↔
      ¬ PathsRunTogether left right pid pid') ∧
    (∀ (sha256 : List UInt8 → Bytes 32) (tracker : EventSequenceTracker) (latest : SecurityEventRecord)
      (alert : EventAnomalyAlert), tracker.correlateRecent sha256 latest = some alert →
        alert.evidenceDigest = sha256 latest.hasherInput) ∧
    ∀ record other : SecurityEventRecord,
      (record ≠ other → record.hasherInput ≠ other.hasherInput) ↔ ¬ ShiftedBoundary record other :=
  ⟨fun _ _ _ _ _ => digest_of_evaluated, burst_inputs_differ_iff, fun _ _ _ _ => digest_of_alert,
    event_inputs_differ_iff⟩

end Main

/-- One file of ten bytes. -/
def oneFile : WriteBurstTracker ℚ :=
  { windowDurationMs := 50
    suspensionFileThreshold := 3
    events := [⟨7, 10, "ab", 10, [], false⟩] }

/-- Two files of four and six bytes. -/
def twoFiles : WriteBurstTracker ℚ :=
  { windowDurationMs := 50
    suspensionFileThreshold := 3
    events := [⟨7, 10, "a", 4, [], false⟩, ⟨7, 11, "b", 6, [], false⟩] }

theorem sortedFiles_twoFiles : sortedFiles twoFiles 7 = ["a", "b"] := by
  have paths : ((ownEvents twoFiles 7).map FileOperationEvent.path).dedup = ["a", "b"] := by
    decide +kernel
  have ordered : bytesLe "a" "b" = true := by decide
  unfold sortedFiles
  rw [paths]
  simp [List.mergeSort, List.MergeSort.Internal.splitInTwo, ordered]

theorem sortedFiles_oneFile : sortedFiles oneFile 7 = ["ab"] := by
  have paths : ((ownEvents oneFile 7).map FileOperationEvent.path).dedup = ["ab"] := by
    decide +kernel
  unfold sortedFiles
  rw [paths, List.mergeSort_singleton]

/-- Different evidence with equal digests, under every hash function: the file `ab` against the files `a`
    and `b`, and the user `ab` on the target `c` against the user `a` on `bc`. -/
theorem evidence_collides :
    (touchedFiles oneFile 7 ≠ touchedFiles twoFiles 7 ∧
      burstHasherInput oneFile 7 = burstHasherInput twoFiles 7 ∧
      ∀ sha256 : List UInt8 → Bytes 32, ∃ eval eval' : ProcessBurstEvaluation ℚ ℚ,
        oneFile.evaluatePid sha256 7 20 = some eval ∧ twoFiles.evaluatePid sha256 7 20 = some eval' ∧
          eval.evidenceDigest = eval'.evidenceDigest) ∧
    (⟨.auditLogCleared, 1, 2, "ab", "c"⟩ : SecurityEventRecord) ≠ ⟨.auditLogCleared, 1, 2, "a", "bc"⟩ ∧
      (⟨.auditLogCleared, 1, 2, "ab", "c"⟩ : SecurityEventRecord).hasherInput =
        (⟨.auditLogCleared, 1, 2, "a", "bc"⟩ : SecurityEventRecord).hasherInput := by
  have same : burstHasherInput oneFile 7 = burstHasherInput twoFiles 7 := by
    rw [burstHasherInput_eq_iff, sortedFiles_oneFile, sortedFiles_twoFiles]
    decide +kernel
  refine ⟨⟨?_, same, ?_⟩, by decide, by decide⟩
  · rw [ne_eq, ← sortedFiles_eq_iff, sortedFiles_oneFile, sortedFiles_twoFiles]
    decide
  · intro sha256
    obtain ⟨eval, evaluated⟩ : ∃ eval : ProcessBurstEvaluation ℚ ℚ,
        oneFile.evaluatePid sha256 7 20 = some eval := ⟨_, rfl⟩
    obtain ⟨eval', evaluated'⟩ : ∃ eval : ProcessBurstEvaluation ℚ ℚ,
        twoFiles.evaluatePid sha256 7 20 = some eval := ⟨_, rfl⟩
    refine ⟨eval, eval', evaluated, evaluated', ?_⟩
    rw [digest_of_evaluated evaluated, digest_of_evaluated evaluated', same]

end EvidenceDigests

end KavachNpu

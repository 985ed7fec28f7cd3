/-
Module: KavachNpu.Proofs.TripwireBuckets
Layer: Proofs
Purpose: Which events an evaluation counts, and where. The totals of an evaluation range over everything
  the tracker holds for the process, the time slots over half-open intervals of the window: an event of
  the present moment is counted but lies in no slot, and an event that has left the window is counted
  until the next purge.
Trusted boundary: none
Main exports: TripwireBuckets.Partitioned, TripwireBuckets.buckets_partition_iff, TripwireBuckets.call,
  TripwireBuckets.mem_events_of_calls, TripwireBuckets.purge_transparent_iff
-/
import Mathlib.Algebra.BigOperators.Group.Finset.Piecewise
import Mathlib.Data.Fintype.BigOperators
import KavachNpu.Proofs.HeadOne

namespace KavachNpu

/-! ### Sums over a partition -/

section Partition

variable {ι α : Type} [Fintype ι] [DecidableEq ι]

/-- If every item is in exactly one class, the sums over the classes add up to the sum over all items. -/
theorem sum_filter_classes {items : List α} {kind : ι → α → Bool}
    (unique : ∀ item ∈ items, ∃! i, kind i item = true) (f : α → Nat) :
    ∑ i, ((items.filter (kind i)).map f).sum = (items.map f).sum := by
  induction items with
  | nil => simp
  | cons item rest ih =>
      obtain ⟨home, inside, only⟩ := unique item List.mem_cons_self
      have others := ih fun other member => unique other (List.mem_cons_of_mem item member)
      have split : ∀ i, (((item :: rest).filter (kind i)).map f).sum =
          (if i = home then f item else 0) + ((rest.filter (kind i)).map f).sum := by
        intro i
        by_cases here : i = home
        · rw [here, List.filter_cons_of_pos inside, List.map_cons, List.sum_cons, if_pos rfl]
        · have outside : ¬ kind i item = true := fun kept => here (only i kept)
          rw [List.filter_cons_of_neg outside, if_neg here, Nat.zero_add]
      simp only [split, Finset.sum_add_distrib, others, List.map_cons, List.sum_cons,
        Finset.sum_ite_eq', Finset.mem_univ, if_true]

theorem countP_eq_sum (items : List α) (kept : α → Bool) :
    items.countP kept = (items.map fun item => (kept item).toNat).sum := by
  induction items with
  | nil => rfl
  | cons item rest ih =>
      rw [List.map_cons, List.sum_cons, ← ih, List.countP_cons]
      cases kept item with
      | true => simp [Nat.add_comm]
      | false => simp

end Partition

namespace TripwireBuckets

/-! ### What an evaluation counts -/

section Totals

variable {D S : Type} [Add D] [Sub D] [Mul D] [Div D] [LE D] [LT D] [DecidableLE D] [DecidableLT D]
  [NatCast D] [OfScientific D] [FloatOps D] [Div S] [LT S] [DecidableLT S] [NatCast S] [OfScientific S]
  [AsF32 D S]

/-- The events of a process. -/
def ownEvents (tracker : WriteBurstTracker D) (pid : UInt32) : List (FileOperationEvent D) :=
  tracker.events.filter fun e => e.pid == pid

/-- The totals of an evaluation count every event that the tracker holds for the process. -/
theorem totals_of_evaluated {sha256 : List UInt8 → Bytes 32} {tracker : WriteBurstTracker D}
    {pid : UInt32} {now : UInt64} {eval : ProcessBurstEvaluation D S}
    (evaluated : tracker.evaluatePid sha256 pid now = some eval) :
    ownEvents tracker pid ≠ [] ∧
      eval.totalWrites = (ownEvents tracker pid).countP (fun e => ! e.isRename) ∧
      eval.totalRenames = (ownEvents tracker pid).countP FileOperationEvent.isRename ∧
      eval.totalBytes = ((ownEvents tracker pid).map FileOperationEvent.bytesWritten).sum := by
  unfold WriteBurstTracker.evaluatePid at evaluated
  simp only at evaluated
  split at evaluated
  · cases evaluated
  · rename_i present
    cases evaluated
    exact ⟨fun empty => present (List.isEmpty_iff.mpr empty), rfl, rfl, rfl⟩

end Totals

/-! ### The ten slots -/

section Slots

variable {D : Type} [Mul D] [Div D] [NatCast D] [FloatOps D]

/-- The events of a process that lie in slot `i`. -/
def bucketOf (tracker : WriteBurstTracker D) (pid : UInt32) (now : UInt64) (i : Fin 10) :
    List (FileOperationEvent D) :=
  WriteBurstTracker.bucketEvents tracker.windowDurationMs
    (saturatingSub now tracker.windowDurationMs) (ownEvents tracker pid) i

/-- The slots partition the counted events: each is in exactly one of them, and the renames and bytes of
    the slots add up to the totals. -/
structure Partitioned {S : Type} (tracker : WriteBurstTracker D) (pid : UInt32) (now : UInt64)
    (eval : ProcessBurstEvaluation D S) : Prop where
  unique : ∀ e ∈ ownEvents tracker pid, ∃! i, e ∈ bucketOf tracker pid now i
  renames : ∑ i, (bucketOf tracker pid now i).countP FileOperationEvent.isRename = eval.totalRenames
  bytes : ∑ i, ((bucketOf tracker pid now i).map FileOperationEvent.bytesWritten).sum = eval.totalBytes

/-- If every event is in exactly one slot, the sums over the slots are the sums over the events. -/
theorem sum_bucketEvents {w start : UInt64} {events : List (FileOperationEvent D)}
    (unique : ∀ e ∈ events, ∃! i : Fin 10, e ∈ WriteBurstTracker.bucketEvents w start events i)
    (f : FileOperationEvent D → Nat) :
    ∑ i : Fin 10, ((WriteBurstTracker.bucketEvents w start events i).map f).sum =
      (events.map f).sum := by
  apply sum_filter_classes
  intro e member
  obtain ⟨i, inside, only⟩ := unique e member
  refine ⟨i, (List.mem_filter.mp inside).2, ?_⟩
  intro j kept
  exact only j (List.mem_filter.mpr ⟨member, kept⟩)

variable [SlotBounds D]

/-- In the default window an event is in exactly one slot if it is younger than the window and older than
    its end, and otherwise in none. -/
theorem existsUnique_bucketEvents {now : UInt64} {events : List (FileOperationEvent D)}
    {e : FileOperationEvent D} (member : e ∈ events) :
    (∃! i : Fin 10, e ∈ WriteBurstTracker.bucketEvents 50 (saturatingSub now 50) events i) ↔
      (saturatingSub now 50).toNat ≤ e.timestampMs.toNat ∧
        e.timestampMs.toNat < (saturatingSub now 50).toNat + 50 := by
  constructor
  · rintro ⟨i, inside, _⟩
    obtain ⟨_, low, high⟩ := (WriteBurstTracker.mem_bucketEvents i.isLt).mp inside
    have last := i.isLt
    exact ⟨by omega, by omega⟩
  · rintro ⟨low, high⟩
    have lt : (e.timestampMs.toNat - (saturatingSub now 50).toNat) / 5 < 10 := by omega
    refine ⟨⟨_, lt⟩, (WriteBurstTracker.mem_bucketEvents lt).mpr ⟨member, by omega, by omega⟩, ?_⟩
    intro i inside
    obtain ⟨_, low', high'⟩ := (WriteBurstTracker.mem_bucketEvents i.isLt).mp inside
    apply Fin.ext
    simp only
    omega

end Slots

section Runs

variable {D S : Type} [Add D] [Sub D] [Mul D] [Div D] [LE D] [LT D] [DecidableLE D] [DecidableLT D]
  [NatCast D] [OfScientific D] [FloatOps D] [Div S] [LT S] [DecidableLT S] [NatCast S] [OfScientific S]
  [AsF32 D S] (log2 : D → D) (sha256 : List UInt8 → Bytes 32)

/-- An evaluation of the default window is partitioned exactly if all its events lie in the 50 ms from the
    start of the window. -/
theorem partitioned_iff [SlotBounds D] {tracker : WriteBurstTracker D} {pid : UInt32} {now : UInt64}
    {eval : ProcessBurstEvaluation D S} (window : tracker.windowDurationMs = 50)
    (evaluated : tracker.evaluatePid sha256 pid now = some eval) :
    Partitioned tracker pid now eval ↔ ∀ e ∈ ownEvents tracker pid,
      (saturatingSub now 50).toNat ≤ e.timestampMs.toNat ∧
        e.timestampMs.toNat < (saturatingSub now 50).toNat + 50 := by
  obtain ⟨_, _, renames, bytes⟩ := totals_of_evaluated evaluated
  have unique : (∀ e ∈ ownEvents tracker pid, ∃! i, e ∈ bucketOf tracker pid now i) ↔
      ∀ e ∈ ownEvents tracker pid, (saturatingSub now 50).toNat ≤ e.timestampMs.toNat ∧
        e.timestampMs.toNat < (saturatingSub now 50).toNat + 50 := by
    simp only [bucketOf, window]
    exact forall₂_congr fun e member => existsUnique_bucketEvents member
  constructor
  · intro partitioned
    exact unique.mp partitioned.unique
  · intro inside
    have each := unique.mpr inside
    refine ⟨each, ?_, ?_⟩
    · simp only [countP_eq_sum, renames]
      exact sum_bucketEvents each _
    · rw [bytes]
      exact sum_bucketEvents each _

/-- The operations that an evaluation of the default window counts come from the window that ends at the
    last operation. -/
theorem mem_ownEvents_of_run {ops : List FileOperation} {op : FileOperation}
    (ordered : EntropyEngine.Chronological (ops ++ [op])) {pid : UInt32} {e : FileOperationEvent D} :
    e ∈ ownEvents (HeadOne.trackerOf (S := S) log2 sha256 (ops ++ [op])) pid ↔
      ∃ o ∈ ops ++ [op], o.pid = pid ∧ saturatingSub op.nowMs 50 ≤ o.nowMs ∧
        EntropyEngine.eventOf log2 o = e := by
  have events := EntropyEngine.events_of_run (D := D) (S := S) log2 sha256 50 3 ordered
  have own : ownEvents (HeadOne.trackerOf (S := S) log2 sha256 (ops ++ [op])) pid =
      (EntropyEngine.ownInWindow 50 pid op.nowMs (ops ++ [op])).map (EntropyEngine.eventOf log2) := by
    rw [← EntropyEngine.filter_pid_inWindow, ← events]
    rfl
  rw [own, List.mem_map]
  constructor
  · rintro ⟨o, kept, rfl⟩
    obtain ⟨recorded, fits⟩ := List.mem_filter.mp kept
    obtain ⟨samePid, fresh⟩ := Bool.and_eq_true_iff.mp fits
    exact ⟨o, recorded, beq_iff_eq.mp samePid, of_decide_eq_true fresh, rfl⟩
  · rintro ⟨o, recorded, samePid, fresh, rfl⟩
    refine ⟨o, List.mem_filter.mpr ⟨recorded, ?_⟩, rfl⟩
    exact Bool.and_eq_true_iff.mpr ⟨beq_iff_eq.mpr samePid, decide_eq_true fresh⟩

/-- When the slots partition an evaluation. At the end of every chronological run of the default engine,
    the slots hold each counted operation of a process once, and add up to its totals, if and only if less
    than 50 ms have passed since time zero or none of its operations is of the present moment: the totals
    include the present, the slots end before it. -/
theorem buckets_partition_iff [SlotBounds D] (ops : List FileOperation) (op : FileOperation)
    (ordered : EntropyEngine.Chronological (ops ++ [op])) (pid : UInt32)
    (eval : ProcessBurstEvaluation D S)
    (evaluated : (HeadOne.trackerOf (S := S) log2 sha256 (ops ++ [op])).evaluatePid sha256 pid op.nowMs =
      some eval) :
    Partitioned (HeadOne.trackerOf (S := S) log2 sha256 (ops ++ [op])) pid op.nowMs eval ↔
      op.nowMs < 50 ∨ ∀ o ∈ ops ++ [op], o.pid = pid → o.nowMs ≠ op.nowMs := by
  have start : (saturatingSub op.nowMs 50).toNat = op.nowMs.toNat - 50 := toNat_saturatingSub ..
  have early : op.nowMs < 50 ↔ op.nowMs.toNat < 50 := UInt64.lt_iff_toNat_lt
  have window : (HeadOne.trackerOf (D := D) (S := S) log2 sha256 (ops ++ [op])).windowDurationMs = 50 :=
    (EntropyEngine.trackerAfter_params (S := S) log2 sha256 50 3 (ops ++ [op])).1
  rw [partitioned_iff sha256 window evaluated, start, early]
  constructor
  · intro inside
    by_contra! late
    obtain ⟨late, o, recorded, samePid, present⟩ := late
    -- an operation of the present moment is in the window, at its very end
    have fresh : saturatingSub op.nowMs 50 ≤ o.nowMs := present ▸ saturatingSub_le op.nowMs 50
    have counted := (mem_ownEvents_of_run (S := S) log2 sha256 ordered).mpr
      ⟨o, recorded, samePid, fresh, rfl⟩
    have before : o.nowMs.toNat < op.nowMs.toNat - 50 + 50 := (inside _ counted).2
    rw [present] at before
    omega
  · intro condition e counted
    obtain ⟨o, recorded, samePid, fresh, rfl⟩ :=
      (mem_ownEvents_of_run (S := S) log2 sha256 ordered).mp counted
    have low := UInt64.le_iff_toNat_le.mp fresh
    rw [start] at low
    have last := UInt64.le_iff_toNat_le.mp (EntropyEngine.le_last_of_chronological ordered o recorded)
    change op.nowMs.toNat - 50 ≤ o.nowMs.toNat ∧ o.nowMs.toNat < op.nowMs.toNat - 50 + 50
    rcases condition with small | distinct
    · omega
    · have ne : o.nowMs.toNat ≠ op.nowMs.toNat := fun same =>
        distinct o recorded samePid (UInt64.toNat_inj.mp same)
      omega

end Runs

/-- Process 7 writes three bytes at second 1. -/
def sampleWrites : List FileOperation :=
  [⟨7, "a.docx", [1, 2, 3], false, 1000⟩]

/-- Process 9 writes one byte 10 ms later. -/
def sampleLater : FileOperation :=
  ⟨9, "app.log", [1], false, 1010⟩

/-- Seen from the write of process 9, the slots partition what process 7 did. -/
theorem sampleWrites_partitioned :
    EntropyEngine.Chronological (sampleWrites ++ [sampleLater]) ∧
      ∀ sha256 : List UInt8 → Bytes 32, ∃ eval : ProcessBurstEvaluation ℚ ℚ,
        (HeadOne.trackerOf (S := ℚ) HeadOne.log2Rat sha256 (sampleWrites ++ [sampleLater])).evaluatePid
            sha256 7 sampleLater.nowMs = some eval ∧
          Partitioned (HeadOne.trackerOf (S := ℚ) HeadOne.log2Rat sha256 (sampleWrites ++ [sampleLater])) 7
            sampleLater.nowMs eval := by
  have ordered : EntropyEngine.Chronological (sampleWrites ++ [sampleLater]) := by
    unfold EntropyEngine.Chronological sampleWrites sampleLater
    decide
  refine ⟨ordered, ?_⟩
  intro sha256
  have own : EntropyEngine.ownInWindow 50 7 sampleLater.nowMs (sampleWrites ++ [sampleLater]) =
      sampleWrites := rfl
  have active : EntropyEngine.ownInWindow 50 7 sampleLater.nowMs (sampleWrites ++ [sampleLater]) ≠ [] := by
    rw [own]
    decide
  have evaluated := EntropyEngine.evaluatePid_of_run (D := ℚ) (S := ℚ) HeadOne.log2Rat sha256 50 3 ordered
    active
  refine ⟨_, evaluated, ?_⟩
  apply (buckets_partition_iff HeadOne.log2Rat sha256 sampleWrites sampleLater ordered 7 _ evaluated).mpr
  right
  unfold sampleWrites sampleLater
  decide

/-- The evaluation that follows the write of process 7 counts its three bytes, and no slot holds them. -/
theorem present_write_in_no_slot :
    ∃ eval : ProcessBurstEvaluation ℚ ℚ,
      (HeadOne.trackerOf (S := ℚ) HeadOne.log2Rat (fun _ => Bytes.replicate 32 0) sampleWrites).evaluatePid
          (fun _ => Bytes.replicate 32 0) 7 1000 = some eval ∧
        eval.totalWrites = 1 ∧ eval.totalBytes = 3 ∧
        (∀ i, bucketOf (HeadOne.trackerOf (S := ℚ) HeadOne.log2Rat (fun _ => Bytes.replicate 32 0)
          sampleWrites) 7 1000 i = []) ∧
        ¬ Partitioned (HeadOne.trackerOf (S := ℚ) HeadOne.log2Rat (fun _ => Bytes.replicate 32 0)
          sampleWrites) 7 1000 eval := by
  have scored : ((HeadOne.trackerOf (S := ℚ) HeadOne.log2Rat (fun _ => Bytes.replicate 32 0)
      sampleWrites).evaluatePid (S := ℚ) (fun _ => Bytes.replicate 32 0) 7 1000).map
      (fun eval => (eval.totalWrites, eval.totalBytes)) = some (1, 3) := by
    decide +kernel
  have lengths : ∀ i, (bucketOf (HeadOne.trackerOf (S := ℚ) HeadOne.log2Rat
      (fun _ => Bytes.replicate 32 0) sampleWrites) 7 1000 i).length = 0 := by
    decide +kernel
  have empty := fun i => List.length_eq_zero_iff.mp (lengths i)
  obtain ⟨eval, evaluated, totals⟩ := Option.map_eq_some_iff.mp scored
  obtain ⟨writes, bytes⟩ := Prod.mk.inj totals
  refine ⟨eval, evaluated, writes, bytes, empty, ?_⟩
  intro partitioned
  have sum := partitioned.bytes
  simp only [empty, List.map_nil, List.sum_nil, Finset.sum_const_zero, bytes] at sum
  exact absurd sum (by decide)

/-! ### What a purge would change -/

section Calls

variable {D : Type}

/-- A call that changes a tracker, with its reading of the clock. -/
inductive TrackerCall (D : Type) where
  | record (event : FileOperationEvent D) (nowMs : UInt64)
  | purge (nowMs : UInt64)

/-- The reading of the clock that a call purges by. -/
def TrackerCall.reading : TrackerCall D → UInt64
  | record _ nowMs => nowMs
  | purge nowMs => nowMs

/-- One call. -/
def call (tracker : WriteBurstTracker D) : TrackerCall D → Unit × WriteBurstTracker D
  | .record event nowMs => ((), tracker.recordEvent event nowMs)
  | .purge nowMs => ((), tracker.purgeExpired nowMs)

theorem ownEvents_purgeExpired (tracker : WriteBurstTracker D) (pid : UInt32) (now : UInt64) :
    ownEvents (tracker.purgeExpired now) pid = (ownEvents tracker pid).filter fun e =>
      decide (e.timestampMs ≥ saturatingSub now tracker.windowDurationMs) :=
  List.filter_comm ..

/-- One call appends what it records, if anything, and purges by its reading. -/
theorem call_tracker (tracker : WriteBurstTracker D) (c : TrackerCall D) :
    (call tracker c).2.windowDurationMs = tracker.windowDurationMs ∧
      ∀ e, e ∈ (call tracker c).2.events ↔
        (e ∈ tracker.events ∨ c = .record e c.reading) ∧
          saturatingSub c.reading tracker.windowDurationMs ≤ e.timestampMs := by
  cases c with
  | record event now =>
      refine ⟨rfl, ?_⟩
      intro e
      have recorded : TrackerCall.record event now = .record e now ↔ e = event := by
        constructor
        · intro same
          injection same with same
          exact same.symm
        · rintro rfl
          rfl
      simp only [call, TrackerCall.reading, WriteBurstTracker.recordEvent, WriteBurstTracker.purgeExpired,
        List.mem_filter, List.mem_append, List.mem_singleton, decide_eq_true_eq, recorded, ge_iff_le]
  | purge now =>
      refine ⟨rfl, ?_⟩
      intro e
      simp [call, TrackerCall.reading, WriteBurstTracker.purgeExpired]

theorem windowDurationMs_of_calls (w : UInt64) (k : Nat) (calls : List (TrackerCall D)) :
    (final call (WriteBurstTracker.withParams w k) calls).windowDurationMs = w := by
  apply final_induction (fun tracker : WriteBurstTracker D => tracker.windowDurationMs = w) _ calls rfl
  intro tracker c held
  exact (call_tracker tracker c).1.trans held

/-- The tracker holds the recorded events that no reading has found expired since. -/
theorem mem_events_of_calls (w : UInt64) (k : Nat) (calls : List (TrackerCall D))
    (e : FileOperationEvent D) :
    e ∈ (final call (WriteBurstTracker.withParams w k) calls).events ↔
      ∃ before reading after, calls = before ++ .record e reading :: after ∧
        ∀ c ∈ .record e reading :: after, saturatingSub c.reading w ≤ e.timestampMs := by
  induction calls using List.reverseRecOn with
  | nil =>
      constructor
      · intro held
        cases held
      · rintro ⟨before, reading, after, absent, _⟩
        simp at absent
  | append_singleton calls c ih =>
      have step := (call_tracker (final call (WriteBurstTracker.withParams w k) calls) c).2 e
      rw [windowDurationMs_of_calls, ih] at step
      rw [final_append]
      change e ∈ (call (final call (WriteBurstTracker.withParams w k) calls) c).2.events ↔ _
      rw [step]
      constructor
      · rintro ⟨⟨before, reading, after, rfl, fresh⟩ | recorded, last⟩
        · refine ⟨before, reading, after ++ [c], by simp, ?_⟩
          intro other member
          rw [← List.cons_append, List.mem_append, List.mem_singleton] at member
          rcases member with early | rfl
          · exact fresh other early
          · exact last
        · refine ⟨calls, c.reading, [], by rw [← recorded], ?_⟩
          intro other member
          rw [List.mem_singleton.mp member, ← recorded]
          exact last
      · rintro ⟨before, reading, after, split, fresh⟩
        -- the record is the last call, or one of the calls before it
        rcases List.eq_nil_or_concat after with rfl | ⟨middle, last, rfl⟩
        · obtain ⟨rfl, same⟩ := List.append_inj' split rfl
          obtain rfl := List.singleton_inj.mp same
          exact ⟨Or.inr rfl, fresh _ List.mem_cons_self⟩
        · rw [List.concat_eq_append, ← List.cons_append, ← List.append_assoc] at split
          obtain ⟨rfl, same⟩ := List.append_inj' split rfl
          obtain rfl := List.singleton_inj.mp same
          refine ⟨Or.inl ⟨before, reading, middle, rfl, ?_⟩, fresh c (by simp)⟩
          intro other member
          exact fresh other (by
            rcases List.mem_cons.mp member with rfl | later
            · exact List.mem_cons_self
            · simp [later])

end Calls

section Purges

variable {D S : Type} [Add D] [Sub D] [Mul D] [Div D] [LE D] [LT D] [DecidableLE D] [DecidableLT D]
  [NatCast D] [OfScientific D] [FloatOps D] [Div S] [LT S] [DecidableLT S] [NatCast S] [OfScientific S]
  [AsF32 D S] (sha256 : List UInt8 → Bytes 32)

/-- An evaluation reads nothing but the parameters and the events of the process. -/
theorem evaluatePid_congr {left right : WriteBurstTracker D} {pid : UInt32} {now : UInt64}
    (window : left.windowDurationMs = right.windowDurationMs)
    (threshold : left.suspensionFileThreshold = right.suspensionFileThreshold)
    (own : ownEvents left pid = ownEvents right pid) :
    left.evaluatePid (S := S) sha256 pid now = right.evaluatePid sha256 pid now := by
  unfold ownEvents at own
  unfold WriteBurstTracker.evaluatePid
  simp only [window, threshold, own]

/-- A process is evaluated exactly if the tracker holds an event of it. -/
theorem evaluatePid_eq_none {tracker : WriteBurstTracker D} {pid : UInt32} {now : UInt64} :
    tracker.evaluatePid (S := S) sha256 pid now = none ↔ ownEvents tracker pid = [] := by
  unfold WriteBurstTracker.evaluatePid
  simp only
  split
  · rename_i empty
    exact iff_of_true rfl (List.isEmpty_iff.mp empty)
  · rename_i present
    exact iff_of_false (by simp) (fun empty => present (List.isEmpty_iff.mpr empty))

/-- The writes and the renames of an evaluation are all its events. -/
theorem length_of_evaluated {tracker : WriteBurstTracker D} {pid : UInt32} {now : UInt64}
    {eval : ProcessBurstEvaluation D S}
    (evaluated : tracker.evaluatePid sha256 pid now = some eval) :
    (ownEvents tracker pid).length = eval.totalWrites + eval.totalRenames := by
  obtain ⟨_, writes, renames, _⟩ := totals_of_evaluated evaluated
  have split := List.length_eq_countP_add_countP FileOperationEvent.isRename (l := ownEvents tracker pid)
  have negated : (ownEvents tracker pid).countP (fun e => ! e.isRename) =
      (ownEvents tracker pid).countP (fun e => decide ¬ e.isRename = true) := by
    apply List.countP_congr
    intro e _
    cases e.isRename with
    | true => simp
    | false => simp
  omega

/-- Equal evaluations count equally many events. -/
theorem length_of_evaluations_eq {left right : WriteBurstTracker D} {pid : UInt32} {now : UInt64}
    (same : left.evaluatePid (S := S) sha256 pid now = right.evaluatePid sha256 pid now) :
    (ownEvents left pid).length = (ownEvents right pid).length := by
  cases evaluated : left.evaluatePid (S := S) sha256 pid now with
  | none =>
      rw [evaluated] at same
      rw [(evaluatePid_eq_none sha256).mp evaluated, (evaluatePid_eq_none sha256).mp same.symm]
  | some eval =>
      rw [evaluated] at same
      rw [length_of_evaluated sha256 evaluated, length_of_evaluated sha256 same.symm]

/-- A purge leaves an evaluation as it is exactly if it removes nothing of the process. -/
theorem evaluatePid_purgeExpired_iff (tracker : WriteBurstTracker D) (pid : UInt32) (now : UInt64) :
    tracker.evaluatePid (S := S) sha256 pid now = (tracker.purgeExpired now).evaluatePid sha256 pid now ↔
      ∀ e ∈ ownEvents tracker pid, saturatingSub now tracker.windowDurationMs ≤ e.timestampMs := by
  have kept := ownEvents_purgeExpired tracker pid now
  constructor
  · intro same e own
    have lengths := length_of_evaluations_eq sha256 same
    rw [kept] at lengths
    exact of_decide_eq_true (List.length_filter_eq_length_iff.mp lengths.symm e own)
  · intro fresh
    apply evaluatePid_congr
    · rfl
    · rfl
    · rw [kept]
      exact (List.filter_eq_self.mpr fun e own => decide_eq_true (fresh e own)).symm

/-- When a purge is transparent. After every run of recordings and purges, with any event times and
    readings, an evaluation at `now` equals the evaluation after a purge at `now` if and only if each
    recorded event of the process that is older than the window at `now` had expired at one of the readings
    since its recording: what the last purge left is counted, however old it is by now. -/
theorem purge_transparent_iff (w : UInt64) (k : Nat) (calls : List (TrackerCall D)) (pid : UInt32)
    (now : UInt64) :
    (final call (WriteBurstTracker.withParams w k) calls).evaluatePid (S := S) sha256 pid now =
        ((final call (WriteBurstTracker.withParams w k) calls).purgeExpired now).evaluatePid sha256 pid
          now ↔
      ∀ before e reading after, calls = before ++ .record e reading :: after → e.pid = pid →
        e.timestampMs < saturatingSub now w →
          ∃ c ∈ .record e reading :: after, e.timestampMs < saturatingSub c.reading w := by
  rw [evaluatePid_purgeExpired_iff, windowDurationMs_of_calls]
  constructor
  · intro fresh before e reading after split samePid old
    by_contra! kept
    have held := (mem_events_of_calls w k calls e).mpr
      ⟨before, reading, after, split, fun c member => UInt64.not_lt.mp (kept c member)⟩
    have own : e ∈ ownEvents (final call (WriteBurstTracker.withParams w k) calls) pid :=
      List.mem_filter.mpr ⟨held, beq_iff_eq.mpr samePid⟩
    exact UInt64.not_le.mpr old (fresh e own)
  · intro expired e own
    obtain ⟨held, samePid⟩ := List.mem_filter.mp own
    obtain ⟨before, reading, after, split, kept⟩ := (mem_events_of_calls w k calls e).mp held
    by_contra stale
    obtain ⟨c, member, gone⟩ :=
      expired before e reading after split (beq_iff_eq.mp samePid) (UInt64.not_le.mp stale)
    exact UInt64.not_le.mpr gone (kept c member)

end Purges

/-- Process 7 writes three bytes at second 1, and nothing is purged until second 2. -/
def staleCalls : List (TrackerCall ℚ) :=
  [.record ⟨7, 1000, "a.docx", 3, [], false⟩ 1000]

/-- The evaluation at second 2 still counts them, for a window that starts at 1950 ms; after a purge at
    the same time there is nothing to evaluate. -/
theorem stale_write_evaluated :
    (∀ c ∈ staleCalls, c.reading ≤ 2000) ∧
      (∃ eval : ProcessBurstEvaluation ℚ ℚ,
        (final call WriteBurstTracker.new staleCalls).evaluatePid (fun _ => Bytes.replicate 32 0) 7 2000 =
            some eval ∧
          eval.windowStartMs = 1950 ∧ eval.totalWrites = 1 ∧ eval.totalBytes = 3) ∧
      ((final call WriteBurstTracker.new staleCalls).purgeExpired 2000).evaluatePid (S := ℚ)
        (fun _ => Bytes.replicate 32 0) 7 2000 = none := by
  refine ⟨by simp [staleCalls, TrackerCall.reading], ⟨_, rfl, ?_⟩, rfl⟩
  decide

end TripwireBuckets

end KavachNpu

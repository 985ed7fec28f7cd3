/-
Module: KavachNpu.Proofs.TripwireWindow
Layer: Proofs
Purpose: What a tripwire evaluation depends on. All processes share one list of events that every call
  purges, yet in a chronological run the list holds exactly the operations of the current window, so the
  evaluation of a process is a function of the time and of that process's own operations in it. The
  arithmetic of the features is arbitrary.
Trusted boundary: none
Main exports: EntropyEngine.ownInWindow, EntropyEngine.burstEvaluation, EntropyEngine.events_of_run,
  EntropyEngine.ingest_depends_on_own_window
-/
import Mathlib.Data.List.Dedup
import Mathlib.Data.List.Induction
import KavachNpu.Foundation.Trace
import KavachNpu.Tripwire.SlidingWindow

namespace KavachNpu

/-! ### Sorted sets of strings -/

/-- The sorted list of a set of strings is strictly sorted, and has the same elements. -/
theorem sorted_dedup (paths : List String) :
    (paths.dedup.mergeSort bytesLe).Pairwise (fun a b => asBytes a < asBytes b) ∧
      ∀ path, path ∈ paths.dedup.mergeSort bytesLe ↔ path ∈ paths := by
  refine ⟨?_, fun path => by rw [List.mem_mergeSort, List.mem_dedup]⟩
  have sorted : (paths.dedup.mergeSort bytesLe).Pairwise (fun a b => bytesLe a b = true) := by
    apply List.pairwise_mergeSort
    · intro a b c first second
      exact decide_eq_true (List.le_trans (of_decide_eq_true first) (of_decide_eq_true second))
    · intro a b
      rw [Bool.or_eq_true]
      exact (List.le_total (asBytes a) (asBytes b)).imp decide_eq_true decide_eq_true
  have distinct : (paths.dedup.mergeSort bytesLe).Nodup :=
    (List.mergeSort_perm _ _).nodup_iff.mpr paths.nodup_dedup
  apply (sorted.and distinct).imp
  rintro a b ⟨le, ne⟩
  exact Std.lt_of_le_of_ne (of_decide_eq_true le) (fun same => ne (asBytes_injective same))

/-! ### The window of a chronological run -/

namespace EntropyEngine

/-- The operations at most a window older than `now`. -/
def inWindow (w now : UInt64) (ops : List FileOperation) : List FileOperation :=
  ops.filter fun op => decide (op.nowMs ≥ saturatingSub now w)

/-- The operations of one process at most a window older than `now`. -/
def ownInWindow (w : UInt64) (pid : UInt32) (now : UInt64) (ops : List FileOperation) :
    List FileOperation :=
  ops.filter fun op => op.pid == pid && decide (op.nowMs ≥ saturatingSub now w)

/-- The operations come with non-decreasing times. -/
def Chronological (ops : List FileOperation) : Prop :=
  ops.Pairwise fun earlier later => earlier.nowMs ≤ later.nowMs

/-- No operation of a chronological run comes after the last. -/
theorem le_last_of_chronological {ops : List FileOperation} {op : FileOperation}
    (ordered : Chronological (ops ++ [op])) : ∀ other ∈ ops ++ [op], other.nowMs ≤ op.nowMs := by
  intro other member
  obtain ⟨_, _, before⟩ := List.pairwise_append.mp ordered
  rcases List.mem_append.mp member with early | last
  · exact before other early op (by simp)
  · rw [List.mem_singleton.mp last]
    exact UInt64.le_refl _

section Arithmetic

variable {D S : Type} [Add D] [Sub D] [Mul D] [Div D] [LE D] [LT D] [DecidableLE D] [DecidableLT D]
  [NatCast D] [OfScientific D] [FloatOps D] [Div S] [LT S] [DecidableLT S] [NatCast S] [OfScientific S]
  [AsF32 D S] (log2 : D → D) (sha256 : List UInt8 → Bytes 32)

/-- The event recorded for an operation. -/
def eventOf (op : FileOperation) : FileOperationEvent D :=
  makeWriteEvent log2 op.pid op.nowMs op.path op.data op.isRename

/-- The events of a list not older than the window that ends at `now`. -/
def recent (w now : UInt64) (events : List (FileOperationEvent D)) : List (FileOperationEvent D) :=
  events.filter fun e => decide (e.timestampMs ≥ saturatingSub now w)

omit [Add D] [Sub D] [Mul D] [Div D] [LE D] [LT D] [DecidableLE D] [DecidableLT D] [NatCast D]
  [OfScientific D] [FloatOps D] in
/-- What expired earlier has expired later. -/
theorem recent_recent {w earlier now : UInt64} (le : earlier ≤ now)
    (events : List (FileOperationEvent D)) :
    recent w now (recent w earlier events) = recent w now events := by
  unfold recent
  rw [List.filter_filter]
  apply List.filter_congr
  intro e _
  have cutoffs := saturatingSub_mono w le
  by_cases fresh : e.timestampMs ≥ saturatingSub now w
  · simp [fresh, UInt64.le_trans cutoffs fresh]
  · simp [fresh]

omit [Add D] [LE D] [LT D] [DecidableLE D] [DecidableLT D] [FloatOps D] in
theorem recent_map_eventOf (w now : UInt64) (ops : List FileOperation) :
    recent w now (ops.map (eventOf log2)) = (inWindow w now ops).map (eventOf log2) := by
  unfold recent inWindow
  rw [List.filter_map]
  rfl

/-- One call pushes the event of the operation and purges; the parameters stay. -/
theorem ingest_tracker (engine : EntropyEngine D) (op : FileOperation) :
    (ingestOperation (S := S) log2 sha256 engine op).2.tracker =
      { engine.tracker with
        events := recent engine.tracker.windowDurationMs op.nowMs
          (engine.tracker.events ++ [eventOf log2 op]) } :=
  rfl

/-- The tracker after a run from given parameters. -/
def trackerAfter (w : UInt64) (k : Nat) (ops : List FileOperation) : WriteBurstTracker D :=
  (final (ingestOperation (S := S) log2 sha256) (withParams w k) ops).tracker

theorem trackerAfter_append (w : UInt64) (k : Nat) (ops : List FileOperation) (op : FileOperation) :
    trackerAfter (S := S) log2 sha256 w k (ops ++ [op]) =
      { trackerAfter (S := S) log2 sha256 w k ops with
        events := recent (trackerAfter (S := S) log2 sha256 w k ops).windowDurationMs op.nowMs
          ((trackerAfter (S := S) log2 sha256 w k ops).events ++ [eventOf log2 op]) } := by
  unfold trackerAfter
  rw [final_append]
  exact ingest_tracker log2 sha256 _ op

theorem trackerAfter_params (w : UInt64) (k : Nat) (ops : List FileOperation) :
    (trackerAfter (S := S) log2 sha256 w k ops).windowDurationMs = w ∧
      (trackerAfter (S := S) log2 sha256 w k ops).suspensionFileThreshold = k := by
  induction ops using List.reverseRecOn with
  | nil => exact ⟨rfl, rfl⟩
  | append_singleton ops op ih =>
      rw [trackerAfter_append]
      exact ih

/-- In a chronological run the events that are recent at a later time are those of the operations in the
    window that ends then. -/
theorem recent_of_run (w : UInt64) (k : Nat) {ops : List FileOperation} (ordered : Chronological ops) :
    ∀ now, (∀ op ∈ ops, op.nowMs ≤ now) →
      recent w now (trackerAfter (S := S) log2 sha256 w k ops).events =
        (inWindow w now ops).map (eventOf log2) := by
  induction ops using List.reverseRecOn with
  | nil =>
      intro now _
      rfl
  | append_singleton ops op ih =>
      intro now latest
      obtain ⟨earlier, _, _⟩ := List.pairwise_append.mp ordered
      have before : op.nowMs ≤ now := latest op (by simp)
      have past : ∀ other ∈ ops, other.nowMs ≤ now := fun other member => latest other (by simp [member])
      rw [trackerAfter_append, (trackerAfter_params log2 sha256 w k ops).1]
      have kept := ih earlier now past
      have window : inWindow w now (ops ++ [op]) = inWindow w now ops ++ inWindow w now [op] :=
        List.filter_append ..
      have split : recent w now ((trackerAfter (S := S) log2 sha256 w k ops).events ++
          [eventOf log2 op]) = recent w now (trackerAfter (S := S) log2 sha256 w k ops).events ++
          recent w now ([op].map (eventOf log2)) := List.filter_append ..
      simp only
      rw [recent_recent before, split, kept, recent_map_eventOf, window, List.map_append]

/-- After a chronological run the tracker holds the operations of the window that ends with the last. -/
theorem events_of_run (w : UInt64) (k : Nat) {ops : List FileOperation} {op : FileOperation}
    (ordered : Chronological (ops ++ [op])) :
    (trackerAfter (S := S) log2 sha256 w k (ops ++ [op])).events =
      (inWindow w op.nowMs (ops ++ [op])).map (eventOf log2) := by
  have latest := le_last_of_chronological ordered
  rw [← recent_of_run (S := S) log2 sha256 w k ordered op.nowMs latest, trackerAfter_append,
    (trackerAfter_params log2 sha256 w k ops).1]
  exact (recent_recent (UInt64.le_refl _) _).symm

/-! ### The evaluation as a function of the window -/

/-- The evaluation that the operations of one process in the window determine. -/
def burstEvaluation (w : UInt64) (k : Nat) (pid : UInt32) (now : UInt64) (own : List FileOperation) :
    ProcessBurstEvaluation D S :=
  let files := (own.map FileOperation.path).dedup.mergeSort bytesLe
  let renames := own.countP FileOperation.isRename
  let bytes := (own.map fun op => op.data.length).sum
  let summary := differentialEntropy (own.flatMap fun op => blockEntropyScan log2 op.data 4096)
  { pid := pid
    windowStartMs := saturatingSub now w
    windowDurationMs := w
    totalWrites := own.countP fun op => ! op.isRename
    totalRenames := renames
    totalBytes := bytes
    distinctFiles := files
    entropySummary := summary
    tensorMatrix := Vector.ofFn fun i => WriteBurstTracker.slotFeatures
      (WriteBurstTracker.bucketEvents w (saturatingSub now w) (own.map (eventOf log2)) i)
    recommendedAction :=
      if summary.isAnomalous = true ∧ files.length ≥ k then .suspendAndAlert else .alert
    corroboratingEvidenceCount := WriteBurstTracker.evidenceCount summary renames files.length k
    evidenceDigest := sha256 ((u32ToBeBytes pid).toList ++
      (u64ToBeBytes (UInt64.ofNat bytes)).toList ++ files.flatMap asBytes) }

/-- Suspension is recommended exactly for an anomalous summary over at least `k` files. -/
theorem burstEvaluation_suspends_iff (w : UInt64) (k : Nat) (pid : UInt32) (now : UInt64)
    (own : List FileOperation) :
    (burstEvaluation (S := S) log2 sha256 w k pid now own).recommendedAction = .suspendAndAlert ↔
      (burstEvaluation (S := S) log2 sha256 w k pid now own).entropySummary.isAnomalous = true ∧
        k ≤ (burstEvaluation (S := S) log2 sha256 w k pid now own).distinctFiles.length := by
  simp only [burstEvaluation]
  split
  · rename_i condition
    exact iff_of_true rfl condition
  · rename_i condition
    exact iff_of_false (by simp) condition

/-- A process with operations in the tracker is evaluated by them. -/
theorem evaluatePid_of_events {tracker : WriteBurstTracker D} {pid : UInt32} {now : UInt64}
    {own : List FileOperation} (nonempty : own ≠ [])
    (events : tracker.events.filter (fun e => e.pid == pid) = own.map (eventOf log2)) :
    tracker.evaluatePid (S := S) sha256 pid now = some (burstEvaluation log2 sha256
      tracker.windowDurationMs tracker.suspensionFileThreshold pid now own) := by
  unfold WriteBurstTracker.evaluatePid
  have present : (own.map (eventOf log2)).isEmpty = false := by simpa using nonempty
  simp only [events, present, Bool.false_eq_true, if_false]
  simp only [burstEvaluation, List.countP_map, List.map_map, List.flatMap_map]
  rfl

omit [Add D] [LE D] [LT D] [DecidableLE D] [DecidableLT D] [FloatOps D] in
theorem filter_pid_inWindow (w : UInt64) (pid : UInt32) (now : UInt64) (ops : List FileOperation) :
    ((inWindow w now ops).map (eventOf log2)).filter (fun e => e.pid == pid) =
      (ownInWindow w pid now ops).map (eventOf log2) := by
  rw [List.filter_map]
  congr 1
  unfold inWindow ownInWindow
  rw [List.filter_filter]
  rfl

theorem mem_ownInWindow_last (w : UInt64) (ops : List FileOperation) (op : FileOperation) :
    op ∈ ownInWindow w op.pid op.nowMs (ops ++ [op]) := by
  have fresh : op.nowMs ≥ saturatingSub op.nowMs w := saturatingSub_le op.nowMs w
  simp [ownInWindow, fresh]

/-- The evaluation of any process after a chronological run. -/
theorem evaluatePid_of_run (w : UInt64) (k : Nat) {ops : List FileOperation} {op : FileOperation}
    (ordered : Chronological (ops ++ [op])) {pid : UInt32}
    (active : ownInWindow w pid op.nowMs (ops ++ [op]) ≠ []) :
    (trackerAfter (S := S) log2 sha256 w k (ops ++ [op])).evaluatePid (S := S) sha256 pid op.nowMs =
      some (burstEvaluation log2 sha256 w k pid op.nowMs
        (ownInWindow w pid op.nowMs (ops ++ [op]))) := by
  obtain ⟨window, threshold⟩ := trackerAfter_params (S := S) log2 sha256 w k (ops ++ [op])
  have events := events_of_run (S := S) log2 sha256 w k ordered
  have own := filter_pid_inWindow log2 w pid op.nowMs (ops ++ [op])
  rw [← events] at own
  rw [evaluatePid_of_events log2 sha256 active own, window, threshold]

/-- A process without operations in the window is not evaluated. -/
theorem evaluatePid_of_run_idle (w : UInt64) (k : Nat) {ops : List FileOperation} {op : FileOperation}
    (ordered : Chronological (ops ++ [op])) {pid : UInt32}
    (idle : ownInWindow w pid op.nowMs (ops ++ [op]) = []) :
    (trackerAfter (S := S) log2 sha256 w k (ops ++ [op])).evaluatePid (S := S) sha256 pid op.nowMs =
      none := by
  have own := filter_pid_inWindow log2 w pid op.nowMs (ops ++ [op])
  rw [← events_of_run (S := S) log2 sha256 w k ordered, idle] at own
  simp [WriteBurstTracker.evaluatePid, own]

/-- The last event of the tracker is that of the last operation. -/
theorem getLast_of_run (w : UInt64) (k : Nat) {ops : List FileOperation} {op : FileOperation}
    (ordered : Chronological (ops ++ [op])) :
    (trackerAfter (S := S) log2 sha256 w k (ops ++ [op])).events.getLast? = some (eventOf log2 op) := by
  have fresh : op.nowMs ≥ saturatingSub op.nowMs w := saturatingSub_le op.nowMs w
  rw [events_of_run (S := S) log2 sha256 w k ordered, inWindow, List.filter_append]
  simp [fresh]

/-- The evaluation of a call depends on nothing but the time and the process's own operations in the
    window. In every chronological run each call returns an evaluation; it is the same function of these
    two whatever other processes do; its totals count and sum those operations, its files are the strictly
    sorted set of their paths, its summary is the differential entropy of their blocks, and suspension is
    recommended exactly for an anomalous summary over at least `k` files. -/
theorem ingest_depends_on_own_window (w : UInt64) (k : Nat) (ops : List FileOperation)
    (ordered : Chronological ops) :
    ∀ before op rest, ops = before ++ op :: rest →
      let own := ownInWindow w op.pid op.nowMs (before ++ [op])
      ∃ eval : ProcessBurstEvaluation D S,
        (ingestOperation log2 sha256
          (final (ingestOperation (S := S) log2 sha256) (withParams w k) before) op).1 = some eval ∧
        eval = burstEvaluation log2 sha256 w k op.pid op.nowMs own ∧
        eval.totalWrites = own.countP (fun o => ! o.isRename) ∧
        eval.totalRenames = own.countP FileOperation.isRename ∧
        eval.totalBytes = (own.map fun o => o.data.length).sum ∧
        eval.distinctFiles.Pairwise (fun a b => asBytes a < asBytes b) ∧
        (∀ path, path ∈ eval.distinctFiles ↔ ∃ o ∈ own, o.path = path) ∧
        eval.entropySummary =
          differentialEntropy (own.flatMap fun o => blockEntropyScan log2 o.data defaultBlockSize) ∧
        (eval.recommendedAction = .suspendAndAlert ↔
          eval.entropySummary.isAnomalous = true ∧ k ≤ eval.distinctFiles.length) := by
  intro before op rest split own
  have prior : Chronological (before ++ [op]) := by
    have sublist : (before ++ [op]).Sublist ops := by
      rw [split]
      exact (List.Sublist.refl before).append (by simp)
    exact ordered.sublist sublist
  have evaluated := evaluatePid_of_run (S := S) log2 sha256 w k prior
    (List.ne_nil_of_mem (mem_ownInWindow_last w before op))
  unfold trackerAfter at evaluated
  rw [final_append] at evaluated
  obtain ⟨sorted, members⟩ := sorted_dedup (own.map FileOperation.path)
  refine ⟨_, evaluated, rfl, rfl, rfl, rfl, sorted, ?_, rfl,
    burstEvaluation_suspends_iff log2 sha256 w k op.pid op.nowMs own⟩
  intro path
  refine (members path).trans ?_
  rw [List.mem_map]

end Arithmetic

/-- A write of process 7 and one of process 9. -/
def sampleOperations : List FileOperation :=
  [⟨7, "a.txt", [1, 2, 3], false, 10⟩, ⟨9, "b.txt", [4], false, 20⟩]

/-- A later rename by process 7. -/
def sampleRename : FileOperation :=
  ⟨7, "c.txt", [5, 6], true, 30⟩

/-- The evaluation of process 7 at 30 ms counts its own two operations, in exact arithmetic and for every
    logarithm and hash. -/
theorem sampleOperations_evaluated :
    Chronological (sampleOperations ++ [sampleRename]) ∧
      ∀ (log2 : ℚ → ℚ) (sha256 : List UInt8 → Bytes 32), ∃ eval : ProcessBurstEvaluation ℚ ℚ,
        (ingestOperation log2 sha256
          (final (ingestOperation (S := ℚ) log2 sha256) (withParams 50 3) sampleOperations)
          sampleRename).1 = some eval ∧
        eval.totalWrites = 1 ∧ eval.totalRenames = 1 ∧ eval.totalBytes = 5 := by
  have ordered : Chronological (sampleOperations ++ [sampleRename]) := by
    unfold Chronological sampleOperations
    decide
  refine ⟨ordered, ?_⟩
  intro log2 sha256
  obtain ⟨eval, returned, _, writes, renames, bytes, _⟩ := ingest_depends_on_own_window (S := ℚ)
    log2 sha256 50 3 _ ordered sampleOperations sampleRename [] rfl
  exact ⟨eval, returned, writes, renames, bytes⟩

end EntropyEngine

end KavachNpu

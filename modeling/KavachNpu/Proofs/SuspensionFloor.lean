/-
Module: KavachNpu.Proofs.SuspensionFloor
Layer: Proofs
Purpose: Which writes can lead to a suspension, over the reals. A block with at most 247 different bytes stays
  below the ransomware threshold, whatever the bytes are, so a process that only writes such blocks is never
  suspended, in any run of the daemon; 248 bytes can reach it. A process most of whose blocks reach it is
  suspended as soon as it has touched enough files.
Trusted boundary: none
Main exports: Quiet, shannonEntropy_lt_threshold, quiet_process_never_suspended,
  encrypting_process_suspended
-/
import KavachNpu.Proofs.BeaconJitter
import KavachNpu.Proofs.BlockEntropy
import KavachNpu.Proofs.SentinelRuns
import KavachNpu.Proofs.TripwireEvidence

namespace KavachNpu

/-- Every block of the data has at most 247 different bytes. -/
def Quiet (data : List UInt8) : Prop :=
  ∀ block ∈ chunks defaultBlockSize data, block.toFinset.card ≤ 247

/-- Data of at most 247 bytes is quiet. -/
theorem quiet_of_short {data : List UInt8} (short : data.length ≤ 247) : Quiet data := by
  intro block member
  have joined : (chunks defaultBlockSize data).flatten = data := (chunks_spec (by decide) data).1
  have part : block.length ≤ data.length := by
    rw [← joined]
    exact (List.sublist_flatten_of_mem member).length_le
  exact (List.toFinset_card_le block).trans (part.trans short)

/-- The threshold lies between the logarithms of 247 and 248. -/
theorem logb_247_lt : Real.logb 2 ((247 : Nat) : ℝ) < entropyRansomwareThreshold := by
  have powers : (((247 : Nat) : ℝ)) ^ (20 : ℕ) < 2 ^ (159 : ℕ) := by norm_num
  have logs := Real.logb_lt_logb one_lt_two (by positivity) powers
  rw [Real.logb_pow, Real.logb_pow, Real.logb_self_eq_one one_lt_two] at logs
  unfold entropyRansomwareThreshold
  norm_num at logs ⊢
  linarith

theorem le_logb_248 : entropyRansomwareThreshold ≤ Real.logb 2 ((248 : Nat) : ℝ) := by
  have powers : (2 : ℝ) ^ (159 : ℕ) ≤ (((248 : Nat) : ℝ)) ^ (20 : ℕ) := by norm_num
  have logs := Real.logb_le_logb_of_le one_lt_two (by positivity) powers
  rw [Real.logb_pow, Real.logb_pow, Real.logb_self_eq_one one_lt_two] at logs
  unfold entropyRansomwareThreshold
  norm_num at logs ⊢
  linarith

/-- Few different bytes stay below the threshold. -/
theorem shannonEntropy_lt_threshold {block : List UInt8} (few : block.toFinset.card ≤ 247) :
    shannonEntropy realLog2 block < entropyRansomwareThreshold :=
  (shannonEntropy_le (by norm_num) few).trans_lt logb_247_lt

/-- 248 different bytes. -/
def distinctBytes : List UInt8 :=
  (List.range 248).map UInt8.ofNat

theorem length_distinctBytes : distinctBytes.length = 248 := by
  rw [distinctBytes, List.length_map, List.length_range]

theorem distinctBytes_ne_nil : distinctBytes ≠ [] :=
  List.ne_nil_of_length_pos (by rw [length_distinctBytes]; decide)

/-- They reach it. -/
theorem threshold_le_distinctBytes : entropyRansomwareThreshold ≤ shannonEntropy realLog2 distinctBytes := by
  have distinct : distinctBytes.Nodup := by decide +kernel
  rw [shannonEntropy_eq, empiricalEntropy_of_nodup distinctBytes_ne_nil distinct, length_distinctBytes]
  exact le_logb_248

/-! ### What a suspension needs -/

section Evaluation

variable {D S : Type} [Field D] [LinearOrder D] [IsStrictOrderedRing D] [FloatOps D] [Div S] [LT S]
  [DecidableLT S] [NatCast S] [OfScientific S] [AsF32 D S]

/-- A process is suspended only if one of its retained events has a block at the threshold. -/
theorem exists_high_block_of_suspension {sha256 : List UInt8 → Bytes 32} {tracker : WriteBurstTracker D}
    {pid : UInt32} {now : UInt64} {eval : ProcessBurstEvaluation D S}
    (evaluated : tracker.evaluatePid sha256 pid now = some eval)
    (suspends : eval.recommendedAction = .suspendAndAlert) :
    ∃ e ∈ tracker.events, e.pid = pid ∧ ∃ h ∈ e.blockEntropies, entropyRansomwareThreshold ≤ h := by
  unfold WriteBurstTracker.evaluatePid at evaluated
  simp only at evaluated
  split at evaluated
  · cases evaluated
  · cases evaluated
    simp only at suspends
    split at suspends
    · rename_i condition
      obtain ⟨h, listed, high⟩ := TripwireEvidence.exists_high_of_isAnomalous condition.1
      obtain ⟨e, own, block⟩ := List.mem_flatMap.mp listed
      obtain ⟨recorded, same⟩ := List.mem_filter.mp own
      exact ⟨e, recorded, by simpa using same, h, block, high⟩
    · cases suspends

omit [IsStrictOrderedRing D] in
/-- Everything the tracker holds after a run was there before it or was put there by the run. -/
theorem events_from_run (log2 : D → D) (sha256 : List UInt8 → Bytes 32) (engine : EntropyEngine D)
    (ops : List FileOperation) :
    ∀ e ∈ (final (EntropyEngine.ingestOperation (S := S) log2 sha256) engine ops).tracker.events,
      e ∈ engine.tracker.events ∨ ∃ op ∈ ops, e = EntropyEngine.eventOf log2 op := by
  induction ops using List.reverseRecOn with
  | nil => exact fun e member => .inl member
  | append_singleton ops op ih =>
      intro e member
      rw [final_append] at member
      have pushed := List.mem_of_mem_filter member
      rcases List.mem_append.mp pushed with old | latest
      · rcases ih e old with before | ⟨other, ran, same⟩
        · exact .inl before
        · exact .inr ⟨other, List.mem_append_left _ ran, same⟩
      · exact .inr ⟨op, by simp, List.mem_singleton.mp latest⟩

end Evaluation

/-- The daemon over the reals. -/
noncomputable def realHost (float : FloatFunctions ℝ) (sha256 : List UInt8 → Bytes 32) (npu : NpuHost ℝ)
    (startTs : UInt64) : SentinelHost ℝ ℝ :=
  { log2 := realLog2
    float := float
    sha256 := sha256
    npu := npu
    startTs := startTs }

/-- In no run of the daemon, in any order of its critical sections and with any timestamps, is a process
    recommended for suspension that has only written blocks with at most 247 different bytes, whatever all
    other processes write: in particular none whose writes are of at most 247 bytes. The bound is sharp:
    some 248 bytes reach the threshold. -/
theorem quiet_process_never_suspended (float : FloatFunctions ℝ) (sha256 : List UInt8 → Bytes 32)
    (npu : NpuHost ℝ) (startTs : UInt64) (config : KavachConfig) (session : NpuSession)
    (inputs : List SentinelInput) :
    (∀ entry ∈ trace (Sentinel.step (realHost float sha256 npu startTs) config)
        (Sentinel.new config session) inputs,
      ∀ event eval, entry.1 = .kernelFile event → entry.2 = .burst (some eval) →
        (∀ op ∈ inputs.flatMap SentinelInput.operations, op.pid = event.processId →
          op.data.length ≤ 247 ∨ Quiet op.data) →
        eval.recommendedAction ≠ .suspendAndAlert) ∧
    ∃ block : List UInt8, block.length = 248 ∧
      entropyRansomwareThreshold ≤ shannonEntropy realLog2 block := by
  refine ⟨?_, distinctBytes, length_distinctBytes, threshold_le_distinctBytes⟩
  rintro ⟨input, reply⟩ ran event eval rfl rfl quiet suspends
  obtain ⟨before, after, split, replied⟩ := exists_split_of_mem_trace ran
  generalize hosted : realHost float sha256 npu startTs = host at ran replied
  have logarithm : host.log2 = realLog2 := by rw [← hosted]; rfl
  simp only [Sentinel.step, KernelFileConsumer.processEvent, SentinelReply.burst.injEq] at replied
  -- the tripwire has seen the operations of the events so far, and nothing else
  have alone := (Sentinel.tripwireComponent host config).run_alone (fun _ _ => rfl)
    (Sentinel.new config session) before
  have engine : (final (Sentinel.step host config) (Sentinel.new config session) before).entropyEngine =
      final (EntropyEngine.ingestOperation (S := ℝ) host.log2 host.sha256) EntropyEngine.new
        (before.flatMap SentinelInput.operations) := alone.2
  rw [engine] at replied
  obtain ⟨e, recorded, own, h, block, high⟩ := exists_high_block_of_suspension replied.symm suspends
  have ingested : e ∈ (final (EntropyEngine.ingestOperation (S := ℝ) host.log2 host.sha256)
      EntropyEngine.new (before.flatMap SentinelInput.operations ++ [event.operation])).tracker.events := by
    rw [final_append]
    exact recorded
  rcases events_from_run host.log2 host.sha256 EntropyEngine.new _ e ingested with initial | ⟨op, ran', rfl⟩
  · cases initial
  · have listed : op ∈ inputs.flatMap SentinelInput.operations := by
      have unrolled : inputs.flatMap SentinelInput.operations =
          (before.flatMap SentinelInput.operations ++ [event.operation]) ++
            after.flatMap SentinelInput.operations := by
        rw [split, List.flatMap_append, List.flatMap_cons, List.append_assoc]
        rfl
      rw [unrolled]
      exact List.mem_append_left _ ran'
    have silent : Quiet op.data := (quiet op listed own).elim quiet_of_short id
    have scanned : h ∈ blockEntropyScan realLog2 op.data defaultBlockSize := by
      rw [← logarithm]
      exact block
    rw [blockEntropyScan_eq op.data (by decide)] at scanned
    obtain ⟨part, member, rfl⟩ := List.mem_map.mp scanned
    exact absurd (shannonEntropy_lt_threshold (silent part member)) (not_lt.mpr high)

/-! ### What a suspension takes -/

/-- Blocks of which at least seven in ten reach the threshold are anomalous. -/
theorem isAnomalous_of_mostly_high {D : Type} [Field D] [LinearOrder D] [IsStrictOrderedRing D] [FloatOps D]
    {blocks : List D} (nonempty : blocks ≠ [])
    (mostly : 7 * blocks.length ≤
      10 * blocks.countP fun e => decide (e ≥ entropyRansomwareThreshold)) :
    (differentialEntropy blocks).isAnomalous = true := by
  have present : blocks.isEmpty = false := by simpa using nonempty
  have positive : (0 : D) < blocks.length := by exact_mod_cast List.length_pos_iff.mpr nonempty
  have counted : ((7 * blocks.length : Nat) : D) ≤
      ((10 * blocks.countP fun e => decide (e ≥ entropyRansomwareThreshold) : Nat) : D) := by
    exact_mod_cast mostly
  push_cast at counted
  unfold differentialEntropy
  simp only [present, Bool.false_eq_true, if_false, Bool.or_eq_true, decide_eq_true_eq]
  left
  rw [ge_iff_le, le_div_iff₀ positive]
  norm_num
  linarith

/-- The three signs that go with such blocks and enough files. -/
theorem three_le_evidenceCount {D : Type} [LE D] [DecidableLE D] [OfScientific D]
    {summary : SparseEntropySummary D} {renames files threshold : Nat}
    (reached : summary.maxEntropy ≥ 7.95) (anomalous : summary.isAnomalous = true)
    (enough : threshold ≤ files) :
    3 ≤ (WriteBurstTracker.evidenceCount summary renames files threshold).toNat := by
  unfold WriteBurstTracker.evidenceCount
  rw [if_pos reached, if_pos anomalous, if_pos enough]
  split
  · decide
  · decide

/-- The blocks of some operations. -/
noncomputable def blocksOf (ops : List FileOperation) : List ℝ :=
  ops.flatMap fun op => blockEntropyScan realLog2 op.data defaultBlockSize

/-- A process is suspended at the write with which it has touched enough files in the window, if at least
    seven in ten of the blocks it has written there reach the threshold, whatever the other processes do
    and whatever it wrote before. -/
theorem encrypting_process_suspended (sha256 : List UInt8 → Bytes 32) (w : UInt64) (k : Nat)
    (before : List FileOperation) (op : FileOperation)
    (ordered : EntropyEngine.Chronological (before ++ [op]))
    (written : blocksOf (EntropyEngine.ownInWindow w op.pid op.nowMs (before ++ [op])) ≠ [])
    (mostly : 7 * (blocksOf (EntropyEngine.ownInWindow w op.pid op.nowMs (before ++ [op]))).length ≤
      10 * (blocksOf (EntropyEngine.ownInWindow w op.pid op.nowMs (before ++ [op]))).countP
        fun h => decide (h ≥ entropyRansomwareThreshold))
    (files : k ≤ ((EntropyEngine.ownInWindow w op.pid op.nowMs (before ++ [op])).map
      FileOperation.path).dedup.length) :
    ∃ eval : ProcessBurstEvaluation ℝ ℝ,
      (EntropyEngine.ingestOperation realLog2 sha256
        (final (EntropyEngine.ingestOperation (S := ℝ) realLog2 sha256)
          (EntropyEngine.withParams w k) before) op).1 = some eval ∧
      eval.recommendedAction = .suspendAndAlert ∧ 3 ≤ eval.corroboratingEvidenceCount.toNat := by
  have evaluated := EntropyEngine.evaluatePid_of_run (S := ℝ) realLog2 sha256 w k ordered
    (List.ne_nil_of_mem (EntropyEngine.mem_ownInWindow_last w before op))
  unfold EntropyEngine.trackerAfter at evaluated
  rw [final_append] at evaluated
  have anomalous := isAnomalous_of_mostly_high written mostly
  have enough : k ≤ (((EntropyEngine.ownInWindow w op.pid op.nowMs (before ++ [op])).map
      FileOperation.path).dedup.mergeSort bytesLe).length := by
    rw [List.length_mergeSort]
    exact files
  have suspends := (EntropyEngine.burstEvaluation_suspends_iff (S := ℝ) realLog2 sha256 w k op.pid op.nowMs
    (EntropyEngine.ownInWindow w op.pid op.nowMs (before ++ [op]))).mpr ⟨anomalous, enough⟩
  exact ⟨_, evaluated, suspends, three_le_evidenceCount
    (TripwireEvidence.maxEntropy_of_isAnomalous anomalous) anomalous enough⟩

/-- Three writes of 248 different bytes, to three files at one time. -/
def shortBurst (path : String) : FileOperation :=
  ⟨7, path, distinctBytes, false, 10⟩

theorem shortBurst_suspended : ∃ eval : ProcessBurstEvaluation ℝ ℝ,
    (EntropyEngine.ingestOperation realLog2 (fun _ => Bytes.replicate 32 0)
      (final (EntropyEngine.ingestOperation (S := ℝ) realLog2 (fun _ => Bytes.replicate 32 0))
        (EntropyEngine.withParams 50 3) [shortBurst "a", shortBurst "b"]) (shortBurst "c")).1 = some eval ∧
    eval.recommendedAction = .suspendAndAlert := by
  have own : EntropyEngine.ownInWindow 50 (shortBurst "c").pid (shortBurst "c").nowMs
      ([shortBurst "a", shortBurst "b"] ++ [shortBurst "c"]) =
      [shortBurst "a", shortBurst "b", shortBurst "c"] := rfl
  have single : ∀ path, blockEntropyScan realLog2 (shortBurst path).data defaultBlockSize =
      [shannonEntropy realLog2 distinctBytes] := by
    intro path
    have whole : chunks defaultBlockSize distinctBytes = [distinctBytes] :=
      chunks_of_length_le distinctBytes_ne_nil (by rw [length_distinctBytes]; decide)
    have data : (shortBurst path).data = distinctBytes := rfl
    rw [blockEntropyScan_eq _ (by decide), data, whole, List.map_singleton]
  have blocks : blocksOf [shortBurst "a", shortBurst "b", shortBurst "c"] =
      List.replicate 3 (shannonEntropy realLog2 distinctBytes) := by
    simp [blocksOf, single]
  have high : decide (shannonEntropy realLog2 distinctBytes ≥ entropyRansomwareThreshold) = true :=
    decide_eq_true threshold_le_distinctBytes
  obtain ⟨eval, evaluated, suspends, _⟩ := encrypting_process_suspended (fun _ => Bytes.replicate 32 0) 50 3
    [shortBurst "a", shortBurst "b"] (shortBurst "c")
    (by unfold EntropyEngine.Chronological; decide) (by rw [own, blocks]; simp)
    (by rw [own, blocks, List.countP_replicate, if_pos high]; decide) (by rw [own]; decide)
  exact ⟨eval, evaluated, suspends⟩

end KavachNpu

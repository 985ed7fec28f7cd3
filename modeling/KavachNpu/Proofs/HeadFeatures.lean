/-
Module: KavachNpu.Proofs.HeadFeatures
Layer: Proofs
Purpose: What the heads are shown in a run of the daemon, over the reals. Every feature of every matrix lies
  in the interval that the quantizer represents, so no entry of a tensor is ever cut off: each one is its
  feature up to half a quantization step, whatever the sensors deliver and in whatever order.
Trusted boundary: none
Main exports: Features, features_audit, features_net, features_io, head_tensors_keep_features
-/
import KavachNpu.Proofs.Quantization
import KavachNpu.Proofs.SuspensionFloor

namespace KavachNpu

/-- The four features of a slot lie between the bound and one. -/
def SlotFeatures (low : ℝ) (row : Vector ℝ 4) : Prop :=
  ∀ j (inRow : j < 4), low ≤ row[j] ∧ row[j] ≤ 1

/-- Every feature of the matrix lies between the bound and one. -/
def Features {slots : Nat} (low : ℝ) (matrix : Vector (Vector ℝ 4) slots) : Prop :=
  ∀ i (inRows : i < slots), SlotFeatures low matrix[i]

/-- The quantized matrix stands for the matrix up to half a step in every entry. -/
def Represented {slots : Nat} (matrix : Vector (Vector ℝ 4) slots) : Prop :=
  ∀ i j (inRows : i < slots) (inRow : j < 4),
    |dequantizeI8ToF32 (InputTensor.fromF32Matrix matrix QuantizationParams.default).data[i][j]
      (QuantizationParams.default : QuantizationParams ℝ) - matrix[i][j]| ≤ 1 / 254

/-- Features between -1 and 1 do not saturate. -/
theorem represented_of_features {slots : Nat} {low : ℝ} {matrix : Vector (Vector ℝ 4) slots}
    (above : -1 ≤ low) (features : Features low matrix) : Represented matrix := by
  intro i j inRows inRow
  obtain ⟨least, greatest⟩ := features i inRows j inRow
  have positive : (0 : ℝ) < (QuantizationParams.default : QuantizationParams ℝ).scale := by
    norm_num [QuantizationParams.default]
  have step : (1 : ℝ) / 254 = (QuantizationParams.default : QuantizationParams ℝ).scale / 2 := by
    norm_num [QuantizationParams.default]
  have unshifted : ((QuantizationParams.default : QuantizationParams ℝ).zeroPoint.toInt : ℝ) = 0 :=
    Int.cast_zero
  have scale : (QuantizationParams.default : QuantizationParams ℝ).scale = 1 / 127 := by
    norm_num [QuantizationParams.default]
  simp only [InputTensor.fromF32Matrix, Vector.getElem_map]
  rw [step]
  apply (dequantize_quantize_le_iff positive _).mpr
  rw [unshifted, scale]
  constructor
  · norm_num
    linarith
  · norm_num
    linarith

/-- An empty slot. -/
theorem slotFeatures_zero {low : ℝ} (below : low ≤ 0) :
    SlotFeatures low (Vector.replicate 4 (0.0 : ℝ)) := by
  intro j inRow
  rw [Vector.getElem_replicate]
  norm_num
  exact below

/-- A slot of four features, each checked on its own. -/
theorem slotFeatures_of_four {low a b c d : ℝ} (first : low ≤ a ∧ a ≤ 1) (second : low ≤ b ∧ b ≤ 1)
    (third : low ≤ c ∧ c ≤ 1) (fourth : low ≤ d ∧ d ≤ 1) :
    SlotFeatures low ⟨#[a, b, c, d], rfl⟩ := by
  intro j inRow
  have column : j = 0 ∨ j = 1 ∨ j = 2 ∨ j = 3 := by omega
  rcases column with rfl | rfl | rfl | rfl
  · exact first
  · exact second
  · exact third
  · exact fourth

/-- Clamping to the unit interval. -/
theorem clamp_unit (value : ℝ) : 0 ≤ clamp value 0.0 1.0 ∧ clamp value 0.0 1.0 ≤ 1 := by
  have within := clamp_mem (by norm_num : (0.0 : ℝ) ≤ 1.0) value
  norm_num at within ⊢
  exact within

/-! ### The matrices of the three heads -/

theorem severityWeight_mem (id : CriticalEventId) :
    (0 : ℝ) ≤ id.severityWeight ∧ (id.severityWeight : ℝ) ≤ 1 := by
  cases id <;> constructor <;> norm_num [CriticalEventId.severityWeight]

/-- A share of a positive whole. -/
theorem share_mem (part whole : Nat) (within : part ≤ whole) (positive : 0 < whole) :
    (0 : ℝ) ≤ part / whole ∧ (part / whole : ℝ) ≤ 1 := by
  have positive' : (0 : ℝ) < whole := by exact_mod_cast positive
  have within' : (part : ℝ) ≤ whole := by exact_mod_cast within
  constructor
  · positivity
  · rw [div_le_one positive']
    exact within'

theorem features_audit (sha256 : List UInt8 → Bytes 32) (tracker : EventSequenceTracker) :
    Features 0 (tracker.buildTensorMatrix sha256) := by
  intro i inRows
  simp only [EventSequenceTracker.buildTensorMatrix, Vector.getElem_ofFn]
  split
  · rename_i event _
    apply slotFeatures_of_four (severityWeight_mem event.eventId) (clamp_unit _)
    · have share := share_mem (sha256 (asBytes event.subjectUser))[0].toNat 255
        (by have := UInt8.toNat_lt (sha256 (asBytes event.subjectUser))[0]; omega) (by norm_num)
      norm_num at share ⊢
      exact share
    · have below : (event.processId % 65536).toNat < 65536 := by
        rw [UInt32.toNat_mod]
        exact Nat.mod_lt _ (by decide)
      have share := share_mem (event.processId % 65536).toNat 65536 below.le (by norm_num)
      norm_num at share ⊢
      exact share
  · exact slotFeatures_zero le_rfl

theorem features_flow (float : FloatFunctions ℝ) {flow : RollingFlow} {matrix : FlowMatrix ℝ}
    (built : flow.buildTensorMatrix float = some matrix) : Features (-1) matrix := by
  unfold RollingFlow.buildTensorMatrix at built
  split at built
  · simp only [Option.some.injEq] at built
    rw [← built]
    intro i inRows
    have signed : ∀ value : ℝ, 0 ≤ value ∧ value ≤ 1 → -1 ≤ value ∧ value ≤ 1 :=
      fun value mem => ⟨by linarith [mem.1], mem.2⟩
    simp only [Vector.getElem_ofFn]
    refine slotFeatures_of_four (signed _ (clamp_unit _)) (signed _ (clamp_unit _)) ?_
      (signed _ (clamp_unit _))
    -- the direction is one of the two ends
    split
    · norm_num
    · norm_num
  · cases built

theorem features_net (float : FloatFunctions ℝ) (order : List FlowKey) (engine : TcnEngine) :
    Features (-1) (engine.buildTensorMatrix float order) := by
  unfold TcnEngine.buildTensorMatrix
  simp only
  cases found : order.findSome? fun key =>
      (engine.flows.lookup key).bind fun flow => flow.buildTensorMatrix (S := ℝ) float with
  | none =>
      intro i inRows
      rw [Option.getD_none, Vector.getElem_replicate]
      exact slotFeatures_zero (by norm_num)
  | some matrix =>
      obtain ⟨key, _, built⟩ := List.exists_of_findSome?_eq_some found
      obtain ⟨flow, _, matrixOf⟩ := Option.bind_eq_some_iff.mp built
      exact features_flow float matrixOf

/-- The entropies of the recorded blocks lie in `[0, 8]`. -/
def Measured (events : List (FileOperationEvent ℝ)) : Prop :=
  ∀ e ∈ events, ∀ h ∈ e.blockEntropies, 0 ≤ h ∧ h ≤ 8

/-- The mean of entropies is an entropy, and the intermittent score is a score. -/
theorem differentialEntropy_mem {blocks : List ℝ} (within : ∀ h ∈ blocks, 0 ≤ h ∧ h ≤ 8) :
    (0 ≤ (differentialEntropy blocks).meanEntropy ∧ (differentialEntropy blocks).meanEntropy ≤ 8) ∧
      0 ≤ (differentialEntropy blocks).intermittentEncryptionScore ∧
      (differentialEntropy blocks).intermittentEncryptionScore ≤ 1 := by
  unfold differentialEntropy
  split
  · norm_num
  · rename_i present
    have nonempty : blocks ≠ [] := by simpa using present
    have positive : (0 : ℝ) < blocks.length := by exact_mod_cast List.length_pos_iff.mpr nonempty
    have lower := le_foldl_add (f := fun e : ℝ => e) (fun e member => (within e member).1) 0.0
    have upper := foldl_add_le (f := fun e : ℝ => e) (fun e member => (within e member).2) 0.0
    have zero : (0.0 : ℝ) = 0 := by norm_num
    simp only
    refine ⟨⟨?_, ?_⟩, ?_⟩
    · rw [le_div_iff₀ positive]
      linarith
    · rw [div_le_iff₀ positive]
      linarith
    · split
      · exact clamp_unit _
      · norm_num

theorem slotFeatures_mem {events : List (FileOperationEvent ℝ)} (measured : Measured events) :
    SlotFeatures 0 (WriteBurstTracker.slotFeatures events) := by
  unfold WriteBurstTracker.slotFeatures
  split
  · exact slotFeatures_zero le_rfl
  · have within : ∀ h ∈ events.flatMap FileOperationEvent.blockEntropies, 0 ≤ h ∧ h ≤ 8 := by
      intro h member
      obtain ⟨e, recorded, block⟩ := List.mem_flatMap.mp member
      exact measured e recorded h block
    obtain ⟨mean, score⟩ := differentialEntropy_mem within
    refine slotFeatures_of_four ?_ (clamp_unit _) (clamp_unit _) score
    change 0 ≤ _ / (8.0 : ℝ) ∧ _ / (8.0 : ℝ) ≤ 1
    norm_num
    constructor
    · linarith
    · rw [div_le_one (by norm_num)]
      exact mean.2

theorem features_io (sha256 : List UInt8 → Bytes 32) {tracker : WriteBurstTracker ℝ}
    (measured : Measured tracker.events) :
    Features 0 (tracker.buildTensorMatrix sha256 : IoMatrix ℝ) := by
  have empty : Features 0 (WriteBurstTracker.zeroMatrix : IoMatrix ℝ) := by
    intro i inRows
    rw [WriteBurstTracker.zeroMatrix, Vector.getElem_replicate]
    exact slotFeatures_zero le_rfl
  unfold WriteBurstTracker.buildTensorMatrix
  split
  · split
    · rename_i eval evaluated
      unfold WriteBurstTracker.evaluatePid at evaluated
      simp only at evaluated
      split at evaluated
      · cases evaluated
      · cases evaluated
        intro i inRows
        simp only [Vector.getElem_ofFn]
        apply slotFeatures_mem
        -- a slot holds events of the tracker
        intro e member
        exact measured e (List.mem_of_mem_filter (List.mem_of_mem_filter member))
    · exact empty
  · exact empty

/-- In no run of the daemon, in any order of its critical sections, is a feature cut off by the quantizer:
    the features of head 1 and head 3 lie in `[0, 1]` and those of head 2 in `[-1, 1]`, and each entry of
    the tensors handed to the session is its feature up to half a quantization step. -/
theorem head_tensors_keep_features (float : FloatFunctions ℝ) (sha256 : List UInt8 → Bytes 32)
    (npu : NpuHost ℝ) (startTs : UInt64) (config : KavachConfig) (session : NpuSession)
    (inputs : List SentinelInput) (order : List FlowKey) :
    let s := final (Sentinel.step (realHost float sha256 npu startTs) config)
      (Sentinel.new config session) inputs
    let io : IoMatrix ℝ := s.entropyEngine.tracker.buildTensorMatrix sha256
    let net : FlowMatrix ℝ := s.beaconEngine.buildTensorMatrix float order
    let audit : Vector (Vector ℝ 4) 16 := s.eventSubscriber.buildTensorMatrix sha256
    (Features 0 io ∧ Features (-1) net ∧ Features 0 audit) ∧
      Represented io ∧ Represented net ∧ Represented audit := by
  intro s io net audit
  have alone := (Sentinel.tripwireComponent (realHost float sha256 npu startTs) config).run_alone
    (fun _ _ => rfl) (Sentinel.new config session) inputs
  have engine : s.entropyEngine =
      final (EntropyEngine.ingestOperation (S := ℝ) realLog2 sha256) EntropyEngine.new
        (inputs.flatMap SentinelInput.operations) := alone.2
  have measured : Measured s.entropyEngine.tracker.events := by
    rw [engine]
    intro e recorded h block
    rcases events_from_run realLog2 sha256 EntropyEngine.new _ e recorded with initial | ⟨op, _, rfl⟩
    · cases initial
    · change h ∈ blockEntropyScan realLog2 op.data defaultBlockSize at block
      rw [blockEntropyScan_eq op.data (by decide)] at block
      obtain ⟨part, _, rfl⟩ := List.mem_map.mp block
      exact shannonEntropy_mem part
  have ioFeatures : Features 0 io := features_io sha256 measured
  have netFeatures : Features (-1) net := features_net float order s.beaconEngine
  have auditFeatures : Features 0 audit := features_audit sha256 s.eventSubscriber.tracker
  exact ⟨⟨ioFeatures, netFeatures, auditFeatures⟩, represented_of_features (by norm_num) ioFeatures,
    represented_of_features le_rfl netFeatures, represented_of_features (by norm_num) auditFeatures⟩

end KavachNpu

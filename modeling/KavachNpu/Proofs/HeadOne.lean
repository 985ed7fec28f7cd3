/-
Module: KavachNpu.Proofs.HeadOne
Layer: Proofs
Purpose: What head 1 sees of a burst, and how it scores it. The ten slots of the default window are the
  successive intervals of 5 ms; a slot is zero exactly if nothing was written or renamed in it. Sustained
  encryption has no variance, so its score stays below the alert threshold; and since the live loop scores
  the process that wrote last, another process can leave it with a zero matrix.
Trusted boundary: none
Main exports: SlotBounds, SlotArithmetic, WriteBurstTracker.mem_bucketEvents,
  WriteBurstTracker.slots_eq_zero, HeadOne.sustained_encryption_scores_below, HeadOne.burst_visible_iff
-/
import Mathlib.Tactic.Ring
import KavachNpu.Daemon.LiveLoop
import KavachNpu.Proofs.TripwireWindow

namespace KavachNpu

/-- The arithmetic computes the bounds of the ten default slots exactly. Like `SlotArithmetic` it holds of
    IEEE 754 arithmetic as well as of exact arithmetic. -/
class SlotBounds (D : Type) [Mul D] [Div D] [NatCast D] [FloatOps D] : Prop where
  slot_bound : ∀ i : Nat, i ≤ 10 →
    FloatOps.asU64 ((i : D) * (((50 : Nat) : D) / ((10 : Nat) : D))) = UInt64.ofNat (5 * i)

/-- The facts about an arithmetic that the features of a slot rest on: zero stays zero, and the normalised
    counts are zero only for a count of zero. -/
class SlotArithmetic (D S : Type) [Div D] [OfScientific D] [Div S] [LT S] [DecidableLT S] [NatCast S]
    [OfScientific S] [AsF32 D S] : Prop where
  zero_mean : (AsF32.asF32 ((0.0 : D) / 8.0) : S) = 0.0
  zero_score : (AsF32.asF32 (0.0 : D) : S) = 0.0
  renames_eq_zero : ∀ n : Nat, clamp ((n : S) / 10.0) 0.0 1.0 = (0.0 : S) ↔ n = 0
  bytes_eq_zero : ∀ n : Nat, clamp ((n : S) / 65536.0) 0.0 1.0 = (0.0 : S) ↔ n = 0

/-- A count over a positive scale, clamped to `[0, 1]`, vanishes only with the count. -/
theorem clamp_count_eq_zero {scale : ℚ} (positive : 0 < scale) (n : Nat) :
    clamp ((n : ℚ) / scale) 0.0 1.0 = 0.0 ↔ n = 0 := by
  constructor
  · intro vanishes
    by_contra counted
    have ratio : 0 < (n : ℚ) / scale := by
      have many : (0 : ℚ) < n := by exact_mod_cast Nat.pos_of_ne_zero counted
      positivity
    have kept : ¬ (n : ℚ) / scale < 0.0 := by
      norm_num
      exact le_of_lt ratio
    simp only [clamp, if_neg kept] at vanishes
    split at vanishes
    · norm_num at vanishes
    · norm_num at vanishes
      rcases vanishes with zero | zero
      · exact counted zero
      · linarith
  · rintro rfl
    norm_num [clamp]

instance slotBoundsRat : SlotBounds ℚ where
  slot_bound i le := by
    have exact : (i : ℚ) * (((50 : Nat) : ℚ) / ((10 : Nat) : ℚ)) = ((5 * i : Nat) : ℚ) := by
      push_cast
      ring
    have small : min (5 * i) (UInt64.size - 1) = 5 * i := by
      apply Nat.min_eq_left
      simp only [UInt64.size]
      omega
    rw [exact]
    simp only [FloatOps.asU64, truncRat_natCast, Int.toNat_natCast, small]

instance slotArithmeticRat : SlotArithmetic ℚ ℚ where
  zero_mean := by norm_num [AsF32.asF32]
  zero_score := rfl
  renames_eq_zero n := clamp_count_eq_zero (by norm_num) n
  bytes_eq_zero n := clamp_count_eq_zero (by norm_num) n

/-! ### The slots of the default window -/

namespace WriteBurstTracker

section Bounds

variable {D : Type} [Mul D] [Div D] [NatCast D] [FloatOps D] [SlotBounds D]

/-- Slot `i` of the default window covers the 5 ms from `5 * i` ms after its start. -/
theorem mem_bucketEvents {now : UInt64} {events : List (FileOperationEvent D)} {i : Nat} (lt : i < 10)
    {e : FileOperationEvent D} :
    e ∈ bucketEvents 50 (saturatingSub now 50) events i ↔
      e ∈ events ∧ (saturatingSub now 50).toNat + 5 * i ≤ e.timestampMs.toNat ∧
        e.timestampMs.toNat < (saturatingSub now 50).toNat + 5 * i + 5 := by
  have start : (saturatingSub now 50).toNat = now.toNat - 50 := toNat_saturatingSub now 50
  have bound := now.toNat_lt
  -- the window ends at `now` or at 50 ms, so its bounds do not wrap around
  have low : (saturatingSub now 50 + UInt64.ofNat (5 * i)).toNat =
      (saturatingSub now 50).toNat + 5 * i := by
    rw [UInt64.toNat_add, UInt64.toNat_ofNat_of_lt' (by simp only [UInt64.size]; omega)]
    omega
  have high : (saturatingSub now 50 + UInt64.ofNat (5 * (i + 1))).toNat =
      (saturatingSub now 50).toNat + 5 * i + 5 := by
    rw [UInt64.toNat_add, UInt64.toNat_ofNat_of_lt' (by simp only [UInt64.size]; omega)]
    omega
  have slotStart := SlotBounds.slot_bound (D := D) i (by omega)
  have slotEnd := SlotBounds.slot_bound (D := D) (i + 1) (by omega)
  have fifty : (50 : UInt64).toNat = 50 := rfl
  simp only [bucketEvents, npuTimeSlots, fifty, slotStart, slotEnd, List.mem_filter, Bool.and_eq_true,
    decide_eq_true_eq, ge_iff_le, UInt64.le_iff_toNat_le, UInt64.lt_iff_toNat_lt, low, high]

/-- The ten slots of the default window cover the 50 ms from its start. -/
theorem exists_mem_bucketEvents {now : UInt64} {events : List (FileOperationEvent D)}
    {property : FileOperationEvent D → Prop} :
    (∃ i : Fin 10, ∃ e ∈ bucketEvents 50 (saturatingSub now 50) events i, property e) ↔
      ∃ e ∈ events, (saturatingSub now 50).toNat ≤ e.timestampMs.toNat ∧
        e.timestampMs.toNat < (saturatingSub now 50).toNat + 50 ∧ property e := by
  constructor
  · rintro ⟨i, e, member, holds⟩
    obtain ⟨recorded, low, high⟩ := (mem_bucketEvents i.isLt).mp member
    exact ⟨e, recorded, by omega, by omega, holds⟩
  · rintro ⟨e, recorded, low, high, holds⟩
    have lt : (e.timestampMs.toNat - (saturatingSub now 50).toNat) / 5 < 10 := by omega
    exact ⟨⟨_, lt⟩, e, (mem_bucketEvents lt).mpr ⟨recorded, by omega, by omega⟩, holds⟩

end Bounds

/-- An event that leaves no trace in its slot. -/
def Silent {D : Type} (e : FileOperationEvent D) : Prop :=
  e.bytesWritten = 0 ∧ e.isRename = false

/-- Silent events are those that add to neither total. -/
theorem totals_eq_zero {D : Type} {events : List (FileOperationEvent D)} :
    events.countP FileOperationEvent.isRename = 0 ∧
        (events.map FileOperationEvent.bytesWritten).sum = 0 ↔
      ∀ e ∈ events, Silent e := by
  rw [List.countP_eq_zero, List.sum_eq_zero_iff_forall_eq_nat, List.forall_mem_map]
  constructor
  · rintro ⟨unrenamed, unwritten⟩ e member
    exact ⟨unwritten e member, Bool.eq_false_iff.mpr (unrenamed e member)⟩
  · intro silent
    exact ⟨fun e member => Bool.eq_false_iff.mp (silent e member).2, fun e member => (silent e member).1⟩

section Arithmetic

variable {D S : Type} [Add D] [Sub D] [Mul D] [Div D] [LE D] [LT D] [DecidableLE D] [DecidableLT D]
  [NatCast D] [OfScientific D] [FloatOps D] [Div S] [LT S] [DecidableLT S] [NatCast S] [OfScientific S]
  [AsF32 D S] [SlotArithmetic D S]

/-- Without blocks the entropy features are zero. -/
theorem entropyFeatures_nil :
    (AsF32.asF32 ((differentialEntropy ([] : List D)).meanEntropy / 8.0) : S) = 0.0 ∧
      (AsF32.asF32 (differentialEntropy ([] : List D)).intermittentEncryptionScore : S) = 0.0 :=
  ⟨SlotArithmetic.zero_mean, SlotArithmetic.zero_score⟩

/-- A slot is zero exactly if nothing was written or renamed in it. -/
theorem slotFeatures_eq_zero {events : List (FileOperationEvent D)}
    (scanned : ∀ e ∈ events, e.bytesWritten = 0 → e.blockEntropies = []) :
    (slotFeatures events : Vector S 4) = Vector.replicate 4 0.0 ↔ ∀ e ∈ events, Silent e := by
  cases events with
  | nil => simp [slotFeatures]
  | cons first rest =>
      generalize written : first :: rest = events at scanned
      have present : events.isEmpty = false := by rw [← written, List.isEmpty_cons]
      rw [← totals_eq_zero]
      simp only [slotFeatures, present, Bool.false_eq_true, if_false]
      constructor
      · intro zero
        have renames := congrArg (fun row : Vector S 4 => row[1]) zero
        have volume := congrArg (fun row : Vector S 4 => row[2]) zero
        simp only [Vector.getElem_replicate] at renames volume
        exact ⟨(SlotArithmetic.renames_eq_zero D _).mp renames,
          (SlotArithmetic.bytes_eq_zero D _).mp volume⟩
      · rintro ⟨unrenamed, unwritten⟩
        have blocks : events.flatMap FileOperationEvent.blockEntropies = [] := by
          rw [List.flatMap_eq_nil_iff]
          exact fun e member => scanned e member (totals_eq_zero.mp ⟨unrenamed, unwritten⟩ e member).1
        obtain ⟨entropy, intermittent⟩ := entropyFeatures_nil (D := D) (S := S)
        rw [blocks, unrenamed, unwritten, entropy, intermittent,
          (SlotArithmetic.renames_eq_zero D 0).mpr rfl, (SlotArithmetic.bytes_eq_zero D 0).mpr rfl]
        rfl

/-- The matrix of the default window is zero exactly if nothing was written or renamed in the 50 ms from
    its start. -/
theorem slots_eq_zero [SlotBounds D] {now : UInt64} {events : List (FileOperationEvent D)}
    (scanned : ∀ e ∈ events, e.bytesWritten = 0 → e.blockEntropies = []) :
    (Vector.ofFn fun i : Fin 10 => slotFeatures (bucketEvents 50 (saturatingSub now 50) events i) :
        IoMatrix S) = zeroMatrix ↔
      ¬ ∃ e ∈ events, (saturatingSub now 50).toNat ≤ e.timestampMs.toNat ∧
        e.timestampMs.toNat < (saturatingSub now 50).toNat + 50 ∧ ¬ Silent e := by
  have slot : ∀ i : Fin 10,
      (slotFeatures (bucketEvents 50 (saturatingSub now 50) events i) : Vector S 4) =
        Vector.replicate 4 0.0 ↔
      ∀ e ∈ bucketEvents 50 (saturatingSub now 50) events i, Silent e := by
    intro i
    apply slotFeatures_eq_zero
    intro e member
    exact scanned e (List.mem_of_mem_filter member)
  rw [← exists_mem_bucketEvents, zeroMatrix, Vector.ext_iff]
  simp only [Vector.getElem_ofFn, Vector.getElem_replicate]
  push Not
  constructor
  · intro rows i
    exact (slot i).mp (rows i i.isLt)
  · intro silent i lt
    exact (slot ⟨i, lt⟩).mpr (silent ⟨i, lt⟩)

end Arithmetic

end WriteBurstTracker

namespace HeadOne

/-! ### The score of sustained encryption -/

/-- The mean of values in an interval lies in it. -/
theorem mean_mem {low high : ℚ} {blocks : List ℚ} (nonempty : blocks ≠ [])
    (within : ∀ e ∈ blocks, low ≤ e ∧ e ≤ high) :
    low ≤ blocks.foldl (· + ·) 0.0 / blocks.length ∧
      blocks.foldl (· + ·) 0.0 / blocks.length ≤ high := by
  have positive : (0 : ℚ) < blocks.length := by
    exact_mod_cast List.length_pos_iff.mpr nonempty
  have lower := le_foldl_add (f := fun e : ℚ => e) (fun e member => (within e member).1) 0.0
  have upper := foldl_add_le (f := fun e : ℚ => e) (fun e member => (within e member).2) 0.0
  constructor
  · rw [le_div_iff₀ positive]
    linarith
  · rw [div_le_iff₀ positive]
    linarith

/-- Values in an interval of length at most one half vary by less than 1 around any point of it. -/
theorem variance_lt_one {low high mean : ℚ} {blocks : List ℚ} (nonempty : blocks ≠ [])
    (narrow : high - low ≤ 1 / 2) (center : low ≤ mean ∧ mean ≤ high)
    (within : ∀ e ∈ blocks, low ≤ e ∧ e ≤ high) :
    blocks.foldl (fun varSum e => varSum + (e - mean) * (e - mean)) 0.0 / blocks.length < 1 := by
  have positive : (0 : ℚ) < blocks.length := by
    exact_mod_cast List.length_pos_iff.mpr nonempty
  have square : ∀ e ∈ blocks, (e - mean) * (e - mean) ≤ 1 / 4 := by
    intro e member
    obtain ⟨above, below⟩ := within e member
    obtain ⟨meanAbove, meanBelow⟩ := center
    nlinarith
  have total := foldl_add_le (f := fun e : ℚ => (e - mean) * (e - mean)) square 0.0
  rw [div_lt_iff₀ positive]
  linarith

/-- Blocks of uniform entropy show no intermittent encryption. -/
theorem intermittentScore_eq_zero {blocks : List ℚ}
    (within : ∀ e ∈ blocks, 7.95 ≤ e ∧ e ≤ 8) :
    (differentialEntropy blocks).intermittentEncryptionScore = 0 := by
  by_cases nonempty : blocks = []
  · rw [nonempty]
    norm_num [differentialEntropy]
  · have present : blocks.isEmpty = false := by simpa using nonempty
    have spread := variance_lt_one nonempty (by norm_num) (mean_mem nonempty within) within
    simp only [differentialEntropy, present, Bool.false_eq_true, if_false]
    rw [if_neg]
    · norm_num
    · rintro ⟨_, varied⟩
      norm_num at varied
      linarith

theorem quantize_zero : quantizeF32ToI8 (0 : ℚ) QuantizationParams.default = 0 := by
  decide +kernel

/-- With no sign of intermittent encryption the baseline is the entropy term alone, at most its weight. -/
theorem ioBaseline_le {tensor : IoInputTensor} (steady : ∀ row ∈ tensor.data, row.get 3 = 0) :
    (NpuEngine.ioBaseline tensor : ℚ) ≤ 0.7 := by
  have term : ∀ row ∈ tensor.data.toList,
      (row[0].toInt : ℚ) / (127.0 : ℚ) * (0.7 : ℚ) + (row[3].toInt : ℚ) / (127.0 : ℚ) * (0.3 : ℚ) ≤
        (0.7 : ℚ) := by
    intro row member
    have still : row[3] = 0 := steady row (by simpa using member)
    have entropy : (row[0].toInt : ℚ) ≤ 127 := by exact_mod_cast row[0].toInt_le
    have zero : (0 : Int8).toInt = 0 := rfl
    rw [still, zero]
    norm_num
    linarith
  have total := foldl_add_le term (0.0 : ℚ)
  rw [Vector.length_toList] at total
  unfold NpuEngine.ioBaseline
  simp only [← Vector.foldl_toList]
  apply clamp_le _ (by norm_num)
  rw [div_le_iff₀ (by norm_num)]
  norm_num at total ⊢
  linarith

/-- The events of a process in a slot of the window that ends at `now`. -/
def slotEvents (tracker : WriteBurstTracker ℚ) (pid : UInt32) (now : UInt64) (i : Nat) :
    List (FileOperationEvent ℚ) :=
  WriteBurstTracker.bucketEvents tracker.windowDurationMs
    (saturatingSub now tracker.windowDurationMs) (tracker.events.filter fun e => e.pid == pid) i

/-- Every slot of the process has an event with block entropies, and all the block entropies in the slots
    are those of ciphertext. -/
def SustainedEncryption (tracker : WriteBurstTracker ℚ) (pid : UInt32) (now : UInt64) : Prop :=
  ∀ i < npuTimeSlots,
    (∃ e ∈ slotEvents tracker pid now i, e.blockEntropies ≠ []) ∧
      ∀ e ∈ slotEvents tracker pid now i, ∀ h ∈ e.blockEntropies, 7.95 ≤ h ∧ h ≤ 8

/-- The slot of uniform ciphertext quantizes to a row without intermittent feature. -/
theorem slotFeatures_steady {events : List (FileOperationEvent ℚ)}
    (within : ∀ e ∈ events, ∀ h ∈ e.blockEntropies, 7.95 ≤ h ∧ h ≤ 8) :
    (WriteBurstTracker.slotFeatures events : Vector ℚ 4).get 3 = 0 := by
  unfold WriteBurstTracker.slotFeatures
  split
  · change (Vector.replicate 4 (0.0 : ℚ))[(3 : Nat)] = 0
    rw [Vector.getElem_replicate]
    norm_num
  · apply intermittentScore_eq_zero
    intro h member
    obtain ⟨e, present, block⟩ := List.mem_flatMap.mp member
    exact within e present h block

/-- The slots of an active process are the rows of its matrix. -/
theorem tensorMatrix_of_active (sha256 : List UInt8 → Bytes 32) {tracker : WriteBurstTracker ℚ}
    {pid : UInt32} (now : UInt64) (active : tracker.events.filter (fun e => e.pid == pid) ≠ []) :
    ∃ eval : ProcessBurstEvaluation ℚ ℚ, tracker.evaluatePid sha256 pid now = some eval ∧
      eval.tensorMatrix =
        Vector.ofFn fun i => WriteBurstTracker.slotFeatures (slotEvents tracker pid now i) := by
  have present : (tracker.events.filter fun e => e.pid == pid).isEmpty = false := by
    simpa using active
  unfold WriteBurstTracker.evaluatePid
  simp only [present, Bool.false_eq_true, if_false]
  exact ⟨_, rfl, rfl⟩

/-- The quantized matrix of sustained encryption has no intermittent feature. -/
theorem ioTensor_steady {tracker : WriteBurstTracker ℚ} {pid : UInt32} {now : UInt64}
    (sustained : SustainedEncryption tracker pid now) :
    ∀ row ∈ (LiveLoop.ioTensor (Vector.ofFn fun i : Fin 10 =>
      (WriteBurstTracker.slotFeatures (slotEvents tracker pid now i) : Vector ℚ 4))).data,
      row.get 3 = 0 := by
  intro row member
  unfold LiveLoop.ioTensor InputTensor.fromF32Matrix at member
  obtain ⟨slot, inMatrix, rfl⟩ := Vector.mem_map.mp member
  obtain ⟨i, rfl⟩ := Vector.mem_ofFn.mp inMatrix
  have third := slotFeatures_steady (sustained i i.isLt).2
  change (Vector.map _ _)[(3 : Nat)] = 0
  rw [Vector.getElem_map]
  exact (congrArg (fun val => quantizeF32ToI8 val QuantizationParams.default) third).trans quantize_zero

/-- The score of sustained encryption stays below the alert threshold. For every tracker, of the default
    window or another, and every process that fills its ten slots with ciphertext, the blocks of a slot
    hardly vary, so its intermittent feature is zero, and the entropy term alone is at most 0.7: the live
    loop does not alert, in any state of its session. -/
theorem sustained_encryption_scores_below (sha256 : List UInt8 → Bytes 32) (host : NpuHost ℚ)
    (engine : NpuEngine) (cpuBaseline : engine.ortSession = none) (tracker : WriteBurstTracker ℚ)
    (pid : UInt32) (now : UInt64) (sustained : SustainedEncryption tracker pid now) :
    ∃ eval : ProcessBurstEvaluation ℚ ℚ, tracker.evaluatePid sha256 pid now = some eval ∧
      (engine.runIoInference host (LiveLoop.ioTensor eval.tensorMatrix)).1 ≤ 0.7 ∧
      ¬ (engine.runIoInference host (LiveLoop.ioTensor eval.tensorMatrix)).1 ≥ LiveLoop.ioThreshold ∧
      ∀ state, (LiveLoop.ioAlert host ⟨state, engine⟩ eval.tensorMatrix).1 = false := by
  have active : tracker.events.filter (fun e => e.pid == pid) ≠ [] := by
    obtain ⟨⟨e, member, _⟩, _⟩ := sustained 0 (by decide)
    exact List.ne_nil_of_mem (List.mem_of_mem_filter member)
  obtain ⟨eval, evaluated, matrix⟩ := tensorMatrix_of_active sha256 now active
  have score : (engine.runIoInference host (LiveLoop.ioTensor eval.tensorMatrix)).1 ≤ 0.7 := by
    simp only [NpuEngine.runIoInference, NpuEngine.scoreOr, cpuBaseline, matrix]
    exact ioBaseline_le (ioTensor_steady sustained)
  have below : ¬ (engine.runIoInference host (LiveLoop.ioTensor eval.tensorMatrix)).1 ≥
      LiveLoop.ioThreshold := by
    intro reaches
    norm_num [LiveLoop.ioThreshold] at reaches score
    linarith
  refine ⟨eval, evaluated, score, below, ?_⟩
  intro state
  cases state with
  | active manifest => exact decide_eq_false below
  | degradedObserver reason rollbackMinimum expectedKeyId => rfl

/-- A process that writes the 256 byte values once every 5 ms, from 1000 ms on. -/
def sampleBurst : WriteBurstTracker ℚ :=
  (List.range 10).foldl
    (fun tracker i =>
      let writtenAt := 1000 + 5 * UInt64.ofNat i
      tracker.recordEvent ⟨7, writtenAt, "report.docx", 256, [8], false⟩ writtenAt)
    WriteBurstTracker.new

theorem sampleBurst_slots : ∀ i < npuTimeSlots,
    (slotEvents sampleBurst 7 1050 i).map FileOperationEvent.blockEntropies = [[8]] := by
  decide +kernel

/-- An engine without a runtime session. -/
def baselineEngine : NpuEngine :=
  { info := NpuHardwareInfo.probe none none false none
    activeInferences := 0
    ortSession := none }

theorem sampleBurst_sustained : SustainedEncryption sampleBurst 7 1050 := by
  intro i lt
  have slots := sampleBurst_slots i lt
  obtain ⟨e, single, blocks⟩ : ∃ e, slotEvents sampleBurst 7 1050 i = [e] ∧ e.blockEntropies = [8] := by
    cases occupied : slotEvents sampleBurst 7 1050 i with
    | nil => simp [occupied] at slots
    | cons e rest =>
        simp only [occupied, List.map_cons, List.cons.injEq, List.map_eq_nil_iff] at slots
        exact ⟨e, by rw [slots.2], slots.1⟩
  rw [single]
  refine ⟨⟨e, List.mem_singleton_self e, by simp [blocks]⟩, ?_⟩
  intro other member h block
  rw [List.mem_singleton.mp member, blocks, List.mem_singleton] at block
  rw [block]
  norm_num

/-- The burst fills the default window with ciphertext, and no runtime or hash makes its score reach the
    threshold. -/
theorem sampleBurst_scores_below :
    SustainedEncryption sampleBurst 7 1050 ∧ sampleBurst.windowDurationMs = 50 ∧
      ∀ (sha256 : List UInt8 → Bytes 32) (host : NpuHost ℚ),
        ∃ eval : ProcessBurstEvaluation ℚ ℚ, sampleBurst.evaluatePid sha256 7 1050 = some eval ∧
          ¬ (baselineEngine.runIoInference host (LiveLoop.ioTensor eval.tensorMatrix)).1 ≥
            LiveLoop.ioThreshold := by
  refine ⟨sampleBurst_sustained, by decide, ?_⟩
  intro sha256 host
  obtain ⟨eval, evaluated, _, below, _⟩ := sustained_encryption_scores_below sha256 host baselineEngine rfl
    sampleBurst 7 1050 sampleBurst_sustained
  exact ⟨eval, evaluated, below⟩

/-- The score of the burst is 0.7, short of the threshold of 0.85. -/
theorem sampleBurst_not_alerted :
    sampleBurst.windowDurationMs = defaultSlidingWindowMs ∧ SustainedEncryption sampleBurst 7 1050 ∧
      ∃ eval : ProcessBurstEvaluation ℚ ℚ,
        sampleBurst.evaluatePid (fun _ => Bytes.replicate 32 0) 7 1050 = some eval ∧
        ∀ host : NpuHost ℚ,
          (baselineEngine.runIoInference host (LiveLoop.ioTensor eval.tensorMatrix)).1 = 0.7 ∧
          ¬ (baselineEngine.runIoInference host (LiveLoop.ioTensor eval.tensorMatrix)).1 ≥ 0.85 := by
  have scored : (sampleBurst.evaluatePid (S := ℚ) (fun _ => Bytes.replicate 32 0) 7 1050).map
      (fun eval => NpuEngine.ioBaseline (LiveLoop.ioTensor eval.tensorMatrix)) = some (0.7 : ℚ) := by
    decide +kernel
  obtain ⟨eval, evaluated, score⟩ := Option.map_eq_some_iff.mp scored
  refine ⟨rfl, sampleBurst_sustained, eval, evaluated, ?_⟩
  intro host
  have reported : (baselineEngine.runIoInference host (LiveLoop.ioTensor eval.tensorMatrix)).1 = 0.7 :=
    score
  refine ⟨reported, ?_⟩
  rw [reported]
  norm_num

/-! ### What the live loop sees of a burst -/

section Arithmetic

variable {D S : Type} [Add D] [Sub D] [Mul D] [Div D] [LE D] [LT D] [DecidableLE D] [DecidableLT D]
  [NatCast D] [OfScientific D] [FloatOps D] [Div S] [LT S] [DecidableLT S] [NatCast S] [OfScientific S]
  [AsF32 D S] (log2 : D → D) (sha256 : List UInt8 → Bytes 32)

/-- The tracker of an engine with default parameters after a run. -/
def trackerOf (ops : List FileOperation) : WriteBurstTracker D :=
  (final (EntropyEngine.ingestOperation (S := S) log2 sha256) EntropyEngine.new ops).tracker

/-- The operations of a process that call for its suspension: anomalous blocks in enough files. -/
def Burst (own : List FileOperation) : Prop :=
  (differentialEntropy (own.flatMap fun o => blockEntropyScan log2 o.data defaultBlockSize)).isAnomalous =
      true ∧
    (own.map FileOperation.path).dedup.length ≥ defaultSuspensionFileThreshold

/-- The process that wrote last wrote or renamed something in the 50 ms that the slots cover, which end
    before the present if 50 ms have passed. -/
def LastWriterInSlots (ops : List FileOperation) (last : FileOperation) : Prop :=
  ∃ o ∈ ops, o.pid = last.pid ∧ saturatingSub last.nowMs 50 ≤ o.nowMs ∧
    o.nowMs.toNat < (saturatingSub last.nowMs 50).toNat + 50 ∧ (o.data ≠ [] ∨ o.isRename = true)

/-- Suspension is recommended exactly for the bursts in the window. -/
theorem suspends_iff {ops : List FileOperation} {op : FileOperation}
    (ordered : EntropyEngine.Chronological (ops ++ [op])) (pid : UInt32) :
    (∃ eval : ProcessBurstEvaluation D S,
      (trackerOf (S := S) log2 sha256 (ops ++ [op])).evaluatePid sha256 pid op.nowMs = some eval ∧
        eval.recommendedAction = .suspendAndAlert) ↔
      Burst log2 (EntropyEngine.ownInWindow 50 pid op.nowMs (ops ++ [op])) := by
  by_cases active : EntropyEngine.ownInWindow 50 pid op.nowMs (ops ++ [op]) = []
  · have idle := EntropyEngine.evaluatePid_of_run_idle (S := S) log2 sha256 50 3 ordered active
    constructor
    · rintro ⟨eval, evaluated, _⟩
      exact absurd (idle.symm.trans evaluated) (by simp)
    · rintro ⟨anomalous, _⟩
      rw [active] at anomalous
      exact absurd anomalous (by simp [differentialEntropy])
  · have evaluated := EntropyEngine.evaluatePid_of_run (S := S) log2 sha256 50 3 ordered active
    have suspends := EntropyEngine.burstEvaluation_suspends_iff (S := S) log2 sha256 50 3 pid op.nowMs
      (EntropyEngine.ownInWindow 50 pid op.nowMs (ops ++ [op]))
    have files : (EntropyEngine.burstEvaluation (S := S) log2 sha256 50 3 pid op.nowMs
        (EntropyEngine.ownInWindow 50 pid op.nowMs (ops ++ [op]))).distinctFiles.length =
        ((EntropyEngine.ownInWindow 50 pid op.nowMs (ops ++ [op])).map
          FileOperation.path).dedup.length := List.length_mergeSort _
    rw [files] at suspends
    constructor
    · rintro ⟨eval, returned, suspended⟩
      obtain rfl := Option.some.inj (evaluated.symm.trans returned)
      exact suspends.mp suspended
    · intro burst
      exact ⟨_, evaluated, suspends.mpr burst⟩

/-- The live loop scores the slots of the process that wrote last. -/
theorem buildTensorMatrix_of_run {ops : List FileOperation} {op : FileOperation}
    (ordered : EntropyEngine.Chronological (ops ++ [op])) :
    ((trackerOf (S := S) log2 sha256 (ops ++ [op])).buildTensorMatrix sha256 : IoMatrix S) =
      Vector.ofFn fun i => WriteBurstTracker.slotFeatures
        (WriteBurstTracker.bucketEvents 50 (saturatingSub op.nowMs 50)
          ((EntropyEngine.ownInWindow 50 op.pid op.nowMs (ops ++ [op])).map
            (EntropyEngine.eventOf log2)) i) := by
  have last := EntropyEngine.getLast_of_run (S := S) log2 sha256 50 3 ordered
  have evaluated := EntropyEngine.evaluatePid_of_run (S := S) log2 sha256 50 3 ordered
    (List.ne_nil_of_mem (EntropyEngine.mem_ownInWindow_last 50 ops op))
  change WriteBurstTracker.buildTensorMatrix sha256
    (EntropyEngine.trackerAfter (S := S) log2 sha256 50 3 (ops ++ [op])) = _
  unfold WriteBurstTracker.buildTensorMatrix
  simp only [last]
  simp only [EntropyEngine.eventOf, makeWriteEvent, evaluated]
  rfl

omit [Add D] [LE D] [LT D] [DecidableLE D] [DecidableLT D] [FloatOps D] in
/-- An operation without data has no blocks. -/
theorem eventOf_scanned (op : FileOperation) :
    (EntropyEngine.eventOf log2 op).bytesWritten = 0 →
      (EntropyEngine.eventOf log2 op).blockEntropies = [] := by
  intro unwritten
  have empty : op.data = [] := List.length_eq_zero_iff.mp unwritten
  simp [EntropyEngine.eventOf, makeWriteEvent, blockEntropyScan, empty]

omit [Add D] [LE D] [LT D] [DecidableLE D] [DecidableLT D] [FloatOps D] in
theorem not_silent_eventOf (op : FileOperation) :
    ¬ WriteBurstTracker.Silent (EntropyEngine.eventOf log2 op) ↔ op.data ≠ [] ∨ op.isRename = true := by
  simp only [WriteBurstTracker.Silent, EntropyEngine.eventOf, makeWriteEvent, List.length_eq_zero_iff]
  rw [not_and_or, Bool.not_eq_false]

/-- The matrix the live loop scores is zero exactly if the process that wrote last left no trace in the
    slots. -/
theorem buildTensorMatrix_ne_zero [SlotBounds D] [SlotArithmetic D S] {ops : List FileOperation}
    {op : FileOperation} (ordered : EntropyEngine.Chronological (ops ++ [op])) :
    ((trackerOf (S := S) log2 sha256 (ops ++ [op])).buildTensorMatrix sha256 : IoMatrix S) ≠
      WriteBurstTracker.zeroMatrix ↔ LastWriterInSlots (ops ++ [op]) op := by
  have scanned : ∀ e ∈ (EntropyEngine.ownInWindow 50 op.pid op.nowMs (ops ++ [op])).map
      (EntropyEngine.eventOf log2), e.bytesWritten = 0 → e.blockEntropies = [] := by
    intro e member
    obtain ⟨o, _, rfl⟩ := List.mem_map.mp member
    exact eventOf_scanned log2 o
  rw [buildTensorMatrix_of_run log2 sha256 ordered, Ne, WriteBurstTracker.slots_eq_zero scanned, not_not]
  constructor
  · rintro ⟨e, member, low, high, trace⟩
    obtain ⟨o, own, rfl⟩ := List.mem_map.mp member
    obtain ⟨recorded, fits⟩ := List.mem_filter.mp own
    obtain ⟨samePid, _⟩ := Bool.and_eq_true_iff.mp fits
    exact ⟨o, recorded, beq_iff_eq.mp samePid, UInt64.le_iff_toNat_le.mpr low, high,
      (not_silent_eventOf log2 o).mp trace⟩
  · rintro ⟨o, recorded, samePid, low, high, trace⟩
    have own : o ∈ EntropyEngine.ownInWindow 50 op.pid op.nowMs (ops ++ [op]) := by
      apply List.mem_filter.mpr
      exact ⟨recorded, Bool.and_eq_true_iff.mpr ⟨beq_iff_eq.mpr samePid, decide_eq_true low⟩⟩
    exact ⟨_, List.mem_map_of_mem own, UInt64.le_iff_toNat_le.mp low, high,
      (not_silent_eventOf log2 o).mpr trace⟩

/-- A burst can be hidden from Head 1 exactly by who writes last. In every chronological run of the default
    engine, and for every arithmetic that computes the slots, a recommended suspension comes with a matrix
    that is not zero if and only if there is no burst in the window, or the process that wrote last has
    written or renamed something within the slots. -/
theorem burst_visible_iff [SlotBounds D] [SlotArithmetic D S] (before : List FileOperation)
    (op : FileOperation) (ordered : EntropyEngine.Chronological (before ++ [op])) :
    ((∃ pid, ∃ eval : ProcessBurstEvaluation D S,
        (trackerOf (S := S) log2 sha256 (before ++ [op])).evaluatePid sha256 pid op.nowMs = some eval ∧
          eval.recommendedAction = .suspendAndAlert) →
      ((trackerOf (S := S) log2 sha256 (before ++ [op])).buildTensorMatrix sha256 : IoMatrix S) ≠
        WriteBurstTracker.zeroMatrix) ↔
      (∀ pid, ¬ Burst log2 (EntropyEngine.ownInWindow 50 pid op.nowMs (before ++ [op]))) ∨
        LastWriterInSlots (before ++ [op]) op := by
  simp only [suspends_iff (S := S) log2 sha256 ordered,
    buildTensorMatrix_ne_zero (S := S) log2 sha256 ordered]
  rw [← not_exists, ← imp_iff_not_or]

end Arithmetic

/-- The binary logarithm of a quotient of powers of two, in exact arithmetic. -/
def log2Rat (value : ℚ) : ℚ :=
  (Nat.log2 value.num.toNat : ℚ) - (Nat.log2 value.den : ℚ)

/-- The 256 byte values, once each. -/
def everyByte : List UInt8 :=
  (List.range 256).map UInt8.ofNat

theorem everyByte_counts :
    ((List.range 256).map fun symbol => everyByte.countP fun byte => byte.toNat == symbol) =
      List.replicate 256 1 := by
  apply List.eq_replicate_iff.mpr
  refine ⟨by simp, ?_⟩
  intro count member
  obtain ⟨symbol, isByte, rfl⟩ := List.mem_map.mp member
  have numbers : everyByte.countP (fun byte => byte.toNat == symbol) = (List.range 256).count symbol := by
    unfold everyByte
    rw [List.countP_map, List.count]
    apply List.countP_congr
    intro n small
    have same : (UInt8.ofNat n).toNat = n := UInt8.toNat_ofNat_of_lt' (List.mem_range.mp small)
    simp [same]
  rw [numbers]
  exact List.count_eq_one_of_mem List.nodup_range isByte

theorem everyByte_entropy : shannonEntropy log2Rat everyByte = 8 := by
  have present : everyByte.isEmpty = false := by decide
  have size : everyByte.length = 256 := by simp [everyByte]
  simp only [shannonEntropy, present, everyByte_counts, size]
  decide +kernel

theorem everyByte_scanned : blockEntropyScan log2Rat everyByte defaultBlockSize = [8] := by
  have single : chunks defaultBlockSize everyByte = [everyByte] :=
    chunks_of_length_le (by decide) (by simp [everyByte, defaultBlockSize])
  have scanned : blockEntropyScan log2Rat everyByte defaultBlockSize =
      (chunks defaultBlockSize everyByte).map (shannonEntropy log2Rat) := by
    unfold blockEntropyScan
    exact if_neg (by decide)
  rw [scanned, single, List.map_singleton, everyByte_entropy]

/-- Process 7 overwrites a file. -/
def sampleWrite (path : String) (now : UInt64) : FileOperation :=
  ⟨7, path, everyByte, false, now⟩

/-- Three files within 20 ms. -/
def sampleEncryption : List FileOperation :=
  [sampleWrite "a.docx" 1000, sampleWrite "b.docx" 1010, sampleWrite "c.docx" 1020]

/-- Process 9 writes one byte 10 ms later. -/
def sampleBystander : FileOperation :=
  ⟨9, "app.log", [1], false, 1030⟩

/-- While process 7 is the last to write, its burst shows in the matrix. -/
theorem sampleEncryption_visible :
    EntropyEngine.Chronological (sampleEncryption ++ [sampleWrite "d.docx" 1030]) ∧
      ∀ sha256 : List UInt8 → Bytes 32,
        (∃ pid, ∃ eval : ProcessBurstEvaluation ℚ ℚ,
          (trackerOf (S := ℚ) log2Rat sha256 (sampleEncryption ++ [sampleWrite "d.docx" 1030])).evaluatePid
              sha256 pid 1030 = some eval ∧ eval.recommendedAction = .suspendAndAlert) →
        ((trackerOf (S := ℚ) log2Rat sha256
            (sampleEncryption ++ [sampleWrite "d.docx" 1030])).buildTensorMatrix sha256 : IoMatrix ℚ) ≠
          WriteBurstTracker.zeroMatrix := by
  have ordered : EntropyEngine.Chronological (sampleEncryption ++ [sampleWrite "d.docx" 1030]) := by
    unfold EntropyEngine.Chronological sampleEncryption sampleWrite
    decide
  refine ⟨ordered, ?_⟩
  intro sha256
  apply (burst_visible_iff log2Rat sha256 sampleEncryption (sampleWrite "d.docx" 1030) ordered).mpr
  right
  refine ⟨sampleWrite "a.docx" 1000, by simp [sampleEncryption], rfl, by decide, by decide, Or.inl ?_⟩
  unfold sampleWrite
  decide

theorem sampleEncryption_burst : Burst log2Rat sampleEncryption := by
  have blocks : (sampleEncryption.flatMap fun o => blockEntropyScan log2Rat o.data defaultBlockSize) =
      [8, 8, 8] := by
    simp [sampleEncryption, sampleWrite, everyByte_scanned]
  refine ⟨?_, by decide⟩
  rw [blocks]
  decide +kernel

/-- One byte written by process 9 leaves head 1 with a zero matrix, although the suspension of process 7 is
    recommended: the slots end before the present, so they hold nothing of process 9. -/
theorem burst_hidden_by_bystander :
    EntropyEngine.Chronological (sampleEncryption ++ [sampleBystander]) ∧
      (∃ eval : ProcessBurstEvaluation ℚ ℚ,
        (trackerOf (S := ℚ) log2Rat (fun _ => Bytes.replicate 32 0)
            (sampleEncryption ++ [sampleBystander])).evaluatePid (fun _ => Bytes.replicate 32 0) 7
              sampleBystander.nowMs = some eval ∧
          eval.recommendedAction = .suspendAndAlert) ∧
      ((trackerOf (S := ℚ) log2Rat (fun _ => Bytes.replicate 32 0)
          (sampleEncryption ++ [sampleBystander])).buildTensorMatrix
            (fun _ => Bytes.replicate 32 0) : IoMatrix ℚ) = WriteBurstTracker.zeroMatrix := by
  have ordered : EntropyEngine.Chronological (sampleEncryption ++ [sampleBystander]) := by
    unfold EntropyEngine.Chronological sampleEncryption sampleWrite sampleBystander
    decide
  have own : EntropyEngine.ownInWindow 50 7 sampleBystander.nowMs
      (sampleEncryption ++ [sampleBystander]) = sampleEncryption := rfl
  refine ⟨ordered, ?_, ?_⟩
  · apply (suspends_iff log2Rat _ ordered 7).mpr
    rw [own]
    exact sampleEncryption_burst
  · by_contra visible
    obtain ⟨o, member, samePid, _, early, _⟩ :=
      (buildTensorMatrix_ne_zero (S := ℚ) log2Rat _ ordered).mp visible
    rcases List.mem_append.mp member with written | last
    · have seven : ∀ o ∈ sampleEncryption, o.pid = 7 := by
        simp [sampleEncryption, sampleWrite]
      rw [seven o written] at samePid
      exact absurd samePid (by decide)
    · rw [List.mem_singleton.mp last] at early
      exact absurd early (by decide)

end HeadOne

end KavachNpu

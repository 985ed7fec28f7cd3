/-
Module: KavachNpu.Proofs.TripwireEvidence
Layer: Proofs
Purpose: What a suspension recommendation is backed by. The evidence count and the action are computed from
  different conditions; an anomalous summary has a block at the ransomware threshold, so its maximum
  reaches the threshold too, and the action asks for the files itself.
Trusted boundary: none
Main exports: maxEntropy_of_isAnomalous, suspension_carries_evidence
-/
import KavachNpu.Core.Config
import KavachNpu.Proofs.TripwireBuckets

namespace KavachNpu

namespace TripwireEvidence

section Summary

variable {D : Type} [Field D] [LinearOrder D] [IsStrictOrderedRing D] [FloatOps D]

/-- An anomalous summary has a block at the ransomware threshold. -/
theorem exists_high_of_isAnomalous {blocks : List D}
    (anomalous : (differentialEntropy blocks).isAnomalous = true) :
    ∃ e ∈ blocks, e ≥ entropyRansomwareThreshold := by
  have counted : 0 < blocks.countP fun e => decide (e ≥ entropyRansomwareThreshold) := by
    by_contra none
    have zero : (blocks.countP fun e => decide (e ≥ entropyRansomwareThreshold)) = 0 := by omega
    unfold differentialEntropy at anomalous
    split at anomalous
    · cases anomalous
    · -- neither the ratio nor the count of high blocks reaches its bound
      simp only [zero, Nat.cast_zero, zero_div, Bool.or_eq_true, Bool.and_eq_true,
        decide_eq_true_eq] at anomalous
      rcases anomalous with ratio | ⟨two, -⟩
      · norm_num at ratio
      · omega
  obtain ⟨e, member, high⟩ := List.countP_pos_iff.mp counted
  exact ⟨e, member, of_decide_eq_true high⟩

/-- So its maximum reaches that threshold. -/
theorem maxEntropy_of_isAnomalous {blocks : List D}
    (anomalous : (differentialEntropy blocks).isAnomalous = true) :
    (differentialEntropy blocks).maxEntropy ≥ entropyRansomwareThreshold := by
  obtain ⟨e, member, high⟩ := exists_high_of_isAnomalous anomalous
  have present : ¬ blocks.isEmpty = true := by
    rw [List.isEmpty_iff]
    exact List.ne_nil_of_mem member
  have reached := (le_foldl_max blocks 0.0).2 e member
  unfold differentialEntropy
  rw [if_neg present]
  exact le_trans high reached

end Summary

section Suspension

variable {D S : Type} [Field D] [LinearOrder D] [IsStrictOrderedRing D] [FloatOps D] [Div S] [LT S]
  [DecidableLT S] [NatCast S] [OfScientific S] [AsF32 D S]

omit [IsStrictOrderedRing D] in
/-- The action and the evidence of an evaluation, from one summary, rename count and file count. -/
theorem evidence_of_evaluated {sha256 : List UInt8 → Bytes 32} {tracker : WriteBurstTracker D}
    {pid : UInt32} {now : UInt64} {eval : ProcessBurstEvaluation D S}
    (evaluated : tracker.evaluatePid sha256 pid now = some eval) :
    ∃ blocks : List D, eval.entropySummary = differentialEntropy blocks ∧
      eval.corroboratingEvidenceCount = WriteBurstTracker.evidenceCount eval.entropySummary
        eval.totalRenames eval.distinctFiles.length tracker.suspensionFileThreshold ∧
      (eval.recommendedAction = .suspendAndAlert ↔ eval.entropySummary.isAnomalous = true ∧
        eval.distinctFiles.length ≥ tracker.suspensionFileThreshold) := by
  unfold WriteBurstTracker.evaluatePid at evaluated
  simp only at evaluated
  split at evaluated
  · cases evaluated
  · cases evaluated
    refine ⟨_, rfl, rfl, ?_⟩
    simp only
    split
    · rename_i condition
      exact iff_of_true rfl condition
    · rename_i condition
      exact iff_of_false (by simp) condition

/-- A recommendation to suspend carries three or four pieces of evidence, whatever the tracker holds and
    whatever its window and threshold; the default minimum of the broker is three. -/
theorem suspension_carries_evidence (sha256 : List UInt8 → Bytes 32) (tracker : WriteBurstTracker D)
    (pid : UInt32) (now : UInt64) (eval : ProcessBurstEvaluation D S)
    (evaluated : tracker.evaluatePid sha256 pid now = some eval)
    (suspends : eval.recommendedAction = .suspendAndAlert) :
    (eval.corroboratingEvidenceCount = 3 ∨ eval.corroboratingEvidenceCount = 4) ∧
      defaultMinEvidence ≤ eval.corroboratingEvidenceCount := by
  obtain ⟨blocks, summary, count, action⟩ := evidence_of_evaluated evaluated
  obtain ⟨anomalous, files⟩ := action.mp suspends
  have reached : eval.entropySummary.maxEntropy ≥ 7.95 := by
    rw [summary] at anomalous ⊢
    exact maxEntropy_of_isAnomalous anomalous
  rw [count]
  unfold WriteBurstTracker.evidenceCount
  rw [if_pos reached, if_pos anomalous, if_pos files]
  split
  · exact ⟨.inr rfl, by decide⟩
  · exact ⟨.inl rfl, by decide⟩

end Suspension

/-- One process, one file, two encrypted blocks, and a threshold of one file. -/
def encryptingTracker : WriteBurstTracker ℚ :=
  { windowDurationMs := 50
    suspensionFileThreshold := 1
    events := [⟨7, 10, "a.txt", 8192, [7.98, 7.99], false⟩] }

theorem encryptingTracker_suspends (sha256 : List UInt8 → Bytes 32) :
    ∃ eval : ProcessBurstEvaluation ℚ ℚ, encryptingTracker.evaluatePid sha256 7 20 = some eval ∧
      eval.recommendedAction = .suspendAndAlert := by
  refine ⟨_, rfl, ?_⟩
  have anomalous : (differentialEntropy ([7.98, 7.99] : List ℚ)).isAnomalous = true := by decide +kernel
  apply if_pos
  refine ⟨anomalous, ?_⟩
  rw [List.length_mergeSort]
  decide

theorem encryptingTracker_evidence : ∃ eval : ProcessBurstEvaluation ℚ ℚ,
    encryptingTracker.evaluatePid (fun _ => Bytes.replicate 32 0) 7 20 = some eval ∧
      defaultMinEvidence ≤ eval.corroboratingEvidenceCount := by
  obtain ⟨eval, evaluated, suspends⟩ := encryptingTracker_suspends fun _ => Bytes.replicate 32 0
  exact ⟨eval, evaluated, (suspension_carries_evidence _ _ _ _ eval evaluated suspends).2⟩

end TripwireEvidence

end KavachNpu

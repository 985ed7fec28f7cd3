/-
Module: KavachNpu.Proofs.BeaconJitter
Layer: Proofs
Purpose: Which jittered beacons are flagged, in exact arithmetic. The score reaches its threshold while the
  coefficient of variation is at most half of the permitted maximum; for intervals within a fifth of their
  sleep time everything else is satisfied, so that bound decides.
Trusted boundary: none
Main exports: interArrivalMs, exactFloat, sum_sq_deviations, flagged_iff, jittered_beacon_flagged_iff
-/
import Mathlib.Analysis.Real.Sqrt
import KavachNpu.Beacon.Engine

namespace KavachNpu

namespace BeaconJitter

/-! ### Dispersion -/

/-- The squared deviations from any value, expanded. -/
theorem sum_sq_deviations (items : List ℝ) (center : ℝ) :
    (items.map fun d => (d - center) * (d - center)).sum =
      (items.map fun d => d * d).sum - 2 * center * items.sum + items.length * (center * center) := by
  induction items with
  | nil => simp
  | cons d rest ih =>
      simp only [List.map_cons, List.sum_cons, List.length_cons, ih]
      push_cast
      ring

/-- The variance of a list with positive sum, against the square of a multiple of its mean. -/
theorem variance_le_iff {items : List ℝ} (some : 0 < items.length) (factor : ℝ) :
    (items.map fun d => (d - items.sum / items.length) * (d - items.sum / items.length)).sum /
        items.length ≤ (factor * (items.sum / items.length)) * (factor * (items.sum / items.length)) ↔
      items.length * (items.map fun d => d * d).sum ≤ (1 + factor * factor) * (items.sum * items.sum) := by
  have positive : (0 : ℝ) < items.length := Nat.cast_pos.mpr some
  rw [sum_sq_deviations]
  generalize (items.length : ℝ) = n at positive ⊢
  generalize items.sum = s
  generalize (items.map fun d => d * d).sum = q
  have left : (q - 2 * (s / n) * s + n * (s / n * (s / n))) / n = (n * q - s * s) / (n * n) := by
    field_simp
    ring
  have right : factor * (s / n) * (factor * (s / n)) = factor * factor * (s * s) / (n * n) := by
    field_simp
  rw [left, right, div_le_div_iff_of_pos_right (mul_pos positive positive)]
  constructor
  · intro le
    linarith
  · intro le
    linarith

/-! ### Deltas and scores -/

/-- The nanoseconds between consecutive packets. -/
def interArrivalNs (flow : RollingFlow) : List Nat :=
  flow.packets.zipWith (fun earlier later => (saturatingSub later.timestampNs earlier.timestampNs).toNat)
    flow.packets.tail

/-- The same in milliseconds. -/
noncomputable def interArrivalMs (flow : RollingFlow) : List ℝ :=
  (interArrivalNs flow).map fun ns : Nat => (ns : ℝ) / 1000000

/-- The exact square root; the logarithm and the bytes of a double play no part in the scores. -/
noncomputable def exactFloat (log10 : ℝ → ℝ) (toBeBytes : ℝ → Bytes 8) : FloatFunctions ℝ :=
  { sqrt := Real.sqrt
    log10 := log10
    toBeBytes := toBeBytes }

theorem length_interArrivalMs {flow : RollingFlow} (full : flow.packets.length = 32) :
    (interArrivalMs flow).length = 31 := by
  unfold interArrivalMs interArrivalNs
  rw [List.length_map, List.length_zipWith, List.length_tail, full]
  rfl

/-- Compact payloads only: all of the counted packets are compact. -/
theorem compactRatio_eq_one {flow : RollingFlow} (full : flow.packets.length = 32)
    (compact : ∀ p ∈ flow.packets, p.payloadBytes ≤ 512) :
    ((flow.packets.tail.countP fun p => decide (p.payloadBytes ≤ 512) : Nat) : ℝ) /
      (interArrivalMs flow).length = 1 := by
  have all : (flow.packets.tail.countP fun p => decide (p.payloadBytes ≤ 512)) = 31 := by
    rw [List.countP_eq_length.mpr fun p member =>
      decide_eq_true (compact p (List.mem_of_mem_tail member)), List.length_tail, full]
  rw [all, length_interArrivalMs full]
  norm_num

/-- The deltas of the detector. -/
theorem deltas_eq (flow : RollingFlow) :
    flow.packets.zipWith (fun earlier later =>
        RollingFlow.deltaMs (D := ℝ) earlier.timestampNs later.timestampNs) flow.packets.tail =
      interArrivalMs flow := by
  unfold interArrivalMs interArrivalNs RollingFlow.deltaMs
  rw [List.map_zipWith]
  norm_num

theorem foldl_add_eq_sum (items : List ℝ) : items.foldl (· + ·) 0.0 = items.sum := by
  rw [List.sum_eq_foldl]
  norm_num

/-- The jitter score reaches one half exactly if the coefficient of variation is at most half of its
    maximum. -/
theorem jitterScore_iff {mean cv : ℝ} (interval : 500 ≤ mean) :
    (if mean ≥ minBeaconIntervalMs ∧ cv ≤ jitterCvMax then clamp (1.0 - cv / jitterCvMax) 0.0 1.0
      else 0.0) ≥ (0.5 : ℝ) ↔ cv ≤ 0.175 := by
  have long : mean ≥ minBeaconIntervalMs := by
    unfold minBeaconIntervalMs
    norm_num
    exact interval
  unfold jitterCvMax
  by_cases tight : cv ≤ 0.35
  · rw [if_pos ⟨long, tight⟩]
    constructor
    · intro reached
      by_contra loose
      have low : clamp (1.0 - cv / 0.35) 0.0 1.0 < (0.5 : ℝ) := by
        have below : 1.0 - cv / 0.35 ≤ (0.5 : ℝ) - (cv - 0.175) := by
          norm_num at loose ⊢
          linarith
        have gap : (0 : ℝ) < cv - 0.175 := by
          norm_num at loose ⊢
          linarith
        have upper : clamp (1.0 - cv / 0.35) 0.0 1.0 ≤ max ((0.5 : ℝ) - (cv - 0.175)) 0.0 :=
          clamp_le (le_max_of_le_left below) (le_max_right _ _)
        refine lt_of_le_of_lt upper (max_lt ?_ ?_)
        · linarith
        · norm_num
      exact absurd reached (not_le.mpr low)
    · intro small
      apply le_clamp
      · norm_num at small ⊢
        linarith
      · norm_num
  · rw [if_neg fun both => tight both.2]
    constructor
    · intro reached
      norm_num at reached
    · intro small
      norm_num at small tight
      linarith

/-- With compact payloads only, the symmetry score passes whatever the directions are. -/
theorem symmetryScore_ge {balance payload : ℝ} (nonneg : 0 ≤ balance) (compact : payload = 1) :
    clamp (balance * 0.5 + payload * 0.5) 0.0 1.0 ≥ (0.4 : ℝ) := by
  apply le_clamp
  · rw [compact]
    norm_num
    linarith
  · norm_num

/-- The coefficient of variation, compared through squares. -/
theorem cv_le_iff {items : List ℝ} (some : 0 < items.length) (positive : 0 < items.sum / items.length)
    {factor : ℝ} (nonneg : 0 ≤ factor) :
    Real.sqrt ((items.map fun d => (d - items.sum / items.length) * (d - items.sum / items.length)).sum /
        items.length) / (items.sum / items.length) ≤ factor ↔
      items.length * (items.map fun d => d * d).sum ≤ (1 + factor * factor) * (items.sum * items.sum) := by
  have scaled : 0 ≤ factor * (items.sum / items.length) := mul_nonneg nonneg positive.le
  rw [div_le_iff₀ positive, Real.sqrt_le_iff, pow_two, variance_le_iff some]
  exact and_iff_right scaled

section Rhythm

variable {S : Type} [Div S] [LT S] [DecidableLT S] [NatCast S] [Neg S] [OfScientific S] [AsF32 ℝ S]
  (log10 : ℝ → ℝ) (toBeBytes : ℝ → Bytes 8) (sha256 : List UInt8 → Bytes 32)

/-- The detector flags the flow. -/
def Flagged (S : Type) [Div S] [LT S] [DecidableLT S] [NatCast S] [Neg S] [OfScientific S] [AsF32 ℝ S]
    (log10 : ℝ → ℝ) (toBeBytes : ℝ → Bytes 8) (sha256 : List UInt8 → Bytes 32) (flow : RollingFlow) :
    Prop :=
  ∃ result : BeaconDetectionResult ℝ S,
    evaluateBeaconRhythm (exactFloat log10 toBeBytes) sha256 flow = some result ∧
      result.isC2Beacon = true

/-- A full flow of compact packets with intervals of half a second on average is flagged exactly if its
    deltas are close enough to their mean. -/
theorem flagged_iff {flow : RollingFlow} (full : flow.packets.length = 32)
    (compact : ∀ p ∈ flow.packets, p.payloadBytes ≤ 512)
    (interval : 500 ≤ (interArrivalMs flow).sum / (interArrivalMs flow).length) :
    Flagged S log10 toBeBytes sha256 flow ↔
      (interArrivalMs flow).length * ((interArrivalMs flow).map fun d => d * d).sum ≤
        (1 + 0.175 * 0.175) * ((interArrivalMs flow).sum * (interArrivalMs flow).sum) := by
  have ready : flow.isFull = true := decide_eq_true full
  have long : 0 < (interArrivalMs flow).length := by
    rw [length_interArrivalMs full]
    decide
  have present : (interArrivalMs flow).isEmpty = false := by
    rw [List.isEmpty_eq_false_iff, ← List.length_pos_iff]
    exact long
  obtain ⟨tensor, built⟩ : ∃ tensor : FlowMatrix S,
      flow.buildTensorMatrix (exactFloat log10 toBeBytes) = some tensor := by
    unfold RollingFlow.buildTensorMatrix
    exact ⟨_, dif_pos full⟩
  have positive : 0 < (interArrivalMs flow).sum / (interArrivalMs flow).length := by linarith
  have moving : (interArrivalMs flow).sum / (interArrivalMs flow).length > 0.0 := by
    norm_num at positive ⊢
    exact positive
  have payloads := compactRatio_eq_one full compact
  rw [← cv_le_iff long positive (by norm_num), ← jitterScore_iff interval]
  unfold Flagged evaluateBeaconRhythm
  simp only [ready, Bool.not_true, Bool.false_eq_true, if_false, deltas_eq, present, built,
    foldl_add_eq_sum, moving, if_true, payloads]
  constructor
  · rintro ⟨result, returned, flagged⟩
    cases returned
    exact of_decide_eq_true (Bool.and_eq_true_iff.mp flagged).1
  · intro reached
    refine ⟨_, rfl, Bool.and_eq_true_iff.mpr ⟨decide_eq_true reached, decide_eq_true ?_⟩⟩
    apply symmetryScore_ge _ rfl
    split
    · positivity
    · norm_num

/-- A full flow of compact packets whose intervals lie within a fifth of a sleep time of at least 625 ms is
    flagged exactly if 31 times the sum of their squares is at most `1 + 0.175²` times the square of their
    sum. -/
theorem jittered_beacon_flagged_iff (m : ℝ) (sleep : 625 ≤ m) (flow : RollingFlow)
    (full : flow.packets.length = 32)
    (jitter : ∀ d ∈ interArrivalMs flow, 0.8 * m ≤ d ∧ d ≤ 1.2 * m)
    (compact : ∀ p ∈ flow.packets, p.payloadBytes ≤ 512) :
    Flagged S log10 toBeBytes sha256 flow ↔
      31 * ((interArrivalMs flow).map fun d => d * d).sum ≤
        (1 + 0.175 ^ 2) * (interArrivalMs flow).sum ^ 2 := by
  have length := length_interArrivalMs full
  have total := List.card_nsmul_le_sum (interArrivalMs flow) (0.8 * m) fun d member => (jitter d member).1
  have interval : 500 ≤ (interArrivalMs flow).sum / (interArrivalMs flow).length := by
    rw [length, nsmul_eq_mul] at total
    rw [length, le_div_iff₀ (by norm_num)]
    norm_num at total ⊢
    linarith
  rw [flagged_iff log10 toBeBytes sha256 full compact interval, length, pow_two, pow_two]
  norm_num

end Rhythm

/-! ### Two flows -/

noncomputable instance asF32Real : AsF32 ℝ ℝ where
  asF32 value := value

/-- Compact outbound packets with the given gaps between them, in nanoseconds. -/
def packetsWithGaps (start : UInt64) : List UInt64 → List PacketMeta
  | [] => [⟨start, 128, .outbound⟩]
  | gap :: rest => ⟨start, 128, .outbound⟩ :: packetsWithGaps (start + gap) rest

/-- A beacon every second. -/
def steadyFlow : RollingFlow :=
  { packets := packetsWithGaps 0 (List.replicate 31 1000000000)
    totalPacketsSeen := 32 }

/-- A beacon every second, with the full jitter of a fifth in alternating directions. -/
def alternatingFlow : RollingFlow :=
  { packets := packetsWithGaps 0
      ((List.range 31).map fun i => if i % 2 = 0 then 800000000 else 1200000000)
    totalPacketsSeen := 32 }

theorem sum_interArrivalMs (flow : RollingFlow) :
    (interArrivalMs flow).sum = ((interArrivalNs flow).sum : Nat) / 1000000 := by
  unfold interArrivalMs
  induction interArrivalNs flow with
  | nil => simp
  | cons ns rest ih =>
      rw [List.map_cons, List.sum_cons, ih, List.sum_cons]
      push_cast
      ring

theorem sum_sq_interArrivalMs (flow : RollingFlow) :
    ((interArrivalMs flow).map fun d => d * d).sum =
      (((interArrivalNs flow).map fun ns => ns * ns).sum : Nat) / 1000000000000 := by
  unfold interArrivalMs
  rw [List.map_map]
  induction interArrivalNs flow with
  | nil => simp
  | cons ns rest ih =>
      rw [List.map_cons, List.sum_cons, ih, List.map_cons, List.sum_cons]
      push_cast
      simp only [Function.comp]
      ring

/-- Bounds on the nanoseconds are bounds on the milliseconds. -/
theorem interArrivalMs_within {flow : RollingFlow} {low high : Nat}
    (within : ∀ ns ∈ interArrivalNs flow, low * 1000000 ≤ ns ∧ ns ≤ high * 1000000) :
    ∀ d ∈ interArrivalMs flow, (low : ℝ) ≤ d ∧ d ≤ high := by
  intro d member
  obtain ⟨ns, listed, rfl⟩ := List.mem_map.mp member
  obtain ⟨above, below⟩ := within ns listed
  have above' : ((low * 1000000 : Nat) : ℝ) ≤ ns := Nat.cast_le.mpr above
  have below' : (ns : ℝ) ≤ ((high * 1000000 : Nat) : ℝ) := Nat.cast_le.mpr below
  push_cast at above' below'
  constructor
  · rw [le_div_iff₀ (by norm_num)]
    exact above'
  · rw [div_le_iff₀ (by norm_num)]
    exact below'

theorem steadyFlow_flagged : steadyFlow.packets.length = 32 ∧
    ∀ (log10 : ℝ → ℝ) (toBeBytes : ℝ → Bytes 8) (sha256 : List UInt8 → Bytes 32),
      Flagged ℝ log10 toBeBytes sha256 steadyFlow := by
  have full : steadyFlow.packets.length = 32 := by decide
  have within : ∀ ns ∈ interArrivalNs steadyFlow, 800 * 1000000 ≤ ns ∧ ns ≤ 1200 * 1000000 := by
    decide +kernel
  have jitter : ∀ d ∈ interArrivalMs steadyFlow, 0.8 * (1000 : ℝ) ≤ d ∧ d ≤ 1.2 * 1000 := by
    intro d member
    have bounds := interArrivalMs_within within d member
    norm_num at bounds ⊢
    exact bounds
  have compact : ∀ p ∈ steadyFlow.packets, p.payloadBytes ≤ 512 := by decide +kernel
  refine ⟨full, ?_⟩
  intro log10 toBeBytes sha256
  rw [jittered_beacon_flagged_iff log10 toBeBytes sha256 1000 (by norm_num) steadyFlow full jitter compact,
    sum_interArrivalMs, sum_sq_interArrivalMs]
  have total : (interArrivalNs steadyFlow).sum = 31000000000 := by decide +kernel
  have squares : ((interArrivalNs steadyFlow).map fun ns => ns * ns).sum = 31000000000000000000 := by
    decide +kernel
  rw [total, squares]
  norm_num

/-- A beacon with a sleep time of one second and a jitter of a fifth is missed when the jitter alternates:
    the coefficient of variation is above `0.2`, and the score needs `0.175`. -/
theorem alternatingFlow_missed :
    alternatingFlow.packets.length = 32 ∧
    (∀ d ∈ interArrivalMs alternatingFlow, 0.8 * (1000 : ℝ) ≤ d ∧ d ≤ 1.2 * 1000) ∧
    (∀ p ∈ alternatingFlow.packets, p.payloadBytes ≤ 512) ∧
    ∀ (log10 : ℝ → ℝ) (toBeBytes : ℝ → Bytes 8) (sha256 : List UInt8 → Bytes 32),
      ¬ Flagged ℝ log10 toBeBytes sha256 alternatingFlow := by
  have full : alternatingFlow.packets.length = 32 := by decide
  have within : ∀ ns ∈ interArrivalNs alternatingFlow, 800 * 1000000 ≤ ns ∧ ns ≤ 1200 * 1000000 := by
    decide +kernel
  have compact : ∀ p ∈ alternatingFlow.packets, p.payloadBytes ≤ 512 := by decide +kernel
  have total : (interArrivalNs alternatingFlow).sum = 30800000000 := by decide +kernel
  have squares : ((interArrivalNs alternatingFlow).map fun ns => ns * ns).sum =
      31840000000000000000 := by
    decide +kernel
  have length := length_interArrivalMs full
  refine ⟨full, ?_, compact, ?_⟩
  · intro d member
    have bounds := interArrivalMs_within within d member
    norm_num at bounds ⊢
    exact bounds
  · intro log10 toBeBytes sha256
    have interval : 500 ≤ (interArrivalMs alternatingFlow).sum / (interArrivalMs alternatingFlow).length := by
      rw [length, sum_interArrivalMs, total]
      norm_num
    rw [flagged_iff log10 toBeBytes sha256 full compact interval, length, sum_interArrivalMs,
      sum_sq_interArrivalMs, total, squares]
    norm_num

end BeaconJitter

end KavachNpu

/-
Module: KavachNpu.Proofs.ClockHistory
Layer: Proofs
Purpose: The clock synchronizer refines the history of its exchanges. Its samples are the last five
  accepted exchanges, its failure counter counts the rejections after the last acceptance, and its
  cached estimate is the one those samples determine at that acceptance. Below 2^62 ns no operation of
  the source leaves its range, so the estimate is read off the history in exact arithmetic; for causal
  exchanges its uncertainty then bounds the error of its offset.
Trusted boundary: none
Main exports: ClockExchange.Accepted, ClockHistory.Refines, ClockHistory.processResponse_refines_history,
  ClockHistory.estimate_error_bound
-/
import KavachNpu.Wsl.ClockSync
import KavachNpu.Wsl.Correlator
import KavachNpu.Foundation.Extrema
import KavachNpu.Foundation.Trace
import KavachNpu.Foundation.Window
import Mathlib.Data.List.Induction
import Mathlib.Algebra.Group.Nat.Defs
import Mathlib.Algebra.Group.Int.Defs

namespace KavachNpu

namespace ClockExchange

/-- The round-trip time of the exchange. -/
def rtt (e : ClockExchange) : Nat :=
  e.t3HostMonotonicNs.toNat - e.challenge.t0HostMonotonicNs.toNat

/-- The host midpoint minus the guest midpoint, each rounded down. -/
def offset (e : ClockExchange) : Int :=
  (e.challenge.t0HostMonotonicNs.toNat + e.t3HostMonotonicNs.toNat) / 2 -
    (e.response.g1GuestMonotonicNs.toNat + e.response.g2GuestMonotonicNs.toNat) / 2

/-- The exchange passes the checks: matching nonces, both clocks monotonic, at most 100 ms round trip. -/
def Accepted (e : ClockExchange) : Prop :=
  e.challenge.nonce = e.response.nonce ∧ e.challenge.t0HostMonotonicNs < e.t3HostMonotonicNs ∧
    e.response.g1GuestMonotonicNs ≤ e.response.g2GuestMonotonicNs ∧ e.rtt ≤ 100000000

instance decidableAccepted (e : ClockExchange) : Decidable e.Accepted :=
  inferInstanceAs (Decidable (_ ∧ _ ∧ _ ∧ _))

/-- All timestamps of the exchange are below 2^62 ns. -/
def Bounded (e : ClockExchange) : Prop :=
  e.challenge.t0HostMonotonicNs.toNat < 2 ^ 62 ∧ e.t3HostMonotonicNs.toNat < 2 ^ 62 ∧
    e.response.g1GuestMonotonicNs.toNat < 2 ^ 62 ∧ e.response.g2GuestMonotonicNs.toNat < 2 ^ 62

instance decidableBounded (e : ClockExchange) : Decidable e.Bounded :=
  inferInstanceAs (Decidable (_ ∧ _ ∧ _ ∧ _))

/-- The sample the source records for the exchange. -/
def sample (e : ClockExchange) : ClockSample :=
  { offsetNs := ClockSynchronizer.midpointOffset e.challenge e.response e.t3HostMonotonicNs
    rttNs := e.t3HostMonotonicNs - e.challenge.t0HostMonotonicNs
    hostTimestampNs := e.t3HostMonotonicNs }

end ClockExchange

namespace ClockHistory

open ClockExchange ClockSynchronizer

/-! ### What a history determines -/

/-- The accepted exchanges of a run, in order. -/
def accepted (calls : List ClockExchange) : List ClockExchange :=
  calls.filter fun e => decide e.Accepted

/-- The last five accepted exchanges, in order. -/
def retained (calls : List ClockExchange) : List ClockExchange :=
  (accepted calls).drop ((accepted calls).length - 5)

/-- The number of rejections since the last acceptance. -/
def failures (calls : List ClockExchange) : Nat :=
  (calls.reverse.takeWhile fun e => ! decide e.Accepted).length

/-- The estimate the source computes from its samples on an arrival at `t3`. -/
def estimateOf (d : Bytes 16) (samples : List ClockSample) (t3 : UInt64) :
    Option ClockOffsetEstimate :=
  let offsets := samples.map ClockSample.offsetNs
  match samples.minOn? ClockSample.rttNs, offsets.min?, offsets.max? with
  | some best, some minOffset, some maxOffset =>
      some
        { distributionId := d
          offsetNs := best.offsetNs
          uncertaintyNs := best.rttNs / 2 + unsignedAbs (maxOffset - minOffset) / 2
          acceptedAtHostMonotonicNs := t3
          validUntilHostMonotonicNs := t3 + clockSyncValidityNs }
  | _, _, _ => none

/-- The synchronizer state that a history determines. -/
structure Refines (d : Bytes 16) (calls : List ClockExchange) (sync : ClockSynchronizer) : Prop where
  distribution : sync.distributionId = d
  samples : sync.acceptedSamples = (retained calls).map sample
  failures : sync.consecutiveFailures = failures calls
  estimate : sync.currentEstimate = (accepted calls).getLast?.bind fun last =>
    estimateOf d ((retained calls).map sample) last.t3HostMonotonicNs

/-! ### One exchange -/

section Append

variable {calls : List ClockExchange} {e : ClockExchange}

theorem accepted_append_of_accepted (passes : e.Accepted) :
    accepted (calls ++ [e]) = accepted calls ++ [e] := by
  simp [accepted, passes]

theorem accepted_append_of_rejected (fails : ¬ e.Accepted) :
    accepted (calls ++ [e]) = accepted calls := by
  simp [accepted, fails]

theorem failures_append_of_accepted (passes : e.Accepted) : failures (calls ++ [e]) = 0 := by
  simp [failures, passes]

theorem failures_append_of_rejected (fails : ¬ e.Accepted) :
    failures (calls ++ [e]) = failures calls + 1 := by
  simp [failures, fails]

/-- A refused exchange only counts a failure. -/
theorem exchange_of_rejected (sync : ClockSynchronizer) (fails : ¬ e.Accepted) :
    ∃ error, sync.exchange e = (.err error, sync.failed) := by
  unfold ClockSynchronizer.exchange processResponse
  by_cases nonce : e.challenge.nonce ≠ e.response.nonce
  · exact ⟨_, by rw [if_pos nonce]⟩
  · rw [if_neg nonce]
    by_cases monotonic : e.t3HostMonotonicNs ≤ e.challenge.t0HostMonotonicNs ∨
        e.response.g2GuestMonotonicNs < e.response.g1GuestMonotonicNs
    · exact ⟨_, by rw [if_pos monotonic]⟩
    · rw [if_neg monotonic]
      simp only [not_or, UInt64.not_le, UInt64.not_lt] at monotonic
      have slow : e.t3HostMonotonicNs - e.challenge.t0HostMonotonicNs > maxRttNs := by
        apply UInt64.not_le.mp
        intro fast
        apply fails
        refine ⟨not_ne_iff.mp nonce, monotonic.1, monotonic.2, ?_⟩
        have exact := UInt64.le_iff_toNat_le.mp fast
        rw [UInt64.toNat_sub_of_le _ _ (UInt64.le_of_lt monotonic.1)] at exact
        exact exact
      exact ⟨_, by rw [if_pos slow]⟩

/-- A nonempty buffer determines an estimate. -/
theorem exists_estimateOf (d : Bytes 16) {samples : List ClockSample} (nonempty : samples ≠ [])
    (t3 : UInt64) : ∃ estimate, estimateOf d samples t3 = some estimate := by
  obtain ⟨best, selected⟩ := Option.isSome_iff_exists.mp
    (List.isSome_minOn?_iff (f := ClockSample.rttNs).mpr nonempty)
  have offsets : samples.map ClockSample.offsetNs ≠ [] := by simpa using nonempty
  obtain ⟨low, minimum⟩ := Option.isSome_iff_exists.mp (List.isSome_min?_of_ne_nil offsets)
  obtain ⟨high, maximum⟩ := Option.isSome_iff_exists.mp (List.isSome_max?_of_ne_nil offsets)
  simp only [estimateOf, selected, minimum, maximum]
  exact ⟨_, rfl⟩

/-- An accepted exchange pushes its sample, clears the failures and caches the new estimate. -/
theorem exchange_of_accepted (sync : ClockSynchronizer) (passes : e.Accepted) :
    ∃ estimate,
      estimateOf sync.distributionId (pushSample sync.acceptedSamples e.sample) e.t3HostMonotonicNs =
        some estimate ∧
      sync.exchange e = (.ok estimate,
        { distributionId := sync.distributionId
          acceptedSamples := pushSample sync.acceptedSamples e.sample
          currentEstimate := some estimate
          consecutiveFailures := 0 }) := by
  obtain ⟨nonce, host, guest, fast⟩ := passes
  have inRange : ¬ e.t3HostMonotonicNs - e.challenge.t0HostMonotonicNs > maxRttNs := by
    apply UInt64.not_lt.mpr
    rw [UInt64.le_iff_toNat_le, UInt64.toNat_sub_of_le _ _ (UInt64.le_of_lt host)]
    exact fast
  have monotonic : ¬ (e.t3HostMonotonicNs ≤ e.challenge.t0HostMonotonicNs ∨
      e.response.g2GuestMonotonicNs < e.response.g1GuestMonotonicNs) := by
    simp only [not_or, UInt64.not_le, UInt64.not_lt]
    exact ⟨host, guest⟩
  have nonempty : pushSample sync.acceptedSamples e.sample ≠ [] := by simp [pushSample]
  obtain ⟨estimate, determined⟩ :=
    exists_estimateOf sync.distributionId nonempty e.t3HostMonotonicNs
  refine ⟨estimate, determined, ?_⟩
  unfold ClockSynchronizer.exchange processResponse
  rw [if_neg (not_not.mpr nonce), if_neg monotonic]
  simp only [if_neg inRange]
  unfold estimateOf at determined
  simp only at determined
  split at determined
  · rename_i best low high selected minimum maximum
    cases determined
    simp only [sample] at selected minimum maximum
    simp only [selected, minimum, maximum]
    rfl
  · cases determined

/-- An exchange passes the checks exactly if its call succeeds, and otherwise only counts a failure. -/
theorem exchange_accepted_iff (sync : ClockSynchronizer) (e : ClockExchange) :
    (e.Accepted ↔ (sync.exchange e).1.isOk = true) ∧
      (¬ e.Accepted → (sync.exchange e).1.isErr = true ∧ (sync.exchange e).2 = sync.failed) := by
  by_cases passes : e.Accepted
  · obtain ⟨estimate, _, result⟩ := exchange_of_accepted sync passes
    simp [result, passes]
  · obtain ⟨error, result⟩ := exchange_of_rejected sync passes
    simp [result, passes]

end Append

/-! ### Whole runs -/

/-- The rolling buffer keeps the last five accepted exchanges. -/
theorem pushSample_retained {calls : List ClockExchange} {e : ClockExchange} (passes : e.Accepted) :
    pushSample ((retained calls).map sample) e.sample = (retained (calls ++ [e])).map sample := by
  have window : IsWindow 5 (retained calls) (accepted calls) := rfl
  have pushed := window.evict_push (by decide) e
  rw [← accepted_append_of_accepted passes] at pushed
  have next : retained (calls ++ [e]) =
      (if (retained calls).length = 5 then (retained calls).drop 1 else retained calls) ++ [e] :=
    pushed.symm
  unfold pushSample
  rw [next, List.map_append, apply_ite (List.map sample), List.map_drop, List.length_map]
  rfl

/-- One exchange carries the refinement along. -/
theorem refines_append {d : Bytes 16} {calls : List ClockExchange} {sync : ClockSynchronizer}
    (refines : Refines d calls sync) (e : ClockExchange) :
    Refines d (calls ++ [e]) (sync.exchange e).2 := by
  by_cases passes : e.Accepted
  · obtain ⟨estimate, determined, result⟩ := exchange_of_accepted sync passes
    rw [refines.samples, pushSample_retained passes] at determined result
    rw [result]
    refine ⟨refines.distribution, rfl, (failures_append_of_accepted passes).symm, ?_⟩
    rw [refines.distribution] at determined
    rw [accepted_append_of_accepted passes, List.getLast?_concat, Option.bind_some]
    exact determined.symm
  · obtain ⟨error, result⟩ := exchange_of_rejected sync passes
    have same : retained (calls ++ [e]) = retained calls := by
      rw [retained, accepted_append_of_rejected passes]
      rfl
    rw [result]
    refine ⟨refines.distribution, ?_, ?_, ?_⟩
    · rw [same]
      exact refines.samples
    · rw [failures_append_of_rejected passes, ← refines.failures]
      rfl
    · rw [same, accepted_append_of_rejected passes]
      exact refines.estimate

/-- Every run ends in the state its history determines. -/
theorem final_refines (d : Bytes 16) (calls : List ClockExchange) :
    Refines d calls (final ClockSynchronizer.exchange (ClockSynchronizer.new d) calls) := by
  induction calls using List.reverseRecOn with
  | nil => exact ⟨rfl, rfl, rfl, rfl⟩
  | append_singleton calls e ih =>
      rw [final_append]
      exact refines_append ih e

theorem accepted_of_mem_retained {calls : List ClockExchange} {e : ClockExchange}
    (member : e ∈ retained calls) : e ∈ calls ∧ e.Accepted := by
  have among := List.mem_of_mem_drop member
  simpa [accepted] using among

/-! ### Exact arithmetic below 2^62 ns -/

theorem sample_rtt {e : ClockExchange} (passes : e.Accepted) : e.sample.rttNs.toNat = e.rtt :=
  UInt64.toNat_sub_of_le _ _ (UInt64.le_of_lt passes.2.1)

theorem offset_range {e : ClockExchange} (bounded : e.Bounded) :
    -(2 ^ 62) < e.offset ∧ e.offset < 2 ^ 62 := by
  obtain ⟨h0, h3, h1, h2⟩ := bounded
  unfold offset
  omega

/-- The truncation to `i64` keeps an offset exactly if it is in range. -/
theorem sample_offset_iff (e : ClockExchange) :
    e.sample.offsetNs.toInt = e.offset ↔ -(2 ^ 63) ≤ e.offset ∧ e.offset < 2 ^ 63 := by
  constructor
  · intro same
    rw [← same]
    exact ⟨Int64.le_toInt _, Int64.toInt_lt _⟩
  · rintro ⟨below, above⟩
    exact Int64.toInt_ofInt_of_le below above

theorem sample_offset {e : ClockExchange} (bounded : e.Bounded) :
    e.sample.offsetNs.toInt = e.offset := by
  obtain ⟨below, above⟩ := offset_range bounded
  exact (sample_offset_iff e).mpr ⟨by omega, by omega⟩

theorem toNat_unsignedAbs_of_nonneg {value : Int64} (nonneg : 0 ≤ value.toInt) :
    ((unsignedAbs value).toNat : Int) = value.toInt := by
  have positive : value.toBitVec.msb = false := by
    rw [BitVec.msb_eq_toInt]
    exact decide_eq_false (Int.not_lt.mpr nonneg)
  have same : (unsignedAbs value).toNat = value.toBitVec.toNat := by
    change value.toBitVec.abs.toNat = value.toBitVec.toNat
    rw [BitVec.toNat_abs, positive]
    rfl
  rw [same]
  exact (BitVec.toInt_eq_toNat_of_msb positive).symm

/-- A difference is computed without overflow exactly if it is in range. -/
theorem toInt_sub_eq_iff {high low : Int64} (order : low.toInt ≤ high.toInt) :
    (high - low).toInt = high.toInt - low.toInt ↔ high.toInt - low.toInt < 2 ^ 63 := by
  constructor
  · intro same
    rw [← same]
    exact Int64.toInt_lt _
  · intro inRange
    rw [Int64.toInt_sub]
    apply Int.bmod_eq_of_le
    · omega
    · omega

/-- The absolute difference of two offsets is then exact. -/
theorem toNat_unsignedAbs_sub {high low : Int64} (order : low.toInt ≤ high.toInt)
    (inRange : high.toInt - low.toInt < 2 ^ 63) :
    ((unsignedAbs (high - low)).toNat : Int) = high.toInt - low.toInt := by
  have exact := (toInt_sub_eq_iff order).mpr inRange
  rw [toNat_unsignedAbs_of_nonneg, exact]
  rw [exact]
  omega

/-- Half a round trip and half a spread add up without overflow. -/
theorem toNat_halves {a b : UInt64} (small : a.toNat ≤ 100000000) :
    (a / 2 + b / 2).toNat = a.toNat / 2 + b.toNat / 2 := by
  have inRange := b.toNat_lt
  rw [UInt64.toNat_add, UInt64.toNat_div, UInt64.toNat_div]
  apply Nat.mod_eq_of_lt
  change a.toNat / 2 + b.toNat / 2 < 2 ^ 64
  omega

/-- The smallest round-trip time of the exchanges. -/
def minRtt (exchanges : List ClockExchange) : Nat :=
  (exchanges.map rtt).min?.getD 0

/-- The largest offset of the exchanges minus the smallest. -/
def spread (exchanges : List ClockExchange) : Int :=
  (exchanges.map offset).max?.getD 0 - (exchanges.map offset).min?.getD 0

/-- Half the smallest round trip plus half the spread of the offsets, each rounded down. -/
def uncertainty (exchanges : List ClockExchange) : Int :=
  minRtt exchanges / 2 + spread exchanges / 2

/-- The exchange is the earliest one with the smallest round trip. -/
def IsBest (exchanges : List ClockExchange) (best : ClockExchange) : Prop :=
  ∃ front back, exchanges = front ++ best :: back ∧ (∀ e ∈ front, best.rtt < e.rtt) ∧
    ∀ e ∈ back, best.rtt ≤ e.rtt

theorem IsBest.mem {exchanges : List ClockExchange} {best : ClockExchange}
    (selected : IsBest exchanges best) : best ∈ exchanges := by
  obtain ⟨front, back, rfl, _, _⟩ := selected
  simp

theorem IsBest.minRtt_eq {exchanges : List ClockExchange} {best : ClockExchange}
    (selected : IsBest exchanges best) : minRtt exchanges = best.rtt := by
  obtain ⟨front, back, rfl, before, after⟩ := selected
  have least : ((front ++ best :: back).map rtt).min? = some best.rtt := by
    apply List.min?_eq_some_iff.mpr
    refine ⟨List.mem_map_of_mem (by simp), ?_⟩
    intro other member
    obtain ⟨e, inside, rfl⟩ := List.mem_map.mp member
    rcases List.mem_append.mp inside with early | late
    · exact Nat.le_of_lt (before e early)
    · rcases List.mem_cons.mp late with rfl | late
      · exact Nat.le_refl _
      · exact after e late
  rw [minRtt, least]
  rfl

section Exact

variable {exchanges : List ClockExchange} (passed : ∀ e ∈ exchanges, e.Accepted)
  (bounded : ∀ e ∈ exchanges, e.Bounded)

include passed in
/-- The sample `min_by_key` selects belongs to the earliest exchange of smallest round trip. -/
theorem isBest_of_minOn? {selected : ClockSample}
    (found : (exchanges.map sample).minOn? ClockSample.rttNs = some selected) :
    ∃ best, IsBest exchanges best ∧ best.sample = selected := by
  obtain ⟨front, back, split, before, after⟩ := minOn?_eq_some_split found
  obtain ⟨front', rest, rfl, rfl, mapped⟩ := List.map_eq_append_iff.mp split
  obtain ⟨best, back', rfl, rfl, rfl⟩ := List.map_eq_cons_iff.mp mapped
  have bestPassed : best.Accepted := passed best (by simp)
  refine ⟨best, ⟨front', back', rfl, ?_, ?_⟩, rfl⟩
  · intro e member
    have order := UInt64.lt_iff_toNat_lt.mp (before e.sample (List.mem_map_of_mem member))
    rw [sample_rtt bestPassed, sample_rtt (passed e (by simp [member]))] at order
    exact order
  · intro e member
    have order := UInt64.le_iff_toNat_le.mp (after e.sample (List.mem_map_of_mem member))
    rw [sample_rtt bestPassed, sample_rtt (passed e (by simp [member]))] at order
    exact order

theorem spread_eq {low high : Int} (minimum : (exchanges.map offset).min? = some low)
    (maximum : (exchanges.map offset).max? = some high) :
    low ≤ high ∧ spread exchanges = high - low := by
  refine ⟨(List.min?_eq_some_iff.mp minimum).2 _ (List.max?_eq_some_iff.mp maximum).1, ?_⟩
  rw [spread, minimum, maximum]
  rfl

/-- Where the recorded offsets are exact, so are their extremes. -/
theorem extremes_of_samples (recorded : ∀ e ∈ exchanges, e.sample.offsetNs.toInt = e.offset)
    {low high : Int64}
    (minimum : ((exchanges.map sample).map ClockSample.offsetNs).min? = some low)
    (maximum : ((exchanges.map sample).map ClockSample.offsetNs).max? = some high) :
    (exchanges.map offset).min? = some low.toInt ∧ (exchanges.map offset).max? = some high.toInt := by
  have offsets : ((exchanges.map sample).map ClockSample.offsetNs).map Int64.toInt =
      exchanges.map offset := by
    rw [List.map_map, List.map_map]
    exact List.map_congr_left recorded
  rw [← offsets]
  constructor
  · exact min?_map_of_monotone (fun a b order => Int64.le_iff_toInt_le.mp order) minimum
  · exact max?_map_of_monotone (fun a b order => Int64.le_iff_toInt_le.mp order) maximum

include bounded in
/-- The spread the source computes is the spread of the exact offsets. -/
theorem toNat_spread {low high : Int64}
    (minimum : ((exchanges.map sample).map ClockSample.offsetNs).min? = some low)
    (maximum : ((exchanges.map sample).map ClockSample.offsetNs).max? = some high) :
    ((unsignedAbs (high - low)).toNat : Int) = spread exchanges ∧ spread exchanges < 2 ^ 63 := by
  obtain ⟨least, greatest⟩ := extremes_of_samples
    (fun e member => sample_offset (bounded e member)) minimum maximum
  obtain ⟨order, value⟩ := spread_eq least greatest
  obtain ⟨e, inside, lowOffset⟩ := List.mem_map.mp (List.min?_eq_some_iff.mp least).1
  obtain ⟨e', inside', highOffset⟩ := List.mem_map.mp (List.max?_eq_some_iff.mp greatest).1
  have lowRange := (offset_range (bounded e inside)).1
  have highRange := (offset_range (bounded e' inside')).2
  rw [value]
  exact ⟨toNat_unsignedAbs_sub order (by omega), by omega⟩

include passed bounded in
/-- The estimate of a history, in exact arithmetic. -/
theorem estimateOf_exact {d : Bytes 16} {t3 : UInt64} {estimate : ClockOffsetEstimate}
    (determined : estimateOf d (exchanges.map sample) t3 = some estimate) :
    ∃ best, IsBest exchanges best ∧ estimate.offsetNs.toInt = best.offset ∧
      (estimate.uncertaintyNs.toNat : Int) = uncertainty exchanges := by
  unfold estimateOf at determined
  simp only at determined
  split at determined
  · rename_i selected low high found minimum maximum
    cases determined
    obtain ⟨best, isBest, rfl⟩ := isBest_of_minOn? passed found
    obtain ⟨exactSpread, spreadBound⟩ := toNat_spread bounded minimum maximum
    have bestPassed := passed best isBest.mem
    have fast : best.rtt ≤ 100000000 := bestPassed.2.2.2
    have exactRtt := sample_rtt bestPassed
    refine ⟨best, isBest, sample_offset (bounded best isBest.mem), ?_⟩
    have sum := toNat_halves (a := best.sample.rttNs) (b := unsignedAbs (high - low)) (by omega)
    rw [uncertainty, isBest.minRtt_eq, ← exactSpread, ← exactRtt]
    simp only [sum]
    omega
  · cases determined

end Exact

theorem validUntil_of_estimateOf {d : Bytes 16} {samples : List ClockSample} {t3 : UInt64}
    {estimate : ClockOffsetEstimate} (determined : estimateOf d samples t3 = some estimate) :
    estimate.validUntilHostMonotonicNs = t3 + clockSyncValidityNs := by
  unfold estimateOf at determined
  simp only at determined
  split at determined
  · cases determined
    rfl
  · cases determined

theorem toNat_validity {t3 : UInt64} (bounded : t3.toNat < 2 ^ 62) :
    (t3 + clockSyncValidityNs).toNat = t3.toNat + 90000000000 := by
  rw [UInt64.toNat_add]
  apply Nat.mod_eq_of_lt
  change t3.toNat + 90000000000 < 2 ^ 64
  omega

/-- The cached estimate of a run whose accepted exchanges are bounded, in exact arithmetic. -/
theorem currentEstimate_exact {d : Bytes 16} {calls : List ClockExchange}
    {estimate : ClockOffsetEstimate}
    (bounded : ∀ e ∈ calls, e.Accepted → e.Bounded)
    (cached : (final ClockSynchronizer.exchange (ClockSynchronizer.new d) calls).currentEstimate =
      some estimate) :
    ∃ last best, (accepted calls).getLast? = some last ∧ IsBest (retained calls) best ∧
      estimate.offsetNs.toInt = best.offset ∧
      (estimate.uncertaintyNs.toNat : Int) = uncertainty (retained calls) ∧
      estimate.validUntilHostMonotonicNs.toNat = last.t3HostMonotonicNs.toNat + 90000000000 := by
  rw [(final_refines d calls).estimate] at cached
  obtain ⟨last, isLast, determined⟩ := Option.bind_eq_some_iff.mp cached
  obtain ⟨best, isBest, offsetEq, uncertaintyEq⟩ := estimateOf_exact
    (fun e member => (accepted_of_mem_retained member).2)
    (fun e member =>
      bounded e (accepted_of_mem_retained member).1 (accepted_of_mem_retained member).2)
    determined
  have among : last ∈ accepted calls := List.mem_of_getLast? isLast
  have lastBounded : last.Bounded := by
    obtain ⟨member, passes⟩ := List.mem_filter.mp among
    exact bounded last member (of_decide_eq_true passes)
  refine ⟨last, best, isLast, isBest, offsetEq, uncertaintyEq, ?_⟩
  rw [validUntil_of_estimateOf determined, toNat_validity lastBounded.2.1]

/-- After an acceptance an estimate is cached. -/
theorem exists_currentEstimate {d : Bytes 16} {calls : List ClockExchange} {last : ClockExchange}
    (isLast : (accepted calls).getLast? = some last) :
    ∃ estimate,
      (final ClockSynchronizer.exchange (ClockSynchronizer.new d) calls).currentEstimate =
        some estimate := by
  have nonempty : (retained calls).map sample ≠ [] := by
    intro empty
    have short := congrArg List.length (List.map_eq_nil_iff.mp empty)
    have some : (accepted calls).length ≠ 0 := by
      intro zero
      rw [List.eq_nil_of_length_eq_zero zero] at isLast
      cases isLast
    rw [retained, List.length_drop, List.length_nil] at short
    omega
  obtain ⟨estimate, determined⟩ := exists_estimateOf d nonempty last.t3HostMonotonicNs
  refine ⟨estimate, ?_⟩
  rw [(final_refines d calls).estimate, isLast]
  exact determined

/-- When an estimate is offered, in terms of the history. -/
theorem isSome_getValidEstimate_iff {d : Bytes 16} {calls : List ClockExchange}
    (bounded : ∀ e ∈ calls, e.Accepted → e.Bounded) (now : UInt64) :
    ((final ClockSynchronizer.exchange (ClockSynchronizer.new d) calls).getValidEstimate
        now).isSome = true ↔
      ∃ last, (accepted calls).getLast? = some last ∧ failures calls < 3 ∧
        now.toNat ≤ last.t3HostMonotonicNs.toNat + 90000000000 ∧
        uncertainty (retained calls) ≤ 50000000 := by
  have counted := (final_refines d calls).failures
  constructor
  · intro offered
    obtain ⟨estimate, valid⟩ := Option.isSome_iff_exists.mp offered
    obtain ⟨cached, fresh, certain, few⟩ := getValidEstimate_eq_some.mp valid
    obtain ⟨last, best, isLast, isBest, _, exactUncertainty, exactLimit⟩ :=
      currentEstimate_exact bounded cached
    have limit := UInt64.le_iff_toNat_le.mp fresh
    have bound := UInt64.le_iff_toNat_le.mp certain
    have constant : maxAcceptableUncertaintyNs.toNat = 50000000 := rfl
    exact ⟨last, isLast, by omega, by omega, by omega⟩
  · rintro ⟨last, isLast, few, fresh, certain⟩
    obtain ⟨estimate, cached⟩ := exists_currentEstimate (d := d) isLast
    obtain ⟨last', best, isLast', isBest, _, exactUncertainty, exactLimit⟩ :=
      currentEstimate_exact bounded cached
    obtain rfl : last = last' := Option.some.inj (isLast.symm.trans isLast')
    have constant : maxAcceptableUncertaintyNs.toNat = 50000000 := rfl
    apply Option.isSome_iff_exists.mpr
    refine ⟨estimate, getValidEstimate_eq_some.mpr ⟨cached, ?_, ?_, by omega⟩⟩
    · rw [UInt64.le_iff_toNat_le]
      omega
    · rw [UInt64.le_iff_toNat_le]
      omega

/-- The clock synchronizer refines the history of its exchanges. In every run below 2^62 ns a call is
    accepted exactly if its exchange passes the checks; a rejected call only counts one more failure; the
    samples are the last five accepted exchanges; the failures are the rejections since the last
    acceptance; and the estimate offered at any time is the one those exchanges determine. -/
theorem processResponse_refines_history (d : Bytes 16) (calls : List ClockExchange)
    (bounded : ∀ e ∈ calls, e.Bounded) :
    let run := final ClockSynchronizer.exchange (ClockSynchronizer.new d)
    (∀ before e after, calls = before ++ e :: after →
      (e.Accepted ↔ ((run before).exchange e).1.isOk = true) ∧
      (¬ e.Accepted → ((run before).exchange e).1.isErr = true ∧ ((run before).exchange e).2 =
        { run before with consecutiveFailures := (run before).consecutiveFailures + 1 })) ∧
    (run calls).acceptedSamples.map
        (fun s => (s.offsetNs.toInt, s.rttNs.toNat, s.hostTimestampNs)) =
      (retained calls).map (fun e => (e.offset, e.rtt, e.t3HostMonotonicNs)) ∧
    (run calls).consecutiveFailures = failures calls ∧
    ∀ now,
      (((run calls).getValidEstimate now).isSome = true ↔
        ∃ last, (accepted calls).getLast? = some last ∧ failures calls < 3 ∧
          now.toNat ≤ last.t3HostMonotonicNs.toNat + 90000000000 ∧
          uncertainty (retained calls) ≤ 50000000) ∧
      ∀ estimate, (run calls).getValidEstimate now = some estimate →
        ∃ best, IsBest (retained calls) best ∧ estimate.offsetNs.toInt = best.offset ∧
          estimate.uncertaintyNs.toNat = uncertainty (retained calls) := by
  intro run
  have refines : Refines d calls (run calls) := final_refines d calls
  have inRange : ∀ e ∈ calls, e.Accepted → e.Bounded := fun e member _ => bounded e member
  refine ⟨?_, ?_, refines.failures, ?_⟩
  · intro before e after _
    exact exchange_accepted_iff (run before) e
  · rw [refines.samples, List.map_map]
    apply List.map_congr_left
    intro e member
    obtain ⟨inside, passes⟩ := accepted_of_mem_retained member
    simp only [Function.comp_apply, sample_rtt passes, sample_offset (bounded e inside)]
    rfl
  · intro now
    refine ⟨isSome_getValidEstimate_iff inRange now, ?_⟩
    intro estimate valid
    obtain ⟨cached, _⟩ := getValidEstimate_eq_some.mp valid
    obtain ⟨_, best, _, isBest, exactOffset, exactUncertainty, _⟩ :=
      currentEstimate_exact inRange cached
    exact ⟨best, isBest, exactOffset, exactUncertainty⟩

/-- Two accepted exchanges and one with a foreign nonce. -/
def sampleExchanges : List ClockExchange :=
  [⟨⟨Bytes.replicate 16 1, 1000000000⟩, ⟨Bytes.replicate 16 1, 400000000, 400000000⟩, 1005000000⟩,
    ⟨⟨Bytes.replicate 16 2, 2000000000⟩, ⟨Bytes.replicate 16 2, 1399000000, 1399500000⟩, 2004000001⟩,
    ⟨⟨Bytes.replicate 16 3, 3000000000⟩, ⟨Bytes.replicate 16 4, 2398000000, 2398000000⟩, 3004000000⟩]

/-- The run of the sample exchanges offers an estimate until 92004 ms, and not later. -/
theorem sampleExchanges_estimate :
    (∀ e ∈ sampleExchanges, e.Bounded) ∧
      ((final ClockSynchronizer.exchange (ClockSynchronizer.new (Bytes.replicate 16 0x77))
        sampleExchanges).getValidEstimate 92004000001).isSome = true ∧
      ¬ ((final ClockSynchronizer.exchange (ClockSynchronizer.new (Bytes.replicate 16 0x77))
        sampleExchanges).getValidEstimate 92004000002).isSome = true := by
  have bounded : ∀ e ∈ sampleExchanges, e.Bounded := by decide
  obtain ⟨_, _, _, offered⟩ :=
    processResponse_refines_history (Bytes.replicate 16 0x77) sampleExchanges bounded
  refine ⟨bounded, (offered _).1.mpr ?_, mt (offered _).1.mp ?_⟩
  · exact ⟨_, rfl, by decide, by decide, by decide⟩
  · rintro ⟨last, isLast, _, fresh, _⟩
    cases isLast
    exact absurd fresh (by decide)

/-! ### The error of the offset -/

/-- The exchange is possible when the host clock is the guest clock plus `D`: the request leaves before the
    guest reads it, and the answer arrives after the guest sent it. -/
def Causal (D : Int) (e : ClockExchange) : Prop :=
  e.challenge.t0HostMonotonicNs.toNat ≤ e.response.g1GuestMonotonicNs.toNat + D ∧
    e.response.g1GuestMonotonicNs ≤ e.response.g2GuestMonotonicNs ∧
    e.response.g2GuestMonotonicNs.toNat + D ≤ e.t3HostMonotonicNs.toNat

instance decidableCausal (D : Int) (e : ClockExchange) : Decidable (Causal D e) :=
  inferInstanceAs (Decidable (_ ∧ _ ∧ _))

/-- The estimate's offset is within its uncertainty and 1 ns of `D`, and so is every guest time the
    correlator moves by it. -/
def ErrorBounded (D : Int) (estimate : ClockOffsetEstimate) : Prop :=
  (estimate.offsetNs.toInt - D).natAbs ≤ estimate.uncertaintyNs.toNat + 1 ∧
    ∀ record : GuestWriteRecord, ∃ adjusted : Int,
      adjustedHostTs record estimate = UInt64.ofInt adjusted ∧
      (adjusted - (record.guestMonotonicNs.toNat + D)).natAbs ≤ estimate.uncertaintyNs.toNat + 1

/-- The offset of a causal exchange is off by at most half its round trip, up to rounding. -/
theorem offset_error {D : Int} {e : ClockExchange} (causal : Causal D e) :
    (e.offset - D).natAbs ≤ e.rtt / 2 + 1 := by
  obtain ⟨sent, guest, received⟩ := causal
  have ordered := UInt64.le_iff_toNat_le.mp guest
  unfold offset rtt
  omega

theorem spread_nonneg (exchanges : List ClockExchange) : 0 ≤ spread exchanges := by
  unfold spread
  cases least : (exchanges.map offset).min? with
  | none =>
      rw [List.min?_eq_none_iff.mp least]
      decide
  | some low =>
      obtain ⟨member, _⟩ := List.min?_eq_some_iff.mp least
      obtain ⟨high, greatest⟩ :=
        Option.isSome_iff_exists.mp (List.isSome_max?_of_ne_nil (List.ne_nil_of_mem member))
      have order := (List.max?_eq_some_iff.mp greatest).2 low member
      rw [greatest]
      exact Int.sub_nonneg_of_le order

/-- The cached estimate of a run whose accepted exchanges are causal. -/
theorem currentEstimate_errorBounded {d : Bytes 16} {D : Int} {calls : List ClockExchange}
    {estimate : ClockOffsetEstimate}
    (causal : ∀ e ∈ calls, e.Accepted → e.Bounded ∧ Causal D e)
    (cached : (final ClockSynchronizer.exchange (ClockSynchronizer.new d) calls).currentEstimate =
      some estimate) : ErrorBounded D estimate := by
  obtain ⟨_, best, _, isBest, exactOffset, exactUncertainty, _⟩ :=
    currentEstimate_exact (fun e member passes => (causal e member passes).1) cached
  obtain ⟨member, passes⟩ := accepted_of_mem_retained isBest.mem
  have error := offset_error (causal best member passes).2
  have wide := spread_nonneg (retained calls)
  rw [uncertainty, isBest.minRtt_eq] at exactUncertainty
  refine ⟨by omega, ?_⟩
  intro record
  exact ⟨record.guestMonotonicNs.toNat + estimate.offsetNs.toInt, rfl, by omega⟩

/-- The uncertainty bounds the error. If the host clock is the guest clock plus `D` and every accepted
    exchange is causal, then every estimate that a call returns, and every estimate offered afterwards, is
    within its uncertainty and 1 ns of `D`. -/
theorem estimate_error_bound (d : Bytes 16) (D : Int) (calls : List ClockExchange)
    (causal : ∀ e ∈ calls, e.Accepted → e.Bounded ∧ Causal D e) :
    (∀ entry ∈ trace ClockSynchronizer.exchange (ClockSynchronizer.new d) calls,
      ∀ estimate, entry.2 = .ok estimate → ErrorBounded D estimate) ∧
    ∀ now estimate,
      (final ClockSynchronizer.exchange (ClockSynchronizer.new d) calls).getValidEstimate now =
        some estimate → ErrorBounded D estimate := by
  refine ⟨?_, ?_⟩
  · intro entry member estimate returned
    obtain ⟨before, after, split, output⟩ := exists_split_of_mem_trace member
    have prior : ∀ e ∈ before ++ [entry.1], e.Accepted → e.Bounded ∧ Causal D e := by
      intro e inside
      apply causal e
      rw [split]
      rcases List.mem_append.mp inside with early | last
      · exact List.mem_append_left _ early
      · exact List.mem_append_right _ (List.mem_singleton.mp last ▸ List.mem_cons_self)
    rw [returned] at output
    have passes : entry.1.Accepted := by
      apply (exchange_accepted_iff (final _ _ before) entry.1).1.mpr
      rw [← output]
      rfl
    obtain ⟨_, _, result⟩ := exchange_of_accepted (final _ (ClockSynchronizer.new d) before) passes
    rw [result] at output
    cases output
    apply currentEstimate_errorBounded (d := d) prior
    rw [final_append]
    exact congrArg (fun reply => reply.2.currentEstimate) result
  · intro now estimate valid
    exact currentEstimate_errorBounded causal (getValidEstimate_eq_some.mp valid).1

/-- The offset of the sample run is within the bound of a difference of 602 ms. -/
theorem sampleExchanges_error_bound :
    (∀ e ∈ sampleExchanges, e.Accepted → e.Bounded ∧ Causal 602000000 e) ∧
      ∃ estimate,
        (final ClockSynchronizer.exchange (ClockSynchronizer.new (Bytes.replicate 16 0x77))
          sampleExchanges).getValidEstimate 3004000000 = some estimate ∧
        estimate.offsetNs = 602750000 ∧ estimate.uncertaintyNs = 2125000 ∧
        ErrorBounded 602000000 estimate := by
  have causal : ∀ e ∈ sampleExchanges, e.Accepted → e.Bounded ∧ Causal 602000000 e := by decide
  refine ⟨causal, _, by rfl, by decide +kernel, by decide +kernel, ?_⟩
  exact (estimate_error_bound (Bytes.replicate 16 0x77) 602000000 sampleExchanges causal).2
    3004000000 _ rfl

end ClockHistory

end KavachNpu

/-
Module: KavachNpu.Proofs.ClockRange
Layer: Proofs
Purpose: When the arithmetic of the clock synchronizer is exact. The guest chooses its timestamps freely,
  the offset is truncated from 128 to 64 bits without a check, and two such offsets are subtracted in 64
  bits: a run is exact throughout if and only if every accepted offset, and every spread of the retained
  ones, is in range.
Trusted boundary: none
Main exports: ClockRange.ExactExchange, ClockRange.InRange, ClockRange.run_exact_iff
-/
import KavachNpu.Proofs.ClockHistory

namespace KavachNpu

namespace ClockRange

open ClockExchange ClockSynchronizer ClockHistory

/-- The arithmetic of an exchange after a run is exact: the recorded offset is the difference of the
    midpoints, the extreme offsets are subtracted without overflow and give the spread of the exact offsets
    of the retained exchanges, and the uncertainty and, below 2^62 ns, the validity limit are exact sums. -/
def ExactExchange (d : Bytes 16) (before : List ClockExchange) (e : ClockExchange) : Prop :=
  let reply := (final ClockSynchronizer.exchange (ClockSynchronizer.new d) before).exchange e
  ∃ estimate recorded best low high, reply.1 = .ok estimate ∧
    reply.2.acceptedSamples.getLast? = some recorded ∧
    reply.2.acceptedSamples.minOn? ClockSample.rttNs = some best ∧
    (reply.2.acceptedSamples.map ClockSample.offsetNs).min? = some low ∧
    (reply.2.acceptedSamples.map ClockSample.offsetNs).max? = some high ∧
    recorded.offsetNs.toInt = e.offset ∧
    (high - low).toInt = high.toInt - low.toInt ∧
    (unsignedAbs (high - low)).toNat = spread (retained (before ++ [e])) ∧
    estimate.uncertaintyNs.toNat = best.rttNs.toNat / 2 + (unsignedAbs (high - low)).toNat / 2 ∧
    (e.t3HostMonotonicNs.toNat < 2 ^ 62 →
      estimate.validUntilHostMonotonicNs.toNat = e.t3HostMonotonicNs.toNat + 90000000000)

/-- The offset of the exchange, and the spread it leads to, are in the range of `i64`. -/
def InRange (before : List ClockExchange) (e : ClockExchange) : Prop :=
  -(2 ^ 63) ≤ e.offset ∧ e.offset < 2 ^ 63 ∧ spread (retained (before ++ [e])) < 2 ^ 63

/-- What an accepted exchange records and returns. -/
theorem exists_reply (d : Bytes 16) (before : List ClockExchange) {e : ClockExchange}
    (passes : e.Accepted) :
    let reply := (final ClockSynchronizer.exchange (ClockSynchronizer.new d) before).exchange e
    ∃ estimate best low high, reply.1 = .ok estimate ∧
      reply.2.acceptedSamples = (retained (before ++ [e])).map sample ∧
      reply.2.acceptedSamples.getLast? = some e.sample ∧
      reply.2.acceptedSamples.minOn? ClockSample.rttNs = some best ∧
      (reply.2.acceptedSamples.map ClockSample.offsetNs).min? = some low ∧
      (reply.2.acceptedSamples.map ClockSample.offsetNs).max? = some high ∧
      estimate.uncertaintyNs = best.rttNs / 2 + unsignedAbs (high - low) / 2 ∧
      estimate.validUntilHostMonotonicNs = e.t3HostMonotonicNs + clockSyncValidityNs := by
  have refines := final_refines d before
  obtain ⟨estimate, determined, result⟩ :=
    exchange_of_accepted (final ClockSynchronizer.exchange (ClockSynchronizer.new d) before) passes
  have samples : pushSample (final ClockSynchronizer.exchange (ClockSynchronizer.new d)
      before).acceptedSamples e.sample = (retained (before ++ [e])).map sample := by
    rw [refines.samples, pushSample_retained passes]
  have last : (pushSample (final ClockSynchronizer.exchange (ClockSynchronizer.new d)
      before).acceptedSamples e.sample).getLast? = some e.sample := by
    simp only [pushSample, List.getLast?_concat]
  rw [result]
  simp only
  unfold estimateOf at determined
  simp only at determined
  split at determined
  · rename_i best low high selected minimum maximum
    cases determined
    exact ⟨_, best, low, high, rfl, samples, last, selected, minimum, maximum, rfl, rfl⟩
  · cases determined

/-- An exchange of exact predecessors is exact if it is in range. -/
theorem exactExchange_of_inRange (d : Bytes 16) {before : List ClockExchange} {e : ClockExchange}
    (passes : e.Accepted) (inRange : InRange before e)
    (recorded : ∀ other ∈ retained (before ++ [e]), other.sample.offsetNs.toInt = other.offset) :
    ExactExchange d before e := by
  obtain ⟨estimate, best, low, high, returned, samples, last, selected, minimum, maximum, sum, limit⟩ :=
    exists_reply d before passes
  obtain ⟨below, above, narrow⟩ := inRange
  obtain ⟨least, greatest⟩ := extremes_of_samples recorded (samples ▸ minimum) (samples ▸ maximum)
  obtain ⟨order, value⟩ := spread_eq least greatest
  rw [value] at narrow
  have small : best.rttNs.toNat ≤ 100000000 := by
    have among := List.minOn?_mem selected
    rw [samples] at among
    obtain ⟨other, inside, rfl⟩ := List.mem_map.mp among
    have passed := (accepted_of_mem_retained inside).2
    rw [sample_rtt passed]
    exact passed.2.2.2
  refine ⟨estimate, e.sample, best, low, high, returned, last, selected, minimum, maximum,
    (sample_offset_iff e).mpr ⟨below, above⟩, (toInt_sub_eq_iff order).mpr narrow, ?_, ?_, ?_⟩
  · rw [value]
    exact toNat_unsignedAbs_sub order narrow
  · rw [sum, toNat_halves small]
  · intro bounded
    rw [limit, toNat_validity bounded]

/-- An exact exchange is in range. -/
theorem inRange_of_exactExchange {d : Bytes 16} {before : List ClockExchange} {e : ClockExchange}
    (passes : e.Accepted) (exact : ExactExchange d before e) : InRange before e := by
  obtain ⟨_, recorded, _, low, high, _, last, _, minimum, maximum, offsetEq, difference, spreadEq, _⟩ :=
    exact
  obtain ⟨_, _, _, _, _, _, isLast, _⟩ := exists_reply d before passes
  obtain rfl := Option.some.inj (isLast.symm.trans last)
  obtain ⟨below, above⟩ := (sample_offset_iff e).mp offsetEq
  refine ⟨below, above, ?_⟩
  have order : low.toInt ≤ high.toInt :=
    Int64.le_iff_toInt_le.mp
      ((List.min?_eq_some_iff.mp minimum).2 _ (List.max?_eq_some_iff.mp maximum).1)
  have narrow := (toInt_sub_eq_iff order).mp difference
  rw [← spreadEq, toNat_unsignedAbs_sub order narrow]
  exact narrow

/-- When the arithmetic of a run is exact. For every run, with any timestamps of host and guest, all its
    accepted exchanges are processed exactly if and only if each of their offsets and each spread of the
    retained offsets is in the range of `i64`. -/
theorem run_exact_iff (d : Bytes 16) (calls : List ClockExchange) :
    (∀ before e after, calls = before ++ e :: after → e.Accepted → ExactExchange d before e) ↔
      ∀ before e after, calls = before ++ e :: after → e.Accepted → InRange before e := by
  constructor
  · intro exact before e after split passes
    exact inRange_of_exactExchange passes (exact before e after split passes)
  · intro inRange before e after split passes
    apply exactExchange_of_inRange d passes (inRange before e after split passes)
    intro other inside
    -- every retained exchange was itself accepted at an earlier point of the run
    obtain ⟨member, passed⟩ := accepted_of_mem_retained inside
    obtain ⟨earlier, later, place⟩ := List.append_of_mem member
    have position : calls = earlier ++ other :: (later ++ after) := by
      rw [split, ← List.singleton_append, ← List.append_assoc, place]
      simp
    obtain ⟨below, above, _⟩ := inRange earlier other (later ++ after) position passed
    exact (sample_offset_iff other).mpr ⟨below, above⟩

/-- An exchange of 5 ms in which the guest reports the largest timestamp there is. -/
def farExchange : ClockExchange :=
  ⟨⟨Bytes.replicate 16 1, 1000000000⟩, ⟨Bytes.replicate 16 1, 0xffffffffffffffff, 0xffffffffffffffff⟩,
    1005000000⟩

/-- It is accepted, and its offset of some -584 years is recorded as one second. -/
theorem farExchange_wraps :
    farExchange.Accepted ∧ farExchange.challenge.t0HostMonotonicNs.toNat < 2 ^ 62 ∧
      farExchange.t3HostMonotonicNs.toNat < 2 ^ 62 ∧ farExchange.offset = -18446744072707051615 ∧
      ((final ClockSynchronizer.exchange (ClockSynchronizer.new (Bytes.replicate 16 0x77))
        [farExchange]).acceptedSamples.map fun s => s.offsetNs.toInt) = [1002500001] ∧
      ¬ ExactExchange (Bytes.replicate 16 0x77) [] farExchange := by
  have passes : farExchange.Accepted := by decide
  refine ⟨passes, by decide, by decide, by decide, by decide +kernel, ?_⟩
  intro exact
  have inRange := inRange_of_exactExchange passes exact
  exact absurd inRange.1 (by decide)

end ClockRange

end KavachNpu

/-
Module: KavachNpu.Wsl.ClockSync
Layer: Wsl
Purpose: The challenge-response estimation of the host-minus-guest clock offset. Intermediate values are
  exact (`i128` in the source); the offset is truncated to `i64`, and the spread and the validity limit
  are computed in the wrapping arithmetic of a release build.
Trusted boundary: human-reviewed spec
Main exports: ClockOffsetEstimate, ClockSynchronizer, ClockSynchronizer.processResponse,
  ClockSynchronizer.getValidEstimate, ClockExchange
-/
import KavachNpu.Foundation.Bytes

namespace KavachNpu

/-- `MAX_RTT_NS`. -/
def maxRttNs : UInt64 := 100000000

/-- `MAX_ACCEPTABLE_UNCERTAINTY_NS`. -/
def maxAcceptableUncertaintyNs : UInt64 := 50000000

/-- `CLOCK_SYNC_VALIDITY_NS`. -/
def clockSyncValidityNs : UInt64 := 90000000000

/-- Measured host-minus-guest clock relation. -/
structure ClockOffsetEstimate where
  distributionId : Bytes 16
  offsetNs : Int64
  uncertaintyNs : UInt64
  acceptedAtHostMonotonicNs : UInt64
  validUntilHostMonotonicNs : UInt64
deriving DecidableEq

/-- Exchange message sent from host to guest. -/
structure ClockChallenge where
  nonce : Bytes 16
  t0HostMonotonicNs : UInt64
deriving DecidableEq

/-- Exchange response returned by the guest agent. -/
structure ClockResponse where
  nonce : Bytes 16
  g1GuestMonotonicNs : UInt64
  g2GuestMonotonicNs : UInt64
deriving DecidableEq

/-- One accepted exchange. -/
structure ClockSample where
  offsetNs : Int64
  rttNs : UInt64
  hostTimestampNs : UInt64
deriving DecidableEq

/-- Errors of challenge-response verification. -/
inductive ClockSyncError where
  | nonceMismatch
  | nonMonotonicTimestamps
  | rttTooHigh (rttNs limitNs : UInt64)
deriving DecidableEq

/-- Host-side clock synchronizer with the most recent accepted samples, oldest first. -/
structure ClockSynchronizer where
  distributionId : Bytes 16
  acceptedSamples : List ClockSample
  currentEstimate : Option ClockOffsetEstimate
  consecutiveFailures : Nat
deriving DecidableEq

/-- `i64::unsigned_abs`; the absolute value of `i64::MIN` is its own bit pattern. -/
def unsignedAbs (value : Int64) : UInt64 :=
  value.abs.toUInt64

namespace ClockSynchronizer

/-- Creates a synchronizer for an enrolled guest distribution. -/
def new (distributionId : Bytes 16) : ClockSynchronizer :=
  { distributionId := distributionId
    acceptedSamples := []
    currentEstimate := none
    consecutiveFailures := 0 }

/-- The state after a refused exchange. -/
def failed (sync : ClockSynchronizer) : ClockSynchronizer :=
  { sync with consecutiveFailures := sync.consecutiveFailures + 1 }

/-- The midpoint offset, `host_mid - guest_mid`, truncated to `i64`. -/
def midpointOffset (challenge : ClockChallenge) (response : ClockResponse) (t3 : UInt64) : Int64 :=
  let hostMid : Int := (challenge.t0HostMonotonicNs.toNat + t3.toNat) / 2
  let guestMid : Int := (response.g1GuestMonotonicNs.toNat + response.g2GuestMonotonicNs.toNat) / 2
  Int64.ofInt (hostMid - guestMid)

/-- The rolling five-sample buffer after a new sample. -/
def pushSample (samples : List ClockSample) (sample : ClockSample) : List ClockSample :=
  let samples := if samples.length = 5 then samples.drop 1 else samples
  samples ++ [sample]

/-- Evaluates a completed exchange against the host arrival time `t3`. -/
def processResponse (sync : ClockSynchronizer) (challenge : ClockChallenge) (response : ClockResponse)
    (t3 : UInt64) : Outcome ClockSyncError ClockOffsetEstimate × ClockSynchronizer :=
  if challenge.nonce ≠ response.nonce then
    (.err .nonceMismatch, sync.failed)
  else if t3 ≤ challenge.t0HostMonotonicNs ∨
      response.g2GuestMonotonicNs < response.g1GuestMonotonicNs then
    (.err .nonMonotonicTimestamps, sync.failed)
  else
    let rtt := t3 - challenge.t0HostMonotonicNs
    if rtt > maxRttNs then
      (.err (.rttTooHigh rtt maxRttNs), sync.failed)
    else
      let offsetNs := midpointOffset challenge response t3
      let sample : ClockSample := { offsetNs := offsetNs, rttNs := rtt, hostTimestampNs := t3 }
      let samples := pushSample sync.acceptedSamples sample
      let sync := { sync with acceptedSamples := samples, consecutiveFailures := 0 }
      let offsets := samples.map ClockSample.offsetNs
      -- `min_by_key` keeps the first of several minimal samples
      match samples.minOn? ClockSample.rttNs, offsets.min?, offsets.max? with
      | some bestSample, some minOffset, some maxOffset =>
          let spreadNs := unsignedAbs (maxOffset - minOffset)
          let estimate : ClockOffsetEstimate :=
            { distributionId := sync.distributionId
              offsetNs := bestSample.offsetNs
              uncertaintyNs := bestSample.rttNs / 2 + spreadNs / 2
              acceptedAtHostMonotonicNs := t3
              validUntilHostMonotonicNs := t3 + clockSyncValidityNs }
          (.ok estimate, { sync with currentEstimate := some estimate })
      | _, _, _ => (.panicked .unwrapOnNone, sync)

/-- The active estimate, if it is fresh and meets the uncertainty constraint. -/
def getValidEstimate (sync : ClockSynchronizer) (now : UInt64) : Option ClockOffsetEstimate :=
  match sync.currentEstimate with
  | none => none
  | some estimate =>
      if now > estimate.validUntilHostMonotonicNs then
        none
      else if estimate.uncertaintyNs > maxAcceptableUncertaintyNs then
        none
      else if sync.consecutiveFailures ≥ 3 then
        none
      else
        some estimate

/-- An estimate is returned exactly if it is cached, fresh, certain enough, and not followed by three
    failures. -/
theorem getValidEstimate_eq_some {sync : ClockSynchronizer} {now : UInt64}
    {estimate : ClockOffsetEstimate} :
    sync.getValidEstimate now = some estimate ↔ sync.currentEstimate = some estimate ∧
      now ≤ estimate.validUntilHostMonotonicNs ∧
      estimate.uncertaintyNs ≤ maxAcceptableUncertaintyNs ∧ sync.consecutiveFailures < 3 := by
  unfold getValidEstimate
  cases cached : sync.currentEstimate with
  | none => simp
  | some current =>
      simp only [Option.some.injEq]
      split
      · rename_i stale
        have notFresh := UInt64.not_le.mpr stale
        simp only [reduceCtorEq, false_iff]
        rintro ⟨rfl, fresh, _⟩
        exact notFresh fresh
      · rename_i fresh
        split
        · rename_i vague
          have notCertain := UInt64.not_le.mpr vague
          simp only [reduceCtorEq, false_iff]
          rintro ⟨rfl, _, certain, _⟩
          exact notCertain certain
        · rename_i certain
          split
          · rename_i broken
            simp only [reduceCtorEq, false_iff]
            rintro ⟨_, _, _, few⟩
            omega
          · rename_i few
            simp only [Option.some.injEq]
            constructor
            · rintro rfl
              exact ⟨rfl, UInt64.not_lt.mp fresh, UInt64.not_lt.mp certain, Nat.not_le.mp few⟩
            · exact And.left

end ClockSynchronizer

/-- One completed exchange: the challenge, the response and the host arrival time. -/
structure ClockExchange where
  challenge : ClockChallenge
  response : ClockResponse
  t3HostMonotonicNs : UInt64
deriving DecidableEq

/-- Processes one exchange of a run. -/
def ClockSynchronizer.exchange (sync : ClockSynchronizer) (e : ClockExchange) :
    Outcome ClockSyncError ClockOffsetEstimate × ClockSynchronizer :=
  sync.processResponse e.challenge e.response e.t3HostMonotonicNs

end KavachNpu

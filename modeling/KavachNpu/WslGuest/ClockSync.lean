/-
Module: KavachNpu.WslGuest.ClockSync
Layer: WslGuest
Purpose: The guest's answer to a clock challenge. Instants are nanoseconds on one axis; what the monotonic
  clock of the agent reads is the time since the agent's start.
Trusted boundary: human-reviewed spec
Main exports: getGuestMonotonicNs, respondToChallenge
-/
import KavachNpu.Wsl.ClockSync

namespace KavachNpu

/-- `start_instant.elapsed().as_nanos() as u64`; `elapsed` saturates at zero. -/
def getGuestMonotonicNs (startInstant now : Nat) : UInt64 :=
  UInt64.ofNat (now - startInstant)

/-- The response to a challenge, for the two instants at which the clock is read. -/
def respondToChallenge (challenge : ClockChallenge) (startInstant first second : Nat) : ClockResponse :=
  { nonce := challenge.nonce
    g1GuestMonotonicNs := getGuestMonotonicNs startInstant first
    g2GuestMonotonicNs := getGuestMonotonicNs startInstant second }

end KavachNpu

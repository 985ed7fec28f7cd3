/-
Module: KavachNpu.WslGuest.Link
Layer: WslGuest
Purpose: The bridge between a host and a guest agent, as two parties and the messages in flight. The host
  sends clock challenges and evaluates what comes back, records its own file events, and correlates the
  records it decodes; the agent answers challenges and frames the operations it sees. A message that was
  sent may be delivered at any later time, any number of times, or never, and the steps of the parties
  interleave in any order. What each party computes is the code's; the schedule is an input.
Trusted boundary: human-reviewed spec
Main exports: LinkClocks, WslLink, LinkInput, LinkReply, WslLink.start, WslLink.step
-/
import KavachNpu.Wsl.Correlator
import KavachNpu.WslGuest.AuditSource
import KavachNpu.WslGuest.ClockSync

namespace KavachNpu

/-- The instants at which the clocks read zero, in nanoseconds: the host's monotonic clock, the clock the
    agent answers challenges with, and the clock of the source that makes its records. -/
structure LinkClocks where
  host : Nat
  responder : Nat
  source : Nat

/-- What the host's monotonic clock reads. -/
def LinkClocks.hostNs (clocks : LinkClocks) (now : Nat) : UInt64 :=
  UInt64.ofNat (now - clocks.host)

/-- Both parties, and every message sent so far. A challenge the agent has received is kept with the instant
    of its first reading until it is answered. -/
structure WslLink where
  now : Nat
  correlator : WslCorrelator
  source : GuestAuditSource
  challenges : List ClockChallenge
  received : List (ClockChallenge × Nat)
  responses : List ClockResponse
  frames : List (List UInt8)

/-- One step of the bridge. -/
inductive LinkInput where
  | wait (ns : Nat)
  | challenge (nonce : Bytes 16)
  | receive (challenge : ClockChallenge)
  | respond (challenge : ClockChallenge) (first : Nat)
  | complete (challenge : ClockChallenge) (response : ClockResponse)
  | hostEvent (canonicalWindowsPath : String) (isVmmemProcess : Bool) (bytesWritten : UInt64)
  | operate (op : GuestOperation)
  | deliver (frame : List UInt8)

/-- What a step returns. -/
inductive LinkReply where
  | silent
  | recorded
  | synced (result : Outcome ClockSyncError ClockOffsetEstimate)
  | emitted (result : Outcome String (List UInt8))
  | attributed (result : Outcome VsockWireError WslAttributionResult)

namespace WslLink

/-- A bridge without messages, at an instant when all clocks run. -/
def start (clocks : LinkClocks) (distributionId : Bytes 16) (correlationWindowMs : UInt64) : WslLink :=
  { now := max clocks.host (max clocks.responder clocks.source)
    correlator := WslCorrelator.new distributionId correlationWindowMs
    source := GuestAuditSource.new distributionId
    challenges := []
    received := []
    responses := []
    frames := [] }

/-- The agent reads its clock for the first time; a challenge that was never sent does not arrive. -/
def receive (link : WslLink) (challenge : ClockChallenge) : WslLink :=
  if challenge ∈ link.challenges then
    { link with received := link.received ++ [(challenge, link.now)] }
  else
    link

/-- The agent reads its clock again and answers. -/
def respond (clocks : LinkClocks) (link : WslLink) (challenge : ClockChallenge) (first : Nat) : WslLink :=
  if (challenge, first) ∈ link.received then
    let response := respondToChallenge challenge clocks.responder first link.now
    { link with responses := link.responses ++ [response] }
  else
    link

/-- The host evaluates a response against one of its challenges. -/
def complete (clocks : LinkClocks) (link : WslLink) (challenge : ClockChallenge)
    (response : ClockResponse) : LinkReply × WslLink :=
  if challenge ∈ link.challenges ∧ response ∈ link.responses then
    let (result, clockSync) :=
      link.correlator.clockSync.processResponse challenge response (clocks.hostNs link.now)
    (.synced result, { link with correlator := { link.correlator with clockSync := clockSync } })
  else
    (.silent, link)

/-- What the host observes of a write at `now`. -/
def hostEventAt (clocks : LinkClocks) (now : Nat) (path : String) (isVmmemProcess : Bool)
    (bytesWritten : UInt64) : HostFileEvent :=
  { hostTimestampNs := clocks.hostNs now
    canonicalWindowsPath := path
    isVmmemProcess := isVmmemProcess
    bytesWritten := bytesWritten }

/-- The agent records an operation, for which the source reads its own clock, and frames the record. -/
def operate (clocks : LinkClocks) (sha256 : List UInt8 → Bytes 32) (link : WslLink) (op : GuestOperation) :
    LinkReply × WslLink :=
  let (recorded, source) :=
    link.source.recordOperation sha256 { op with elapsedNs := link.now - clocks.source }
  let result := recorded >>= prepareWireFrame
  (.emitted result, { link with source := source, frames := link.frames ++ result.ok?.toList })

/-- The host decodes a frame and correlates its record. -/
def deliver (clocks : LinkClocks) (link : WslLink) (frame : List UInt8) : LinkReply × WslLink :=
  if frame ∈ link.frames then
    match GuestWriteRecord.fromFrame frame with
    | .ok record =>
        let (result, correlator) :=
          link.correlator.correlateGuestRecord record (clocks.hostNs link.now)
        (.attributed (.ok result), { link with correlator := correlator })
    | .err error => (.attributed (.err error), link)
    | .panicked cause => (.attributed (.panicked cause), link)
  else
    (.silent, link)

/-- Runs one step; a message that was never sent is not delivered. -/
def step (clocks : LinkClocks) (sha256 : List UInt8 → Bytes 32) (link : WslLink) :
    LinkInput → LinkReply × WslLink
  | .wait ns => (.silent, { link with now := link.now + ns })
  | .challenge nonce =>
      let challenge : ClockChallenge := { nonce := nonce, t0HostMonotonicNs := clocks.hostNs link.now }
      (.silent, { link with challenges := link.challenges ++ [challenge] })
  | .receive challenge => (.silent, link.receive challenge)
  | .respond challenge first => (.silent, link.respond clocks challenge first)
  | .complete challenge response => link.complete clocks challenge response
  | .hostEvent path isVmmemProcess bytesWritten =>
      let event := hostEventAt clocks link.now path isVmmemProcess bytesWritten
      (.recorded, { link with correlator := link.correlator.recordHostEvent event })
  | .operate op => link.operate clocks sha256 op
  | .deliver frame => link.deliver clocks frame

/-- The calls of an input on the host's correlator. -/
def correlatorCalls (clocks : LinkClocks) (link : WslLink) : LinkInput → List CorrelatorCall
  | .complete challenge response =>
      if challenge ∈ link.challenges ∧ response ∈ link.responses then
        [.sync challenge response (clocks.hostNs link.now)]
      else
        []
  | .hostEvent path isVmmemProcess bytesWritten =>
      [.recordHostEvent (hostEventAt clocks link.now path isVmmemProcess bytesWritten)]
  | .deliver frame =>
      if frame ∈ link.frames then
        (GuestWriteRecord.fromFrame frame).ok?.toList.map fun record =>
          .correlate record (clocks.hostNs link.now)
      else
        []
  | _ => []

/-- What the correlator replied. -/
def correlatorReplies : LinkReply → List CorrelatorReply
  | .recorded => [.recorded]
  | .synced result => [.synced result]
  | .attributed (.ok result) => [.correlated result]
  | _ => []

end WslLink

end KavachNpu

/-
Module: KavachNpu.Proofs.LinkRuns
Layer: Proofs
Purpose: Runs of the bridge, in any order of its steps and with any loss, delay or duplication of messages.
  Every response in flight answers a challenge that was sent before it; if no nonce is used twice, an
  exchange the host accepts is therefore a challenge with the answer to that very challenge, which is what
  the error bound of the clock estimate needs.
Trusted boundary: none
Main exports: WslLink.nonces, WslLink.after, ChallengeAt, AnswerTo, WslLink.Traffic,
  WslLink.correlatorComponent, WslLink.genuine_of_run, WslLink.clock_of_run
-/
import KavachNpu.Foundation.Components
import KavachNpu.Proofs.CorrelatorHistory
import KavachNpu.WslGuest.Link
import Mathlib.Data.List.Nodup

namespace KavachNpu

/-! ### Instants behind readings -/

/-- The challenge was sent at an instant not after `now`. -/
def ChallengeAt (clocks : LinkClocks) (now : Nat) (challenge : ClockChallenge) (sent : Nat) : Prop :=
  clocks.host ≤ sent ∧ sent ≤ now ∧ challenge.t0HostMonotonicNs = clocks.hostNs sent

/-- The response is the agent's answer to the challenge, not after `now`. -/
def AnswerTo (clocks : LinkClocks) (now : Nat) (challenge : ClockChallenge) (response : ClockResponse) :
    Prop :=
  ∃ sent first second, ChallengeAt clocks first challenge sent ∧ clocks.responder ≤ first ∧
    first ≤ second ∧ second ≤ now ∧ response = respondToChallenge challenge clocks.responder first second

/-- The exchange is a challenge with its own answer, evaluated not after `now`. -/
def Genuine (clocks : LinkClocks) (now : Nat) (e : ClockExchange) : Prop :=
  ∃ arrived, AnswerTo clocks arrived e.challenge e.response ∧ arrived ≤ now ∧
    e.t3HostMonotonicNs = clocks.hostNs arrived

theorem ChallengeAt.mono {clocks : LinkClocks} {now later : Nat} {challenge : ClockChallenge} {sent : Nat}
    (at' : ChallengeAt clocks now challenge sent) (le : now ≤ later) :
    ChallengeAt clocks later challenge sent :=
  ⟨at'.1, Nat.le_trans at'.2.1 le, at'.2.2⟩

theorem AnswerTo.mono {clocks : LinkClocks} {now later : Nat} {challenge : ClockChallenge}
    {response : ClockResponse} (answer : AnswerTo clocks now challenge response) (le : now ≤ later) :
    AnswerTo clocks later challenge response := by
  obtain ⟨sent, first, second, challenged, running, ordered, before, same⟩ := answer
  exact ⟨sent, first, second, challenged, running, ordered, Nat.le_trans before le, same⟩

theorem Genuine.mono {clocks : LinkClocks} {now later : Nat} {e : ClockExchange}
    (genuine : Genuine clocks now e) (le : now ≤ later) : Genuine clocks later e := by
  obtain ⟨arrived, answer, before, reading⟩ := genuine
  exact ⟨arrived, answer, Nat.le_trans before le, reading⟩

/-- Below 2^62 ns the host's clock reads the time since its start. -/
theorem toNat_hostNs (clocks : LinkClocks) (now : Nat) (short : now < 2 ^ 62) :
    (clocks.hostNs now).toNat = now - clocks.host :=
  UInt64.toNat_ofNat_of_lt' (by change now - clocks.host < 2 ^ 64; omega)

theorem toNat_guestNs (start now : Nat) (short : now < 2 ^ 62) :
    (getGuestMonotonicNs start now).toNat = now - start :=
  UInt64.toNat_ofNat_of_lt' (by change now - start < 2 ^ 64; omega)

/-- What separates the host's clock from the responder's. -/
def LinkClocks.difference (clocks : LinkClocks) : Int :=
  (clocks.responder : Int) - clocks.host

/-- A genuine exchange is bounded and causal. -/
theorem causal_of_genuine {clocks : LinkClocks} {now : Nat} {e : ClockExchange}
    (genuine : Genuine clocks now e) (short : now < 2 ^ 62) :
    e.Bounded ∧ ClockHistory.Causal clocks.difference e := by
  obtain ⟨arrived, ⟨sent, first, second, ⟨running, challenged, t0⟩, started, ordered, answered, same⟩,
    before, t3⟩ := genuine
  have send := toNat_hostNs clocks sent (by omega)
  have arrive := toNat_hostNs clocks arrived (by omega)
  have read := toNat_guestNs clocks.responder first (by omega)
  have finish := toNat_guestNs clocks.responder second (by omega)
  unfold ClockExchange.Bounded ClockHistory.Causal LinkClocks.difference
  rw [t0, t3, same]
  simp only [respondToChallenge, UInt64.le_iff_toNat_le, send, arrive, read, finish]
  refine ⟨⟨?_, ?_, ?_, ?_⟩, ?_, ?_, ?_⟩ <;> omega

namespace WslLink

/-- The nonce of a challenge the host sends. -/
def nonce? : LinkInput → Option (Bytes 16)
  | .challenge nonce => some nonce
  | _ => none

/-- The nonces of a run, in order. -/
def nonces (inputs : List LinkInput) : List (Bytes 16) :=
  inputs.filterMap nonce?

section Runs

variable (clocks : LinkClocks) (sha256 : List UInt8 → Bytes 32)

/-- The bridge after a run. -/
def after (d : Bytes 16) (w : UInt64) (inputs : List LinkInput) : WslLink :=
  final (step clocks sha256) (start clocks d w) inputs

theorem after_append (d : Bytes 16) (w : UInt64) (inputs : List LinkInput) (input : LinkInput) :
    after clocks sha256 d w (inputs ++ [input]) =
      (step clocks sha256 (after clocks sha256 d w inputs) input).2 :=
  final_append (start clocks d w) inputs [input]

/-- An evaluation touches the correlator alone. -/
theorem complete_frame (link : WslLink) (challenge : ClockChallenge) (response : ClockResponse) :
    ∃ correlator, (link.complete clocks challenge response).2 = { link with correlator := correlator } := by
  unfold complete
  split
  · exact ⟨_, rfl⟩
  · exact ⟨link.correlator, rfl⟩

/-- So does a delivery. -/
theorem deliver_frame (link : WslLink) (frame : List UInt8) :
    ∃ correlator, (link.deliver clocks frame).2 = { link with correlator := correlator } := by
  unfold deliver
  split
  · split
    · exact ⟨_, rfl⟩
    · exact ⟨link.correlator, rfl⟩
    · exact ⟨link.correlator, rfl⟩
  · exact ⟨link.correlator, rfl⟩

theorem now_receive (link : WslLink) (challenge : ClockChallenge) :
    (link.receive challenge).now = link.now := by
  unfold receive
  split <;> rfl

theorem now_respond (link : WslLink) (challenge : ClockChallenge) (first : Nat) :
    (link.respond clocks challenge first).now = link.now := by
  unfold respond
  split <;> rfl

/-- Time does not run backwards. -/
theorem now_le_step (link : WslLink) (input : LinkInput) :
    link.now ≤ (step clocks sha256 link input).2.now := by
  cases input with
  | wait ns => exact Nat.le_add_right link.now ns
  | challenge nonce => exact Nat.le_refl _
  | receive challenge => exact Nat.le_of_eq (now_receive link challenge).symm
  | respond challenge first => exact Nat.le_of_eq (now_respond clocks link challenge first).symm
  | complete challenge response =>
      obtain ⟨correlator, same⟩ := complete_frame clocks link challenge response
      exact Nat.le_of_eq (congrArg WslLink.now same).symm
  | hostEvent path isVmmemProcess bytesWritten => exact Nat.le_refl _
  | operate op => exact Nat.le_refl _
  | deliver frame =>
      obtain ⟨correlator, same⟩ := deliver_frame clocks link frame
      exact Nat.le_of_eq (congrArg WslLink.now same).symm

theorem now_mono (link : WslLink) (inputs : List LinkInput) :
    link.now ≤ (final (step clocks sha256) link inputs).now := by
  induction inputs generalizing link with
  | nil => exact Nat.le_refl _
  | cons input rest ih => exact Nat.le_trans (now_le_step clocks sha256 link input) (ih _)

/-! ### Messages in flight -/

/-- Every clock runs, every challenge was sent, and every response answers one of them. -/
structure Traffic (link : WslLink) : Prop where
  host : clocks.host ≤ link.now
  responder : clocks.responder ≤ link.now
  source : clocks.source ≤ link.now
  challenges : ∀ c ∈ link.challenges, ∃ sent, ChallengeAt clocks link.now c sent
  received : ∀ c first, (c, first) ∈ link.received → c ∈ link.challenges ∧ clocks.responder ≤ first ∧
    first ≤ link.now ∧ ∃ sent, ChallengeAt clocks first c sent
  responses : ∀ r ∈ link.responses, ∃ c ∈ link.challenges, AnswerTo clocks link.now c r

variable {clocks}

/-- The messages are unaffected by what does not touch them. -/
theorem Traffic.congr {link other : WslLink} (traffic : Traffic clocks link) (now : link.now ≤ other.now)
    (challenges : other.challenges = link.challenges) (received : other.received = link.received)
    (responses : other.responses = link.responses) : Traffic clocks other := by
  refine ⟨Nat.le_trans traffic.host now, Nat.le_trans traffic.responder now,
    Nat.le_trans traffic.source now, ?_, ?_, ?_⟩
  · rw [challenges]
    intro c member
    obtain ⟨sent, challenged⟩ := traffic.challenges c member
    exact ⟨sent, challenged.mono now⟩
  · rw [challenges, received]
    intro c first member
    obtain ⟨known, started, before, challenged⟩ := traffic.received c first member
    exact ⟨known, started, Nat.le_trans before now, challenged⟩
  · rw [challenges, responses]
    intro r member
    obtain ⟨c, known, answer⟩ := traffic.responses r member
    exact ⟨c, known, answer.mono now⟩

theorem Traffic.start (d : Bytes 16) (w : UInt64) : Traffic clocks (start clocks d w) := by
  refine ⟨?_, ?_, ?_, ?_, ?_, ?_⟩
  · exact Nat.le_max_left _ _
  · exact Nat.le_trans (Nat.le_max_left _ _) (Nat.le_max_right _ _)
  · exact Nat.le_trans (Nat.le_max_right _ _) (Nat.le_max_right _ _)
  · rintro c ⟨⟩
  · rintro c first ⟨⟩
  · rintro r ⟨⟩

/-- A challenge joins the others. -/
theorem Traffic.challenge {link : WslLink} (traffic : Traffic clocks link) (nonce : Bytes 16) :
    Traffic clocks (step clocks sha256 link (.challenge nonce)).2 := by
  refine ⟨traffic.host, traffic.responder, traffic.source, ?_, ?_, ?_⟩
  · intro c member
    rcases List.mem_append.mp member with earlier | new
    · exact traffic.challenges c earlier
    · obtain rfl := List.mem_singleton.mp new
      exact ⟨link.now, traffic.host, Nat.le_refl _, rfl⟩
  · intro c first member
    obtain ⟨known, read⟩ := traffic.received c first member
    exact ⟨List.mem_append_left _ known, read⟩
  · intro r member
    obtain ⟨c, known, answer⟩ := traffic.responses r member
    exact ⟨c, List.mem_append_left _ known, answer⟩

/-- The agent receives what was sent. -/
theorem Traffic.receive {link : WslLink} (traffic : Traffic clocks link) (challenge : ClockChallenge) :
    Traffic clocks (link.receive challenge) := by
  unfold WslLink.receive
  split
  · rename_i sent
    refine ⟨traffic.host, traffic.responder, traffic.source, traffic.challenges, ?_, traffic.responses⟩
    intro c first member
    rcases List.mem_append.mp member with earlier | new
    · exact traffic.received c first earlier
    · cases List.mem_singleton.mp new
      exact ⟨sent, traffic.responder, Nat.le_refl _, traffic.challenges challenge sent⟩
  · exact traffic

/-- The agent answers what it received. -/
theorem Traffic.respond {link : WslLink} (traffic : Traffic clocks link) (challenge : ClockChallenge)
    (first : Nat) : Traffic clocks (link.respond clocks challenge first) := by
  unfold WslLink.respond
  split
  · rename_i read
    refine ⟨traffic.host, traffic.responder, traffic.source, traffic.challenges, traffic.received, ?_⟩
    intro r member
    rcases List.mem_append.mp member with earlier | new
    · exact traffic.responses r earlier
    · obtain ⟨known, started, before, sent, challenged⟩ := traffic.received challenge first read
      exact ⟨challenge, known, sent, first, link.now, challenged, started, before, Nat.le_refl _,
        List.mem_singleton.mp new⟩
  · exact traffic

/-- Every step keeps the messages in order. -/
theorem Traffic.step {link : WslLink} (traffic : Traffic clocks link) (input : LinkInput) :
    Traffic clocks (step clocks sha256 link input).2 := by
  cases input with
  | wait ns => exact traffic.congr (Nat.le_add_right _ ns) rfl rfl rfl
  | challenge nonce => exact traffic.challenge sha256 nonce
  | receive challenge => exact traffic.receive challenge
  | respond challenge first => exact traffic.respond challenge first
  | complete challenge response =>
      obtain ⟨correlator, same⟩ := complete_frame clocks link challenge response
      rw [WslLink.step, same]
      exact traffic.congr (Nat.le_refl _) rfl rfl rfl
  | hostEvent path isVmmemProcess bytesWritten => exact traffic.congr (Nat.le_refl _) rfl rfl rfl
  | operate op => exact traffic.congr (Nat.le_refl _) rfl rfl rfl
  | deliver frame =>
      obtain ⟨correlator, same⟩ := deliver_frame clocks link frame
      rw [WslLink.step, same]
      exact traffic.congr (Nat.le_refl _) rfl rfl rfl

variable (clocks) in
/-- In every run, every response in flight answers a challenge in flight. -/
theorem traffic_of_run (d : Bytes 16) (w : UInt64) (inputs : List LinkInput) :
    Traffic clocks (after clocks sha256 d w inputs) :=
  final_induction (Traffic clocks) (fun _ input traffic => traffic.step sha256 input) inputs
    (Traffic.start d w)

/-! ### The correlator of a run -/

/-- The correlator is a component of the bridge. -/
def correlatorComponent (clocks : LinkClocks) : Component (step clocks sha256) WslCorrelator.call where
  state := WslLink.correlator
  calls := correlatorCalls clocks
  replies := correlatorReplies
  final_step := by
    intro link input
    cases input with
    | receive challenge =>
        change (link.receive challenge).correlator = link.correlator
        unfold WslLink.receive
        split <;> rfl
    | respond challenge first =>
        change (link.respond clocks challenge first).correlator = link.correlator
        unfold WslLink.respond
        split <;> rfl
    | complete challenge response =>
        simp only [WslLink.step, complete, correlatorCalls]
        split <;> rfl
    | deliver frame =>
        simp only [WslLink.step, deliver, correlatorCalls]
        split
        · split
          · rename_i decoded
            simp only [decoded]
            rfl
          · rename_i refused
            simp only [refused]
            rfl
          · rename_i panicked
            simp only [panicked]
            rfl
        · rfl
    | _ => rfl
  trace_step := by
    intro link input
    cases input with
    | complete challenge response =>
        simp only [WslLink.step, complete, correlatorCalls]
        split <;> rfl
    | deliver frame =>
        simp only [WslLink.step, deliver, correlatorCalls]
        split
        · split
          · rename_i decoded
            simp only [decoded]
            rfl
          · rename_i refused
            simp only [refused]
            rfl
          · rename_i panicked
            simp only [panicked]
            rfl
        · rfl
    | _ => rfl

/-- The calls of a run on the correlator. -/
def calls (clocks : LinkClocks) (sha256 : List UInt8 → Bytes 32) (d : Bytes 16) (w : UInt64)
    (inputs : List LinkInput) : List CorrelatorCall :=
  handed (step clocks sha256) (correlatorCalls clocks) (start clocks d w) inputs

/-- The correlator of a bridge has run through the calls handed to it. -/
theorem correlator_of_run (d : Bytes 16) (w : UInt64) (inputs : List LinkInput) :
    (after clocks sha256 d w inputs).correlator =
      final WslCorrelator.call (WslCorrelator.new d w) (calls clocks sha256 d w inputs) :=
  (correlatorComponent sha256 clocks).final_eq (start clocks d w) inputs

theorem calls_append (d : Bytes 16) (w : UInt64) (inputs : List LinkInput) (input : LinkInput) :
    calls clocks sha256 d w (inputs ++ [input]) =
      calls clocks sha256 d w inputs ++ correlatorCalls clocks (after clocks sha256 d w inputs) input := by
  rw [calls, handed_append]
  exact congrArg _ (List.append_nil _)

/-! ### Fresh nonces -/

theorem nonces_step (link : WslLink) (input : LinkInput) :
    (step clocks sha256 link input).2.challenges.map ClockChallenge.nonce =
      link.challenges.map ClockChallenge.nonce ++ (nonce? input).toList := by
  cases input with
  | challenge nonce => exact List.map_append
  | receive challenge =>
      simp only [WslLink.step, WslLink.receive]
      split <;> exact (List.append_nil _).symm
  | respond challenge first =>
      simp only [WslLink.step, WslLink.respond]
      split <;> exact (List.append_nil _).symm
  | complete challenge response =>
      obtain ⟨correlator, same⟩ := complete_frame clocks link challenge response
      rw [WslLink.step, same]
      exact (List.append_nil _).symm
  | deliver frame =>
      obtain ⟨correlator, same⟩ := deliver_frame clocks link frame
      rw [WslLink.step, same]
      exact (List.append_nil _).symm
  | _ => exact (List.append_nil _).symm

variable (clocks) in
/-- The challenges in flight carry the nonces of the run. -/
theorem nonces_of_run (d : Bytes 16) (w : UInt64) (inputs : List LinkInput) :
    (after clocks sha256 d w inputs).challenges.map ClockChallenge.nonce = nonces inputs := by
  refine history_induction
    (fun inputs (link : WslLink) => link.challenges.map ClockChallenge.nonce = nonces inputs) rfl ?_ inputs
  intro before input known
  rw [nonces_step, known, nonces, nonces, List.filterMap_append]
  cases input <;> rfl

/-- With fresh nonces, a response that carries the nonce of a challenge in flight answers it. -/
theorem answer_of_nonce {d : Bytes 16} {w : UInt64} {inputs : List LinkInput}
    (fresh : (nonces inputs).Nodup) {challenge : ClockChallenge} {response : ClockResponse}
    (sent : challenge ∈ (after clocks sha256 d w inputs).challenges)
    (answered : response ∈ (after clocks sha256 d w inputs).responses)
    (same : challenge.nonce = response.nonce) :
    AnswerTo clocks (after clocks sha256 d w inputs).now challenge response := by
  obtain ⟨other, known, answer⟩ := (traffic_of_run clocks sha256 d w inputs).responses response answered
  have echoed : response.nonce = other.nonce := by
    obtain ⟨_, _, _, _, _, _, _, rfl⟩ := answer
    rfl
  rw [← nonces_of_run clocks sha256 d w] at fresh
  have unique := List.inj_on_of_nodup_map fresh
  rw [unique sent known (same.trans echoed)]
  exact answer

/-- With fresh nonces, every exchange that passes the nonce check is genuine. -/
theorem genuine_of_run {d : Bytes 16} {w : UInt64} {inputs : List LinkInput}
    (fresh : (nonces inputs).Nodup) :
    ∀ e ∈ WslCorrelator.exchanges (calls clocks sha256 d w inputs),
      e.challenge.nonce = e.response.nonce → Genuine clocks (after clocks sha256 d w inputs).now e := by
  induction inputs using List.reverseRecOn with
  | nil =>
      intro e member
      cases member
  | append_singleton inputs input ih =>
      intro e member same
      have earlier : (nonces inputs).Nodup := by
        rw [nonces, List.filterMap_append] at fresh
        exact fresh.sublist (List.sublist_append_left _ _)
      have passed : (after clocks sha256 d w inputs).now ≤
          (after clocks sha256 d w (inputs ++ [input])).now := by
        rw [after_append]
        exact now_le_step clocks sha256 _ input
      rw [calls_append, WslCorrelator.exchanges, List.filterMap_append] at member
      rcases List.mem_append.mp member with old | new
      · exact (ih earlier e old same).mono passed
      · cases input with
        | complete challenge response =>
            simp only [correlatorCalls] at new
            split at new
            · rename_i inFlight
              obtain rfl := List.mem_singleton.mp new
              have answer := answer_of_nonce sha256 earlier inFlight.1 inFlight.2 same
              exact ⟨_, answer, passed, rfl⟩
            · cases new
        | deliver frame =>
            simp only [correlatorCalls] at new
            split at new
            · cases decoded : (GuestWriteRecord.fromFrame frame).ok? <;> rw [decoded] at new <;> cases new
            · cases new
        | _ => cases new

/-! ### Estimates of a run -/

/-- With fresh nonces, the estimate a run leaves is off by at most its uncertainty and 1 ns. -/
theorem currentEstimate_of_run (d : Bytes 16) (w : UInt64) {inputs : List LinkInput}
    (fresh : (nonces inputs).Nodup) (short : (after clocks sha256 d w inputs).now < 2 ^ 62)
    {estimate : ClockOffsetEstimate}
    (cached : (after clocks sha256 d w inputs).correlator.clockSync.currentEstimate = some estimate) :
    ClockHistory.ErrorBounded clocks.difference estimate := by
  rw [correlator_of_run, WslCorrelator.clockSync_final] at cached
  refine ClockHistory.currentEstimate_errorBounded ?_ cached
  intro e member passes
  exact causal_of_genuine (genuine_of_run sha256 fresh e member passes.1) short

variable (clocks) in
/-- The host evaluates a response in flight. -/
theorem complete_inFlight {link : WslLink} {challenge : ClockChallenge} {response : ClockResponse}
    (sent : challenge ∈ link.challenges) (answered : response ∈ link.responses) :
    let reply := link.correlator.clockSync.exchange ⟨challenge, response, clocks.hostNs link.now⟩
    step clocks sha256 link (.complete challenge response) =
      (.synced reply.1, { link with correlator := { link.correlator with clockSync := reply.2 } }) := by
  intro reply
  rw [step, complete, if_pos ⟨sent, answered⟩]
  rfl

/-- The round trip of a challenge, as the host's clock measures it. -/
def roundTrip (clocks : LinkClocks) (now : Nat) (challenge : ClockChallenge) : Nat :=
  (clocks.hostNs now).toNat - challenge.t0HostMonotonicNs.toNat

/-- With fresh nonces, an exchange passes the checks exactly if the response answers the challenge in
    time. -/
theorem accepted_iff_of_run {d : Bytes 16} {w : UInt64} {inputs : List LinkInput}
    (fresh : (nonces inputs).Nodup) (short : (after clocks sha256 d w inputs).now < 2 ^ 62)
    {challenge : ClockChallenge} {response : ClockResponse}
    (sent : challenge ∈ (after clocks sha256 d w inputs).challenges)
    (answered : response ∈ (after clocks sha256 d w inputs).responses) :
    let now := (after clocks sha256 d w inputs).now
    ClockExchange.Accepted ⟨challenge, response, clocks.hostNs now⟩ ↔
      AnswerTo clocks now challenge response ∧ 0 < roundTrip clocks now challenge ∧
        roundTrip clocks now challenge ≤ 100000000 := by
  intro now
  constructor
  · rintro ⟨same, later, -, fast⟩
    have after := UInt64.lt_iff_toNat_lt.mp later
    exact ⟨answer_of_nonce sha256 fresh sent answered same, Nat.sub_pos_of_lt after, fast⟩
  · rintro ⟨⟨_, first, second, _, _, ordered, before, rfl⟩, later, fast⟩
    refine ⟨rfl, UInt64.lt_iff_toNat_lt.mpr (Nat.lt_of_sub_pos later), ?_, fast⟩
    have begins := toNat_guestNs clocks.responder first (by omega)
    have ends := toNat_guestNs clocks.responder second (by omega)
    change getGuestMonotonicNs clocks.responder first ≤ getGuestMonotonicNs clocks.responder second
    rw [UInt64.le_iff_toNat_le, begins, ends]
    omega

/-- What the host answers to a response in flight. -/
theorem complete_of_run {d : Bytes 16} {w : UInt64} {inputs : List LinkInput}
    (fresh : (nonces inputs).Nodup) (short : (after clocks sha256 d w inputs).now < 2 ^ 62)
    {challenge : ClockChallenge} {response : ClockResponse}
    (sent : challenge ∈ (after clocks sha256 d w inputs).challenges)
    (answered : response ∈ (after clocks sha256 d w inputs).responses) :
    let link := after clocks sha256 d w inputs
    ∃ result, (step clocks sha256 link (.complete challenge response)).1 = .synced result ∧
      (result.isOk = true ↔ AnswerTo clocks link.now challenge response ∧
        0 < roundTrip clocks link.now challenge ∧ roundTrip clocks link.now challenge ≤ 100000000) ∧
      ∀ estimate, result = .ok estimate → ClockHistory.ErrorBounded clocks.difference estimate := by
  intro link
  have evaluated := complete_inFlight clocks sha256 sent answered
  have judged := ClockHistory.exchange_accepted_iff link.correlator.clockSync
    ⟨challenge, response, clocks.hostNs link.now⟩
  have genuine := accepted_iff_of_run sha256 fresh short sent answered
  refine ⟨_, congrArg Prod.fst evaluated, judged.1.symm.trans genuine, ?_⟩
  intro estimate returned
  have passes := judged.1.mpr (by rw [returned]; rfl)
  obtain ⟨_, _, result⟩ := ClockHistory.exchange_of_accepted link.correlator.clockSync passes
  have same := congrArg Prod.fst result
  rw [returned] at same
  cases same
  have ended := after_append clocks sha256 d w inputs (.complete challenge response)
  rw [evaluated] at ended
  have unchanged : nonces (inputs ++ [.complete challenge response]) = nonces inputs := by
    rw [nonces, List.filterMap_append]
    exact List.append_nil _
  rw [← unchanged] at fresh
  apply currentEstimate_of_run sha256 d w fresh
  · rwa [ended]
  · rw [ended]
    exact congrArg (fun reply => reply.2.currentEstimate) result

variable (clocks) in
/-- A run in two parts reaches its first part no later. -/
theorem now_le_append (d : Bytes 16) (w : UInt64) (inputs more : List LinkInput) :
    (after clocks sha256 d w inputs).now ≤ (after clocks sha256 d w (inputs ++ more)).now := by
  rw [after, after, final_append]
  exact now_mono clocks sha256 _ more

/-- Time synchronization over an unreliable bridge, in runs of less than `2 ^ 62` ns. If no nonce is used
    twice, then in any order of the steps, and whatever is lost, delayed or delivered again, the host accepts
    a response if and only if it is the agent's answer to that very challenge and the round trip took between
    1 ns and 100 ms; and every estimate it accepts, or still offers at any later time, differs from the true
    difference of the clocks by at most its uncertainty and 1 ns. -/
theorem clock_of_run (clocks : LinkClocks) (sha256 : List UInt8 → Bytes 32) (d : Bytes 16) (w : UInt64)
    (inputs : List LinkInput) (fresh : (nonces inputs).Nodup)
    (short : (after clocks sha256 d w inputs).now < 2 ^ 62) :
    (∀ before challenge response later, inputs = before ++ .complete challenge response :: later →
      let link := after clocks sha256 d w before
      challenge ∈ link.challenges → response ∈ link.responses →
      ∃ result, (step clocks sha256 link (.complete challenge response)).1 = .synced result ∧
        (result.isOk = true ↔ AnswerTo clocks link.now challenge response ∧
          0 < roundTrip clocks link.now challenge ∧
          roundTrip clocks link.now challenge ≤ 100000000) ∧
        ∀ estimate, result = .ok estimate → ClockHistory.ErrorBounded clocks.difference estimate) ∧
    ∀ time estimate,
      (after clocks sha256 d w inputs).correlator.clockSync.getValidEstimate time = some estimate →
      ClockHistory.ErrorBounded clocks.difference estimate := by
  refine ⟨?_, ?_⟩
  · rintro before challenge response later rfl
    intro link sent answered
    have earlier : (nonces before).Nodup := by
      rw [nonces, List.filterMap_append] at fresh
      exact fresh.sublist (List.sublist_append_left _ _)
    have bound := Nat.lt_of_le_of_lt
      (now_le_append clocks sha256 d w before (.complete challenge response :: later)) short
    exact complete_of_run sha256 earlier bound sent answered
  · intro time estimate valid
    exact currentEstimate_of_run sha256 d w fresh short
      (ClockSynchronizer.getValidEstimate_eq_some.mp valid).1

/-- The clocks of a host that has been up for a second when the agent starts. -/
def sampleClocks : LinkClocks :=
  { host := 0, responder := 1000000000, source := 1000000500 }

/-- A challenge that is answered and evaluated twice, once in time and once too late. -/
def sampleRun : List LinkInput :=
  let challenge : ClockChallenge := ⟨Bytes.replicate 16 1, 1000000500⟩
  let response : ClockResponse := ⟨Bytes.replicate 16 1, 2000500, 2000500⟩
  [.challenge (Bytes.replicate 16 1), .wait 2000000, .receive challenge,
    .respond challenge 1002000500, .wait 2000000, .complete challenge response,
    .wait 100000000, .complete challenge response]

/-- The sample run is accepted in time, and its estimate is within 2 ms and 1 ns of the true difference. -/
theorem sampleRun_clock :
    (nonces sampleRun).Nodup ∧
      ∃ estimate,
        (after sampleClocks (fun _ => Bytes.replicate 32 0) (Bytes.replicate 16 7) 250
          sampleRun).correlator.clockSync.getValidEstimate 1200000000 = some estimate ∧
        estimate.uncertaintyNs = 2000000 ∧
        ClockHistory.ErrorBounded sampleClocks.difference estimate := by
  have fresh : (nonces sampleRun).Nodup := by decide
  have valid : ∃ estimate,
      (after sampleClocks (fun _ => Bytes.replicate 32 0) (Bytes.replicate 16 7) 250
        sampleRun).correlator.clockSync.getValidEstimate 1200000000 = some estimate ∧
      estimate.uncertaintyNs = 2000000 := ⟨_, rfl, by decide +kernel⟩
  obtain ⟨estimate, offered, known⟩ := valid
  refine ⟨fresh, estimate, offered, known, ?_⟩
  exact (clock_of_run sampleClocks (fun _ => Bytes.replicate 32 0) (Bytes.replicate 16 7) 250 sampleRun
    fresh (by decide +kernel)).2 1200000000 estimate offered

/-- A nonce used twice lets the answer to the first challenge pass for an answer to the second: the host
    accepts it, with an uncertainty of 1 ms, although the difference of the clocks is off by 3 s. -/
example :
    let nonce := Bytes.replicate 16 1
    let first : ClockChallenge := ⟨nonce, 1000000500⟩
    let second : ClockChallenge := ⟨nonce, 4000000500⟩
    let response : ClockResponse := ⟨nonce, 500, 500⟩
    let run := [.challenge nonce, .receive first, .respond first 1000000500, .wait 3000000000,
      .challenge nonce, .wait 2000000, .complete second response]
    ((after sampleClocks (fun _ => Bytes.replicate 32 0) (Bytes.replicate 16 7) 250
      run).correlator.clockSync.getValidEstimate 4100000000).map
        (fun estimate => (estimate.offsetNs.toInt - sampleClocks.difference, estimate.uncertaintyNs)) =
      some (3001000000, 1000000) := by
  decide +kernel

end Runs

end WslLink

end KavachNpu

/-
Module: KavachNpu.Proofs.LinkAttribution
Layer: Proofs
Purpose: What the attribution of a guest write means in true time. A run's guest operations and host writes
  carry the instants at which they happened; the frames in flight are those of the operations. The host
  compares readings of three clocks, of which it has synchronized two, and the confidence of its answer is
  sandwiched between two counts of host writes that are near the operation in true time.
Trusted boundary: none
Main exports: GuestWrite, HostWrite, WslLink.guestWrites, WslLink.hostWrites, WslLink.frames_of_run,
  WslLink.recorded_of_run, WslLink.attribution_of_run
-/
import KavachNpu.Proofs.LinkRuns
import KavachNpu.Proofs.GuestSequence

namespace KavachNpu

/-- A guest operation that was framed, and when it happened. -/
structure GuestWrite where
  instant : Nat
  op : GuestOperation
  frame : List UInt8

/-- A host file event, and when it happened. -/
structure HostWrite where
  instant : Nat
  path : String
  isVmmemProcess : Bool
  bytesWritten : UInt64

/-- What the host records of the write. -/
def HostWrite.event (clocks : LinkClocks) (write : HostWrite) : HostFileEvent :=
  WslLink.hostEventAt clocks write.instant write.path write.isVmmemProcess write.bytesWritten

/-! ### Nearness in true time -/

/-- The nanoseconds between two instants. -/
def apart (a b : Nat) : Nat :=
  (a - b) + (b - a)

/-- What the clocks can add to a comparison: the error of a valid estimate, and the distance between the
    agent's two clocks, of which only one answers challenges. -/
def LinkClocks.tolerance (clocks : LinkClocks) : Nat :=
  50000001 + apart clocks.source clocks.responder

/-- The correlation window in nanoseconds. -/
def windowOf (w : UInt64) : Nat :=
  min w.toNat 250 * 1000000

/-- The host write is on the Windows path of the operation. -/
def SamePath (written : GuestWrite) (write : HostWrite) : Prop :=
  eqIgnoreAsciiCase write.path
    ((translateMntToWindowsPath written.op.normalizedPath).getD written.op.normalizedPath) = true

instance decidableSamePath (written : GuestWrite) (write : HostWrite) :
    Decidable (SamePath written write) :=
  inferInstanceAs (Decidable (_ = true))

/-- Near enough to match whatever the clocks add, if the host's clock has run for a window by then: the
    translated time of an operation before its start wraps around. -/
def MatchesSurely (clocks : LinkClocks) (w : UInt64) (written : GuestWrite) (write : HostWrite) : Prop :=
  SamePath written write ∧ apart write.instant written.instant + clocks.tolerance ≤ windowOf w ∧
    clocks.host + windowOf w ≤ write.instant

/-- Near enough to match if the clocks add what they can. -/
def MatchesPossibly (clocks : LinkClocks) (w : UInt64) (written : GuestWrite) (write : HostWrite) : Prop :=
  SamePath written write ∧ apart write.instant written.instant ≤ windowOf w + clocks.tolerance

instance decidableMatchesSurely (clocks : LinkClocks) (w : UInt64) (written : GuestWrite)
    (write : HostWrite) : Decidable (MatchesSurely clocks w written write) :=
  inferInstanceAs (Decidable (_ ∧ _ ∧ _))

instance decidableMatchesPossibly (clocks : LinkClocks) (w : UInt64) (written : GuestWrite)
    (write : HostWrite) : Decidable (MatchesPossibly clocks w written write) :=
  inferInstanceAs (Decidable (_ ∧ _))

namespace WslLink

section Runs

variable (clocks : LinkClocks) (sha256 : List UInt8 → Bytes 32)

/-! ### The operations of a run -/

/-- The operation of an input, if it is framed. -/
def guestWriteOf (link : WslLink) : LinkInput → List GuestWrite
  | .operate op =>
      match (link.operate clocks sha256 op).1 with
      | .emitted (.ok frame) => [⟨link.now, op, frame⟩]
      | _ => []
  | _ => []

/-- The framed operations of a run, in order. -/
def guestWrites (d : Bytes 16) (w : UInt64) (inputs : List LinkInput) : List GuestWrite :=
  handed (step clocks sha256) (guestWriteOf clocks sha256) (start clocks d w) inputs

/-- The frame decodes, to a record of the operation with the reading of the source's clock. -/
structure Framed (now : Nat) (written : GuestWrite) : Prop where
  running : clocks.source ≤ written.instant
  past : written.instant ≤ now
  decoded : ∃ record, GuestWriteRecord.fromFrame written.frame = .ok record ∧
    record.guestMonotonicNs = UInt64.ofNat (written.instant - clocks.source) ∧
    record.normalizedPath = written.op.normalizedPath ∧ record.guestProcessId = written.op.pid

variable {clocks}

theorem Framed.mono {now later : Nat} {written : GuestWrite} (framed : Framed clocks now written)
    (le : now ≤ later) : Framed clocks later written :=
  ⟨framed.running, Nat.le_trans framed.past le, framed.decoded⟩

/-- A record of the source is valid if its number is, and the source goes on to the next number. -/
theorem recordOperation_eq_ok {source : GuestAuditSource} {op : GuestOperation} {record : GuestWriteRecord}
    (recorded : (source.recordOperation sha256 op).1 = .ok record) :
    record.version.major = 1 ∧ record.flags = 0 ∧ record.sequenceNumber = source.sequenceCounter ∧
      isNormalizedMntPath record.normalizedPath = true ∧
      record.guestMonotonicNs = UInt64.ofNat op.elapsedNs ∧
      record.normalizedPath = op.normalizedPath ∧ record.guestProcessId = op.pid := by
  unfold GuestAuditSource.recordOperation at recorded
  simp only at recorded
  split at recorded
  · cases recorded
  · rename_i accepted
    cases recorded
    exact ⟨rfl, rfl, rfl, Bool.not_not_eq.mp accepted, rfl, rfl, rfl⟩

/-- The counter stays or goes on by one. -/
theorem sequenceCounter_recordOperation (source : GuestAuditSource) (op : GuestOperation) :
    (source.recordOperation sha256 op).2.sequenceCounter = source.sequenceCounter ∨
      (source.recordOperation sha256 op).2.sequenceCounter = source.sequenceCounter + 1 := by
  unfold GuestAuditSource.recordOperation
  simp only
  split
  · exact .inl rfl
  · exact .inr rfl

/-- What an operation emits decodes to a record of it. -/
theorem framed_of_operate {link : WslLink} {op : GuestOperation} {frame : List UInt8}
    (running : clocks.source ≤ link.now) (numbered : 0 < link.source.sequenceCounter)
    (emitted : (link.operate clocks sha256 op).1 = .emitted (.ok frame)) :
    Framed clocks link.now ⟨link.now, op, frame⟩ := by
  obtain ⟨record, recorded, framed⟩ := Outcome.bind_eq_ok.mp (LinkReply.emitted.inj emitted)
  obtain ⟨major, flags, number, normalized, reading, path, pid⟩ := recordOperation_eq_ok sha256 recorded
  have encoded := GuestSequence.prepareWireFrame_eq_ok.mp framed
  have fits := (GuestWriteRecord.toFrame_eq_ok.mp encoded).2.1
  have valid : record.Valid := ⟨major, number ▸ numbered, flags, normalized, fits⟩
  exact ⟨running, Nat.le_refl _, record, GuestWriteRecord.fromFrame_of_toFrame valid encoded, reading, path,
    pid⟩

variable (clocks) in
/-- The counter of the agent's source stays or goes on by one. -/
theorem sequenceCounter_step (link : WslLink) (input : LinkInput) :
    (step clocks sha256 link input).2.source.sequenceCounter = link.source.sequenceCounter ∨
      (step clocks sha256 link input).2.source.sequenceCounter = link.source.sequenceCounter + 1 := by
  cases input with
  | receive challenge =>
      left
      simp only [WslLink.step, WslLink.receive]
      split <;> rfl
  | respond challenge first =>
      left
      simp only [WslLink.step, WslLink.respond]
      split <;> rfl
  | complete challenge response =>
      obtain ⟨correlator, same⟩ := complete_frame clocks link challenge response
      rw [WslLink.step, same]
      exact .inl rfl
  | operate op => exact sequenceCounter_recordOperation sha256 link.source _
  | deliver frame =>
      obtain ⟨correlator, same⟩ := deliver_frame clocks link frame
      rw [WslLink.step, same]
      exact .inl rfl
  | _ => exact .inl rfl

variable (clocks) in
/-- The counter has neither wrapped nor reached zero. -/
theorem sequenceCounter_of_run (d : Bytes 16) (w : UInt64) (inputs : List LinkInput)
    (few : inputs.length < 2 ^ 64 - 1) :
    0 < (after clocks sha256 d w inputs).source.sequenceCounter.toNat ∧
      (after clocks sha256 d w inputs).source.sequenceCounter.toNat ≤ inputs.length + 1 := by
  induction inputs using List.reverseRecOn with
  | nil => exact ⟨Nat.one_pos, Nat.le_refl 1⟩
  | append_singleton inputs input ih =>
      rw [List.length_append, List.length_singleton] at few ⊢
      obtain ⟨positive, bound⟩ := ih (by omega)
      rw [after_append]
      rcases sequenceCounter_step clocks sha256 (after clocks sha256 d w inputs) input with same | next
      · rw [same]
        omega
      · rw [next, UInt64.toNat_add, UInt64.toNat_one]
        omega

/-- The frames in flight grow by those of the operation. -/
theorem frames_step (link : WslLink) (input : LinkInput) :
    (step clocks sha256 link input).2.frames =
      link.frames ++ (guestWriteOf clocks sha256 link input).map GuestWrite.frame := by
  cases input with
  | receive challenge =>
      simp only [WslLink.step, WslLink.receive]
      split <;> exact (List.append_nil _).symm
  | respond challenge first =>
      simp only [WslLink.step, WslLink.respond]
      split <;> exact (List.append_nil _).symm
  | complete challenge response =>
      obtain ⟨correlator, same⟩ := complete_frame clocks link challenge response
      rw [WslLink.step, same]
      exact (List.append_nil _).symm
  | operate op =>
      simp only [WslLink.step, WslLink.operate, guestWriteOf]
      cases (link.source.recordOperation sha256
        { op with elapsedNs := link.now - clocks.source }).1 >>= prepareWireFrame <;> rfl
  | deliver frame =>
      obtain ⟨correlator, same⟩ := deliver_frame clocks link frame
      rw [WslLink.step, same]
      exact (List.append_nil _).symm
  | _ => exact (List.append_nil _).symm

theorem guestWrites_append (d : Bytes 16) (w : UInt64) (inputs : List LinkInput) (input : LinkInput) :
    guestWrites clocks sha256 d w (inputs ++ [input]) = guestWrites clocks sha256 d w inputs ++
      guestWriteOf clocks sha256 (after clocks sha256 d w inputs) input := by
  rw [guestWrites, handed_append]
  exact congrArg _ (List.append_nil _)

/-- The frames in flight are those of the operations, in order. -/
theorem frames_of_run (d : Bytes 16) (w : UInt64) (inputs : List LinkInput) :
    (after clocks sha256 d w inputs).frames =
      (guestWrites clocks sha256 d w inputs).map GuestWrite.frame := by
  induction inputs using List.reverseRecOn with
  | nil => rfl
  | append_singleton inputs input ih =>
      rw [after_append, frames_step, ih, guestWrites_append, List.map_append]

/-- Every frame in flight decodes to a record of its operation. -/
theorem framed_of_run {d : Bytes 16} {w : UInt64} {inputs : List LinkInput}
    (few : inputs.length < 2 ^ 64 - 1) :
    ∀ written ∈ guestWrites clocks sha256 d w inputs,
      Framed clocks (after clocks sha256 d w inputs).now written := by
  induction inputs using List.reverseRecOn with
  | nil => rintro written ⟨⟩
  | append_singleton inputs input ih =>
      intro written member
      rw [List.length_append, List.length_singleton] at few
      have passed : (after clocks sha256 d w inputs).now ≤
          (after clocks sha256 d w (inputs ++ [input])).now := now_le_append clocks sha256 d w inputs [input]
      rw [guestWrites_append] at member
      rcases List.mem_append.mp member with earlier | new
      · exact (ih (by omega) written earlier).mono passed
      · have running := (traffic_of_run clocks sha256 d w inputs).source
        have numbered := (sequenceCounter_of_run clocks sha256 d w inputs (by omega)).1
        cases input with
        | operate op =>
            simp only [guestWriteOf] at new
            split at new
            · rename_i emitted
              obtain rfl := List.mem_singleton.mp new
              exact (framed_of_operate sha256 running (UInt64.lt_iff_toNat_lt.mpr numbered) emitted).mono
                passed
            · cases new
        | _ => cases new

/-! ### The host writes of a run -/

/-- The host write of an input. -/
def hostWriteOf (link : WslLink) : LinkInput → List HostWrite
  | .hostEvent path isVmmemProcess bytesWritten => [⟨link.now, path, isVmmemProcess, bytesWritten⟩]
  | _ => []

/-- The host writes of a run, in order. -/
def hostWrites (clocks : LinkClocks) (sha256 : List UInt8 → Bytes 32) (d : Bytes 16) (w : UInt64)
    (inputs : List LinkInput) : List HostWrite :=
  handed (step clocks sha256) hostWriteOf (start clocks d w) inputs

theorem hostWrites_append (d : Bytes 16) (w : UInt64) (inputs : List LinkInput) (input : LinkInput) :
    hostWrites clocks sha256 d w (inputs ++ [input]) =
      hostWrites clocks sha256 d w inputs ++ hostWriteOf (after clocks sha256 d w inputs) input := by
  rw [hostWrites, handed_append]
  exact congrArg _ (List.append_nil _)

/-- The events handed to the correlator are those of the host writes, in order. -/
theorem recorded_of_run (d : Bytes 16) (w : UInt64) (inputs : List LinkInput) :
    WslCorrelator.recorded (calls clocks sha256 d w inputs) =
      (hostWrites clocks sha256 d w inputs).map (HostWrite.event clocks) := by
  induction inputs using List.reverseRecOn with
  | nil => rfl
  | append_singleton inputs input ih =>
      rw [calls_append, hostWrites_append, WslCorrelator.recorded, List.filterMap_append, List.map_append]
      change WslCorrelator.recorded _ ++ _ = _
      rw [ih]
      congr 1
      cases input with
      | complete challenge response =>
          simp only [correlatorCalls]
          split <;> rfl
      | deliver frame =>
          simp only [correlatorCalls]
          split
          · cases (GuestWriteRecord.fromFrame frame).ok? <;> rfl
          · rfl
      | _ => rfl

/-- A host write happens while the host's clock runs, and not after the end of the run. -/
theorem past_of_mem_hostWrites {d : Bytes 16} {w : UInt64} {inputs : List LinkInput} :
    ∀ write ∈ hostWrites clocks sha256 d w inputs,
      clocks.host ≤ write.instant ∧ write.instant ≤ (after clocks sha256 d w inputs).now := by
  induction inputs using List.reverseRecOn with
  | nil => rintro write ⟨⟩
  | append_singleton inputs input ih =>
      intro write member
      have passed : (after clocks sha256 d w inputs).now ≤
          (after clocks sha256 d w (inputs ++ [input])).now := now_le_append clocks sha256 d w inputs [input]
      rw [hostWrites_append] at member
      rcases List.mem_append.mp member with earlier | new
      · obtain ⟨running, past⟩ := ih write earlier
        exact ⟨running, Nat.le_trans past passed⟩
      · have running := (traffic_of_run clocks sha256 d w inputs).host
        cases input with
        | hostEvent path isVmmemProcess bytesWritten =>
            obtain rfl := List.mem_singleton.mp new
            exact ⟨running, passed⟩
        | _ => cases new

end Runs

/-! ### Readings and instants -/

section Readings

variable {clocks : LinkClocks} {w : UInt64} {written : GuestWrite} {write : HostWrite}
  {record : GuestWriteRecord} {estimate : ClockOffsetEstimate}

/-- The distance the correlator measures, in terms of the instants and the offset. -/
theorem distance_event (estimate : ClockOffsetEstimate) {now : Nat} (short : now < 2 ^ 62)
    (past : written.instant ≤ now) (running : clocks.source ≤ written.instant)
    (seen : clocks.host ≤ write.instant ∧ write.instant ≤ now)
    (reading : record.guestMonotonicNs = UInt64.ofNat (written.instant - clocks.source)) :
    WslCorrelator.distance record estimate (write.event clocks) =
      ((write.instant - clocks.host : Int) -
        (written.instant - clocks.source + estimate.offsetNs.toInt) % 2 ^ 64).natAbs := by
  have guest : record.guestMonotonicNs.toNat = written.instant - clocks.source := by
    rw [reading]
    exact UInt64.toNat_ofNat_of_lt' (by change written.instant - clocks.source < 2 ^ 64; omega)
  have host : (write.event clocks).hostTimestampNs.toNat = write.instant - clocks.host :=
    toNat_hostNs clocks write.instant (by omega)
  have guestInt : ((written.instant - clocks.source : Nat) : Int) = written.instant - clocks.source := by
    omega
  have hostInt : ((write.instant - clocks.host : Nat) : Int) = write.instant - clocks.host := by omega
  rw [WslCorrelator.distance, WslCorrelator.adjustedTime, guest, host, guestInt, hostInt]
  rfl

/-- A valid estimate without error is off by at most 50 ms and 1 ns. -/
theorem offset_of_valid (bounded : ClockHistory.ErrorBounded clocks.difference estimate)
    (certain : estimate.uncertaintyNs ≤ 50000000) :
    (estimate.offsetNs.toInt - (clocks.responder - clocks.host)).natAbs ≤ 50000001 := by
  have error := bounded.1
  have limit : estimate.uncertaintyNs.toNat ≤ 50000000 := UInt64.le_iff_toNat_le.mp certain
  rw [LinkClocks.difference] at error
  omega

/-- A reading near an adjusted time is near one that did not wrap. -/
theorem emod_of_near {reading adjusted : Int} {window : Nat} (inside : 0 ≤ reading ∧ reading < 2 ^ 62)
    (low : -2 ^ 63 ≤ adjusted) (high : adjusted < 2 ^ 64) (small : window ≤ 250000000)
    (near : (reading - adjusted % 2 ^ 64).natAbs ≤ window) : adjusted % 2 ^ 64 = adjusted := by
  rcases Int.lt_or_le adjusted 0 with negative | nonneg
  · have wrapped : adjusted % 2 ^ 64 = adjusted + 2 ^ 64 := by
      rw [← Int.add_emod_right]
      exact Int.emod_eq_of_lt (by omega) (by omega)
    rw [wrapped] at near
    omega
  · exact Int.emod_eq_of_lt nonneg high

section Near

variable {now : Nat} (short : now < 2 ^ 62) (past : written.instant ≤ now)
  (running : clocks.source ≤ written.instant) (answering : clocks.responder ≤ now)
  (seen : clocks.host ≤ write.instant ∧ write.instant ≤ now)
  (reading : record.guestMonotonicNs = UInt64.ofNat (written.instant - clocks.source))
  (path : record.normalizedPath = written.op.normalizedPath)
  (bounded : ClockHistory.ErrorBounded clocks.difference estimate)
  (certain : estimate.uncertaintyNs ≤ 50000000)

include short past running answering seen reading path bounded certain

/-- What is near enough matches. -/
theorem matches_of_surely (near : MatchesSurely clocks w written write) :
    WslCorrelator.Matches w record estimate (write.event clocks) := by
  obtain ⟨same, close, warm⟩ := near
  have offset := offset_of_valid bounded certain
  have measured := distance_event estimate short past running seen reading
  refine ⟨?_, ?_⟩
  · rw [WslCorrelator.windowsPath, path]
    exact same
  · rw [measured]
    unfold LinkClocks.tolerance windowOf apart at *
    omega

/-- What matches is near. -/
theorem possibly_of_matches (matched : WslCorrelator.Matches w record estimate (write.event clocks)) :
    MatchesPossibly clocks w written write := by
  obtain ⟨same, close⟩ := matched
  have offset := offset_of_valid bounded certain
  have measured := distance_event estimate short past running seen reading
  refine ⟨?_, ?_⟩
  · rw [WslCorrelator.windowsPath, path] at same
    exact same
  · rw [measured] at close
    have exactly := emod_of_near (by omega) (by omega) (by omega) (by omega) close
    rw [exactly] at close
    unfold LinkClocks.tolerance windowOf apart
    omega

end Near

end Readings

/-! ### The answer to a delivered frame -/

/-- The host writes that the correlator has not evicted. -/
def retained (clocks : LinkClocks) (sha256 : List UInt8 → Bytes 32) (d : Bytes 16) (w : UInt64)
    (inputs : List LinkInput) : List HostWrite :=
  (hostWrites clocks sha256 d w inputs).drop ((hostWrites clocks sha256 d w inputs).length - 1000)

section Answer

variable {clocks : LinkClocks} (sha256 : List UInt8 → Bytes 32)

/-- The candidates of a record are those of the retained host writes that match it. -/
theorem length_candidates (d : Bytes 16) (w : UInt64) (inputs : List LinkInput)
    (record : GuestWriteRecord) (estimate : ClockOffsetEstimate) :
    (WslCorrelator.candidates d w (calls clocks sha256 d w inputs) record estimate).length =
      (retained clocks sha256 d w inputs).countP
        fun write => decide (WslCorrelator.Matches w record estimate (write.event clocks)) := by
  have window := WslCorrelator.hostEvents_isWindow d w (calls clocks sha256 d w inputs)
  rw [IsWindow, recorded_of_run, List.length_map, ← List.map_drop] at window
  rw [WslCorrelator.candidates, window, WslCorrelator.matching, ← List.countP_eq_length_filter,
    List.countP_map]
  rfl

/-- The answer to the frame of an operation is the answer to a record of it. -/
theorem deliver_framed {d : Bytes 16} {w : UInt64} {inputs : List LinkInput} {written : GuestWrite}
    (member : written ∈ guestWrites clocks sha256 d w inputs) {record : GuestWriteRecord}
    (decoded : GuestWriteRecord.fromFrame written.frame = .ok record) :
    (step clocks sha256 (after clocks sha256 d w inputs) (.deliver written.frame)).1 =
      .attributed (.ok (WslCorrelator.answer d w (calls clocks sha256 d w inputs) record
        (clocks.hostNs (after clocks sha256 d w inputs).now))) := by
  have inFlight : written.frame ∈ (after clocks sha256 d w inputs).frames := by
    rw [frames_of_run]
    exact List.mem_map_of_mem member
  rw [step, deliver, if_pos inFlight, decoded, WslCorrelator.answer, ← correlator_of_run]

end Answer

/-- Attribution over an unreliable bridge, in runs of less than `2 ^ 62` ns. If no nonce is used twice, then
    in any order of the steps, and whatever is lost, delayed or delivered again, the frame of a guest
    operation decodes whenever it arrives, and is answered for the process and the path of that operation.
    Without a valid estimate the confidence is low. With one, it is decided by a number between two counts of
    the retained host writes on the path. The upper one takes those within the window and what the clocks can
    add. The lower one takes those within the window by at least what the clocks can add, and of these only
    the ones that came when the host's clock had run for a window: before that the translated time of the
    operation may be negative and wrap around, and then a near write is missed. -/
theorem attribution_of_run (clocks : LinkClocks) (sha256 : List UInt8 → Bytes 32) (d : Bytes 16)
    (w : UInt64) (inputs : List LinkInput) (fresh : (nonces inputs).Nodup)
    (short : (after clocks sha256 d w inputs).now < 2 ^ 62) (few : inputs.length < 2 ^ 64 - 1)
    (written : GuestWrite) (member : written ∈ guestWrites clocks sha256 d w inputs) :
    let link := after clocks sha256 d w inputs
    let offered := link.correlator.clockSync.getValidEstimate (clocks.hostNs link.now)
    ∃ result, (step clocks sha256 link (.deliver written.frame)).1 = .attributed (.ok result) ∧
      result.guestProcessId = written.op.pid ∧ result.normalizedPath = written.op.normalizedPath ∧
      (result.allowPidEnforcement = true ↔ result.confidence = .high) ∧
      (offered = none → result.confidence = .low) ∧
      (offered.isSome = true → ∃ count,
        (retained clocks sha256 d w inputs).countP (fun write => decide
          (MatchesSurely clocks w written write)) ≤ count ∧
        count ≤ (retained clocks sha256 d w inputs).countP (fun write => decide
          (MatchesPossibly clocks w written write)) ∧
        (result.confidence = .low ↔ count = 0) ∧ (result.confidence = .high ↔ count = 1)) := by
  intro link offered
  obtain ⟨running, past, record, decoded, reading, path, pid⟩ := framed_of_run sha256 few written member
  have answering := (traffic_of_run clocks sha256 d w inputs).responder
  have estimated : offered = WslCorrelator.estimateAt d w (calls clocks sha256 d w inputs)
      (clocks.hostNs link.now) := by
    rw [WslCorrelator.estimateAt, ← correlator_of_run]
  refine ⟨_, deliver_framed sha256 member decoded, pid, path, WslCorrelator.answer_allow_iff .., ?_, ?_⟩
  · intro none
    rw [estimated] at none
    apply (WslCorrelator.answer_low_iff ..).mpr
    intro estimate valid
    rw [none] at valid
    cases valid
  · intro some
    obtain ⟨estimate, valid⟩ := Option.isSome_iff_exists.mp some
    have certain := WslCorrelator.uncertainty_of_valid valid
    have bounded := currentEstimate_of_run sha256 d w fresh short
      (ClockSynchronizer.getValidEstimate_eq_some.mp valid).1
    have seen : ∀ write ∈ retained clocks sha256 d w inputs,
        clocks.host ≤ write.instant ∧ write.instant ≤ link.now :=
      fun write kept => past_of_mem_hostWrites sha256 write (List.mem_of_mem_drop kept)
    rw [estimated] at valid
    refine ⟨(WslCorrelator.candidates d w (calls clocks sha256 d w inputs) record estimate).length,
      ?_, ?_, ?_, ?_⟩
    · rw [length_candidates]
      apply List.countP_mono_left
      intro write kept near
      exact decide_eq_true (matches_of_surely short past running answering (seen write kept) reading path
        bounded certain (of_decide_eq_true near))
    · rw [length_candidates]
      apply List.countP_mono_left
      intro write kept matched
      exact decide_eq_true (possibly_of_matches short past running answering (seen write kept) reading
        path bounded certain (of_decide_eq_true matched))
    · rw [WslCorrelator.answer_low_iff, List.length_eq_zero_iff]
      constructor
      · intro none
        exact none estimate valid
      · intro empty other valid'
        rw [Option.some.inj (valid'.symm.trans valid)]
        exact empty
    · rw [WslCorrelator.answer_high_iff]
      constructor
      · rintro ⟨other, valid', single⟩
        rwa [Option.some.inj (valid'.symm.trans valid)] at single
      · intro single
        exact ⟨estimate, valid, single⟩

/-- A run in which a guest process writes to drive C, and the host sees the write 10 ms later. -/
def sampleWrites : List LinkInput :=
  sampleRun ++ [
    .operate
      { pid := 4242
        executablePath := "/usr/bin/python3"
        normalizedPath := "/mnt/c/data.txt"
        operation := .write
        byteRangeStart := 0
        byteRangeLength := 4096
        elapsedNs := 0
        sinceEpochNs := none },
    .wait 10000000,
    .hostEvent "c:\\DATA.txt" true 4096,
    .wait 500000000]

/-- The write of the sample run is attributed to its process, with high confidence. -/
theorem sampleWrites_attributed :
    let sha256 : List UInt8 → Bytes 32 := fun _ => Bytes.replicate 32 0
    let d := Bytes.replicate 16 7
    (guestWrites sampleClocks sha256 d 250 sampleWrites).length = 1 ∧
      ∀ written ∈ guestWrites sampleClocks sha256 d 250 sampleWrites, ∃ result,
        (step sampleClocks sha256 (after sampleClocks sha256 d 250 sampleWrites)
          (.deliver written.frame)).1 = .attributed (.ok result) ∧
        result.guestProcessId = 4242 ∧ result.confidence = .high := by
  intro sha256 d
  refine ⟨by decide +kernel, ?_⟩
  intro written member
  have counts : ∀ written ∈ guestWrites sampleClocks sha256 d 250 sampleWrites,
      written.op.pid = 4242 ∧
      (retained sampleClocks sha256 d 250 sampleWrites).countP
        (fun write => decide (MatchesSurely sampleClocks 250 written write)) = 1 ∧
      (retained sampleClocks sha256 d 250 sampleWrites).countP
        (fun write => decide (MatchesPossibly sampleClocks 250 written write)) = 1 := by
    decide +kernel
  obtain ⟨pid, surely, possibly⟩ := counts written member
  obtain ⟨result, replied, process, _, _, _, decided⟩ :=
    attribution_of_run sampleClocks sha256 d 250 sampleWrites (by decide) (by decide +kernel) (by decide)
      written member
  obtain ⟨count, above, below, _, high⟩ := decided (by decide +kernel)
  rw [surely] at above
  rw [possibly] at below
  exact ⟨result, replied, process.trans pid, high.mpr (Nat.le_antisymm below above)⟩

end WslLink

end KavachNpu

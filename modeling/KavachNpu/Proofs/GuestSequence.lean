/-
Module: KavachNpu.Proofs.GuestSequence
Layer: Proofs
Purpose: The sequence numbers the host sees. The source numbers a record before it is framed, and framing
  refuses paths of more than 4096 bytes that the source accepts: a run arrives complete and gap-free if and
  only if no such path occurs in it, and the counter does not wrap.
Trusted boundary: none
Main exports: GuestSequence.emit, GuestSequence.GapFree, GuestSequence.gapFree_iff
-/
import Mathlib.Data.List.Induction
import KavachNpu.Foundation.Trace
import KavachNpu.Proofs.GuestFrameCodec
import KavachNpu.WslGuest.AuditSource

namespace KavachNpu

namespace GuestSequence

open GuestAuditSource GuestWriteRecord

section Agent

variable (sha256 : List UInt8 → Bytes 32)

/-- The agent makes the record of an operation and frames it. -/
def emit (source : GuestAuditSource) (op : GuestOperation) :
    Outcome String (GuestWriteRecord × List UInt8) × GuestAuditSource :=
  let reply := source.recordOperation sha256 op
  (reply.1 >>= fun record => (prepareWireFrame record).map fun frame => (record, frame), reply.2)

/-- The source after a run. -/
def sourceAfter (d : Bytes 16) (ops : List GuestOperation) : GuestAuditSource :=
  final (emit sha256) (GuestAuditSource.new d) ops

/-- The records and frames that a run produces, in order. -/
def sent (d : Bytes 16) (ops : List GuestOperation) : List (GuestWriteRecord × List UInt8) :=
  (trace (emit sha256) (GuestAuditSource.new d) ops).filterMap fun entry => entry.2.ok?

/-- The run arrives complete and gap-free: every frame decodes to its record, the decoded sequence numbers
    are 1, 2, 3, ..., and an operation without a frame consumes no number. -/
structure GapFree (d : Bytes 16) (ops : List GuestOperation) : Prop where
  decodes : ∀ p ∈ sent sha256 d ops, fromFrame p.2 = .ok p.1
  numbered : ((sent sha256 d ops).map fun p => (fromFrame p.2).map fun r => r.sequenceNumber.toNat) =
    (List.range' 1 (sent sha256 d ops).length).map .ok
  unconsumed : ∀ before op after, ops = before ++ op :: after →
    (emit sha256 (sourceAfter sha256 d before) op).1.isOk = false →
      (emit sha256 (sourceAfter sha256 d before) op).2.sequenceNumber =
        (sourceAfter sha256 d before).sequenceNumber

/-- The source accepts the path of the operation. -/
def Numbered (op : GuestOperation) : Bool :=
  isNormalizedMntPath op.normalizedPath

/-- The path of the operation fits in a frame. -/
def Fits (op : GuestOperation) : Prop :=
  (asBytes op.normalizedPath).length ≤ 4096

/-! ### One operation -/

section Step

variable (source : GuestAuditSource) {op : GuestOperation}

theorem emit_of_rejected (rejected : Numbered op = false) :
    (emit sha256 source op).1.isOk = false ∧ (emit sha256 source op).2 = source := by
  unfold Numbered at rejected
  simp [emit, recordOperation, rejected]

/-- The record of an accepted path. -/
theorem recordOperation_of_numbered (accepted : Numbered op = true) :
    ∃ record, source.recordOperation sha256 op =
        (.ok record, { source with sequenceCounter := source.sequenceCounter + 1 }) ∧
      record.version.major = 1 ∧ record.flags = 0 ∧ record.normalizedPath = op.normalizedPath ∧
      record.sequenceNumber = source.sequenceCounter := by
  unfold Numbered at accepted
  simp only [recordOperation, accepted, Bool.not_true, Bool.false_eq_true, if_false]
  exact ⟨_, rfl, rfl, rfl, rfl, rfl⟩

/-- The source numbers an accepted path, whether or not it can be framed. -/
theorem sequenceCounter_emit_of_numbered (accepted : Numbered op = true) :
    (emit sha256 source op).2 = { source with sequenceCounter := source.sequenceCounter + 1 } := by
  obtain ⟨record, recorded, _⟩ := recordOperation_of_numbered sha256 source accepted
  simp [emit, recorded]

theorem prepareWireFrame_eq_ok {record : GuestWriteRecord} {frame : List UInt8} :
    prepareWireFrame record = .ok frame ↔ record.toFrame = .ok frame := by
  unfold prepareWireFrame
  cases record.toFrame with
  | ok value => simp
  | err error => simp
  | panicked cause => simp

/-- An accepted path that is too long gets no frame. -/
theorem emit_of_long (accepted : Numbered op = true) (long : ¬ Fits op) :
    (emit sha256 source op).1.isOk = false := by
  obtain ⟨record, recorded, _, _, path, _⟩ :=
    recordOperation_of_numbered sha256 source accepted
  have refused : ∀ frame, prepareWireFrame record ≠ .ok frame := by
    intro frame framed
    obtain ⟨_, short, _⟩ := toFrame_eq_ok.mp (prepareWireFrame_eq_ok.mp framed)
    rw [path] at short
    exact long short
  simp only [emit, recorded, Outcome.ok_bind, Outcome.isOk_map]
  rw [Bool.eq_false_iff]
  intro framed
  obtain ⟨frame, isFrame⟩ := Outcome.isOk_iff.mp framed
  exact refused frame isFrame

/-- Any other accepted path is framed under the next number, and decodes unless that number is zero. -/
theorem emit_of_short (accepted : Numbered op = true) (short : Fits op) :
    ∃ record frame, (emit sha256 source op).1 = .ok (record, frame) ∧
      record.sequenceNumber = source.sequenceCounter ∧
      (0 < source.sequenceCounter → fromFrame frame = .ok record) := by
  obtain ⟨record, recorded, major, flags, path, number⟩ :=
    recordOperation_of_numbered sha256 source accepted
  have fits : (asBytes record.normalizedPath).length ≤ 4096 := by
    rw [path]
    exact short
  have normalized : isNormalizedMntPath record.normalizedPath = true := by
    rw [path]
    exact accepted
  obtain ⟨frame, framed⟩ : ∃ frame, record.toFrame = .ok frame :=
    ⟨_, toFrame_eq_ok.mpr ⟨normalized, fits, rfl⟩⟩
  refine ⟨record, frame, ?_, number, ?_⟩
  · simp only [emit, recorded, Outcome.ok_bind, prepareWireFrame_eq_ok.mpr framed, Outcome.map_ok]
  · intro positive
    rw [← number] at positive
    exact fromFrame_of_toFrame ⟨major, positive, flags, normalized, fits⟩ framed

end Step

/-! ### Whole runs -/

/-- The counter counts the accepted paths, modulo 2^64. -/
theorem sequenceCounter_of_run (d : Bytes 16) (ops : List GuestOperation) :
    (sourceAfter sha256 d ops).sequenceCounter = UInt64.ofNat (1 + ops.countP Numbered) := by
  induction ops using List.reverseRecOn with
  | nil => rfl
  | append_singleton ops op ih =>
      have step : sourceAfter sha256 d (ops ++ [op]) = (emit sha256 (sourceAfter sha256 d ops) op).2 :=
        final_append ..
      rw [step, List.countP_append, List.countP_singleton]
      cases accepted : Numbered op with
      | true =>
          rw [sequenceCounter_emit_of_numbered sha256 _ accepted]
          simp only [ih, if_true, ← Nat.add_assoc, UInt64.ofNat_add]
          rfl
      | false =>
          rw [(emit_of_rejected sha256 _ accepted).2]
          simpa using ih

/-- What a run sends grows by the frame of the last operation, if it has one. -/
theorem sent_append (d : Bytes 16) (ops : List GuestOperation) (op : GuestOperation) :
    sent sha256 d (ops ++ [op]) =
      sent sha256 d ops ++ (emit sha256 (sourceAfter sha256 d ops) op).1.ok?.toList := by
  unfold sent
  rw [trace_append, List.filterMap_append]
  congr 1

/-- If all accepted paths fit, each of them is sent. -/
theorem length_sent (d : Bytes 16) {ops : List GuestOperation}
    (fit : ∀ op ∈ ops, Numbered op = true → Fits op) :
    (sent sha256 d ops).length = ops.countP Numbered := by
  induction ops using List.reverseRecOn with
  | nil => rfl
  | append_singleton ops op ih =>
      have earlier := ih fun other member => fit other (List.mem_append_left _ member)
      rw [sent_append, List.length_append, earlier, List.countP_append, List.countP_singleton]
      cases accepted : Numbered op with
      | true =>
          obtain ⟨record, frame, framed, _⟩ := emit_of_short sha256
            (sourceAfter sha256 d ops) accepted (fit op (by simp) accepted)
          rw [framed]
          rfl
      | false =>
          have refused := (emit_of_rejected sha256 (sourceAfter sha256 d ops) accepted).1
          rw [Outcome.ok?_eq_none.mpr refused]
          rfl

/-- Below 2^64 accepted paths, all of which fit, every frame decodes, and the numbers are consecutive. -/
theorem decoded_of_run (d : Bytes 16) {ops : List GuestOperation}
    (fit : ∀ op ∈ ops, Numbered op = true → Fits op) (few : ops.countP Numbered < 2 ^ 64) :
    (∀ p ∈ sent sha256 d ops, fromFrame p.2 = .ok p.1) ∧
      (sent sha256 d ops).map (fun p => p.1.sequenceNumber.toNat) =
        List.range' 1 (ops.countP Numbered) := by
  induction ops using List.reverseRecOn with
  | nil => exact ⟨by simp [sent, trace], rfl⟩
  | append_singleton ops op ih =>
      rw [List.countP_append, List.countP_singleton] at few ⊢
      obtain ⟨decodes, numbered⟩ := ih (fun other member => fit other (List.mem_append_left _ member))
        (Nat.lt_of_le_of_lt (Nat.le_add_right ..) few)
      rw [sent_append]
      cases accepted : Numbered op with
      | true =>
          obtain ⟨record, frame, framed, number, decoded⟩ := emit_of_short sha256
            (sourceAfter sha256 d ops) accepted (fit op (by simp) accepted)
          simp only [accepted, if_true] at few
          have counter : (sourceAfter sha256 d ops).sequenceCounter.toNat = 1 + ops.countP Numbered := by
            rw [sequenceCounter_of_run]
            apply UInt64.toNat_ofNat_of_lt'
            change 1 + ops.countP Numbered < 2 ^ 64
            omega
          have positive : 0 < (sourceAfter sha256 d ops).sequenceCounter := by
            rw [UInt64.lt_iff_toNat_lt, counter]
            exact Nat.lt_of_lt_of_le Nat.zero_lt_one (Nat.le_add_right ..)
          rw [framed]
          refine ⟨?_, ?_⟩
          · intro p member
            rcases List.mem_append.mp member with early | last
            · exact decodes p early
            · rw [List.mem_singleton.mp last]
              exact decoded positive
          · rw [List.map_append, numbered, if_pos rfl, List.range'_concat, Nat.one_mul, ← counter,
              ← number]
            rfl
      | false =>
          have refused := (emit_of_rejected sha256 (sourceAfter sha256 d ops) accepted).1
          rw [Outcome.ok?_eq_none.mpr refused, Option.toList_none, List.append_nil]
          exact ⟨decodes, numbered⟩

/-- The number of a long path is lost: its operation fails and consumes a number all the same. -/
theorem consumed_of_long (d : Bytes 16) (before : List GuestOperation) {op : GuestOperation}
    (accepted : Numbered op = true) (long : ¬ Fits op) :
    (emit sha256 (sourceAfter sha256 d before) op).1.isOk = false ∧
      (emit sha256 (sourceAfter sha256 d before) op).2.sequenceNumber ≠
        (sourceAfter sha256 d before).sequenceNumber := by
  refine ⟨emit_of_long sha256 _ accepted long, ?_⟩
  rw [sequenceCounter_emit_of_numbered sha256 _ accepted]
  intro same
  have zero : (1 : UInt64) = 0 := UInt64.add_eq_left.mp same
  exact absurd zero (by decide)

/-- When the frames arrive complete and gap-free. For every sequence of operations on a new source, every
    frame decodes to its record, the decoded numbers are 1, 2, 3, ... and no failed operation consumes a
    number, if and only if every path the source accepts has at most 4096 bytes, and it accepts fewer than
    2^64 of them. -/
theorem gapFree_iff (d : Bytes 16) (ops : List GuestOperation) :
    GapFree sha256 d ops ↔
      (∀ op ∈ ops, isNormalizedMntPath op.normalizedPath = true →
        (asBytes op.normalizedPath).length ≤ 4096) ∧
      ops.countP (fun op => isNormalizedMntPath op.normalizedPath) < 2 ^ 64 := by
  change GapFree sha256 d ops ↔
    (∀ op ∈ ops, Numbered op = true → Fits op) ∧ ops.countP Numbered < 2 ^ 64
  constructor
  · intro gapFree
    have fit : ∀ op ∈ ops, Numbered op = true → Fits op := by
      intro op member accepted
      by_contra long
      obtain ⟨before, after, split⟩ := List.append_of_mem member
      obtain ⟨failed, consumed⟩ := consumed_of_long sha256 d before accepted long
      exact consumed (gapFree.unconsumed before op after split failed)
    refine ⟨fit, ?_⟩
    by_contra! many
    -- a decoded number fits in 64 bits, so 2^64 is none of them
    have next : 2 ^ 64 ∈ List.range' 1 (sent sha256 d ops).length := by
      rw [length_sent sha256 d fit, List.mem_range'_1]
      omega
    have counted : (.ok (2 ^ 64) : Outcome VsockWireError Nat) ∈
        (List.range' 1 (sent sha256 d ops).length).map .ok := List.mem_map_of_mem next
    rw [← gapFree.numbered] at counted
    obtain ⟨p, inside, decoded⟩ := List.mem_map.mp counted
    rw [gapFree.decodes p inside] at decoded
    have number : p.1.sequenceNumber.toNat = 2 ^ 64 := Outcome.ok.inj decoded
    have small := p.1.sequenceNumber.toNat_lt
    omega
  · rintro ⟨fit, few⟩
    obtain ⟨decodes, numbered⟩ := decoded_of_run sha256 d fit few
    refine ⟨decodes, ?_, ?_⟩
    · rw [length_sent sha256 d fit, ← numbered, List.map_map]
      apply List.map_congr_left
      intro p inside
      rw [decodes p inside]
      rfl
    · intro before op after split failed
      have member : op ∈ ops := by simp [split]
      cases accepted : Numbered op with
      | true =>
          obtain ⟨record, frame, framed, _⟩ := emit_of_short sha256
            (sourceAfter sha256 d before) accepted (fit op member accepted)
          rw [framed] at failed
          cases failed
      | false => rw [(emit_of_rejected sha256 _ accepted).2]

end Agent

/-- A path of 4103 bytes. -/
def longPath : String :=
  String.ofList ("/mnt/c/".toList ++ List.replicate 4096 'a')

/-- A write to the path by process 7. -/
def sampleOperation (path : String) : GuestOperation :=
  ⟨7, "/bin/sh", path, .write, 0, 1, 1000, some 2000⟩

theorem longPath_numbered : Numbered (sampleOperation longPath) = true := by
  unfold Numbered sampleOperation longPath isNormalizedMntPath
  simp only [String.toList_ofList]
  decide +kernel

theorem longPath_long : ¬ Fits (sampleOperation longPath) := by
  have long := length_le_length_asBytes ("/mnt/c/".toList ++ List.replicate 4096 'a')
  have start : "/mnt/c/".toList.length = 7 := by decide
  rw [List.length_append, List.length_replicate, start] at long
  exact Nat.not_le.mpr (Nat.lt_of_lt_of_le (by decide) long)

/-- After a single operation on a long path, nothing is sent and the next number is 2. -/
theorem sent_after_long (sha256 : List UInt8 → Bytes 32) (d : Bytes 16) {op : GuestOperation}
    (accepted : Numbered op = true) (long : ¬ Fits op) (next : GuestOperation) :
    sent sha256 d [op, next] = (emit sha256 ⟨d, 2⟩ next).1.ok?.toList := by
  have refused := emit_of_long sha256 (GuestAuditSource.new d) accepted long
  have counter := sequenceCounter_emit_of_numbered sha256 (GuestAuditSource.new d) accepted
  have first : sent sha256 d [op] = [] := by
    rw [← List.nil_append [op], sent_append]
    change [] ++ (emit sha256 (GuestAuditSource.new d) op).1.ok?.toList = []
    rw [Outcome.ok?_eq_none.mpr refused]
    rfl
  have second : sent sha256 d [op, next] =
      sent sha256 d [op] ++ (emit sha256 (sourceAfter sha256 d [op]) next).1.ok?.toList :=
    sent_append sha256 d [op] next
  have source : sourceAfter sha256 d [op] = ⟨d, 2⟩ := counter
  rw [second, first, source, List.nil_append]

/-- A write to the long path, and then to a short one: the host receives one frame, with number 2. -/
theorem long_path_leaves_gap :
    ((sent (fun _ => Bytes.replicate 32 0) (Bytes.replicate 16 0x42)
        [sampleOperation longPath, sampleOperation "/mnt/c/a"]).map fun p =>
          (fromFrame p.2).map fun r => r.sequenceNumber.toNat) = [.ok 2] ∧
      ¬ GapFree (fun _ => Bytes.replicate 32 0) (Bytes.replicate 16 0x42)
        [sampleOperation longPath, sampleOperation "/mnt/c/a"] := by
  have received : ((sent (fun _ => Bytes.replicate 32 0) (Bytes.replicate 16 0x42)
      [sampleOperation longPath, sampleOperation "/mnt/c/a"]).map fun p =>
        (fromFrame p.2).map fun r => r.sequenceNumber.toNat) = [.ok 2] := by
    rw [sent_after_long _ _ longPath_numbered longPath_long]
    decide +kernel
  refine ⟨received, ?_⟩
  intro gapFree
  obtain ⟨failed, consumed⟩ := consumed_of_long (fun _ => Bytes.replicate 32 0) (Bytes.replicate 16 0x42)
    [] longPath_numbered longPath_long
  exact consumed (gapFree.unconsumed [] _ _ rfl failed)

end GuestSequence

end KavachNpu

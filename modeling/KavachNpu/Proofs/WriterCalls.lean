/-
Module: KavachNpu.Proofs.WriterCalls
Layer: Proofs
Purpose: Messages written call by call, nested to any depth. What a reader of the wire format finds in the
  bytes is the sequence of the calls, and in the payload of a nested message the calls on its own writer.
Trusted boundary: none
Main exports: WriteCall, WriterOps, performAll, Nested, ReadBack, reads_performAll,
  written_calls_read_back
-/
import KavachNpu.Proofs.OnnxBuilders

namespace KavachNpu

namespace WriterCalls

/-! ### Calls -/

/-- A field number of the wire format. -/
structure FieldNumber where
  value : UInt32
  valid : IsFieldNumber value.toNat

/-- A call of a writer. A nested message is given by the calls on its own writer. -/
inductive WriteCall where
  | int64 (number : FieldNumber) (val : Int64)
  | string (number : FieldNumber) (s : String)
  | message (number : FieldNumber) (sub : List WriteCall)

/-- The functions of a writer that the calls stand for. -/
structure WriterOps (W : Type) where
  empty : W
  writeInt64 : W → UInt32 → Int64 → W
  writeString : W → UInt32 → String → W
  writeMessage : W → UInt32 → W → W

/-- The writer of the core crate. -/
def coreOps : WriterOps ProtoWriter :=
  { empty := ProtoWriter.empty
    writeInt64 := ProtoWriter.writeInt64
    writeString := ProtoWriter.writeString
    writeMessage := ProtoWriter.writeMessage }

/-- The writer of the packer. -/
def packerOps : WriterOps OnnxBuilder.ProtoWriter :=
  { empty := OnnxBuilder.ProtoWriter.new
    writeInt64 := OnnxBuilder.ProtoWriter.writeInt64
    writeString := OnnxBuilder.ProtoWriter.writeString
    writeMessage := OnnxBuilder.ProtoWriter.writeMessage }

section Perform

variable {W : Type}

mutual

/-- One call. -/
def perform (ops : WriterOps W) (w : W) : WriteCall → W
  | .int64 number val => ops.writeInt64 w number.value val
  | .string number s => ops.writeString w number.value s
  | .message number sub => ops.writeMessage w number.value (performAll ops ops.empty sub)

/-- A sequence of calls. -/
def performAll (ops : WriterOps W) (w : W) : List WriteCall → W
  | [] => w
  | call :: calls => performAll ops (perform ops w call) calls

end

end Perform

/-- The message that the core crate's writer writes. -/
def coreBytes (calls : List WriteCall) : List UInt8 :=
  (performAll coreOps coreOps.empty calls).bytes

/-- The message that the packer's writer writes. -/
def packerBytes (calls : List WriteCall) : List UInt8 :=
  (performAll packerOps packerOps.empty calls).bytes

/-! ### What is to be read -/

/-- The record of a call: an integer in two's complement, a string and a nested message byte for byte. -/
def record (bytes : List WriteCall → List UInt8) : WriteCall → WireField
  | .int64 number val => ⟨number.value.toNat, .varint (UInt64.ofInt val.toInt)⟩
  | .string number s => ⟨number.value.toNat, .len (asBytes s)⟩
  | .message number sub => ⟨number.value.toNat, .len (bytes sub)⟩

/-- The messages inside a message, itself included. -/
inductive Nested : List WriteCall → List WriteCall → Prop where
  | whole (calls : List WriteCall) : Nested calls calls
  | inside {calls sub inner : List WriteCall} {number : FieldNumber}
      (member : WriteCall.message number sub ∈ calls) (nested : Nested sub inner) : Nested calls inner

/-- The message and every message inside it are read as the records of their calls, in order. -/
def ReadBack (bytes : List WriteCall → List UInt8) (calls : List WriteCall) : Prop :=
  ∀ inner, Nested calls inner → readFields (bytes inner) = some (inner.map (record bytes))

/-! ### Reading a sequence of calls -/

/-- The cast of the writer keeps the two's complement. -/
theorem toUInt64_eq_ofInt (val : Int64) : val.toUInt64 = UInt64.ofInt val.toInt := by
  apply UInt64.toNat_inj.mp
  have signed := BitVec.toInt_eq_toNat_cond val.toBitVec
  have bound := val.toUInt64.toNat_lt
  change val.toUInt64.toNat = _
  have same : val.toBitVec.toNat = val.toUInt64.toNat := rfl
  have value : val.toInt = val.toBitVec.toInt := rfl
  unfold UInt64.ofInt
  rw [UInt64.toNat_ofNat', value, signed, same]
  split
  · omega
  · omega

/-- What a call writes behind a length. -/
def payload : WriteCall → List UInt8
  | .int64 _ _ => []
  | .string _ s => asBytes s
  | .message _ sub => coreBytes sub

/-- One call adds its record. -/
theorem reads_perform {w : ProtoWriter} {fields : List WireField} (reads : w.Reads fields)
    {call : WriteCall} (fits : FitsLength (payload call)) :
    (perform coreOps w call).Reads (fields ++ [record coreBytes call]) := by
  cases call with
  | int64 number val =>
      rw [perform, record, ← toUInt64_eq_ofInt]
      exact reads.writeInt64 number.value number.valid val
  | string number s =>
      rw [perform, record]
      exact reads.writeString number.value s number.valid fits
  | message number sub =>
      rw [perform, record]
      exact reads.writeMessage number.value _ number.valid fits

/-- A sequence of calls adds their records, in order. -/
theorem reads_performAll {w : ProtoWriter} {fields : List WireField} (reads : w.Reads fields)
    {calls : List WriteCall} (fits : ∀ call ∈ calls, FitsLength (payload call)) :
    (performAll coreOps w calls).Reads (fields ++ calls.map (record coreBytes)) := by
  induction calls generalizing w fields with
  | nil =>
      rw [performAll, List.map_nil, List.append_nil]
      exact reads
  | cons call calls ih =>
      have step := reads_perform reads (fits call List.mem_cons_self)
      rw [performAll, List.map_cons, List.append_cons]
      exact ih step fun other member => fits other (List.mem_cons_of_mem call member)

/-! ### Lengths -/

/-- A call keeps what was written, and writes its payload. -/
theorem length_le_perform (w : ProtoWriter) (call : WriteCall) :
    w.bytes.length + (payload call).length ≤ (perform coreOps w call).bytes.length := by
  cases call with
  | int64 number val =>
      rw [perform]
      change _ ≤ (w.writeInt64 number.value val).bytes.length
      rw [ProtoWriter.bytes_writeInt64, List.length_append]
      exact Nat.add_le_add_left (Nat.zero_le _) _
  | string number s =>
      rw [perform]
      exact ProtoWriter.length_add_le_writeDelimited w number.value (asBytes s)
  | message number sub =>
      rw [perform]
      exact ProtoWriter.length_add_le_writeDelimited w number.value (coreBytes sub)

theorem length_le_performAll (w : ProtoWriter) (calls : List WriteCall) :
    w.bytes.length ≤ (performAll coreOps w calls).bytes.length := by
  induction calls generalizing w with
  | nil =>
      rw [performAll]
  | cons call calls ih =>
      have step := length_le_perform w call
      rw [performAll]
      exact Nat.le_trans (Nat.le_trans (Nat.le_add_right _ _) step) (ih (perform coreOps w call))

/-- No payload is longer than the message it is in. -/
theorem length_payload_le {calls : List WriteCall} {call : WriteCall} (member : call ∈ calls)
    (w : ProtoWriter) : (payload call).length ≤ (performAll coreOps w calls).bytes.length := by
  induction calls generalizing w with
  | nil => cases member
  | cons first calls ih =>
      rw [performAll]
      rcases List.mem_cons.mp member with rfl | later
      · have step := length_le_perform w call
        have rest := length_le_performAll (perform coreOps w call) calls
        omega
      · exact ih later (perform coreOps w first)

/-- If the length of a message is a 64-bit number, so are those of its payloads. -/
theorem fits_payload {calls : List WriteCall} (fits : FitsLength (coreBytes calls)) {call : WriteCall}
    (member : call ∈ calls) : FitsLength (payload call) :=
  Nat.lt_of_le_of_lt (length_payload_le member coreOps.empty) fits

theorem fits_nested {calls inner : List WriteCall} (nested : Nested calls inner)
    (fits : FitsLength (coreBytes calls)) : FitsLength (coreBytes inner) := by
  induction nested with
  | whole calls => exact fits
  | inside member nested ih => exact ih (fits_payload fits member)

/-- The records of one message. -/
theorem readFields_coreBytes {calls : List WriteCall} (fits : FitsLength (coreBytes calls)) :
    readFields (coreBytes calls) = some (calls.map (record coreBytes)) :=
  reads_performAll ProtoWriter.Reads.empty fun _ member => fits_payload fits member

/-! ### The packer's writer -/

mutual

/-- A call of the packer's writer, as the call of the core crate's. -/
theorem toCore_perform (w : OnnxBuilder.ProtoWriter) :
    ∀ call, (perform packerOps w call).toCore = perform coreOps w.toCore call
  | .int64 number val => by
      rw [perform, perform]
      exact OnnxBuilder.ProtoWriter.toCore_writeInt64 w number.value val
  | .string number s => by
      rw [perform, perform]
      exact OnnxBuilder.ProtoWriter.toCore_writeString w number.value s
  | .message number sub => by
      have nested := toCore_performAll packerOps.empty sub
      rw [perform, perform]
      change (w.writeMessage number.value (performAll packerOps packerOps.empty sub)).toCore = _
      rw [OnnxBuilder.ProtoWriter.toCore_writeMessage, nested]
      rfl

theorem toCore_performAll (w : OnnxBuilder.ProtoWriter) :
    ∀ calls, (performAll packerOps w calls).toCore = performAll coreOps w.toCore calls
  | [] => by
      rw [performAll, performAll]
  | call :: calls => by
      rw [performAll, performAll, toCore_performAll (perform packerOps w call) calls,
        toCore_perform w call]

end

/-- Both writers write the same message. -/
theorem packerBytes_eq : packerBytes = coreBytes := by
  funext calls
  exact OnnxBuilder.bytes_eq_of_toCore (toCore_performAll packerOps.empty calls)

/-! ### Main result -/

/-- Whatever is written with calls on either writer, and however deep its messages are nested, is read
    back as the sequence of the calls; every varint in it has one to ten bytes. The length of the whole
    message is a 64-bit number, as that of every vector is. -/
theorem written_calls_read_back (calls : List WriteCall) (fits : FitsLength (coreBytes calls)) :
    ReadBack coreBytes calls ∧ ReadBack packerBytes calls ∧
    (∀ (w : ProtoWriter) (value : UInt64), ∃ digits, (w.writeVarint value).bytes = w.bytes ++ digits ∧
      1 ≤ digits.length ∧ digits.length ≤ 10) ∧
    ∀ (w : OnnxBuilder.ProtoWriter) (value : UInt64), ∃ digits,
      (w.writeVarint value).bytes = w.bytes ++ digits ∧ 1 ≤ digits.length ∧ digits.length ≤ 10 := by
  have core : ReadBack coreBytes calls := by
    intro inner nested
    exact readFields_coreBytes (fits_nested nested fits)
  refine ⟨core, ?_, ?_, ?_⟩
  · rw [packerBytes_eq]
    exact core
  · intro w value
    exact ⟨varintLoop 9 value, rfl, length_varintLoop value⟩
  · intro w value
    refine ⟨OnnxBuilder.varintLoop 9 value, rfl, ?_⟩
    rw [OnnxBuilder.varintLoop_eq_core]
    exact length_varintLoop value

/-- A negative integer, a string and two nested messages, the outer one with the largest field number. -/
def sampleCalls : List WriteCall :=
  [.int64 ⟨1, by decide⟩ (-1), .string ⟨2, by decide⟩ "to",
    .message ⟨536870911, by decide⟩ [.message ⟨1, by decide⟩ [.int64 ⟨3, by decide⟩ 300]]]

theorem sampleCalls_read_back :
    readFields (coreBytes sampleCalls) = some [⟨1, .varint 0xFFFFFFFFFFFFFFFF⟩, ⟨2, .len [0x74, 0x6F]⟩,
      ⟨536870911, .len [0x0A, 0x03, 0x18, 0xAC, 0x02]⟩] ∧
    ReadBack coreBytes sampleCalls ∧ ReadBack packerBytes sampleCalls := by
  have fits : FitsLength (coreBytes sampleCalls) := by decide
  obtain ⟨core, packer, -⟩ := written_calls_read_back sampleCalls fits
  have records : sampleCalls.map (record coreBytes) = [⟨1, .varint 0xFFFFFFFFFFFFFFFF⟩,
      ⟨2, .len [0x74, 0x6F]⟩, ⟨536870911, .len [0x0A, 0x03, 0x18, 0xAC, 0x02]⟩] := by
    decide
  refine ⟨?_, core, packer⟩
  rw [core sampleCalls (.whole sampleCalls), records]

end WriterCalls

end KavachNpu

/-
Module: KavachNpu.Proofs.ProtoRecords
Layer: Proofs
Purpose: Every call of the protobuf writer appends one record, and the ONNX builders emit messages that the
  schema's readers read back. A payload fits when its length is a 64-bit number, as every length is.
Trusted boundary: none
Main exports: varintLoop_eq, ProtoWriter.Reads, ProtoWriter.Reads.writeInt64, ProtoWriter.Reads.writeDelimited,
  read_buildIntAttr, read_buildNode, read_buildTensorVi, read_buildTensorProtoF32
-/
import KavachNpu.Core.ReferenceOnnx
import KavachNpu.Foundation.OnnxSchema

namespace KavachNpu

/-! ## Varints -/

theorem toNat_continued (value : UInt64) :
    ((value &&& 0x7F).toUInt8 ||| 0x80).toNat = value.toNat % 128 + 128 := by
  have low : value.toNat &&& 127 = value.toNat % 128 := Nat.and_two_pow_sub_one_eq_mod value.toNat 7
  have join := Nat.two_pow_add_eq_or_of_lt (show value.toNat % 128 < 2 ^ 7 by omega) 1
  rw [UInt8.toNat_or, UInt64.toNat_toUInt8, UInt64.toNat_and]
  simp only [UInt64.reduceToNat, UInt8.reduceToNat]
  rw [low, Nat.mod_eq_of_lt (show value.toNat % 128 < 2 ^ 8 by omega), Nat.or_comm]
  simpa [Nat.add_comm] using join.symm

/-- The writer's loop writes the canonical varint. -/
theorem varintLoop_eq_varint {rounds : Nat} {value : UInt64} (small : value.toNat < 128 ^ (rounds + 1)) :
    varintLoop rounds value = varint value.toNat := by
  induction rounds generalizing value with
  | zero =>
      rw [varintLoop, varint, if_pos (by simpa using small)]
      rfl
  | succ rounds ih =>
      rw [varintLoop, varint]
      by_cases lt : value.toNat < 128
      · have stop : ¬ value ≥ 0x80 := by
          rw [ge_iff_le, UInt64.le_iff_toNat_le]
          simpa using lt
        rw [if_neg stop, if_pos lt]
        rfl
      · have more : value ≥ 0x80 := by
          rw [ge_iff_le, UInt64.le_iff_toNat_le]
          simpa using lt
        have shifted : (value >>> 7).toNat = value.toNat / 128 := by
          rw [UInt64.toNat_shiftRight, Nat.shiftRight_eq_div_pow]
          rfl
        have high : (value >>> 7).toNat < 128 ^ (rounds + 1) := by
          rw [shifted, Nat.div_lt_iff_lt_mul (by decide)]
          exact small
        rw [if_pos more, if_neg lt, ih high, shifted]
        congr 1
        apply UInt8.toNat_inj.mp
        rw [toNat_continued, UInt8.toNat_ofNat',
          Nat.mod_eq_of_lt (show value.toNat % 128 + 128 < 2 ^ 8 by omega)]

theorem varintLoop_eq (value : UInt64) : varintLoop 9 value = varint value.toNat := by
  apply varintLoop_eq_varint
  have bound := value.toNat_lt
  exact Nat.lt_of_lt_of_le bound (by decide)

/-- The bound on the rounds is never reached: the loop goes on as long as the value has a digit left. -/
theorem varintLoop_unbounded (value : UInt64) :
    varintLoop 9 value =
      if value ≥ 0x80 then ((value &&& 0x7F).toUInt8 ||| 0x80) :: varintLoop 9 (value >>> 7)
      else [value.toUInt8] := by
  have shifted : (value >>> 7).toNat < 128 ^ (8 + 1) := by
    have bound := value.toNat_lt
    rw [UInt64.toNat_shiftRight, Nat.shiftRight_eq_div_pow]
    exact Nat.lt_of_le_of_lt (Nat.div_le_div_right (Nat.le_of_lt_succ bound)) (by decide)
  have rounds : varintLoop 8 (value >>> 7) = varintLoop 9 (value >>> 7) := by
    rw [varintLoop_eq_varint shifted, varintLoop_eq]
  rw [varintLoop, rounds]

/-- A varint has one to ten bytes. -/
theorem length_varintLoop (value : UInt64) :
    1 ≤ (varintLoop 9 value).length ∧ (varintLoop 9 value).length ≤ 10 := by
  constructor
  · rw [varintLoop_unbounded]
    split
    · exact Nat.le_add_left 1 _
    · exact Nat.le_refl 1
  · rw [varintLoop_eq]
    exact length_varint_le (by decide) (Nat.lt_of_lt_of_le value.toNat_lt (by decide))

theorem toNat_tag (number : UInt32) {wireType : UInt8} (small : wireType.toNat < 8) :
    ((number.toUInt64 <<< 3) ||| wireType.toUInt64).toNat = 8 * number.toNat + wireType.toNat := by
  have bound := number.toNat_lt
  have join := Nat.shiftLeft_add_eq_or_of_lt (show wireType.toNat < 2 ^ 3 from small) number.toNat
  rw [UInt64.toNat_or, UInt64.toNat_shiftLeft, UInt32.toNat_toUInt64, UInt8.toNat_toUInt64]
  simp only [UInt64.reduceToNat, Nat.reduceMod]
  have shifted : number.toNat <<< 3 = 8 * number.toNat := by
    rw [Nat.shiftLeft_eq, Nat.mul_comm]
  rw [Nat.mod_eq_of_lt (by omega), ← join, shifted]

/-! ## Records -/

namespace ProtoWriter

theorem bytes_writeInt64 (w : ProtoWriter) (number : UInt32) (val : Int64) :
    (w.writeInt64 number val).bytes = w.bytes ++ varintRecord number.toNat val.toUInt64 := by
  have tag := toNat_tag number (show (0 : UInt8).toNat < 8 by decide)
  simp only [writeInt64, writeTag, writeVarint, extend, varintLoop_eq, tag, varintRecord,
    List.append_assoc]
  rfl

theorem bytes_writeDelimited (w : ProtoWriter) (number : UInt32) {payload : List UInt8}
    (fits : FitsLength payload) :
    (w.writeDelimited number payload).bytes = w.bytes ++ lenRecord number.toNat payload := by
  have tag := toNat_tag number (show (2 : UInt8).toNat < 8 by decide)
  simp only [writeDelimited, writeTag, writeVarint, extend, varintLoop_eq, tag, lenRecord,
    UInt64.toNat_ofNat', Nat.mod_eq_of_lt fits, List.append_assoc]
  rfl

/-- A length-delimited field keeps what was written before, and has the whole payload. -/
theorem length_add_le_writeDelimited (w : ProtoWriter) (number : UInt32) (payload : List UInt8) :
    w.bytes.length + payload.length ≤ (w.writeDelimited number payload).bytes.length := by
  simp only [writeDelimited, writeTag, writeVarint, extend, List.length_append]
  omega

/-- What a standard reader reads of the bytes written so far. -/
def Reads (w : ProtoWriter) (fields : List WireField) : Prop :=
  readFields w.bytes = some fields

namespace Reads

variable {w : ProtoWriter} {fields : List WireField}

theorem empty : Reads ProtoWriter.empty [] := rfl

theorem writeInt64 (reads : w.Reads fields) (number : UInt32) (valid : IsFieldNumber number.toNat)
    (val : Int64) :
    (w.writeInt64 number val).Reads (fields ++ [⟨number.toNat, .varint val.toUInt64⟩]) := by
  rw [Reads, bytes_writeInt64]
  exact readFields_append reads (readFields_varintRecord valid val.toUInt64)

theorem writeDelimited (reads : w.Reads fields) (number : UInt32) (valid : IsFieldNumber number.toNat)
    {payload : List UInt8} (fits : FitsLength payload) :
    (w.writeDelimited number payload).Reads (fields ++ [⟨number.toNat, .len payload⟩]) := by
  rw [Reads, bytes_writeDelimited w number fits]
  exact readFields_append reads (readFields_lenRecord valid fits)

theorem writeString (reads : w.Reads fields) (number : UInt32) (text : String)
    (valid : IsFieldNumber number.toNat) (fits : FitsLength (asBytes text)) :
    (w.writeString number text).Reads (fields ++ [⟨number.toNat, .len (asBytes text)⟩]) :=
  reads.writeDelimited number valid fits

theorem writeMessage (reads : w.Reads fields) (number : UInt32) (sub : ProtoWriter)
    (valid : IsFieldNumber number.toNat) (fits : FitsLength sub.bytes) :
    (w.writeMessage number sub).Reads (fields ++ [⟨number.toNat, .len sub.bytes⟩]) :=
  reads.writeDelimited number valid fits

/-- A repeated integer field. -/
theorem foldl_writeInt64 (reads : w.Reads fields) (number : UInt32) (valid : IsFieldNumber number.toNat)
    (values : List Int64) :
    (values.foldl (fun w value => w.writeInt64 number value) w).Reads
      (fields ++ values.map fun value => ⟨number.toNat, .varint value.toUInt64⟩) := by
  induction values generalizing w fields with
  | nil => simpa using reads
  | cons value values ih =>
      rw [List.map_cons, List.append_cons]
      exact ih (reads.writeInt64 number valid value)

/-- A repeated length-delimited field. -/
theorem foldl_writeDelimited {α : Type} {bytes : α → List UInt8} (reads : w.Reads fields)
    (number : UInt32) (valid : IsFieldNumber number.toNat) {values : List α}
    (fits : ∀ value ∈ values, FitsLength (bytes value)) :
    (values.foldl (fun w value => w.writeDelimited number (bytes value)) w).Reads
      (fields ++ values.map fun value => ⟨number.toNat, .len (bytes value)⟩) := by
  induction values generalizing w fields with
  | nil => simpa using reads
  | cons value values ih =>
      rw [List.map_cons, List.append_cons]
      exact ih (reads.writeDelimited number valid (fits value List.mem_cons_self))
        fun other mem => fits other (List.mem_cons_of_mem _ mem)

end Reads

end ProtoWriter

/-! ## Builders -/

open ProtoWriter

theorem read_buildIntAttr {name : String} (fits : FitsLength (asBytes name)) (val : Int64) :
    AttributeProto.read (buildIntAttr name val).bytes = some ⟨name, some val, some 2⟩ := by
  have reads := ((Reads.empty.writeDelimited 1 (by decide) fits).writeInt64 3 (by decide) val).writeInt64 20
    (by decide) 2
  have fields : readFields (buildIntAttr name val).bytes = some _ := reads
  simp [AttributeProto.read, fields, readText]

/-- A node is read back with the attributes its attribute messages read as. -/
theorem read_buildNode {opType name : String} {inputs outputs : List String} {attrs : List ProtoWriter}
    {attributes : List AttributeProto} (opFits : FitsLength (asBytes opType))
    (nameFits : FitsLength (asBytes name))
    (inputsFit : ∀ input ∈ inputs, FitsLength (asBytes input))
    (outputsFit : ∀ output ∈ outputs, FitsLength (asBytes output))
    (attrsFit : ∀ attr ∈ attrs, FitsLength attr.bytes)
    (readAttrs : (attrs.map ProtoWriter.bytes).mapM AttributeProto.read = some attributes) :
    NodeProto.read (buildNode opType inputs outputs name attrs).bytes =
      some ⟨inputs, outputs, name, opType, attributes⟩ := by
  have reads := ((((Reads.empty.foldl_writeDelimited 1 (by decide) inputsFit).foldl_writeDelimited 2
    (by decide) outputsFit).writeDelimited 3 (by decide) nameFits).writeDelimited 4 (by decide)
    opFits).foldl_writeDelimited 5 (by decide) attrsFit
  have fields : readFields (buildNode opType inputs outputs name attrs).bytes = some _ := reads
  have texts : ∀ names : List String, (names.map asBytes).mapM fromUtf8 = some names :=
    fun names => mapM_map_eq_some fun name _ => fromUtf8_asBytes name
  simp [NodeProto.read, fields, readText, texts, readAttrs]

/-- One dimension of a shape. -/
theorem read_dimension (d : Int64) : readDimension (empty.writeInt64 1 d).bytes = some d := by
  have fields : readFields (empty.writeInt64 1 d).bytes = some _ := Reads.empty.writeInt64 1 (by decide) d
  rw [readDimension, fields]
  simp

theorem dimension_fits (d : Int64) : FitsLength (empty.writeInt64 1 d).bytes := by
  have bound : d.toUInt64.toNat < 128 ^ 10 := Nat.lt_of_lt_of_le d.toUInt64.toNat_lt (by decide)
  have value := length_varint_le (by decide) bound
  have tag : (varint 8).length ≤ 1 := length_varint_le (by decide) (by decide)
  rw [FitsLength, bytes_writeInt64, varintRecord, List.length_append, List.length_append]
  change 0 + ((varint 8).length + _) < 2 ^ 64
  omega

theorem length_le_writeDelimited (w : ProtoWriter) (number : UInt32) (payload : List UInt8) :
    payload.length ≤ (w.writeDelimited number payload).bytes.length :=
  Nat.le_trans (Nat.le_add_left _ _) (length_add_le_writeDelimited w number payload)

theorem read_buildTensorVi {name : String} {elemType : Int64} {shape : List Int64}
    (nameFits : FitsLength (asBytes name))
    (fits : FitsLength (buildTensorVi name elemType shape).bytes) :
    ValueInfoProto.read (buildTensorVi name elemType shape).bytes = some ⟨name, elemType, shape⟩ := by
  let shapeW := shape.foldl (fun w d => w.writeMessage 1 (empty.writeInt64 1 d)) empty
  let tensorTypeW := (empty.writeInt64 1 elemType).writeMessage 2 shapeW
  let typeW := empty.writeMessage 1 tensorTypeW
  have typeFits : FitsLength typeW.bytes :=
    Nat.lt_of_le_of_lt (length_le_writeDelimited _ 2 typeW.bytes) fits
  have tensorTypeFits : FitsLength tensorTypeW.bytes :=
    Nat.lt_of_le_of_lt (length_le_writeDelimited _ 1 tensorTypeW.bytes) typeFits
  have shapeFits : FitsLength shapeW.bytes :=
    Nat.lt_of_le_of_lt (length_le_writeDelimited _ 2 shapeW.bytes) tensorTypeFits
  have shapeFields : readFields shapeW.bytes =
      some (shape.map fun d => ⟨1, .len (empty.writeInt64 1 d).bytes⟩) :=
    Reads.empty.foldl_writeDelimited 1 (by decide) fun d _ => dimension_fits d
  have tensorTypeFields : readFields tensorTypeW.bytes =
      some [⟨1, .varint elemType.toUInt64⟩, ⟨2, .len shapeW.bytes⟩] :=
    (Reads.empty.writeInt64 1 (by decide) elemType).writeDelimited 2 (by decide) shapeFits
  have typeFields : readFields typeW.bytes = some [⟨1, .len tensorTypeW.bytes⟩] :=
    Reads.empty.writeDelimited 1 (by decide) tensorTypeFits
  have fields : readFields (buildTensorVi name elemType shape).bytes =
      some [⟨1, .len (asBytes name)⟩, ⟨2, .len typeW.bytes⟩] :=
    (Reads.empty.writeDelimited 1 (by decide) nameFits).writeDelimited 2 (by decide) typeFits
  have dims : (shape.map fun d => (empty.writeInt64 1 d).bytes).mapM readDimension = some shape :=
    mapM_map_eq_some fun d _ => read_dimension d
  clear_value typeW tensorTypeW shapeW
  simp [ValueInfoProto.read, fields, readText, readMessage, typeFields, tensorTypeFields, shapeFields,
    -List.mapM_map, dims]

theorem read_buildTensorProtoF32 {name : String} {dims : List Int64} {data : List UInt32}
    (nameFits : FitsLength (asBytes name))
    (dataFits : FitsLength (data.flatMap f32ToLeBytes)) :
    TensorProto.read (buildTensorProtoF32 name dims data).bytes =
      some ⟨dims, 1, name, data.flatMap f32ToLeBytes⟩ := by
  have reads := (((Reads.empty.foldl_writeInt64 1 (by decide) dims).writeInt64 2 (by decide)
    1).writeDelimited 8 (by decide) nameFits).writeDelimited 9 (by decide) dataFits
  have fields : readFields (buildTensorProtoF32 name dims data).bytes = some _ := reads
  simp [TensorProto.read, fields, readText]

end KavachNpu

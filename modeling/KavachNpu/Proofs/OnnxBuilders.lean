/-
Module: KavachNpu.Proofs.OnnxBuilders
Layer: Proofs
Purpose: The packer's ONNX builders against those of the core crate. Value infos and nodes have the same
  bytes, but the packer writes the value of an integer attribute into field 2, where the schema (and the core
  crate) has it in field 3: no integer attribute of the packer carries its value.
Trusted boundary: none
Main exports: BuildersAgree, builders_never_agree
-/
import KavachNpu.Pack.OnnxBuilder
import KavachNpu.Proofs.ProtoRecords

namespace KavachNpu.OnnxBuilder

/-! ## The two writers -/

/-- A packer's writer as a writer of the core crate. -/
def ProtoWriter.toCore (w : ProtoWriter) : KavachNpu.ProtoWriter :=
  ⟨w.bytes⟩

theorem varintLoop_eq_core (rounds : Nat) (value : UInt64) :
    varintLoop rounds value = KavachNpu.varintLoop rounds value := by
  induction rounds generalizing value with
  | zero => rfl
  | succ rounds ih => rw [varintLoop, KavachNpu.varintLoop, ih]

namespace ProtoWriter

@[simp] theorem toCore_new : new.toCore = KavachNpu.ProtoWriter.empty := rfl

@[simp] theorem toCore_extend (w : ProtoWriter) (bytes : List UInt8) :
    (w.extend bytes).toCore = w.toCore.extend bytes := rfl

@[simp] theorem toCore_writeVarint (w : ProtoWriter) (value : UInt64) :
    (w.writeVarint value).toCore = w.toCore.writeVarint value := by
  rw [writeVarint, toCore_extend, varintLoop_eq_core]
  rfl

@[simp] theorem toCore_writeTag (w : ProtoWriter) (fieldNumber : UInt32) (wireType : UInt8) :
    (w.writeTag fieldNumber wireType).toCore = w.toCore.writeTag fieldNumber wireType := by
  rw [writeTag, toCore_writeVarint]
  rfl

@[simp] theorem toCore_writeInt64 (w : ProtoWriter) (fieldNumber : UInt32) (val : Int64) :
    (w.writeInt64 fieldNumber val).toCore = w.toCore.writeInt64 fieldNumber val := by
  rw [writeInt64, toCore_writeVarint, toCore_writeTag]
  rfl

@[simp] theorem toCore_writeString (w : ProtoWriter) (fieldNumber : UInt32) (s : String) :
    (w.writeString fieldNumber s).toCore = w.toCore.writeString fieldNumber s := by
  rw [writeString, toCore_extend, toCore_writeVarint, toCore_writeTag]
  rfl

@[simp] theorem toCore_writeMessage (w : ProtoWriter) (fieldNumber : UInt32) (sub : ProtoWriter) :
    (w.writeMessage fieldNumber sub).toCore = w.toCore.writeMessage fieldNumber sub.toCore := by
  rw [writeMessage, toCore_extend, toCore_writeVarint, toCore_writeTag]
  rfl

end ProtoWriter

open OnnxBuilder.ProtoWriter

/-! ## The builders -/

theorem toCore_buildTensorValueInfo (name : String) (elemType : Int64) (shape : List Int64) :
    (buildTensorValueInfo name elemType shape).toCore = buildTensorVi name elemType shape := by
  have dims : (shape.foldl (fun w d => w.writeMessage 1 (new.writeInt64 1 d)) new).toCore =
      shape.foldl (fun w d => w.writeMessage 1 (KavachNpu.ProtoWriter.empty.writeInt64 1 d))
        KavachNpu.ProtoWriter.empty :=
    (List.foldl_hom toCore fun w d => by simp).symm
  simp only [buildTensorValueInfo, buildTensorVi, toCore_writeMessage, toCore_writeString,
    toCore_writeInt64, toCore_new, dims]

theorem toCore_buildNode (opType : String) (inputs outputs : List String) (name : String)
    (attributes : List ProtoWriter) :
    (buildNode opType inputs outputs name attributes).toCore =
      KavachNpu.buildNode opType inputs outputs name (attributes.map toCore) := by
  have strings : ∀ (number : UInt32) (texts : List String) (w : ProtoWriter),
      (texts.foldl (fun w text => w.writeString number text) w).toCore =
        texts.foldl (fun w text => w.writeString number text) w.toCore :=
    fun number texts w => (List.foldl_hom toCore fun w text => by simp).symm
  have messages : ∀ w : ProtoWriter,
      (attributes.foldl (fun w attr => w.writeMessage 5 attr) w).toCore =
        attributes.foldl (fun w attr => w.writeMessage 5 attr.toCore) w.toCore :=
    fun w => (List.foldl_hom toCore fun w attr => by simp).symm
  simp only [buildNode, KavachNpu.buildNode, List.foldl_map, messages, toCore_writeString, strings,
    toCore_new]

/-- The packer's integer attribute, with the core crate's writer. -/
theorem toCore_buildIntAttribute (name : String) (value : Int64) :
    (buildIntAttribute name value).toCore =
      ((KavachNpu.ProtoWriter.empty.writeString 1 name).writeInt64 2 value).writeInt64 20 2 := by
  simp only [buildIntAttribute, toCore_writeInt64, toCore_writeString, toCore_new]

theorem bytes_eq_of_toCore {w : ProtoWriter} {core : KavachNpu.ProtoWriter} (same : w.toCore = core) :
    w.bytes = core.bytes :=
  congrArg KavachNpu.ProtoWriter.bytes same

/-- The tag of field 2 differs from the tag of field 3. -/
theorem varintRecord_ne (value : UInt64) (rest others : List UInt8) :
    varintRecord 2 value ++ rest ≠ varintRecord 3 value ++ others := by
  have two : varint (8 * 2) = [16] := by rw [varint]; rfl
  have three : varint (8 * 3) = [24] := by rw [varint]; rfl
  intro same
  rw [varintRecord, varintRecord, two, three] at same
  cases same

theorem buildIntAttribute_ne (name : String) (value : Int64) :
    (buildIntAttribute name value).bytes ≠ (buildIntAttr name value).bytes := by
  rw [bytes_eq_of_toCore (toCore_buildIntAttribute name value), buildIntAttr,
    KavachNpu.ProtoWriter.bytes_writeInt64, KavachNpu.ProtoWriter.bytes_writeInt64,
    KavachNpu.ProtoWriter.bytes_writeInt64, KavachNpu.ProtoWriter.bytes_writeInt64]
  intro same
  rw [List.append_assoc, List.append_assoc] at same
  exact varintRecord_ne _ _ _ (List.append_cancel_left same)

/-- The schema finds no value in the packer's integer attribute. -/
theorem read_buildIntAttribute {name : String} (fits : FitsLength (asBytes name)) (value : Int64) :
    AttributeProto.read (buildIntAttribute name value).bytes = some ⟨name, none, some 2⟩ := by
  have reads := ((KavachNpu.ProtoWriter.Reads.empty.writeDelimited 1 (by decide) fits).writeInt64 2
    (by decide) value).writeInt64 20 (by decide) 2
  have fields : readFields (((KavachNpu.ProtoWriter.empty.writeString 1 name).writeInt64 2
      value).writeInt64 20 2).bytes = some _ := reads
  rw [bytes_eq_of_toCore (toCore_buildIntAttribute name value)]
  simp [AttributeProto.read, fields, readText]

/-! ## Agreement -/

/-- The builders of both crates emit the same bytes for a value info, a node (on equal attributes) and an
    integer attribute. -/
structure BuildersAgree (name : String) (elemType : Int64) (shape : List Int64) (opType : String)
    (inputs outputs : List String) (nodeName : String) (attributes : List ProtoWriter)
    (attrName : String) (value : Int64) : Prop where
  valueInfo : (buildTensorValueInfo name elemType shape).bytes = (buildTensorVi name elemType shape).bytes
  node : (buildNode opType inputs outputs nodeName attributes).bytes =
    (KavachNpu.buildNode opType inputs outputs nodeName (attributes.map toCore)).bytes
  intAttribute : (buildIntAttribute attrName value).bytes = (buildIntAttr attrName value).bytes

/-- The builders agree on value infos and nodes, and never on integer attributes: read with the schema's
    field numbers, the core crate's attribute carries its value and the packer's carries none. -/
theorem builders_never_agree (name : String) (elemType : Int64) (shape : List Int64) (opType : String)
    (inputs outputs : List String) (nodeName : String) (attributes : List ProtoWriter)
    (attrName : String) (value : Int64) :
    ¬ BuildersAgree name elemType shape opType inputs outputs nodeName attributes attrName value ∧
      (buildTensorValueInfo name elemType shape).bytes = (buildTensorVi name elemType shape).bytes ∧
      (buildNode opType inputs outputs nodeName attributes).bytes =
        (KavachNpu.buildNode opType inputs outputs nodeName (attributes.map toCore)).bytes ∧
      (FitsLength (asBytes attrName) →
        AttributeProto.read (buildIntAttr attrName value).bytes =
            some ⟨attrName, some value, some 2⟩ ∧
          AttributeProto.read (buildIntAttribute attrName value).bytes =
            some ⟨attrName, none, some 2⟩) := by
  refine ⟨?_, ?_, ?_, ?_⟩
  · intro agree
    exact buildIntAttribute_ne attrName value agree.intAttribute
  · exact bytes_eq_of_toCore (toCore_buildTensorValueInfo name elemType shape)
  · exact bytes_eq_of_toCore (toCore_buildNode opType inputs outputs nodeName attributes)
  · intro fits
    exact ⟨read_buildIntAttr fits value, read_buildIntAttribute fits value⟩

/-- The attribute of the packer's cast nodes. -/
theorem castAttribute_without_value :
    AttributeProto.read (buildIntAttr "to" 1).bytes = some ⟨"to", some 1, some 2⟩ ∧
      AttributeProto.read (buildIntAttribute "to" 1).bytes = some ⟨"to", none, some 2⟩ :=
  (builders_never_agree "io_input" 3 [1, 10, 4] "Cast" ["io_input"] ["io_float"] "node_io_cast" []
    "to" 1).2.2.2 (by decide +kernel)

/-- The packer's and the core crate's cast attribute differ. -/
theorem castAttribute_differs :
    ¬ BuildersAgree "io_input" 3 [1, 10, 4] "Cast" ["io_input"] ["io_float"] "node_io_cast" []
      "to" 1 := by
  have differs : (buildIntAttribute "to" 1).bytes ≠ (buildIntAttr "to" 1).bytes := by decide +kernel
  intro agree
  exact differs agree.intAttribute

end KavachNpu.OnnxBuilder

/-
Module: KavachNpu.Core.ReferenceOnnx
Layer: Core
Purpose: The minimal protobuf writer and the reference model it serializes. A writer is its bytes so far;
  single-precision weights are given by their bit patterns.
Trusted boundary: human-reviewed spec
Main exports: ProtoWriter, buildNode, generateReferenceOnnx
-/
import KavachNpu.Foundation.Utf8

namespace KavachNpu

/-- Minimal protobuf writer. -/
structure ProtoWriter where
  bytes : List UInt8
deriving DecidableEq

/-- The loop of `write_varint`. A 64-bit value is below `0x80` after nine rounds at the latest. -/
def varintLoop : Nat → UInt64 → List UInt8
  | 0, value => [value.toUInt8]
  | rounds + 1, value =>
      if value ≥ 0x80 then
        ((value &&& 0x7F).toUInt8 ||| 0x80) :: varintLoop rounds (value >>> 7)
      else
        [value.toUInt8]

namespace ProtoWriter

/-- `ProtoWriter::default`. -/
def empty : ProtoWriter := ⟨[]⟩

/-- `bytes.extend_from_slice`. -/
def extend (w : ProtoWriter) (bytes : List UInt8) : ProtoWriter :=
  ⟨w.bytes ++ bytes⟩

/-- Writes a base-128 varint. -/
def writeVarint (w : ProtoWriter) (value : UInt64) : ProtoWriter :=
  w.extend (varintLoop 9 value)

/-- Writes a field tag. -/
def writeTag (w : ProtoWriter) (fieldNumber : UInt32) (wireType : UInt8) : ProtoWriter :=
  w.writeVarint ((fieldNumber.toUInt64 <<< 3) ||| wireType.toUInt64)

/-- Writes an integer field. -/
def writeInt64 (w : ProtoWriter) (fieldNumber : UInt32) (val : Int64) : ProtoWriter :=
  (w.writeTag fieldNumber 0).writeVarint val.toUInt64

/-- Writes a length-delimited field. -/
def writeDelimited (w : ProtoWriter) (fieldNumber : UInt32) (payload : List UInt8) : ProtoWriter :=
  ((w.writeTag fieldNumber 2).writeVarint (UInt64.ofNat payload.length)).extend payload

/-- Writes a string field. -/
def writeString (w : ProtoWriter) (fieldNumber : UInt32) (s : String) : ProtoWriter :=
  w.writeDelimited fieldNumber (asBytes s)

/-- Writes a nested message. -/
def writeMessage (w : ProtoWriter) (fieldNumber : UInt32) (sub : ProtoWriter) : ProtoWriter :=
  w.writeDelimited fieldNumber sub.bytes

end ProtoWriter

open ProtoWriter

/-- The value info of a tensor. -/
def buildTensorVi (name : String) (elemType : Int64) (shape : List Int64) : ProtoWriter :=
  let shapeW := shape.foldl (fun w d => w.writeMessage 1 (empty.writeInt64 1 d)) empty
  let tensorTypeW := (empty.writeInt64 1 elemType).writeMessage 2 shapeW
  let typeW := empty.writeMessage 1 tensorTypeW
  (empty.writeString 1 name).writeMessage 2 typeW

/-- An integer attribute. -/
def buildIntAttr (name : String) (val : Int64) : ProtoWriter :=
  ((empty.writeString 1 name).writeInt64 3 val).writeInt64 20 2

/-- A graph node. -/
def buildNode (opType : String) (inputs outputs : List String) (name : String)
    (attrs : List ProtoWriter) : ProtoWriter :=
  let node := inputs.foldl (fun w inp => w.writeString 1 inp) empty
  let node := outputs.foldl (fun w out => w.writeString 2 out) node
  let node := (node.writeString 3 name).writeString 4 opType
  attrs.foldl (fun w a => w.writeMessage 5 a) node

/-- `f32::to_le_bytes` of the value with the given bits. -/
def f32ToLeBytes (bits : UInt32) : List UInt8 :=
  [bits.toUInt8, (bits >>> 8).toUInt8, (bits >>> 16).toUInt8, (bits >>> 24).toUInt8]

/-- A float tensor with the given weights. -/
def buildTensorProtoF32 (name : String) (dims : List Int64) (data : List UInt32) : ProtoWriter :=
  let tp := dims.foldl (fun w d => w.writeInt64 1 d) empty
  let tp := (tp.writeInt64 2 1).writeString 8 name
  tp.writeDelimited 9 (data.flatMap f32ToLeBytes)

/-- The bits of `0.7`, `0.3` and `1.0`. -/
def f32Bits07 : UInt32 := 0x3F333333

@[inherit_doc f32Bits07]
def f32Bits03 : UInt32 := 0x3E99999A

@[inherit_doc f32Bits07]
def f32Bits10 : UInt32 := 0x3F800000

/-- The four nodes of a head: cast, weighting, flattening and mean. -/
def headNodes (input float weights weighted flat score suffix : String) : List ProtoWriter :=
  let castAttr := buildIntAttr "to" 1
  let flattenAttr := buildIntAttr "axis" 1
  let keepdimsAttr := buildIntAttr "keepdims" 1
  [buildNode "Cast" [input] [float] ("cast_" ++ suffix) [castAttr],
    buildNode "MatMul" [float, weights] [weighted] ("matmul_" ++ suffix) [],
    buildNode "Flatten" [weighted] [flat] ("flat_" ++ suffix) [flattenAttr],
    buildNode "ReduceMean" [flat] [score] ("mean_" ++ suffix) [keepdimsAttr]]

/-- The graph of the three heads. -/
def referenceGraph : ProtoWriter :=
  let graph := empty.writeString 2 "kavach_multitask_graph"
  let graph := graph.writeString 10 "Kavach Multi-Task INT8 Detection Graph"
  let graph := graph.writeMessage 11 (buildTensorVi "io_input" 3 [1, 10, 4])
  let graph := graph.writeMessage 11 (buildTensorVi "net_input" 3 [1, 32, 4])
  let graph := graph.writeMessage 11 (buildTensorVi "audit_input" 3 [1, 16, 4])
  let graph := graph.writeMessage 5 (buildTensorProtoF32 "w_io" [4, 1] [f32Bits07, 0, 0, f32Bits03])
  let graph := graph.writeMessage 5 (buildTensorProtoF32 "w_net" [4, 1] [f32Bits10, 0, 0, 0])
  let graph := graph.writeMessage 5 (buildTensorProtoF32 "w_audit" [4, 1] [f32Bits10, 0, 0, 0])
  let graph := graph.writeMessage 12 (buildTensorVi "io_score" 1 [1, 1])
  let graph := graph.writeMessage 12 (buildTensorVi "net_score" 1 [1, 1])
  let graph := graph.writeMessage 12 (buildTensorVi "audit_score" 1 [1, 1])
  let nodes :=
    headNodes "io_input" "io_f" "w_io" "io_weighted" "io_flat" "io_score" "io" ++
      headNodes "net_input" "net_f" "w_net" "net_weighted" "net_flat" "net_score" "net" ++
      headNodes "audit_input" "audit_f" "w_audit" "audit_weighted" "audit_flat" "audit_score" "audit"
  nodes.foldl (fun w node => w.writeMessage 1 node) graph

/-- The reference model: three heads over INT8 inputs, IR version 9, operator set 21. -/
def generateReferenceOnnx : List UInt8 :=
  let opset := (empty.writeString 1 "").writeInt64 2 21
  let model := (empty.writeInt64 1 9).writeString 2 "kavach-pack"
  let model := (model.writeString 3 "0.1.0").writeString 4 "ai.kavach"
  let model := (model.writeInt64 5 1).writeString 6 "Kavach-NPU Multitask INT8 Computational Graph"
  let model := (model.writeMessage 7 referenceGraph).writeMessage 8 opset
  model.bytes

end KavachNpu

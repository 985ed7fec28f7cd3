/-
Module: KavachNpu.Pack.OnnxBuilder
Layer: Pack
Purpose: The packaging tool's own protobuf writer and ONNX builders, a copy of those of the core crate kept
  in another crate, and the stub model it packs.
Trusted boundary: human-reviewed spec
Main exports: OnnxBuilder.ProtoWriter, OnnxBuilder.buildTensorValueInfo, OnnxBuilder.buildIntAttribute,
  OnnxBuilder.buildNode, OnnxBuilder.generateKavachStubOnnx
-/
import KavachNpu.Foundation.Utf8

namespace KavachNpu.OnnxBuilder

/-- The packer's protobuf writer. -/
structure ProtoWriter where
  bytes : List UInt8
deriving DecidableEq

/-- The loop of `write_varint`. A 64-bit value is below `0x80` after nine rounds at the latest. -/
def varintLoop : Nat → UInt64 → List UInt8
  | 0, value => [value.toUInt8]
  | rounds + 1, value =>
      if value ≥ 0x80 then
        ((value &&& 0x7F).toUInt8 ||| 0x80) :: varintLoop rounds (value >>> 7)
      else
        [value.toUInt8]

namespace ProtoWriter

/-- `ProtoWriter::new`. -/
def new : ProtoWriter := ⟨[]⟩

/-- `bytes.extend_from_slice`. -/
def extend (w : ProtoWriter) (bytes : List UInt8) : ProtoWriter :=
  ⟨w.bytes ++ bytes⟩

/-- Writes a base-128 varint. -/
def writeVarint (w : ProtoWriter) (value : UInt64) : ProtoWriter :=
  w.extend (varintLoop 9 value)

/-- Writes a field tag. -/
def writeTag (w : ProtoWriter) (fieldNumber : UInt32) (wireType : UInt8) : ProtoWriter :=
  w.writeVarint ((fieldNumber.toUInt64 <<< 3) ||| wireType.toUInt64)

/-- Writes an integer field. -/
def writeInt64 (w : ProtoWriter) (fieldNumber : UInt32) (val : Int64) : ProtoWriter :=
  (w.writeTag fieldNumber 0).writeVarint val.toUInt64

/-- Writes a string field. -/
def writeString (w : ProtoWriter) (fieldNumber : UInt32) (s : String) : ProtoWriter :=
  ((w.writeTag fieldNumber 2).writeVarint (UInt64.ofNat (asBytes s).length)).extend (asBytes s)

/-- Writes a nested message. -/
def writeMessage (w : ProtoWriter) (fieldNumber : UInt32) (sub : ProtoWriter) : ProtoWriter :=
  ((w.writeTag fieldNumber 2).writeVarint (UInt64.ofNat sub.bytes.length)).extend sub.bytes

end ProtoWriter

open OnnxBuilder.ProtoWriter

/-- Builds a `ValueInfoProto` for a tensor with given name, dtype, and shape dimensions. -/
def buildTensorValueInfo (name : String) (elemType : Int64) (shape : List Int64) : ProtoWriter :=
  let shapeWriter := shape.foldl (fun w d => w.writeMessage 1 (new.writeInt64 1 d)) new
  let tensorTypeWriter := (new.writeInt64 1 elemType).writeMessage 2 shapeWriter
  let typeWriter := new.writeMessage 1 tensorTypeWriter
  (new.writeString 1 name).writeMessage 2 typeWriter

/-- Builds an `AttributeProto` with an integer value. -/
def buildIntAttribute (name : String) (value : Int64) : ProtoWriter :=
  ((new.writeString 1 name).writeInt64 2 value).writeInt64 20 2

/-- Builds a `NodeProto` representing an ONNX operation node. -/
def buildNode (opType : String) (inputs outputs : List String) (name : String)
    (attributes : List ProtoWriter) : ProtoWriter :=
  let node := inputs.foldl (fun w inp => w.writeString 1 inp) new
  let node := outputs.foldl (fun w out => w.writeString 2 out) node
  let node := (node.writeString 3 name).writeString 4 opType
  attributes.foldl (fun w attr => w.writeMessage 5 attr) node

/-- `ONNX_DTYPE_FLOAT`. -/
def onnxDtypeFloat : Int64 := 1

/-- `ONNX_DTYPE_INT8`. -/
def onnxDtypeInt8 : Int64 := 3

/-- The two nodes of a head: a cast and a mean. -/
def headNodes (input float score castName reduceName : String) : List ProtoWriter :=
  let castToFloat := buildIntAttribute "to" onnxDtypeFloat
  let keepdims := buildIntAttribute "keepdims" 1
  [buildNode "Cast" [input] [float] castName [castToFloat],
    buildNode "ReduceMean" [float] [score] reduceName [keepdims]]

/-- The nodes of the three heads. -/
def stubNodes : List ProtoWriter :=
  headNodes "io_input" "io_float" "io_score" "node_io_cast" "node_io_reduce" ++
    headNodes "net_input" "net_float" "net_score" "node_net_cast" "node_net_reduce" ++
    headNodes "audit_input" "audit_float" "audit_score" "node_audit_cast" "node_audit_reduce"

/-- The graph. Its description is written as field 5. -/
def stubGraph : ProtoWriter :=
  let graphWriter := new.writeString 2 "kavach_multitask_graph"
  let graphWriter := graphWriter.writeString 5 "Kavach Multi-Task INT8 Detection Graph"
  let graphWriter := graphWriter.writeMessage 11 (buildTensorValueInfo "io_input" onnxDtypeInt8 [1, 10, 4])
  let graphWriter := graphWriter.writeMessage 11 (buildTensorValueInfo "net_input" onnxDtypeInt8 [1, 32, 4])
  let graphWriter := graphWriter.writeMessage 11 (buildTensorValueInfo "audit_input" onnxDtypeInt8 [1, 16, 4])
  let graphWriter := graphWriter.writeMessage 12 (buildTensorValueInfo "io_score" onnxDtypeFloat [1, 1])
  let graphWriter := graphWriter.writeMessage 12 (buildTensorValueInfo "net_score" onnxDtypeFloat [1, 1])
  let graphWriter := graphWriter.writeMessage 12 (buildTensorValueInfo "audit_score" onnxDtypeFloat [1, 1])
  stubNodes.foldl (fun w node => w.writeMessage 1 node) graphWriter

/-- The operator set message. -/
def stubOpset (opset : Int64) : ProtoWriter :=
  (new.writeString 1 "").writeInt64 2 opset

/-- Generates the stub model of the three heads. -/
def generateKavachStubOnnx (opset : Int64) : List UInt8 :=
  let modelWriter := new.writeInt64 1 9
  let modelWriter := modelWriter.writeString 2 "kavach-pack"
  let modelWriter := modelWriter.writeString 3 "0.1.0"
  let modelWriter := modelWriter.writeString 4 "ai.kavach"
  let modelWriter := modelWriter.writeInt64 5 1
  let modelWriter := modelWriter.writeString 6 "Kavach-NPU Multitask INT8 Computational Graph"
  let modelWriter := modelWriter.writeMessage 7 stubGraph
  let modelWriter := modelWriter.writeMessage 8 (stubOpset opset)
  modelWriter.bytes

end KavachNpu.OnnxBuilder

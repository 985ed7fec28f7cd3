/-
Module: KavachNpu.Proofs.StubModel
Layer: Proofs
Purpose: The model the packing tool generates, read with the ONNX schema. Its bytes are records and its nodes,
  inputs and outputs read back, but the description stands in the field of the initializers and is no message,
  so the model is read by no schema reader, and an engine on its bytes scores what the CPU baseline scores.
Trusted boundary: none
Main exports: OnnxBuilder.stubGraphProto, OnnxBuilder.stub_model_unreadable,
  OnnxBuilder.stub_model_never_scores
-/
import KavachNpu.Core.ShippedBundle
import KavachNpu.Proofs.OnnxBuilders
import KavachNpu.Proofs.ReferenceModel

namespace KavachNpu.OnnxBuilder

open OnnxBuilder.ProtoWriter

/-! ## Records -/

theorem readFields_of_toCore {w : ProtoWriter} {core : KavachNpu.ProtoWriter} {fields : List WireField}
    (same : w.toCore = core) (reads : core.Reads fields) : readFields w.bytes = some fields := by
  rw [bytes_eq_of_toCore same]
  exact reads

/-- The nodes of a head, as the schema reads them, with the values of their attributes. -/
def headProtos (castType keepdims : Option Int64) (input float score castName reduceName : String) :
    List NodeProto :=
  [⟨[input], [float], castName, "Cast", [⟨"to", castType, some 2⟩]⟩,
    ⟨[float], [score], reduceName, "ReduceMean", [⟨"keepdims", keepdims, some 2⟩]⟩]

/-- The graph of the stub model, with the values of its attributes and without initializers. -/
def stubGraphProto (castType keepdims : Option Int64) : GraphProto where
  node :=
    headProtos castType keepdims "io_input" "io_float" "io_score" "node_io_cast" "node_io_reduce" ++
      headProtos castType keepdims "net_input" "net_float" "net_score" "node_net_cast" "node_net_reduce" ++
      headProtos castType keepdims "audit_input" "audit_float" "audit_score" "node_audit_cast"
        "node_audit_reduce"
  name := "kavach_multitask_graph"
  initializer := []
  input := [⟨"io_input", 3, [1, 10, 4]⟩, ⟨"net_input", 3, [1, 32, 4]⟩, ⟨"audit_input", 3, [1, 16, 4]⟩]
  output := [⟨"io_score", 1, [1, 1]⟩, ⟨"net_score", 1, [1, 1]⟩, ⟨"audit_score", 1, [1, 1]⟩]

/-- The description, which the graph has in the field of its initializers. -/
def stubDescription : String :=
  "Kavach Multi-Task INT8 Detection Graph"

/-- A node of one input, one output and one integer attribute. -/
theorem read_unaryNode {opType input output name attr : String} (value : Int64)
    (fits : ∀ text ∈ [opType, input, output, name, attr], FitsLength (asBytes text))
    (attrFits : FitsLength (buildIntAttribute attr value).bytes) :
    NodeProto.read
        (buildNode opType [input] [output] name [buildIntAttribute attr value]).bytes =
      some ⟨[input], [output], name, opType, [⟨attr, none, some 2⟩]⟩ := by
  simp only [List.forall_mem_cons] at fits
  obtain ⟨opFits, inputFits, outputFits, nameFits, attrNameFits, -⟩ := fits
  have attributes : (([buildIntAttribute attr value].map toCore).map
      KavachNpu.ProtoWriter.bytes).mapM AttributeProto.read = some [⟨attr, none, some 2⟩] := by
    have read : AttributeProto.read (buildIntAttribute attr value).toCore.bytes = _ :=
      read_buildIntAttribute attrNameFits value
    simp only [List.map_cons, List.map_nil, List.mapM_cons, List.mapM_nil, read]
    rfl
  rw [bytes_eq_of_toCore (toCore_buildNode opType [input] [output] name _)]
  exact read_buildNode opFits nameFits (by simpa using inputFits) (by simpa using outputFits)
    (by simpa [toCore] using attrFits) attributes

/-- The nodes of a head are read back, their attributes without a value. -/
theorem read_headNodes {input float score castName reduceName : String}
    (fits : ∀ name ∈ [input, float, score, castName, reduceName], FitsLength (asBytes name)) :
    ((headNodes input float score castName reduceName).map ProtoWriter.bytes).mapM NodeProto.read =
      some (headProtos none none input float score castName reduceName) := by
  have words : ∀ word ∈ ["Cast", "ReduceMean", "to", "keepdims"], FitsLength (asBytes word) := by
    decide
  simp only [List.forall_mem_cons] at fits words
  have cast : NodeProto.read
      (buildNode "Cast" [input] [float] castName [buildIntAttribute "to" onnxDtypeFloat]).bytes = some _ :=
    read_unaryNode onnxDtypeFloat (by simp [fits, words]) (by decide)
  have reduce : NodeProto.read
      (buildNode "ReduceMean" [float] [score] reduceName [buildIntAttribute "keepdims" 1]).bytes =
        some _ :=
    read_unaryNode 1 (by simp [fits, words]) (by decide)
  simp only [headNodes, List.map_cons, List.map_nil, List.mapM_cons, List.mapM_nil, cast, reduce]
  rfl

theorem read_stubNodes :
    (stubNodes.map ProtoWriter.bytes).mapM NodeProto.read = some (stubGraphProto none none).node := by
  rw [stubNodes, List.map_append, List.map_append, List.mapM_append, List.mapM_append,
    read_headNodes (by decide), read_headNodes (by decide),
    read_headNodes (by decide)]
  rfl

/-- The records of the graph. -/
theorem readFields_stubGraph :
    readFields stubGraph.bytes =
      some
        ([⟨2, .len (asBytes "kavach_multitask_graph")⟩, ⟨5, .len (asBytes stubDescription)⟩,
            ⟨11, .len (buildTensorVi "io_input" 3 [1, 10, 4]).bytes⟩,
            ⟨11, .len (buildTensorVi "net_input" 3 [1, 32, 4]).bytes⟩,
            ⟨11, .len (buildTensorVi "audit_input" 3 [1, 16, 4]).bytes⟩,
            ⟨12, .len (buildTensorVi "io_score" 1 [1, 1]).bytes⟩,
            ⟨12, .len (buildTensorVi "net_score" 1 [1, 1]).bytes⟩,
            ⟨12, .len (buildTensorVi "audit_score" 1 [1, 1]).bytes⟩] ++
          stubNodes.map fun node => ⟨1, .len node.bytes⟩) := by
  have graph := KavachNpu.ProtoWriter.Reads.empty.writeString 2 "kavach_multitask_graph" (by decide)
    (by decide)
  have graph := graph.writeString 5 stubDescription (by decide) (by decide)
  have graph := graph.writeMessage 11 (buildTensorVi "io_input" 3 [1, 10, 4]) (by decide)
    (by decide)
  have graph := graph.writeMessage 11 (buildTensorVi "net_input" 3 [1, 32, 4]) (by decide)
    (by decide)
  have graph := graph.writeMessage 11 (buildTensorVi "audit_input" 3 [1, 16, 4]) (by decide)
    (by decide)
  have graph := graph.writeMessage 12 (buildTensorVi "io_score" 1 [1, 1]) (by decide) (by decide)
  have graph := graph.writeMessage 12 (buildTensorVi "net_score" 1 [1, 1]) (by decide) (by decide)
  have graph := graph.writeMessage 12 (buildTensorVi "audit_score" 1 [1, 1]) (by decide)
    (by decide)
  have nodesFit : ∀ node ∈ stubNodes, FitsLength node.bytes := by decide
  have nodes : ∀ w : ProtoWriter,
      (stubNodes.foldl (fun w node => w.writeMessage 1 node) w).toCore =
        stubNodes.foldl (fun w node => w.writeDelimited 1 node.bytes) w.toCore :=
    fun w => (List.foldl_hom toCore fun w node => (toCore_writeMessage w 1 node).symm).symm
  refine readFields_of_toCore ?_ (graph.foldl_writeDelimited 1 (by decide) nodesFit)
  rw [stubGraph, nodes]
  simp only [toCore_writeMessage, toCore_writeString, toCore_new, toCore_buildTensorValueInfo]
  rfl

theorem length_writeInt64_le (w : KavachNpu.ProtoWriter) (number : UInt32) (val : Int64) :
    (w.writeInt64 number val).bytes.length ≤ w.bytes.length + 20 := by
  have tag := (length_varintLoop ((number.toUInt64 <<< 3) ||| (0 : UInt8).toUInt64)).2
  have value := (length_varintLoop val.toUInt64).2
  simp only [KavachNpu.ProtoWriter.writeInt64, KavachNpu.ProtoWriter.writeTag,
    KavachNpu.ProtoWriter.writeVarint, KavachNpu.ProtoWriter.extend, List.length_append]
  omega

/-- The operator set message, with the core crate's writer. -/
theorem toCore_stubOpset (opset : Int64) :
    (stubOpset opset).toCore = (KavachNpu.ProtoWriter.empty.writeString 1 "").writeInt64 2 opset := by
  simp only [stubOpset, toCore_writeInt64, toCore_writeString, toCore_new]

theorem stubOpset_fits (opset : Int64) : FitsLength (stubOpset opset).bytes := by
  have domain : (KavachNpu.ProtoWriter.empty.writeString 1 "").bytes.length = 2 := by decide
  have length := length_writeInt64_le (KavachNpu.ProtoWriter.empty.writeString 1 "") 2 opset
  rw [FitsLength, bytes_eq_of_toCore (toCore_stubOpset opset)]
  omega

theorem read_stubOpset (opset : Int64) :
    OperatorSetIdProto.read (stubOpset opset).bytes = some ⟨"", some opset⟩ := by
  have domain := KavachNpu.ProtoWriter.Reads.empty.writeString 1 "" (by decide) (by decide)
  have fields := readFields_of_toCore (toCore_stubOpset opset) (domain.writeInt64 2 (by decide) opset)
  simp [OperatorSetIdProto.read, fields, readText]

/-- The records of the model. -/
theorem readFields_stubModel (opset : Int64) :
    readFields (generateKavachStubOnnx opset) =
      some
        [⟨1, .varint 9⟩, ⟨2, .len (asBytes "kavach-pack")⟩, ⟨3, .len (asBytes "0.1.0")⟩,
          ⟨4, .len (asBytes "ai.kavach")⟩, ⟨5, .varint 1⟩,
          ⟨6, .len (asBytes "Kavach-NPU Multitask INT8 Computational Graph")⟩,
          ⟨7, .len stubGraph.bytes⟩, ⟨8, .len (stubOpset opset).bytes⟩] := by
  have model := KavachNpu.ProtoWriter.Reads.empty.writeInt64 1 (by decide) 9
  have model := model.writeString 2 "kavach-pack" (by decide) (by decide)
  have model := model.writeString 3 "0.1.0" (by decide) (by decide)
  have model := model.writeString 4 "ai.kavach" (by decide) (by decide)
  have model := model.writeInt64 5 (by decide) 1
  have model := model.writeString 6 "Kavach-NPU Multitask INT8 Computational Graph" (by decide)
    (by decide)
  have model := model.writeMessage 7 stubGraph.toCore (by decide)
    (show FitsLength stubGraph.bytes by decide +kernel)
  have model := model.writeMessage 8 (stubOpset opset).toCore (by decide) (stubOpset_fits opset)
  refine readFields_of_toCore ?_ model
  simp only [toCore_writeMessage, toCore_writeInt64, toCore_writeString, toCore_new]

/-! ## The description -/

/-- Its first byte opens a group of field 9, and the first end tag is one of field 14. -/
theorem description_no_message : isMessage (asBytes stubDescription) = false := by
  decide

theorem readFields_description : readFields (asBytes stubDescription) = none := by
  cases read : readFields (asBytes stubDescription) with
  | none => rfl
  | some fields =>
      have message := isMessage_of_readFields read
      rw [description_no_message] at message
      cases message

theorem read_stubGraph : GraphProto.read stubGraph.bytes = none := by
  have description : TensorProto.read (asBytes stubDescription) = none := by
    rw [TensorProto.read, readFields_description]
    rfl
  simp [GraphProto.read, readFields_stubGraph, readText, -List.mapM_map, read_stubNodes, description]

theorem read_stubModel (opset : Int64) : ModelProto.read (generateKavachStubOnnx opset) = none := by
  simp [ModelProto.read, readFields_stubModel, read_stubGraph]

theorem shippedOnnx_eq : shippedOnnx = generateKavachStubOnnx 21 := by
  decide +kernel

/-- The stub model is no ONNX model, for any operator set, and the shipped model is one of them. Everything
    but the graph's description is read as it is meant, although the attributes have lost their values; the
    description is the only initializer and is no message, with or without groups. -/
theorem stub_model_unreadable :
    (∀ opset, ∃ modelFields graphFields,
      readFields (generateKavachStubOnnx opset) = some modelFields ∧
        payloads 7 modelFields = [stubGraph.bytes] ∧
        (payloads 8 modelFields).mapM OperatorSetIdProto.read = some [⟨"", some opset⟩] ∧
        readFields stubGraph.bytes = some graphFields ∧
        (payloads 1 graphFields).mapM NodeProto.read = some (stubGraphProto none none).node ∧
        (payloads 11 graphFields).mapM ValueInfoProto.read = some (stubGraphProto none none).input ∧
        (payloads 12 graphFields).mapM ValueInfoProto.read = some (stubGraphProto none none).output ∧
        payloads 5 graphFields = [asBytes stubDescription] ∧
        isMessage (asBytes stubDescription) = false ∧
        ModelProto.read (generateKavachStubOnnx opset) = none) ∧
      shippedOnnx = generateKavachStubOnnx 21 ∧ ModelProto.read shippedOnnx = none := by
  refine ⟨?_, shippedOnnx_eq, ?_⟩
  · intro opset
    refine ⟨_, _, readFields_stubModel opset, ?_, ?_, readFields_stubGraph, ?_, ?_, ?_, ?_,
      description_no_message, read_stubModel opset⟩
    · simp
    · simp [read_stubOpset]
    · simpa [-List.mapM_map] using read_stubNodes
    · simp (disch := decide) [read_buildTensorVi, stubGraphProto]
    · simp (disch := decide) [read_buildTensorVi, stubGraphProto]
    · simp
  · rw [shippedOnnx_eq, read_stubModel]

/-! ## Scores -/

section Engines

open ReferenceModel

variable (npuHardware : Bool) (info : NpuHardwareInfo)
  (commitFromMemory : Provider → List UInt8 → Except String Unit) (enableVitis : Bool)

/-- A session that fails leaves the engine with the baseline. -/
theorem scoreOr_of_error {engine : NpuEngine} {score : OrtBackendSession → Except String ExactSingle}
    {baseline : ExactSingle}
    (fails : ∀ ort, engine.ortSession = some ort → ∃ message, score ort = .error message) :
    engine.scoreOr score baseline = baseline := by
  rw [NpuEngine.scoreOr]
  split
  · rename_i ort present
    obtain ⟨message, failed⟩ := fails ort present
    rw [failed]
  · rfl

/-- Bytes that give the exact runtime no scores leave the engine with the baseline. -/
theorem scores_baseline_of_none {bytes : List UInt8}
    (silent : ∀ io net audit, exactScores bytes io net audit = none) (io : IoInputTensor)
    (net : NetInputTensor) (audit : AuditInputTensor) :
    let host := exactHost npuHardware info commitFromMemory enableVitis
    let engine := NpuEngine.withOnnxBytes host bytes
    (engine.runIoInference host io).1 = NpuEngine.ioBaseline io ∧
      (engine.runNetInference host net).1 = NpuEngine.netBaseline net ∧
      (engine.runAuditInference host audit).1 = NpuEngine.auditBaseline audit := by
  intro host engine
  have fails : ∀ ort, engine.ortSession = some ort → ∀ io net audit,
      ort.runMultiHead host io net audit = .error "session run failed" := by
    intro ort present io net audit
    have built : OrtBackendSession.fromBytes host bytes = .ok ort :=
      NpuSession.eq_ok_of_sessionOf present
    have keeps := NpuSession.onnxBytes_of_fromBytes built
    simp only [OrtBackendSession.runMultiHead, host, exactHost, exactRuntime, keeps, silent]
  refine ⟨scoreOr_of_error ?_, scoreOr_of_error ?_, scoreOr_of_error ?_⟩
  · intro ort present
    refine ⟨"session run failed", ?_⟩
    rw [OrtBackendSession.runIoInference, fails ort present]
    rfl
  · intro ort present
    refine ⟨"session run failed", ?_⟩
    rw [OrtBackendSession.runNetInference, fails ort present]
    rfl
  · intro ort present
    refine ⟨"session run failed", ?_⟩
    rw [OrtBackendSession.runAuditInference, fails ort present]
    rfl

theorem exactScores_stubModel (opset : Int64) (io : IoInputTensor) (net : NetInputTensor)
    (audit : AuditInputTensor) : exactScores (generateKavachStubOnnx opset) io net audit = none := by
  rw [exactScores, read_stubModel]
  rfl

/-- The stub model never has a score of its own: under a runtime that runs what the schema reads, an engine on
    its bytes gives every head the baseline's score. -/
theorem stub_model_never_scores (opset : Int64) (io : IoInputTensor) (net : NetInputTensor)
    (audit : AuditInputTensor) :
    let host := exactHost npuHardware info commitFromMemory enableVitis
    let engine := NpuEngine.withOnnxBytes host (generateKavachStubOnnx opset)
    (engine.runIoInference host io).1 = NpuEngine.ioBaseline io ∧
      (engine.runNetInference host net).1 = NpuEngine.netBaseline net ∧
      (engine.runAuditInference host audit).1 = NpuEngine.auditBaseline audit :=
  scores_baseline_of_none npuHardware info commitFromMemory enableVitis (exactScores_stubModel opset) io net
    audit

end Engines

end KavachNpu.OnnxBuilder

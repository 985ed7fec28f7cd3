/-
Module: KavachNpu.Proofs.ReferenceModel
Layer: Proofs
Purpose: The reference model and the CPU baseline are one function. The runtime is the exact one: it reads the
  session's model with the ONNX schema and runs its graph in rational arithmetic with the stored weights.
Trusted boundary: none
Main exports: exactRuntime, read_generateReferenceOnnx, evalNodes_head, reference_scores_eq_baseline,
  new_scores_baseline
-/
import KavachNpu.Foundation.OnnxGraph
import KavachNpu.Proofs.ModelLoading
import KavachNpu.Proofs.ProtoRecords
import Mathlib.Algebra.BigOperators.Field
import Mathlib.Tactic.Ring

namespace KavachNpu.ReferenceModel

/-! ## The exact runtime -/

/-- The tensor that `run_multi_head` builds from the rows of an input: one batch, flattened. -/
def flatTensor {slots : Nat} (input : InputTensor slots) : Tensor ℚ where
  elemType := .int8
  shape := [1, slots, 4]
  data := input.data.flatten.toList.map fun value => (value.toInt : ℚ)
  length_data := by simp

/-- The named inputs of a run. -/
def namedInputs (io : IoInputTensor) (net : NetInputTensor) (audit : AuditInputTensor) : TensorEnv ℚ :=
  [("io_input", flatTensor io), ("net_input", flatTensor net), ("audit_input", flatTensor audit)]

/-- The first element of a named output. -/
def firstOf (outputs : TensorEnv ℚ) (name : String) : Option ExactSingle := do
  let value ← outputs.lookup name
  let first ← value.data.head?
  some ⟨first⟩

/-- The three raw scores of a model. -/
def exactScores (onnxBytes : List UInt8) (io : IoInputTensor) (net : NetInputTensor)
    (audit : AuditInputTensor) : Option (ExactSingle × ExactSingle × ExactSingle) := do
  let model ← ModelProto.read onnxBytes
  let outputs ← model.run (namedInputs io net audit)
  let ioRaw ← firstOf outputs "io_score"
  let netRaw ← firstOf outputs "net_score"
  let auditRaw ← firstOf outputs "audit_score"
  some (ioRaw, netRaw, auditRaw)

/-- A runtime that evaluates graphs exactly, whatever it commits. -/
def exactRuntime (commitFromMemory : Provider → List UInt8 → Except String Unit) :
    OrtRuntime ExactSingle where
  commitFromMemory := commitFromMemory
  run session io net audit :=
    match exactScores session.onnxBytes io net audit with
    | some scores => .ok scores
    | none => .error "session run failed"

/-! ## Reading the model -/

/-- The nodes of a head, as the schema reads them. -/
def headProtos (input float weights weighted flat score suffix : String) : List NodeProto :=
  [⟨[input], [float], "cast_" ++ suffix, "Cast", [⟨"to", some 1, some 2⟩]⟩,
    ⟨[float, weights], [weighted], "matmul_" ++ suffix, "MatMul", []⟩,
    ⟨[weighted], [flat], "flat_" ++ suffix, "Flatten", [⟨"axis", some 1, some 2⟩]⟩,
    ⟨[flat], [score], "mean_" ++ suffix, "ReduceMean", [⟨"keepdims", some 1, some 2⟩]⟩]

/-- The weights of a head, as the schema reads them. -/
def weightProto (name : String) (data : List UInt32) : TensorProto :=
  ⟨[4, 1], 1, name, data.flatMap f32ToLeBytes⟩

/-- The graph of the reference model, as the schema reads it. -/
def referenceGraphProto : GraphProto where
  node :=
    headProtos "io_input" "io_f" "w_io" "io_weighted" "io_flat" "io_score" "io" ++
      headProtos "net_input" "net_f" "w_net" "net_weighted" "net_flat" "net_score" "net" ++
      headProtos "audit_input" "audit_f" "w_audit" "audit_weighted" "audit_flat" "audit_score" "audit"
  name := "kavach_multitask_graph"
  initializer :=
    [weightProto "w_io" [f32Bits07, 0, 0, f32Bits03], weightProto "w_net" [f32Bits10, 0, 0, 0],
      weightProto "w_audit" [f32Bits10, 0, 0, 0]]
  input := [⟨"io_input", 3, [1, 10, 4]⟩, ⟨"net_input", 3, [1, 32, 4]⟩, ⟨"audit_input", 3, [1, 16, 4]⟩]
  output := [⟨"io_score", 1, [1, 1]⟩, ⟨"net_score", 1, [1, 1]⟩, ⟨"audit_score", 1, [1, 1]⟩]

open ProtoWriter

/-- A node whose only attribute, if any, is an integer. -/
theorem read_node {opType name : String} {inputs outputs : List String} (attrs : List (String × Int64))
    (fits : ∀ text ∈ opType :: name :: (inputs ++ outputs ++ attrs.map Prod.fst),
      FitsLength (asBytes text))
    (attrsFit : ∀ attr ∈ attrs, FitsLength (buildIntAttr attr.1 attr.2).bytes) :
    NodeProto.read
        (buildNode opType inputs outputs name (attrs.map fun attr => buildIntAttr attr.1 attr.2)).bytes =
      some ⟨inputs, outputs, name, opType, attrs.map fun attr => ⟨attr.1, some attr.2, some 2⟩⟩ := by
  simp only [List.forall_mem_cons, List.forall_mem_append, List.forall_mem_map] at fits
  obtain ⟨opFits, nameFits, ⟨inputsFit, outputsFit⟩, namesFit⟩ := fits
  apply read_buildNode opFits nameFits inputsFit outputsFit
  · rw [List.forall_mem_map]
    exact attrsFit
  · rw [List.map_map]
    clear attrsFit
    induction attrs with
    | nil => rfl
    | cons attr attrs ih =>
        rw [List.forall_mem_cons] at namesFit
        rw [List.map_cons, List.mapM_cons, ih namesFit.2]
        simp only [Function.comp_apply, read_buildIntAttr namesFit.1]
        rfl

theorem read_headNodes {input float weights weighted flat score suffix : String}
    (fits : ∀ name ∈ [input, float, weights, weighted, flat, score, "cast_" ++ suffix,
      "matmul_" ++ suffix, "flat_" ++ suffix, "mean_" ++ suffix], FitsLength (asBytes name)) :
    ((headNodes input float weights weighted flat score suffix).map ProtoWriter.bytes).mapM NodeProto.read =
      some (headProtos input float weights weighted flat score suffix) := by
  have words : ∀ word ∈ ["Cast", "MatMul", "Flatten", "ReduceMean", "to", "axis", "keepdims"],
      FitsLength (asBytes word) := by decide +kernel
  have attrs : ∀ attr ∈ [("to", 1), ("axis", 1), ("keepdims", (1 : Int64))],
      FitsLength (buildIntAttr attr.1 attr.2).bytes := by decide +kernel
  simp only [List.forall_mem_cons] at fits words attrs
  have cast : NodeProto.read
      (buildNode "Cast" [input] [float] ("cast_" ++ suffix) [buildIntAttr "to" 1]).bytes = some _ :=
    read_node [("to", 1)] (by simp [fits, words]) (by simp [attrs])
  have matmul : NodeProto.read
      (buildNode "MatMul" [float, weights] [weighted] ("matmul_" ++ suffix) []).bytes = some _ :=
    read_node [] (by simp [fits, words]) (by simp)
  have flatten : NodeProto.read
      (buildNode "Flatten" [weighted] [flat] ("flat_" ++ suffix) [buildIntAttr "axis" 1]).bytes = some _ :=
    read_node [("axis", 1)] (by simp [fits, words]) (by simp [attrs])
  have mean : NodeProto.read
      (buildNode "ReduceMean" [flat] [score] ("mean_" ++ suffix) [buildIntAttr "keepdims" 1]).bytes =
        some _ :=
    read_node [("keepdims", 1)] (by simp [fits, words]) (by simp [attrs])
  simp only [headNodes, List.map_cons, List.map_nil, List.mapM_cons, List.mapM_nil, cast, matmul, flatten,
    mean]
  rfl

/-- The nodes of the reference model. -/
def referenceNodes : List ProtoWriter :=
  headNodes "io_input" "io_f" "w_io" "io_weighted" "io_flat" "io_score" "io" ++
    headNodes "net_input" "net_f" "w_net" "net_weighted" "net_flat" "net_score" "net" ++
    headNodes "audit_input" "audit_f" "w_audit" "audit_weighted" "audit_flat" "audit_score" "audit"

theorem read_referenceNodes :
    (referenceNodes.map ProtoWriter.bytes).mapM NodeProto.read = some referenceGraphProto.node := by
  rw [referenceNodes, List.map_append, List.map_append, List.mapM_append, List.mapM_append,
    read_headNodes (by decide +kernel), read_headNodes (by decide +kernel),
    read_headNodes (by decide +kernel)]
  rfl

/-- The records of the graph. -/
theorem readFields_referenceGraph :
    readFields referenceGraph.bytes =
      some
        ([⟨2, .len (asBytes "kavach_multitask_graph")⟩,
            ⟨10, .len (asBytes "Kavach Multi-Task INT8 Detection Graph")⟩,
            ⟨11, .len (buildTensorVi "io_input" 3 [1, 10, 4]).bytes⟩,
            ⟨11, .len (buildTensorVi "net_input" 3 [1, 32, 4]).bytes⟩,
            ⟨11, .len (buildTensorVi "audit_input" 3 [1, 16, 4]).bytes⟩,
            ⟨5, .len (buildTensorProtoF32 "w_io" [4, 1] [f32Bits07, 0, 0, f32Bits03]).bytes⟩,
            ⟨5, .len (buildTensorProtoF32 "w_net" [4, 1] [f32Bits10, 0, 0, 0]).bytes⟩,
            ⟨5, .len (buildTensorProtoF32 "w_audit" [4, 1] [f32Bits10, 0, 0, 0]).bytes⟩,
            ⟨12, .len (buildTensorVi "io_score" 1 [1, 1]).bytes⟩,
            ⟨12, .len (buildTensorVi "net_score" 1 [1, 1]).bytes⟩,
            ⟨12, .len (buildTensorVi "audit_score" 1 [1, 1]).bytes⟩] ++
          referenceNodes.map fun node => ⟨1, .len node.bytes⟩) := by
  have graph := Reads.empty.writeString 2 "kavach_multitask_graph" (by decide) (by decide +kernel)
  have graph := graph.writeString 10 "Kavach Multi-Task INT8 Detection Graph" (by decide)
    (by decide +kernel)
  have graph := graph.writeMessage 11 (buildTensorVi "io_input" 3 [1, 10, 4]) (by decide)
    (by decide +kernel)
  have graph := graph.writeMessage 11 (buildTensorVi "net_input" 3 [1, 32, 4]) (by decide)
    (by decide +kernel)
  have graph := graph.writeMessage 11 (buildTensorVi "audit_input" 3 [1, 16, 4]) (by decide)
    (by decide +kernel)
  have graph := graph.writeMessage 5
    (buildTensorProtoF32 "w_io" [4, 1] [f32Bits07, 0, 0, f32Bits03]) (by decide) (by decide +kernel)
  have graph := graph.writeMessage 5 (buildTensorProtoF32 "w_net" [4, 1] [f32Bits10, 0, 0, 0])
    (by decide) (by decide +kernel)
  have graph := graph.writeMessage 5 (buildTensorProtoF32 "w_audit" [4, 1] [f32Bits10, 0, 0, 0])
    (by decide) (by decide +kernel)
  have graph := graph.writeMessage 12 (buildTensorVi "io_score" 1 [1, 1]) (by decide) (by decide +kernel)
  have graph := graph.writeMessage 12 (buildTensorVi "net_score" 1 [1, 1]) (by decide) (by decide +kernel)
  have graph := graph.writeMessage 12 (buildTensorVi "audit_score" 1 [1, 1]) (by decide)
    (by decide +kernel)
  have nodesFit : ∀ node ∈ referenceNodes, FitsLength node.bytes := by decide +kernel
  exact graph.foldl_writeDelimited 1 (by decide) nodesFit

theorem read_referenceGraph : GraphProto.read referenceGraph.bytes = some referenceGraphProto := by
  simp (disch := decide +kernel) [GraphProto.read, readFields_referenceGraph, readText,
    read_buildTensorVi, read_buildTensorProtoF32, -List.mapM_map, read_referenceNodes]
  rfl

/-- The operator set message of the reference model. -/
def referenceOpset : ProtoWriter :=
  (empty.writeString 1 "").writeInt64 2 21

theorem read_referenceOpset : OperatorSetIdProto.read referenceOpset.bytes = some ⟨"", some 21⟩ := by
  have opset := Reads.empty.writeString 1 "" (by decide) (by decide +kernel)
  have fields : readFields referenceOpset.bytes = some _ := opset.writeInt64 2 (by decide) 21
  simp [OperatorSetIdProto.read, fields, readText]

/-- The reference model, as the schema reads it. -/
def referenceModelProto : ModelProto where
  graph := referenceGraphProto
  opsetImport := [⟨"", some 21⟩]

/-- The bytes of the reference model read as its graph and its operator set. -/
theorem read_generateReferenceOnnx :
    ModelProto.read generateReferenceOnnx = some referenceModelProto := by
  have model := Reads.empty.writeInt64 1 (by decide) 9
  have model := model.writeString 2 "kavach-pack" (by decide) (by decide +kernel)
  have model := model.writeString 3 "0.1.0" (by decide) (by decide +kernel)
  have model := model.writeString 4 "ai.kavach" (by decide) (by decide +kernel)
  have model := model.writeInt64 5 (by decide) 1
  have model := model.writeString 6 "Kavach-NPU Multitask INT8 Computational Graph" (by decide)
    (by decide +kernel)
  have model := model.writeMessage 7 referenceGraph (by decide) (by decide +kernel)
  have fields : readFields generateReferenceOnnx = some _ :=
    model.writeMessage 8 referenceOpset (by decide) (by decide +kernel)
  simp [ModelProto.read, fields, read_referenceGraph, read_referenceOpset, referenceModelProto]

/-! ## A head -/

/-- An element of a flattened input. -/
theorem elem_flatTensor {slots : Nat} (input : InputTensor slots) (slot : Fin slots) (feature : Fin 4) :
    (flatTensor input).elem (slot * 4 + feature) = ((input.data.get slot).get feature).toInt := by
  have bound : slot.val * 4 + feature.val < slots * 4 := by omega
  have quotient : (slot.val * 4 + feature.val) / 4 = slot.val := by omega
  have remainder : (slot.val * 4 + feature.val) % 4 = feature.val := by omega
  have position : slot.val * 4 + feature.val < (flatTensor input).data.length := by
    simpa [flatTensor] using bound
  rw [Tensor.elem, List.getD_eq_getElem?_getD, List.getElem?_eq_getElem position]
  simp only [flatTensor, List.getElem_map, Vector.getElem_toList, Vector.getElem_flatten, quotient,
    remainder, Option.getD_some]
  rfl

/-- The weighted sum of a row. -/
def weightedRow (weights : Tensor ℚ) (row : Vector Int8 4) : ℚ :=
  ∑ feature : Fin 4, ((row.get feature).toInt : ℚ) * weights.elem feature

/-- The mean of the weighted rows. -/
def weightedMean {slots : Nat} (weights : Tensor ℚ) (input : InputTensor slots) : ℚ :=
  (∑ slot : Fin slots, weightedRow weights (input.data.get slot)) / slots

/-- The product of an input with a column of weights. -/
theorem matMul_flatTensor {slots : Nat} (input : InputTensor slots) {weights : Tensor ℚ}
    (float : weights.elemType = .float) (column : weights.shape = [4, 1]) :
    ∃ product : Tensor ℚ, (flatTensor input).castFloat.matMul weights = some product ∧
      product.elemType = .float ∧ product.shape = [1, slots, 1] ∧
      product.data = List.ofFn fun slot => weightedRow weights (input.data.get slot) := by
  have shape : (flatTensor input).castFloat.shape = [1, slots] ++ [4] := rfl
  obtain ⟨product, matMul, type, shape, data⟩ := Tensor.matMul_eq_some shape column rfl float
  have rows : [1, slots].prod = slots := by simp
  refine ⟨product, matMul, type, shape, ?_⟩
  rw [data, rows, Tensor.rowProducts_one]
  congr 1
  funext slot
  apply Finset.sum_congr rfl
  intro feature _
  rw [← elem_flatTensor]
  rfl

theorem flatten_eq_some {slots : Nat} {x : Tensor ℚ} (shape : x.shape = [1, slots, 1]) :
    ∃ flat : Tensor ℚ, x.flatten 1 = some flat ∧ flat.elemType = x.elemType ∧
      flat.shape = [1, slots] ∧ flat.data = x.data := by
  refine ⟨{ x with shape := [1, slots], length_data := by simp [x.length_data, shape] }, ?_, rfl, rfl, rfl⟩
  simp [Tensor.flatten, shape]

/-- A score tensor: one float. -/
structure IsScore (tensor : Tensor ℚ) (value : ℚ) : Prop where
  float : tensor.elemType = .float
  shape : tensor.shape = [1, 1]
  data : tensor.data = [value]

/-- A head adds its four tensors to the environment; the last is the mean of the weighted rows. -/
theorem evalNodes_head (input float weights weighted flat score suffix : String) {env : TensorEnv ℚ}
    {slots : Nat} (positive : 0 < slots) {x : InputTensor slots} {w : Tensor ℚ}
    (readInput : env.lookup input = some (flatTensor x)) (readWeights : env.lookup weights = some w)
    (isFloat : w.elemType = .float) (column : w.shape = [4, 1])
    (fresh : ∀ name ∈ [float, weighted, flat, score], env.lookup name = none)
    (distinct : [float, weighted, flat, score].Nodup) :
    ∃ cast product flattened mean : Tensor ℚ,
      evalNodes (headProtos input float weights weighted flat score suffix) env =
          some ((score, mean) :: (flat, flattened) :: (weighted, product) :: (float, cast) :: env) ∧
        IsScore mean (weightedMean w x) := by
  obtain ⟨product, matMul, productFloat, productShape, productData⟩ := matMul_flatTensor x isFloat column
  obtain ⟨flattened, flatten, flatFloat, flatShape, flatData⟩ := flatten_eq_some productShape
  have nonempty : flattened.data ≠ [] := by
    rw [flatData, productData, ne_eq, List.ofFn_eq_nil_iff]
    omega
  obtain ⟨mean, reduce, meanFloat, meanShape, meanData⟩ :=
    Tensor.reduceMean_eq_some (flatFloat.trans productFloat) nonempty
  refine ⟨(flatTensor x).castFloat, product, flattened, mean, ?_, meanFloat, ?_, ?_⟩
  · simp only [List.forall_mem_cons] at fresh
    obtain ⟨freshFloat, freshWeighted, freshFlat, freshScore, -⟩ := fresh
    have weightsNe : weights ≠ float := by
      rintro rfl
      rw [readWeights] at freshFloat
      cases freshFloat
    simp only [List.nodup_cons, List.mem_cons, not_or] at distinct
    obtain ⟨⟨floatWeighted, floatFlat, floatScore, -⟩, ⟨weightedFlat, weightedScore, -⟩,
      ⟨flatScore, -⟩, -⟩ := distinct
    have castValue : evalOperator "Cast" [⟨"to", some 1, some 2⟩] [flatTensor x] =
        some (flatTensor x).castFloat := rfl
    have matMulValue : evalOperator "MatMul" [] [(flatTensor x).castFloat, w] = some product := matMul
    have flattenValue : evalOperator "Flatten" [⟨"axis", some 1, some 2⟩] [product] = some flattened :=
      flatten
    have meanValue : evalOperator "ReduceMean" [⟨"keepdims", some 1, some 2⟩] [flattened] = some mean :=
      reduce
    have readWeights' : List.lookup weights ((float, (flatTensor x).castFloat) :: env) = some w := by
      rw [lookup_cons_of_ne weightsNe, readWeights]
    rw [headProtos, evalNodes, NodeProto.eval_one readInput castValue freshFloat, Option.bind_some,
      evalNodes, NodeProto.eval_two List.lookup_cons_self readWeights' matMulValue, Option.bind_some,
      evalNodes, NodeProto.eval_one List.lookup_cons_self flattenValue, Option.bind_some,
      evalNodes, NodeProto.eval_one List.lookup_cons_self meanValue, Option.bind_some, evalNodes]
    · rw [lookup_cons_of_ne (Ne.symm flatScore), lookup_cons_of_ne (Ne.symm weightedScore),
        lookup_cons_of_ne (Ne.symm floatScore), freshScore]
    · rw [lookup_cons_of_ne (Ne.symm weightedFlat), lookup_cons_of_ne (Ne.symm floatFlat), freshFlat]
    · rw [lookup_cons_of_ne (Ne.symm floatWeighted), freshWeighted]
  · rw [meanShape, flatShape]
    rfl
  · rw [meanData, flatData, productData, List.sum_ofFn, List.length_ofFn]
    rfl

/-! ## The graph -/

/-- A column of four weights. -/
def column (first second third fourth : ℚ) : Tensor ℚ :=
  ⟨.float, [4, 1], [first, second, third, fourth], rfl⟩

/-- The weights of head 1 are the baseline's constants. -/
theorem toTensor_wIo :
    (weightProto "w_io" [f32Bits07, 0, 0, f32Bits03]).toTensor =
      some ("w_io", column (0.7 : ExactSingle).toRat 0 0 (0.3 : ExactSingle).toRat) := by
  decide +kernel

theorem toTensor_wNet :
    (weightProto "w_net" [f32Bits10, 0, 0, 0]).toTensor = some ("w_net", column 1 0 0 0) := by
  decide +kernel

theorem toTensor_wAudit :
    (weightProto "w_audit" [f32Bits10, 0, 0, 0]).toTensor = some ("w_audit", column 1 0 0 0) := by
  decide +kernel

/-- The environment the nodes start in. -/
def initialEnv (io : IoInputTensor) (net : NetInputTensor) (audit : AuditInputTensor) : TensorEnv ℚ :=
  [("w_io", column (0.7 : ExactSingle).toRat 0 0 (0.3 : ExactSingle).toRat), ("w_net", column 1 0 0 0),
    ("w_audit", column 1 0 0 0)] ++ namedInputs io net audit

theorem selectDeclared_inputs (io : IoInputTensor) (net : NetInputTensor) (audit : AuditInputTensor) :
    selectDeclared referenceGraphProto.input (namedInputs io net audit) =
      some (namedInputs io net audit) := by
  have ioInfo : (ValueInfoProto.mk "io_input" 3 [1, 10, 4]).describes (flatTensor io) = true := rfl
  have netInfo : (ValueInfoProto.mk "net_input" 3 [1, 32, 4]).describes (flatTensor net) = true := rfl
  have auditInfo : (ValueInfoProto.mk "audit_input" 3 [1, 16, 4]).describes (flatTensor audit) = true := rfl
  simp [selectDeclared, referenceGraphProto, namedInputs, List.lookup_cons, ioInfo, netInfo, auditInfo]

theorem evalNodes_reference (io : IoInputTensor) (net : NetInputTensor) (audit : AuditInputTensor) :
    ∃ env ioMean netMean auditMean,
      evalNodes referenceGraphProto.node (initialEnv io net audit) = some env ∧
        env.lookup "io_score" = some ioMean ∧ env.lookup "net_score" = some netMean ∧
        env.lookup "audit_score" = some auditMean ∧
        IsScore ioMean
          (weightedMean (column (0.7 : ExactSingle).toRat 0 0 (0.3 : ExactSingle).toRat) io) ∧
        IsScore netMean (weightedMean (column 1 0 0 0) net) ∧
        IsScore auditMean (weightedMean (column 1 0 0 0) audit) := by
  obtain ⟨io1, io2, io3, ioMean, ioRun, ioScore⟩ :=
    evalNodes_head "io_input" "io_f" "w_io" "io_weighted" "io_flat" "io_score" "io" (by decide)
      (show (initialEnv io net audit).lookup "io_input" = some (flatTensor io) by
        simp [initialEnv, namedInputs, List.lookup_cons])
      (show (initialEnv io net audit).lookup "w_io" = some _ by simp [initialEnv]; rfl) rfl rfl
      (by simp [initialEnv, namedInputs]) (by decide)
  obtain ⟨net1, net2, net3, netMean, netRun, netScore⟩ :=
    evalNodes_head "net_input" "net_f" "w_net" "net_weighted" "net_flat" "net_score" "net" (by decide)
      (show List.lookup "net_input" (("io_score", ioMean) :: ("io_flat", io3) :: ("io_weighted", io2) ::
          ("io_f", io1) :: initialEnv io net audit) = some (flatTensor net) by
        simp [initialEnv, namedInputs, List.lookup_cons])
      (by simp [initialEnv, List.lookup_cons]; rfl) rfl rfl
      (by simp [initialEnv, namedInputs]) (by decide)
  obtain ⟨audit1, audit2, audit3, auditMean, auditRun, auditScore⟩ :=
    evalNodes_head "audit_input" "audit_f" "w_audit" "audit_weighted" "audit_flat" "audit_score" "audit"
      (by decide)
      (show List.lookup "audit_input" (("net_score", netMean) :: ("net_flat", net3) ::
          ("net_weighted", net2) :: ("net_f", net1) :: ("io_score", ioMean) :: ("io_flat", io3) ::
          ("io_weighted", io2) :: ("io_f", io1) :: initialEnv io net audit) = some (flatTensor audit) by
        simp [initialEnv, namedInputs, List.lookup_cons])
      (by simp [initialEnv, List.lookup_cons]; rfl) rfl rfl
      (by simp [initialEnv, namedInputs]) (by decide)
  have run := congrArg (fun env => (env.bind (evalNodes (headProtos "net_input" "net_f" "w_net"
    "net_weighted" "net_flat" "net_score" "net"))).bind (evalNodes (headProtos "audit_input" "audit_f"
    "w_audit" "audit_weighted" "audit_flat" "audit_score" "audit"))) ioRun
  simp only [Option.bind_some, netRun, auditRun] at run
  rw [← evalNodes_append, ← evalNodes_append] at run
  refine ⟨_, ioMean, netMean, auditMean, run, ?_, ?_, List.lookup_cons_self, ioScore, netScore, auditScore⟩
  · simp [List.lookup_cons]
  · simp [List.lookup_cons]

theorem IsScore.describes {tensor : Tensor ℚ} {value : ℚ} (score : IsScore tensor value) (name : String) :
    (ValueInfoProto.mk name 1 [1, 1]).describes tensor = true := by
  rw [ValueInfoProto.describes, score.float, score.shape]
  rfl

/-- The raw scores of the reference model are the means of the weighted rows. -/
theorem exactScores_reference (io : IoInputTensor) (net : NetInputTensor) (audit : AuditInputTensor) :
    exactScores generateReferenceOnnx io net audit =
      some (⟨weightedMean (column (0.7 : ExactSingle).toRat 0 0 (0.3 : ExactSingle).toRat) io⟩,
        ⟨weightedMean (column 1 0 0 0) net⟩, ⟨weightedMean (column 1 0 0 0) audit⟩) := by
  obtain ⟨env, ioMean, netMean, auditMean, run, ioRead, netRead, auditRead, ioScore, netScore,
    auditScore⟩ := evalNodes_reference io net audit
  have outputs : selectDeclared referenceGraphProto.output env =
      some [("io_score", ioMean), ("net_score", netMean), ("audit_score", auditMean)] := by
    simp [selectDeclared, referenceGraphProto, ioRead, netRead, auditRead, ioScore.describes,
      netScore.describes, auditScore.describes]
  have initializers : referenceGraphProto.initializer.mapM TensorProto.toTensor =
      some [("w_io", column (0.7 : ExactSingle).toRat 0 0 (0.3 : ExactSingle).toRat),
        ("w_net", column 1 0 0 0), ("w_audit", column 1 0 0 0)] := by
    rw [referenceGraphProto]
    simp only [List.mapM_cons, List.mapM_nil, toTensor_wIo, toTensor_wNet, toTensor_wAudit]
    rfl
  have graphRun : referenceGraphProto.run (namedInputs io net audit) =
      some [("io_score", ioMean), ("net_score", netMean), ("audit_score", auditMean)] := by
    unfold initialEnv at run
    simp only [GraphProto.run, initializers, selectDeclared_inputs, Option.bind_eq_bind, Option.bind_some,
      run, outputs]
  have modelRun : referenceModelProto.run (namedInputs io net audit) = _ := graphRun
  simp [exactScores, read_generateReferenceOnnx, modelRun, firstOf, List.lookup_cons, ioScore.data,
    netScore.data, auditScore.data]

/-! ## The baseline -/

theorem weightedRow_column (first fourth : ℚ) (row : Vector Int8 4) :
    weightedRow (column first 0 0 fourth) row =
      (row.get 0).toInt * first + (row.get 3).toInt * fourth := by
  rw [weightedRow, Fin.sum_univ_four]
  have second : (column first 0 0 fourth).elem 1 = 0 := rfl
  have third : (column first 0 0 fourth).elem 2 = 0 := rfl
  simp only [Fin.isValue, Fin.val_zero, Fin.val_one, Fin.val_two, second, third, mul_zero, add_zero]
  rfl

/-- A loop of additions over the rows of a tensor. -/
theorem toRat_foldl_add {slots : Nat} (data : Vector (Vector Int8 4) slots)
    (term : Vector Int8 4 → ExactSingle) (start : ExactSingle) :
    (data.foldl (fun total row => total + term row) start).toRat =
      start.toRat + ∑ slot : Fin slots, (term (data.get slot)).toRat := by
  have terms : (data.toList.map fun row => (term row).toRat) =
      List.ofFn fun slot : Fin slots => (term (data.get slot)).toRat := by
    apply List.ext_getElem
    · simp
    · intro slot _ _
      simp [Vector.get]
  rw [← Vector.foldl_toList, ← List.sum_ofFn, ← terms]
  generalize data.toList = rows
  clear terms
  induction rows generalizing start with
  | nil => simp
  | cons row rows ih => rw [List.foldl_cons, ih, List.map_cons, List.sum_cons, ExactSingle.toRat_add, add_assoc]

theorem toRat_zero : (0.0 : ExactSingle).toRat = 0 := by decide +kernel

theorem toRat_scale : (127.0 : ExactSingle).toRat = 127 := by decide +kernel

/-- The scaled mean of head 1 is the baseline's mean of scaled rows. -/
theorem ioMean_scaled (io : IoInputTensor) :
    NpuEngine.ioBaseline io =
      clamp
        ((⟨weightedMean (column (0.7 : ExactSingle).toRat 0 0 (0.3 : ExactSingle).toRat) io⟩ :
          ExactSingle) / 127.0) 0.0 1.0 := by
  have slots : (10.0 : ExactSingle).toRat = 10 := by decide +kernel
  refine congrArg (fun score : ExactSingle => clamp score 0.0 1.0) (ExactSingle.ext_toRat ?_)
  simp only [ExactSingle.toRat_div, toRat_foldl_add, ExactSingle.toRat_add, ExactSingle.toRat_mul,
    ExactSingle.toRat_intCast, toRat_zero, toRat_scale, slots, zero_add, weightedMean,
    weightedRow_column]
  rw [div_right_comm, Nat.cast_ofNat, Finset.sum_div, Finset.sum_div, Finset.sum_div]
  apply Finset.sum_congr rfl
  intro slot _
  have first : (io.data.get slot).get 0 = (io.data.get slot)[0] := rfl
  have fourth : (io.data.get slot).get 3 = (io.data.get slot)[3] := rfl
  rw [first, fourth]
  ring

/-- The scaled mean of the first feature is the mean of the scaled features. -/
theorem firstFeature_scaled {slots : Nat} (input : InputTensor slots) (count : ExactSingle)
    (isCount : count.toRat = slots) :
    NpuEngine.firstFeatureSum input / count =
      (⟨weightedMean (column 1 0 0 0) input⟩ : ExactSingle) / 127.0 := by
  apply ExactSingle.ext_toRat
  simp only [NpuEngine.firstFeatureSum, ExactSingle.toRat_div, toRat_foldl_add,
    ExactSingle.toRat_intCast, toRat_zero, toRat_scale, isCount, zero_add, weightedMean,
    weightedRow_column, mul_one, mul_zero, add_zero]
  rw [div_right_comm, Finset.sum_div, Finset.sum_div, Finset.sum_div]
  rfl

theorem netMean_scaled (net : NetInputTensor) :
    NpuEngine.netBaseline net =
      clamp ((⟨weightedMean (column 1 0 0 0) net⟩ : ExactSingle) / 127.0) 0.0 1.0 := by
  rw [NpuEngine.netBaseline, firstFeature_scaled net 32.0 (by decide +kernel)]

theorem auditMean_scaled (audit : AuditInputTensor) :
    NpuEngine.auditBaseline audit =
      clamp ((⟨weightedMean (column 1 0 0 0) audit⟩ : ExactSingle) / 127.0) 0.0 1.0 := by
  rw [NpuEngine.auditBaseline, firstFeature_scaled audit 16.0 (by decide +kernel)]

/-! ## One function -/

section Sessions

variable (npuHardware : Bool) (info : NpuHardwareInfo)
  (commitFromMemory : Provider → List UInt8 → Except String Unit) (enableVitis : Bool)

/-- A host with the exact runtime. -/
def exactHost : NpuHost ExactSingle :=
  ⟨npuHardware, info, exactRuntime commitFromMemory, enableVitis⟩

section Heads

variable {ort : OrtBackendSession} (reference : ort.session.onnxBytes = generateReferenceOnnx)
include reference

/-- One evaluation of the reference model scores all three heads as the baseline does. -/
theorem runMultiHead_reference (io : IoInputTensor) (net : NetInputTensor) (audit : AuditInputTensor) :
    ort.runMultiHead (exactHost npuHardware info commitFromMemory enableVitis) io net audit =
      .ok (NpuEngine.ioBaseline io, NpuEngine.netBaseline net, NpuEngine.auditBaseline audit) := by
  rw [OrtBackendSession.runMultiHead]
  simp only [exactHost, exactRuntime, reference, exactScores_reference, ioMean_scaled, netMean_scaled,
    auditMean_scaled]

theorem runIoInference_reference (io : IoInputTensor) :
    ort.runIoInference (exactHost npuHardware info commitFromMemory enableVitis) io =
      .ok (NpuEngine.ioBaseline io) := by
  rw [OrtBackendSession.runIoInference, runMultiHead_reference _ _ _ _ reference]
  rfl

theorem runNetInference_reference (net : NetInputTensor) :
    ort.runNetInference (exactHost npuHardware info commitFromMemory enableVitis) net =
      .ok (NpuEngine.netBaseline net) := by
  rw [OrtBackendSession.runNetInference, runMultiHead_reference _ _ _ _ reference]
  rfl

theorem runAuditInference_reference (audit : AuditInputTensor) :
    ort.runAuditInference (exactHost npuHardware info commitFromMemory enableVitis) audit =
      .ok (NpuEngine.auditBaseline audit) := by
  rw [OrtBackendSession.runAuditInference, runMultiHead_reference _ _ _ _ reference]
  rfl

end Heads

/-- The reference model and the CPU baseline are the same function: a session on the reference model gives
    each head the baseline's score of its own tensor, whatever the other heads are given, and so does the
    evaluation of a single head with zero tensors for the others. -/
theorem reference_scores_eq_baseline (provider : Provider) (backend : ExecutionProviderBackend)
    (io : IoInputTensor) (net : NetInputTensor) (audit : AuditInputTensor) :
    let host := exactHost npuHardware info commitFromMemory enableVitis
    let session : OrtBackendSession := ⟨⟨generateReferenceOnnx, provider⟩, backend⟩
    session.runMultiHead host io net audit =
        .ok (NpuEngine.ioBaseline io, NpuEngine.netBaseline net, NpuEngine.auditBaseline audit) ∧
      session.runIoInference host io = .ok (NpuEngine.ioBaseline io) ∧
      session.runNetInference host net = .ok (NpuEngine.netBaseline net) ∧
      session.runAuditInference host audit = .ok (NpuEngine.auditBaseline audit) := by
  intro host session
  exact ⟨runMultiHead_reference _ _ _ _ rfl io net audit, runIoInference_reference _ _ _ _ rfl io,
    runNetInference_reference _ _ _ _ rfl net, runAuditInference_reference _ _ _ _ rfl audit⟩

/-- The score is the baseline's if the session, when there is one, gives the baseline's. -/
theorem scoreOr_eq_baseline {engine : NpuEngine} {score : OrtBackendSession → Except String ExactSingle}
    {baseline : ExactSingle} (same : ∀ ort, engine.ortSession = some ort → score ort = .ok baseline) :
    engine.scoreOr score baseline = baseline := by
  rw [NpuEngine.scoreOr]
  split
  · rename_i ort present
    rw [same ort present]
  · rfl

/-- The engine of the reference model gives the baseline's scores, with or without a session. -/
theorem new_scores_baseline (io : IoInputTensor) (net : NetInputTensor) (audit : AuditInputTensor) :
    let host := exactHost npuHardware info commitFromMemory enableVitis
    ((NpuEngine.new host).runIoInference host io).1 = NpuEngine.ioBaseline io ∧
      ((NpuEngine.new host).runNetInference host net).1 = NpuEngine.netBaseline net ∧
      ((NpuEngine.new host).runAuditInference host audit).1 = NpuEngine.auditBaseline audit := by
  intro host
  have reference : ∀ ort, (NpuEngine.new host).ortSession = some ort →
      ort.session.onnxBytes = generateReferenceOnnx := by
    intro ort present
    have built : OrtBackendSession.fromReferenceModel host = .ok ort :=
      NpuSession.eq_ok_of_sessionOf present
    exact NpuSession.onnxBytes_of_fromBytes built
  refine ⟨scoreOr_eq_baseline ?_, scoreOr_eq_baseline ?_, scoreOr_eq_baseline ?_⟩
  · intro ort present
    exact runIoInference_reference _ _ _ _ (reference ort present) io
  · intro ort present
    exact runNetInference_reference _ _ _ _ (reference ort present) net
  · intro ort present
    exact runAuditInference_reference _ _ _ _ (reference ort present) audit

end Sessions

end KavachNpu.ReferenceModel

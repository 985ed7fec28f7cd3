/-
Module: KavachNpu.Foundation.OnnxGraph
Layer: Foundation
Purpose: The meaning of an ONNX graph in exact arithmetic. Tensors are shapes with their elements in
  row-major order; a graph runs its nodes in order over an environment of named tensors, each name assigned
  once. The operators are those of operator set 18 on: `Cast` to FLOAT, `MatMul` with a matrix on the right,
  `Flatten`, and `ReduceMean` over all axes. A model outside of this has no meaning here.
Trusted boundary: human-reviewed spec
Main exports: Tensor, Tensor.matMul, Tensor.flatten, Tensor.reduceMean, NodeProto.eval, evalNodes,
  GraphProto.run, ModelProto.run
-/
import KavachNpu.Foundation.ExactSingle
import KavachNpu.Foundation.OnnxSchema
import Mathlib.Algebra.BigOperators.Fin
import Mathlib.Algebra.Field.Rat

namespace KavachNpu

/-- The element types. -/
inductive ElemType where
  | float
  | int8
deriving DecidableEq

/-- The element type of a `TensorProto.DataType`. -/
def ElemType.ofCode (code : Int64) : Option ElemType :=
  if code = 1 then some .float else if code = 3 then some .int8 else none

/-- A tensor: its elements in row-major order. -/
structure Tensor (α : Type) where
  elemType : ElemType
  shape : List Nat
  data : List α
  length_data : data.length = shape.prod
deriving DecidableEq

namespace Tensor

variable {α : Type}

/-- The tensor with the given elements, if they fill the shape. -/
def ofData (elemType : ElemType) (shape : List Nat) (data : List α) : Option (Tensor α) :=
  if length_data : data.length = shape.prod then some ⟨elemType, shape, data, length_data⟩ else none

/-- `Cast` to FLOAT, which is exact on INT8. -/
def castFloat (x : Tensor α) : Tensor α :=
  { x with elemType := .float }

/-- The two dimensions of `Flatten`: the product up to the axis, and from the axis on. A negative axis
    counts from the end. -/
def flatten (axis : Int) (x : Tensor α) : Option (Tensor α) :=
  let rank : Int := x.shape.length
  if -rank ≤ axis ∧ axis ≤ rank then
    let cut := (if axis < 0 then axis + rank else axis).toNat
    some
      { x with
        shape := [(x.shape.take cut).prod, (x.shape.drop cut).prod]
        length_data := by simp [x.length_data, List.prod_take_mul_prod_drop] }
  else
    none

variable [Field α]

/-- An element by its position. -/
def elem (x : Tensor α) (position : Nat) : α :=
  x.data.getD position 0

/-- The products of a number of rows with the columns of a matrix. -/
def rowProducts (x y : Tensor α) (rows inner columns : Nat) : List α :=
  List.ofFn fun position : Fin (rows * columns) =>
    ∑ l : Fin inner, x.elem (position / columns * inner + l) * y.elem (l * columns + position % columns)

/-- `MatMul` of a stack of rows with a matrix: the last axis of the left operand is contracted. -/
def matMul (x y : Tensor α) : Option (Tensor α) :=
  match x.shape.getLast?, y.shape with
  | some inner, [rows, columns] =>
      if inner = rows ∧ x.elemType = .float ∧ y.elemType = .float then
        some
          { elemType := .float
            shape := x.shape.dropLast ++ [columns]
            data := x.rowProducts y x.shape.dropLast.prod inner columns
            length_data := by simp [rowProducts] }
      else
        none
  | _, _ => none

/-- `ReduceMean` over all axes, kept with length 1 or dropped. Over no element there is no mean. -/
def reduceMean (keepdims : Bool) (x : Tensor α) : Option (Tensor α) :=
  if x.elemType = .float ∧ x.data ≠ [] then
    some
      { elemType := .float
        shape := if keepdims then x.shape.map fun _ => 1 else []
        data := [x.data.sum / x.data.length]
        length_data := by cases keepdims <;> simp }
  else
    none

/-- The product with a matrix whose rows match the last axis. -/
theorem matMul_eq_some {x y : Tensor α} {lead : List Nat} {inner columns : Nat}
    (xShape : x.shape = lead ++ [inner]) (yShape : y.shape = [inner, columns])
    (xFloat : x.elemType = .float) (yFloat : y.elemType = .float) :
    ∃ product : Tensor α, x.matMul y = some product ∧ product.elemType = .float ∧
      product.shape = lead ++ [columns] ∧ product.data = x.rowProducts y lead.prod inner columns := by
  have last : x.shape.getLast? = some inner := by
    rw [xShape, List.getLast?_append, List.getLast?_singleton, Option.some_or]
  have init : x.shape.dropLast = lead := by
    rw [xShape, List.dropLast_concat]
  unfold matMul
  simp only [last, yShape, xFloat, yFloat, and_self, if_true]
  exact ⟨_, rfl, rfl, congrArg (fun lead => lead ++ [columns]) init,
    congrArg (fun lead => x.rowProducts y lead.prod inner columns) init⟩

/-- The products with a single column. -/
theorem rowProducts_one (x y : Tensor α) (rows inner : Nat) :
    x.rowProducts y rows inner 1 = List.ofFn fun row : Fin rows =>
      ∑ l : Fin inner, x.elem (row * inner + l) * y.elem l := by
  apply List.ext_getElem
  · simp [rowProducts]
  · intro position _ _
    simp [rowProducts, Nat.mod_one]

/-- The mean of a nonempty float tensor. -/
theorem reduceMean_eq_some {x : Tensor α} (float : x.elemType = .float) (nonempty : x.data ≠ []) :
    ∃ mean : Tensor α, x.reduceMean true = some mean ∧ mean.elemType = .float ∧
      mean.shape = x.shape.map (fun _ => 1) ∧ mean.data = [x.data.sum / x.data.length] := by
  unfold reduceMean
  rw [if_pos ⟨float, nonempty⟩]
  exact ⟨_, rfl, rfl, rfl, rfl⟩

end Tensor

/-! ## Nodes -/

/-- The value of an integer attribute. -/
def intAttribute (attributes : List AttributeProto) (name : String) : Option Int64 :=
  (attributes.find? fun attr => attr.name = name ∧ attr.type = some 2).map fun attr => attr.i.getD 0

/-- Named tensors, the latest first. -/
abbrev TensorEnv (α : Type) := List (String × Tensor α)

theorem lookup_cons_of_ne {α : Type} {name other : String} (ne : name ≠ other) (value : Tensor α)
    (env : TensorEnv α) : List.lookup name ((other, value) :: env) = env.lookup name := by
  rw [List.lookup_cons, beq_eq_false_iff_ne.mpr ne]

section Evaluation

variable {α : Type} [Field α]

/-- The result of an operator. -/
def evalOperator (opType : String) (attributes : List AttributeProto) (arguments : List (Tensor α)) :
    Option (Tensor α) :=
  match opType, arguments with
  | "Cast", [x] => if intAttribute attributes "to" = some 1 then some x.castFloat else none
  | "MatMul", [x, y] => x.matMul y
  | "Flatten", [x] => x.flatten ((intAttribute attributes "axis").getD 1).toInt
  | "ReduceMean", [x] =>
      if (intAttribute attributes "noop_with_empty_axes").getD 0 = 0 then
        x.reduceMean ((intAttribute attributes "keepdims").getD 1 = 1)
      else
        some x
  | _, _ => none

/-- Runs a node: reads its inputs and assigns its output. -/
def NodeProto.eval (node : NodeProto) (env : TensorEnv α) : Option (TensorEnv α) := do
  let arguments ← node.input.mapM fun name => env.lookup name
  let result ← evalOperator node.opType node.attributes arguments
  match node.output with
  | [name] => if env.lookup name = none then some ((name, result) :: env) else none
  | _ => none

/-- Runs the nodes in order. -/
def evalNodes : List NodeProto → TensorEnv α → Option (TensorEnv α)
  | [], env => some env
  | node :: nodes, env => (node.eval env).bind (evalNodes nodes)

theorem evalNodes_append (nodes others : List NodeProto) (env : TensorEnv α) :
    evalNodes (nodes ++ others) env = (evalNodes nodes env).bind (evalNodes others) := by
  induction nodes generalizing env with
  | nil => rfl
  | cons node nodes ih =>
      rw [List.cons_append, evalNodes, evalNodes, Option.bind_assoc]
      congr 1
      funext next
      exact ih next

/-- A node of one input, whose output is a fresh name. -/
theorem NodeProto.eval_one {env : TensorEnv α} {x result : Tensor α} {input output name opType : String}
    {attributes : List AttributeProto} (read : env.lookup input = some x)
    (value : evalOperator opType attributes [x] = some result) (fresh : env.lookup output = none) :
    NodeProto.eval ⟨[input], [output], name, opType, attributes⟩ env =
      some ((output, result) :: env) := by
  simp only [NodeProto.eval, List.mapM_cons, List.mapM_nil, read, Option.pure_def, Option.bind_eq_bind,
    Option.bind_some, value, fresh, if_true]

/-- A node of two inputs, whose output is a fresh name. -/
theorem NodeProto.eval_two {env : TensorEnv α} {x y result : Tensor α}
    {input second output name opType : String} {attributes : List AttributeProto}
    (read : env.lookup input = some x) (readSecond : env.lookup second = some y)
    (value : evalOperator opType attributes [x, y] = some result) (fresh : env.lookup output = none) :
    NodeProto.eval ⟨[input, second], [output], name, opType, attributes⟩ env =
      some ((output, result) :: env) := by
  simp only [NodeProto.eval, List.mapM_cons, List.mapM_nil, read, readSecond, Option.pure_def,
    Option.bind_eq_bind, Option.bind_some, value, fresh, if_true]

end Evaluation

/-! ## Models -/

/-- The floats of raw data, little-endian. -/
def rawFloats : List UInt8 → Option (List ℚ)
  | [] => some []
  | b0 :: b1 :: b2 :: b3 :: rest => do
      let bits := b0.toNat + 2 ^ 8 * b1.toNat + 2 ^ 16 * b2.toNat + 2 ^ 24 * b3.toNat
      let first ← singleOfBits (UInt32.ofNat bits)
      let others ← rawFloats rest
      some (first :: others)
  | _ => none

/-- A shape without negative dimensions. -/
def naturalShape (dims : List Int64) : Option (List Nat) :=
  dims.mapM fun d => if 0 ≤ d.toInt then some d.toInt.toNat else none

/-- The tensor of an initializer with raw FLOAT data. -/
def TensorProto.toTensor (tensor : TensorProto) : Option (String × Tensor ℚ) := do
  let elemType ← ElemType.ofCode tensor.dataType
  let shape ← naturalShape tensor.dims
  let data ← if elemType = .float then rawFloats tensor.rawData else none
  let value ← Tensor.ofData elemType shape data
  some (tensor.name, value)

/-- Whether a value has the declared element type and shape. -/
def ValueInfoProto.describes (info : ValueInfoProto) (value : Tensor ℚ) : Bool :=
  ElemType.ofCode info.elemType = some value.elemType ∧ naturalShape info.shape = some value.shape

/-- The declared values of the environment, by name. -/
def selectDeclared (infos : List ValueInfoProto) (env : TensorEnv ℚ) : Option (TensorEnv ℚ) :=
  infos.mapM fun info => do
    let value ← env.lookup info.name
    if info.describes value then some (info.name, value) else none

/-- Runs a graph on its inputs and returns its outputs. -/
def GraphProto.run (graph : GraphProto) (inputs : TensorEnv ℚ) : Option (TensorEnv ℚ) := do
  let initializers ← graph.initializer.mapM TensorProto.toTensor
  let inputs ← selectDeclared graph.input inputs
  let env ← evalNodes graph.node (initializers ++ inputs)
  selectDeclared graph.output env

/-- Runs a model that imports the default operators from version 18 on. -/
def ModelProto.run (model : ModelProto) (inputs : TensorEnv ℚ) : Option (TensorEnv ℚ) :=
  let supported := model.opsetImport.any fun opset =>
    opset.domain = "" ∧ 18 ≤ (opset.version.getD 0).toInt
  if supported then model.graph.run inputs else none

end KavachNpu

/-
Module: KavachNpu.Foundation.OnnxSchema
Layer: Foundation
Purpose: The messages of an ONNX model, read from their records by the field numbers of the ONNX schema. A
  singular field that occurs several times has its last value, and unknown fields are skipped.
Trusted boundary: human-reviewed spec
Main exports: AttributeProto, NodeProto, TensorProto, ValueInfoProto, GraphProto, ModelProto, payloads,
  integers
-/
import KavachNpu.Foundation.ProtoWire
import KavachNpu.Foundation.Utf8

namespace KavachNpu

/-! ## Fields -/

/-- The length-delimited values of a field, in order. -/
def payloads (number : Nat) (fields : List WireField) : List (List UInt8) :=
  fields.filterMap fun field =>
    match field.value with
    | .len payload => if field.number = number then some payload else none
    | _ => none

/-- The integer values of a field, in order. -/
def integers (number : Nat) (fields : List WireField) : List Int64 :=
  fields.filterMap fun field =>
    match field.value with
    | .varint value => if field.number = number then some value.toInt64 else none
    | _ => none

/-- A singular string, empty by default. -/
def readText (number : Nat) (fields : List WireField) : Option String :=
  match (payloads number fields).getLast? with
  | some payload => fromUtf8 payload
  | none => some ""

/-- The records of a singular message. -/
def readMessage (number : Nat) (fields : List WireField) : Option (List WireField) :=
  (payloads number fields).getLast?.bind readFields

/-! ## Messages -/

/-- An attribute of a node; only integer values are read. -/
structure AttributeProto where
  name : String
  i : Option Int64
  type : Option Int64
deriving DecidableEq

/-- A node of the graph. -/
structure NodeProto where
  input : List String
  output : List String
  name : String
  opType : String
  attributes : List AttributeProto
deriving DecidableEq

/-- A constant tensor with its raw data. -/
structure TensorProto where
  dims : List Int64
  dataType : Int64
  name : String
  rawData : List UInt8
deriving DecidableEq

/-- The name, element type and shape of a tensor. -/
structure ValueInfoProto where
  name : String
  elemType : Int64
  shape : List Int64
deriving DecidableEq

/-- A graph. -/
structure GraphProto where
  node : List NodeProto
  name : String
  initializer : List TensorProto
  input : List ValueInfoProto
  output : List ValueInfoProto
deriving DecidableEq

/-- An operator set: its domain and version. -/
structure OperatorSetIdProto where
  domain : String
  version : Option Int64
deriving DecidableEq

/-- A model. -/
structure ModelProto where
  graph : GraphProto
  opsetImport : List OperatorSetIdProto
deriving DecidableEq

/-! ## Readers -/

/-- `AttributeProto`: name = 1, i = 3, type = 20. -/
def AttributeProto.read (bytes : List UInt8) : Option AttributeProto := do
  let fields ← readFields bytes
  let name ← readText 1 fields
  some
    { name := name
      i := (integers 3 fields).getLast?
      type := (integers 20 fields).getLast? }

/-- `NodeProto`: input = 1, output = 2, name = 3, op_type = 4, attribute = 5. -/
def NodeProto.read (bytes : List UInt8) : Option NodeProto := do
  let fields ← readFields bytes
  let input ← (payloads 1 fields).mapM fromUtf8
  let output ← (payloads 2 fields).mapM fromUtf8
  let name ← readText 3 fields
  let opType ← readText 4 fields
  let attributes ← (payloads 5 fields).mapM AttributeProto.read
  some
    { input := input
      output := output
      name := name
      opType := opType
      attributes := attributes }

/-- `TensorProto`: dims = 1, data_type = 2, name = 8, raw_data = 9. -/
def TensorProto.read (bytes : List UInt8) : Option TensorProto := do
  let fields ← readFields bytes
  let dataType ← (integers 2 fields).getLast?
  let name ← readText 8 fields
  some
    { dims := integers 1 fields
      dataType := dataType
      name := name
      rawData := (payloads 9 fields).getLast?.getD [] }

/-- `TensorShapeProto.Dimension`: dim_value = 1. -/
def readDimension (bytes : List UInt8) : Option Int64 := do
  let fields ← readFields bytes
  (integers 1 fields).getLast?

/-- `ValueInfoProto`: name = 1, type = 2; `TypeProto`: tensor_type = 1; `TypeProto.Tensor`: elem_type = 1,
    shape = 2; `TensorShapeProto`: dim = 1. -/
def ValueInfoProto.read (bytes : List UInt8) : Option ValueInfoProto := do
  let fields ← readFields bytes
  let name ← readText 1 fields
  let type ← readMessage 2 fields
  let tensorType ← readMessage 1 type
  let elemType ← (integers 1 tensorType).getLast?
  let shape ← readMessage 2 tensorType
  let dims ← (payloads 1 shape).mapM readDimension
  some
    { name := name
      elemType := elemType
      shape := dims }

/-- `GraphProto`: node = 1, name = 2, initializer = 5, input = 11, output = 12. -/
def GraphProto.read (bytes : List UInt8) : Option GraphProto := do
  let fields ← readFields bytes
  let node ← (payloads 1 fields).mapM NodeProto.read
  let name ← readText 2 fields
  let initializer ← (payloads 5 fields).mapM TensorProto.read
  let input ← (payloads 11 fields).mapM ValueInfoProto.read
  let output ← (payloads 12 fields).mapM ValueInfoProto.read
  some
    { node := node
      name := name
      initializer := initializer
      input := input
      output := output }

/-- `OperatorSetIdProto`: domain = 1, version = 2. -/
def OperatorSetIdProto.read (bytes : List UInt8) : Option OperatorSetIdProto := do
  let fields ← readFields bytes
  let domain ← readText 1 fields
  some
    { domain := domain
      version := (integers 2 fields).getLast? }

/-- `ModelProto`: graph = 7, opset_import = 8. -/
def ModelProto.read (bytes : List UInt8) : Option ModelProto := do
  let fields ← readFields bytes
  let graphBytes ← (payloads 7 fields).getLast?
  let graph ← GraphProto.read graphBytes
  let opsetImport ← (payloads 8 fields).mapM OperatorSetIdProto.read
  some
    { graph := graph
      opsetImport := opsetImport }

/-! ## Selecting from lists of records -/

@[simp] theorem payloads_nil (number : Nat) : payloads number [] = [] := rfl

@[simp] theorem payloads_len_cons (number n : Nat) (payload : List UInt8) (fields : List WireField) :
    payloads number (⟨n, .len payload⟩ :: fields) =
      if n = number then payload :: payloads number fields else payloads number fields := by
  unfold payloads
  rw [List.filterMap_cons]
  split <;> simp_all

@[simp] theorem payloads_varint_cons (number n : Nat) (value : UInt64) (fields : List WireField) :
    payloads number (⟨n, .varint value⟩ :: fields) = payloads number fields := rfl

@[simp] theorem payloads_append (number : Nat) (fields others : List WireField) :
    payloads number (fields ++ others) = payloads number fields ++ payloads number others :=
  List.filterMap_append

/-- The values of a repeated length-delimited field. -/
@[simp] theorem payloads_map_len {α : Type} (number n : Nat) (bytes : α → List UInt8) (values : List α) :
    payloads number (values.map fun value => ⟨n, .len (bytes value)⟩) =
      if n = number then values.map bytes else [] := by
  induction values with
  | nil => simp
  | cons value values ih =>
      rw [List.map_cons, payloads_len_cons, ih]
      split <;> rfl

@[simp] theorem payloads_map_varint {α : Type} (number n : Nat) (int : α → UInt64) (values : List α) :
    payloads number (values.map fun value => ⟨n, .varint (int value)⟩) = [] := by
  induction values with
  | nil => rfl
  | cons value values ih => rw [List.map_cons, payloads_varint_cons, ih]

@[simp] theorem integers_nil (number : Nat) : integers number [] = [] := rfl

@[simp] theorem integers_varint_cons (number n : Nat) (value : UInt64) (fields : List WireField) :
    integers number (⟨n, .varint value⟩ :: fields) =
      if n = number then value.toInt64 :: integers number fields else integers number fields := by
  unfold integers
  rw [List.filterMap_cons]
  split <;> simp_all

@[simp] theorem integers_len_cons (number n : Nat) (payload : List UInt8) (fields : List WireField) :
    integers number (⟨n, .len payload⟩ :: fields) = integers number fields := rfl

@[simp] theorem integers_append (number : Nat) (fields others : List WireField) :
    integers number (fields ++ others) = integers number fields ++ integers number others :=
  List.filterMap_append

/-- The values of a repeated integer field. -/
@[simp] theorem integers_map_varint {α : Type} (number n : Nat) (int : α → UInt64) (values : List α) :
    integers number (values.map fun value => ⟨n, .varint (int value)⟩) =
      if n = number then values.map fun value => (int value).toInt64 else [] := by
  induction values with
  | nil => simp
  | cons value values ih =>
      rw [List.map_cons, integers_varint_cons, ih]
      split <;> rfl

/-- A string that was encoded is decoded. -/
@[simp] theorem fromUtf8_asBytes (text : String) : fromUtf8 (asBytes text) = some text :=
  fromUtf8_eq_some.mpr rfl

/-- Reading back a list of written values. -/
theorem mapM_map_eq_some {α β : Type} {read : β → Option α} {write : α → β} {values : List α}
    (roundTrip : ∀ value ∈ values, read (write value) = some value) :
    (values.map write).mapM read = some values := by
  induction values with
  | nil => rfl
  | cons value values ih =>
      rw [List.map_cons, List.mapM_cons, roundTrip value (List.mem_cons_self),
        ih fun other mem => roundTrip other (List.mem_cons_of_mem _ mem)]
      rfl

end KavachNpu

/-
Module: KavachNpu.Core.Tensor
Layer: Core
Purpose: Static INT8 quantization and the input tensors of the three heads, over any single-precision
  arithmetic.
Trusted boundary: human-reviewed spec
Main exports: QuantizationParams, quantizeF32ToI8, dequantizeI8ToF32, InputTensor,
  InputTensor.fromF32Matrix, InputTensor.asBytes
-/
import KavachNpu.Foundation.Arithmetic
import KavachNpu.Foundation.Bytes

namespace KavachNpu

/-- An INT8 input tensor of the given number of slots, four features each. -/
structure InputTensor (slots : Nat) where
  data : Vector (Vector Int8 4) slots
deriving DecidableEq

/-- Head 1 input tensor. -/
abbrev IoInputTensor := InputTensor 10

/-- Head 2 input tensor. -/
abbrev NetInputTensor := InputTensor 32

/-- Head 3 input tensor. -/
abbrev AuditInputTensor := InputTensor 16

/-- Parameters of the map from single-precision features to INT8. -/
structure QuantizationParams (S : Type) where
  scale : S
  zeroPoint : Int8

section Arithmetic

variable {S : Type} [Add S] [Div S] [LT S] [DecidableLT S] [IntCast S] [Neg S] [OfScientific S]
  [FloatOps S]

/-- `QuantizationParams::default`. -/
def QuantizationParams.default : QuantizationParams S :=
  { scale := 1.0 / 127.0
    zeroPoint := 0 }

/-- `clamp(round(val / scale) + zero_point, -128, 127)`. -/
def quantizeF32ToI8 (val : S) (params : QuantizationParams S) : Int8 :=
  let scaled := FloatOps.round (val / params.scale) + (params.zeroPoint.toInt : S)
  FloatOps.asI8 (clamp scaled (-128.0) 127.0)

/-- `(q - zero_point) * scale`. -/
def dequantizeI8ToF32 [Sub S] [Mul S] (q : Int8) (params : QuantizationParams S) : S :=
  ((q.toInt : S) - (params.zeroPoint.toInt : S)) * params.scale

/-- The tensor of a matrix, quantized entry by entry. -/
def InputTensor.fromF32Matrix {slots : Nat} (matrix : Vector (Vector S 4) slots)
    (params : QuantizationParams S) : InputTensor slots :=
  ⟨matrix.map fun row => row.map fun val => quantizeF32ToI8 val params⟩

end Arithmetic

/-- The tensor as one buffer, row after row. -/
def InputTensor.asBytes {slots : Nat} (tensor : InputTensor slots) : Bytes (slots * 4) :=
  ⟨(tensor.data.toList.map fun row => row.toList.map Int8.toUInt8).flatten, by
    rw [List.length_flatten, List.map_map]
    simp [Function.comp_def]⟩

end KavachNpu

/-
Module: KavachNpu.Proofs.Quantization
Layer: Proofs
Purpose: What quantization keeps of a feature, in any exact arithmetic. `toInt_quantize` says what the code
  computes; from it, quantizing is monotone, undoes dequantizing, and is undone by it up to half a step
  exactly on the values that do not saturate. The buffer of a tensor is read back to that tensor.
Trusted boundary: none
Main exports: toInt_quantize, quantize_round_trip, InputTensor.tensor_codec
-/
import Mathlib.Data.List.OfFn
import Mathlib.Logic.Equiv.Fin.Basic
import KavachNpu.Core.Tensor
import KavachNpu.Foundation.ExactArithmetic

namespace KavachNpu

section Exact

variable {F : Type} [Field F] [LinearOrder F] [IsStrictOrderedRing F] [FloorRing F] [FloatOps F]
  [ExactArithmetic F]

/-- The quantized value: the nearest number of steps, shifted and cut off at the ends. -/
theorem toInt_quantize (val : F) (params : QuantizationParams F) :
    (quantizeF32ToI8 val params).toInt =
      max (-128) (min 127 (roundAway (val / params.scale) + params.zeroPoint.toInt)) := by
  have low : (-128.0 : F) = ((-128 : ℤ) : F) := by norm_num
  have high : (127.0 : F) = ((127 : ℤ) : F) := by norm_num
  have sum : FloatOps.round (val / params.scale) + (params.zeroPoint.toInt : F) =
      ((roundAway (val / params.scale) + params.zeroPoint.toInt : ℤ) : F) := by
    rw [ExactArithmetic.round_eq]
    push_cast
    rfl
  simp only [quantizeF32ToI8]
  rw [sum, low, high, clamp_intCast (by norm_num), ExactArithmetic.asI8_intCast _ (by omega) (by omega)]
  exact Int8.toInt_ofInt_of_le (by omega) (by omega)

variable {params : QuantizationParams F} (positive : 0 < params.scale)

include positive

/-- Quantizing undoes dequantizing. -/
theorem quantize_dequantize (q : Int8) :
    quantizeF32ToI8 (dequantizeI8ToF32 q params) params = q := by
  have steps : dequantizeI8ToF32 q params / params.scale =
      ((q.toInt - params.zeroPoint.toInt : ℤ) : F) := by
    unfold dequantizeI8ToF32
    rw [mul_div_cancel_right₀ _ (ne_of_gt positive)]
    push_cast
    rfl
  have low : -128 ≤ q.toInt := q.le_toInt
  have high : q.toInt ≤ 127 := q.toInt_le
  apply Int8.toInt_inj.mp
  rw [toInt_quantize, steps, roundAway_intCast]
  omega

/-- A larger value is quantized no lower. -/
theorem quantize_mono {val val' : F} (le : val ≤ val') :
    (quantizeF32ToI8 val params).toInt ≤ (quantizeF32ToI8 val' params).toInt := by
  have steps := roundAway_mono (div_le_div_of_nonneg_right le positive.le)
  rw [toInt_quantize, toInt_quantize]
  omega

omit [FloorRing F] [ExactArithmetic F] in
/-- The error of a round trip, in steps. -/
theorem dequantize_quantize_sub (val : F) :
    |dequantizeI8ToF32 (quantizeF32ToI8 val params) params - val| =
      |((quantizeF32ToI8 val params).toInt : F) - params.zeroPoint.toInt - val / params.scale| *
        params.scale := by
  have cancel : val / params.scale * params.scale = val := div_mul_cancel₀ val (ne_of_gt positive)
  rw [← abs_of_pos positive, ← abs_mul, abs_of_pos positive, sub_mul, cancel]
  rfl

/-- The round trip is off by at most half a step exactly if the value is not cut off. -/
theorem dequantize_quantize_le_iff (val : F) :
    |dequantizeI8ToF32 (quantizeF32ToI8 val params) params - val| ≤ params.scale / 2 ↔
      -128.5 ≤ val / params.scale + params.zeroPoint.toInt ∧
        val / params.scale + params.zeroPoint.toInt ≤ 127.5 := by
  have half : |dequantizeI8ToF32 (quantizeF32ToI8 val params) params - val| ≤ params.scale / 2 ↔
      |((quantizeF32ToI8 val params).toInt : F) - params.zeroPoint.toInt - val / params.scale| ≤ 1 / 2 := by
    rw [dequantize_quantize_sub positive]
    constructor
    · intro small
      by_contra large
      have product := mul_lt_mul_of_pos_right (not_le.mp large) positive
      linarith
    · intro small
      have product := mul_le_mul_of_nonneg_right small positive.le
      linarith
  obtain ⟨below, above⟩ := abs_le.mp (abs_sub_roundAway_le (val / params.scale))
  rw [half, toInt_quantize, abs_le]
  generalize val / params.scale = steps at *
  generalize params.zeroPoint.toInt = shift at *
  have least : (-128.5 : F) = -(257 / 2) := by norm_num
  have greatest : (127.5 : F) = 255 / 2 := by norm_num
  rw [least, greatest]
  -- where the nearest number of steps lies decides both sides
  rcases lt_or_ge (127 : ℤ) (roundAway steps + shift) with past | notPast
  · have far : ((128 : ℤ) : F) ≤ ((roundAway steps + shift : ℤ) : F) := by exact_mod_cast past
    push_cast at far
    rw [min_eq_left past.le, max_eq_right (by norm_num)]
    push_cast
    constructor <;> rintro ⟨first, second⟩ <;> constructor <;> linarith
  · rw [min_eq_right notPast]
    rcases lt_or_ge (roundAway steps + shift) (-128 : ℤ) with under | notUnder
    · have far : ((roundAway steps + shift : ℤ) : F) ≤ ((-129 : ℤ) : F) := by
        exact_mod_cast Int.le_sub_one_of_lt under
      push_cast at far
      rw [max_eq_left under.le]
      push_cast
      constructor <;> rintro ⟨first, second⟩ <;> constructor <;> linarith
    · have low : ((-128 : ℤ) : F) ≤ ((roundAway steps + shift : ℤ) : F) := by exact_mod_cast notUnder
      have high : ((roundAway steps + shift : ℤ) : F) ≤ ((127 : ℤ) : F) := by exact_mod_cast notPast
      push_cast at low high
      rw [max_eq_right notUnder]
      push_cast
      constructor <;> rintro ⟨first, second⟩ <;> constructor <;> linarith

/-- Quantization with a positive scale, in any exact arithmetic: it undoes dequantization on every `i8`, it is
    monotone, and dequantization undoes it up to half a step exactly on the values that do not saturate. -/
theorem quantize_round_trip :
    (∀ q, quantizeF32ToI8 (dequantizeI8ToF32 q params) params = q) ∧
    (∀ val val' : F, val ≤ val' →
      (quantizeF32ToI8 val params).toInt ≤ (quantizeF32ToI8 val' params).toInt) ∧
    ∀ val, |dequantizeI8ToF32 (quantizeF32ToI8 val params) params - val| ≤ params.scale / 2 ↔
      -128.5 ≤ val / params.scale + params.zeroPoint.toInt ∧
        val / params.scale + params.zeroPoint.toInt ≤ 127.5 :=
  ⟨quantize_dequantize positive, fun _ _ => quantize_mono positive, dequantize_quantize_le_iff positive⟩

end Exact

/-- With the default parameters the features between -1 and 1 are kept up to 1/254. -/
theorem quantize_default_round_trip :
    let params : QuantizationParams ℚ := QuantizationParams.default
    |dequantizeI8ToF32 (quantizeF32ToI8 (1 / 3) params) params - 1 / 3| ≤ params.scale / 2 := by
  have positive : (0 : ℚ) < (QuantizationParams.default : QuantizationParams ℚ).scale := by
    norm_num [QuantizationParams.default]
  apply ((quantize_round_trip positive).2.2 (1 / 3)).mpr
  have unshifted : ((QuantizationParams.default : QuantizationParams ℚ).zeroPoint.toInt : ℚ) = 0 := rfl
  rw [unshifted]
  norm_num [QuantizationParams.default]

/-! ### The buffer of a tensor -/

namespace InputTensor

variable {slots : Nat}

/-- The tensor of a buffer. -/
def ofBytes (bytes : Bytes (slots * 4)) : InputTensor slots :=
  ⟨Vector.ofFn fun i => Vector.ofFn fun j => (bytes[i.val * 4 + j.val]).toInt8⟩

/-- The buffer of a tensor, position by position. -/
theorem asBytes_toList (tensor : InputTensor slots) :
    tensor.asBytes.toList = List.ofFn fun k : Fin (slots * 4) =>
      (tensor.data[k.divNat][k.modNat]).toUInt8 := by
  rw [List.ofFn_mul]
  apply congrArg List.flatten
  apply List.ext_getElem
  · rw [List.length_map, Vector.length_toList, List.length_ofFn]
  · intro i inRows inFn
    rw [List.getElem_map, List.getElem_ofFn]
    apply List.ext_getElem
    · rw [List.length_map, Vector.length_toList, List.length_ofFn]
    · intro j inRow inFn'
      have column : j < 4 := by rwa [List.length_ofFn] at inFn'
      have row : (i * 4 + j) / 4 = i := by omega
      have position : (i * 4 + j) % 4 = j := by omega
      rw [List.getElem_map, List.getElem_ofFn]
      simp only [Fin.getElem_fin, Fin.divNat, Fin.modNat, row, position, Vector.getElem_toList]

/-- Reading the buffer of a tensor gives the tensor. -/
theorem ofBytes_asBytes (tensor : InputTensor slots) : ofBytes tensor.asBytes = tensor := by
  have entry : ∀ (i : Fin slots) (j : Fin 4),
      (tensor.asBytes[i.val * 4 + j.val]).toInt8 = tensor.data[i][j] := by
    intro i j
    have row : (i.val * 4 + j.val) / 4 = i.val := by omega
    have position : (i.val * 4 + j.val) % 4 = j.val := by omega
    change (tensor.asBytes.toList.get _).toInt8 = _
    simp only [asBytes_toList, List.get_eq_getElem, List.getElem_ofFn, Fin.getElem_fin, Fin.divNat,
      Fin.modNat, row, position]
    exact Int8.toInt8_toUInt8 _
  unfold ofBytes
  simp only [entry]
  congr 1
  apply Vector.ext
  intro i inside
  rw [Vector.getElem_ofFn]
  apply Vector.ext
  intro j inside'
  rw [Vector.getElem_ofFn]
  rfl

/-- The buffer of the tensor of a buffer is that buffer. -/
theorem asBytes_ofBytes (bytes : Bytes (slots * 4)) : (ofBytes bytes).asBytes = bytes := by
  apply Bytes.ext
  rw [asBytes_toList]
  apply List.ext_getElem
  · rw [List.length_ofFn, bytes.length_toList]
  · intro k inFn inBytes
    have whole : k / 4 * 4 + k % 4 = k := by omega
    rw [List.getElem_ofFn]
    simp only [ofBytes, Fin.getElem_fin, Fin.divNat, Fin.modNat, Vector.getElem_ofFn, whole]
    rfl

/-- For every number of slots, tensors and buffers correspond one to one, and with a positive scale every
    tensor is the quantization of its own dequantized matrix: neither step on the way to the device loses a
    quantized value. -/
theorem tensor_codec {F : Type} [Field F] [LinearOrder F] [IsStrictOrderedRing F] [FloorRing F] [FloatOps F]
    [ExactArithmetic F] (slots : Nat) (params : QuantizationParams F) (positive : 0 < params.scale) :
    Function.Bijective (asBytes : InputTensor slots → Bytes (slots * 4)) ∧
      ∀ tensor : InputTensor slots,
        fromF32Matrix (tensor.data.map fun row => row.map fun q => dequantizeI8ToF32 q params) params =
          tensor := by
  refine ⟨⟨?_, fun bytes => ⟨ofBytes bytes, asBytes_ofBytes bytes⟩⟩, ?_⟩
  · exact Function.LeftInverse.injective ofBytes_asBytes
  · intro tensor
    have entry : ∀ q, quantizeF32ToI8 (dequantizeI8ToF32 q params) params = q :=
      quantize_dequantize positive
    unfold fromF32Matrix
    simp [Vector.map_map, Function.comp_def, entry]

/-- The default scale and the ten slots of head 1. -/
theorem tensor_codec_default : Function.Bijective (asBytes : IoInputTensor → Bytes 40) :=
  (tensor_codec 10 (QuantizationParams.default : QuantizationParams ℚ)
    (by norm_num [QuantizationParams.default])).1

end InputTensor

end KavachNpu

/-
Module: KavachNpu.Proofs.BlockEntropy
Layer: Proofs
Purpose: Shannon entropy as the tripwire computes it, over the reals with the true binary logarithm. The loop
  over the 256 counts is the empirical entropy of the bytes, so its range, its extreme cases and its
  behaviour under splitting into blocks come from the general theory.
Trusted boundary: none
Main exports: shannonEntropy_eq, shannonEntropy_spec, blockEntropyScan_spec
-/
import KavachNpu.Foundation.Entropy
import KavachNpu.Tripwire.Entropy

namespace KavachNpu

/-- The binary logarithm of the reals. -/
noncomputable def realLog2 (x : ℝ) : ℝ := Real.logb (2 : ℕ) x

/-- The term of a count is that of its share, also for a count of zero. -/
theorem entropyTerm_eq (count length : Nat) :
    (if count > 0 then -((count : ℝ) / length * realLog2 ((count : ℝ) / length)) else 0) =
      Real.negMulLog ((count : ℝ) / length) / Real.log 2 := by
  split
  · rw [realLog2, Nat.cast_ofNat, Real.logb, Real.negMulLog]
    ring
  · rename_i none
    have zero : count = 0 := by omega
    rw [zero, Nat.cast_zero, zero_div, Real.negMulLog_zero, zero_div]

/-- A loop that subtracts the terms of the positive counts. -/
theorem foldl_entropyTerms (length : Nat) (counts : List Nat) (start : ℝ) :
    counts.foldl
        (fun entropy (count : Nat) =>
          if count > 0 then
            entropy - (count : ℝ) / length * realLog2 ((count : ℝ) / length)
          else
            entropy)
        start =
      start + (counts.map fun count : Nat => Real.negMulLog ((count : ℝ) / length) / Real.log 2).sum := by
  induction counts generalizing start with
  | nil => simp
  | cons count rest ih =>
      rw [List.foldl_cons, ih, List.map_cons, List.sum_cons, ← entropyTerm_eq]
      split
      · ring
      · ring

/-- The bytes of a symbol are counted by its number. -/
theorem countP_toNat (bytes : List UInt8) (byte : UInt8) :
    (bytes.countP fun other => other.toNat == byte.toNat) = bytes.count byte := by
  rw [List.count]
  apply List.countP_congr
  intro other _
  simp only [beq_iff_eq, UInt8.toNat_inj]

/-- The numbers of the different bytes of a list. -/
theorem image_toNat_subset (bytes : List UInt8) :
    bytes.toFinset.image UInt8.toNat ⊆ Finset.range 256 := by
  intro number member
  obtain ⟨byte, _, rfl⟩ := Finset.mem_image.mp member
  exact Finset.mem_range.mpr byte.toNat_lt

/-- The entropy the code computes is the empirical entropy of the bytes. -/
theorem shannonEntropy_eq (bytes : List UInt8) :
    shannonEntropy realLog2 bytes = empiricalEntropy bytes := by
  unfold shannonEntropy
  split
  · rename_i empty
    rw [List.isEmpty_iff.mp empty]
    norm_num [empiricalEntropy]
  · simp only
    have zero : (0.0 : ℝ) = 0 := by norm_num
    rw [zero, foldl_entropyTerms, zero_add, List.map_map]
    -- a sum over all 256 numbers, of which those of the bytes that occur matter
    have absent : ∀ number ∈ Finset.range 256, number ∉ bytes.toFinset.image UInt8.toNat →
        Real.negMulLog ((bytes.countP fun byte => byte.toNat == number : ℕ) / bytes.length : ℝ) /
          Real.log 2 = 0 := by
      intro number _ missing
      have none : (bytes.countP fun byte => byte.toNat == number) = 0 := by
        rw [List.countP_eq_zero]
        intro byte member same
        apply missing
        exact Finset.mem_image.mpr ⟨byte, List.mem_toFinset.mpr member, by simpa using same⟩
      rw [none, Nat.cast_zero, zero_div, Real.negMulLog_zero, zero_div]
    have numbers : ((List.range 256).map ((fun count : Nat => Real.negMulLog ((count : ℝ) / bytes.length) /
        Real.log 2) ∘ fun symbol => bytes.countP fun byte => byte.toNat == symbol)).sum =
        ∑ number ∈ Finset.range 256,
          Real.negMulLog ((bytes.countP fun byte => byte.toNat == number : ℕ) / bytes.length : ℝ) /
            Real.log 2 := rfl
    rw [numbers, ← Finset.sum_subset (image_toNat_subset bytes) absent, Finset.sum_image, ← Finset.sum_div]
    · rw [empiricalEntropy_eq_div]
      unfold frequency
      simp only [countP_toNat]
    · intro first _ second _ same
      exact UInt8.toNat_inj.mp same

/-! ### The range of the entropy and its ends -/

theorem logb_two_256 : Real.logb 2 ((256 : Nat) : ℝ) = 8 := by
  have power : ((256 : Nat) : ℝ) = 2 ^ (8 : ℕ) := by norm_num
  rw [power, Real.logb_pow, Real.logb_self_eq_one one_lt_two]
  norm_num

theorem card_image_toNat (bytes : List UInt8) :
    (bytes.toFinset.image UInt8.toNat).card = bytes.toFinset.card := by
  apply Finset.card_image_of_injective
  intro first second same
  exact UInt8.toNat_inj.mp same

theorem card_toFinset_le (bytes : List UInt8) : bytes.toFinset.card ≤ min bytes.length 256 := by
  apply le_min (List.toFinset_card_le bytes)
  rw [← card_image_toNat]
  exact (Finset.card_le_card (image_toNat_subset bytes)).trans_eq (Finset.card_range 256)

/-- The entropy is at most the logarithm of any bound on the number of different bytes. -/
theorem shannonEntropy_le {bytes : List UInt8} {bound : Nat} (positive : 0 < bound)
    (few : bytes.toFinset.card ≤ bound) : shannonEntropy realLog2 bytes ≤ Real.logb 2 bound := by
  rw [shannonEntropy_eq]
  by_cases nonempty : bytes = []
  · have one : (1 : ℝ) ≤ bound := by exact_mod_cast positive
    rw [nonempty, empiricalEntropy, List.toFinset_nil, Finset.sum_empty, zero_div]
    exact Real.logb_nonneg one_lt_two one
  · have occurs : (0 : ℝ) < bytes.toFinset.card := by exact_mod_cast card_toFinset_pos nonempty
    have most : (bytes.toFinset.card : ℝ) ≤ bound := by exact_mod_cast few
    exact (empiricalEntropy_le_logb nonempty).trans
      (Real.logb_le_logb_of_le one_lt_two occurs most)

/-- The entropy of any bytes lies in `[0, 8]`. -/
theorem shannonEntropy_mem (bytes : List UInt8) :
    0 ≤ shannonEntropy realLog2 bytes ∧ shannonEntropy realLog2 bytes ≤ 8 := by
  constructor
  · rw [shannonEntropy_eq]
    exact empiricalEntropy_nonneg bytes
  · rw [← logb_two_256]
    exact shannonEntropy_le (by norm_num) ((card_toFinset_le bytes).trans (min_le_right _ _))

/-- If 256 different bytes occur, every byte does. -/
theorem mem_of_card_eq {bytes : List UInt8} (all : bytes.toFinset.card = 256) (byte : UInt8) :
    byte ∈ bytes := by
  have full : bytes.toFinset.image UInt8.toNat = Finset.range 256 := by
    apply Finset.eq_of_subset_of_card_le (image_toNat_subset bytes)
    rw [card_image_toNat, all, Finset.card_range]
  have member : byte.toNat ∈ bytes.toFinset.image UInt8.toNat := by
    rw [full]
    exact Finset.mem_range.mpr byte.toNat_lt
  obtain ⟨other, occurs, same⟩ := Finset.mem_image.mp member
  rw [← UInt8.toNat_inj.mp same]
  exact List.mem_toFinset.mp occurs

/-- The full entropy is that of bytes which all occur equally often. -/
theorem shannonEntropy_eq_eight_iff {bytes : List UInt8} (nonempty : bytes ≠ []) :
    shannonEntropy realLog2 bytes = 8 ↔ ∀ byte, 256 * bytes.count byte = bytes.length := by
  have few := (card_toFinset_le bytes).trans (min_le_right _ _)
  rw [shannonEntropy_eq]
  constructor
  · intro maximal
    have all : bytes.toFinset.card = 256 := by
      by_contra missing
      have fewer : bytes.toFinset.card ≤ 255 := by omega
      have occurs : (0 : ℝ) < bytes.toFinset.card := by exact_mod_cast card_toFinset_pos nonempty
      have most : (bytes.toFinset.card : ℝ) < (256 : Nat) := by exact_mod_cast Nat.lt_succ_of_le fewer
      have bound := (empiricalEntropy_le_logb nonempty).trans_lt
        (Real.logb_lt_logb one_lt_two occurs most)
      rw [logb_two_256, maximal] at bound
      exact lt_irrefl 8 bound
    have equal := (empiricalEntropy_eq_logb_iff nonempty).mp (by rw [maximal, all, logb_two_256])
    intro byte
    have total := List.sum_toFinset_count_eq_length bytes
    rw [Finset.sum_congr rfl fun other member =>
      equal other (List.mem_toFinset.mp member) byte (mem_of_card_eq all byte), Finset.sum_const, all,
      smul_eq_mul] at total
    exact total
  · intro uniform
    have occurs : ∀ byte, byte ∈ bytes := by
      intro byte
      apply List.count_pos_iff.mp
      have count := uniform byte
      have length := List.length_pos_iff.mpr nonempty
      omega
    have all : bytes.toFinset.card = 256 := by
      apply le_antisymm few
      rw [← card_image_toNat, ← Finset.card_range 256]
      apply Finset.card_le_card
      intro number member
      have small : number < 256 := Finset.mem_range.mp member
      exact Finset.mem_image.mpr ⟨UInt8.ofNat number, List.mem_toFinset.mpr (occurs _),
        UInt8.toNat_ofNat_of_lt' small⟩
    have equal : ∀ a ∈ bytes, ∀ b ∈ bytes, bytes.count a = bytes.count b := by
      intro a _ b _
      have first := uniform a
      have second := uniform b
      omega
    rw [(empiricalEntropy_eq_logb_iff nonempty).mpr equal, all, logb_two_256]

/-- The entropy of every byte buffer lies between zero and the logarithm of the number of different bytes in
    it, hence of its length and of 256. It is zero exactly if all bytes are the same, eight exactly if all
    256 values occur equally often, and does not depend on their order. -/
theorem shannonEntropy_spec (bytes : List UInt8) :
    (0 ≤ shannonEntropy realLog2 bytes ∧ shannonEntropy realLog2 bytes ≤ 8) ∧
    (∀ bound : Nat, 0 < bound → bytes.toFinset.card ≤ bound ∨ bytes.length ≤ bound →
      shannonEntropy realLog2 bytes ≤ Real.logb 2 bound) ∧
    (shannonEntropy realLog2 bytes = 0 ↔ ∀ a ∈ bytes, ∀ b ∈ bytes, a = b) ∧
    (shannonEntropy realLog2 bytes = 8 ↔
      bytes ≠ [] ∧ ∀ byte, 256 * bytes.count byte = bytes.length) ∧
    ∀ other, bytes.Perm other → shannonEntropy realLog2 other = shannonEntropy realLog2 bytes := by
  refine ⟨shannonEntropy_mem bytes, ?_, ?_, ?_, ?_⟩
  · rintro bound positive (few | short)
    · exact shannonEntropy_le positive few
    · exact shannonEntropy_le positive ((List.toFinset_card_le bytes).trans short)
  · rw [shannonEntropy_eq]
    exact empiricalEntropy_eq_zero_iff
  · by_cases nonempty : bytes = []
    · rw [nonempty]
      norm_num [shannonEntropy]
    · rw [shannonEntropy_eq_eight_iff nonempty]
      exact (and_iff_right nonempty).symm
  · intro other permuted
    rw [shannonEntropy_eq, shannonEntropy_eq, empiricalEntropy_perm permuted]

/-! ### Blocks -/

/-- The entropy of a buffer is at least the mean of the entropies of its blocks, weighted by their lengths. -/
theorem sum_chunks_le (size : Nat) (data : List UInt8) :
    ((chunks size data).map fun block => (block.length : ℝ) * empiricalEntropy block).sum ≤
      data.length * empiricalEntropy data := by
  fun_induction chunks size data with
  | case1 => simp
  | case2 item rest ih =>
      have split : item :: rest = (item :: rest.take (size - 1)) ++ rest.drop (size - 1) := by
        rw [List.cons_append, List.take_append_drop]
      have parts := le_empiricalEntropy_append (item :: rest.take (size - 1)) (rest.drop (size - 1))
      rw [← split] at parts
      rw [List.map_cons, List.sum_cons]
      linarith

/-- With a positive size the scan is the entropy of each chunk. -/
theorem blockEntropyScan_eq (data : List UInt8) {size : Nat} (positive : 0 < size) :
    blockEntropyScan realLog2 data size = (chunks size data).map (shannonEntropy realLog2) := by
  unfold blockEntropyScan
  split
  · rename_i skipped
    have empty : data = [] := by
      rcases Bool.or_eq_true_iff.mp skipped with empty | zero
      · exact List.isEmpty_iff.mp empty
      · have none : size = 0 := by simpa using zero
        omega
    rw [empty, chunks, List.map_nil]
  · rfl

/-- Scanning a buffer in blocks of a positive size covers it by consecutive blocks, none empty and none too
    long, in the least possible number. Every value is an entropy in `[0, 8]`, and their mean, weighted by
    the lengths of the blocks, never exceeds the entropy of the whole buffer. -/
theorem blockEntropyScan_spec (data : List UInt8) (size : Nat) (positive : 0 < size) :
    blockEntropyScan realLog2 data size = (chunks size data).map (shannonEntropy realLog2) ∧
    (chunks size data).flatten = data ∧
    (∀ block ∈ chunks size data, block ≠ [] ∧ block.length ≤ size) ∧
    (blockEntropyScan realLog2 data size).length = (data.length + size - 1) / size ∧
    (∀ h ∈ blockEntropyScan realLog2 data size, 0 ≤ h ∧ h ≤ 8) ∧
    ((chunks size data).map fun block => (block.length : ℝ) * shannonEntropy realLog2 block).sum ≤
      data.length * shannonEntropy realLog2 data := by
  obtain ⟨joined, sizes, number⟩ := chunks_spec positive data
  have scan := blockEntropyScan_eq data positive
  refine ⟨scan, joined, sizes, ?_, ?_, ?_⟩
  · rw [scan, List.length_map, number]
  · intro h member
    rw [scan] at member
    obtain ⟨block, _, rfl⟩ := List.mem_map.mp member
    exact shannonEntropy_mem block
  · simp only [shannonEntropy_eq]
    exact sum_chunks_le size data

/-- A buffer of two blocks. -/
theorem blockEntropyScan_two :
    (blockEntropyScan realLog2 (List.replicate 5000 0) 4096).length = 2 := by
  rw [(blockEntropyScan_spec (List.replicate 5000 0) 4096 (by norm_num)).2.2.2.1, List.length_replicate]

end KavachNpu

/-
Module: KavachNpu.Foundation.Entropy
Layer: Foundation
Purpose: The empirical entropy of a list of symbols, in bits, and how it behaves: it lies between zero and
  the logarithm of the number of different symbols, with both cases of equality, depends on the list up to
  order, and does not fall below the weighted mean of the entropies of two parts. All of it rests on the
  concavity of `x ↦ -x log x`.
Trusted boundary: human-reviewed spec
Main exports: frequency, empiricalEntropy, empiricalEntropy_nonneg, empiricalEntropy_le_logb,
  empiricalEntropy_eq_zero_iff, empiricalEntropy_eq_logb_iff, empiricalEntropy_of_nodup,
  empiricalEntropy_perm, le_empiricalEntropy_append
-/
import KavachNpu.Foundation.ExactArithmetic

namespace KavachNpu

variable {α : Type} [DecidableEq α]

/-- The share of a symbol in a list. -/
noncomputable def frequency (xs : List α) (a : α) : ℝ :=
  (xs.count a : ℝ) / xs.length

/-- The entropy of the shares, in bits. -/
noncomputable def empiricalEntropy (xs : List α) : ℝ :=
  (∑ a ∈ xs.toFinset, Real.negMulLog (frequency xs a)) / Real.log (2 : ℕ)

theorem empiricalEntropy_eq_div (xs : List α) :
    empiricalEntropy xs = (∑ a ∈ xs.toFinset, Real.negMulLog (frequency xs a)) / Real.log 2 := by
  rw [empiricalEntropy, Nat.cast_ofNat]

theorem frequency_nonneg (xs : List α) (a : α) : 0 ≤ frequency xs a := by
  unfold frequency
  positivity

theorem frequency_le_one (xs : List α) (a : α) : frequency xs a ≤ 1 := by
  unfold frequency
  apply div_le_one_of_le₀ _ (Nat.cast_nonneg _)
  exact_mod_cast List.count_le_length

theorem frequency_of_notMem {xs : List α} {a : α} (absent : a ∉ xs) : frequency xs a = 0 := by
  rw [frequency, List.count_eq_zero_of_not_mem absent, Nat.cast_zero, zero_div]

/-- Symbols that do not occur add nothing. -/
theorem sum_negMulLog_of_subset {xs : List α} {s : Finset α} (covers : xs.toFinset ⊆ s) :
    ∑ a ∈ xs.toFinset, Real.negMulLog (frequency xs a) = ∑ a ∈ s, Real.negMulLog (frequency xs a) := by
  apply Finset.sum_subset covers
  intro a _ absent
  rw [List.mem_toFinset] at absent
  rw [frequency_of_notMem absent, Real.negMulLog_zero]

/-- The shares add up to one. -/
theorem sum_frequency {xs : List α} (nonempty : xs ≠ []) : ∑ a ∈ xs.toFinset, frequency xs a = 1 := by
  have positive : (xs.length : ℝ) ≠ 0 := by
    exact_mod_cast fun zero => nonempty (List.eq_nil_of_length_eq_zero zero)
  have counted : ((∑ a ∈ xs.toFinset, xs.count a : ℕ) : ℝ) = xs.length := by
    exact_mod_cast List.sum_toFinset_count_eq_length xs
  unfold frequency
  rw [← Finset.sum_div, ← Nat.cast_sum, counted, div_self positive]

theorem log_two_pos : 0 < Real.log 2 := Real.log_pos one_lt_two

theorem empiricalEntropy_nonneg (xs : List α) : 0 ≤ empiricalEntropy xs := by
  rw [empiricalEntropy_eq_div]
  apply div_nonneg _ log_two_pos.le
  apply Finset.sum_nonneg
  intro a _
  exact Real.negMulLog_nonneg (frequency_nonneg xs a) (frequency_le_one xs a)

/-- The entropy depends on the list up to order. -/
theorem empiricalEntropy_perm {xs ys : List α} (permuted : xs.Perm ys) :
    empiricalEntropy xs = empiricalEntropy ys := by
  have symbols : xs.toFinset = ys.toFinset := List.toFinset_eq_of_perm _ _ permuted
  have shares : ∀ a, frequency xs a = frequency ys a := by
    intro a
    rw [frequency, frequency, permuted.count_eq, permuted.length_eq]
  unfold empiricalEntropy
  rw [symbols]
  simp only [shares]

/-! ### The largest value -/

section Largest

variable {xs : List α} (nonempty : xs ≠ [])

include nonempty

theorem card_toFinset_pos : 0 < xs.toFinset.card := by
  rw [Finset.card_pos, List.toFinset_nonempty_iff]
  exact nonempty

/-- The mean of the shares over the symbols that occur. -/
theorem mean_frequency :
    ∑ a ∈ xs.toFinset, (1 / xs.toFinset.card : ℝ) • frequency xs a = 1 / xs.toFinset.card := by
  rw [← Finset.smul_sum, sum_frequency nonempty, smul_eq_mul, mul_one]

/-- The weights of the mean. -/
theorem sum_uniform_weights : ∑ _a ∈ xs.toFinset, (1 / xs.toFinset.card : ℝ) = 1 := by
  have positive : (xs.toFinset.card : ℝ) ≠ 0 := by
    exact_mod_cast (card_toFinset_pos nonempty).ne'
  rw [Finset.sum_const, nsmul_eq_mul, mul_one_div, div_self positive]

omit nonempty in
/-- What the mean of the terms would be if all shares were equal. -/
theorem negMulLog_uniform :
    Real.negMulLog (1 / xs.toFinset.card : ℝ) = Real.log xs.toFinset.card / xs.toFinset.card := by
  rw [Real.negMulLog, one_div, Real.log_inv]
  ring

/-- The entropy is at most the logarithm of the number of different symbols. -/
theorem empiricalEntropy_le_logb : empiricalEntropy xs ≤ Real.logb 2 xs.toFinset.card := by
  have positive : (0 : ℝ) < xs.toFinset.card := by exact_mod_cast card_toFinset_pos nonempty
  have jensen := Real.concaveOn_negMulLog.le_map_sum (t := xs.toFinset)
    (w := fun _ => (1 / xs.toFinset.card : ℝ)) (p := frequency xs) (fun _ _ => by positivity)
    (sum_uniform_weights nonempty) (fun a _ => frequency_nonneg xs a)
  rw [mean_frequency nonempty, negMulLog_uniform, ← Finset.smul_sum, smul_eq_mul,
    one_div_mul_eq_div] at jensen
  rw [empiricalEntropy_eq_div, Real.logb]
  apply div_le_div_of_nonneg_right _ log_two_pos.le
  exact (div_le_div_iff_of_pos_right positive).mp jensen

/-- It is that logarithm exactly if all the symbols that occur are equally frequent. -/
theorem empiricalEntropy_eq_logb_iff :
    empiricalEntropy xs = Real.logb 2 xs.toFinset.card ↔
      ∀ a ∈ xs, ∀ b ∈ xs, xs.count a = xs.count b := by
  have positive : (0 : ℝ) < xs.toFinset.card := by exact_mod_cast card_toFinset_pos nonempty
  have length : (xs.length : ℝ) ≠ 0 := by
    exact_mod_cast fun zero => nonempty (List.eq_nil_of_length_eq_zero zero)
  have jensen := Real.strictConcaveOn_negMulLog.map_sum_eq_iff_of_pos (t := xs.toFinset)
    (w := fun _ => (1 / xs.toFinset.card : ℝ)) (p := frequency xs) (fun _ _ => by positivity)
    (sum_uniform_weights nonempty) (fun a _ => frequency_nonneg xs a)
  rw [mean_frequency nonempty, negMulLog_uniform, ← Finset.smul_sum, smul_eq_mul,
    one_div_mul_eq_div, div_left_inj' positive.ne'] at jensen
  rw [empiricalEntropy_eq_div, Real.logb]
  rw [div_left_inj' log_two_pos.ne', eq_comm, jensen]
  constructor
  · intro shares a member b member'
    have same := shares (List.mem_toFinset.mpr member) (List.mem_toFinset.mpr member')
    rw [frequency, frequency, div_left_inj' length] at same
    exact_mod_cast same
  · intro counts a member b member'
    rw [frequency, frequency, counts a (List.mem_toFinset.mp member) b (List.mem_toFinset.mp member')]

end Largest

/-- Symbols that all differ have the entropy of their number. -/
theorem empiricalEntropy_of_nodup {xs : List α} (nonempty : xs ≠ []) (distinct : xs.Nodup) :
    empiricalEntropy xs = Real.logb 2 xs.length := by
  rw [← List.toFinset_card_of_nodup distinct, empiricalEntropy_eq_logb_iff nonempty]
  intro a member b member'
  rw [List.count_eq_one_of_mem distinct member, List.count_eq_one_of_mem distinct member']

/-- The entropy is zero exactly if all the symbols are the same. -/
theorem empiricalEntropy_eq_zero_iff {xs : List α} :
    empiricalEntropy xs = 0 ↔ ∀ a ∈ xs, ∀ b ∈ xs, a = b := by
  constructor
  · intro zero a member b member'
    by_contra different
    -- a symbol that occurs beside another has a share strictly between zero and one
    have length : (0 : ℝ) < xs.length := by exact_mod_cast List.length_pos_of_mem member
    have occurs : (0 : ℝ) < xs.count a := by exact_mod_cast List.count_pos_iff.mpr member
    have partly : (xs.count a : ℝ) < xs.length := by
      have full : xs.count a ≠ xs.length := by
        intro all
        exact different (List.count_eq_length.mp all b member')
      exact_mod_cast lt_of_le_of_ne List.count_le_length full
    have share : 0 < frequency xs a := div_pos occurs length
    have below : frequency xs a < 1 := (div_lt_one length).mpr partly
    have term : 0 < Real.negMulLog (frequency xs a) := by
      rw [Real.negMulLog_eq_neg]
      exact neg_pos.mpr (Real.mul_log_neg share below)
    have total : 0 < ∑ c ∈ xs.toFinset, Real.negMulLog (frequency xs c) := by
      apply Finset.sum_pos' _ ⟨a, List.mem_toFinset.mpr member, term⟩
      intro c _
      exact Real.negMulLog_nonneg (frequency_nonneg xs c) (frequency_le_one xs c)
    exact absurd zero (div_pos total log_two_pos).ne'
  · intro same
    have terms : ∀ a ∈ xs.toFinset, Real.negMulLog (frequency xs a) = 0 := by
      intro a member
      have whole : xs.count a = xs.length :=
        List.count_eq_length.mpr fun b member' => same a (List.mem_toFinset.mp member) b member'
      have length : (xs.length : ℝ) ≠ 0 := by
        exact_mod_cast (List.length_pos_of_mem (List.mem_toFinset.mp member)).ne'
      rw [frequency, whole, div_self length, Real.negMulLog_one]
    rw [empiricalEntropy, Finset.sum_eq_zero terms, zero_div]

/-! ### Two parts of a list -/

/-- The share of a symbol in a list of two parts is the weighted mean of its shares in the parts. -/
theorem frequency_append (xs ys : List α) (a : α) :
    frequency (xs ++ ys) a =
      ((xs.length : ℝ) / (xs ++ ys).length) • frequency xs a +
        ((ys.length : ℝ) / (xs ++ ys).length) • frequency ys a := by
  have part : ∀ zs : List α, (zs.length : ℝ) * frequency zs a = zs.count a := by
    intro zs
    by_cases empty : zs.length = 0
    · rw [List.eq_nil_of_length_eq_zero empty]
      simp
    · have length : (zs.length : ℝ) ≠ 0 := by exact_mod_cast empty
      rw [frequency, mul_div_cancel₀ _ length]
  have first := part xs
  have second := part ys
  rw [smul_eq_mul, smul_eq_mul, div_mul_eq_mul_div, div_mul_eq_mul_div, first, second, ← add_div]
  unfold frequency
  rw [List.count_append]
  push_cast
  rfl

/-- The entropy of a list is at least the weighted mean of the entropies of its two parts. -/
theorem le_empiricalEntropy_append (xs ys : List α) :
    xs.length * empiricalEntropy xs + ys.length * empiricalEntropy ys ≤
      (xs ++ ys).length * empiricalEntropy (xs ++ ys) := by
  by_cases nonempty : xs ++ ys = []
  · obtain ⟨rfl, rfl⟩ := List.append_eq_nil_iff.mp nonempty
    simp
  have positive : (0 : ℝ) < (xs ++ ys).length := by
    exact_mod_cast List.length_pos_iff.mpr nonempty
  have weights : (xs.length : ℝ) / (xs ++ ys).length + (ys.length : ℝ) / (xs ++ ys).length = 1 := by
    rw [← add_div, List.length_append]
    push_cast at positive ⊢
    rw [div_self]
    rw [List.length_append] at positive
    push_cast at positive
    exact positive.ne'
  have term : ∀ a, xs.length * Real.negMulLog (frequency xs a) +
      ys.length * Real.negMulLog (frequency ys a) ≤
        (xs ++ ys).length * Real.negMulLog (frequency (xs ++ ys) a) := by
    intro a
    have concave := Real.concaveOn_negMulLog.2 (frequency_nonneg xs a) (frequency_nonneg ys a)
      (div_nonneg (Nat.cast_nonneg xs.length) positive.le) (div_nonneg (Nat.cast_nonneg ys.length)
      positive.le) weights
    rw [← frequency_append xs ys a, smul_eq_mul, smul_eq_mul, div_mul_eq_mul_div,
      div_mul_eq_mul_div, ← add_div, div_le_iff₀ positive] at concave
    linarith
  have sums := Finset.sum_le_sum fun a (_ : a ∈ (xs ++ ys).toFinset) => term a
  have left : xs.toFinset ⊆ (xs ++ ys).toFinset := by
    rw [List.toFinset_append]
    exact Finset.subset_union_left
  have right : ys.toFinset ⊆ (xs ++ ys).toFinset := by
    rw [List.toFinset_append]
    exact Finset.subset_union_right
  rw [Finset.sum_add_distrib, ← Finset.mul_sum, ← Finset.mul_sum, ← Finset.mul_sum,
    ← sum_negMulLog_of_subset left, ← sum_negMulLog_of_subset right] at sums
  rw [empiricalEntropy_eq_div, empiricalEntropy_eq_div, empiricalEntropy_eq_div]
  rw [mul_div_assoc', mul_div_assoc', mul_div_assoc', ← add_div]
  exact div_le_div_of_nonneg_right sums log_two_pos.le

end KavachNpu

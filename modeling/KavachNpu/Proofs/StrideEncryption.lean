/-
Module: KavachNpu.Proofs.StrideEncryption
Layer: Proofs
Purpose: Intermittent encryption in strides is always flagged. A list of block entropies that alternates
  between ciphertext and untouched blocks has a transition at every step, and two classes of nearly equal
  size that lie 2.2 bits apart have a variance of at least 1 around any point.
Trusted boundary: none
Main exports: Alternates, varianceSum_ge, alternating_flagged
-/
import Mathlib.Tactic.Ring
import KavachNpu.Tripwire.Entropy

namespace KavachNpu

namespace StrideEncryption

/-- The entropy of an encrypted block. -/
def isHigh (e : ℚ) : Bool :=
  decide (7.95 ≤ e) && decide (e ≤ 8)

/-- The entropy of an untouched block. -/
def isLow (e : ℚ) : Bool :=
  decide (0 ≤ e) && decide (e ≤ 5.75)

/-- The blocks strictly alternate between high and low, beginning with a high one if `high` is set. -/
def Alternates : Bool → List ℚ → Prop
  | _, [] => True
  | true, e :: rest => isHigh e = true ∧ Alternates false rest
  | false, e :: rest => isLow e = true ∧ Alternates true rest

theorem isHigh_iff {e : ℚ} : isHigh e = true ↔ 7.95 ≤ e ∧ e ≤ 8 := by
  simp [isHigh]

theorem isLow_iff {e : ℚ} : isLow e = true ↔ 0 ≤ e ∧ e ≤ 5.75 := by
  simp [isLow]

theorem not_isHigh_of_isLow {e : ℚ} (low : isLow e = true) : isHigh e = false := by
  obtain ⟨_, below⟩ := isLow_iff.mp low
  rw [Bool.eq_false_iff]
  intro high
  obtain ⟨above, _⟩ := isHigh_iff.mp high
  norm_num at above below
  linarith

/-! ### What alternation determines -/

/-- In an alternating list every block is high or low. -/
theorem Alternates.low_of_not_high {start : Bool} {blocks : List ℚ} (alternates : Alternates start blocks) :
    ∀ e ∈ blocks, isHigh e = false → isLow e = true := by
  induction blocks generalizing start with
  | nil =>
      intro e member
      cases member
  | cons first rest ih =>
      intro e member notHigh
      cases start with
      | true =>
          obtain ⟨high, others⟩ := alternates
          rcases List.mem_cons.mp member with rfl | inRest
          · rw [high] at notHigh
            cases notHigh
          · exact ih others e inRest notHigh
      | false =>
          obtain ⟨low, others⟩ := alternates
          rcases List.mem_cons.mp member with rfl | inRest
          · exact low
          · exact ih others e inRest notHigh

/-- The two classes differ in size by at most one, in favour of the one that comes first. -/
theorem Alternates.balanced {start : Bool} {blocks : List ℚ} (alternates : Alternates start blocks) :
    blocks.countP isHigh ≤ blocks.countP (fun e => ! isHigh e) + start.toNat ∧
      blocks.countP (fun e => ! isHigh e) ≤ blocks.countP isHigh + (! start).toNat := by
  induction blocks generalizing start with
  | nil => simp
  | cons first rest ih =>
      cases start with
      | true =>
          obtain ⟨high, others⟩ := alternates
          have counts := ih others
          rw [List.countP_cons_of_pos high, List.countP_cons_of_neg (by simp [high])]
          simp only [Bool.toNat_false, Bool.toNat_true, Bool.not_true, Bool.not_false] at counts ⊢
          omega
      | false =>
          obtain ⟨low, others⟩ := alternates
          have notHigh := not_isHigh_of_isLow low
          have counts := ih others
          rw [List.countP_cons_of_neg (by simp [notHigh]), List.countP_cons_of_pos (by simp [notHigh])]
          simp only [Bool.toNat_false, Bool.toNat_true, Bool.not_true, Bool.not_false] at counts ⊢
          omega

/-- What `deltaTransitions` counts. -/
def isTransition (pair : ℚ × ℚ) : Bool :=
  decide (FloatOps.abs (pair.2 - pair.1) ≥ 2.0) &&
    (decide (pair.1 ≥ entropySuspiciousThreshold) || decide (pair.2 ≥ entropySuspiciousThreshold))

theorem isTransition_of_high_low {high low : ℚ} (isHigh : isHigh high = true) (isLow : isLow low = true) :
    isTransition (high, low) = true ∧ isTransition (low, high) = true := by
  obtain ⟨above, _⟩ := isHigh_iff.mp isHigh
  obtain ⟨_, below⟩ := isLow_iff.mp isLow
  norm_num at above below
  have drop : low - high < 0 := by linarith
  have rise : ¬ high - low < 0 := by linarith
  have suspicious : high ≥ entropySuspiciousThreshold := by
    norm_num [entropySuspiciousThreshold]
    linarith
  have far : high - low ≥ 2.0 := by
    norm_num
    linarith
  constructor
  · simp only [isTransition, FloatOps.abs, if_pos drop, neg_sub, decide_eq_true far,
      decide_eq_true suspicious, Bool.true_or, Bool.and_self]
  · simp only [isTransition, FloatOps.abs, if_neg rise, decide_eq_true far,
      decide_eq_true suspicious, Bool.or_true, Bool.and_self]

/-- Every step of an alternating list is a transition. -/
theorem Alternates.all_transitions {start : Bool} {blocks : List ℚ} (alternates : Alternates start blocks) :
    ∀ pair ∈ blocks.zip blocks.tail, isTransition pair = true := by
  induction blocks generalizing start with
  | nil =>
      intro pair member
      cases member
  | cons first rest ih =>
      cases rest with
      | nil =>
          intro pair member
          cases member
      | cons second others =>
          intro pair member
          rcases List.mem_cons.mp member with rfl | later
          · cases start with
            | true => exact (isTransition_of_high_low alternates.1 alternates.2.1).1
            | false => exact (isTransition_of_high_low alternates.2.1 alternates.1).2
          · cases start with
            | true => exact ih alternates.2 pair later
            | false => exact ih alternates.2 pair later

theorem Alternates.deltaTransitions_eq {start : Bool} {blocks : List ℚ}
    (alternates : Alternates start blocks) : deltaTransitions blocks = blocks.length - 1 := by
  have counted : deltaTransitions blocks = (blocks.zip blocks.tail).countP isTransition := rfl
  rw [counted, List.countP_eq_length.mpr alternates.all_transitions, List.length_zip, List.length_tail]
  omega

/-! ### The variance -/

/-- Two classes of nearly equal size, at a distance of 2.2, around any point `x` below the upper one. -/
theorem classes_spread {a b x : ℚ} (two : 2 ≤ a) (one : 1 ≤ b) (close : a ≤ b + 1) (close' : b ≤ a + 1) :
    a + b ≤ a * x ^ 2 + b * (2.2 - x) ^ 2 := by
  have total : 0 < a + b := by linarith
  have between : (a + b) * (a + b) ≤ a * b * 2.2 ^ 2 := by
    norm_num
    nlinarith
  have square := sq_nonneg ((a + b) * x - b * 2.2)
  have scaled : (a + b) * (a + b) ≤ (a + b) * (a * x ^ 2 + b * (2.2 - x) ^ 2) := by
    calc (a + b) * (a + b) ≤ a * b * 2.2 ^ 2 := between
      _ ≤ a * b * 2.2 ^ 2 + ((a + b) * x - b * 2.2) ^ 2 := by linarith
      _ = (a + b) * (a * x ^ 2 + b * (2.2 - x) ^ 2) := by ring
  exact le_of_mul_le_mul_left scaled total

/-- With two high blocks, an alternating list has a low one, and the classes are as near in size. -/
theorem Alternates.counts {start : Bool} {blocks : List ℚ} (alternates : Alternates start blocks)
    (two : 2 ≤ blocks.countP isHigh) :
    blocks.length = blocks.countP isHigh + blocks.countP (fun e => ! isHigh e) ∧
      1 ≤ blocks.countP (fun e => ! isHigh e) ∧
      blocks.countP isHigh ≤ blocks.countP (fun e => ! isHigh e) + 1 ∧
      blocks.countP (fun e => ! isHigh e) ≤ blocks.countP isHigh + 1 := by
  have length := List.length_eq_countP_add_countP isHigh (l := blocks)
  simp only [Bool.not_eq_true, Bool.decide_eq_false] at length
  obtain ⟨close, close'⟩ := alternates.balanced
  have flag := Bool.toNat_le start
  have flag' := Bool.toNat_le (! start)
  exact ⟨length, by omega, by omega, by omega⟩

/-- A value that is at least `gap` away from a point, on either side. -/
theorem sq_le_deviation {gap e mean : ℚ} (nonneg : 0 ≤ gap) (far : mean + gap ≤ e ∨ e + gap ≤ mean) :
    gap ^ 2 ≤ (e - mean) * (e - mean) := by
  rw [pow_two]
  rcases far with above | below
  · have distance : gap ≤ e - mean := by linarith
    exact mul_self_le_mul_self nonneg distance
  · have distance : gap ≤ mean - e := by linarith
    have mirrored : (e - mean) * (e - mean) = (mean - e) * (mean - e) := by ring
    rw [mirrored]
    exact mul_self_le_mul_self nonneg distance

/-- The squared distances of an alternating list from any point add up to its length at least. -/
theorem Alternates.varianceSum_ge {start : Bool} {blocks : List ℚ} (alternates : Alternates start blocks)
    (two : 2 ≤ blocks.countP isHigh) (mean : ℚ) :
    (blocks.length : ℚ) ≤ blocks.foldl (fun varSum e => varSum + (e - mean) * (e - mean)) 0.0 := by
  obtain ⟨length, one, close, close'⟩ := alternates.counts two
  have high : ∀ e ∈ blocks, isHigh e = true → 7.95 ≤ e := fun e _ isHigh => (isHigh_iff.mp isHigh).1
  have low : ∀ e ∈ blocks, isHigh e = false → e ≤ 5.75 := fun e member notHigh =>
    (isLow_iff.mp (alternates.low_of_not_high e member notHigh)).2
  have a_two : (2 : ℚ) ≤ blocks.countP isHigh := by exact_mod_cast two
  have b_one : (1 : ℚ) ≤ blocks.countP fun e => ! isHigh e := by exact_mod_cast one
  have a_close : (blocks.countP isHigh : ℚ) ≤ (blocks.countP fun e => ! isHigh e) + 1 := by
    exact_mod_cast close
  have b_close : ((blocks.countP fun e => ! isHigh e) : ℚ) ≤ blocks.countP isHigh + 1 := by
    exact_mod_cast close'
  rw [length]
  push_cast
  norm_num at high low
  have squares : ∀ e ∈ blocks, 0 ≤ (e - mean) * (e - mean) := fun e _ => mul_self_nonneg (e - mean)
  -- the point lies below both classes, above both, or between them
  rcases lt_or_ge mean (23 / 4) with below | above
  · have distant : ∀ e ∈ blocks, isHigh e = true → (2.2 : ℚ) ^ 2 ≤ (e - mean) * (e - mean) := by
      intro e member kind
      have far := high e member kind
      exact sq_le_deviation (by norm_num) (.inl (by norm_num; linarith))
    have bound := le_foldl_add_classes distant (fun e member _ => squares e member) (0.0 : ℚ)
    norm_num at bound ⊢
    linarith
  · rcases lt_or_ge (159 / 20) mean with beyond | under
    · have distant : ∀ e ∈ blocks, isHigh e = false → (2.2 : ℚ) ^ 2 ≤ (e - mean) * (e - mean) := by
        intro e member kind
        have far := low e member kind
        exact sq_le_deviation (by norm_num) (.inr (by norm_num; linarith))
      have bound := le_foldl_add_classes (fun e member _ => squares e member) distant (0.0 : ℚ)
      norm_num at bound ⊢
      linarith
    · have upper : ∀ e ∈ blocks, isHigh e = true → (7.95 - mean) ^ 2 ≤ (e - mean) * (e - mean) := by
        intro e member kind
        have far := high e member kind
        exact sq_le_deviation (by norm_num; linarith) (.inl (by norm_num; linarith))
      have lower : ∀ e ∈ blocks, isHigh e = false →
          (2.2 - (7.95 - mean)) ^ 2 ≤ (e - mean) * (e - mean) := by
        intro e member kind
        have far := low e member kind
        exact sq_le_deviation (by norm_num; linarith) (.inr (by norm_num; linarith))
      have bound := le_foldl_add_classes upper lower (0.0 : ℚ)
      have spread := classes_spread (x := 7.95 - mean) a_two b_one a_close b_close
      norm_num at bound spread ⊢
      linarith

/-- The intermittent score of an alternating pattern: every step is a transition, and the variance passes
    its gate. -/
theorem Alternates.intermittentScore_ge {start : Bool} {blocks : List ℚ}
    (alternates : Alternates start blocks) (two : 2 ≤ blocks.countP isHigh) :
    (differentialEntropy blocks).intermittentEncryptionScore ≥ 0.5 := by
  obtain ⟨length, one, _, _⟩ := alternates.counts two
  have longer : blocks.length > 1 := by omega
  have present : blocks.isEmpty = false := by
    rw [List.isEmpty_eq_false_iff]
    exact List.length_pos_iff.mp (by omega)
  have many : (0 : ℚ) < blocks.length := by exact_mod_cast (show 0 < blocks.length by omega)
  have steps : (0 : ℚ) < ((blocks.length - 1 : Nat) : ℚ) := by
    exact_mod_cast (show 0 < blocks.length - 1 by omega)
  have maximal : blocks.foldl (fun maxE e => if e > maxE then e else maxE) 0.0 ≥
      entropyRansomwareThreshold := by
    obtain ⟨e, member, isHigh⟩ := List.countP_pos_iff.mp (show 0 < blocks.countP isHigh by omega)
    exact (isHigh_iff.mp isHigh).1.trans ((le_foldl_max blocks 0.0).2 e member)
  have spread : ∀ mean : ℚ, blocks.foldl (fun varSum e => varSum + (e - mean) * (e - mean)) 0.0 /
      (blocks.length : ℚ) ≥ 1.0 := by
    intro mean
    rw [ge_iff_le, le_div_iff₀ many]
    have sum := alternates.varianceSum_ge two mean
    norm_num at sum ⊢
    exact sum
  have gate := spread (blocks.foldl (· + ·) 0.0 / (blocks.length : ℚ))
  simp only [differentialEntropy, present, Bool.false_eq_true, if_false, if_pos longer,
    alternates.deltaTransitions_eq, div_self (ne_of_gt steps)]
  rw [if_pos ⟨maximal, gate⟩]
  apply le_clamp
  · norm_num at gate ⊢
    linarith
  · norm_num

/-- What makes a list of blocks anomalous. -/
theorem isAnomalous_of_intermittent {blocks : List ℚ}
    (two : 2 ≤ blocks.countP fun e => decide (e ≥ entropyRansomwareThreshold))
    (score : (differentialEntropy blocks).intermittentEncryptionScore ≥ 0.35) :
    (differentialEntropy blocks).isAnomalous = true := by
  have present : blocks.isEmpty = false := by
    rw [List.isEmpty_eq_false_iff]
    rintro rfl
    simp at two
  simp only [differentialEntropy, present, Bool.false_eq_true, if_false] at score ⊢
  rw [decide_eq_true score, decide_eq_true two, Bool.and_self, Bool.or_true]

/-- Every alternating pattern with at least two encrypted blocks is anomalous, with an intermittent score of
    at least one half, whatever the entropies of its blocks and whichever class comes first. -/
theorem alternating_flagged (start : Bool) (blocks : List ℚ) (alternates : Alternates start blocks)
    (two : 2 ≤ blocks.countP isHigh) :
    (differentialEntropy blocks).isAnomalous = true ∧
      (differentialEntropy blocks).intermittentEncryptionScore ≥ 0.5 := by
  have score := alternates.intermittentScore_ge two
  have highCount : 2 ≤ blocks.countP fun e => decide (e ≥ entropyRansomwareThreshold) := by
    apply two.trans
    apply List.countP_mono_left
    intro e _ isHigh
    exact decide_eq_true (isHigh_iff.mp isHigh).1
  refine ⟨isAnomalous_of_intermittent highCount ?_, score⟩
  norm_num at score ⊢
  linarith

/-- Three blocks are the shortest such pattern, and the tightest. -/
theorem three_blocks_flagged :
    Alternates true [7.95, 5.75, 7.95] ∧ 2 ≤ [7.95, 5.75, 7.95].countP isHigh ∧
      (differentialEntropy ([7.95, 5.75, 7.95] : List ℚ)).isAnomalous = true := by
  have alternates : Alternates true [7.95, 5.75, 7.95] := by
    simp only [Alternates]
    decide +kernel
  have two : 2 ≤ [7.95, 5.75, 7.95].countP isHigh := by decide +kernel
  exact ⟨alternates, two, (alternating_flagged true _ alternates two).1⟩

end StrideEncryption

end KavachNpu

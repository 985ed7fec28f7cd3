/-
Module: KavachNpu.Foundation.Segments
Layer: Foundation
Purpose: Lists written as segments with a separator between them. Splitting and joining are inverse on
  segments without the separator; replacing the separator by a fresh symbol leaves the segments as they
  are, and replacing it by a symbol that occurs makes more of them.
Trusted boundary: human-reviewed spec
Main exports: not_mem_of_mem_splitOn, splitOn_joined, replaceSymbol, splitOn_replaceSymbol,
  length_splitOn_replaceSymbol
-/
import Mathlib.Data.List.Basic

namespace KavachNpu

variable {α : Type}

/-- A separator at the end is an empty last segment. -/
theorem intercalate_concat_nil (separator : α) {segments : List (List α)} (nonempty : segments ≠ []) :
    [separator].intercalate (segments ++ [[]]) = [separator].intercalate segments ++ [separator] := by
  induction segments with
  | nil => exact absurd rfl nonempty
  | cons segment rest ih =>
      cases rest with
      | nil => simp [List.intercalate_cons_cons]
      | cons next others =>
          have later := ih (by simp)
          rw [List.cons_append, List.cons_append, List.intercalate_cons_cons, List.intercalate_cons_cons,
            ← List.cons_append, later]
          simp

variable [DecidableEq α]

/-- No segment contains the separator. -/
theorem not_mem_of_mem_splitOn {separator : α} {items segment : List α}
    (member : segment ∈ items.splitOn separator) : separator ∉ segment := by
  induction items generalizing segment with
  | nil =>
      rw [List.splitOn_nil, List.mem_singleton] at member
      simp [member]
  | cons item rest ih =>
      rw [List.splitOn_cons_eq_if_modifyHead] at member
      split at member
      · rcases List.mem_cons.mp member with rfl | later
        · simp
        · exact ih later
      · rename_i other
        obtain ⟨first, others, split⟩ := List.exists_cons_of_ne_nil (List.splitOn_ne_nil separator rest)
        rw [split, List.modifyHead_cons] at member
        rcases List.mem_cons.mp member with rfl | later
        · have different : separator ≠ item := by
            rintro rfl
            simp at other
          have inner : separator ∉ first := ih (by simp [split])
          simp [different, inner]
        · exact ih (by simp [split, later])

/-- Joined segments are read back, with an empty one more if a separator ends them. -/
theorem splitOn_joined {separator : α} {segments : List (List α)} (nonempty : segments ≠ [])
    (fresh : ∀ segment ∈ segments, separator ∉ segment) (trailing : Bool) :
    ([separator].intercalate segments ++ if trailing then [separator] else []).splitOn separator =
      segments ++ if trailing then [[]] else [] := by
  cases trailing with
  | false => simpa using List.splitOn_intercalate separator fresh nonempty
  | true =>
      rw [if_pos rfl, if_pos rfl, ← intercalate_concat_nil separator nonempty]
      apply List.splitOn_intercalate
      · intro segment member
        rcases List.mem_append.mp member with inner | last
        · exact fresh segment inner
        · rw [List.mem_singleton.mp last]
          simp
      · simp

/-- One symbol written for another. -/
def replaceSymbol (old new : α) (items : List α) : List α :=
  items.map fun item => if item = old then new else item

/-- The segments do not depend on how a fresh separator is written. -/
theorem splitOn_replaceSymbol {old new : α} {items : List α} (fresh : new ∉ items) :
    (replaceSymbol old new items).splitOn new = items.splitOn old := by
  induction items with
  | nil => rfl
  | cons item rest ih =>
      have later := ih fun member => fresh (List.mem_cons_of_mem item member)
      unfold replaceSymbol at later ⊢
      rw [List.map_cons, List.splitOn_cons_eq_if_modifyHead, List.splitOn_cons_eq_if_modifyHead, later]
      by_cases same : item = old
      · simp [same]
      · have different : item ≠ new := by
          rintro rfl
          exact fresh List.mem_cons_self
        simp [same, different]

theorem length_splitOn (separator : α) (items : List α) :
    (items.splitOn separator).length = items.count separator + 1 := by
  induction items with
  | nil => rfl
  | cons item rest ih =>
      rw [List.splitOn_cons_eq_if_modifyHead, List.count_cons]
      by_cases same : item = separator
      · simp [same, ih]
      · simp [same, ih]

/-- Every occurrence of the new symbol is one more cut. -/
theorem length_splitOn_replaceSymbol (old new : α) (different : old ≠ new) (items : List α) :
    ((replaceSymbol old new items).splitOn new).length =
      (items.splitOn old).length + items.count new := by
  rw [length_splitOn, length_splitOn]
  unfold replaceSymbol
  induction items with
  | nil => rfl
  | cons item rest ih =>
      rw [List.map_cons, List.count_cons, List.count_cons, List.count_cons]
      by_cases isOld : item = old
      · simp only [isOld, if_true, beq_self_eq_true, beq_iff_eq, different, if_false]
        omega
      · simp only [isOld, if_false, beq_iff_eq]
        omega

end KavachNpu

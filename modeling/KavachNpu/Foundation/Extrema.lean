/-
Module: KavachNpu.Foundation.Extrema
Layer: Foundation
Purpose: Extrema of lists. `List.minOn?` keeps the first of several minimal elements, as Rust's
  `min_by_key` does, which the first lemma says by splitting the list. Extrema are carried along maps
  that keep the order.
Trusted boundary: none
Main exports: minOn?_eq_some_split, min?_map_of_monotone, max?_map_of_monotone
-/
import Mathlib.Data.List.Basic

namespace KavachNpu

variable {α β : Type}

/-- The selected element is below every earlier element and at most every later one. -/
theorem minOn?_eq_some_split [LE β] [LT β] [DecidableLE β] [Std.IsLinearPreorder β]
    [Std.LawfulOrderLT β]
    {f : α → β} {items : List α} {least : α} (found : items.minOn? f = some least) :
    ∃ front back, items = front ++ least :: back ∧ (∀ item ∈ front, f least < f item) ∧
      ∀ item ∈ back, f least ≤ f item := by
  induction items generalizing least with
  | nil => simp at found
  | cons head tail ih =>
      rw [List.minOn?_cons] at found
      cases later : tail.minOn? f with
      | none =>
          have empty : tail = [] := by
            cases tail with
            | nil => rfl
            | cons _ _ => simp [List.minOn?_cons] at later
          rw [later] at found
          cases found
          exact ⟨[], tail, rfl, by simp, by simp [empty]⟩
      | some candidate =>
          obtain ⟨front, back, split, before, after⟩ := ih later
          simp only [later, Option.elim_some, Option.some.injEq, minOn] at found
          split at found
          · rename_i smaller
            subst found
            refine ⟨[], tail, rfl, by simp, ?_⟩
            intro item member
            rw [split] at member
            rcases List.mem_append.mp member with early | late
            · exact Std.le_trans smaller (Std.le_of_lt (before item early))
            · rcases List.mem_cons.mp late with rfl | late
              · exact smaller
              · exact Std.le_trans smaller (after item late)
          · rename_i notSmaller
            subst found
            refine ⟨head :: front, back, by rw [split]; rfl, ?_, after⟩
            intro item member
            rcases List.mem_cons.mp member with rfl | early
            · exact Std.not_le.mp notSmaller
            · exact before item early

instance int64LawfulMax : Std.LawfulOrderLeftLeaningMax Int64 where
  max_eq_left a b below := by
    change (if a ≤ b then b else a) = a
    by_cases above : a ≤ b
    · rw [if_pos above]
      exact Std.le_antisymm below above
    · rw [if_neg above]
  max_eq_right a b notBelow := by
    change (if a ≤ b then b else a) = b
    rw [if_pos (Std.le_of_lt (Std.not_le.mp notBelow))]

section Map

variable [LE α] [Std.IsLinearOrder α] [LE β] [Std.IsLinearOrder β]

/-- The minimum of the images is the image of the minimum. -/
theorem min?_map_of_monotone [Min α] [Std.LawfulOrderMin α] [Min β] [Std.LawfulOrderMin β]
    {f : α → β} (monotone : ∀ a b, a ≤ b → f a ≤ f b) {items : List α} {least : α}
    (found : items.min? = some least) : (items.map f).min? = some (f least) := by
  obtain ⟨member, below⟩ := List.min?_eq_some_iff.mp found
  apply List.min?_eq_some_iff.mpr
  refine ⟨List.mem_map_of_mem member, ?_⟩
  intro image among
  obtain ⟨item, inside, rfl⟩ := List.mem_map.mp among
  exact monotone least item (below item inside)

/-- The maximum of the images is the image of the maximum. -/
theorem max?_map_of_monotone [Max α] [Std.LawfulOrderMax α] [Max β] [Std.LawfulOrderMax β]
    {f : α → β} (monotone : ∀ a b, a ≤ b → f a ≤ f b) {items : List α} {greatest : α}
    (found : items.max? = some greatest) : (items.map f).max? = some (f greatest) := by
  obtain ⟨member, above⟩ := List.max?_eq_some_iff.mp found
  apply List.max?_eq_some_iff.mpr
  refine ⟨List.mem_map_of_mem member, ?_⟩
  intro image among
  obtain ⟨item, inside, rfl⟩ := List.mem_map.mp among
  exact monotone item greatest (above item inside)

end Map

end KavachNpu

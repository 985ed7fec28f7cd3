/-
Module: KavachNpu.Foundation.Window
Layer: Foundation
Purpose: Bounded first-in first-out buffers as windows on the history of what was pushed. A buffer that
  evicts its oldest element when it overflows holds, after any pushes, the last elements of the history;
  its positions are the history's positions shifted by the number of evicted elements.
Trusted boundary: human-reviewed spec
Main exports: pushBounded, IsWindow, IsWindow.push, IsWindow.evict_push, IsWindow.getElem?_eq
-/
import Mathlib.Data.List.Basic

namespace KavachNpu

variable {α : Type}

/-- `push_back`, then `pop_front` if the capacity is exceeded. -/
def pushBounded (capacity : Nat) (buffer : List α) (item : α) : List α :=
  let buffer := buffer ++ [item]
  if buffer.length > capacity then
    buffer.drop 1
  else
    buffer

/-- The buffer holds the last elements of the history, as many as fit. -/
def IsWindow (capacity : Nat) (buffer history : List α) : Prop :=
  buffer = history.drop (history.length - capacity)

theorem isWindow_nil (capacity : Nat) : IsWindow capacity ([] : List α) [] := by
  simp [IsWindow]

theorem IsWindow.length {capacity : Nat} {buffer history : List α}
    (window : IsWindow capacity buffer history) :
    buffer.length = min capacity history.length := by
  rw [window, List.length_drop]
  omega

/-- A bounded push moves the window along. -/
theorem IsWindow.push {capacity : Nat} {buffer history : List α}
    (window : IsWindow capacity buffer history) (item : α) :
    IsWindow capacity (pushBounded capacity buffer item) (history ++ [item]) := by
  have length := window.length
  unfold pushBounded IsWindow
  simp only [List.length_append, List.length_singleton]
  by_cases full : buffer.length + 1 > capacity
  · rw [if_pos full, window]
    rw [← List.drop_append_of_le_length (Nat.sub_le _ _), List.drop_drop]
    congr 1
    omega
  · rw [if_neg full, window]
    rw [← List.drop_append_of_le_length (Nat.sub_le _ _)]
    congr 1
    omega

/-- So does a push that evicts first, when the buffer is full. -/
theorem IsWindow.evict_push {capacity : Nat} (positive : 0 < capacity) {buffer history : List α}
    (window : IsWindow capacity buffer history) (item : α) :
    IsWindow capacity ((if buffer.length = capacity then buffer.drop 1 else buffer) ++ [item])
      (history ++ [item]) := by
  have length := window.length
  unfold IsWindow
  simp only [List.length_append, List.length_singleton]
  rw [List.drop_append_of_le_length (by omega)]
  congr 1
  by_cases full : buffer.length = capacity
  · rw [if_pos full, window, List.drop_drop]
    congr 1
    omega
  · rw [if_neg full, window]
    congr 1
    omega

/-- After a push the new item comes last, behind items that were there before. -/
theorem exists_pushBounded_eq_append {capacity : Nat} (positive : 0 < capacity) (buffer : List α)
    (item : α) :
    ∃ front, (∀ other ∈ front, other ∈ buffer) ∧
      pushBounded capacity buffer item = front ++ [item] := by
  unfold pushBounded
  simp only [List.length_append, List.length_singleton]
  by_cases full : buffer.length + 1 > capacity
  · refine ⟨buffer.drop 1, fun other => List.mem_of_mem_drop, ?_⟩
    rw [if_pos full, List.drop_append_of_le_length (by omega)]
  · exact ⟨buffer, fun _ member => member, if_neg full⟩

/-- The element at a position of the buffer is the history's at the shifted position. -/
theorem IsWindow.getElem?_eq {capacity : Nat} {buffer history : List α}
    (window : IsWindow capacity buffer history) (i : Nat) :
    buffer[i]? = history[history.length - buffer.length + i]? := by
  have length := window.length
  rw [window, List.getElem?_drop, List.length_drop]
  congr 1
  omega

end KavachNpu

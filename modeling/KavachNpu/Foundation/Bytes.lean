/-
Module: KavachNpu.Foundation.Bytes
Layer: Foundation
Purpose: Byte buffers as Rust indexes them. Reads of single positions, of ranges, and of literal lists
  of positions panic outside the buffer; copies panic when the lengths differ. Two laws carry every
  fixed-layout codec: reading a range of a concatenation finds the field that was written there, and
  consecutive ranges of a buffer concatenate back to it.
Trusted boundary: human-reviewed spec
Main exports: Bytes, slice, index, indices, sliceRange, copyFromSlice, writeRange, slice_append_right,
  slice_append_slice, Filled.write, chunks, chunks_spec
-/
import KavachNpu.Foundation.Outcome

namespace KavachNpu

/-- The Rust array type `[u8; n]`. -/
@[ext] structure Bytes (n : Nat) where
  toList : List UInt8
  length_toList : toList.length = n
deriving DecidableEq

attribute [simp] Bytes.length_toList

instance {n : Nat} : GetElem (Bytes n) Nat UInt8 (fun _ i => i < n) where
  getElem bytes i h := bytes.toList.get ⟨i, bytes.length_toList.symm ▸ h⟩

/-- `[byte; n]`. -/
def Bytes.replicate (n : Nat) (byte : UInt8) : Bytes n :=
  ⟨List.replicate n byte, List.length_replicate⟩

/-- The `len` bytes of `buf` that start at `offset`. -/
def slice (buf : List UInt8) (offset len : Nat) : List UInt8 :=
  (buf.drop offset).take len

section Reads

variable {ε : Type}

/-- `buf[i]`. -/
def index (buf : List UInt8) (i : Nat) : Outcome ε UInt8 :=
  match buf[i]? with
  | some byte => .ok byte
  | none => .panicked .indexOutOfBounds

/-- The array literal `[buf[i], buf[j], ..]`. -/
def indices (buf : List UInt8) : List Nat → Outcome ε (List UInt8)
  | [] => .ok []
  | i :: rest => do
      let byte ← index buf i
      let bytes ← indices buf rest
      .ok (byte :: bytes)

/-- `&buf[low..high]`. -/
def sliceRange (buf : List UInt8) (low high : Nat) : Outcome ε (List UInt8) :=
  if low ≤ high ∧ high ≤ buf.length then
    .ok (slice buf low (high - low))
  else
    .panicked .indexOutOfBounds

/-- `let mut a = [0u8; n]; a.copy_from_slice(source)`. -/
def copyFromSlice (n : Nat) (source : List UInt8) : Outcome ε (Bytes n) :=
  if h : source.length = n then
    .ok ⟨source, h⟩
  else
    .panicked .sliceLengthMismatch

/-- `a - b` on `u64` under overflow checks. -/
def checkedSub (a b : UInt64) : Outcome ε UInt64 :=
  if b ≤ a then
    .ok (a - b)
  else
    .panicked .subtractWithOverflow

/-- `a - b` on `usize` under overflow checks. -/
def usizeSub (a b : Nat) : Outcome ε Nat :=
  if b ≤ a then
    .ok (a - b)
  else
    .panicked .subtractWithOverflow

end Reads

/-- `buf[low..high].copy_from_slice(&source)` on an array, with the range checked by its type. -/
def writeRange {n : Nat} (buf : Bytes n) (low high : Nat) (source : Bytes (high - low))
    (inBounds : low ≤ high ∧ high ≤ n) : Bytes n :=
  ⟨buf.toList.take low ++ source.toList ++ buf.toList.drop high, by
    have hbuf : buf.toList.length = n := buf.length_toList
    have hsource : source.toList.length = high - low := source.length_toList
    simp only [List.length_append, List.length_take, List.length_drop, hbuf, hsource]
    omega⟩

/-! ### Lengths -/

theorem length_slice {buf : List UInt8} {offset len : Nat} (h : offset + len ≤ buf.length) :
    (slice buf offset len).length = len := by
  simp only [slice, List.length_take, List.length_drop]
  omega

theorem slice_zero_length (buf : List UInt8) : slice buf 0 buf.length = buf := by
  simp [slice]

/-! ### Reads that stay inside the buffer -/

section ReadLaws

variable {ε : Type}

theorem index_of_lt {buf : List UInt8} {i : Nat} (h : i < buf.length) :
    (index buf i : Outcome ε UInt8) = .ok (buf[i]) := by
  simp [index, h]

/-- Reading consecutive positions one by one reads the range. -/
theorem indices_range' {buf : List UInt8} (len : Nat) :
    ∀ (offset : Nat), offset + len ≤ buf.length →
      (indices buf (List.range' offset len) : Outcome ε (List UInt8)) = .ok (slice buf offset len) := by
  induction len with
  | zero =>
      intro offset _
      simp [indices, slice]
  | succ len ih =>
      intro offset h
      have hlt : offset < buf.length := by omega
      have hrest := ih (offset + 1) (by omega)
      rw [List.range'_succ]
      simp only [indices, index_of_lt hlt, hrest, Outcome.ok_bind]
      simp only [slice, List.drop_eq_getElem_cons hlt, List.take_succ_cons]

theorem sliceRange_of_le {buf : List UInt8} {low high : Nat} (h : low ≤ high ∧ high ≤ buf.length) :
    (sliceRange buf low high : Outcome ε (List UInt8)) = .ok (slice buf low (high - low)) := by
  simp [sliceRange, h]

theorem checkedSub_of_le {a b : UInt64} (h : b ≤ a) :
    (checkedSub a b : Outcome ε UInt64) = .ok (a - b) := by
  simp [checkedSub, h]

theorem usizeSub_of_le {a b : Nat} (h : b ≤ a) : (usizeSub a b : Outcome ε Nat) = .ok (a - b) := by
  simp [usizeSub, h]

theorem copyFromSlice_of_length {n : Nat} {source : List UInt8} (h : source.length = n) :
    (copyFromSlice n source : Outcome ε (Bytes n)) = .ok ⟨source, h⟩ := by
  simp [copyFromSlice, h]

end ReadLaws

/-! ### Concatenated fields -/

/-- A range that starts after the first field is a range of the remaining fields. -/
theorem slice_append_right {front rest : List UInt8} {offset len : Nat}
    (h : front.length ≤ offset) :
    slice (front ++ rest) offset len = slice rest (offset - front.length) len := by
  simp only [slice, List.drop_append]
  rw [List.drop_of_length_le h, List.nil_append]

/-- The range that covers exactly the first field is that field. -/
theorem slice_append_left {front rest : List UInt8} {len : Nat} (h : front.length = len) :
    slice (front ++ rest) 0 len = front := by
  subst h
  simp [slice]

/-- Consecutive ranges concatenate. -/
theorem slice_append_slice (buf : List UInt8) {offset next len len' : Nat}
    (h : next = offset + len) :
    slice buf offset len ++ slice buf next len' = slice buf offset (len + len') := by
  subst h
  simp only [slice, List.take_add, List.drop_drop]

/-- A range of one byte. -/
theorem slice_one {buf : List UInt8} {i : Nat} (h : i < buf.length) : slice buf i 1 = [buf[i]] := by
  rw [slice, List.drop_eq_getElem_cons h]
  rfl

theorem singleton_getElem {n : Nat} (bytes : Bytes n) {i : Nat} (h : i < n) :
    [bytes[i]] = slice bytes.toList i 1 := by
  have hlt : i < bytes.toList.length := by simpa using h
  rw [slice_one hlt]
  rfl

/-- A one-byte range determines the byte at its position. -/
theorem getElem_of_slice {n : Nat} {bytes : Bytes n} {i : Nat} {byte : UInt8} (h : i < n)
    (range : slice bytes.toList i 1 = [byte]) : bytes[i] = byte := by
  rw [← singleton_getElem bytes h] at range
  exact List.singleton_inj.mp range

/-! ### Filling a zeroed buffer from left to right -/

theorem toList_writeRange {n : Nat} (buf : Bytes n) (low high : Nat) (source : Bytes (high - low))
    (inBounds : low ≤ high ∧ high ≤ n) :
    (writeRange buf low high source inBounds).toList =
      buf.toList.take low ++ source.toList ++ buf.toList.drop high := rfl

/-- The buffer holds `written` and is still zero after it. -/
def Filled {n : Nat} (buf : Bytes n) (written : List UInt8) : Prop :=
  buf.toList = written ++ List.replicate (n - written.length) 0

theorem Filled.zeroed (n : Nat) : Filled (Bytes.replicate n 0 : Bytes n) [] := by
  simp [Filled, Bytes.replicate]

/-- Writing the range that starts where the written part ends extends the written part. -/
theorem Filled.write {n : Nat} {buf : Bytes n} {written : List UInt8} (filled : Filled buf written)
    (low high : Nat) (source : Bytes (high - low)) (inBounds : low ≤ high ∧ high ≤ n)
    (start : written.length = low) :
    Filled (writeRange buf low high source inBounds) (written ++ source.toList) := by
  have hsource : source.toList.length = high - low := source.length_toList
  have hdrop : List.drop high buf.toList = List.replicate (n - high) 0 := by
    rw [filled, List.drop_append, List.drop_of_length_le (by omega), List.nil_append,
      List.drop_replicate]
    congr 1
    omega
  have htake : List.take low buf.toList = written := by
    rw [filled, ← start, List.take_left]
  rw [Filled, toList_writeRange, htake, hdrop]
  congr 2
  rw [List.length_append, hsource]
  omega

/-! ### Chunks -/

/-- `slice::chunks`, for a positive size. -/
def chunks {α : Type} (size : Nat) : List α → List (List α)
  | [] => []
  | item :: rest => (item :: rest.take (size - 1)) :: chunks size (rest.drop (size - 1))
termination_by items => items.length
decreasing_by
  simp only [List.length_drop, List.length_cons]
  omega

theorem chunks_of_length_le {α : Type} {size : Nat} {items : List α} (nonempty : items ≠ [])
    (fits : items.length ≤ size) : chunks size items = [items] := by
  cases items with
  | nil => exact absurd rfl nonempty
  | cons item rest =>
      have short : rest.length ≤ size - 1 := by
        rw [List.length_cons] at fits
        omega
      rw [chunks, List.take_of_length_le short, List.drop_of_length_le short, chunks]

/-- The chunks put together are the list, and none of them is empty or too long. -/
theorem chunks_spec {α : Type} {size : Nat} (positive : 0 < size) (items : List α) :
    (chunks size items).flatten = items ∧
      (∀ chunk ∈ chunks size items, chunk ≠ [] ∧ chunk.length ≤ size) ∧
      (chunks size items).length = (items.length + size - 1) / size := by
  fun_induction chunks size items with
  | case1 =>
      refine ⟨rfl, by simp, ?_⟩
      simp only [List.length_nil, Nat.zero_add]
      exact (Nat.div_eq_of_lt (by omega)).symm
  | case2 item rest ih =>
      obtain ⟨joined, sizes, number⟩ := ih
      refine ⟨?_, ?_, ?_⟩
      · rw [List.flatten_cons, joined, List.cons_append, List.take_append_drop]
      · intro chunk member
        rcases List.mem_cons.mp member with rfl | later
        · refine ⟨by simp, ?_⟩
          rw [List.length_cons, List.length_take]
          omega
        · exact sizes chunk later
      · rw [List.length_cons, number, List.length_drop, List.length_cons]
        by_cases short : rest.length ≤ size - 1
        · have none : rest.length - (size - 1) = 0 := by omega
          have last : rest.length + 1 + size - 1 = rest.length + size := by omega
          rw [none, last, Nat.zero_add, Nat.div_eq_of_lt (by omega : size - 1 < size),
            Nat.add_div_right _ positive, Nat.div_eq_of_lt (by omega)]
        · have full : rest.length + 1 + size - 1 = rest.length - (size - 1) + size - 1 + size := by omega
          rw [full, Nat.add_div_right _ positive]

end KavachNpu

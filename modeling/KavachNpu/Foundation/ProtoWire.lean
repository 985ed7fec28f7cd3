/-
Module: KavachNpu.Foundation.ProtoWire
Layer: Foundation
Purpose: The protobuf wire format. A message is a sequence of records, each a tag and a value; the reader
  splits a message into its records, and reading a concatenation concatenates what is read. Groups, the
  deprecated wire types 3 and 4, are not read; `isMessage` allows them.
Trusted boundary: human-reviewed spec
Main exports: WireField, readVarint, readField, readFields, isMessage, ReadsPrefix, Consumes, varint,
  readFields_append, readVarint_varint, readFields_varintRecord, readFields_lenRecord
-/
import Mathlib.Algebra.Group.Nat.Even
import Mathlib.Data.List.Basic

namespace KavachNpu

/-- The value of a record, by wire type. -/
inductive WireValue where
  | varint (value : UInt64)
  | i64 (bytes : List UInt8)
  | len (payload : List UInt8)
  | i32 (bytes : List UInt8)
deriving DecidableEq

/-- A record: its field number and its value. -/
structure WireField where
  number : Nat
  value : WireValue
deriving DecidableEq

/-! ## Reading -/

/-- The number written in base 128, least significant digit first; the last byte is below 128. -/
def readDigits : Nat → List UInt8 → Option (Nat × List UInt8)
  | _, [] => none
  | 0, _ :: _ => none
  | rounds + 1, byte :: rest =>
      if byte.toNat < 128 then
        some (byte.toNat, rest)
      else
        (readDigits rounds rest).map fun (high, tail) => (byte.toNat - 128 + 128 * high, tail)

/-- Reads a varint: at most ten bytes, and bits above the 64th are dropped. -/
def readVarint (bytes : List UInt8) : Option (UInt64 × List UInt8) :=
  (readDigits 10 bytes).map fun (value, rest) => (UInt64.ofNat value, rest)

/-- Splits off a number of bytes. -/
def readBytes (count : Nat) (bytes : List UInt8) : Option (List UInt8 × List UInt8) :=
  if count ≤ bytes.length then some (bytes.splitAt count) else none

/-- Reads the value of a record with the given wire type. -/
def readValue (wireType : Nat) (bytes : List UInt8) : Option (WireValue × List UInt8) :=
  match wireType with
  | 0 => (readVarint bytes).map fun (value, rest) => (.varint value, rest)
  | 1 => (readBytes 8 bytes).map fun (value, rest) => (.i64 value, rest)
  | 2 => (readVarint bytes).bind fun (length, rest) =>
      (readBytes length.toNat rest).map fun (payload, rest) => (.len payload, rest)
  | 5 => (readBytes 4 bytes).map fun (value, rest) => (.i32 value, rest)
  | _ => none

/-- Reads one record. A tag has 32 bits: the field number, which is not 0, and the wire type. -/
def readField (bytes : List UInt8) : Option (WireField × List UInt8) :=
  (readVarint bytes).bind fun (tag, rest) =>
    if 8 ≤ tag.toNat ∧ tag.toNat < 2 ^ 32 then
      (readValue (tag.toNat % 8) rest).map fun (value, rest) => (⟨tag.toNat / 8, value⟩, rest)
    else
      none

/-- The loop of `readFields`, for at most the given number of records. -/
def readFieldsLoop : Nat → List UInt8 → Option (List WireField)
  | _, [] => some []
  | 0, _ :: _ => none
  | rounds + 1, byte :: bytes =>
      (readField (byte :: bytes)).bind fun (field, rest) =>
        (readFieldsLoop rounds rest).map fun fields => field :: fields

/-- Reads the records of a message. Each has at least one byte. -/
def readFields (bytes : List UInt8) : Option (List WireField) :=
  readFieldsLoop bytes.length bytes

/-! ## Groups -/

/-- Whether the bytes are records, in which groups, the deprecated wire types 3 and 4, may enclose others:
    an end tag closes the innermost open group, whose number it must have. -/
def scanRecords : Nat → List Nat → List UInt8 → Bool
  | _, opened, [] => opened.isEmpty
  | 0, _, _ :: _ => false
  | rounds + 1, opened, byte :: bytes =>
      match readVarint (byte :: bytes) with
      | none => false
      | some (tag, rest) =>
          if 8 ≤ tag.toNat ∧ tag.toNat < 2 ^ 32 then
            if tag.toNat % 8 = 3 then
              scanRecords rounds (tag.toNat / 8 :: opened) rest
            else if tag.toNat % 8 = 4 then
              match opened with
              | [] => false
              | innermost :: others =>
                  decide (innermost = tag.toNat / 8) && scanRecords rounds others rest
            else
              match readValue (tag.toNat % 8) rest with
              | none => false
              | some (_, rest) => scanRecords rounds opened rest
          else
            false

/-- Whether the bytes are a message, groups included. -/
def isMessage (bytes : List UInt8) : Bool :=
  scanRecords bytes.length [] bytes

theorem scanRecords_of_readFieldsLoop {rounds : Nat} {bytes : List UInt8} {fields : List WireField}
    (read : readFieldsLoop rounds bytes = some fields) : scanRecords rounds [] bytes = true := by
  induction rounds generalizing bytes fields with
  | zero =>
      cases bytes with
      | nil => rfl
      | cons byte bytes => cases read
  | succ rounds ih =>
      cases bytes with
      | nil => rfl
      | cons byte bytes =>
          obtain ⟨⟨field, rest⟩, first, later⟩ := Option.bind_eq_some_iff.mp read
          obtain ⟨others, remaining, -⟩ := Option.map_eq_some_iff.mp later
          obtain ⟨⟨tag, tail⟩, isTag, value⟩ := Option.bind_eq_some_iff.mp first
          dsimp only at value
          have bounds : 8 ≤ tag.toNat ∧ tag.toNat < 2 ^ 32 := by
            by_contra outside
            rw [if_neg outside] at value
            cases value
          rw [if_pos bounds] at value
          obtain ⟨⟨content, rest'⟩, isValue, same⟩ := Option.map_eq_some_iff.mp value
          cases same
          have noStart : tag.toNat % 8 ≠ 3 := by
            intro group
            rw [group] at isValue
            cases isValue
          have noEnd : tag.toNat % 8 ≠ 4 := by
            intro group
            rw [group] at isValue
            cases isValue
          simp only [scanRecords, isTag, bounds, and_self, if_true, noStart, noEnd, if_false, isValue]
          exact ih remaining

/-- What the reader reads is a message; so what is no message, groups included, is not read. -/
theorem isMessage_of_readFields {bytes : List UInt8} {fields : List WireField}
    (read : readFields bytes = some fields) : isMessage bytes = true :=
  scanRecords_of_readFieldsLoop read

/-! ## Readers that take a beginning

Whatever follows what a reader has taken stays. The readers of this module are composed with `map` and `bind`,
and so are these facts. -/

/-- A reader that takes a beginning of its input, whatever follows it. -/
structure ReadsPrefix {α : Type} (read : List UInt8 → Option (α × List UInt8)) : Prop where
  append : ∀ {bytes value rest}, read bytes = some (value, rest) →
    ∀ tail, read (bytes ++ tail) = some (value, rest ++ tail)
  length_le : ∀ {bytes value rest}, read bytes = some (value, rest) → rest.length ≤ bytes.length

/-- A reader that takes at least one byte. -/
structure Consumes {α : Type} (read : List UInt8 → Option (α × List UInt8)) : Prop extends
    ReadsPrefix read where
  length_lt : ∀ {bytes value rest}, read bytes = some (value, rest) → rest.length < bytes.length

section Combinators

variable {α β : Type} {read : List UInt8 → Option (α × List UInt8)}

theorem ReadsPrefix.none : ReadsPrefix fun _ : List UInt8 => (Option.none : Option (α × List UInt8)) where
  append result := nomatch result
  length_le result := nomatch result

theorem ReadsPrefix.map (isPrefix : ReadsPrefix read) (f : α → β) :
    ReadsPrefix fun bytes => (read bytes).map fun (value, rest) => (f value, rest) where
  append := by
    intro bytes value rest result tail
    obtain ⟨⟨inner, rest⟩, taken, same⟩ := Option.map_eq_some_iff.mp result
    cases same
    rw [isPrefix.append taken tail]
    rfl
  length_le := by
    intro bytes value rest result
    obtain ⟨⟨inner, rest⟩, taken, same⟩ := Option.map_eq_some_iff.mp result
    cases same
    exact isPrefix.length_le taken

theorem Consumes.map (consumes : Consumes read) (f : α → β) :
    Consumes fun bytes => (read bytes).map fun (value, rest) => (f value, rest) where
  toReadsPrefix := consumes.toReadsPrefix.map f
  length_lt := by
    intro bytes value rest result
    obtain ⟨⟨inner, rest⟩, taken, same⟩ := Option.map_eq_some_iff.mp result
    cases same
    exact consumes.length_lt taken

theorem Consumes.bind (consumes : Consumes read) {next : α → List UInt8 → Option (β × List UInt8)}
    (isPrefix : ∀ value, ReadsPrefix (next value)) :
    Consumes fun bytes => (read bytes).bind fun (value, rest) => next value rest := by
  have shorter : ∀ {bytes value rest},
      ((read bytes).bind fun (first, rest) => next first rest) = some (value, rest) →
        rest.length < bytes.length := by
    intro bytes value rest result
    obtain ⟨⟨first, middle⟩, taken, result⟩ := Option.bind_eq_some_iff.mp result
    exact Nat.lt_of_le_of_lt ((isPrefix first).length_le result) (consumes.length_lt taken)
  refine ⟨⟨?_, fun result => Nat.le_of_lt (shorter result)⟩, shorter⟩
  intro bytes value rest result tail
  obtain ⟨⟨first, middle⟩, taken, result⟩ := Option.bind_eq_some_iff.mp result
  rw [consumes.append taken tail, Option.bind_some]
  exact (isPrefix first).append result tail

end Combinators

theorem readDigits_append {rounds : Nat} {bytes : List UInt8} {value : Nat} {rest : List UInt8}
    (result : readDigits rounds bytes = some (value, rest)) (tail : List UInt8) :
    readDigits rounds (bytes ++ tail) = some (value, rest ++ tail) := by
  induction rounds generalizing bytes value with
  | zero => cases bytes <;> cases result
  | succ rounds ih =>
      cases bytes with
      | nil => cases result
      | cons byte bytes =>
          rw [readDigits] at result
          rw [List.cons_append, readDigits]
          split at result
          · rename_i small
            cases result
            rw [if_pos small]
          · rename_i large
            obtain ⟨⟨high, rest⟩, read, same⟩ := Option.map_eq_some_iff.mp result
            cases same
            rw [if_neg large, ih read]
            rfl

theorem readDigits_length_lt {rounds : Nat} {bytes : List UInt8} {value : Nat} {rest : List UInt8}
    (result : readDigits rounds bytes = some (value, rest)) : rest.length < bytes.length := by
  induction rounds generalizing bytes value with
  | zero => cases bytes <;> cases result
  | succ rounds ih =>
      cases bytes with
      | nil => cases result
      | cons byte bytes =>
          rw [readDigits] at result
          split at result
          · cases result
            exact Nat.lt_succ_self _
          · obtain ⟨⟨high, rest⟩, read, same⟩ := Option.map_eq_some_iff.mp result
            cases same
            exact Nat.lt_succ_of_lt (ih read)

theorem readDigits_consumes (rounds : Nat) : Consumes (readDigits rounds) where
  append := readDigits_append
  length_le result := Nat.le_of_lt (readDigits_length_lt result)
  length_lt := readDigits_length_lt

theorem readVarint_consumes : Consumes readVarint :=
  (readDigits_consumes 10).map UInt64.ofNat

theorem readBytes_eq_some {count : Nat} {bytes value rest : List UInt8} :
    readBytes count bytes = some (value, rest) ↔ bytes = value ++ rest ∧ value.length = count := by
  rw [readBytes]
  split
  · rename_i le
    rw [List.splitAt_eq, Option.some_inj, Prod.mk.injEq]
    constructor
    · rintro ⟨rfl, rfl⟩
      exact ⟨(List.take_append_drop count bytes).symm, List.length_take_of_le le⟩
    · rintro ⟨rfl, rfl⟩
      exact ⟨List.take_left, List.drop_left⟩
  · rename_i short
    constructor
    · intro result
      cases result
    · rintro ⟨rfl, rfl⟩
      exact absurd (by rw [List.length_append]; omega) short

theorem readsPrefix_readBytes (count : Nat) : ReadsPrefix (readBytes count) where
  append := by
    intro bytes value rest result tail
    obtain ⟨rfl, rfl⟩ := readBytes_eq_some.mp result
    exact readBytes_eq_some.mpr ⟨List.append_assoc _ _ _, rfl⟩
  length_le := by
    intro bytes value rest result
    obtain ⟨rfl, rfl⟩ := readBytes_eq_some.mp result
    rw [List.length_append]
    omega

theorem readsPrefix_readValue (wireType : Nat) : ReadsPrefix (readValue wireType) := by
  unfold readValue
  split
  · exact (readVarint_consumes.map WireValue.varint).toReadsPrefix
  · exact (readsPrefix_readBytes 8).map WireValue.i64
  · exact (readVarint_consumes.bind fun length =>
      (readsPrefix_readBytes length.toNat).map WireValue.len).toReadsPrefix
  · exact (readsPrefix_readBytes 4).map WireValue.i32
  · exact ReadsPrefix.none

theorem readField_consumes : Consumes readField := by
  have afterTag : ∀ tag : UInt64, ReadsPrefix fun rest =>
      if 8 ≤ tag.toNat ∧ tag.toNat < 2 ^ 32 then
        (readValue (tag.toNat % 8) rest).map fun (value, rest) => (WireField.mk (tag.toNat / 8) value, rest)
      else
        none := by
    intro tag
    split
    · exact (readsPrefix_readValue (tag.toNat % 8)).map (WireField.mk (tag.toNat / 8))
    · exact ReadsPrefix.none
  exact readVarint_consumes.bind afterTag

/-! ## Messages -/

theorem readFieldsLoop_congr {rounds others : Nat} {bytes : List UInt8} (enough : bytes.length ≤ rounds)
    (also : bytes.length ≤ others) : readFieldsLoop rounds bytes = readFieldsLoop others bytes := by
  induction rounds generalizing others bytes with
  | zero =>
      cases bytes with
      | nil => cases others <;> rfl
      | cons byte bytes => cases enough
  | succ rounds ih =>
      cases bytes with
      | nil => cases others <;> rfl
      | cons byte bytes =>
          obtain ⟨others, rfl⟩ := Nat.exists_eq_add_one_of_ne_zero (show others ≠ 0 by simp at also; omega)
          rw [readFieldsLoop, readFieldsLoop]
          apply Option.bind_congr
          rintro ⟨field, rest⟩ read
          have shorter := readField_consumes.length_lt read
          rw [List.length_cons] at shorter enough also
          dsimp only
          rw [ih (show rest.length ≤ rounds by omega) (show rest.length ≤ others by omega)]

@[simp] theorem readFields_nil : readFields [] = some [] := rfl

/-- The first record, and those of the rest. -/
theorem readFields_of_readField {bytes rest : List UInt8} {field : WireField}
    (read : readField bytes = some (field, rest)) :
    readFields bytes = (readFields rest).map fun fields => field :: fields := by
  have shorter := readField_consumes.length_lt read
  cases bytes with
  | nil => cases read
  | cons byte bytes =>
      rw [readFields, List.length_cons, readFieldsLoop, read, Option.bind_some]
      dsimp only
      rw [readFieldsLoop_congr (Nat.le_of_lt_succ shorter) (Nat.le_refl rest.length), readFields]

theorem eq_nil_of_readFields {bytes : List UInt8} (read : readFields bytes = some []) : bytes = [] := by
  cases bytes with
  | nil => rfl
  | cons byte bytes =>
      rw [readFields, List.length_cons, readFieldsLoop] at read
      obtain ⟨⟨field, rest⟩, -, result⟩ := Option.bind_eq_some_iff.mp read
      obtain ⟨fields, -, same⟩ := Option.map_eq_some_iff.mp result
      cases same

theorem readFields_eq_cons {bytes : List UInt8} {field : WireField} {fields : List WireField}
    (read : readFields bytes = some (field :: fields)) :
    ∃ rest, readField bytes = some (field, rest) ∧ readFields rest = some fields := by
  cases bytes with
  | nil => cases read
  | cons byte bytes =>
      have unfolded := read
      rw [readFields, List.length_cons, readFieldsLoop] at unfolded
      obtain ⟨⟨first, rest⟩, readFirst, result⟩ := Option.bind_eq_some_iff.mp unfolded
      rw [readFields_of_readField readFirst] at read
      obtain ⟨others, readRest, same⟩ := Option.map_eq_some_iff.mp read
      cases same
      exact ⟨rest, readFirst, readRest⟩

/-- The records of a concatenation. -/
theorem readFields_append {bytes tail : List UInt8} {fields others : List WireField}
    (first : readFields bytes = some fields) (second : readFields tail = some others) :
    readFields (bytes ++ tail) = some (fields ++ others) := by
  induction fields generalizing bytes with
  | nil =>
      rw [eq_nil_of_readFields first]
      exact second
  | cons field fields ih =>
      obtain ⟨rest, readFirst, readRest⟩ := readFields_eq_cons first
      rw [readFields_of_readField (readField_consumes.append readFirst tail), ih readRest]
      rfl

/-! ## Writing

The canonical bytes of a varint and of the two kinds of record the reader's clients write. -/

/-- A number in base 128, least significant digit first; every byte but the last is from 128 on. -/
def varint (value : Nat) : List UInt8 :=
  if value < 128 then
    [UInt8.ofNat value]
  else
    UInt8.ofNat (value % 128 + 128) :: varint (value / 128)

/-- The field numbers, 1 to 2^29 - 1. -/
abbrev IsFieldNumber (number : Nat) : Prop :=
  0 < number ∧ number < 2 ^ 29

/-- A payload whose length is a 64-bit number. -/
def FitsLength (payload : List UInt8) : Prop :=
  payload.length < 2 ^ 64

instance (payload : List UInt8) : Decidable (FitsLength payload) :=
  inferInstanceAs (Decidable (payload.length < 2 ^ 64))

/-- A varint record. -/
def varintRecord (number : Nat) (value : UInt64) : List UInt8 :=
  varint (8 * number) ++ varint value.toNat

/-- A length-delimited record. -/
def lenRecord (number : Nat) (payload : List UInt8) : List UInt8 :=
  varint (8 * number + 2) ++ varint payload.length ++ payload

theorem higher_digits {rounds value : Nat} (large : ¬ value < 128) (small : value < 128 ^ (rounds + 1)) :
    0 < rounds ∧ value / 128 < 128 ^ rounds := by
  constructor
  · rcases Nat.eq_zero_or_pos rounds with rfl | positive
    · rw [Nat.zero_add, Nat.pow_one] at small
      exact absurd small large
    · exact positive
  · rw [Nat.div_lt_iff_lt_mul (by decide)]
    exact small

/-- A number of at most `7 * rounds` bits is read back. -/
theorem readDigits_varint {rounds value : Nat} (positive : 0 < rounds) (small : value < 128 ^ rounds)
    (tail : List UInt8) : readDigits rounds (varint value ++ tail) = some (value, tail) := by
  induction rounds generalizing value with
  | zero => cases positive
  | succ rounds ih =>
      rw [varint]
      split
      · rename_i lt
        have digit : (UInt8.ofNat value).toNat = value := by
          rw [UInt8.toNat_ofNat', Nat.mod_eq_of_lt (by omega)]
        rw [List.singleton_append, readDigits, digit, if_pos lt]
      · rename_i ge
        have digit : (UInt8.ofNat (value % 128 + 128)).toNat = value % 128 + 128 := by
          rw [UInt8.toNat_ofNat', Nat.mod_eq_of_lt (by omega)]
        obtain ⟨more, high⟩ := higher_digits ge small
        rw [List.cons_append, readDigits, digit, if_neg (by omega), ih more high]
        simp only [Option.map_some, Option.some.injEq, Prod.mk.injEq, and_true]
        omega

/-- A varint has as many bytes as the number has digits in base 128. -/
theorem length_varint_le {rounds value : Nat} (positive : 0 < rounds) (small : value < 128 ^ rounds) :
    (varint value).length ≤ rounds := by
  induction rounds generalizing value with
  | zero => cases positive
  | succ rounds ih =>
      rw [varint]
      split
      · exact Nat.succ_le_succ (Nat.zero_le rounds)
      · rename_i ge
        obtain ⟨more, high⟩ := higher_digits ge small
        exact Nat.succ_le_succ (ih more high)

theorem readVarint_varint {value : Nat} (small : value < 2 ^ 64) (tail : List UInt8) :
    readVarint (varint value ++ tail) = some (UInt64.ofNat value, tail) := by
  rw [readVarint, readDigits_varint (by decide) (Nat.lt_of_lt_of_le small (by decide))]
  rfl

/-- A record is read by its tag. -/
theorem readField_of_tag {number wireType : Nat} {bytes rest : List UInt8} {value : WireValue}
    (valid : IsFieldNumber number) (small : wireType < 8)
    (read : readValue wireType bytes = some (value, rest)) :
    readField (varint (8 * number + wireType) ++ bytes) = some (⟨number, value⟩, rest) := by
  obtain ⟨positive, bound⟩ := valid
  have tag : (UInt64.ofNat (8 * number + wireType)).toNat = 8 * number + wireType := by
    rw [UInt64.toNat_ofNat', Nat.mod_eq_of_lt (by omega)]
  rw [readField, readVarint_varint (by omega), Option.bind_some]
  dsimp only
  rw [tag, if_pos (by omega), show (8 * number + wireType) % 8 = wireType by omega,
    show (8 * number + wireType) / 8 = number by omega, read]
  rfl

theorem readFields_varintRecord {number : Nat} (valid : IsFieldNumber number) (value : UInt64) :
    readFields (varintRecord number value) = some [⟨number, .varint value⟩] := by
  have read : readValue 0 (varint value.toNat) = some (.varint value, []) := by
    have digits := readVarint_varint value.toNat_lt []
    rw [List.append_nil, UInt64.ofNat_toNat] at digits
    rw [readValue, digits]
    rfl
  have field := readField_of_tag valid (by decide) read
  rw [Nat.add_zero] at field
  rw [varintRecord, readFields_of_readField field, readFields_nil]
  rfl

theorem readFields_lenRecord {number : Nat} (valid : IsFieldNumber number) {payload : List UInt8}
    (fits : FitsLength payload) :
    readFields (lenRecord number payload) = some [⟨number, .len payload⟩] := by
  have length : (UInt64.ofNat payload.length).toNat = payload.length := by
    rw [UInt64.toNat_ofNat', Nat.mod_eq_of_lt fits]
  have whole : readBytes payload.length payload = some (payload, []) :=
    readBytes_eq_some.mpr ⟨(List.append_nil payload).symm, rfl⟩
  have read : readValue 2 (varint payload.length ++ payload) = some (.len payload, []) := by
    rw [readValue, readVarint_varint fits, Option.bind_some]
    dsimp only
    rw [length, whole]
    rfl
  rw [lenRecord, List.append_assoc,
    readFields_of_readField (readField_of_tag valid (by decide) read), readFields_nil]
  rfl

end KavachNpu

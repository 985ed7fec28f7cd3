/-
Module: KavachNpu.Proofs.Base64Codec
Layer: Proofs
Purpose: What the base64 decoder reads. Its bit buffer is the end of a stream of sextets, so it returns the
  bytes of that stream; the encoder writes a stream whose bytes are its argument; and padding, white
  space, line breaks and the choice of alphabet leave the stream as it is.
Trusted boundary: none
Main exports: sextets, decodeBase64_eq, sextets_encodeBase64, Transported, Rewritten,
  decodeBase64_of_rewritten
-/
import KavachNpu.Core.Base64
import KavachNpu.Foundation.BitStream

namespace KavachNpu

/-! ### The stream of sextets -/

/-- The sextets that the characters spell, or the error of the first invalid one. -/
def sextets : List Char → Except String (List UInt32)
  | [] => .ok []
  | c :: rest =>
      match sextet c with
      | .error message => .error message
      | .ok none => sextets rest
      | .ok (some val) => (sextets rest).map (val :: ·)

/-- The bits of the sextets. -/
def sextetBits (vals : List UInt32) : List Bool :=
  vals.flatMap fun val => bitsBE 6 val.toNat

/-- A character of an alphabet range, relative to its start. -/
theorem toNat_sub_add {value low base : UInt32} (above : low ≤ value)
    (small : value.toNat < 128) (shift : base.toNat < 128) :
    (value - low + base).toNat = value.toNat - low.toNat + base.toNat := by
  rw [UInt32.toNat_add, UInt32.toNat_sub_of_le _ _ above]
  apply Nat.mod_eq_of_lt
  omega

theorem sextet_lt {c : Char} {val : UInt32} (read : sextet c = .ok (some val)) : val.toNat < 64 := by
  unfold sextet at read
  split at read
  · rename_i upper
    cases read
    have above : (65 : UInt32) ≤ c.val := upper.1
    have below : c.val.toNat ≤ 90 := upper.2
    rw [UInt32.toNat_sub_of_le _ _ above]
    change c.val.toNat - 65 < 64
    omega
  · split at read
    · rename_i lower
      cases read
      have above : (97 : UInt32) ≤ c.val := lower.1
      have below : c.val.toNat ≤ 122 := lower.2
      rw [toNat_sub_add above (by omega) (by decide)]
      change c.val.toNat - 97 + 26 < 64
      omega
    · split at read
      · rename_i digit
        cases read
        have above : (48 : UInt32) ≤ c.val := digit.1
        have below : c.val.toNat ≤ 57 := digit.2
        rw [toNat_sub_add above (by omega) (by decide)]
        change c.val.toNat - 48 + 52 < 64
        omega
      · split at read
        · cases read
          decide
        · split at read
          · cases read
            decide
          · split at read
            · cases read
            · cases read

/-- The bit buffer after one more sextet. -/
theorem bitsBE_push (bits val : UInt32) {n : Nat} (small : val.toNat < 64) (fits : n + 6 ≤ 32) :
    bitsBE (n + 6) ((bits <<< 6) ||| val).toNat = bitsBE n bits.toNat ++ bitsBE 6 val.toNat := by
  have buffer : ((bits <<< 6) ||| val).toNat = (bits.toNat <<< 6 % 2 ^ 32) ||| val.toNat := by
    rw [UInt32.toNat_or, UInt32.toNat_shiftLeft]
    rfl
  rw [buffer, bitsBE_add]
  congr 1
  · apply bitsBE_congr
    intro i lt
    have above : val.toNat.testBit (6 + i) = false := by
      apply Nat.testBit_lt_two_pow
      have wider : 2 ^ 6 ≤ 2 ^ (6 + i) := Nat.pow_le_pow_right (by decide) (Nat.le_add_right 6 i)
      omega
    rw [Nat.testBit_shiftRight, Nat.testBit_or, Nat.testBit_mod_two_pow, Nat.testBit_shiftLeft, above]
    simp [show 6 + i < 32 by omega]
  · apply bitsBE_congr
    intro i lt
    rw [Nat.testBit_or, Nat.testBit_mod_two_pow, Nat.testBit_shiftLeft]
    simp [show ¬ 6 ≤ i by omega]

/-- The byte that the decoder takes from its buffer. -/
theorem popped_byte (bits : UInt32) {k : Nat} (small : k < 32) :
    ((bits >>> UInt32.ofNat k) &&& 0xFF).toUInt8 = UInt8.ofNat (bits.toNat >>> k) := by
  apply UInt8.toNat_inj.mp
  have shift : (UInt32.ofNat k).toNat = k := UInt32.toNat_ofNat_of_lt' (by
    change k < 2 ^ 32
    omega)
  rw [UInt32.toNat_toUInt8, UInt32.toNat_and, UInt32.toNat_shiftRight, shift, Nat.mod_eq_of_lt small,
    UInt8.toNat_ofNat']
  have mask : ∀ x : Nat, (x &&& 255) % 2 ^ 8 = x % 2 ^ 8 := by
    intro x
    have masked : x &&& 255 = x % 2 ^ 8 := Nat.and_two_pow_sub_one_eq_mod x 8
    rw [masked, Nat.mod_mod]
  exact mask _

/-- The decoding loop returns the bytes of its buffer and of the sextets to come. -/
theorem decodeLoop_eq (chars : List Char) : ∀ (bits : UInt32) (n : Nat) (out : List UInt8), n < 8 →
    decodeLoop chars bits n out = (sextets chars).map fun vals =>
      out ++ bytesOfBits (bitsBE n bits.toNat ++ sextetBits vals) := by
  induction chars with
  | nil =>
      intro bits n out pending
      have none : bytesOfBits (bitsBE n bits.toNat) = [] := by
        have short : (bitsBE n bits.toNat).length < 8 := by simpa using pending
        exact bytesOfBits_bytes [] short
      simp [decodeLoop, sextets, sextetBits, Except.map, none]
  | cons c rest ih =>
      intro bits n out pending
      unfold decodeLoop sextets
      cases read : sextet c with
      | error message => rfl
      | ok value =>
          cases value with
          | none => exact ih bits n out pending
          | some val =>
              have fits : n + 6 ≤ 32 := by omega
              have pushed := bitsBE_push bits val (sextet_lt read) fits
              simp only
              split
              · rename_i full
                -- eight bits or more: the first byte of the stream leaves the buffer
                have widths : n + 6 = 8 + (n + 6 - 8) := by omega
                rw [widths, bitsBE_add] at pushed
                rw [ih _ _ _ (by omega), popped_byte _ (by omega)]
                cases sextets rest with
                | error message => rfl
                | ok vals =>
                    simp only [Except.map, sextetBits, List.flatMap_cons]
                    rw [← List.append_assoc (bitsBE n bits.toNat), ← pushed,
                      List.append_assoc (bitsBE 8 _), bytesOfBits_bitsBE, List.append_assoc]
                    rfl
              · rename_i few
                rw [ih _ _ _ (by omega), pushed]
                cases sextets rest with
                | error message => rfl
                | ok vals => simp only [Except.map, sextetBits, List.flatMap_cons, List.append_assoc]

/-- The decoder, as the bytes of a stream. -/
theorem decodeBase64_eq (text : String) :
    decodeBase64 text = (sextets ((trim text.toList).filter (· != '='))).map fun vals =>
      bytesOfBits (sextetBits vals) := by
  unfold decodeBase64
  rw [decodeLoop_eq _ _ _ _ (by decide)]
  rfl

/-! ### The stream of the encoder -/

theorem sextets_append (front back : List Char) :
    sextets (front ++ back) =
      (sextets front).bind fun vals => (sextets back).map fun more => vals ++ more := by
  induction front with
  | nil =>
      rw [List.nil_append]
      cases sextets back with
      | error message => rfl
      | ok more => rfl
  | cons c rest ih =>
      rw [List.cons_append, sextets, sextets]
      cases sextet c with
      | error message => rfl
      | ok value =>
          cases value with
          | none => exact ih
          | some val =>
              simp only
              rw [ih]
              cases sextets rest with
              | error message => rfl
              | ok vals =>
                  cases sextets back with
                  | error message => rfl
                  | ok more => rfl

theorem sextet_b64At : ∀ i < 64, sextet (b64At i) = .ok (some (UInt32.ofNat i)) ∧ b64At i ≠ '=' := by
  decide +kernel

/-- The indices of the encoder cut the 24 bits of three bytes into four sextets. -/
theorem bits_of_triple (b0 : Nat) {b1 b2 : Nat} (h1 : b1 < 2 ^ 8) (h2 : b2 < 2 ^ 8) :
    let triple := (b0 <<< 16) ||| (b1 <<< 8) ||| b2
    bitsBE 6 ((triple >>> 18) &&& 0x3f) ++ (bitsBE 6 ((triple >>> 12) &&& 0x3f) ++
        (bitsBE 6 ((triple >>> 6) &&& 0x3f) ++ bitsBE 6 (triple &&& 0x3f))) =
      bitsBE 8 b0 ++ (bitsBE 8 b1 ++ bitsBE 8 b2) := by
  intro triple
  have value : triple = (b0 * 2 ^ 8 + b1) * 2 ^ 8 + b2 := by
    have low : (b0 <<< 16) ||| (b1 <<< 8) = (b0 <<< 16) + (b1 <<< 8) := by
      rw [Nat.shiftLeft_add_eq_or_of_lt]
      rw [Nat.shiftLeft_eq]
      omega
    have joined : (b0 <<< 16) + (b1 <<< 8) = (b0 * 2 ^ 8 + b1) <<< 8 := by
      simp only [Nat.shiftLeft_eq]
      ring
    simp only [triple]
    rw [low, joined, ← Nat.shiftLeft_add_eq_or_of_lt h2, Nat.shiftLeft_eq]
  have masked : ∀ x, bitsBE 6 (x &&& 0x3f) = bitsBE 6 x := by
    intro x
    rw [show x &&& 0x3f = x % 2 ^ 6 from Nat.and_two_pow_sub_one_eq_mod x 6]
    exact bitsBE_mod (Nat.le_refl 6) x
  have sextetsOf : bitsBE 24 triple = bitsBE 6 (triple >>> 18) ++ (bitsBE 6 (triple >>> 12) ++
      (bitsBE 6 (triple >>> 6) ++ bitsBE 6 triple)) := by
    rw [bitsBE_add 6 18, bitsBE_add 6 12, bitsBE_add 6 6]
  have bytesOf : bitsBE 24 triple = bitsBE 8 b0 ++ (bitsBE 8 b1 ++ bitsBE 8 b2) := by
    have last : bitsBE 24 ((b0 * 2 ^ 8 + b1) * 2 ^ 8 + b2) = bitsBE 16 (b0 * 2 ^ 8 + b1) ++ bitsBE 8 b2 :=
      bitsBE_concat 16 _ h2
    have first : bitsBE 16 (b0 * 2 ^ 8 + b1) = bitsBE 8 b0 ++ bitsBE 8 b1 := bitsBE_concat 8 _ h1
    rw [value, last, first, List.append_assoc]
  simp only [masked]
  rw [← sextetsOf, bytesOf]

/-- The characters of masked indices spell these. -/
theorem sextets_b64At (indices : List Nat) (padding : Nat) :
    sextets (((indices.map fun i => b64At (i &&& 0x3f)) ++ List.replicate padding '=').filter
      (· != '=')) = .ok (indices.map fun i => UInt32.ofNat (i &&& 0x3f)) := by
  induction indices with
  | nil =>
      have none : (List.replicate padding '=').filter (· != '=') = [] := by simp
      rw [List.map_nil, List.nil_append, none]
      rfl
  | cons i rest ih =>
      have small : i &&& 0x3f < 64 := Nat.and_lt_two_pow i (n := 6) (by decide)
      obtain ⟨read, proper⟩ := sextet_b64At _ small
      have kept : (b64At (i &&& 0x3f) != '=') = true := bne_iff_ne.mpr proper
      rw [List.map_cons, List.cons_append, List.filter_cons, if_pos kept, sextets, read]
      simp only [ih]
      rfl

theorem sextetBits_masked (indices : List Nat) :
    sextetBits (indices.map fun i => UInt32.ofNat (i &&& 0x3f)) =
      indices.flatMap fun i => bitsBE 6 (i &&& 0x3f) := by
  unfold sextetBits
  rw [List.flatMap_map]
  congr 1
  funext i
  have small : i &&& 0x3f < 64 := Nat.and_lt_two_pow i (n := 6) (by decide)
  rw [UInt32.toNat_ofNat_of_lt' (Nat.lt_of_lt_of_le small (by decide))]

/-- What the characters of a chunk spell: its bits, and fewer than eight more behind an incomplete
    chunk. -/
theorem sextets_encodeChunk {chunk : List UInt8} (nonempty : chunk ≠ []) (short : chunk.length ≤ 3) :
    ∃ vals, sextets ((encodeChunk chunk).filter (· != '=')) = .ok vals ∧
      ∃ padding, sextetBits vals = chunk.flatMap (fun byte => bitsBE 8 byte.toNat) ++ padding ∧
        padding.length < 8 ∧ (chunk.length = 3 → padding = []) := by
  match chunk, nonempty, short with
  | [b0], _, _ =>
      have bits := congrArg (List.take 12) (bits_of_triple b0.toNat (Nat.two_pow_pos 8) (Nat.two_pow_pos 8))
      refine ⟨_, sextets_b64At [_, _] 2, (bitsBE 8 0).take 4, ?_, by simp, by simp⟩
      rw [sextetBits_masked]
      simpa [List.take_append] using bits
  | [b0, b1], _, _ =>
      have bits := congrArg (List.take 18) (bits_of_triple b0.toNat b1.toNat_lt (Nat.two_pow_pos 8))
      refine ⟨_, sextets_b64At [_, _, _] 1, (bitsBE 8 0).take 2, ?_, by simp, by simp⟩
      rw [sextetBits_masked]
      simpa [List.take_append] using bits
  | [b0, b1, b2], _, _ =>
      have bits := bits_of_triple b0.toNat b1.toNat_lt b2.toNat_lt
      refine ⟨_, sextets_b64At [_, _, _, _] 0, [], ?_, by simp, by simp⟩
      rw [sextetBits_masked]
      simpa using bits

/-- The encoded text spells the bits of the bytes, and fewer than eight more. -/
theorem sextets_encodeBase64 (bytes : List UInt8) :
    ∃ vals, sextets ((encodeBase64 bytes).toList.filter (· != '=')) = .ok vals ∧
      ∃ padding, sextetBits vals = bytes.flatMap (fun byte => bitsBE 8 byte.toNat) ++ padding ∧
        padding.length < 8 := by
  unfold encodeBase64
  rw [String.toList_ofList]
  fun_induction chunks 3 bytes with
  | case1 => exact ⟨[], rfl, [], rfl, by decide⟩
  | case2 item rest ih =>
      obtain ⟨later, spelled, behind, laterBits, short⟩ := ih
      have size : (item :: rest.take (3 - 1)).length ≤ 3 := by
        rw [List.length_cons, List.length_take]
        omega
      obtain ⟨vals, first, padding, bits, few, full⟩ := sextets_encodeChunk (by simp) size
      refine ⟨vals ++ later, ?_, ?_⟩
      · rw [List.flatMap_cons, List.filter_append, sextets_append, first, spelled]
        rfl
      · have joined : sextetBits (vals ++ later) = sextetBits vals ++ sextetBits later :=
          List.flatMap_append ..
        have whole : item :: rest = (item :: rest.take (3 - 1)) ++ rest.drop (3 - 1) := by
          rw [List.cons_append, List.take_append_drop]
        by_cases more : 2 ≤ rest.length
        · -- a complete chunk: its sextets end where its bytes do
          have complete : (item :: rest.take (3 - 1)).length = 3 := by
            rw [List.length_cons, List.length_take]
            omega
          rw [full complete, List.append_nil] at bits
          refine ⟨behind, ?_, short⟩
          rw [joined, bits, laterBits, whole, List.flatMap_append, List.append_assoc]
        · -- the last chunk: nothing is spelled behind it
          have empty : rest.drop (3 - 1) = [] := List.drop_of_length_le (by omega)
          rw [empty] at spelled
          have none : later = [] := (Except.ok.inj (spelled.symm.trans (by rw [chunks]; rfl)))
          refine ⟨padding, ?_, few⟩
          rw [joined, bits, none, whole, empty, List.append_nil]
          simp [sextetBits]

/-! ### Transport -/

/-- The second text is the first after a transport that may break lines, drop padding and use the
    URL-safe alphabet, at any places. -/
inductive Transported : List Char → List Char → Prop where
  | nil : Transported [] []
  | keep (c : Char) {text sent : List Char} : Transported text sent → Transported (c :: text) (c :: sent)
  | unpad {text sent : List Char} : Transported text sent → Transported ('=' :: text) sent
  | lineBreak {c : Char} {text sent : List Char} : c = '\r' ∨ c = '\n' ∨ c = ' ' →
      Transported text sent → Transported text (c :: sent)
  | dash {text sent : List Char} : Transported text sent → Transported ('+' :: text) ('-' :: sent)
  | underscore {text sent : List Char} : Transported text sent →
      Transported ('/' :: text) ('_' :: sent)

/-- The text is transported, and surrounded by white space. -/
def Rewritten (text sent : String) : Prop :=
  ∃ lead core trail, sent.toList = lead ++ core ++ trail ∧ Transported text.toList core ∧
    (∀ c ∈ lead, isUnicodeWhitespace c = true) ∧ ∀ c ∈ trail, isUnicodeWhitespace c = true

theorem Transported.refl (text : List Char) : Transported text text := by
  induction text with
  | nil => exact .nil
  | cons c rest ih => exact .keep c ih

theorem Rewritten.refl (text : String) : Rewritten text text :=
  ⟨[], text.toList, [], by simp, Transported.refl _, by simp, by simp⟩

/-- A transport leaves the sextets as they are. -/
theorem sextets_of_transported {text sent : List Char} (transported : Transported text sent) :
    sextets (sent.filter (· != '=')) = sextets (text.filter (· != '=')) := by
  induction transported with
  | nil => rfl
  | keep c _ ih =>
      by_cases padding : c = '='
      · simpa [padding] using ih
      · simp only [List.filter_cons, bne_iff_ne, ne_eq, padding, not_false_eq_true, if_true]
        rw [sextets, sextets, ih]
  | unpad _ ih => simpa using ih
  | lineBreak blank _ ih =>
      rcases blank with rfl | rfl | rfl
      · exact ih
      · exact ih
      · exact ih
  | dash _ ih =>
      change (sextets _).map _ = (sextets _).map _
      rw [ih]
  | underscore _ ih =>
      change (sextets _).map _ = (sextets _).map _
      rw [ih]

/-- The characters of the alphabets are between `+` and `z`. -/
theorem sextet_range {c : Char} {val : UInt32} (read : sextet c = .ok (some val)) :
    43 ≤ c.val.toNat ∧ c.val.toNat ≤ 122 := by
  unfold sextet at read
  split at read
  · rename_i upper
    have above : 65 ≤ c.val.toNat := upper.1
    have below : c.val.toNat ≤ 90 := upper.2
    omega
  · split at read
    · rename_i lower
      have above : 97 ≤ c.val.toNat := lower.1
      have below : c.val.toNat ≤ 122 := lower.2
      omega
    · split at read
      · rename_i digit
        have above : 48 ≤ c.val.toNat := digit.1
        have below : c.val.toNat ≤ 57 := digit.2
        omega
      · split at read
        · rename_i mark
          rcases mark with rfl | rfl <;> decide
        · split at read
          · rename_i mark
            rcases mark with rfl | rfl <;> decide
          · split at read
            · cases read
            · cases read

theorem whitespace_range {c : Char} (white : isUnicodeWhitespace c = true) :
    c.toNat ≤ 32 ∨ 133 ≤ c.toNat := by
  unfold isUnicodeWhitespace at white
  simp only [Bool.or_eq_true, Bool.and_eq_true, decide_eq_true_eq, beq_iff_eq, UInt32.le_iff_toNat_le,
    ← UInt32.toNat_inj] at white
  simp at white
  omega

/-- White space between sextets is skipped, unless it is an error. -/
theorem sextet_of_whitespace {c : Char} (white : isUnicodeWhitespace c = true) {value : Option UInt32}
    (read : sextet c = .ok value) : value = none := by
  cases value with
  | none => rfl
  | some val =>
      have outside : c.val.toNat ≤ 32 ∨ 133 ≤ c.val.toNat := whitespace_range white
      have inside := sextet_range read
      omega

theorem whitespace_ne_padding {c : Char} (white : isUnicodeWhitespace c = true) : (c != '=') = true := by
  rw [bne_iff_ne]
  rintro rfl
  exact absurd white (by decide)

/-- One white-space character more or less, at either end of a text without errors. -/
theorem sextets_skip {c : Char} (white : isUnicodeWhitespace c = true) {text : List Char}
    {vals : List UInt32} (spelled : sextets (c :: text) = .ok vals) : sextets text = .ok vals := by
  rw [sextets] at spelled
  cases read : sextet c with
  | error message =>
      rw [read] at spelled
      cases spelled
  | ok value =>
      obtain rfl := sextet_of_whitespace white read
      rw [read] at spelled
      exact spelled

theorem sextets_dropWhile {text : List Char} {vals : List UInt32}
    (spelled : sextets (text.filter (· != '=')) = .ok vals) :
    sextets ((text.dropWhile isUnicodeWhitespace).filter (· != '=')) = .ok vals := by
  induction text with
  | nil => exact spelled
  | cons c rest ih =>
      by_cases white : isUnicodeWhitespace c = true
      · rw [List.dropWhile_cons, if_pos white]
        rw [List.filter_cons, if_pos (whitespace_ne_padding white)] at spelled
        exact ih (sextets_skip white spelled)
      · rw [List.dropWhile_cons, if_neg white]
        exact spelled

theorem sextets_rdropWhile {text : List Char} {vals : List UInt32}
    (spelled : sextets (text.filter (· != '=')) = .ok vals) :
    sextets ((text.rdropWhile isUnicodeWhitespace).filter (· != '=')) = .ok vals := by
  induction text using List.reverseRecOn with
  | nil => exact spelled
  | append_singleton rest c ih =>
      by_cases white : isUnicodeWhitespace c = true
      · rw [List.rdropWhile_concat_pos _ _ _ white]
        apply ih
        have kept : [c].filter (· != '=') = [c] := by simp [whitespace_ne_padding white]
        rw [List.filter_append, kept, sextets_append] at spelled
        cases front : sextets (rest.filter (· != '=')) with
        | error message =>
            rw [front] at spelled
            cases spelled
        | ok before =>
            rw [front] at spelled
            cases last : sextets [c] with
            | error message =>
                rw [last] at spelled
                cases spelled
            | ok more =>
                have none := sextets_skip white last
                rw [last] at spelled
                cases none
                cases spelled
                exact congrArg Except.ok (List.append_nil before).symm
      · rw [List.rdropWhile_concat_neg _ _ _ white]
        exact spelled

theorem rdropWhile_append_of_all {p : Char → Bool} (text : List Char) {trail : List Char}
    (all : ∀ c ∈ trail, p c = true) : (text ++ trail).rdropWhile p = text.rdropWhile p := by
  induction trail using List.reverseRecOn with
  | nil => rw [List.append_nil]
  | append_singleton rest c ih =>
      rw [← List.append_assoc, List.rdropWhile_concat_pos _ _ _ (all c (by simp))]
      exact ih fun other member => all other (by simp [member])

/-- Surrounding white space is trimmed without changing the sextets. -/
theorem sextets_trim {lead core trail : List Char} {vals : List UInt32}
    (spelled : sextets (core.filter (· != '=')) = .ok vals)
    (white : ∀ c ∈ lead, isUnicodeWhitespace c = true)
    (white' : ∀ c ∈ trail, isUnicodeWhitespace c = true) :
    sextets ((trim (lead ++ core ++ trail)).filter (· != '=')) = .ok vals := by
  have inner := sextets_dropWhile spelled
  unfold trim
  rw [List.append_assoc, List.dropWhile_append_of_pos white, List.dropWhile_append]
  by_cases blank : (core.dropWhile isUnicodeWhitespace).isEmpty = true
  · rw [List.isEmpty_iff.mp blank] at inner
    rw [if_pos blank, List.dropWhile_eq_nil_iff.mpr white']
    exact inner
  · rw [if_neg blank, rdropWhile_append_of_all _ white']
    exact sextets_rdropWhile inner

/-! ### The round trip -/

/-- What was encoded is decoded, also after transport. -/
theorem decodeBase64_of_rewritten {bytes : List UInt8} {sent : String}
    (rewritten : Rewritten (encodeBase64 bytes) sent) : decodeBase64 sent = .ok bytes := by
  obtain ⟨lead, core, trail, layout, transported, white, white'⟩ := rewritten
  obtain ⟨vals, spelled, padding, bits, short⟩ := sextets_encodeBase64 bytes
  have received : sextets (core.filter (· != '=')) = .ok vals :=
    (sextets_of_transported transported).trans spelled
  rw [decodeBase64_eq, layout, sextets_trim received white white']
  simp only [Except.map, bits, bytesOfBits_bytes bytes short]

end KavachNpu

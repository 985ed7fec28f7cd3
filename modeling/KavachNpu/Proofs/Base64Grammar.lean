/-
Module: KavachNpu.Proofs.Base64Grammar
Layer: Proofs
Purpose: The language of the base64 codec. The decoder accepts its character set and no other character,
  and returns the complete bytes of the stream of six-bit values; the encoder writes whole groups of four
  characters of the standard alphabet, with padding at the end only.
Trusted boundary: none
Main exports: sixBitValue, InCharacterSet, KeepsWhiteSpace, decodeBase64_exact, encodeBase64_roundTrip
-/
import KavachNpu.Proofs.Base64Codec

namespace KavachNpu

/-! ### Characters -/

/-- The URL-safe characters, replaced by those they stand for. -/
def standardChar (c : Char) : Char :=
  if c = '-' then '+' else if c = '_' then '/' else c

theorem standardChar_cases (c : Char) :
    (c = '-' ∧ standardChar c = '+') ∨ (c = '_' ∧ standardChar c = '/') ∨ standardChar c = c := by
  unfold standardChar
  split
  · exact .inl ⟨‹_›, rfl⟩
  · split
    · exact .inr (.inl ⟨‹_›, rfl⟩)
    · exact .inr (.inr rfl)

/-- The six-bit value of a character: the position in the standard alphabet. -/
def sixBitValue (c : Char) : Option Nat :=
  b64.findIdx? (· == standardChar c)

/-- The characters between sextets. -/
def isBlank (c : Char) : Bool :=
  c == '\r' || c == '\n' || c == ' '

/-- The characters the decoder accepts in the trimmed text, once the padding is gone. -/
def InCharacterSet (c : Char) : Prop :=
  ('A' ≤ c ∧ c ≤ 'Z') ∨ ('a' ≤ c ∧ c ≤ 'z') ∨ ('0' ≤ c ∧ c ≤ '9') ∨
    c = '+' ∨ c = '-' ∨ c = '/' ∨ c = '_' ∨ c = '\r' ∨ c = '\n' ∨ c = ' '

instance (c : Char) : Decidable (InCharacterSet c) :=
  inferInstanceAs (Decidable (_ ∨ _ ∨ _ ∨ _ ∨ _ ∨ _ ∨ _ ∨ _ ∨ _ ∨ _))

/-- The decoder's reading of a character, through its value. -/
def readChar (c : Char) : Except String (Option UInt32) :=
  match sixBitValue c with
  | some value => .ok (some (UInt32.ofNat value))
  | none =>
      if isBlank c then .ok none
      else .error ("invalid base64 character '" ++ String.singleton c ++ "'")

theorem ascii_sextet : ∀ n < 128, sextet (Char.ofNat n) = readChar (Char.ofNat n) ∧
    (InCharacterSet (Char.ofNat n) ↔ (sixBitValue (Char.ofNat n)).isSome ∨ isBlank (Char.ofNat n)) := by
  decide +kernel

theorem b64_ascii : b64.all (fun c => decide (c.toNat < 128)) = true := by
  decide +kernel

/-- Beyond ASCII there are no characters of the alphabets. -/
theorem sextet_of_wide {c : Char} (wide : 128 ≤ c.toNat) : sextet c = readChar c ∧
    (InCharacterSet c ↔ (sixBitValue c).isSome ∨ isBlank c) := by
  have range : ∀ d : Char, d.toNat < 128 → c ≠ d := by
    rintro d small rfl
    omega
  have above : ∀ d : Char, d.toNat < 128 → ¬ c ≤ d := by
    intro d small le
    have : c.toNat ≤ d.toNat := le
    omega
  have dash := range '-' (by decide)
  have underscore := range '_' (by decide)
  have value : sixBitValue c = none := by
    unfold sixBitValue standardChar
    rw [if_neg dash, if_neg underscore, List.findIdx?_eq_none_iff]
    intro d member
    have small := of_decide_eq_true (List.all_eq_true.mp b64_ascii d member)
    simpa using (range d small).symm
  unfold readChar sextet InCharacterSet
  rw [value]
  simp [above, range, isBlank]

theorem sextet_spec (c : Char) : sextet c = readChar c ∧
    (InCharacterSet c ↔ (sixBitValue c).isSome ∨ isBlank c) := by
  by_cases wide : 128 ≤ c.toNat
  · exact sextet_of_wide wide
  · have ascii := ascii_sextet c.toNat (by omega)
    rwa [Char.ofNat_toNat] at ascii

/-- A character outside the set ends the decoding, whatever follows it. -/
theorem sextet_error_iff (c : Char) : (∃ message, sextet c = .error message) ↔ ¬ InCharacterSet c := by
  obtain ⟨read, allowed⟩ := sextet_spec c
  rw [read, allowed]
  unfold readChar
  cases sixBitValue c with
  | some value => simp
  | none =>
      cases isBlank c with
      | true => simp
      | false => simp

/-! ### The stream -/

theorem sextets_of_allowed {text : List Char} (allowed : ∀ c ∈ text, InCharacterSet c) :
    sextets text = .ok ((text.filterMap sixBitValue).map UInt32.ofNat) := by
  induction text with
  | nil => rfl
  | cons c rest ih =>
      have later := ih fun other member => allowed other (List.mem_cons_of_mem c member)
      obtain ⟨read, inside⟩ := sextet_spec c
      have known := inside.mp (allowed c List.mem_cons_self)
      rw [sextets, read, later]
      unfold readChar
      cases value : sixBitValue c with
      | some six =>
          rw [List.filterMap_cons_some value, List.map_cons]
          rfl
      | none =>
          rw [List.filterMap_cons_none value]
          have blank : isBlank c = true := by simpa [value] using known
          simp only [blank, if_true]

theorem sextets_of_foreign {text : List Char} (foreign : ∃ c ∈ text, ¬ InCharacterSet c) :
    ∃ message, sextets text = .error message := by
  induction text with
  | nil => simp at foreign
  | cons c rest ih =>
      by_cases inside : InCharacterSet c
      · have later : ∃ other ∈ rest, ¬ InCharacterSet other := by
          obtain ⟨other, member, outside⟩ := foreign
          rcases List.mem_cons.mp member with rfl | member
          · exact absurd inside outside
          · exact ⟨other, member, outside⟩
        obtain ⟨message, failed⟩ := ih later
        cases read : sextet c with
        | error text => exact absurd inside ((sextet_error_iff c).mp ⟨text, read⟩)
        | ok value =>
            refine ⟨message, ?_⟩
            rw [sextets, read, failed]
            cases value with
            | none => rfl
            | some val => rfl
      · obtain ⟨message, read⟩ := (sextet_error_iff c).mpr inside
        refine ⟨message, ?_⟩
        rw [sextets, read]

/-- The bits of six-bit values, as the decoder's 32-bit sextets write them. -/
theorem sextetBits_ofNat (values : List Nat) :
    sextetBits (values.map UInt32.ofNat) = values.flatMap (bitsBE 6) := by
  unfold sextetBits
  rw [List.flatMap_map]
  congr 1
  funext value
  rw [UInt32.toNat_ofNat']
  exact bitsBE_mod (by decide) value

/-- The complete bytes of a stream of six-bit groups, by position. -/
def streamBytes (values : List Nat) : List UInt8 :=
  let stream := values.flatMap (bitsBE 6)
  (List.range (6 * values.length / 8)).map fun i => UInt8.ofNat (ofBits ((stream.drop (8 * i)).take 8))

theorem length_sixBitStream (values : List Nat) : (values.flatMap (bitsBE 6)).length = 6 * values.length := by
  induction values with
  | nil => rfl
  | cons value rest ih =>
      rw [List.flatMap_cons, List.length_append, length_bitsBE, ih, List.length_cons]
      ring

theorem bytesOfBits_sextets (values : List Nat) :
    bytesOfBits (values.flatMap (bitsBE 6)) = streamBytes values := by
  rw [bytesOfBits_eq_range, length_sixBitStream]
  rfl

theorem decodeBase64_of_allowed {s : String}
    (allowed : ∀ c ∈ (trim s.toList).filter (· != '='), InCharacterSet c) :
    decodeBase64 s =
      .ok (streamBytes (((trim s.toList).filter (· != '=')).filterMap sixBitValue)) := by
  rw [decodeBase64_eq, sextets_of_allowed allowed]
  simp only [Except.map, sextetBits_ofNat, bytesOfBits_sextets]

theorem decodeBase64_of_foreign {s : String}
    (foreign : ∃ c ∈ (trim s.toList).filter (· != '='), ¬ InCharacterSet c) :
    ∃ message, decodeBase64 s = .error message := by
  obtain ⟨message, failed⟩ := sextets_of_foreign foreign
  refine ⟨message, ?_⟩
  rw [decodeBase64_eq, failed]
  rfl

/-! ### Layout -/

/-- The text without its blanks, in the standard alphabet. -/
def plainText (text : List Char) : List Char :=
  (text.filter fun c => ! isBlank c).map standardChar

theorem sextet_standardChar (c : Char) : sextet (standardChar c) = sextet c := by
  obtain ⟨rfl, same⟩ | ⟨rfl, same⟩ | same := standardChar_cases c
  · rfl
  · rfl
  · rw [same]

theorem sextets_plainText (text : List Char) : sextets (plainText text) = sextets text := by
  unfold plainText
  induction text with
  | nil => rfl
  | cons c rest ih =>
      rw [List.filter_cons, sextets]
      by_cases blank : isBlank c = true
      · have skipped : sextet c = .ok none := by
          simp only [isBlank, Bool.or_eq_true, beq_iff_eq] at blank
          rcases blank with (rfl | rfl) | rfl <;> rfl
        rw [skipped]
        simpa [blank] using ih
      · have kept : (! isBlank c) = true := by simpa using blank
        rw [if_pos kept, List.map_cons, sextets, sextet_standardChar, ih]

/-- The decoder sees the trimmed text without padding and blanks, in the standard alphabet. -/
theorem decodeBase64_congr {text other : String}
    (same : plainText ((trim text.toList).filter (· != '=')) =
      plainText ((trim other.toList).filter (· != '='))) : decodeBase64 text = decodeBase64 other := by
  rw [decodeBase64_eq, decodeBase64_eq, ← sextets_plainText, same, sextets_plainText]

theorem whitespace_of_blank {c : Char} (blank : isBlank c = true) : isUnicodeWhitespace c = true := by
  simp only [isBlank, Bool.or_eq_true, beq_iff_eq] at blank
  rcases blank with (rfl | rfl) | rfl <;> decide

theorem trim_append_left {lead : List Char} (white : ∀ c ∈ lead, isUnicodeWhitespace c = true)
    (text : List Char) : trim (lead ++ text) = trim text := by
  unfold trim
  rw [List.dropWhile_append_of_pos white]

theorem dropWhile_append_of_exists {p : Char → Bool} {front : List Char}
    (stop : ∃ c ∈ front, ¬ p c = true) (text : List Char) :
    (front ++ text).dropWhile p = front.dropWhile p ++ text := by
  have nonempty : ¬ (front.dropWhile p).isEmpty = true := by
    rw [List.isEmpty_iff, List.dropWhile_eq_nil_iff]
    obtain ⟨c, member, stops⟩ := stop
    exact fun all => stops (all c member)
  rw [List.dropWhile_append, if_neg nonempty]

theorem rdropWhile_append_of_exists {p : Char → Bool} {back : List Char}
    (stop : ∃ c ∈ back, ¬ p c = true) (text : List Char) :
    (text ++ back).rdropWhile p = text ++ back.rdropWhile p := by
  have reversed : ∃ c ∈ back.reverse, ¬ p c = true := by simpa using stop
  unfold List.rdropWhile
  rw [List.reverse_append, dropWhile_append_of_exists reversed, List.reverse_append, List.reverse_reverse]

/-- Between characters that are not white space, nothing is trimmed. -/
theorem trim_between {front back : List Char} (opened : ∃ c ∈ front, ¬ isUnicodeWhitespace c = true)
    (closed : ∃ c ∈ back, ¬ isUnicodeWhitespace c = true) (middle : List Char) :
    trim (front ++ middle ++ back) =
      front.dropWhile isUnicodeWhitespace ++ middle ++ back.rdropWhile isUnicodeWhitespace := by
  unfold trim
  rw [List.append_assoc, dropWhile_append_of_exists opened, ← List.append_assoc,
    rdropWhile_append_of_exists closed]

theorem trim_append_right {trail : List Char} (white : ∀ c ∈ trail, isUnicodeWhitespace c = true)
    (text : List Char) : trim (text ++ trail) = trim text := by
  by_cases all : ∀ c ∈ text, isUnicodeWhitespace c = true
  · rw [trim_append_left all]
    unfold trim
    rw [List.dropWhile_eq_nil_iff.mpr white, List.dropWhile_eq_nil_iff.mpr all]
  · unfold trim
    rw [dropWhile_append_of_exists (by simpa using all), rdropWhile_append_of_all _ white]

/-- A blank more or less, at any place. -/
theorem decodeBase64_insert_blank (before after : List Char) {c : Char} (blank : isBlank c = true) :
    decodeBase64 (String.ofList (before ++ c :: after)) =
      decodeBase64 (String.ofList (before ++ after)) := by
  apply decodeBase64_congr
  rw [String.toList_ofList, String.toList_ofList, ← List.singleton_append, ← List.append_assoc]
  have single : ∀ d ∈ [c], isUnicodeWhitespace d = true := by
    simpa using whitespace_of_blank blank
  by_cases left : ∀ d ∈ before, isUnicodeWhitespace d = true
  · rw [List.append_assoc, trim_append_left left, trim_append_left single, trim_append_left left]
  · by_cases right : ∀ d ∈ after, isUnicodeWhitespace d = true
    · rw [trim_append_right right, trim_append_right single, trim_append_right right]
    · have opened : ∃ d ∈ before, ¬ isUnicodeWhitespace d = true := by simpa using left
      have closed : ∃ d ∈ after, ¬ isUnicodeWhitespace d = true := by simpa using right
      have without := trim_between opened closed []
      rw [List.append_nil] at without
      rw [trim_between opened closed, without]
      simp [plainText, blank]

/-- White space at an end of the text that only a padding character keeps from being trimmed, and that the
    decoder then does not skip: it stands between the padding and the text, and nothing but white space is
    on the other side. -/
def KeepsWhiteSpace (before after : List Char) : Prop :=
  ((∃ c ∈ before.rtakeWhile isUnicodeWhitespace, ¬ isBlank c = true) ∧
      (∃ c ∈ before, ¬ isUnicodeWhitespace c = true) ∧ ∀ c ∈ after, isUnicodeWhitespace c = true) ∨
    ((∃ c ∈ after.takeWhile isUnicodeWhitespace, ¬ isBlank c = true) ∧
      (∃ c ∈ after, ¬ isUnicodeWhitespace c = true) ∧ ∀ c ∈ before, isUnicodeWhitespace c = true)

theorem plainText_append (front back : List Char) :
    plainText ((front ++ back).filter (· != '=')) =
      plainText (front.filter (· != '=')) ++ plainText (back.filter (· != '=')) := by
  unfold plainText
  rw [List.filter_append, List.filter_append, List.map_append]

theorem plainText_of_blank {run : List Char} (blank : ∀ c ∈ run, isBlank c = true) :
    plainText (run.filter (· != '=')) = [] := by
  unfold plainText
  rw [List.map_eq_nil_iff, List.filter_eq_nil_iff]
  intro c member
  simp [blank c (List.mem_of_mem_filter member)]

/-- What is left when the front is dropped still has a character that is not white space. -/
theorem exists_mem_dropWhile {p : Char → Bool} {text : List Char} (stop : ∃ c ∈ text, ¬ p c = true) :
    ∃ c ∈ text.dropWhile p, ¬ p c = true := by
  obtain ⟨c, member, stops⟩ := stop
  rw [← List.takeWhile_append_dropWhile (p := p) (l := text)] at member
  rcases List.mem_append.mp member with early | late
  · exact absurd (List.mem_takeWhile_imp early) stops
  · exact ⟨c, late, stops⟩

theorem rtakeWhile_append_of_exists {p : Char → Bool} {back : List Char}
    (stop : ∃ c ∈ back, ¬ p c = true) (text : List Char) :
    (text ++ back).rtakeWhile p = back.rtakeWhile p := by
  have short : ¬ (back.reverse.takeWhile p).length = back.reverse.length := by
    intro whole
    have all := (List.takeWhile_prefix p).eq_of_length whole
    obtain ⟨c, member, stops⟩ := stop
    rw [← List.mem_reverse, ← all] at member
    exact stops (List.mem_takeWhile_imp member)
  unfold List.rtakeWhile
  rw [List.reverse_append, List.takeWhile_append, if_neg short]

/-- A padding character behind the text: what it keeps is skipped. -/
theorem plainText_trim_concat {before : List Char} (opened : ∃ c ∈ before, ¬ isUnicodeWhitespace c = true)
    (skipped : ∀ c ∈ before.rtakeWhile isUnicodeWhitespace, isBlank c = true) :
    plainText ((trim (before ++ ['='])).filter (· != '=')) =
      plainText ((trim before).filter (· != '=')) := by
  have closing : ¬ isUnicodeWhitespace '=' = true := by decide
  have inner := exists_mem_dropWhile opened
  have kept : trim (before ++ ['=']) = before.dropWhile isUnicodeWhitespace ++ ['='] := by
    unfold trim
    rw [dropWhile_append_of_exists opened, List.rdropWhile_concat_neg _ _ _ closing]
  have cut : before.dropWhile isUnicodeWhitespace =
      trim before ++ before.rtakeWhile isUnicodeWhitespace := by
    have run := rtakeWhile_append_of_exists inner (before.takeWhile isUnicodeWhitespace)
    rw [List.takeWhile_append_dropWhile] at run
    unfold trim
    rw [run, List.rdropWhile_append_rtakeWhile]
  rw [kept, cut, plainText_append, plainText_append, plainText_of_blank skipped]
  simp [plainText]

/-- A padding character before the text. -/
theorem plainText_trim_cons {after : List Char} (closed : ∃ c ∈ after, ¬ isUnicodeWhitespace c = true)
    (skipped : ∀ c ∈ after.takeWhile isUnicodeWhitespace, isBlank c = true) :
    plainText ((trim ('=' :: after)).filter (· != '=')) =
      plainText ((trim after).filter (· != '=')) := by
  have inner := exists_mem_dropWhile closed
  have kept : trim ('=' :: after) = ['='] ++ after.rdropWhile isUnicodeWhitespace := by
    unfold trim
    rw [List.dropWhile_cons_of_neg (by decide), ← List.singleton_append, rdropWhile_append_of_exists closed]
  have cut : after.rdropWhile isUnicodeWhitespace =
      after.takeWhile isUnicodeWhitespace ++ trim after := by
    unfold trim
    rw [← rdropWhile_append_of_exists inner, List.takeWhile_append_dropWhile]
  rw [kept, cut, plainText_append, plainText_append, plainText_of_blank skipped]
  simp [plainText]

/-- A padding character more or less, unless it keeps white space from being trimmed. -/
theorem decodeBase64_insert_padding (before after : List Char) (harmless : ¬ KeepsWhiteSpace before after) :
    decodeBase64 (String.ofList (before ++ '=' :: after)) =
      decodeBase64 (String.ofList (before ++ after)) := by
  apply decodeBase64_congr
  rw [String.toList_ofList, String.toList_ofList, ← List.singleton_append, ← List.append_assoc]
  by_cases right : ∀ c ∈ after, isUnicodeWhitespace c = true
  · rw [trim_append_right right, trim_append_right right]
    by_cases left : ∀ c ∈ before, isUnicodeWhitespace c = true
    · have nothing : trim before = [] := by
        unfold trim
        rw [List.dropWhile_eq_nil_iff.mpr left]
        rfl
      rw [trim_append_left left, nothing]
      decide
    · have opened : ∃ c ∈ before, ¬ isUnicodeWhitespace c = true := by simpa using left
      apply plainText_trim_concat opened
      by_contra kept
      push Not at kept
      exact harmless (.inl ⟨kept, opened, right⟩)
  · have closed : ∃ c ∈ after, ¬ isUnicodeWhitespace c = true := by simpa using right
    by_cases left : ∀ c ∈ before, isUnicodeWhitespace c = true
    · rw [List.append_assoc, trim_append_left left, trim_append_left left]
      apply plainText_trim_cons closed
      by_contra kept
      push Not at kept
      exact harmless (.inr ⟨kept, closed, left⟩)
    · have opened : ∃ c ∈ before, ¬ isUnicodeWhitespace c = true := by simpa using left
      have without := trim_between opened closed []
      rw [List.append_nil] at without
      rw [trim_between opened closed, without]
      simp

theorem whitespace_standardChar (c : Char) :
    isUnicodeWhitespace (standardChar c) = isUnicodeWhitespace c := by
  obtain ⟨rfl, same⟩ | ⟨rfl, same⟩ | same := standardChar_cases c
  · rfl
  · rfl
  · rw [same]

theorem trim_map_standardChar (text : List Char) :
    trim (text.map standardChar) = (trim text).map standardChar := by
  have commutes : isUnicodeWhitespace ∘ standardChar = isUnicodeWhitespace :=
    funext whitespace_standardChar
  unfold trim List.rdropWhile
  rw [List.dropWhile_map, commutes, ← List.map_reverse, List.dropWhile_map, commutes, List.map_reverse]

theorem decodeBase64_map_standardChar (text : List Char) :
    decodeBase64 (String.ofList (text.map standardChar)) = decodeBase64 (String.ofList text) := by
  apply decodeBase64_congr
  rw [String.toList_ofList, String.toList_ofList, trim_map_standardChar]
  unfold plainText
  have unchanged : ∀ c, isBlank (standardChar c) = isBlank c ∧
      (standardChar c != '=') = (c != '=') ∧ standardChar (standardChar c) = standardChar c := by
    intro c
    obtain ⟨rfl, same⟩ | ⟨rfl, same⟩ | same := standardChar_cases c
    · decide
    · decide
    · simp only [same, and_self]
  rw [List.filter_map, List.filter_map, List.map_map]
  simp only [Function.comp_def, unchanged]

/-! ### Main results -/

/-- The decoder rejects exactly the characters outside its set, and otherwise returns the complete bytes
    of the six-bit groups. Blanks and the choice of alphabet do not change what it returns, and padding does
    not unless it keeps white space from being trimmed. -/
theorem decodeBase64_exact (s : String) :
    ((∃ message, decodeBase64 s = .error message) ↔
      ∃ c ∈ (trim s.toList).filter (· != '='), ¬ InCharacterSet c) ∧
    (∀ bytes, decodeBase64 s = .ok bytes ↔
      (∀ c ∈ (trim s.toList).filter (· != '='), InCharacterSet c) ∧
        bytes = streamBytes (((trim s.toList).filter (· != '=')).filterMap sixBitValue)) ∧
    (∀ before c after, s.toList = before ++ c :: after → isBlank c = true →
      decodeBase64 (String.ofList (before ++ after)) = decodeBase64 s) ∧
    (∀ before after, s.toList = before ++ '=' :: after → ¬ KeepsWhiteSpace before after →
      decodeBase64 (String.ofList (before ++ after)) = decodeBase64 s) ∧
    (∀ other : String, other.toList.map standardChar = s.toList.map standardChar →
      decodeBase64 other = decodeBase64 s) := by
  refine ⟨⟨?_, decodeBase64_of_foreign⟩, ?_, ?_, ?_, ?_⟩
  · rintro ⟨message, failed⟩
    by_contra none
    push Not at none
    rw [decodeBase64_of_allowed none] at failed
    cases failed
  · intro bytes
    by_cases allowed : ∀ c ∈ (trim s.toList).filter (· != '='), InCharacterSet c
    · rw [decodeBase64_of_allowed allowed]
      constructor
      · intro same
        exact ⟨allowed, (Except.ok.inj same).symm⟩
      · rintro ⟨-, same⟩
        rw [same]
    · have foreign := allowed
      push Not at foreign
      obtain ⟨message, failed⟩ := decodeBase64_of_foreign foreign
      constructor
      · intro decoded
        rw [failed] at decoded
        cases decoded
      · rintro ⟨all, -⟩
        exact absurd all allowed
  · intro before c after layout blank
    rw [← decodeBase64_insert_blank before after blank, ← layout, String.ofList_toList]
  · intro before after layout harmless
    rw [← decodeBase64_insert_padding before after harmless, ← layout, String.ofList_toList]
  · intro other same
    rw [← String.ofList_toList (s := other), ← decodeBase64_map_standardChar, same,
      decodeBase64_map_standardChar, String.ofList_toList]

/-- Padding behind a tab: the tab is no longer at the end of the text, and is not skipped. -/
theorem padding_behind_tab_rejected :
    decodeBase64 "QQ\t=" = .error "invalid base64 character '\t'" ∧ decodeBase64 "QQ\t" = .ok [0x41] := by
  decide

/-- A chunk gives four characters: one more than it has bytes from the alphabet, then padding. -/
theorem encodeChunk_layout {chunk : List UInt8} (nonempty : chunk ≠ []) (short : chunk.length ≤ 3) :
    ∃ body, encodeChunk chunk = body ++ List.replicate (3 - chunk.length) '=' ∧
      (∀ c ∈ body, c ∈ b64) ∧ body.length = chunk.length + 1 := by
  have masked : ∀ i : Nat, b64At (i &&& 0x3f) ∈ b64 := by
    intro i
    have inside : i &&& 0x3f < b64.length := Nat.and_lt_two_pow i (n := 6) (by decide)
    rw [b64At, List.getD_eq_getElem?_getD, List.getElem?_eq_getElem inside]
    exact List.getElem_mem inside
  match chunk, nonempty, short with
  | [b0], _, _ => exact ⟨[_, _], rfl, by simp [masked], rfl⟩
  | [b0, b1], _, _ => exact ⟨[_, _, _], rfl, by simp [masked], rfl⟩
  | [b0, b1, b2], _, _ => exact ⟨[_, _, _, _], rfl, by simp [masked], rfl⟩

theorem encodeBase64_layout (bytes : List UInt8) :
    ∃ body, (encodeBase64 bytes).toList = body ++ List.replicate ((3 - bytes.length % 3) % 3) '=' ∧
      (∀ c ∈ body, c ∈ b64) ∧ (encodeBase64 bytes).toList.length = 4 * ((bytes.length + 2) / 3) := by
  unfold encodeBase64
  rw [String.toList_ofList]
  fun_induction chunks 3 bytes with
  | case1 => exact ⟨[], rfl, by simp, rfl⟩
  | case2 item rest ih =>
      obtain ⟨later, layout, alphabet, length⟩ := ih
      have size : (item :: rest.take (3 - 1)).length ≤ 3 := by
        rw [List.length_cons, List.length_take]
        omega
      obtain ⟨body, first, proper, count⟩ := encodeChunk_layout (by simp) size
      rw [List.flatMap_cons, first, List.length_append, length]
      simp only [List.length_cons, List.length_take, List.length_drop, List.length_append,
        List.length_replicate, count] at count ⊢
      by_cases more : 2 ≤ rest.length
      · -- a complete chunk carries no padding
        have none : 3 - (min (3 - 1) rest.length + 1) = 0 := by omega
        refine ⟨body ++ later, ?_, ?_, by omega⟩
        · rw [layout, none, List.replicate_zero, List.append_nil, List.append_assoc, List.length_drop]
          congr 3
          omega
        · intro c member
          rcases List.mem_append.mp member with member | member
          · exact proper c member
          · exact alphabet c member
      · -- the last chunk: the padding of the text is its own
        have empty : rest.drop (3 - 1) = [] := List.drop_of_length_le (by omega)
        have nothing : (chunks 3 (rest.drop (3 - 1))).flatMap encodeChunk = [] := by
          rw [empty, chunks]
          rfl
        refine ⟨body, ?_, proper, by omega⟩
        rw [nothing, List.append_nil]
        congr 2
        omega

/-- Encoding and decoding gives the bytes back; the text has four characters for every three bytes or part
    of them, from the standard alphabet, and at most two padding characters, at its end. -/
theorem encodeBase64_roundTrip (bytes : List UInt8) :
    decodeBase64 (encodeBase64 bytes) = .ok bytes ∧
    (encodeBase64 bytes).length = 4 * ((bytes.length + 2) / 3) ∧
    ∃ body padding, (encodeBase64 bytes).toList = body ++ List.replicate padding '=' ∧
      (∀ c ∈ body, c ∈ b64) ∧ padding ≤ 2 := by
  obtain ⟨body, layout, alphabet, length⟩ := encodeBase64_layout bytes
  refine ⟨decodeBase64_of_rewritten (Rewritten.refl _), ?_, body, _, layout, alphabet, by omega⟩
  rw [← String.length_toList]
  exact length

end KavachNpu

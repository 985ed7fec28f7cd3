/-
Module: KavachNpu.Proofs.GuestPaths
Layer: Proofs
Purpose: The two readings of guest paths. The validator accepts the paths under `/mnt/` whose components
  are proper names, and nothing else; the translator takes the first component for a drive and writes the
  others with backslashes. The translation keeps the components of the paths without a backslash, and is
  defined only for drives of one byte.
Trusted boundary: none
Main exports: IsComponent, guestPathText, isNormalizedMntPath_exact, translateMntToWindowsPath_eq_some,
  translation_keeps_components_iff, fromFrame_windowsPath_iff
-/
import KavachNpu.Foundation.Segments
import KavachNpu.Proofs.GuestFrameCodec
import KavachNpu.Wsl.Correlator

namespace KavachNpu

/-! ### The grammar of the validator -/

/-- A component of a normalized path. -/
def IsComponent (segment : List Char) : Prop :=
  segment ≠ [] ∧ '/' ∉ segment ∧ segment ≠ ['.'] ∧ segment ≠ ['.', '.']

instance (segment : List Char) : Decidable (IsComponent segment) :=
  inferInstanceAs (Decidable (_ ∧ _ ∧ _ ∧ _))

/-- The path under `/mnt/` with the given segments. -/
def guestPathText (segments : List (List Char)) (trailing : Bool) : List Char :=
  "/mnt/".toList ++ ['/'].intercalate segments ++ if trailing then ['/'] else []

/-- What the loop asks of a segment that is neither first nor last. -/
theorem segmentAllowed_inner {count i : Nat} (positive : 0 < i) (inner : i + 1 < count)
    (segment : List Char) : segmentAllowed count i segment = true ↔
      segment ≠ [] ∧ segment ≠ ['.'] ∧ segment ≠ ['.', '.'] := by
  unfold segmentAllowed
  rw [if_neg (by omega), if_neg (by omega)]
  simp [and_assoc]

/-- What the loop asks of the last segment. -/
theorem segmentAllowed_last {count i : Nat} (positive : 0 < i) (last : i + 1 = count)
    (segment : List Char) : segmentAllowed count i segment = true ↔
      segment ≠ ['.'] ∧ segment ≠ ['.', '.'] := by
  unfold segmentAllowed
  rw [if_neg (by omega)]
  by_cases empty : segment = []
  · rw [if_pos ⟨by omega, empty⟩]
    simp [empty]
  · rw [if_neg fun both => empty both.2]
    simp [empty]

/-- The loop over the segments, from any position but the first: an empty segment may end them. -/
theorem segments_allowed_iff {segments : List (List Char)} (nonempty : segments ≠ []) (start : Nat)
    (positive : 0 < start) :
    (∀ entry ∈ segments.zipIdx start,
        segmentAllowed (start + segments.length) entry.2 entry.1 = true) ↔
      ∃ names, (segments = names ∨ segments = names ++ [[]]) ∧
        ∀ name ∈ names, name ≠ [] ∧ name ≠ ['.'] ∧ name ≠ ['.', '.'] := by
  induction segments generalizing start with
  | nil => exact absurd rfl nonempty
  | cons segment rest ih =>
      rw [List.zipIdx_cons, List.forall_mem_cons]
      cases rest with
      | nil =>
          rw [segmentAllowed_last positive (by simp)]
          constructor
          · rintro ⟨allowed, -⟩
            by_cases empty : segment = []
            · exact ⟨[], .inr (by simp [empty]), by simp⟩
            · exact ⟨[segment], .inl rfl, by simpa using ⟨empty, allowed⟩⟩
          · rintro ⟨names, layout | layout, proper⟩
            · exact ⟨(proper segment (by simp [← layout])).2, by simp⟩
            · have none : names = [] := by
                have lengths := congrArg List.length layout
                simp at lengths
                exact lengths
              simp [none] at layout
              simp [layout]
      | cons next others =>
          have tail := ih (by simp) (start + 1) (by omega)
          have count : start + (segment :: next :: others).length =
              start + 1 + (next :: others).length := by
            simp only [List.length_cons]
            omega
          rw [segmentAllowed_inner positive (by simp), count, tail]
          constructor
          · rintro ⟨allowed, names, layout, proper⟩
            refine ⟨segment :: names, ?_, by simpa using ⟨allowed, proper⟩⟩
            rcases layout with layout | layout
            · exact .inl (by rw [layout])
            · exact .inr (by rw [layout, List.cons_append])
          · rintro ⟨names, layout, proper⟩
            cases names with
            | nil => simp at layout
            | cons name names =>
                rw [List.forall_mem_cons] at proper
                rcases layout with layout | layout
                · obtain ⟨rfl, rfl⟩ := List.cons.inj layout
                  exact ⟨proper.1, next :: others, .inl rfl, proper.2⟩
                · rw [List.cons_append] at layout
                  obtain ⟨rfl, later⟩ := List.cons.inj layout
                  exact ⟨proper.1, names, .inr later, proper.2⟩

/-- The segments of a path under `/mnt/`. -/
theorem splitOn_mnt (remainder : List Char) :
    ("/mnt/".toList ++ remainder).splitOn '/' = [] :: "mnt".toList :: remainder.splitOn '/' := by
  have layout : "/mnt/".toList ++ remainder = [] ++ '/' :: ("mnt".toList ++ '/' :: remainder) := rfl
  rw [layout, List.splitOn_append_cons_self_of_not_mem (by simp),
    List.splitOn_append_cons_self_of_not_mem (by decide)]

/-- The validator, on what follows `/mnt/`. -/
theorem isNormalizedMntPath_mnt {remainder : List Char} (nonempty : remainder ≠ []) :
    isNormalizedMntPath (String.ofList ("/mnt/".toList ++ remainder)) = true ↔
      ∃ names, (remainder.splitOn '/' = names ∨ remainder.splitOn '/' = names ++ [[]]) ∧
        ∀ name ∈ names, name ≠ [] ∧ name ≠ ['.'] ∧ name ≠ ['.', '.'] := by
  have front : "/mnt/".toList.isPrefixOf ("/mnt/".toList ++ remainder) = true := by
    simp
  have behind : ("/mnt/".toList ++ remainder).drop "/mnt/".length = remainder := rfl
  have continues : remainder.isEmpty = false := by simpa [List.isEmpty_eq_false_iff] using nonempty
  unfold isNormalizedMntPath
  simp only [String.toList_ofList, front, behind, continues, Bool.not_true, Bool.false_eq_true, if_false]
  rw [splitOn_mnt, List.all_eq_true]
  -- the segment before the first slash is skipped, and `mnt` is a proper name
  have tail := segments_allowed_iff (List.splitOn_ne_nil '/' remainder) 2 (by decide)
  have long : 0 < (remainder.splitOn '/').length := List.length_pos_iff.mpr (List.splitOn_ne_nil _ _)
  have count : ([] :: "mnt".toList :: remainder.splitOn '/').length =
      2 + (remainder.splitOn '/').length := by
    simp only [List.length_cons]
    omega
  have first : segmentAllowed (2 + (remainder.splitOn '/').length) 0 [] = true := rfl
  have second : segmentAllowed (2 + (remainder.splitOn '/').length) 1 "mnt".toList = true := by
    rw [segmentAllowed_inner (by decide) (by omega)]
    decide
  rw [count, List.zipIdx_cons, List.zipIdx_cons, List.forall_mem_cons, List.forall_mem_cons, ← tail]
  constructor
  · rintro ⟨-, -, later⟩
    exact later
  · intro later
    exact ⟨first, second, later⟩

/-- A path with the given start, as the start and a remainder. -/
theorem exists_mnt_remainder {path : String} (front : "/mnt/".toList.isPrefixOf path.toList = true) :
    ∃ remainder, path = String.ofList ("/mnt/".toList ++ remainder) := by
  obtain ⟨remainder, layout⟩ := List.isPrefixOf_iff_prefix.mp front
  refine ⟨remainder, ?_⟩
  rw [layout, String.ofList_toList]

theorem exists_remainder_of_accepted {path : String} (accepted : isNormalizedMntPath path = true) :
    ∃ remainder, remainder ≠ [] ∧ path = String.ofList ("/mnt/".toList ++ remainder) := by
  unfold isNormalizedMntPath at accepted
  simp only at accepted
  split at accepted
  · cases accepted
  · rename_i front
    obtain ⟨remainder, rfl⟩ := exists_mnt_remainder (by simpa using front)
    split at accepted
    · cases accepted
    · rename_i continues
      refine ⟨remainder, ?_, rfl⟩
      rintro rfl
      exact continues rfl

/-- Segments that end in at most one empty one are joined components, with or without a slash at the
    end. -/
theorem split_names_iff {remainder : List Char} (nonempty : remainder ≠ []) :
    (∃ names, (remainder.splitOn '/' = names ∨ remainder.splitOn '/' = names ++ [[]]) ∧
        ∀ name ∈ names, name ≠ [] ∧ name ≠ ['.'] ∧ name ≠ ['.', '.']) ↔
      ∃ (segments : List (List Char)) (trailing : Bool), segments ≠ [] ∧
        (∀ segment ∈ segments, IsComponent segment) ∧
        remainder = ['/'].intercalate segments ++ if trailing then ['/'] else [] := by
  constructor
  · rintro ⟨names, split, proper⟩
    have joined : remainder = ['/'].intercalate (remainder.splitOn '/') :=
      (List.intercalate_splitOn '/').symm
    have components : ∀ name ∈ names, IsComponent name := by
      intro name member
      have listed : name ∈ remainder.splitOn '/' := by
        rcases split with split | split
        · rwa [split]
        · rw [split]
          exact List.mem_append_left _ member
      exact ⟨(proper name member).1, not_mem_of_mem_splitOn listed, (proper name member).2⟩
    rcases split with split | split
    · refine ⟨names, false, ?_, components, ?_⟩
      · rw [← split]
        exact List.splitOn_ne_nil '/' remainder
      · rw [joined, split]
        simp
    · have some : names ≠ [] := by
        rintro rfl
        rw [joined, split] at nonempty
        exact nonempty rfl
      refine ⟨names, true, some, components, ?_⟩
      rw [joined, split, intercalate_concat_nil '/' some]
      simp
  · rintro ⟨segments, trailing, some, components, rfl⟩
    refine ⟨segments, ?_, fun name member => ⟨(components name member).1, (components name member).2.2⟩⟩
    rw [splitOn_joined some fun segment member => (components segment member).2.1]
    cases trailing with
    | false => simp
    | true => simp

/-- The validator accepts the paths under `/mnt/` with one or more proper components, joined by single
    slashes, with or without a slash at the end. -/
theorem isNormalizedMntPath_exact (path : String) :
    isNormalizedMntPath path = true ↔ ∃ (segments : List (List Char)) (trailing : Bool),
      segments ≠ [] ∧ (∀ segment ∈ segments, IsComponent segment) ∧
        path.toList = guestPathText segments trailing := by
  constructor
  · intro accepted
    obtain ⟨remainder, nonempty, rfl⟩ := exists_remainder_of_accepted accepted
    rw [isNormalizedMntPath_mnt nonempty, split_names_iff nonempty] at accepted
    obtain ⟨segments, trailing, some, components, rfl⟩ := accepted
    refine ⟨segments, trailing, some, components, ?_⟩
    unfold guestPathText
    rw [String.toList_ofList, List.append_assoc]
  · rintro ⟨segments, trailing, some, components, layout⟩
    have text : path = String.ofList ("/mnt/".toList ++
        (['/'].intercalate segments ++ if trailing then ['/'] else [])) := by
      rw [← List.append_assoc, ← String.ofList_toList (s := path), layout]
      rfl
    have visible : (['/'].intercalate segments ++ if trailing then ['/'] else []) ≠ [] := by
      intro empty
      have split := splitOn_joined some (fun segment member => (components segment member).2.1) trailing
      rw [empty, List.splitOn_nil] at split
      obtain ⟨first, rest, rfl⟩ := List.exists_cons_of_ne_nil some
      have first' : [] = first := (List.cons.inj split).1
      exact (components first List.mem_cons_self).1 first'.symm
    rw [text, isNormalizedMntPath_mnt visible, split_names_iff visible]
    exact ⟨segments, trailing, some, components, rfl⟩

/-! ### The reading of the translator -/

/-- A text of one byte is one ASCII character. -/
theorem length_asBytes_eq_one {chars : List Char} :
    (asBytes (String.ofList chars)).length = 1 ↔ ∃ c, chars = [c] ∧ c.toNat < 128 := by
  have one : ∀ c : Char, (asBytes (String.ofList [c])).length = 1 ↔ c.toNat < 128 := by
    intro c
    have size : (asBytes (String.ofList [c])).length = c.utf8Size := by
      unfold asBytes
      rw [String.toByteArray_ofList]
      change [c].utf8Encode.size = c.utf8Size
      rw [List.utf8Encode_singleton, List.size_toByteArray, String.length_utf8EncodeChar]
    rw [size, Char.utf8Size_eq_one_iff, UInt32.le_iff_toNat_le]
    exact Nat.lt_succ_iff.symm
  constructor
  · intro single
    have few := length_le_length_asBytes chars
    match chars with
    | [] => cases single
    | [c] => exact ⟨c, rfl, (one c).mp single⟩
    | _ :: _ :: _ =>
        simp only [List.length_cons] at few
        omega
  · rintro ⟨c, rfl, ascii⟩
    exact (one c).mpr ascii

/-- The drive and the rest that `splitn` gives. -/
theorem splitn_drive {drive : Char} {tail : List Char} (plain : drive ≠ '/')
    (separated : tail = [] ∨ tail.head? = some '/') :
    (drive :: tail).takeWhile (· != '/') = [drive] ∧ (drive :: tail).dropWhile (· != '/') = tail := by
  have kept : (drive != '/') = true := bne_iff_ne.mpr plain
  rcases separated with rfl | slash
  · simp [kept]
  · obtain ⟨rest, rfl⟩ := List.head?_eq_some_iff.mp slash
    simp [kept]

/-- A remainder whose first segment is one character. -/
theorem drive_of_takeWhile {remainder : List Char} {drive : Char}
    (only : remainder.takeWhile (· != '/') = [drive]) :
    ∃ tail, remainder = drive :: tail ∧ drive ≠ '/' ∧ (tail = [] ∨ tail.head? = some '/') := by
  have cut : remainder = drive :: remainder.dropWhile (· != '/') := by
    have parts := List.takeWhile_append_dropWhile (p := (· != '/')) (l := remainder)
    rw [only] at parts
    exact parts.symm
  refine ⟨remainder.dropWhile (· != '/'), cut, ?_, ?_⟩
  · rintro rfl
    rw [cut] at only
    simp at only
  · cases rest : remainder.dropWhile (· != '/') with
    | nil => exact .inl rfl
    | cons c more =>
        have stops := List.head?_dropWhile_not (· != '/') remainder
        rw [rest] at stops
        simp at stops
        exact .inr (by rw [stops]; rfl)

/-- The translator, on what follows `/mnt/`. -/
theorem translate_mnt {drive : Char} {tail : List Char} (plain : drive ≠ '/')
    (ascii : drive.toNat < 128) (separated : tail = [] ∨ tail.head? = some '/') :
    translateMntToWindowsPath (String.ofList ("/mnt/".toList ++ drive :: tail)) =
      some (String.ofList
        (drive.toUpper :: ':' :: '\\' :: replaceSymbol '/' '\\' (tail.drop 1))) := by
  have front : "/mnt/".toList.isPrefixOf ("/mnt/".toList ++ drive :: tail) = true := by simp
  have behind : ("/mnt/".toList ++ drive :: tail).drop "/mnt/".length = drive :: tail := rfl
  have single : (asBytes (String.ofList [drive])).length = 1 :=
    length_asBytes_eq_one.mpr ⟨drive, rfl, ascii⟩
  obtain ⟨taken, dropped⟩ := splitn_drive plain separated
  unfold translateMntToWindowsPath
  simp only [String.toList_ofList, front, behind, taken, dropped, single, Bool.not_true,
    Bool.false_eq_true, if_false, ne_eq, not_true_eq_false]
  by_cases empty : (tail.drop 1).isEmpty = true
  · rw [if_pos empty, List.isEmpty_iff.mp empty]
    rfl
  · rw [if_neg empty]
    rfl

/-- The translator takes the paths whose first component is one ASCII character. -/
theorem translateMntToWindowsPath_eq_some {path windows : String} :
    translateMntToWindowsPath path = some windows ↔ ∃ (drive : Char) (tail : List Char),
      path.toList = "/mnt/".toList ++ drive :: tail ∧ drive ≠ '/' ∧ drive.toNat < 128 ∧
      (tail = [] ∨ tail.head? = some '/') ∧
      windows.toList = drive.toUpper :: ':' :: '\\' :: replaceSymbol '/' '\\' (tail.drop 1) := by
  constructor
  · intro translated
    obtain ⟨drive, tail, rfl, plain, ascii, separated⟩ : ∃ (drive : Char) (tail : List Char),
        path = String.ofList ("/mnt/".toList ++ drive :: tail) ∧ drive ≠ '/' ∧ drive.toNat < 128 ∧
          (tail = [] ∨ tail.head? = some '/') := by
      unfold translateMntToWindowsPath at translated
      simp only at translated
      split at translated
      · cases translated
      · rename_i front
        obtain ⟨remainder, rfl⟩ := exists_mnt_remainder (by simpa using front)
        split at translated
        · cases translated
        · rename_i single
          obtain ⟨drive, only, ascii⟩ := length_asBytes_eq_one.mp (not_not.mp single)
          rw [String.toList_ofList] at only
          obtain ⟨tail, rfl, plain, separated⟩ := drive_of_takeWhile only
          exact ⟨drive, tail, rfl, plain, ascii, separated⟩
    rw [translate_mnt plain ascii separated] at translated
    refine ⟨drive, tail, String.toList_ofList, plain, ascii, separated, ?_⟩
    rw [← Option.some.inj translated, String.toList_ofList]
  · rintro ⟨drive, tail, layout, plain, ascii, separated, text⟩
    rw [← String.ofList_toList (s := path), layout, translate_mnt plain ascii separated, ← text,
      String.ofList_toList]

/-- The components behind a drive are what the two readings of one path leave. -/
theorem guestPathText_drive {segment : List Char} {segments : List (List Char)} {trailing : Bool}
    {drive : Char} {tail : List Char} (components : ∀ name ∈ segment :: segments, IsComponent name)
    (same : guestPathText (segment :: segments) trailing = "/mnt/".toList ++ drive :: tail)
    (plain : drive ≠ '/') (separated : tail = [] ∨ tail.head? = some '/') :
    segment = [drive] ∧ (tail.drop 1).splitOn '/' =
      segments ++ if trailing = true ∨ segments = [] then [[]] else [] := by
  have slashless : ∀ name ∈ segment :: segments, '/' ∉ name := fun name member =>
    (components name member).2.1
  unfold guestPathText at same
  rw [List.append_assoc] at same
  have split := congrArg (List.splitOn '/') (List.append_cancel_left same)
  rw [splitOn_joined (by simp) slashless] at split
  rcases separated with rfl | slash
  · rw [List.splitOn_eq_singleton (by simpa using plain.symm)] at split
    cases trailing with
    | false => simp_all
    | true => simp at split
  · obtain ⟨rest, rfl⟩ := List.head?_eq_some_iff.mp slash
    have parts : ([drive] ++ '/' :: rest).splitOn '/' = [drive] :: rest.splitOn '/' :=
      List.splitOn_append_cons_self_of_not_mem (by simpa using plain.symm) rest
    obtain ⟨first, others⟩ := List.cons.inj (split.trans parts)
    refine ⟨first, ?_⟩
    rw [List.drop_one, List.tail_cons, ← others]
    cases trailing with
    | true => simp
    | false =>
        have some : segments ≠ [] := by
          rintro rfl
          exact List.splitOn_ne_nil '/' rest (by simpa using others.symm)
        simp [some]

/-! ### Components across the translation -/

/-- Split at backslashes, the Windows path has the drive with a colon and then the components of the guest
    path, the empty one behind a final slash or a bare drive included. -/
def PreservesComponents (path windows : String) : Prop :=
  ∃ (drive : Char) (segments : List (List Char)) (trailing : Bool),
    (∀ segment ∈ [drive] :: segments, IsComponent segment) ∧
    path.toList = guestPathText ([drive] :: segments) trailing ∧
    windows.toList.splitOn '\\' = [drive.toUpper, ':'] ::
      (segments ++ if trailing = true ∨ segments = [] then [[]] else [])

/-- No component of the Windows path refers to its own or the parent directory. -/
def NoDotComponents (windows : String) : Prop :=
  ∀ component ∈ windows.toList.splitOn '\\', component ≠ ['.'] ∧ component ≠ ['.', '.']

/-- Equal up to the case of the drive letter and a final slash directly behind the drive. -/
def SameGuestPath (path other : String) : Prop :=
  ∃ (drive drive' : Char) (tail tail' : List Char),
    path.toList = "/mnt/".toList ++ drive :: tail ∧ other.toList = "/mnt/".toList ++ drive' :: tail' ∧
    drive.toUpper = drive'.toUpper ∧
    (tail = tail' ∨ (tail = [] ∧ tail' = ['/']) ∨ (tail = ['/'] ∧ tail' = []))

theorem toUpper_of_wide {c : Char} (wide : 128 ≤ c.toNat) : c.toUpper = c := by
  unfold Char.toUpper
  split
  · rename_i lower
    have below : c.val.toNat ≤ 122 := lower.2
    have above : 128 ≤ c.val.toNat := wide
    omega
  · rfl

theorem ascii_toUpper : ∀ n < 128, ((Char.ofNat n).toUpper = '\\' ↔ Char.ofNat n = '\\') ∧
    (Char.ofNat n).toUpper.isAlpha = (Char.ofNat n).isAlpha := by
  decide +kernel

/-- Upper case keeps backslashes and letters apart. -/
theorem toUpper_kind (c : Char) :
    (c.toUpper = '\\' ↔ c = '\\') ∧ c.toUpper.isAlpha = c.isAlpha := by
  by_cases wide : 128 ≤ c.toNat
  · rw [toUpper_of_wide wide]
    exact ⟨Iff.rfl, rfl⟩
  · have ascii := ascii_toUpper c.toNat (by omega)
    rwa [Char.ofNat_toNat] at ascii

/-- An accepted path that is translated, in both readings. -/
theorem translated_layout {path windows : String} (accepted : isNormalizedMntPath path = true)
    (translated : translateMntToWindowsPath path = some windows) :
    ∃ (drive : Char) (segments : List (List Char)) (trailing : Bool) (tail : List Char),
      (∀ segment ∈ [drive] :: segments, IsComponent segment) ∧
      path.toList = guestPathText ([drive] :: segments) trailing ∧
      path.toList = "/mnt/".toList ++ drive :: tail ∧ drive ≠ '/' ∧
      (tail = [] ∨ tail.head? = some '/') ∧
      (tail.drop 1).splitOn '/' =
        segments ++ (if trailing = true ∨ segments = [] then [[]] else []) ∧
      windows.toList = drive.toUpper :: ':' :: '\\' :: replaceSymbol '/' '\\' (tail.drop 1) := by
  obtain ⟨segments, trailing, some, components, grammar⟩ := (isNormalizedMntPath_exact path).mp accepted
  obtain ⟨drive, tail, layout, plain, -, separated, text⟩ :=
    translateMntToWindowsPath_eq_some.mp translated
  obtain ⟨segment, others, rfl⟩ := List.exists_cons_of_ne_nil some
  obtain ⟨rfl, split⟩ := guestPathText_drive components (grammar.symm.trans layout) plain separated
  exact ⟨drive, others, trailing, tail, components, grammar, layout, plain, separated, split, text⟩

/-- The Windows path of a path without backslashes, split at its backslashes. -/
theorem splitOn_windows {drive : Char} {rest : List Char} (drivePlain : drive ≠ '\\')
    (plain : '\\' ∉ rest) :
    (drive.toUpper :: ':' :: '\\' :: replaceSymbol '/' '\\' rest).splitOn '\\' =
      [drive.toUpper, ':'] :: rest.splitOn '/' := by
  have upper : drive.toUpper ≠ '\\' := fun same => drivePlain ((toUpper_kind drive).1.mp same)
  have first : '\\' ∉ [drive.toUpper, ':'] := by simpa using upper.symm
  have parts := List.splitOn_append_cons_self_of_not_mem first (replaceSymbol '/' '\\' rest)
  rw [splitOn_replaceSymbol plain] at parts
  exact parts

theorem backslash_mem_mnt {drive : Char} {tail : List Char} (separated : tail = [] ∨ tail.head? = some '/') :
    '\\' ∈ "/mnt/".toList ++ drive :: tail ↔ drive = '\\' ∨ '\\' ∈ tail.drop 1 := by
  rcases separated with rfl | slash
  · simp [eq_comm]
  · obtain ⟨rest, rfl⟩ := List.head?_eq_some_iff.mp slash
    simp [eq_comm]

/-- The translation keeps the components exactly of the paths without a backslash. -/
theorem preservesComponents_iff {path windows : String} (accepted : isNormalizedMntPath path = true)
    (translated : translateMntToWindowsPath path = some windows) :
    PreservesComponents path windows ↔ '\\' ∉ path.toList := by
  obtain ⟨drive, segments, trailing, tail, components, grammar, layout, plain, separated, split, text⟩ :=
    translated_layout accepted translated
  rw [layout, backslash_mem_mnt separated]
  constructor
  · rintro ⟨drive', segments', trailing', components', grammar', parts⟩
    obtain ⟨same, split'⟩ := guestPathText_drive components' (grammar'.symm.trans layout) plain separated
    -- a backslash in the guest path is one more cut of the Windows path
    have cuts := congrArg List.length parts
    rw [List.length_cons, ← split', text, length_splitOn, List.count_cons, List.count_cons,
      List.count_cons] at cuts
    have replaced := length_splitOn_replaceSymbol '/' '\\' (by decide) (tail.drop 1)
    rw [length_splitOn] at replaced
    generalize tail.drop 1 = rest at cuts replaced ⊢
    rintro (driveMark | restMark)
    · have upper : (drive.toUpper == '\\') = true := by
        rw [driveMark]
        rfl
      rw [if_pos upper] at cuts
      simp only [beq_self_eq_true, if_true] at cuts
      omega
    · have some := List.count_pos_iff.mpr restMark
      simp only [beq_self_eq_true, if_true] at cuts
      omega
  · intro none
    refine ⟨drive, segments, trailing, components, grammar, ?_⟩
    rw [text, splitOn_windows (fun mark => none (.inl mark)) (fun mark => none (.inr mark)), split]

/-- Without backslashes no dot component appears. -/
theorem noDotComponents_of_preserved {path windows : String}
    (preserved : PreservesComponents path windows) : NoDotComponents windows := by
  obtain ⟨drive, segments, trailing, components, -, parts⟩ := preserved
  intro component member
  rw [parts] at member
  rcases List.mem_cons.mp member with rfl | member
  · simp
  · rcases List.mem_append.mp member with member | member
    · exact (components component (List.mem_cons_of_mem _ member)).2.2
    · split at member
      · rw [List.mem_singleton.mp member]
        simp
      · cases member

/-- Without backslashes the translation determines the path. -/
theorem sameGuestPath_of_translation {path other windows : String}
    (accepted : isNormalizedMntPath path = true)
    (translated : translateMntToWindowsPath path = some windows)
    (accepted' : isNormalizedMntPath other = true)
    (translated' : translateMntToWindowsPath other = some windows)
    (plain : '\\' ∉ path.toList) (plain' : '\\' ∉ other.toList) : SameGuestPath path other := by
  obtain ⟨drive, -, -, tail, -, -, layout, -, separated, -, text⟩ :=
    translated_layout accepted translated
  obtain ⟨drive', -, -, tail', -, -, layout', -, separated', -, text'⟩ :=
    translated_layout accepted' translated'
  rw [layout, backslash_mem_mnt separated] at plain
  rw [layout', backslash_mem_mnt separated'] at plain'
  obtain ⟨upper, same⟩ := List.cons.inj (text.symm.trans text')
  have written : replaceSymbol '/' '\\' (tail.drop 1) = replaceSymbol '/' '\\' (tail'.drop 1) := by
    simpa using same
  have rests : tail.drop 1 = tail'.drop 1 := by
    have split := congrArg (List.splitOn '\\') written
    rw [splitOn_replaceSymbol fun mark => plain (.inr mark),
      splitOn_replaceSymbol fun mark => plain' (.inr mark)] at split
    have joined := congrArg (List.intercalate ['/']) split
    rwa [List.intercalate_splitOn, List.intercalate_splitOn] at joined
  refine ⟨drive, drive', tail, tail', layout, layout', upper, ?_⟩
  rcases separated with rfl | slash
  · rcases separated' with rfl | slash'
    · exact .inl rfl
    · obtain ⟨rest', rfl⟩ := List.head?_eq_some_iff.mp slash'
      have none : rest' = [] := rests.symm
      exact .inr (.inl ⟨rfl, by rw [none]⟩)
  · obtain ⟨rest, rfl⟩ := List.head?_eq_some_iff.mp slash
    rcases separated' with rfl | slash'
    · have none : rest = [] := rests
      exact .inr (.inr ⟨by rw [none], rfl⟩)
    · obtain ⟨rest', rfl⟩ := List.head?_eq_some_iff.mp slash'
      have equal : rest = rest' := rests
      exact .inl (by rw [equal])

/-- The translation of two accepted paths keeps their components, brings in no dot component and tells the
    paths apart, exactly when neither of them contains a backslash. -/
theorem translation_keeps_components_iff {path other windows windows' : String}
    (accepted : isNormalizedMntPath path = true)
    (translated : translateMntToWindowsPath path = some windows)
    (accepted' : isNormalizedMntPath other = true)
    (translated' : translateMntToWindowsPath other = some windows') :
    (PreservesComponents path windows ∧ NoDotComponents windows ∧
      PreservesComponents other windows' ∧ NoDotComponents windows' ∧
      (windows = windows' → SameGuestPath path other)) ↔
    '\\' ∉ path.toList ∧ '\\' ∉ other.toList := by
  rw [← preservesComponents_iff accepted translated, ← preservesComponents_iff accepted' translated']
  constructor
  · rintro ⟨preserved, -, preserved', -, -⟩
    exact ⟨preserved, preserved'⟩
  · rintro ⟨preserved, preserved'⟩
    refine ⟨preserved, noDotComponents_of_preserved preserved, preserved',
      noDotComponents_of_preserved preserved', ?_⟩
    rintro rfl
    exact sameGuestPath_of_translation accepted translated accepted' translated'
      ((preservesComponents_iff accepted translated).mp preserved)
      ((preservesComponents_iff accepted' translated').mp preserved')

theorem translation_keeps_components_doc :
    PreservesComponents "/mnt/c/a/b" "C:\\a\\b" ∧ NoDotComponents "C:\\a\\b" ∧
      PreservesComponents "/mnt/C/a/b" "C:\\a\\b" ∧ NoDotComponents "C:\\a\\b" ∧
      ("C:\\a\\b" = "C:\\a\\b" → SameGuestPath "/mnt/c/a/b" "/mnt/C/a/b") :=
  (translation_keeps_components_iff (by decide +kernel) (by decide +kernel) (by decide +kernel)
    (by decide +kernel)).mpr ⟨by decide, by decide⟩

/-- A guest name with backslashes: a parent reference reaches the Windows path, and two files share one
    translation. -/
theorem backslash_name_escapes :
    (isNormalizedMntPath "/mnt/c/a\\..\\b" = true ∧
      translateMntToWindowsPath "/mnt/c/a\\..\\b" = some "C:\\a\\..\\b" ∧
      ¬ PreservesComponents "/mnt/c/a\\..\\b" "C:\\a\\..\\b" ∧
      ¬ NoDotComponents "C:\\a\\..\\b") ∧
    isNormalizedMntPath "/mnt/c/a\\b" = true ∧ isNormalizedMntPath "/mnt/c/a/b" = true ∧
      translateMntToWindowsPath "/mnt/c/a\\b" = translateMntToWindowsPath "/mnt/c/a/b" ∧
      ¬ SameGuestPath "/mnt/c/a\\b" "/mnt/c/a/b" := by
  have accepted : isNormalizedMntPath "/mnt/c/a\\..\\b" = true := by decide +kernel
  have translated : translateMntToWindowsPath "/mnt/c/a\\..\\b" = some "C:\\a\\..\\b" := by
    decide +kernel
  refine ⟨⟨accepted, translated, ?_, ?_⟩, by decide +kernel, by decide +kernel, by decide +kernel, ?_⟩
  · rw [preservesComponents_iff accepted translated]
    decide
  · intro dotless
    exact (dotless ['.', '.'] (by decide +kernel)).2 rfl
  · rintro ⟨drive, drive', tail, tail', layout, layout', -, same⟩
    have first : tail = "/a\\b".toList := by
      have cut := congrArg (List.drop 6) layout
      simpa using cut.symm
    have second : tail' = "/a/b".toList := by
      have cut := congrArg (List.drop 6) layout'
      simpa using cut.symm
    rw [first, second] at same
    exact absurd same (by decide)

/-! ### Accepted records -/

/-- The first component under `/mnt/` is a single ASCII letter. -/
def DriveLetterPath (path : String) : Prop :=
  ∃ (letter : Char) (tail : List Char), path.toList = "/mnt/".toList ++ letter :: tail ∧
    letter.isAlpha = true ∧ (tail = [] ∨ tail.head? = some '/')

/-- The guest path has a Windows path with a drive letter, and that is what host events are compared
    with. -/
def HasDrivePath (record : GuestWriteRecord) : Prop :=
  ∃ (windows : String) (letter : Char) (rest : List Char),
    translateMntToWindowsPath record.normalizedPath = some windows ∧
    windows.toList = letter :: ':' :: '\\' :: rest ∧ letter.isAlpha = true ∧
    WslCorrelator.windowsPath record = windows

theorem isAlpha_ascii {c : Char} (letter : c.isAlpha = true) : c.toNat < 128 ∧ c ≠ '/' := by
  constructor
  · have cases : (c.isUpper || c.isLower) = true := letter
    rw [Bool.or_eq_true] at cases
    rcases cases with upper | lower
    · have range : c.val ≥ 65 ∧ c.val ≤ 90 := of_decide_eq_true upper
      have below : c.toNat ≤ 90 := range.2
      omega
    · have range : (decide (c.val ≥ 97) && decide (c.val ≤ 122)) = true := lower
      have below : c.toNat ≤ 122 := of_decide_eq_true (Bool.and_eq_true_iff.mp range).2
      omega
  · rintro rfl
    exact absurd letter (by decide)

theorem hasDrivePath_iff (record : GuestWriteRecord) :
    HasDrivePath record ↔ DriveLetterPath record.normalizedPath := by
  constructor
  · rintro ⟨windows, letter, rest, translated, text, alphabetic, -⟩
    obtain ⟨drive, tail, layout, -, -, separated, text'⟩ :=
      translateMntToWindowsPath_eq_some.mp translated
    obtain ⟨rfl, -⟩ := List.cons.inj (text.symm.trans text')
    rw [(toUpper_kind drive).2] at alphabetic
    exact ⟨drive, tail, layout, alphabetic, separated⟩
  · rintro ⟨letter, tail, layout, alphabetic, separated⟩
    obtain ⟨ascii, plain⟩ := isAlpha_ascii alphabetic
    have translated := translateMntToWindowsPath_eq_some.mpr
      ⟨letter, tail, layout, plain, ascii, separated, String.toList_ofList⟩
    refine ⟨_, letter.toUpper, _, translated, String.toList_ofList, ?_, ?_⟩
    · rw [(toUpper_kind letter).2]
      exact alphabetic
    · unfold WslCorrelator.windowsPath
      rw [translated]
      rfl

/-- The path of an accepted frame is what its bytes from the end of the header on spell. -/
theorem path_of_fromFrame {frame : List UInt8} {record : GuestWriteRecord}
    (accepted : GuestWriteRecord.fromFrame frame = .ok record) :
    fromUtf8 (frame.drop 153) = some record.normalizedPath := by
  obtain ⟨-, written⟩ := GuestWriteRecord.toFrame_of_fromFrame accepted
  obtain ⟨-, -, layout⟩ := GuestWriteRecord.toFrame_eq_ok.mp written
  have payload : record.payloadBytes.drop 149 = asBytes record.normalizedPath := by
    have path := GuestWriteRecord.slice_payloadBytes_path record
    unfold slice at path
    rwa [List.take_of_length_le] at path
    rw [List.length_drop, GuestWriteRecord.length_payloadBytes]
    omega
  have header : (u32ToBeBytes (UInt32.ofNat record.payloadBytes.length)).toList.length = 4 :=
    Bytes.length_toList _
  have skipped : (u32ToBeBytes (UInt32.ofNat record.payloadBytes.length)).toList.drop 153 = [] :=
    List.drop_of_length_le (by omega)
  rw [fromUtf8_eq_some, ← layout, ← payload, List.drop_append, skipped, header, List.nil_append]

/-- An accepted record has a Windows path with a drive letter exactly when the path in its frame starts
    with a single letter under `/mnt/`. -/
theorem fromFrame_windowsPath_iff {frame : List UInt8} {record : GuestWriteRecord}
    (accepted : GuestWriteRecord.fromFrame frame = .ok record) :
    HasDrivePath record ↔ ∃ path, fromUtf8 (frame.drop 153) = some path ∧ DriveLetterPath path := by
  rw [hasDrivePath_iff, path_of_fromFrame accepted]
  simp

/-- A record of a write to the given path. -/
def writeTo (path : String) : GuestWriteRecord :=
  { version := { major := 1, minor := 0 }
    sequenceNumber := 1
    guestMonotonicNs := 1
    guestRealtimeNs := 0
    guestProcessId := 1
    guestProcessStartTicks := 0
    distributionId := Bytes.replicate 16 0
    mountNamespaceId := 1
    executableSha256 := Bytes.replicate 32 0
    cgroupSha256 := Bytes.replicate 32 0
    operation := .write
    normalizedPath := path
    byteRangeStart := 0
    byteRangeLength := 1
    flags := 0 }

/-- Its frame. -/
def frameOfWrite (path : String) : List UInt8 :=
  (u32ToBeBytes (UInt32.ofNat (writeTo path).payloadBytes.length)).toList ++ (writeTo path).payloadBytes

theorem fromFrame_frameOfWrite {path : String} (normalized : isNormalizedMntPath path = true)
    (short : (asBytes path).length ≤ 4096) :
    GuestWriteRecord.fromFrame (frameOfWrite path) = .ok (writeTo path) := by
  have valid : (writeTo path).Valid :=
    { major := rfl
      sequence := by change (0 : UInt64) < 1; decide
      flags := rfl
      normalized := normalized
      short := short }
  exact GuestWriteRecord.fromFrame_of_toFrame valid
    (GuestWriteRecord.toFrame_eq_ok.mpr ⟨normalized, short, rfl⟩)

theorem fromFrame_windowsPath_driveC : HasDrivePath (writeTo "/mnt/c/doc.txt") := by
  have accepted : GuestWriteRecord.fromFrame (frameOfWrite "/mnt/c/doc.txt") =
      .ok (writeTo "/mnt/c/doc.txt") := fromFrame_frameOfWrite (by decide +kernel) (by decide)
  rw [fromFrame_windowsPath_iff accepted]
  exact ⟨_, path_of_fromFrame accepted, 'c', "/doc.txt".toList, rfl, rfl, .inr rfl⟩

/-- Accepted records without a drive letter: a mount of another name has no Windows path at all, and a
    digit is taken for a drive. -/
theorem accepted_without_drive :
    (GuestWriteRecord.fromFrame (frameOfWrite "/mnt/data/x") = .ok (writeTo "/mnt/data/x") ∧
      translateMntToWindowsPath (writeTo "/mnt/data/x").normalizedPath = none ∧
      WslCorrelator.windowsPath (writeTo "/mnt/data/x") = "/mnt/data/x" ∧
      ¬ HasDrivePath (writeTo "/mnt/data/x")) ∧
    GuestWriteRecord.fromFrame (frameOfWrite "/mnt/1/x") = .ok (writeTo "/mnt/1/x") ∧
      translateMntToWindowsPath (writeTo "/mnt/1/x").normalizedPath = some "1:\\x" ∧
      ¬ HasDrivePath (writeTo "/mnt/1/x") := by
  have noPath : translateMntToWindowsPath "/mnt/data/x" = none := by decide +kernel
  have digit : translateMntToWindowsPath "/mnt/1/x" = some "1:\\x" := by decide +kernel
  refine ⟨⟨fromFrame_frameOfWrite (by decide +kernel) (by decide), noPath, ?_, ?_⟩,
    fromFrame_frameOfWrite (by decide +kernel) (by decide), digit, ?_⟩
  · unfold WslCorrelator.windowsPath
    rw [show (writeTo "/mnt/data/x").normalizedPath = "/mnt/data/x" from rfl, noPath]
    rfl
  · rintro ⟨windows, -, -, translated, -⟩
    cases noPath.symm.trans translated
  · rintro ⟨windows, letter, rest, translated, text, alphabetic, -⟩
    cases digit.symm.trans translated
    obtain ⟨rfl, -⟩ := List.cons.inj text
    exact absurd alphabetic (by decide)

end KavachNpu

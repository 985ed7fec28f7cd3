/-
Module: KavachNpu.Proofs.BundleConfinement
Layer: Proofs
Purpose: Which files the verification of a bundle can be made to open. The name of the model file comes from
  the manifest before anything of it is verified, so it is any string; the verification stays in the bundle
  directory exactly as long as that string is a file name, or spells such a file in full.
Trusted boundary: none
Main exports: openBundleDir_outcome, IsFileName, SpellsChild, NamesModel, StaysInside,
  openBundleDir_confined_iff
-/
import KavachNpu.Core.BundleAccess

namespace KavachNpu

namespace BundleConfinement

open Recorded

variable {Key Value : Type}

/-! ### What is opened -/

/-- Without its record, the computation is the verification. -/
theorem openBundleDir_outcome (externals : ManifestExternals Key Value) (fs : FileSystem)
    (bundleDir : String) (key : Key) (minimum : UInt64) :
    (openBundleDir externals fs bundleDir key minimum).outcome =
      verifyBundleDir externals fs bundleDir key minimum := by
  unfold openBundleDir verifyBundleDir
  simp only [outcome_bind, outcome_recording, outcome_silent]

/-- The manifest and the signature can be read, and the manifest is JSON with this string as the name of its
    model file. -/
def NamesModel (externals : ManifestExternals Key Value) (fs : FileSystem) (bundleDir name : String) :
    Prop :=
  ∃ (manifestBytes : List UInt8) (sigStr : String) (manifestMeta : Value),
    fs.read (fs.join bundleDir "manifest.json") = .ok manifestBytes ∧
    fs.readToString (fs.join bundleDir "manifest.sig") = .ok sigStr ∧
    externals.valueFromSlice manifestBytes = .ok manifestMeta ∧
    (externals.pointer manifestMeta "/onnx/file").bind externals.asStr = some name

/-- There is at most one such name. -/
theorem namesModel_unique {externals : ManifestExternals Key Value} {fs : FileSystem}
    {bundleDir name other : String} (named : NamesModel externals fs bundleDir name)
    (named' : NamesModel externals fs bundleDir other) : name = other := by
  obtain ⟨bytes, -, value, read, -, parsed, found⟩ := named
  obtain ⟨bytes', -, value', read', -, parsed', found'⟩ := named'
  cases read.symm.trans read'
  cases parsed.symm.trans parsed'
  exact Option.some.inj (found.symm.trans found')

/-- The opened files: the manifest, the signature if the manifest can be read, and the named file. -/
theorem mem_openBundleDir {externals : ManifestExternals Key Value} {fs : FileSystem}
    {bundleDir : String} {key : Key} {minimum : UInt64} {path : String} :
    path ∈ (openBundleDir externals fs bundleDir key minimum).events ↔
      path = fs.join bundleDir "manifest.json" ∨
      (path = fs.join bundleDir "manifest.sig" ∧
        ∃ manifestBytes, fs.read (fs.join bundleDir "manifest.json") = .ok manifestBytes) ∨
      ∃ name, NamesModel externals fs bundleDir name ∧ path = fs.join bundleDir name := by
  unfold openBundleDir NamesModel
  simp only [mem_events_bind, mem_events_recording, outcome_recording, outcome_silent, events_silent,
    List.not_mem_nil, Outcome.ofExcept_eq_ok, Outcome.okOr_eq_ok, false_or, and_false, exists_false,
    or_false]
  constructor
  · rintro (manifest | ⟨bytes, read, sig | ⟨sigStr, readSig, value, parsed, name, named, model⟩⟩)
    · exact .inl manifest
    · exact .inr (.inl ⟨sig, bytes, read⟩)
    · exact .inr (.inr ⟨name, ⟨bytes, sigStr, value, read, readSig, parsed, named⟩, model⟩)
  · rintro (manifest | ⟨sig, bytes, read⟩ |
      ⟨name, ⟨bytes, sigStr, value, read, readSig, parsed, named⟩, model⟩)
    · exact .inl manifest
    · exact .inr ⟨bytes, read, .inl sig⟩
    · exact .inr ⟨bytes, read, .inr ⟨sigStr, readSig, value, parsed, name, named, model⟩⟩

/-! ### Direct children -/

/-- A single file name of the host: no separator, no prefix, and neither of the two directory references. -/
def IsFileName (host : PathHost) (name : String) : Prop :=
  name ≠ "" ∧ name ≠ "." ∧ name ≠ ".." ∧ name.toList.any host.isSeparator = false ∧
    (host = .windows → parsePrefix name.toList = none)

instance (host : PathHost) (name : String) : Decidable (IsFileName host name) :=
  inferInstanceAs (Decidable (_ ∧ _ ∧ _ ∧ _ ∧ (_ → _)))

theorem IsFileName.no_root {host : PathHost} {name : String} (proper : IsFileName host name) :
    ¬ name.toList.head?.any host.isSeparator = true := by
  intro root
  obtain ⟨c, first, separator⟩ := (Option.any_eq_true _ _).mp root
  exact List.any_eq_false.mp proper.2.2.2.1 c (List.mem_of_mem_head? first) separator

/-- A file name is written behind every base but a verbatim one. -/
theorem IsFileName.writtenBehind {host : PathHost} {base child : String} (proper : IsFileName host child)
    (plain : host = .windows → ¬ (parsePrefix base.toList).any PrefixKind.isVerbatim) :
    WrittenBehind host base child := by
  cases host with
  | unix => exact proper.no_root
  | windows => exact ⟨plain rfl, proper.2.2.2.2 rfl, proper.no_root⟩

/-- The name is not written behind the base, and the path it leads to is that of a file name. -/
def SpellsChild (host : PathHost) (base name : String) : Prop :=
  ¬ WrittenBehind host base name ∧
    ∃ child, IsFileName host child ∧ pathJoin host base name = pathJoin host base child

/-- The joined path is a direct child of the directory exactly if what is joined is a file name, or spells
    such a child in full. -/
theorem exists_child_iff {host : PathHost} {base name : String} :
    (∃ child, IsFileName host child ∧ pathJoin host base name = pathJoin host base child) ↔
      IsFileName host name ∨ SpellsChild host base name := by
  constructor
  · rintro ⟨child, proper, same⟩
    by_cases behind : WrittenBehind host base name
    · left
      have plain : host = .windows → ¬ (parsePrefix base.toList).any PrefixKind.isVerbatim := by
        rintro rfl
        exact behind.1
      rw [pathJoin_inj behind (proper.writtenBehind plain) same]
      exact proper
    · exact .inr ⟨behind, child, proper, same⟩
  · rintro (proper | ⟨-, spelled⟩)
    · exact ⟨name, proper, rfl⟩
    · exact spelled

/-- Only the manifest, its signature and one more direct child of the directory are opened. -/
def StaysInside (host : PathHost) (bundleDir : String) (opened : List String) : Prop :=
  ∃ child, IsFileName host child ∧ ∀ path ∈ opened, path = pathJoin host bundleDir "manifest.json" ∨
    path = pathJoin host bundleDir "manifest.sig" ∨ path = pathJoin host bundleDir child

theorem isFileName_manifest (host : PathHost) : IsFileName host "manifest.json" := by
  cases host with
  | unix => decide
  | windows => decide

theorem isFileName_signature (host : PathHost) : IsFileName host "manifest.sig" := by
  cases host with
  | unix => decide
  | windows => decide

/-- A confined verification has reached no other name. -/
theorem proper_of_staysInside {externals : ManifestExternals Key Value} {host : PathHost}
    {read : String → Except String (List UInt8)} {bundleDir name : String} {key : Key} {minimum : UInt64}
    (inside : StaysInside host bundleDir
      (openBundleDir externals (diskFileSystem host read) bundleDir key minimum).events)
    (named : NamesModel externals (diskFileSystem host read) bundleDir name) :
    IsFileName host name ∨ SpellsChild host bundleDir name := by
  obtain ⟨child, proper, allowed⟩ := inside
  apply exists_child_iff.mp
  rcases allowed _ (mem_openBundleDir.mpr (.inr (.inr ⟨name, named, rfl⟩))) with path | path | path
  · exact ⟨"manifest.json", isFileName_manifest host, path⟩
  · exact ⟨"manifest.sig", isFileName_signature host, path⟩
  · exact ⟨child, proper, path⟩

/-- The recorded computation is the verification, and it stays inside the bundle directory exactly if the
    name of the model file, whenever it is reached, is a single file name or spells a direct child in
    full. -/
theorem openBundleDir_confined_iff (externals : ManifestExternals Key Value) (host : PathHost)
    (read : String → Except String (List UInt8)) (bundleDir : String) (key : Key) (minimum : UInt64) :
    (openBundleDir externals (diskFileSystem host read) bundleDir key minimum).outcome =
      verifyBundleDir externals (diskFileSystem host read) bundleDir key minimum ∧
    (StaysInside host bundleDir
        (openBundleDir externals (diskFileSystem host read) bundleDir key minimum).events ↔
      ∀ name, NamesModel externals (diskFileSystem host read) bundleDir name →
        IsFileName host name ∨ SpellsChild host bundleDir name) := by
  refine ⟨openBundleDir_outcome externals _ bundleDir key minimum, ?_⟩
  constructor
  · intro inside name named
    exact proper_of_staysInside inside named
  · intro proper
    by_cases reached : ∃ name, NamesModel externals (diskFileSystem host read) bundleDir name
    · obtain ⟨name, named⟩ := reached
      obtain ⟨child, single, same⟩ := exists_child_iff.mpr (proper name named)
      refine ⟨child, single, ?_⟩
      intro path opened
      rcases mem_openBundleDir.mp opened with path | ⟨path, -⟩ | ⟨other, named', path⟩
      · exact .inl path
      · exact .inr (.inl path)
      · rw [path, namesModel_unique named' named]
        exact .inr (.inr same)
    · refine ⟨"manifest.json", isFileName_manifest host, ?_⟩
      intro path opened
      rcases mem_openBundleDir.mp opened with path | ⟨path, -⟩ | ⟨other, named, -⟩
      · exact .inl path
      · exact .inr (.inl path)
      · exact absurd ⟨other, named⟩ reached

/-! ### A manifest that leaves the directory -/

/-- An unsigned manifest with nothing but the name of a model file. -/
def bareManifest (file : String) : String :=
  "\x7b\"onnx\":\x7b\"file\":\"" ++ file ++ "\"\x7d\x7d"

/-- The third-party functions on it: the manifest is valid JSON, without the required fields. A JSON value
    is given by its string. -/
def bareExternals (file : String) : ManifestExternals Unit String :=
  { fromSlice := fun _ => .error "missing field artifact_version"
    valueFromSlice := fun bytes =>
      if bytes = asBytes (bareManifest file) then .ok file else .error "expected value at line 1 column 1"
    pointer := fun value path => if path = "/onnx/file" then some value else none
    asStr := some
    sha256 := fun _ => Bytes.replicate 32 0
    hexEncode := fun _ => ""
    verifyingKeyFromBytes := fun _ => .ok ()
    verifyStrict := fun _ _ _ => .error "signature error" }

/-- A bundle directory with that manifest and an empty signature. -/
def bareRead (host : PathHost) (file path : String) : Except String (List UInt8) :=
  if path = pathJoin host "models/active" "manifest.json" then .ok (asBytes (bareManifest file))
  else if path = pathJoin host "models/active" "manifest.sig" then .ok []
  else .error "No such file or directory (os error 2)"

theorem bare_namesModel (host : PathHost) (file : String) :
    NamesModel (bareExternals file) (diskFileSystem host (bareRead host file)) "models/active" file := by
  have apart : pathJoin host "models/active" "manifest.sig" ≠
      pathJoin host "models/active" "manifest.json" := by
    cases host with
    | unix => decide
    | windows => decide
  have readSig : bareRead host file (pathJoin host "models/active" "manifest.sig") = .ok [] := by
    unfold bareRead
    rw [if_neg apart, if_pos rfl]
  have empty : fromUtf8 [] = some "" := fromUtf8_eq_some.mpr rfl
  refine ⟨asBytes (bareManifest file), "", file, if_pos rfl, ?_, if_pos rfl, rfl⟩
  simp only [FileSystem.readToString, diskFileSystem, readSig, empty]

/-- What is opened for such a manifest. -/
theorem bare_opens {host : PathHost} {file : String}
    (improper : ¬ (IsFileName host file ∨ SpellsChild host "models/active" file)) :
    pathJoin host "models/active" file ∈ (openBundleDir (bareExternals file)
        (diskFileSystem host (bareRead host file)) "models/active" () 1).events ∧
      ¬ StaysInside host "models/active" (openBundleDir (bareExternals file)
        (diskFileSystem host (bareRead host file)) "models/active" () 1).events := by
  have named := bare_namesModel host file
  constructor
  · exact mem_openBundleDir.mpr (.inr (.inr ⟨file, named, rfl⟩))
  · intro inside
    exact improper (proper_of_staysInside inside named)

/-- The children of that directory start with its first letter. -/
theorem head_of_spellsChild {host : PathHost} {file : String}
    (spelled : SpellsChild host "models/active" file) :
    (pathJoin host "models/active" file).toList.head? = some 'm' := by
  obtain ⟨-, child, proper, same⟩ := spelled
  have behind : WrittenBehind host "models/active" child := proper.writtenBehind fun _ => by decide
  rw [same, pathJoin_of_writtenBehind behind, String.toList_ofList]
  rfl

/-- A manifest without a valid signature makes the verification open a file outside the directory, on both
    hosts: one named with `..`, and one named by an absolute path. -/
theorem bare_manifest_escapes :
    ("models/active/../../secret" ∈ (openBundleDir (bareExternals "../../secret")
        (diskFileSystem .unix (bareRead .unix "../../secret")) "models/active" () 1).events ∧
      ¬ StaysInside .unix "models/active" (openBundleDir (bareExternals "../../secret")
        (diskFileSystem .unix (bareRead .unix "../../secret")) "models/active" () 1).events) ∧
    ("/etc/passwd" ∈ (openBundleDir (bareExternals "/etc/passwd")
        (diskFileSystem .unix (bareRead .unix "/etc/passwd")) "models/active" () 1).events ∧
      ¬ StaysInside .unix "models/active" (openBundleDir (bareExternals "/etc/passwd")
        (diskFileSystem .unix (bareRead .unix "/etc/passwd")) "models/active" () 1).events) ∧
    ("models/active\\../../secret" ∈ (openBundleDir (bareExternals "../../secret")
        (diskFileSystem .windows (bareRead .windows "../../secret")) "models/active" () 1).events ∧
      ¬ StaysInside .windows "models/active" (openBundleDir (bareExternals "../../secret")
        (diskFileSystem .windows (bareRead .windows "../../secret")) "models/active" () 1).events) ∧
    "C:/Windows/win.ini" ∈ (openBundleDir (bareExternals "C:/Windows/win.ini")
        (diskFileSystem .windows (bareRead .windows "C:/Windows/win.ini")) "models/active" () 1).events ∧
      ¬ StaysInside .windows "models/active" (openBundleDir (bareExternals "C:/Windows/win.ini")
        (diskFileSystem .windows (bareRead .windows "C:/Windows/win.ini")) "models/active" () 1).events := by
  refine ⟨bare_opens ?_, bare_opens ?_, bare_opens ?_, bare_opens ?_⟩
  · rintro (proper | ⟨behind, -⟩)
    · exact absurd proper (by decide)
    · exact behind (by decide)
  · rintro (proper | spelled)
    · exact absurd proper (by decide)
    · exact absurd (head_of_spellsChild spelled) (by decide)
  · rintro (proper | ⟨behind, -⟩)
    · exact absurd proper (by decide)
    · exact behind (by decide)
  · rintro (proper | spelled)
    · exact absurd proper (by decide)
    · exact absurd (head_of_spellsChild spelled) (by decide)

end BundleConfinement

end KavachNpu

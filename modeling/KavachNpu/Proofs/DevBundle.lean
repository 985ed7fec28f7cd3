/-
Module: KavachNpu.Proofs.DevBundle
Layer: Proofs
Purpose: The development bundle. The command succeeds exactly if it can write its files: it never refuses its
  own output. The bundle and both forms of its public key keep verifying over any later calls that write
  none of its files, up to the generation of its manifest, and a daemon with that key is active with it. The
  daemon's own key is another one: it takes the bundle only if it verifies the signature made with the
  generated key.
Trusted boundary: none
Main exports: PackTool.devManifest, PackTool.ParsesDevManifest, PackTool.dev_bundle_of_history
-/
import KavachNpu.Proofs.PackHistory

namespace KavachNpu.PackTool

/-- The manifest that the text of a development bundle describes. -/
def devManifest (onnxSha256 : String) : ModelManifest where
  artifactVersion := ⟨1, 0⟩
  bundleVersion := "0.1.0-dev"
  rollbackGeneration := 1
  createdAt := "2026-09-23T00:00:00Z"
  keyId := "reference-model-2026-b"
  onnx := ⟨"kavach_multitask_int8.onnx", onnxSha256, 21, "int8_qdq"⟩
  tensors :=
    [⟨"io_input", "input", "int8", [1, 10, 4]⟩, ⟨"io_score", "output", "float32", [1, 1]⟩,
      ⟨"net_input", "input", "int8", [1, 32, 4]⟩, ⟨"net_score", "output", "float32", [1, 1]⟩,
      ⟨"audit_input", "input", "int8", [1, 16, 4]⟩, ⟨"audit_score", "output", "float32", [1, 1]⟩]
  compatibility := ⟨⟨"0.1.0", "0.2.0"⟩, ⟨"1.20.0", "1.22.0"⟩⟩
  evaluationReportSha256 := "0123456789abcdef0123456789abcdef0123456789abcdef0123456789abcdef"
  sbomSha256 := "0123456789abcdef0123456789abcdef0123456789abcdef0123456789abcdef"

section Bundles

variable {SigningKey Key Value : Type} (tools : Tools SigningKey Key Value) (system : System)

/-- The hash of the packed model. -/
def devHash : String :=
  tools.manifest.hexEncode (tools.manifest.sha256 (OnnxBuilder.generateKavachStubOnnx 21)).toList

/-- The bytes of the manifest. -/
def devManifestBytes : List UInt8 :=
  asBytes (devManifestContent (devHash tools))

/-- The signature of the manifest with the key of a seed. -/
def devSignature (seed : Bytes 32) : Bytes 64 :=
  tools.signing.sign (tools.signing.fromBytes seed) (tools.manifest.sha256 (devManifestBytes tools)).toList

/-- The JSON parser reads the manifest and the name of its model. -/
structure ParsesDevManifest : Prop where
  parsed : tools.manifest.fromSlice (devManifestBytes tools) = .ok (devManifest (devHash tools))
  named : ∃ value, tools.manifest.valueFromSlice (devManifestBytes tools) = .ok value ∧
    (tools.manifest.pointer value "/onnx/file").bind tools.manifest.asStr =
      some "kavach_multitask_int8.onnx"

/-- The path of every file of a development bundle, with its content. -/
def devFiles (bundleDir keysDir : String) (seed : Bytes 32) : List (String × List UInt8) :=
  let pubBytes := (tools.toBytes (publicKey tools seed)).toList
  [(join system keysDir "dev_root.key", seed.toList), (join system keysDir "dev_root.pub", pubBytes),
    (join system keysDir "dev_root.pub.hex", asBytes (tools.manifest.hexEncode pubBytes)),
    (join system bundleDir "kavach_multitask_int8.onnx", OnnxBuilder.generateKavachStubOnnx 21),
    (join system bundleDir "manifest.json", devManifestBytes tools),
    (join system bundleDir "manifest.sig", asBytes (signatureText tools seed (devManifestBytes tools)))]

/-- The disk holds the development bundle of a seed. -/
def HoldsBundle (files : Files) (bundleDir keysDir : String) (seed : Bytes 32) : Prop :=
  ∀ entry ∈ devFiles tools system bundleDir keysDir seed, files (system.place entry.1) = .ok entry.2

variable {tools system}

/-- The files of the bundle are the files that the command can write. -/
theorem map_place_devFiles (args : List String) (seed : Bytes 32) (answers : Answers) :
    (devFiles tools system ((parseArg args "--bundle-dir").getD "models/active")
        ((parseArg args "--keys-dir").getD "keys") seed).map (fun entry => system.place entry.1) =
      writes system ⟨"init-dev" :: args, seed, answers⟩ :=
  rfl

theorem writesAll_writeDevBundle {answers : Answers} (bundleDir keysDir : String) (seed : Bytes 32) :
    WritesAll system answers (writeDevBundle tools system answers bundleDir keysDir seed)
      [bundleDir, keysDir] (devFiles tools system bundleDir keysDir seed) := by
  unfold writeDevBundle
  refine WritesAll.createDirAll ?_ _ _
  refine WritesAll.createDirAll ?_ _ _
  refine WritesAll.writeFile ?_ _ _ _
  refine WritesAll.writeFile ?_ _ _ _
  refine WritesAll.writeFile ?_ _ _ _
  refine WritesAll.writeFile ?_ _ _ _
  refine WritesAll.writeFile ?_ _ _ _
  exact writesAll_writeFile _ _ _

section Held

variable {files : Files} {bundleDir keysDir : String} {seed : Bytes 32}

theorem HoldsBundle.signed (held : HoldsBundle tools system files bundleDir keysDir seed) :
    Signed tools system files bundleDir seed (devManifestBytes tools) := by
  simp only [HoldsBundle, devFiles, List.forall_mem_cons] at held
  obtain ⟨-, -, -, -, manifest, signature, -⟩ := held
  exact ⟨manifest, signature⟩

/-- The secret key file holds the seed, and both public ones the public bytes. -/
theorem HoldsBundle.keys (hex : LawfulHex tools)
    (held : HoldsBundle tools system files bundleDir keysDir seed) :
    (∃ data, files (system.place (join system keysDir "dev_root.key")) = .ok data ∧ HoldsKey data seed) ∧
      ∀ pubName ∈ ["dev_root.pub", "dev_root.pub.hex"],
        ∃ data, files (system.place (join system keysDir pubName)) = .ok data ∧
          HoldsKey data (tools.toBytes (publicKey tools seed)) := by
  simp only [HoldsBundle, devFiles, List.forall_mem_cons] at held
  obtain ⟨secret, raw, hexText, -⟩ := held
  obtain ⟨rawHeld, hexHeld⟩ := holdsKey_of_written hex (tools.toBytes (publicKey tools seed))
  refine ⟨⟨_, secret, (holdsKey_of_written hex seed).1⟩, fun pubName isPub => ?_⟩
  rcases List.mem_pair.mp isPub with rfl | rfl
  · exact ⟨_, raw, rawHeld⟩
  · exact ⟨_, hexText, hexHeld⟩

theorem toLower_devHash (hex : LawfulHex tools) : (devHash tools).toLower = devHash tools := by
  unfold devHash
  rw [hex.encode]
  exact Hex.toLower_encode _

/-- The bundle is of generation one, and nothing else stands against it. -/
theorem HoldsBundle.loadable_iff (hex : LawfulHex tools) (parses : ParsesDevManifest tools)
    (held : HoldsBundle tools system files bundleDir keysDir seed) {minimum : UInt64} :
    Loadable tools system files bundleDir minimum (devManifestBytes tools)
      (devManifest (devHash tools)) ↔ minimum ≤ 1 := by
  simp only [HoldsBundle, devFiles, List.forall_mem_cons] at held
  obtain ⟨-, -, -, model, -⟩ := held
  obtain ⟨value, isValue, named⟩ := parses.named
  constructor
  · intro loadable
    exact loadable.generation
  · intro generation
    exact ⟨rfl, generation, value, _, _, isValue, named, model, (toLower_devHash hex).symm⟩

end Held

/-- The command succeeds exactly if it can write its files: it never refuses its own bundle. -/
theorem writesAll_createDevBundle (hex : LawfulHex tools) {answers : Answers} {seed : Bytes 32}
    (pair : WorkingPair tools seed) (parses : ParsesDevManifest tools) {bundleDir keysDir : String}
    (different : ((devFiles tools system bundleDir keysDir seed).map
      fun entry => system.place entry.1).Nodup) :
    WritesAll system answers (createDevBundle tools system answers bundleDir keysDir seed)
      [bundleDir, keysDir] (devFiles tools system bundleDir keysDir seed) := by
  have writesAll : WritesAll system answers (writeDevBundle tools system answers bundleDir keysDir seed)
      [bundleDir, keysDir] (devFiles tools system bundleDir keysDir seed) :=
    writesAll_writeDevBundle bundleDir keysDir seed
  intro files after
  rw [← writesAll files after]
  unfold createDevBundle
  rw [Stateful.bind_eq_ok]
  constructor
  · rintro ⟨_, between, written, verified⟩
    obtain ⟨_, _, selfVerified, ended⟩ := Stateful.bind_eq_ok.mp verified
    obtain ⟨-, rfl⟩ := Prod.mk.inj selfVerified
    obtain ⟨-, rfl⟩ := Prod.mk.inj ended
    exact written
  · intro written
    have held : HoldsBundle tools system after bundleDir keysDir seed :=
      fun entry member => writesAll.read different written member
    have verified := (verifyBundleDir_of_signed pair held.signed parses.parsed).mpr
      ⟨rfl, (held.loadable_iff hex parses).mpr (UInt64.le_refl 1)⟩
    unfold publicKey at verified
    refine ⟨(), after, written, ?_⟩
    rw [Stateful.reading_bind, verified]
    rfl

/-- A daemon takes a signed bundle only if its key verifies the signature. -/
theorem verifies_of_active {S : Type} {files : Files} {bundleDir : String} {seed : Bytes 32}
    {M : List UInt8} (signed : Signed tools system files bundleDir seed M) {npuHost : NpuHost S}
    {minimum : UInt64} {keyBytes : Bytes 32} {session : NpuSession} {m : ModelManifest}
    (loaded : NpuSession.fromConfig tools.manifest (fileSystem system files) npuHost ⟨bundleDir, minimum⟩
      keyBytes = .ok session)
    (active : session.state = .active m) :
    ∃ key, tools.manifest.verifyingKeyFromBytes keyBytes = .ok key ∧
      tools.manifest.verifyStrict key (tools.manifest.sha256 M).toList
        (tools.signing.sign (tools.signing.fromBytes seed) (tools.manifest.sha256 M).toList) = .ok () := by
  rcases NpuSession.fromConfig_cases tools.manifest (fileSystem system files) npuHost
      ⟨bundleDir, minimum⟩ keyBytes with ⟨m', isActive, verifies⟩ | ⟨reason, isDegraded, -⟩
  · obtain ⟨key, M', s, O, decoded, bundle, verified⟩ := (verifies m').mpr rfl
    obtain rfl : M = M' := Except.ok.inj (signed.manifest.symm.trans bundle.manifest)
    have sameText : asBytes (signatureText tools seed M) = asBytes s :=
      Except.ok.inj (signed.signature.symm.trans bundle.signature)
    obtain ⟨signature, base64, strict⟩ := verified.signed
    rw [← asBytes_injective sameText, signatureText, decodeBase64_of_rewritten (Rewritten.refl _)] at base64
    rw [Bytes.ext (Except.ok.inj base64)]
    exact ⟨key, decoded, strict⟩
  · rw [loaded] at isDegraded
    cases isDegraded
    cases active

/-- The development bundle over a history. Suppose that its six files are different ones. The command succeeds
    exactly if it can create its directories and write its files. Once it has succeeded, and as long as no
    later call writes one of them, the secret key file loads as the generated key; the tool verifies the
    bundle with either public key file exactly if it asks for no generation above one, and so does a daemon
    with the public key. A daemon with the pinned key is active only if that key verifies the signature of
    the generated one. -/
theorem dev_bundle_of_history {S : Type} (hex : LawfulHex tools) {seed : Bytes 32}
    (pair : WorkingPair tools seed) (parses : ParsesDevManifest tools) (initArgs : List String)
    (answers : Answers) (start : Files) (later : List Invocation)
    (different : (writes system ⟨"init-dev" :: initArgs, seed, answers⟩).Nodup)
    (kept : ∀ call ∈ later, ∀ place ∈ writes system ⟨"init-dev" :: initArgs, seed, answers⟩,
      place ∉ writes system call) (npuHost : NpuHost S) :
    let bundleDir := (parseArg initArgs "--bundle-dir").getD "models/active"
    let keysDir := (parseArg initArgs "--keys-dir").getD "keys"
    let init : Invocation := ⟨"init-dev" :: initArgs, seed, answers⟩
    let last := final (step tools system) start (init :: later)
    ((run tools system init start).1 = .ok () ↔
        Writable answers [bundleDir, keysDir] (devFiles tools system bundleDir keysDir seed)) ∧
      ((run tools system init start).1 = .ok () →
        (∀ signAnswers, loadSigningKey tools.signing (packHost system signAnswers last)
          (join system keysDir "dev_root.key") = .ok (tools.signing.fromBytes seed)) ∧
        (∀ verifyArgs verifySeed verifyAnswers, ∀ pubName ∈ ["dev_root.pub", "dev_root.pub.hex"],
          (parseArg verifyArgs "--bundle").getD "models/active" = bundleDir →
          (parseArg verifyArgs "--pubkey").map system.place =
            some (system.place (join system keysDir pubName)) →
          (run tools system ⟨"verify" :: verifyArgs, verifySeed, verifyAnswers⟩ last = (.ok (), last) ↔
            ((parseArg verifyArgs "--rollback").bind parseU64).getD 1 ≤ 1)) ∧
        ∀ minimum, (NpuSession.fromConfig tools.manifest (fileSystem system last) npuHost
              ⟨bundleDir, minimum⟩ (tools.toBytes (publicKey tools seed)) =
            .ok (NpuSession.newActive npuHost (devManifest (devHash tools))) ↔ minimum ≤ 1) ∧
          ∀ session m, NpuSession.fromConfig tools.manifest (fileSystem system last) npuHost
                ⟨bundleDir, minimum⟩ pinnedReferencePublicKey = .ok session →
            session.state = .active m →
            ∃ key, tools.manifest.verifyingKeyFromBytes pinnedReferencePublicKey = .ok key ∧
              tools.manifest.verifyStrict key (tools.manifest.sha256 (devManifestBytes tools)).toList
                (devSignature tools seed) = .ok ()) := by
  intro bundleDir keysDir init last
  have writesAll : WritesAll system answers (run tools system init) [bundleDir, keysDir]
      (devFiles tools system bundleDir keysDir seed) :=
    writesAll_createDevBundle hex pair parses different
  constructor
  · constructor
    · intro succeeded
      exact ((writesAll start _).mp (Prod.ext succeeded rfl)).1
    · intro writable
      exact congrArg Prod.fst (writesAll.succeeds writable start)
  · intro succeeded
    have held : HoldsBundle tools system last bundleDir keysDir seed := by
      intro entry member
      have written : system.place entry.1 ∈ writes system init := by
        rw [← map_place_devFiles initArgs seed answers]
        exact List.mem_map_of_mem member
      refine (untouched_history tools fun call called => kept call called _ written).trans ?_
      exact writesAll.read different (Prod.ext succeeded rfl) member
    obtain ⟨⟨secret, secretRead, secretHeld⟩, pubs⟩ := held.keys hex
    refine ⟨?_, ?_, ?_⟩
    · intro signAnswers
      exact (loadSigningKey_eq_ok hex).mpr ⟨secret, seed, secretRead, secretHeld, rfl⟩
    · intro verifyArgs verifySeed verifyAnswers pubName isPub bundle pubkey
      obtain ⟨data, read, holds⟩ := pubs pubName isPub
      rw [run_verify_of_signed hex pair held.signed parses.parsed bundle pubkey read holds]
      exact held.loadable_iff hex parses
    · intro minimum
      constructor
      · rw [fromConfig_of_signed pair held.signed parses.parsed]
        exact held.loadable_iff hex parses
      · intro session m loaded active
        exact verifies_of_active held.signed loaded active

end Bundles

/-! ### The bundle of a test key -/

open SignedBundle

def sampleDevHash : String :=
  "485a9f8f7988dcd56fae1e9d7753eb3498d17c075582ac3aff95978c4ca1836d"

/-- The SHA-256 digest of the manifest of a development bundle. -/
def sampleDevDigest : Bytes 32 :=
  ⟨[0x02, 0x2e, 0x16, 0x58, 0xcb, 0x4c, 0x4d, 0x11, 0x33, 0xb3, 0x6e, 0xfc, 0x30, 0xff, 0xc9, 0x57,
    0x86, 0x6d, 0xc2, 0xaf, 0xfb, 0x87, 0x38, 0x6b, 0x16, 0x35, 0xd5, 0xbf, 0x11, 0xa9, 0xc9, 0xfd], rfl⟩

/-- Its signature with the secret key. -/
def sampleDevSignature : Bytes 64 :=
  ⟨[0xd0, 0x5b, 0x44, 0x2e, 0x2b, 0x93, 0xe3, 0x90, 0x99, 0xe2, 0x81, 0x95, 0xd7, 0xd2, 0x57, 0x43,
    0x26, 0x23, 0x4b, 0xc8, 0x6a, 0xee, 0xc2, 0x22, 0x3b, 0xba, 0xce, 0x96, 0x60, 0x9a, 0xeb, 0x90,
    0x3b, 0xfb, 0x4f, 0xa9, 0x67, 0x1e, 0x69, 0x90, 0x7c, 0xa9, 0x01, 0x88, 0x35, 0x31, 0x2a, 0x95,
    0xc1, 0xf2, 0x30, 0xa3, 0x36, 0x5a, 0xc3, 0xaa, 0xdc, 0xf7, 0x84, 0xe2, 0x1e, 0x2c, 0xef, 0x09], rfl⟩

def sampleDevSign (seed : Bytes 32) (digest : List UInt8) : Bytes 64 :=
  if seed = sampleSecret ∧ digest = sampleDevDigest.toList then sampleDevSignature
  else Bytes.replicate 64 0

/-- The third-party functions on the development bundle of the key pair. -/
def sampleDevTools : Tools (Bytes 32) (Bytes 32) String where
  manifest :=
    { sampleTools.manifest with
      fromSlice := fun bytes =>
        if bytes = asBytes (devManifestContent sampleDevHash) then .ok (devManifest sampleDevHash)
        else .error "expected value at line 1 column 1"
      valueFromSlice := fun bytes =>
        if bytes = asBytes (devManifestContent sampleDevHash) then .ok (devManifestContent sampleDevHash)
        else .error "expected value at line 1 column 1"
      pointer := fun value path =>
        if value = devManifestContent sampleDevHash ∧ path = "/onnx/file" then
          some "kavach_multitask_int8.onnx"
        else
          none
      asStr := some
      sha256 := fun bytes =>
        if bytes = asBytes (devManifestContent sampleDevHash) then sampleDevDigest else shippedOnnxDigest
      verifyStrict := fun key digest signature =>
        if key = samplePublic ∧ signature = sampleDevSign sampleSecret digest then .ok ()
        else .error "signature error" }
  signing := { sampleTools.signing with sign := sampleDevSign }
  toBytes := fun key => key

theorem sampleDevTools_hex : LawfulHex sampleDevTools :=
  ⟨sampleTools_hex.encode, sampleTools_hex.decode⟩

theorem sampleDevTools_key : publicKey sampleDevTools sampleSecret = samplePublic := by
  simp only [publicKey, sampleDevTools, sampleTools, sampleSigning, if_true]

theorem sampleDevTools_pair : WorkingPair sampleDevTools sampleSecret where
  decoded := by
    rw [sampleDevTools_key]
    simp only [sampleDevTools, sampleTools, if_true]
  verifies := by
    intro digest
    rw [sampleDevTools_key]
    have seed : sampleDevTools.signing.fromBytes sampleSecret = sampleSecret := rfl
    rw [seed]
    simp only [sampleDevTools, and_self, if_true]

theorem sampleDevTools_hash : devHash sampleDevTools = sampleDevHash := by
  have differ : OnnxBuilder.generateKavachStubOnnx 21 ≠ asBytes (devManifestContent sampleDevHash) := by
    intro same
    have head : (OnnxBuilder.generateKavachStubOnnx 21).head? = some 8 := by decide
    have head' : (asBytes (devManifestContent sampleDevHash)).head? = some 123 := by decide
    rw [same, head'] at head
    cases head
  have digest : sampleDevTools.manifest.sha256 (OnnxBuilder.generateKavachStubOnnx 21) =
      shippedOnnxDigest := by
    simp only [sampleDevTools, if_neg differ]
  rw [devHash, digest]
  decide

theorem sampleDevTools_parses : ParsesDevManifest sampleDevTools := by
  have bytes : devManifestBytes sampleDevTools = asBytes (devManifestContent sampleDevHash) := by
    rw [devManifestBytes, sampleDevTools_hash]
  refine ⟨?_, devManifestContent sampleDevHash, ?_, ?_⟩
  · rw [bytes, sampleDevTools_hash]
    simp only [sampleDevTools, if_true]
  · rw [bytes]
    simp only [sampleDevTools, if_true]
  · simp only [sampleDevTools, and_self, if_true, Option.bind_some]

def sampleInitDev : Invocation :=
  ⟨["init-dev"], sampleSecret, sampleAnswers⟩

/-- Later the manifest is signed once more, into another file. -/
def sampleSignAgain : Invocation :=
  ⟨["sign", "--key", "keys/dev_root.key", "--manifest", "models/active/manifest.json", "--output",
    "./other.sig"], sampleSecret, sampleAnswers⟩

/-- The command in its default directories. A daemon that asks for generation two refuses the bundle. -/
theorem sampleBundle_kept :
    let last := final (step sampleDevTools sampleSystem) sampleFiles [sampleInitDev, sampleSignAgain]
    run sampleDevTools sampleSystem ⟨["verify", "--pubkey", "keys//dev_root.pub.hex"], sampleSecret,
        sampleAnswers⟩ last = (.ok (), last) ∧
      NpuSession.fromConfig sampleDevTools.manifest (fileSystem sampleSystem last) NpuSession.shippedHost
          ⟨"models/active", 2⟩ samplePublic ≠
        .ok (NpuSession.newActive NpuSession.shippedHost (devManifest sampleDevHash)) := by
  have different : (writes sampleSystem sampleInitDev).Nodup := by decide
  have outside : ∀ call ∈ [sampleSignAgain], ∀ place ∈ writes sampleSystem sampleInitDev,
      place ∉ writes sampleSystem call := by
    decide
  obtain ⟨succeeds, kept⟩ := dev_bundle_of_history sampleDevTools_hex sampleDevTools_pair
    sampleDevTools_parses [] sampleAnswers sampleFiles [sampleSignAgain] different outside
    NpuSession.shippedHost
  obtain ⟨-, verifies, daemon⟩ := kept (succeeds.mpr (sampleAnswers_writable _ _))
  have refused := (daemon 2).1.not.mpr (by decide)
  rw [sampleDevTools_key, sampleDevTools_hash] at refused
  refine ⟨?_, refused⟩
  exact (verifies ["--pubkey", "keys//dev_root.pub.hex"] sampleSecret sampleAnswers "dev_root.pub.hex"
    (by decide) rfl (by decide)).mpr (by decide)

end KavachNpu.PackTool

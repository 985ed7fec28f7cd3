/-
Module: KavachNpu.Proofs.SignedBundle
Layer: Proofs
Purpose: Whatever the packaging tool signs, the loader verifies: the text that the signing command writes
  for a manifest is accepted with the manifest and its model, also after a transport that wraps, pads or
  rewrites it. That a signature made with a key verifies under it is assumed.
Trusted boundary: none
Main exports: SignCall, SignedBundle.signed_bundle_verifies
-/
import KavachNpu.Pack.Sign
import KavachNpu.Proofs.Base64Codec
import KavachNpu.Proofs.ModelLoading

namespace KavachNpu

namespace SignedBundle

section Signing

variable {SigningKey Key Value : Type} (externals : ManifestExternals Key Value)
  (signing : SigningExternals SigningKey Key) (host : PackHost)

/-- The signing command is called on a file with the key `sk` and a file with the manifest `M`, and can
    write its output. -/
structure SignCall (args : List String) (sk : SigningKey) (M : List UInt8) (output : String) : Prop where
  key : ∃ file, parseArg args "--key" = some file ∧ loadSigningKey signing host file = .ok sk
  manifest : ∃ file, parseArg args "--manifest" = some file ∧ host.fs.read file = .ok M ∧
    output = (parseArg args "--output").getD
      (host.fs.join ((host.parent file).getD ".") "manifest.sig")
  writable : ∀ content, host.write output content = .ok ()

variable {signing host}

/-- What is signed: a manifest that parses, with the key that was loaded. -/
theorem signManifest_eq_ok {args : List String} {output text : String} :
    signManifest externals signing host args = .ok (output, text) ↔
      ∃ keyFile manifestFile sk M m, parseArg args "--key" = some keyFile ∧
        parseArg args "--manifest" = some manifestFile ∧
        loadSigningKey signing host keyFile = .ok sk ∧ host.fs.read manifestFile = .ok M ∧
        externals.fromSlice M = .ok m ∧
        output = (parseArg args "--output").getD
          (host.fs.join ((host.parent manifestFile).getD ".") "manifest.sig") ∧
        text = encodeBase64 (signing.sign sk (externals.sha256 M).toList).toList := by
  unfold signManifest
  simp only [Outcome.bind_eq_ok, Outcome.okOr_eq_ok, Outcome.ofExcept_eq_ok, Outcome.ok.injEq,
    Prod.mk.injEq]
  constructor
  · rintro ⟨keyFile, key, manifestFile, manifest, sk, loaded, M, read, m, parsed, output, text⟩
    exact ⟨keyFile, manifestFile, sk, M, m, key, manifest, loaded, read, parsed, output.symm, text.symm⟩
  · rintro ⟨keyFile, manifestFile, sk, M, m, key, manifest, loaded, read, parsed, output, text⟩
    exact ⟨keyFile, key, manifestFile, manifest, sk, loaded, M, read, m, parsed, output.symm, text.symm⟩

/-- The command writes the encoded signature of the manifest's digest. -/
theorem cmdSign_of_call {args : List String} {sk : SigningKey} {M : List UInt8} {output : String}
    {m : ModelManifest} (called : SignCall signing host args sk M output)
    (parsed : externals.fromSlice M = .ok m) :
    cmdSign externals signing host args =
      .ok (output, encodeBase64 (signing.sign sk (externals.sha256 M).toList).toList) := by
  obtain ⟨⟨keyFile, keyArg, loaded⟩, ⟨manifestFile, manifestArg, read, outputEq⟩, writable⟩ := called
  have signed := (signManifest_eq_ok externals).mpr
    ⟨keyFile, manifestFile, sk, M, m, keyArg, manifestArg, loaded, read, parsed, outputEq, rfl⟩
  unfold cmdSign
  rw [signed]
  simp only [Outcome.ok_bind, Outcome.ofExcept, writable]

/-- Whatever the packer signs the loader verifies. For every key and every manifest of major version 1 that
    the signing command is called on, every model with the hash the manifest gives, up to case, and every
    minimum the manifest's generation meets: the command succeeds, and the loader accepts the text it
    writes, and every rewriting of it, and returns the manifest. -/
theorem signed_bundle_verifies (args : List String) (sk : SigningKey) (M : List UInt8) (output : String)
    (called : SignCall signing host args sk M output) (m : ModelManifest)
    (parsed : externals.fromSlice M = .ok m) (major : m.artifactVersion.major = 1) (minimum : UInt64)
    (generation : minimum ≤ m.rollbackGeneration) (O : List UInt8)
    (hash : (externals.hexEncode (externals.sha256 O).toList).toLower = m.onnx.sha256.toLower)
    (lowercase : ∀ bytes, (externals.hexEncode bytes).toLower = externals.hexEncode bytes)
    (verifies : externals.verifyStrict (signing.verifyingKey sk) (externals.sha256 M).toList
      (signing.sign sk (externals.sha256 M).toList) = .ok ()) :
    ∃ s, cmdSign externals signing host args = .ok (output, s) ∧
      verifyManifestAndOnnx externals M s O (signing.verifyingKey sk) minimum = .ok m ∧
      ∀ sent, Rewritten s sent →
        verifyManifestAndOnnx externals M sent O (signing.verifyingKey sk) minimum = .ok m := by
  refine ⟨_, cmdSign_of_call externals called parsed, ?_⟩
  have accepted : ∀ sent,
      Rewritten (encodeBase64 (signing.sign sk (externals.sha256 M).toList).toList) sent →
        verifyManifestAndOnnx externals M sent O (signing.verifyingKey sk) minimum = .ok m := by
    intro sent rewritten
    apply verifyManifestAndOnnx_eq_ok.mpr
    refine ⟨parsed, major, generation, ⟨_, decodeBase64_of_rewritten rewritten, verifies⟩, ?_⟩
    rw [← lowercase, hash]
  exact ⟨accepted _ (Rewritten.refl _), accepted⟩

end Signing

/-! ### The shipped manifest under a test key -/

open NpuSession

/-- A secret key. -/
def sampleSecret : Bytes 32 :=
  ⟨[0x9d, 0x61, 0xb1, 0x9d, 0xef, 0xfd, 0x5a, 0x60, 0xba, 0x84, 0x4a, 0xf4, 0x92, 0xec, 0x2c, 0xc4,
    0x44, 0x49, 0xc5, 0x69, 0x7b, 0x32, 0x69, 0x19, 0x70, 0x3b, 0xac, 0x03, 0x1c, 0xae, 0x7f, 0x60], rfl⟩

/-- Its public key. -/
def samplePublic : Bytes 32 :=
  ⟨[0xd7, 0x5a, 0x98, 0x01, 0x82, 0xb1, 0x0a, 0xb7, 0xd5, 0x4b, 0xfe, 0xd3, 0xc9, 0x64, 0x07, 0x3a,
    0x0e, 0xe1, 0x72, 0xf3, 0xda, 0xa6, 0x23, 0x25, 0xaf, 0x02, 0x1a, 0x68, 0xf7, 0x07, 0x51, 0x1a], rfl⟩

/-- The signature of the shipped manifest's digest under it. -/
def sampleSignature : Bytes 64 :=
  ⟨[0x3c, 0xfe, 0x7c, 0xd7, 0x57, 0x11, 0xae, 0x8f, 0xf1, 0x81, 0x92, 0x74, 0x02, 0xc6, 0x6f, 0x5e,
    0xd5, 0x43, 0x44, 0xb8, 0x4e, 0xdc, 0x8a, 0xfb, 0xda, 0x2e, 0x80, 0xe0, 0xc4, 0xf8, 0x02, 0x16,
    0x10, 0xbc, 0x3c, 0x3e, 0xbb, 0xdc, 0xe6, 0x42, 0x76, 0xd4, 0xc6, 0xd5, 0xc0, 0x8e, 0xff, 0x7d,
    0xe7, 0x09, 0xa5, 0xe3, 0x93, 0x51, 0x9c, 0x47, 0xea, 0x90, 0x03, 0x4d, 0xc0, 0xec, 0x37, 0x04], rfl⟩

/-- The third-party functions on the shipped bundle and this key pair. -/
def sampleExternals : ManifestExternals (Bytes 32) String :=
  { shippedExternals with
    verifyStrict := fun key digest signature =>
      if key = samplePublic ∧ digest = shippedManifestDigest.toList ∧ signature = sampleSignature then
        .ok ()
      else
        .error "signature error" }

def sampleSigning : SigningExternals (Bytes 32) (Bytes 32) :=
  { fromBytes := fun seed => seed
    verifyingKey := fun seed => if seed = sampleSecret then samplePublic else Bytes.replicate 32 0
    sign := fun seed digest =>
      if seed = sampleSecret ∧ digest = shippedManifestDigest.toList then sampleSignature
      else Bytes.replicate 64 0
    hexDecode := fun _ => .error "Odd number of digits" }

/-- The shipped bundle and a raw key file, on a disk that can be written. -/
def sampleHost : PackHost :=
  { fs :=
      { shippedFiles with
        read := fun path => if path = "keys/sign.key" then .ok sampleSecret.toList else shippedFiles.read path }
    parent := fun path => if path = "models/active/manifest.json" then some "models/active" else none
    write := fun _ _ => .ok () }

def sampleArgs : List String :=
  ["sign", "--key", "keys/sign.key", "--manifest", "models/active/manifest.json"]

theorem sampleArgs_call : SignCall sampleSigning sampleHost sampleArgs sampleSecret
    (asBytes shippedManifestText) "models/active/manifest.sig" := by
  have key : loadSigningKey sampleSigning sampleHost "keys/sign.key" = .ok sampleSecret := by
    have read : sampleHost.fs.read "keys/sign.key" = .ok sampleSecret.toList := rfl
    unfold loadSigningKey
    simp only [read, Outcome.ofExcept, Outcome.ok_bind, Bytes.length_toList, if_true]
    rfl
  have manifest : sampleHost.fs.read "models/active/manifest.json" = .ok (asBytes shippedManifestText) := by
    unfold sampleHost shippedFiles
    simp
  exact ⟨⟨_, rfl, key⟩, ⟨_, rfl, manifest, by decide +kernel⟩, fun _ => rfl⟩

/-- The signing command signs the shipped manifest with the key, and the loader accepts what it writes. -/
theorem shippedManifest_signed :
    ∃ s, cmdSign sampleExternals sampleSigning sampleHost sampleArgs =
        .ok ("models/active/manifest.sig", s) ∧
      verifyManifestAndOnnx sampleExternals (asBytes shippedManifestText) s shippedOnnx samplePublic 1 =
        .ok shippedManifest ∧
      ∀ sent, Rewritten s sent →
        verifyManifestAndOnnx sampleExternals (asBytes shippedManifestText) sent shippedOnnx samplePublic
          1 = .ok shippedManifest := by
  obtain ⟨parsed, major, _, _, hash⟩ := shippedBundle_verifies
  have parse : sampleExternals.fromSlice = shippedExternals.fromSlice := rfl
  have sha256 : sampleExternals.sha256 = shippedExternals.sha256 := rfl
  have hex : sampleExternals.hexEncode = shippedExternals.hexEncode := rfl
  have lowercase : ∀ bytes, (shippedExternals.hexEncode bytes).toLower = shippedExternals.hexEncode bytes :=
    Hex.toLower_encode
  have digest : sampleExternals.sha256 (asBytes shippedManifestText) = shippedManifestDigest := by
    simp only [sampleExternals, shippedExternals, if_true]
  have key : sampleSigning.verifyingKey sampleSecret = samplePublic := by
    simp only [sampleSigning, if_true]
  have signature : sampleSigning.sign sampleSecret shippedManifestDigest.toList = sampleSignature := by
    simp only [sampleSigning, and_self, if_true]
  rw [← key]
  apply signed_bundle_verifies sampleExternals sampleArgs sampleSecret _ _ sampleArgs_call
  · rw [parse, parsed]
  · exact major
  · decide
  · rw [hex, sha256, lowercase]
    exact hash
  · rw [hex]
    exact lowercase
  · rw [digest, key, signature]
    simp only [sampleExternals, and_self, if_true]

end SignedBundle

end KavachNpu

/-
Module: KavachNpu.Core.Manifest
Layer: Core
Purpose: Verification of a model bundle: the manifest's schema, version and rollback generation, its
  signature, and the hash of the model file. JSON parsing, SHA-256, hex encoding and Ed25519 are
  third-party code and enter as parameters, as does the file system.
Trusted boundary: human-reviewed spec
Main exports: DegradedReason, ModelManifest, ManifestExternals, FileSystem, verifyManifestAndOnnx,
  verifyBundleDir
-/
import KavachNpu.Core.Base64
import KavachNpu.Core.Verdict
import KavachNpu.Foundation.Utf8

namespace KavachNpu

/-- Reasons for the degraded observer mode. -/
inductive DegradedReason where
  | bundleMissing (message : String)
  | manifestSchemaInvalid (message : String)
  | manifestSignatureInvalid (message : String)
  | onnxHashMismatch (expected actual : String)
  | runtimeIncompatible (message : String)
  | rollbackRejected (minimum actual : UInt64)
  | keyRevoked (keyId : String)
deriving DecidableEq

/-- `Display`. -/
def DegradedReason.display : DegradedReason → String
  | .bundleMissing msg => "bundle_missing: " ++ msg
  | .manifestSchemaInvalid msg => "manifest_schema_invalid: " ++ msg
  | .manifestSignatureInvalid msg => "manifest_signature_invalid: " ++ msg
  | .onnxHashMismatch expected actual =>
      "onnx_hash_mismatch: expected " ++ expected ++ ", actual " ++ actual
  | .runtimeIncompatible msg => "runtime_incompatible: " ++ msg
  | .rollbackRejected minimum actual =>
      "rollback_rejected: bundle generation " ++ toString actual ++ " < minimum " ++ toString minimum
  | .keyRevoked keyId => "key_revoked: " ++ keyId

/-- Metadata of the packed model file. -/
structure OnnxMetadata where
  file : String
  sha256 : String
  opset : UInt32
  quantization : String
deriving DecidableEq

/-- Input or output tensor contract. -/
structure TensorContract where
  name : String
  direction : String
  dtype : String
  shape : List UInt64
deriving DecidableEq

/-- A version range, with its minimum and without its maximum. -/
structure SemverRange where
  minInclusive : String
  maxExclusive : String
deriving DecidableEq

/-- Version compatibility requirements. -/
structure CompatibilityMatrix where
  detector : SemverRange
  onnxRuntime : SemverRange
deriving DecidableEq

/-- Model bundle manifest. -/
structure ModelManifest where
  artifactVersion : ArtifactVersion
  bundleVersion : String
  rollbackGeneration : UInt64
  createdAt : String
  keyId : String
  onnx : OnnxMetadata
  tensors : List TensorContract
  compatibility : CompatibilityMatrix
  evaluationReportSha256 : String
  sbomSha256 : String
deriving DecidableEq

/-- The third-party functions of the verification, with their errors as texts. `valueFromSlice` parses
    into a JSON value and `fromSlice` into a manifest. -/
structure ManifestExternals (Key Value : Type) where
  fromSlice : List UInt8 → Except String ModelManifest
  valueFromSlice : List UInt8 → Except String Value
  pointer : Value → String → Option Value
  asStr : Value → Option String
  sha256 : List UInt8 → Bytes 32
  hexEncode : List UInt8 → String
  verifyingKeyFromBytes : Bytes 32 → Except String Key
  verifyStrict : Key → List UInt8 → Bytes 64 → Except String Unit

/-- `Path::join` and the content of every path, or the error of reading it. -/
structure FileSystem where
  join : String → String → String
  read : String → Except String (List UInt8)

/-- `std::fs::read_to_string`. -/
def FileSystem.readToString (fs : FileSystem) (path : String) : Except String String :=
  match fs.read path with
  | .ok bytes =>
      match fromUtf8 bytes with
      | some text => .ok text
      | none => .error "stream did not contain valid UTF-8"
  | .error e => .error e

section Verification

variable {Key Value : Type}

/-- Verifies the manifest's schema, version and generation, its signature and the model's hash. -/
def verifyManifestAndOnnx (externals : ManifestExternals Key Value) (manifestJsonBytes : List UInt8)
    (sigStr : String) (onnxBytes : List UInt8) (verifyingKey : Key) (minRollbackGeneration : UInt64) :
    Outcome DegradedReason ModelManifest := do
  let manifest ← Outcome.ofExcept DegradedReason.manifestSchemaInvalid
    (externals.fromSlice manifestJsonBytes)
  if manifest.artifactVersion.major ≠ 1 then
    .err (.manifestSchemaInvalid
      ("unsupported major version " ++ toString manifest.artifactVersion.major))
  if manifest.rollbackGeneration < minRollbackGeneration then
    .err (.rollbackRejected minRollbackGeneration manifest.rollbackGeneration)
  let manifestDigest := externals.sha256 manifestJsonBytes
  let sigBytes ← Outcome.ofExcept
    (fun e => DegradedReason.manifestSignatureInvalid ("base64 decode: " ++ e))
    (decodeBase64 sigStr)
  if sigBytes.length ≠ 64 then
    .err (.manifestSignatureInvalid
      ("expected 64 signature bytes, got " ++ toString sigBytes.length))
  let signature ← copyFromSlice 64 sigBytes
  Outcome.ofExcept DegradedReason.manifestSignatureInvalid
    (externals.verifyStrict verifyingKey manifestDigest.toList signature)
  let onnxActualHex := externals.hexEncode (externals.sha256 onnxBytes).toList
  -- `to_ascii_lowercase`: Lean's `toLower` changes the ASCII capitals only
  let expectedHex := manifest.onnx.sha256.toLower
  if onnxActualHex ≠ expectedHex then
    .err (.onnxHashMismatch expectedHex onnxActualHex)
  .ok manifest

/-- Verifies a bundle directory with `manifest.json`, `manifest.sig` and the model file. -/
def verifyBundleDir (externals : ManifestExternals Key Value) (fs : FileSystem) (bundleDir : String)
    (verifyingKey : Key) (minRollbackGeneration : UInt64) : Outcome DegradedReason ModelManifest := do
  let missing := fun (path e : String) => DegradedReason.bundleMissing (path ++ ": " ++ e)
  let manifestPath := fs.join bundleDir "manifest.json"
  let sigPath := fs.join bundleDir "manifest.sig"
  let manifestBytes ← Outcome.ofExcept (missing manifestPath) (fs.read manifestPath)
  let sigStr ← Outcome.ofExcept (missing sigPath) (fs.readToString sigPath)
  let manifestMeta ← Outcome.ofExcept DegradedReason.manifestSchemaInvalid
    (externals.valueFromSlice manifestBytes)
  let onnxFileName ← Outcome.okOr (DegradedReason.manifestSchemaInvalid "missing /onnx/file field")
    ((externals.pointer manifestMeta "/onnx/file").bind externals.asStr)
  let onnxPath := fs.join bundleDir onnxFileName
  let onnxBytes ← Outcome.ofExcept (missing onnxPath) (fs.read onnxPath)
  verifyManifestAndOnnx externals manifestBytes sigStr onnxBytes verifyingKey minRollbackGeneration

end Verification

end KavachNpu

/-
Module: KavachNpu.Core.BundleAccess
Layer: Core
Purpose: The files that the verification of a bundle directory opens. `openBundleDir` is `verify_bundle_dir`
  with every path it reads recorded, in order.
Trusted boundary: human-reviewed spec
Main exports: diskFileSystem, openBundleDir
-/
import KavachNpu.Core.Manifest
import KavachNpu.Foundation.HostPath
import KavachNpu.Foundation.Recorded

namespace KavachNpu

/-- The files of a host, with the given contents. -/
def diskFileSystem (host : PathHost) (read : String → Except String (List UInt8)) : FileSystem :=
  { join := pathJoin host
    read := read }

section Opening

variable {Key Value : Type}

open Recorded

/-- `verify_bundle_dir`, with the paths it opens. -/
def openBundleDir (externals : ManifestExternals Key Value) (fs : FileSystem) (bundleDir : String)
    (verifyingKey : Key) (minRollbackGeneration : UInt64) :
    Recorded String DegradedReason ModelManifest := do
  let missing := fun (path e : String) => DegradedReason.bundleMissing (path ++ ": " ++ e)
  let manifestPath := fs.join bundleDir "manifest.json"
  let sigPath := fs.join bundleDir "manifest.sig"
  let manifestBytes ← recording manifestPath
    (Outcome.ofExcept (missing manifestPath) (fs.read manifestPath))
  let sigStr ← recording sigPath (Outcome.ofExcept (missing sigPath) (fs.readToString sigPath))
  let manifestMeta ← silent (Outcome.ofExcept DegradedReason.manifestSchemaInvalid
    (externals.valueFromSlice manifestBytes))
  let onnxFileName ← silent
    (Outcome.okOr (DegradedReason.manifestSchemaInvalid "missing /onnx/file field")
      ((externals.pointer manifestMeta "/onnx/file").bind externals.asStr))
  let onnxPath := fs.join bundleDir onnxFileName
  let onnxBytes ← recording onnxPath (Outcome.ofExcept (missing onnxPath) (fs.read onnxPath))
  silent
    (verifyManifestAndOnnx externals manifestBytes sigStr onnxBytes verifyingKey minRollbackGeneration)

end Opening

end KavachNpu

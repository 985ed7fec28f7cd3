/-
Module: KavachNpu.Core.ShippedBundle
Layer: Core
Purpose: The bundle under `models/active`, byte for byte, with the pinned key and the digests of its files.
Trusted boundary: human-reviewed spec
Main exports: pinnedReferencePublicKey, shippedManifest, shippedSignature, shippedOnnx
-/
import KavachNpu.Core.Manifest

namespace KavachNpu

/-- `PINNED_REFERENCE_PUBLIC_KEY`. -/
def pinnedReferencePublicKey : Bytes 32 :=
  ⟨[0xd8, 0x10, 0x0d, 0xef, 0x84, 0x59, 0xc3, 0xd5, 0x5c, 0x70, 0x98, 0x13, 0x56, 0x6d, 0xc1, 0xc2,
    0x71, 0x8c, 0x02, 0x4a, 0x06, 0x19, 0xa2, 0x36, 0xc5, 0x78, 0xbc, 0xdf, 0x0f, 0x0e, 0xea, 0xaf], rfl⟩

/-- `manifest.json`. -/
def shippedManifestText : String :=
  "\x7b\n  \"artifact_version\": \x7b\n    \"major\": 1,\n    \"minor\": 0\n" ++
  "  \x7d,\n  \"bundle_version\": \"0.1.0-reference\",\n  \"rollback_generation\": 1,\n" ++
  "  \"created_at\": \"2026-09-23T00:00:00Z\",\n  \"key_id\": \"reference-model-2026-b\",\n" ++
  "  \"onnx\": \x7b\n    \"file\": \"kavach_multitask_int8.onnx\",\n    \"sha256\": \"485a9f8f7" ++
  "988dcd56fae1e9d7753eb3498d17c075582ac3aff95978c4ca1836d\",\n    \"opset\": 21,\n" ++
  "    \"quantization\": \"int8_qdq\"\n  \x7d,\n  \"tensors\": [\n    \x7b\n" ++
  "      \"name\": \"io_input\",\n      \"direction\": \"input\",\n      \"dtype\": \"int8\",\n" ++
  "      \"shape\": [1, 10, 4]\n    \x7d,\n    \x7b\n      \"name\": \"io_score\",\n" ++
  "      \"direction\": \"output\",\n      \"dtype\": \"float32\",\n      \"shape\": [1, 1]\n" ++
  "    \x7d,\n    \x7b\n      \"name\": \"net_input\",\n      \"direction\": \"input\",\n" ++
  "      \"dtype\": \"int8\",\n      \"shape\": [1, 32, 4]\n    \x7d,\n    \x7b\n" ++
  "      \"name\": \"net_score\",\n      \"direction\": \"output\",\n      \"dtype\": \"float32" ++
  "\",\n      \"shape\": [1, 1]\n    \x7d,\n    \x7b\n      \"name\": \"audit_input\",\n" ++
  "      \"direction\": \"input\",\n      \"dtype\": \"int8\",\n      \"shape\": [1, 16, 4]\n" ++
  "    \x7d,\n    \x7b\n      \"name\": \"audit_score\",\n      \"direction\": \"output\",\n" ++
  "      \"dtype\": \"float32\",\n      \"shape\": [1, 1]\n    \x7d\n  ],\n" ++
  "  \"compatibility\": \x7b\n    \"detector\": \x7b\n      \"min_inclusive\": \"0.1.0\",\n" ++
  "      \"max_exclusive\": \"0.2.0\"\n    \x7d,\n    \"onnx_runtime\": \x7b\n" ++
  "      \"min_inclusive\": \"1.20.0\",\n      \"max_exclusive\": \"1.22.0\"\n" ++
  "    \x7d\n  \x7d,\n  \"evaluation_report_sha256\": \"0123456789abcdef0123456789abcdef0123456" ++
  "789abcdef0123456789abcdef\",\n  \"sbom_sha256\": \"0123456789abcdef0123456789abcdef012345678" ++
  "9abcdef0123456789abcdef\"\n\x7d\n"

/-- `manifest.sig`. -/
def shippedSignatureText : String :=
  "3DNiRoNTEDY0NsB6oU888ihbTE785ZgrE7GkQxb7dMy6" ++
  "UGlwVf1h5Tk6JjKHf60nHDMuasDD5lhafTeg2JvJDg=="

/-- The decoded signature. -/
def shippedSignature : Bytes 64 :=
  ⟨[0xdc, 0x33, 0x62, 0x46, 0x83, 0x53, 0x10, 0x36, 0x34, 0x36, 0xc0, 0x7a, 0xa1, 0x4f, 0x3c, 0xf2,
    0x28, 0x5b, 0x4c, 0x4e, 0xfc, 0xe5, 0x98, 0x2b, 0x13, 0xb1, 0xa4, 0x43, 0x16, 0xfb, 0x74, 0xcc,
    0xba, 0x50, 0x69, 0x70, 0x55, 0xfd, 0x61, 0xe5, 0x39, 0x3a, 0x26, 0x32, 0x87, 0x7f, 0xad, 0x27,
    0x1c, 0x33, 0x2e, 0x6a, 0xc0, 0xc3, 0xe6, 0x58, 0x5a, 0x7d, 0x37, 0xa0, 0xd8, 0x9b, 0xc9, 0x0e], rfl⟩

/-- `kavach_multitask_int8.onnx`. -/
def shippedOnnx : List UInt8 :=
  [8, 9, 18, 11, 107, 97, 118, 97, 99, 104, 45, 112, 97, 99, 107, 26, 5, 48, 46, 49,
    46, 48, 34, 9, 97, 105, 46, 107, 97, 118, 97, 99, 104, 40, 1, 50, 45, 75, 97, 118,
    97, 99, 104, 45, 78, 80, 85, 32, 77, 117, 108, 116, 105, 116, 97, 115, 107, 32, 73, 78,
    84, 56, 32, 67, 111, 109, 112, 117, 116, 97, 116, 105, 111, 110, 97, 108, 32, 71, 114, 97,
    112, 104, 58, 252, 4, 18, 22, 107, 97, 118, 97, 99, 104, 95, 109, 117, 108, 116, 105, 116,
    97, 115, 107, 95, 103, 114, 97, 112, 104, 42, 38, 75, 97, 118, 97, 99, 104, 32, 77, 117,
    108, 116, 105, 45, 84, 97, 115, 107, 32, 73, 78, 84, 56, 32, 68, 101, 116, 101, 99, 116,
    105, 111, 110, 32, 71, 114, 97, 112, 104, 90, 30, 10, 8, 105, 111, 95, 105, 110, 112, 117,
    116, 18, 18, 10, 16, 8, 3, 18, 12, 10, 2, 8, 1, 10, 2, 8, 10, 10, 2, 8,
    4, 90, 31, 10, 9, 110, 101, 116, 95, 105, 110, 112, 117, 116, 18, 18, 10, 16, 8, 3,
    18, 12, 10, 2, 8, 1, 10, 2, 8, 32, 10, 2, 8, 4, 90, 33, 10, 11, 97, 117,
    100, 105, 116, 95, 105, 110, 112, 117, 116, 18, 18, 10, 16, 8, 3, 18, 12, 10, 2, 8,
    1, 10, 2, 8, 16, 10, 2, 8, 4, 98, 26, 10, 8, 105, 111, 95, 115, 99, 111, 114,
    101, 18, 14, 10, 12, 8, 1, 18, 8, 10, 2, 8, 1, 10, 2, 8, 1, 98, 27, 10,
    9, 110, 101, 116, 95, 115, 99, 111, 114, 101, 18, 14, 10, 12, 8, 1, 18, 8, 10, 2,
    8, 1, 10, 2, 8, 1, 98, 29, 10, 11, 97, 117, 100, 105, 116, 95, 115, 99, 111, 114,
    101, 18, 14, 10, 12, 8, 1, 18, 8, 10, 2, 8, 1, 10, 2, 8, 1, 10, 51, 10,
    8, 105, 111, 95, 105, 110, 112, 117, 116, 18, 8, 105, 111, 95, 102, 108, 111, 97, 116, 26,
    12, 110, 111, 100, 101, 95, 105, 111, 95, 99, 97, 115, 116, 34, 4, 67, 97, 115, 116, 42,
    9, 10, 2, 116, 111, 16, 1, 160, 1, 2, 10, 65, 10, 8, 105, 111, 95, 102, 108, 111,
    97, 116, 18, 8, 105, 111, 95, 115, 99, 111, 114, 101, 26, 14, 110, 111, 100, 101, 95, 105,
    111, 95, 114, 101, 100, 117, 99, 101, 34, 10, 82, 101, 100, 117, 99, 101, 77, 101, 97, 110,
    42, 15, 10, 8, 107, 101, 101, 112, 100, 105, 109, 115, 16, 1, 160, 1, 2, 10, 54, 10,
    9, 110, 101, 116, 95, 105, 110, 112, 117, 116, 18, 9, 110, 101, 116, 95, 102, 108, 111, 97,
    116, 26, 13, 110, 111, 100, 101, 95, 110, 101, 116, 95, 99, 97, 115, 116, 34, 4, 67, 97,
    115, 116, 42, 9, 10, 2, 116, 111, 16, 1, 160, 1, 2, 10, 68, 10, 9, 110, 101, 116,
    95, 102, 108, 111, 97, 116, 18, 9, 110, 101, 116, 95, 115, 99, 111, 114, 101, 26, 15, 110,
    111, 100, 101, 95, 110, 101, 116, 95, 114, 101, 100, 117, 99, 101, 34, 10, 82, 101, 100, 117,
    99, 101, 77, 101, 97, 110, 42, 15, 10, 8, 107, 101, 101, 112, 100, 105, 109, 115, 16, 1,
    160, 1, 2, 10, 60, 10, 11, 97, 117, 100, 105, 116, 95, 105, 110, 112, 117, 116, 18, 11,
    97, 117, 100, 105, 116, 95, 102, 108, 111, 97, 116, 26, 15, 110, 111, 100, 101, 95, 97, 117,
    100, 105, 116, 95, 99, 97, 115, 116, 34, 4, 67, 97, 115, 116, 42, 9, 10, 2, 116, 111,
    16, 1, 160, 1, 2, 10, 74, 10, 11, 97, 117, 100, 105, 116, 95, 102, 108, 111, 97, 116,
    18, 11, 97, 117, 100, 105, 116, 95, 115, 99, 111, 114, 101, 26, 17, 110, 111, 100, 101, 95,
    97, 117, 100, 105, 116, 95, 114, 101, 100, 117, 99, 101, 34, 10, 82, 101, 100, 117, 99, 101,
    77, 101, 97, 110, 42, 15, 10, 8, 107, 101, 101, 112, 100, 105, 109, 115, 16, 1, 160, 1,
    2, 66, 4, 10, 0, 16, 21]

/-- The SHA-256 digest of the manifest. -/
def shippedManifestDigest : Bytes 32 :=
  ⟨[0x69, 0x01, 0x57, 0xaa, 0xe6, 0x8c, 0x04, 0x8d, 0xcc, 0x97, 0xb6, 0x5b, 0x51, 0xab, 0xe0, 0xbd,
    0x18, 0x97, 0xa6, 0x10, 0xc3, 0x25, 0x75, 0x0d, 0x03, 0x60, 0x45, 0x84, 0x79, 0x8c, 0xe4, 0x45], rfl⟩

/-- The SHA-256 digest of the model. -/
def shippedOnnxDigest : Bytes 32 :=
  ⟨[0x48, 0x5a, 0x9f, 0x8f, 0x79, 0x88, 0xdc, 0xd5, 0x6f, 0xae, 0x1e, 0x9d, 0x77, 0x53, 0xeb, 0x34,
    0x98, 0xd1, 0x7c, 0x07, 0x55, 0x82, 0xac, 0x3a, 0xff, 0x95, 0x97, 0x8c, 0x4c, 0xa1, 0x83, 0x6d], rfl⟩

/-- The manifest that `manifest.json` parses to. -/
def shippedManifest : ModelManifest :=
  let contract := fun name direction dtype shape =>
    { name := name, direction := direction, dtype := dtype, shape := shape : TensorContract }
  let placeholder := "0123456789abcdef0123456789abcdef0123456789abcdef0123456789abcdef"
  { artifactVersion := { major := 1, minor := 0 }
    bundleVersion := "0.1.0-reference"
    rollbackGeneration := 1
    createdAt := "2026-09-23T00:00:00Z"
    keyId := "reference-model-2026-b"
    onnx :=
      { file := "kavach_multitask_int8.onnx"
        sha256 := "485a9f8f7988dcd56fae1e9d7753eb3498d17c075582ac3aff95978c4ca1836d"
        opset := 21
        quantization := "int8_qdq" }
    tensors :=
      [contract "io_input" "input" "int8" [1, 10, 4], contract "io_score" "output" "float32" [1, 1],
        contract "net_input" "input" "int8" [1, 32, 4], contract "net_score" "output" "float32" [1, 1],
        contract "audit_input" "input" "int8" [1, 16, 4],
        contract "audit_score" "output" "float32" [1, 1]]
    compatibility :=
      { detector := { minInclusive := "0.1.0", maxExclusive := "0.2.0" }
        onnxRuntime := { minInclusive := "1.20.0", maxExclusive := "1.22.0" } }
    evaluationReportSha256 := placeholder
    sbomSha256 := placeholder }

end KavachNpu

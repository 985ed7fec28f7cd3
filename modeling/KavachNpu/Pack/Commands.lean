/-
Module: KavachNpu.Pack.Commands
Layer: Pack
Purpose: The commands of the packaging tool, over the files they read and write. A path leads to a file, and
  different paths may lead to the same one. A command that fails keeps what it has written; a write that
  fails leaves its file in any state. The random generator enters as the seed it draws; the file system,
  Ed25519, hex and JSON are third-party code and enter as parameters. What the commands print is left out.
Trusted boundary: human-reviewed spec
Main exports: PackTool.Place, PackTool.Files, PackTool.System, PackTool.Answers, PackTool.Tools,
  PackTool.loadVerifyingKey, PackTool.cmdKeygen, PackTool.cmdSign, PackTool.cmdVerify,
  PackTool.createDevBundle, PackTool.run
-/
import KavachNpu.Core.BundleAccess
import KavachNpu.Core.ShippedBundle
import KavachNpu.Foundation.Stateful
import KavachNpu.Pack.OnnxBuilder
import KavachNpu.Pack.Sign
import Mathlib.Algebra.Group.Nat.Even

namespace KavachNpu.PackTool

/-- Where a file is. -/
structure Place where
  name : String
deriving DecidableEq

/-- The content of every file, or the error of reading it. -/
abbrev Files := Place → Except String (List UInt8)

/-- The files after one of them has got another content. -/
def Files.put (files : Files) (place : Place) (content : Except String (List UInt8)) : Files :=
  fun other => if other = place then content else files other

/-- The host: `Path::join`, `Path::parent`, and the file that a path leads to. Other spellings of a path,
    other cases of its letters and links may lead to the same file. The tool makes no links, so a path leads
    to the same file in every call. -/
structure System where
  pathHost : PathHost
  parent : String → Option String
  place : String → Place

/-- What the file system answers to one call of the tool: whether directories and files can be written, and
    what a write that fails leaves. Creating directories changes no file. -/
structure Answers where
  createDirAll : String → Except String Unit
  write : String → List UInt8 → Except String Unit
  leftBehind : String → List UInt8 → Except String (List UInt8)

/-- The third-party functions; `toBytes` is `VerifyingKey::to_bytes`. -/
structure Tools (SigningKey Key Value : Type) where
  manifest : ManifestExternals Key Value
  signing : SigningExternals SigningKey Key
  toBytes : Key → Bytes 32

/-- A command of the tool. -/
abbrev Command (α : Type) := Stateful Files String α

/-! ### Files -/

section Files

variable (system : System) (answers : Answers)

/-- The files as the loader sees them. -/
def fileSystem (files : Files) : FileSystem :=
  diskFileSystem system.pathHost fun path => files (system.place path)

/-- The files as the signing command sees them. -/
def packHost (files : Files) : PackHost :=
  ⟨fileSystem system files, system.parent, answers.write⟩

/-- `Path::join`. -/
def join (dir name : String) : String :=
  pathJoin system.pathHost dir name

/-- `fs::create_dir_all`. -/
def createDirAll (dir : String) (context : String → String) : Command Unit :=
  Stateful.reading fun _ => Outcome.ofExcept context (answers.createDirAll dir)

/-- Creates the directory of a path, if it names one. -/
def createParentDir (path : String) (context : String → String) : Command Unit :=
  match system.parent path with
  | some parent => createDirAll answers parent context
  | none => pure ()

/-- `fs::write`. -/
def writeFile (path : String) (content : List UInt8) (context : String → String) : Command Unit :=
  fun files =>
    match answers.write path content with
    | .ok () => (.ok (), files.put (system.place path) (.ok content))
    | .error e => (.err (context e), files.put (system.place path) (answers.leftBehind path content))

end Files

/-! ### Numbers -/

/-- Decimal digits. -/
def parseDigits (chars : List Char) : Option Nat :=
  if chars ≠ [] ∧ chars.all Char.isDigit then
    some (chars.foldl (fun n c => 10 * n + (c.toNat - 48)) 0)
  else
    none

/-- `str::parse::<u64>`. -/
def parseU64 (text : String) : Option UInt64 :=
  let digits := match text.toList with
    | '+' :: rest => rest
    | chars => chars
  (parseDigits digits).bind fun n => if n < 2 ^ 64 then some (UInt64.ofNat n) else none

/-- `str::parse::<i64>`. -/
def parseI64 (text : String) : Option Int64 :=
  match text.toList with
  | '-' :: rest => (parseDigits rest).bind fun n => if n ≤ 2 ^ 63 then some (Int64.ofInt (-n)) else none
  | '+' :: rest => (parseDigits rest).bind fun n => if n < 2 ^ 63 then some (Int64.ofNat n) else none
  | chars => (parseDigits chars).bind fun n => if n < 2 ^ 63 then some (Int64.ofNat n) else none

/-! ### Keys -/

section Commands

variable {SigningKey Key Value : Type} (tools : Tools SigningKey Key Value) (system : System)
  (answers : Answers)

/-- The bytes of a key file: 32 raw bytes or 64 hex characters. -/
def keyFileBytes (hexContext refused : String) (data : List UInt8) : Outcome String (Bytes 32) :=
  if data.length = 32 then
    copyFromSlice 32 data
  else
    match fromUtf8 data with
    | none => .err refused
    | some text =>
        let clean := String.ofList (trim text.toList)
        if (asBytes clean).length = 64 then do
          let bytes ← Outcome.ofExcept (fun e => hexContext ++ e) (tools.signing.hexDecode clean)
          copyFromSlice 32 bytes
        else
          .err refused

/-- The built-in key, whose `expect` panics if its bytes are no key. -/
def pinnedReferenceVerifyingKey : Outcome String Key :=
  match tools.manifest.verifyingKeyFromBytes pinnedReferencePublicKey with
  | .ok key => .ok key
  | .error _ => .panicked .unwrapOnNone

/-- Reads a verifying key from the given file, or takes the built-in one. -/
def loadVerifyingKey (read : String → Except String (List UInt8)) (path : Option String) :
    Outcome String Key :=
  match path with
  | some p => do
      let data ← Outcome.ofExcept (fun e => "read pubkey " ++ p ++ ": " ++ e) (read p)
      let arr ← keyFileBytes tools "hex decode pubkey: "
        ("pubkey " ++ p ++ " must be 32 raw bytes or 64 hex characters (found " ++
          toString data.length ++ " bytes)") data
      Outcome.ofExcept (fun e => "invalid ed25519 verifying key: " ++ e)
        (tools.manifest.verifyingKeyFromBytes arr)
  | none => pinnedReferenceVerifyingKey tools

/-! ### Commands -/

/-- Generates a key pair and writes each key raw and in hex. -/
def cmdKeygen (args : List String) (seed : Bytes 32) : Command Unit := do
  let outDir := (parseArg args "--output").getD "keys"
  let verifyingKey := tools.signing.verifyingKey (tools.signing.fromBytes seed)
  let pubBytes := (tools.toBytes verifyingKey).toList
  let privBytes := seed.toList
  createDirAll answers outDir fun e => "failed to create dir " ++ outDir ++ ": " ++ e
  let privPath := join system outDir "sign.key"
  let privHexPath := join system outDir "sign.key.hex"
  let pubPath := join system outDir "pub.key"
  let pubHexPath := join system outDir "pub.key.hex"
  writeFile system answers privPath privBytes fun e => "write " ++ privPath ++ ": " ++ e
  writeFile system answers privHexPath (asBytes (tools.manifest.hexEncode privBytes))
    fun e => "write " ++ privHexPath ++ ": " ++ e
  writeFile system answers pubPath pubBytes fun e => "write " ++ pubPath ++ ": " ++ e
  writeFile system answers pubHexPath (asBytes (tools.manifest.hexEncode pubBytes))
    fun e => "write " ++ pubHexPath ++ ": " ++ e

/-- Writes the stub model. -/
def cmdStubOnnx (args : List String) : Command Unit := do
  let outFile := (parseArg args "--output").getD "models/active/kavach_multitask_int8.onnx"
  let opset := ((parseArg args "--opset").bind parseI64).getD 21
  let onnxBytes := OnnxBuilder.generateKavachStubOnnx opset
  createParentDir system answers outFile fun e => "failed to create parent dir for " ++ outFile ++ ": " ++ e
  writeFile system answers outFile onnxBytes fun e => "write " ++ outFile ++ ": " ++ e

/-- Signs a manifest and writes the signature. -/
def cmdSign (args : List String) : Command Unit := do
  let (outputFile, sigB64) ← Stateful.reading fun files =>
    signManifest tools.manifest tools.signing (packHost system answers files) args
  writeFile system answers outputFile (asBytes sigB64) fun e => "write " ++ outputFile ++ ": " ++ e

/-- Verifies a bundle directory. -/
def cmdVerify (args : List String) : Command Unit := do
  let bundleDir := (parseArg args "--bundle").getD "models/active"
  let pubkeyFile := parseArg args "--pubkey"
  let minRollback := ((parseArg args "--rollback").bind parseU64).getD 1
  let verifyingKey ← Stateful.reading fun files =>
    loadVerifyingKey tools (fileSystem system files).read pubkeyFile
  let _ ← Stateful.reading fun files =>
    (verifyBundleDir tools.manifest (fileSystem system files) bundleDir verifyingKey minRollback).mapErr
      DegradedReason.display
  pure ()

/-! ### Development bundles -/

/-- The manifest of a development bundle, for the hash of its model. -/
def devManifestContent (onnxSha256 : String) : String :=
  "\x7b\n  \"artifact_version\": \x7b\n    \"major\": 1,\n    \"minor\": 0\n  \x7d,\n" ++
    "  \"bundle_version\": \"0.1.0-dev\",\n  \"rollback_generation\": 1,\n" ++
    "  \"created_at\": \"2026-09-23T00:00:00Z\",\n  \"key_id\": \"reference-model-2026-b\",\n" ++
    "  \"onnx\": \x7b\n    \"file\": \"kavach_multitask_int8.onnx\",\n    \"sha256\": \"" ++
    onnxSha256 ++
    "\",\n    \"opset\": 21,\n    \"quantization\": \"int8_qdq\"\n  \x7d,\n  \"tensors\": [\n" ++
    "    \x7b\n      \"name\": \"io_input\",\n      \"direction\": \"input\",\n" ++
    "      \"dtype\": \"int8\",\n      \"shape\": [1, 10, 4]\n    \x7d,\n    \x7b\n" ++
    "      \"name\": \"io_score\",\n      \"direction\": \"output\",\n" ++
    "      \"dtype\": \"float32\",\n      \"shape\": [1, 1]\n    \x7d,\n    \x7b\n" ++
    "      \"name\": \"net_input\",\n      \"direction\": \"input\",\n" ++
    "      \"dtype\": \"int8\",\n      \"shape\": [1, 32, 4]\n    \x7d,\n    \x7b\n" ++
    "      \"name\": \"net_score\",\n      \"direction\": \"output\",\n" ++
    "      \"dtype\": \"float32\",\n      \"shape\": [1, 1]\n    \x7d,\n    \x7b\n" ++
    "      \"name\": \"audit_input\",\n      \"direction\": \"input\",\n" ++
    "      \"dtype\": \"int8\",\n      \"shape\": [1, 16, 4]\n    \x7d,\n    \x7b\n" ++
    "      \"name\": \"audit_score\",\n      \"direction\": \"output\",\n" ++
    "      \"dtype\": \"float32\",\n      \"shape\": [1, 1]\n    \x7d\n  ],\n" ++
    "  \"compatibility\": \x7b\n    \"detector\": \x7b\n      \"min_inclusive\": \"0.1.0\",\n" ++
    "      \"max_exclusive\": \"0.2.0\"\n    \x7d,\n    \"onnx_runtime\": \x7b\n" ++
    "      \"min_inclusive\": \"1.20.0\",\n      \"max_exclusive\": \"1.22.0\"\n    \x7d\n" ++
    "  \x7d,\n" ++
    "  \"evaluation_report_sha256\": \"0123456789abcdef0123456789abcdef" ++
    "0123456789abcdef0123456789abcdef\",\n" ++
    "  \"sbom_sha256\": \"0123456789abcdef0123456789abcdef0123456789abcdef0123456789abcdef\"\n" ++
    "\x7d"

/-- The first four steps of `create_dev_bundle`: keys, the stub model, its manifest and the signature. -/
def writeDevBundle (bundleDir keysDir : String) (seed : Bytes 32) : Command Unit := do
  createDirAll answers bundleDir fun e => "failed to create dir " ++ bundleDir ++ ": " ++ e
  createDirAll answers keysDir fun e => "failed to create dir " ++ keysDir ++ ": " ++ e
  let signingKey := tools.signing.fromBytes seed
  let verifyingKey := tools.signing.verifyingKey signingKey
  let privBytes := seed.toList
  let pubBytes := (tools.toBytes verifyingKey).toList
  writeFile system answers (join system keysDir "dev_root.key") privBytes
    fun e => "write dev_root.key: " ++ e
  writeFile system answers (join system keysDir "dev_root.pub") pubBytes
    fun e => "write dev_root.pub: " ++ e
  writeFile system answers (join system keysDir "dev_root.pub.hex")
    (asBytes (tools.manifest.hexEncode pubBytes)) fun e => "write dev_root.pub.hex: " ++ e
  let onnxBytes := OnnxBuilder.generateKavachStubOnnx 21
  let onnxFile := join system bundleDir "kavach_multitask_int8.onnx"
  writeFile system answers onnxFile onnxBytes fun e => "write " ++ onnxFile ++ ": " ++ e
  let onnxSha256 := tools.manifest.hexEncode (tools.manifest.sha256 onnxBytes).toList
  let manifestContent := devManifestContent onnxSha256
  let manifestFile := join system bundleDir "manifest.json"
  writeFile system answers manifestFile (asBytes manifestContent)
    fun e => "write " ++ manifestFile ++ ": " ++ e
  let manifestDigest := tools.manifest.sha256 (asBytes manifestContent)
  let sig := tools.signing.sign signingKey manifestDigest.toList
  let sigB64 := encodeBase64 sig.toList
  let sigFile := join system bundleDir "manifest.sig"
  writeFile system answers sigFile (asBytes sigB64) fun e => "write " ++ sigFile ++ ": " ++ e

/-- Writes a development bundle and verifies what it has written. -/
def createDevBundle (bundleDir keysDir : String) (seed : Bytes 32) : Command Unit := do
  let verifyingKey := tools.signing.verifyingKey (tools.signing.fromBytes seed)
  writeDevBundle tools system answers bundleDir keysDir seed
  let _ ← Stateful.reading fun files =>
    (verifyBundleDir tools.manifest (fileSystem system files) bundleDir verifyingKey 1).mapErr
      fun e => "self-verification of generated bundle failed: " ++ e.display
  pure ()

/-- Generates a development bundle in the given directories. -/
def cmdInitDev (args : List String) (seed : Bytes 32) : Command Unit :=
  createDevBundle tools system answers ((parseArg args "--bundle-dir").getD "models/active")
    ((parseArg args "--keys-dir").getD "keys") seed

/-! ### The tool -/

/-- A call of the tool: its arguments, the seed that the random generator would draw, and what the file system
    answers. -/
structure Invocation where
  args : List String
  seed : Bytes 32
  answers : Answers

/-- `main`, behind the name of the program. -/
def run (call : Invocation) : Command Unit :=
  match call.args with
  | [] => pure ()
  | "keygen" :: args => cmdKeygen tools system call.answers args call.seed
  | "stub-onnx" :: args => cmdStubOnnx system call.answers args
  | "sign" :: args => cmdSign tools system call.answers args
  | "verify" :: args => cmdVerify tools system args
  | "init-dev" :: args => cmdInitDev tools system call.answers args call.seed
  | "--help" :: _ | "-h" :: _ | "help" :: _ => pure ()
  | other :: _ => Stateful.reading fun _ => .err ("unknown subcommand: " ++ other)

end Commands

end KavachNpu.PackTool

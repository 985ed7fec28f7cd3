/-
Module: KavachNpu.Pack.Sign
Layer: Pack
Purpose: The signing command of the packaging tool. Ed25519 and hex decoding are third-party code and enter
  as parameters, as do the file system and the paths; what the command prints is left out.
Trusted boundary: human-reviewed spec
Main exports: parseArg, SigningExternals, PackHost, loadSigningKey, signManifest, cmdSign
-/
import KavachNpu.Core.Manifest

namespace KavachNpu

/-- The argument that follows the first occurrence of the flag. -/
def parseArg (args : List String) (flag : String) : Option String :=
  match args with
  | [] => none
  | [_] => none
  | arg :: next :: rest => if arg = flag then some next else parseArg (next :: rest) flag

/-- The third-party functions of signing. -/
structure SigningExternals (SigningKey Key : Type) where
  fromBytes : Bytes 32 → SigningKey
  verifyingKey : SigningKey → Key
  sign : SigningKey → List UInt8 → Bytes 64
  hexDecode : String → Except String (List UInt8)

/-- The files, `Path::parent`, and whether a file can be written. -/
structure PackHost where
  fs : FileSystem
  parent : String → Option String
  write : String → List UInt8 → Except String Unit

section Commands

variable {SigningKey Key Value : Type} (externals : ManifestExternals Key Value)
  (signing : SigningExternals SigningKey Key) (host : PackHost)

/-- Reads a signing key, of 32 raw bytes or 64 hex characters. -/
def loadSigningKey (path : String) : Outcome String SigningKey := do
  let data ← Outcome.ofExcept (fun e => "failed to read key file " ++ path ++ ": " ++ e)
    (host.fs.read path)
  if data.length = 32 then
    let arr ← copyFromSlice 32 data
    .ok (signing.fromBytes arr)
  else
    let refused : Outcome String SigningKey :=
      .err ("key file " ++ path ++ " must be 32 raw bytes or 64 hex characters (found " ++
        toString data.length ++ " bytes)")
    match fromUtf8 data with
    | none => refused
    | some text =>
        let clean := String.ofList (trim text.toList)
        if (asBytes clean).length = 64 then do
          let bytes ← Outcome.ofExcept (fun e => "hex decode key: " ++ e) (signing.hexDecode clean)
          let arr ← copyFromSlice 32 bytes
          .ok (signing.fromBytes arr)
        else
          refused

/-- `cmd_sign` up to its write: the file that is to be written, and its text. -/
def signManifest (args : List String) : Outcome String (String × String) := do
  let keyFile ← Outcome.okOr "missing required --key flag" (parseArg args "--key")
  let manifestFile ← Outcome.okOr "missing required --manifest flag" (parseArg args "--manifest")
  let outputFile := (parseArg args "--output").getD
    (host.fs.join ((host.parent manifestFile).getD ".") "manifest.sig")
  let signingKey ← loadSigningKey signing host keyFile
  let manifestBytes ← Outcome.ofExcept (fun e => "read manifest " ++ manifestFile ++ ": " ++ e)
    (host.fs.read manifestFile)
  -- the manifest must parse before it is signed
  let _ ← Outcome.ofExcept (fun e => "manifest validation failed: " ++ e)
    (externals.fromSlice manifestBytes)
  let digest := externals.sha256 manifestBytes
  let signature := signing.sign signingKey digest.toList
  .ok (outputFile, encodeBase64 signature.toList)

/-- Signs a manifest: returns the file that is written and its text. -/
def cmdSign (args : List String) : Outcome String (String × String) := do
  let (outputFile, sigB64) ← signManifest externals signing host args
  Outcome.ofExcept (fun e => "write " ++ outputFile ++ ": " ++ e)
    (host.write outputFile (asBytes sigB64))
  .ok (outputFile, sigB64)

end Commands

end KavachNpu

/-
Module: KavachNpu.Core.Allowlist
Layer: Core
Purpose: The signed allowlist: its parsing, its bounds and its signature check, and the matching of
  targets against its entries. JSON parsing, hex decoding and Ed25519 verification are third-party code
  and enter as parameters.
Trusted boundary: human-reviewed spec
Main exports: AllowlistManifest, AllowlistManifest.parseAndVerify, AllowlistManifest.isExempt
-/
import KavachNpu.Core.Base64
import KavachNpu.Core.Verdict
import KavachNpu.Foundation.Utf8

namespace KavachNpu

/-- `MAX_ALLOWLIST_ENTRIES`. -/
def maxAllowlistEntries : Nat := 4096

/-- `MAX_PATH_SCOPE_ENTRIES`. -/
def maxPathScopeEntries : Nat := 32

/-- `MAX_PATH_LENGTH_BYTES`. -/
def maxPathLengthBytes : Nat := 1024

/-- Errors of allowlist verification. -/
inductive AllowlistError where
  | parseError (message : String)
  | unsupportedMajorVersion (major : UInt16)
  | signatureVerificationFailed (message : String)
  | digestMismatch (expected actual : String)
  | entryCountExceeded (count : Nat)
  | pathScopeExceeded (entryId : String) (count : Nat)
  | pathLengthExceeded (entryId : String) (len : Nat)
  | disallowedAction (entryId action : String)
  | artifactExpired (expiresAt : String)
deriving DecidableEq

/-- Authenticode signature identity of an allowlisted binary. -/
structure AuthenticodeIdentity where
  publisherSubject : String
  thumbprintSha256 : String
deriving DecidableEq

/-- A single allowlist rule entry. -/
structure AllowlistEntry where
  entryId : String
  imageSha256 : String
  authenticode : Option AuthenticodeIdentity
  productName : String
  allowedActions : List String
  pathScope : List String
  expiresAt : String
deriving DecidableEq

/-- Whether the entry matches a live binary target. -/
def AllowlistEntry.matches (entry : AllowlistEntry) (targetImageSha256 : String)
    (targetAuthenticode : Option AuthenticodeIdentity) (targetPath : Option String) : Bool :=
  if ! eqIgnoreAsciiCase entry.imageSha256 targetImageSha256 then
    false
  else
    let signer :=
      match entry.authenticode, targetAuthenticode with
      | none, _ => true
      | some _, none => false
      | some required, some actual =>
          required.publisherSubject == actual.publisherSubject &&
            eqIgnoreAsciiCase required.thumbprintSha256 actual.thumbprintSha256
    let scope :=
      if entry.pathScope.isEmpty then
        true
      else
        match targetPath with
        | none => false
        | some path => entry.pathScope.any fun scope => eqIgnoreAsciiCase scope path
    signer && scope

/-- Signed local allowlist manifest. -/
structure AllowlistManifest where
  artifactVersion : ArtifactVersion
  allowlistId : String
  issuedAt : String
  expiresAt : String
  policyGeneration : UInt64
  signedPayloadSha256 : String
  keyId : String
  entries : List AllowlistEntry
  signature : String
deriving DecidableEq

/-- The third-party functions of the verification: `serde_json::from_slice`, `hex::decode` and
    `VerifyingKey::verify_strict`, with their errors as texts. -/
structure AllowlistExternals (Key : Type) where
  fromSlice : List UInt8 → Except String AllowlistManifest
  hexDecode : String → Except String (List UInt8)
  verifyStrict : Key → List UInt8 → Bytes 64 → Except String Unit

/-- The loop over the paths of an entry. -/
def checkPaths (entryId : String) : List String → Outcome AllowlistError Unit
  | [] => .ok ()
  | path :: rest =>
      let len := (asBytes path).length
      if len > maxPathLengthBytes then
        .err (.pathLengthExceeded entryId len)
      else
        checkPaths entryId rest

/-- The loop over the actions of an entry. -/
def checkActions (entryId : String) : List String → Outcome AllowlistError Unit
  | [] => .ok ()
  | action :: rest =>
      if action ≠ "suspend_and_alert" then
        .err (.disallowedAction entryId action)
      else
        checkActions entryId rest

/-- The loop over the entries. -/
def checkEntries : List AllowlistEntry → Outcome AllowlistError Unit
  | [] => .ok ()
  | entry :: rest => do
      if entry.pathScope.length > maxPathScopeEntries then
        .err (.pathScopeExceeded entry.entryId entry.pathScope.length)
      checkPaths entry.entryId entry.pathScope
      checkActions entry.entryId entry.allowedActions
      checkEntries rest

namespace AllowlistManifest

variable {Key : Type}

/-- Parses a manifest, checks its bounds and verifies its signature. -/
def parseAndVerify (externals : AllowlistExternals Key) (jsonBytes : List UInt8) (verifyingKey : Key) :
    Outcome AllowlistError AllowlistManifest := do
  let manifest ← Outcome.ofExcept AllowlistError.parseError (externals.fromSlice jsonBytes)
  if manifest.artifactVersion.major ≠ 1 then
    .err (.unsupportedMajorVersion manifest.artifactVersion.major)
  if manifest.entries.length > maxAllowlistEntries then
    .err (.entryCountExceeded manifest.entries.length)
  checkEntries manifest.entries
  -- the signature is checked over the decoded digest field; the payload itself is not hashed
  let payloadDigestBytes ← Outcome.ofExcept
    (fun e => .parseError ("signed_payload_sha256 hex: " ++ e))
    (externals.hexDecode manifest.signedPayloadSha256)
  let sigBytes ← Outcome.ofExcept
    (fun e => .signatureVerificationFailed ("base64 decode: " ++ e))
    (decodeBase64 manifest.signature)
  if sigBytes.length ≠ 64 then
    .err (.signatureVerificationFailed
      ("expected 64 signature bytes, got " ++ toString sigBytes.length))
  let signature ← copyFromSlice 64 sigBytes
  Outcome.ofExcept AllowlistError.signatureVerificationFailed
    (externals.verifyStrict verifyingKey payloadDigestBytes signature)
  .ok manifest

/-- Whether a target matches any entry. -/
def isExempt (manifest : AllowlistManifest) (targetImageSha256 : String)
    (targetAuthenticode : Option AuthenticodeIdentity) (targetPath : Option String) : Bool :=
  manifest.entries.any fun entry => entry.matches targetImageSha256 targetAuthenticode targetPath

end AllowlistManifest

end KavachNpu

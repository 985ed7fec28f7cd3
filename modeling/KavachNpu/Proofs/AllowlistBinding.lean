/-
Module: KavachNpu.Proofs.AllowlistBinding
Layer: Proofs
Purpose: What an accepted allowlist is bound to. The signature is verified over the digest field, and the
  digest of the content is never computed, so acceptance depends on the content only through its bounds.
  A key under which anything is accepted therefore binds nothing, and a pair of accepted documents is
  bound only if the missing digest check would have passed on both.
Trusted boundary: none
Main exports: AllowlistManifest.parseAndVerify_eq_ok, AllowlistManifest.Binds,
  AllowlistManifest.DigestBound, AllowlistManifest.parseAndVerify_binds_iff
-/
import KavachNpu.Core.Allowlist

namespace KavachNpu

/-- The bounds on one entry. -/
def AllowlistEntry.InBounds (entry : AllowlistEntry) : Prop :=
  entry.pathScope.length ≤ 32 ∧ (∀ path ∈ entry.pathScope, (asBytes path).length ≤ 1024) ∧
    ∀ action ∈ entry.allowedActions, action = "suspend_and_alert"

theorem checkPaths_eq_ok {entryId : String} {paths : List String} :
    checkPaths entryId paths = .ok () ↔ ∀ path ∈ paths, (asBytes path).length ≤ 1024 := by
  induction paths with
  | nil => simp [checkPaths]
  | cons path rest ih =>
      simp only [checkPaths, Outcome.guard_eq_ok, ih, List.forall_mem_cons, maxPathLengthBytes,
        gt_iff_lt, Nat.not_lt]

theorem checkActions_eq_ok {entryId : String} {actions : List String} :
    checkActions entryId actions = .ok () ↔ ∀ action ∈ actions, action = "suspend_and_alert" := by
  induction actions with
  | nil => simp [checkActions]
  | cons action rest ih =>
      simp only [checkActions, Outcome.guard_eq_ok, ih, List.forall_mem_cons, not_not]

/-- The loop over the entries accepts exactly the entries in bounds. -/
theorem checkEntries_eq_ok {entries : List AllowlistEntry} :
    checkEntries entries = .ok () ↔ ∀ entry ∈ entries, entry.InBounds := by
  induction entries with
  | nil => simp [checkEntries]
  | cons entry rest ih =>
      unfold checkEntries
      simp only [Outcome.err_bind, Outcome.guard_eq_ok, Outcome.bind_eq_ok, ih, List.forall_mem_cons,
        AllowlistEntry.InBounds]
      constructor
      · rintro ⟨count, _, paths, _, actions, bounded⟩
        exact ⟨⟨Nat.not_lt.mp count, checkPaths_eq_ok.mp paths, checkActions_eq_ok.mp actions⟩, bounded⟩
      · rintro ⟨⟨count, paths, actions⟩, bounded⟩
        exact ⟨Nat.not_lt.mpr count, (), checkPaths_eq_ok.mpr paths, (), checkActions_eq_ok.mpr actions,
          bounded⟩

namespace AllowlistManifest

variable {Key : Type}

/-- The fields the signature is meant to authenticate. -/
structure Content where
  artifactVersion : ArtifactVersion
  allowlistId : String
  issuedAt : String
  expiresAt : String
  policyGeneration : UInt64
  keyId : String
  entries : List AllowlistEntry
deriving DecidableEq

/-- The authenticated content of a manifest. -/
def content (m : AllowlistManifest) : Content :=
  { artifactVersion := m.artifactVersion
    allowlistId := m.allowlistId
    issuedAt := m.issuedAt
    expiresAt := m.expiresAt
    policyGeneration := m.policyGeneration
    keyId := m.keyId
    entries := m.entries }

/-- The checks made on the content of a manifest. -/
def InBounds (m : AllowlistManifest) : Prop :=
  m.artifactVersion.major = 1 ∧ m.entries.length ≤ 4096 ∧ ∀ entry ∈ m.entries, entry.InBounds

/-- The signature field is a signature of the digest field under the key. -/
def SignatureVerifies (externals : AllowlistExternals Key) (key : Key) (m : AllowlistManifest) : Prop :=
  ∃ digest signature, externals.hexDecode m.signedPayloadSha256 = .ok digest ∧
    decodeBase64 m.signature = .ok (Bytes.toList signature) ∧
    externals.verifyStrict key digest signature = .ok ()

/-- Acceptance: the document parses, the manifest is in bounds, and its signature field verifies over its
    digest field. -/
theorem parseAndVerify_eq_ok {externals : AllowlistExternals Key} {document : List UInt8} {key : Key}
    {m : AllowlistManifest} :
    parseAndVerify externals document key = .ok m ↔
      externals.fromSlice document = .ok m ∧ m.InBounds ∧ m.SignatureVerifies externals key := by
  unfold parseAndVerify
  simp only [Outcome.err_bind, Outcome.guard_eq_ok, Outcome.bind_eq_ok, Outcome.ofExcept_eq_ok,
    Outcome.ok.injEq]
  constructor
  · rintro ⟨manifest, parsed, major, count, _, bounds, digest, hex, sigBytes, base64, length, signature,
      copied, _, verified, rfl⟩
    rw [copyFromSlice_of_length (not_not.mp length)] at copied
    cases copied
    exact ⟨parsed, ⟨not_not.mp major, Nat.not_lt.mp count, checkEntries_eq_ok.mp bounds⟩, digest, _,
      hex, base64, verified⟩
  · rintro ⟨parsed, ⟨major, count, bounds⟩, digest, signature, hex, base64, verified⟩
    exact ⟨m, parsed, not_not.mpr major, Nat.not_lt.mpr count, (), checkEntries_eq_ok.mpr bounds, digest,
      hex, signature.toList, base64, not_not.mpr signature.length_toList, signature,
      copyFromSlice_of_length signature.length_toList, (), verified, rfl⟩

/-- The signature check reads nothing but the digest and the signature field. -/
theorem signatureVerifies_congr {externals : AllowlistExternals Key} {key : Key}
    {m₁ m₂ : AllowlistManifest} (digest : m₁.signedPayloadSha256 = m₂.signedPayloadSha256)
    (signature : m₁.signature = m₂.signature) :
    m₁.SignatureVerifies externals key ↔ m₂.SignatureVerifies externals key := by
  unfold SignatureVerifies
  rw [digest, signature]

/-- Under the key, accepted documents with equal digest and signature fields have equal content. -/
def Binds (externals : AllowlistExternals Key) (key : Key) : Prop :=
  ∀ document₁ document₂ m₁ m₂, parseAndVerify externals document₁ key = .ok m₁ →
    parseAndVerify externals document₂ key = .ok m₂ →
    m₁.signedPayloadSha256 = m₂.signedPayloadSha256 → m₁.signature = m₂.signature →
    m₁.content = m₂.content

/-- The digest field is the SHA-256 of the manifest's own canonical payload. -/
def DigestBound (externals : AllowlistExternals Key) (sha256 : List UInt8 → Bytes 32)
    (canonicalPayload : Content → List UInt8) (m : AllowlistManifest) : Prop :=
  externals.hexDecode m.signedPayloadSha256 = .ok (sha256 (canonicalPayload m.content)).toList

/-- A JSON document stays one when its `policy_generation` is replaced by 0 or by 1. -/
def Rewritable (externals : AllowlistExternals Key) : Prop :=
  ∀ document m, externals.fromSlice document = .ok m → ∀ generation : UInt64, generation ≤ 1 →
    ∃ document', externals.fromSlice document' = .ok { m with policyGeneration := generation }

/-- Whatever is accepted is also accepted with another policy generation. -/
theorem exists_accepted_other_content {externals : AllowlistExternals Key} {key : Key}
    {document : List UInt8} {m : AllowlistManifest} (rewritable : Rewritable externals)
    (accepted : parseAndVerify externals document key = .ok m) :
    ∃ document' m', parseAndVerify externals document' key = .ok m' ∧
      m'.signedPayloadSha256 = m.signedPayloadSha256 ∧ m'.signature = m.signature ∧
      m'.content ≠ m.content := by
  obtain ⟨parsed, bounds, verifies⟩ := parseAndVerify_eq_ok.mp accepted
  obtain ⟨generation, small, other⟩ : ∃ g : UInt64, g ≤ 1 ∧ g ≠ m.policyGeneration := by
    by_cases zero : m.policyGeneration = 0
    · exact ⟨1, UInt64.le_refl 1, fun same => by rw [zero] at same; cases same⟩
    · exact ⟨0, UInt64.zero_le, fun same => zero same.symm⟩
  obtain ⟨document', reparsed⟩ := rewritable document m parsed generation small
  refine ⟨document', { m with policyGeneration := generation }, ?_, rfl, rfl, ?_⟩
  · exact parseAndVerify_eq_ok.mpr ⟨reparsed, bounds, (signatureVerifies_congr rfl rfl).mp verifies⟩
  · intro same
    exact other (congrArg Content.policyGeneration same)

/-- If one of two documents with equal digest fields is bound to its digest, their contents agree exactly
    when the other is bound to it as well. -/
theorem content_eq_iff_digestBound {externals : AllowlistExternals Key}
    {sha256 : List UInt8 → Bytes 32} {canonicalPayload : Content → List UInt8}
    {m₁ m₂ : AllowlistManifest} (digest : m₁.signedPayloadSha256 = m₂.signedPayloadSha256)
    (noCollision : sha256 (canonicalPayload m₁.content) = sha256 (canonicalPayload m₂.content) →
      m₁.content = m₂.content)
    (one : m₁.DigestBound externals sha256 canonicalPayload ∨
      m₂.DigestBound externals sha256 canonicalPayload) :
    m₁.content = m₂.content ↔
      m₁.DigestBound externals sha256 canonicalPayload ∧
        m₂.DigestBound externals sha256 canonicalPayload := by
  unfold DigestBound at one ⊢
  rw [digest] at one ⊢
  constructor
  · intro same
    rw [same] at one ⊢
    rcases one with bound | bound
    · exact ⟨bound, bound⟩
    · exact ⟨bound, bound⟩
  · rintro ⟨bound₁, bound₂⟩
    rw [bound₁] at bound₂
    exact noCollision (Bytes.ext (Except.ok.inj bound₂))

/-- Exactly when accepted allowlists are bound to their signatures. A key binds the accepted content only
    vacuously: no document in bounds carries a signature that verifies over its own digest field. And of
    two accepted documents with equal digest and signature fields, one of which has the digest of its own
    content, the contents agree exactly when both have: the comparison the verification leaves out. -/
theorem parseAndVerify_binds_iff (externals : AllowlistExternals Key)
    (rewritable : Rewritable externals) (key : Key) :
    (Binds externals key ↔
      ∀ document m, externals.fromSlice document = .ok m → m.InBounds →
        ¬ m.SignatureVerifies externals key) ∧
    (∀ (sha256 : List UInt8 → Bytes 32) (canonicalPayload : Content → List UInt8)
      (document₁ document₂ : List UInt8) (m₁ m₂ : AllowlistManifest),
      parseAndVerify externals document₁ key = .ok m₁ →
      parseAndVerify externals document₂ key = .ok m₂ →
      m₁.signedPayloadSha256 = m₂.signedPayloadSha256 → m₁.signature = m₂.signature →
      (sha256 (canonicalPayload m₁.content) = sha256 (canonicalPayload m₂.content) →
        m₁.content = m₂.content) →
      (m₁.DigestBound externals sha256 canonicalPayload ∨
        m₂.DigestBound externals sha256 canonicalPayload) →
      (m₁.content = m₂.content ↔
        m₁.DigestBound externals sha256 canonicalPayload ∧
          m₂.DigestBound externals sha256 canonicalPayload)) := by
  refine ⟨⟨?_, ?_⟩, ?_⟩
  · intro binds document m parsed bounds verifies
    have accepted := parseAndVerify_eq_ok.mpr ⟨parsed, bounds, verifies⟩
    obtain ⟨document', m', accepted', digest, signature, other⟩ :=
      exists_accepted_other_content rewritable accepted
    exact other (binds document' document m' m accepted' accepted digest signature)
  · intro none document₁ _ m₁ _ accepted _ _ _
    obtain ⟨parsed, bounds, verifies⟩ := parseAndVerify_eq_ok.mp accepted
    exact absurd verifies (none document₁ m₁ parsed bounds)
  · intro sha256 canonicalPayload _ _ m₁ m₂ _ _ digest _ noCollision one
    exact content_eq_iff_digestBound digest noCollision one

/-! ### Concrete documents

The key, the digest and the signature are those of the unit test: the key of the seed with byte 1 equal
to 0x99, the SHA-256 of `canonical-allowlist-payload`, and its Ed25519 signature. -/

/-- The verifying key. -/
def sampleKey : Bytes 32 :=
  ⟨[0x44, 0x61, 0x96, 0x91, 0x6c, 0xae, 0x88, 0xb2, 0xf3, 0xd4, 0xa1, 0x46, 0x87, 0x68, 0xb9, 0x1f,
    0xbd, 0x17, 0x47, 0xcc, 0x2b, 0x1e, 0x92, 0xb5, 0x0b, 0x4b, 0x3a, 0x54, 0x76, 0xa6, 0xed, 0x27], rfl⟩

/-- The signed digest. -/
def sampleDigest : Bytes 32 :=
  ⟨[0x7d, 0xdb, 0x39, 0xf2, 0xc5, 0x67, 0x36, 0x2c, 0x87, 0xfe, 0x4d, 0x54, 0xb9, 0xc0, 0x34, 0x05,
    0x08, 0xd3, 0xdc, 0x11, 0xe8, 0x6d, 0x51, 0x02, 0x53, 0xbb, 0x27, 0xba, 0xc8, 0x4e, 0x5f, 0x6f], rfl⟩

def sampleDigestHex : String :=
  "7ddb39f2c567362c87fe4d54b9c0340508d3dc11e86d510253bb27bac84e5f6f"

/-- The signature of the digest. -/
def sampleSignature : Bytes 64 :=
  ⟨[0x97, 0x2d, 0xa8, 0x25, 0x34, 0x45, 0x2f, 0xb6, 0xad, 0x0a, 0xbe, 0xa3, 0x53, 0x6a, 0x5d, 0x51,
    0x97, 0x75, 0xc5, 0xc6, 0x47, 0x23, 0xa6, 0x22, 0xb2, 0x9b, 0x51, 0xf4, 0x43, 0x9f, 0xf5, 0x28,
    0x41, 0x27, 0x30, 0x18, 0x43, 0x61, 0x16, 0x04, 0xc8, 0x7d, 0x4c, 0xaa, 0x17, 0xcf, 0x05, 0x58,
    0x96, 0x08, 0x10, 0xd4, 0x0f, 0x86, 0x99, 0xc3, 0x04, 0xbc, 0xe9, 0x05, 0x3f, 0x6e, 0xb2, 0x0e], rfl⟩

def sampleSignatureText : String :=
  "ly2oJTRFL7atCr6jU2pdUZd1xcZHI6YisptR9EOf9ShB" ++
  "JzAYQ2EWBMh9TKoXzwVYlggQ1A+GmcMEvOkFP26yDg=="

/-- A document with the sample digest and signature and the given generation and entries. -/
def sampleDocument (generation entries : String) : List UInt8 :=
  asBytes ("\x7b\"artifact_version\":\x7b\"major\":1,\"minor\":0\x7d," ++
    "\"allowlist_id\":\"local-2026q3\",\"issued_at\":\"2026-09-09T00:00:00Z\"," ++
    "\"expires_at\":\"2026-12-31T23:59:59Z\",\"policy_generation\":" ++ generation ++
    ",\"signed_payload_sha256\":\"" ++ sampleDigestHex ++ "\",\"key_id\":\"allowlist-2026-a\"," ++
    "\"entries\":[" ++ entries ++ "],\"signature\":\"" ++ sampleSignatureText ++ "\"\x7d")

/-- The manifest that document parses to. -/
def sampleManifest (generation : UInt64) (entries : List AllowlistEntry) : AllowlistManifest :=
  { artifactVersion := { major := 1, minor := 0 }
    allowlistId := "local-2026q3"
    issuedAt := "2026-09-09T00:00:00Z"
    expiresAt := "2026-12-31T23:59:59Z"
    policyGeneration := generation
    signedPayloadSha256 := sampleDigestHex
    keyId := "allowlist-2026-a"
    entries := entries
    signature := sampleSignatureText }

/-- The third-party functions on finitely many documents, on the sample digest and on the sample
    signature; everything else is refused. -/
def sampleExternals (documents : List (List UInt8 × AllowlistManifest)) :
    AllowlistExternals (Bytes 32) :=
  { fromSlice := fun document =>
      match documents.lookup document with
      | some m => .ok m
      | none => .error "expected value at line 1 column 1"
    hexDecode := fun text =>
      if text = sampleDigestHex then .ok sampleDigest.toList else .error "Odd number of digits"
    verifyStrict := fun key digest signature =>
      if key = sampleKey ∧ digest = sampleDigest.toList ∧ signature = sampleSignature then .ok ()
      else .error "signature error" }

theorem sampleSignatureText_decodes :
    decodeBase64 sampleSignatureText = .ok sampleSignature.toList := by
  decide +kernel

/-- The sample signature verifies over the sample digest, whatever the content. -/
theorem sampleManifest_verifies (documents : List (List UInt8 × AllowlistManifest))
    (generation : UInt64) (entries : List AllowlistEntry) :
    (sampleManifest generation entries).SignatureVerifies (sampleExternals documents) sampleKey := by
  refine ⟨sampleDigest.toList, sampleSignature, ?_, sampleSignatureText_decodes, ?_⟩
  · simp [sampleExternals, sampleManifest]
  · simp [sampleExternals]

/-- The sample document at three policy generations. -/
def sampleGenerations : List (List UInt8 × AllowlistManifest) :=
  [(sampleDocument "7" "", sampleManifest 7 []), (sampleDocument "0" "", sampleManifest 0 []),
    (sampleDocument "1" "", sampleManifest 1 [])]

theorem sampleGenerations_lookup :
    sampleGenerations.lookup (sampleDocument "7" "") = some (sampleManifest 7 []) ∧
    sampleGenerations.lookup (sampleDocument "0" "") = some (sampleManifest 0 []) ∧
    sampleGenerations.lookup (sampleDocument "1" "") = some (sampleManifest 1 []) := by
  refine ⟨List.lookup_cons_self, ?_, ?_⟩
  · decide +kernel
  · decide +kernel

/-- Whatever the sample documents parse to differs from the sample manifest in the generation only. -/
theorem sampleGenerations_parse {document : List UInt8} {m : AllowlistManifest}
    (parsed : (sampleExternals sampleGenerations).fromSlice document = .ok m) :
    ∃ generation, m = sampleManifest generation [] := by
  have found : sampleGenerations.lookup document = some m := by
    simp only [sampleExternals] at parsed
    split at parsed
    · rename_i found
      cases parsed
      exact found
    · cases parsed
  unfold sampleGenerations at found
  rw [List.lookup_cons, List.lookup_cons, List.lookup_cons, List.lookup_nil] at found
  split at found
  · cases found
    exact ⟨7, rfl⟩
  · split at found
    · cases found
      exact ⟨0, rfl⟩
    · split at found
      · cases found
        exact ⟨1, rfl⟩
      · cases found

theorem sampleGenerations_rewritable : Rewritable (sampleExternals sampleGenerations) := by
  intro document m parsed generation small
  obtain ⟨_, zero, one⟩ := sampleGenerations_lookup
  obtain ⟨other, rfl⟩ := sampleGenerations_parse parsed
  have bit : generation = 0 ∨ generation = 1 := by
    have bound := UInt64.le_iff_toNat_le.mp small
    rcases Nat.le_one_iff_eq_zero_or_eq_one.mp bound with value | value
    · exact .inl (UInt64.toNat_inj.mp value)
    · exact .inr (UInt64.toNat_inj.mp value)
  rcases bit with rfl | rfl
  · refine ⟨sampleDocument "0" "", ?_⟩
    simp only [sampleExternals, zero]
    rfl
  · refine ⟨sampleDocument "1" "", ?_⟩
    simp only [sampleExternals, one]
    rfl

/-- The sample key, under which the sample document is accepted, binds nothing. -/
theorem sampleKey_binds_nothing :
    Rewritable (sampleExternals sampleGenerations) ∧
      ¬ Binds (sampleExternals sampleGenerations) sampleKey := by
  refine ⟨sampleGenerations_rewritable, ?_⟩
  intro binds
  have parsed : (sampleExternals sampleGenerations).fromSlice (sampleDocument "7" "") =
      .ok (sampleManifest 7 []) := by
    simp only [sampleExternals, sampleGenerations_lookup.1]
  have inBounds : (sampleManifest 7 []).InBounds := by
    simp [InBounds, sampleManifest]
  exact (parseAndVerify_binds_iff (sampleExternals sampleGenerations) sampleGenerations_rewritable
    sampleKey).1.mp binds _ _ parsed inBounds (sampleManifest_verifies _ 7 [])

/-- An entry that exempts one image from containment. -/
def malwareEntry : AllowlistEntry :=
  { entryId := "x"
    imageSha256 := "ffffffffffffffffffffffffffffffffffffffffffffffffffffffffffffffff"
    authenticode := none
    productName := "x"
    allowedActions := ["suspend_and_alert"]
    pathScope := []
    expiresAt := "2026-12-31T23:59:59Z" }

def malwareEntryText : String :=
  "\x7b\"entry_id\":\"x\",\"image_sha256\":\"" ++
  "ffffffffffffffffffffffffffffffffffffffffffffffffffffffffffffffff" ++
  "\",\"authenticode\":null,\"product_name\":\"x\",\"allowed_actions\":[\"suspend_and_alert\"]," ++
  "\"path_scope\":[],\"expires_at\":\"2026-12-31T23:59:59Z\"\x7d"

/-- The sample document without entries, and the same document with the exemption added. -/
def sampleTampering : List (List UInt8 × AllowlistManifest) :=
  [(sampleDocument "7" "", sampleManifest 7 []),
    (sampleDocument "7" malwareEntryText, sampleManifest 7 [malwareEntry])]

/-- Two documents with one digest and one signature are accepted under one key, and only the second of
    them exempts the image. -/
theorem tampered_document_accepted :
    ¬ Binds (sampleExternals sampleTampering) sampleKey ∧
      (sampleManifest 7 []).isExempt malwareEntry.imageSha256 none none = false ∧
      (sampleManifest 7 [malwareEntry]).isExempt malwareEntry.imageSha256 none none = true := by
  refine ⟨?_, by decide, by decide +kernel⟩
  intro binds
  have genuine : sampleTampering.lookup (sampleDocument "7" "") = some (sampleManifest 7 []) :=
    List.lookup_cons_self
  have tampered : sampleTampering.lookup (sampleDocument "7" malwareEntryText) =
      some (sampleManifest 7 [malwareEntry]) := by
    decide +kernel
  have accepted : parseAndVerify (sampleExternals sampleTampering) (sampleDocument "7" "") sampleKey =
      .ok (sampleManifest 7 []) := by
    refine parseAndVerify_eq_ok.mpr ⟨?_, ?_, sampleManifest_verifies _ 7 []⟩
    · simp only [sampleExternals, genuine]
    · simp [InBounds, sampleManifest]
  have accepted' : parseAndVerify (sampleExternals sampleTampering)
      (sampleDocument "7" malwareEntryText) sampleKey = .ok (sampleManifest 7 [malwareEntry]) := by
    refine parseAndVerify_eq_ok.mpr ⟨?_, ?_, sampleManifest_verifies _ 7 [malwareEntry]⟩
    · simp only [sampleExternals, tampered]
    · simp [InBounds, AllowlistEntry.InBounds, sampleManifest, malwareEntry]
  have same := binds _ _ _ _ accepted accepted' rfl rfl
  exact absurd (congrArg (fun content => content.entries.length) same) (by decide)

end AllowlistManifest

end KavachNpu

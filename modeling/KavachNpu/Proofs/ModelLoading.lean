/-
Module: KavachNpu.Proofs.ModelLoading
Layer: Proofs
Purpose: Loading a model is fail-closed: a session is active exactly if every file of the bundle is there
  and every check on it succeeds, and a session that is not active refuses every evaluation and counts
  none. The engine of an active session, however, is built from the reference model and not from the
  verified file, so the model that scores is the verified one only if the two are the same bytes.
Trusted boundary: none
Main exports: BundleFiles, VerifiedBundle, verifyBundleDir_eq_ok, NpuSession.fromConfig_fail_closed,
  NpuSession.scoring_model_is_verified_iff
-/
import KavachNpu.Core.Npu
import KavachNpu.Core.ShippedBundle
import KavachNpu.Foundation.Hex
import KavachNpu.Foundation.Trace

namespace KavachNpu

section Verification

variable {Key Value : Type}

/-- The bundle directory holds the manifest `M`, the signature text `s`, and under the name the manifest
    gives at `/onnx/file` the model `O`. -/
structure BundleFiles (externals : ManifestExternals Key Value) (fs : FileSystem) (dir : String)
    (M : List UInt8) (s : String) (O : List UInt8) : Prop where
  manifest : fs.read (fs.join dir "manifest.json") = .ok M
  signature : fs.read (fs.join dir "manifest.sig") = .ok (asBytes s)
  onnx : ∃ value name, externals.valueFromSlice M = .ok value ∧
    (externals.pointer value "/onnx/file").bind externals.asStr = some name ∧
    fs.read (fs.join dir name) = .ok O

/-- The manifest `M` parses to `m`, is of a supported version and generation and signed by the key, and `m`
    names the hash of the model `O`. -/
structure VerifiedBundle (externals : ManifestExternals Key Value) (key : Key) (minimum : UInt64)
    (M : List UInt8) (s : String) (O : List UInt8) (m : ModelManifest) : Prop where
  parsed : externals.fromSlice M = .ok m
  major : m.artifactVersion.major = 1
  generation : minimum ≤ m.rollbackGeneration
  signed : ∃ signature : Bytes 64, decodeBase64 s = .ok signature.toList ∧
    externals.verifyStrict key (externals.sha256 M).toList signature = .ok ()
  hash : externals.hexEncode (externals.sha256 O).toList = m.onnx.sha256.toLower

theorem verifyManifestAndOnnx_eq_ok {externals : ManifestExternals Key Value} {M : List UInt8}
    {s : String} {O : List UInt8} {key : Key} {minimum : UInt64} {m : ModelManifest} :
    verifyManifestAndOnnx externals M s O key minimum = .ok m ↔
      VerifiedBundle externals key minimum M s O m := by
  unfold verifyManifestAndOnnx
  simp only [Outcome.err_bind, Outcome.guard_eq_ok, Outcome.bind_eq_ok, Outcome.ofExcept_eq_ok,
    Outcome.ok.injEq]
  constructor
  · rintro ⟨manifest, parsed, major, generation, sigBytes, base64, length, signature, copied, _,
      verified, hash, rfl⟩
    rw [copyFromSlice_of_length (not_not.mp length)] at copied
    cases copied
    exact ⟨parsed, not_not.mp major, UInt64.not_lt.mp generation, ⟨_, base64, verified⟩, not_not.mp hash⟩
  · rintro ⟨parsed, major, generation, ⟨signature, base64, verified⟩, hash⟩
    exact ⟨m, parsed, not_not.mpr major, UInt64.not_lt.mpr generation, signature.toList, base64,
      not_not.mpr signature.length_toList, signature,
      copyFromSlice_of_length signature.length_toList, (), verified, not_not.mpr hash, rfl⟩

theorem readToString_eq_ok {fs : FileSystem} {path text : String} :
    fs.readToString path = .ok text ↔ fs.read path = .ok (asBytes text) := by
  unfold FileSystem.readToString
  cases content : fs.read path with
  | error e => simp
  | ok bytes =>
      simp only [Except.ok.injEq]
      constructor
      · intro decoded
        split at decoded
        · rename_i found
          cases decoded
          exact (fromUtf8_eq_some.mp found).symm
        · cases decoded
      · rintro rfl
        rw [fromUtf8_eq_some.mpr rfl]

/-- A bundle directory verifies exactly if its files are there and pass every check. -/
theorem verifyBundleDir_eq_ok {externals : ManifestExternals Key Value} {fs : FileSystem}
    {dir : String} {key : Key} {minimum : UInt64} {m : ModelManifest} :
    verifyBundleDir externals fs dir key minimum = .ok m ↔
      ∃ M s O, BundleFiles externals fs dir M s O ∧ VerifiedBundle externals key minimum M s O m := by
  unfold verifyBundleDir
  simp only [Outcome.bind_eq_ok, Outcome.ofExcept_eq_ok, Outcome.okOr_eq_ok, readToString_eq_ok,
    verifyManifestAndOnnx_eq_ok]
  constructor
  · rintro ⟨M, manifest, s, signature, value, parsed, name, named, O, onnx, verified⟩
    exact ⟨M, s, O, ⟨manifest, signature, value, name, parsed, named, onnx⟩, verified⟩
  · rintro ⟨M, s, O, ⟨manifest, signature, value, name, parsed, named, onnx⟩, verified⟩
    exact ⟨M, manifest, s, signature, value, parsed, name, named, O, onnx, verified⟩

theorem verifyManifestAndOnnx_returns (externals : ManifestExternals Key Value) (M : List UInt8)
    (s : String) (O : List UInt8) (key : Key) (minimum : UInt64) :
    (verifyManifestAndOnnx externals M s O key minimum).Returns := by
  unfold verifyManifestAndOnnx
  apply Outcome.Returns.bind (Outcome.returns_ofExcept _ _)
  intro manifest
  apply Outcome.Returns.guard
  intro major
  apply Outcome.Returns.guard
  intro generation
  apply Outcome.Returns.bind (Outcome.returns_ofExcept _ _)
  intro sigBytes
  apply Outcome.Returns.guard
  intro length
  rw [copyFromSlice_of_length (not_not.mp length), Outcome.ok_bind]
  apply Outcome.Returns.bind (Outcome.returns_ofExcept _ _)
  intro _
  apply Outcome.Returns.guard
  intro _
  exact Outcome.returns_ok manifest

theorem verifyBundleDir_returns (externals : ManifestExternals Key Value) (fs : FileSystem)
    (dir : String) (key : Key) (minimum : UInt64) :
    (verifyBundleDir externals fs dir key minimum).Returns := by
  unfold verifyBundleDir
  apply Outcome.Returns.bind (Outcome.returns_ofExcept _ _)
  intro M
  apply Outcome.Returns.bind (Outcome.returns_ofExcept _ _)
  intro s
  apply Outcome.Returns.bind (Outcome.returns_ofExcept _ _)
  intro value
  apply Outcome.Returns.bind (Outcome.returns_okOr _ _)
  intro name
  apply Outcome.Returns.bind (Outcome.returns_ofExcept _ _)
  intro O
  exact verifyManifestAndOnnx_returns externals M s O key minimum

end Verification

namespace NpuSession

/-! ### Fail-closed loading -/

section Loading

variable {Key Value S : Type} (externals : ManifestExternals Key Value) (fs : FileSystem)
  (host : NpuHost S) (config : ModelConfig) (keyBytes : Bytes 32)

/-- The configured bundle verifies to `m` under the key that the key bytes decode to. -/
def BundleVerifies (m : ModelManifest) : Prop :=
  ∃ key M s O, externals.verifyingKeyFromBytes keyBytes = .ok key ∧
    BundleFiles externals fs config.bundleDirectory M s O ∧
    VerifiedBundle externals key config.minimumRollbackGeneration M s O m

/-- What loading can return: an active session of a bundle that verifies, or a degraded one. -/
theorem fromConfig_cases :
    (∃ m, fromConfig externals fs host config keyBytes = .ok (newActive host m) ∧
      ∀ m', BundleVerifies externals fs config keyBytes m' ↔ m' = m) ∨
    ∃ reason, fromConfig externals fs host config keyBytes =
        .ok (newDegraded host reason config.minimumRollbackGeneration "reference-model-2026-b") ∧
      ∀ m, ¬ BundleVerifies externals fs config keyBytes m := by
  unfold fromConfig
  cases decoded : externals.verifyingKeyFromBytes keyBytes with
  | error e =>
      refine .inr ⟨_, rfl, ?_⟩
      rintro m ⟨key, _, _, _, valid, _⟩
      rw [decoded] at valid
      cases valid
  | ok key =>
      have verifies : ∀ m, BundleVerifies externals fs config keyBytes m ↔
          verifyBundleDir externals fs config.bundleDirectory key config.minimumRollbackGeneration =
            .ok m := by
        intro m
        rw [verifyBundleDir_eq_ok, BundleVerifies, decoded]
        simp
      simp only
      cases outcome : verifyBundleDir externals fs config.bundleDirectory key
          config.minimumRollbackGeneration with
      | ok m =>
          refine .inl ⟨m, rfl, ?_⟩
          intro m'
          rw [verifies, outcome, Outcome.ok.injEq, eq_comm]
      | err reason =>
          refine .inr ⟨reason, rfl, ?_⟩
          intro m valid
          rw [verifies, outcome] at valid
          cases valid
      | panicked cause => exact absurd outcome (verifyBundleDir_returns _ _ _ _ _ cause)

variable [Add S] [Mul S] [Div S] [LT S] [DecidableLT S] [IntCast S] [OfScientific S]

omit [Add S] [Mul S] [Div S] [LT S] [DecidableLT S] [IntCast S] [OfScientific S] in
theorem evaluateHead_of_active {session : NpuSession} {m : ModelManifest}
    (active : session.state = .active m) (inference : NpuEngine → S × NpuEngine) :
    session.evaluateHead inference =
      (.ok (inference session.engine).1, { session with engine := (inference session.engine).2 }) := by
  unfold evaluateHead
  rw [active]

/-- An active session answers every evaluation, counts it, and stays active. -/
theorem evaluate_of_active {session : NpuSession} {m : ModelManifest}
    (active : session.state = .active m) (call : HeadCall) :
    (∃ score, (session.evaluate host call).1 = .ok score) ∧
      (session.evaluate host call).2 = { session with engine := session.engine.count } := by
  cases call with
  | io input =>
      have result := evaluateHead_of_active active fun engine => engine.runIoInference host input
      exact ⟨⟨_, congrArg Prod.fst result⟩, congrArg Prod.snd result⟩
  | net input =>
      have result := evaluateHead_of_active active fun engine => engine.runNetInference host input
      exact ⟨⟨_, congrArg Prod.fst result⟩, congrArg Prod.snd result⟩
  | audit input =>
      have result := evaluateHead_of_active active fun engine => engine.runAuditInference host input
      exact ⟨⟨_, congrArg Prod.fst result⟩, congrArg Prod.snd result⟩

/-- A degraded session refuses every evaluation with its reason and does not change. -/
theorem evaluate_of_degraded {session : NpuSession} {reason : DegradedReason} {minimum : UInt64}
    {keyId : String} (degraded : session.state = .degradedObserver reason minimum keyId)
    (call : HeadCall) :
    session.evaluate host call = (.error (.degradedObserver reason), session) := by
  have refused : ∀ inference : NpuEngine → S × NpuEngine,
      session.evaluateHead inference = (.error (.degradedObserver reason), session) := by
    intro inference
    unfold evaluateHead
    rw [degraded]
  cases call with
  | io input => exact refused fun engine => engine.runIoInference host input
  | net input => exact refused fun engine => engine.runNetInference host input
  | audit input => exact refused fun engine => engine.runAuditInference host input

/-- All evaluations of a degraded session are refused, and none of them leaves a trace. -/
theorem evaluations_of_degraded {session : NpuSession} {reason : DegradedReason} {minimum : UInt64}
    {keyId : String} (degraded : session.state = .degradedObserver reason minimum keyId)
    (calls : List HeadCall) :
    (∀ entry ∈ trace (evaluate host) session calls, entry.2 = .error (.degradedObserver reason)) ∧
      final (evaluate host) session calls = session := by
  have unchanged : ∀ reached call, reached = session → (evaluate host reached call).2 = session := by
    rintro reached call rfl
    rw [evaluate_of_degraded host degraded call]
  refine ⟨?_, final_induction (· = session) unchanged calls rfl⟩
  refine trace_induction (· = session) (fun _ output => output = .error (.degradedObserver reason))
    unchanged ?_ rfl
  rintro reached call rfl
  rw [evaluate_of_degraded host degraded call]

/-- All evaluations of an active session are answered. -/
theorem evaluations_of_active {session : NpuSession} {m : ModelManifest}
    (active : session.state = .active m) (calls : List HeadCall) :
    ∀ entry ∈ trace (evaluate host) session calls, ∃ score, entry.2 = .ok score := by
  refine trace_induction (fun reached : NpuSession => reached.state = .active m)
    (fun _ (output : Except NpuError S) => ∃ score, output = .ok score) ?_ ?_ active
  · intro reached call active
    rw [(evaluate_of_active host active call).2]
    exact active
  · intro reached call active
    exact (evaluate_of_active host active call).1

/-- Loading is fail-closed. For every configuration, file system and key, a session results; it is active
    with manifest `m` exactly if the bundle verifies to `m`; otherwise it is degraded, and any evaluations
    of any heads are all refused with its one reason and leave it, its counter included, unchanged; an
    active session answers all evaluations. -/
theorem fromConfig_fail_closed :
    ∃ session, fromConfig externals fs host config keyBytes = .ok session ∧
      (∀ m, session.state = .active m ↔
        ∃ key M s O, externals.verifyingKeyFromBytes keyBytes = .ok key ∧
          BundleFiles externals fs config.bundleDirectory M s O ∧
          VerifiedBundle externals key config.minimumRollbackGeneration M s O m) ∧
      ((∀ m, session.state ≠ .active m) → session.isDegraded = true ∧
        ∃ reason, session.state =
            .degradedObserver reason config.minimumRollbackGeneration "reference-model-2026-b" ∧
          ∀ calls,
            (∀ entry ∈ trace (evaluate host) session calls,
              entry.2 = .error (.degradedObserver reason)) ∧
            final (evaluate host) session calls = session) ∧
      (∀ m, session.state = .active m → ∀ calls, ∀ entry ∈ trace (evaluate host) session calls,
        ∃ score, entry.2 = .ok score) := by
  rcases fromConfig_cases externals fs host config keyBytes with
    ⟨m, loaded, verifies⟩ | ⟨reason, loaded, refused⟩
  · refine ⟨newActive host m, loaded, ?_, ?_, ?_⟩
    · intro m'
      refine Iff.trans ?_ (verifies m').symm
      simp only [newActive, NpuState.active.injEq]
      exact eq_comm
    · intro inactive
      exact absurd rfl (inactive m)
    · intro m' active calls
      exact evaluations_of_active host active calls
  · have state : (newDegraded host reason config.minimumRollbackGeneration
        "reference-model-2026-b").state =
        .degradedObserver reason config.minimumRollbackGeneration "reference-model-2026-b" := rfl
    refine ⟨_, loaded, ?_, ?_, ?_⟩
    · intro m
      refine iff_of_false ?_ (refused m)
      intro active
      rw [state] at active
      cases active
    · intro _
      exact ⟨rfl, reason, state, evaluations_of_degraded host state⟩
    · intro m active
      rw [state] at active
      cases active

end Loading

/-! ### The model that scores -/

/-- The model from which the runtime session of the engine was built. -/
def scoringModel (session : NpuSession) : Option (List UInt8) :=
  session.engine.ortSession.map fun ort => ort.session.onnxBytes

/-- A session built from bytes keeps them, whichever provider takes it. -/
theorem onnxBytes_of_fromBytes {S : Type} {host : NpuHost S} {bytes : List UInt8}
    {ort : OrtBackendSession} (built : OrtBackendSession.fromBytes host bytes = .ok ort) :
    ort.session.onnxBytes = bytes := by
  unfold OrtBackendSession.fromBytes at built
  simp only at built
  split at built
  · cases built
    rfl
  · split at built
    · cases built
      rfl
    · split at built
      · cases built
        rfl
      · cases built

/-- An engine has a session only if the model was committed. -/
theorem eq_ok_of_sessionOf {S : Type} {host : NpuHost S} {result : Except String OrtBackendSession}
    {ort : OrtBackendSession} (present : NpuEngine.sessionOf host result = some ort) :
    result = .ok ort := by
  unfold NpuEngine.sessionOf at present
  split at present
  · cases result with
    | error e => cases present
    | ok session =>
        cases present
        rfl
  · cases present

/-- The cascade ends with the CPU, so a model the CPU accepts gets a session. -/
theorem exists_fromBytes {S : Type} {host : NpuHost S} {bytes : List UInt8}
    (accepts : host.ort.commitFromMemory .cpu bytes = .ok ()) :
    ∃ ort, OrtBackendSession.fromBytes host bytes = .ok ort := by
  unfold OrtBackendSession.fromBytes
  simp only [accepts]
  split
  · exact ⟨_, rfl⟩
  · split
    · exact ⟨_, rfl⟩
    · exact ⟨_, rfl⟩

/-- An active session scores with the reference model. -/
theorem scoringModel_of_active {S Key Value : Type} {externals : ManifestExternals Key Value}
    {fs : FileSystem} {host : NpuHost S} {config : ModelConfig} {keyBytes : Bytes 32}
    {session : NpuSession} {m : ModelManifest} (feature : host.npuHardware = true)
    (accepts : host.ort.commitFromMemory .cpu generateReferenceOnnx = .ok ())
    (loaded : fromConfig externals fs host config keyBytes = .ok session)
    (active : session.state = .active m) : scoringModel session = some generateReferenceOnnx := by
  have engine : session.engine = NpuEngine.new host := by
    rcases fromConfig_cases externals fs host config keyBytes with
      ⟨m', result, _⟩ | ⟨reason, result, _⟩
    · rw [result] at loaded
      cases loaded
      rfl
    · rw [result] at loaded
      cases loaded
      cases active
  obtain ⟨ort, built⟩ := exists_fromBytes accepts
  have reference : OrtBackendSession.fromReferenceModel host = .ok ort := built
  rw [scoringModel, engine, NpuEngine.new, NpuEngine.sessionOf, if_pos feature, reference]
  exact congrArg some (onnxBytes_of_fromBytes built)

/-- The session scores with the model file of the bundle. -/
def ScoresVerifiedModel {Key Value : Type} (externals : ManifestExternals Key Value) (fs : FileSystem)
    (config : ModelConfig) (session : NpuSession) : Prop :=
  ∀ M s O, BundleFiles externals fs config.bundleDirectory M s O → scoringModel session = some O

/-- When the verified model is the one that scores. In a build with the runtime, which accepts the model
    it is given, an active session scores with the model file of its bundle exactly if that file is the
    reference model byte for byte: the engine is built from the reference model and never sees the file. -/
theorem scoring_model_is_verified_iff {S Key Value : Type} (externals : ManifestExternals Key Value)
    (fs : FileSystem) (host : NpuHost S) (config : ModelConfig) (keyBytes : Bytes 32)
    (session : NpuSession) (m : ModelManifest) (feature : host.npuHardware = true)
    (accepts : host.ort.commitFromMemory .cpu generateReferenceOnnx = .ok ())
    (loaded : fromConfig externals fs host config keyBytes = .ok session)
    (active : session.state = .active m) :
    ScoresVerifiedModel externals fs config session ↔
      ∀ M s O, BundleFiles externals fs config.bundleDirectory M s O → O = generateReferenceOnnx := by
  unfold ScoresVerifiedModel
  rw [scoringModel_of_active feature accepts loaded active]
  constructor
  · intro scores M s O files
    exact (Option.some.inj (scores M s O files)).symm
  · intro reference M s O files
    rw [reference M s O files]

/-! ### The shipped bundle -/

/-- The files under `models/active`. -/
def shippedFiles : FileSystem :=
  { join := fun dir name => dir ++ "/" ++ name
    read := fun path =>
      if path = "models/active/manifest.json" then
        .ok (asBytes shippedManifestText)
      else if path = "models/active/manifest.sig" then
        .ok (asBytes shippedSignatureText)
      else if path = "models/active/kavach_multitask_int8.onnx" then
        .ok shippedOnnx
      else
        .error "No such file or directory (os error 2)" }

/-- The third-party functions on the shipped bundle. A JSON value is given by its text. -/
def shippedExternals : ManifestExternals (Bytes 32) String :=
  { fromSlice := fun bytes =>
      if bytes = asBytes shippedManifestText then .ok shippedManifest
      else .error "expected value at line 1 column 1"
    valueFromSlice := fun bytes =>
      if bytes = asBytes shippedManifestText then .ok shippedManifestText
      else .error "expected value at line 1 column 1"
    pointer := fun value path =>
      if value = shippedManifestText ∧ path = "/onnx/file" then some shippedManifest.onnx.file
      else none
    asStr := some
    sha256 := fun bytes =>
      if bytes = asBytes shippedManifestText then shippedManifestDigest else shippedOnnxDigest
    hexEncode := fun bytes => String.ofList (Hex.encode bytes)
    verifyingKeyFromBytes := fun bytes =>
      if bytes = pinnedReferencePublicKey then .ok bytes else .error "Cannot decompress Edwards point"
    verifyStrict := fun key digest signature =>
      if key = pinnedReferencePublicKey ∧ digest = shippedManifestDigest.toList ∧
          signature = shippedSignature then
        .ok ()
      else
        .error "signature error" }

/-- A host without an NPU whose runtime accepts every model. -/
def shippedHost : NpuHost ℚ :=
  { npuHardware := true
    info := NpuHardwareInfo.probe none none false none
    ort :=
      { commitFromMemory := fun _ _ => .ok ()
        run := fun _ _ _ _ => .error "session run failed" }
    enableVitis := false }

/-- The default configuration. -/
def shippedConfig : ModelConfig :=
  { bundleDirectory := "models/active"
    minimumRollbackGeneration := 0 }

theorem shippedFiles_hold : BundleFiles shippedExternals shippedFiles "models/active"
    (asBytes shippedManifestText) shippedSignatureText shippedOnnx := by
  have manifestPath : shippedFiles.join "models/active" "manifest.json" =
      "models/active/manifest.json" := by decide +kernel
  have signaturePath : shippedFiles.join "models/active" "manifest.sig" =
      "models/active/manifest.sig" := by decide +kernel
  have onnxPath : shippedFiles.join "models/active" shippedManifest.onnx.file =
      "models/active/kavach_multitask_int8.onnx" := by decide +kernel
  refine ⟨?_, ?_, shippedManifestText, shippedManifest.onnx.file, ?_, ?_, ?_⟩
  · rw [manifestPath]
    simp only [shippedFiles, if_true]
  · rw [signaturePath]
    simp [shippedFiles]
  · simp only [shippedExternals, if_true]
  · simp only [shippedExternals, and_self, if_true, Option.bind_some]
  · rw [onnxPath]
    simp [shippedFiles]

theorem shippedBundle_verifies : VerifiedBundle shippedExternals pinnedReferencePublicKey 0
    (asBytes shippedManifestText) shippedSignatureText shippedOnnx shippedManifest := by
  have manifestDigest : shippedExternals.sha256 (asBytes shippedManifestText) =
      shippedManifestDigest := by simp only [shippedExternals, if_true]
  have onnxDigest : shippedExternals.sha256 shippedOnnx = shippedOnnxDigest := by
    have differ : shippedOnnx ≠ asBytes shippedManifestText := by
      intro same
      have manifestHead : (asBytes shippedManifestText).head? = some 123 := by decide +kernel
      rw [← same] at manifestHead
      cases manifestHead
    simp only [shippedExternals, if_neg differ]
  refine ⟨?_, rfl, by decide, ⟨shippedSignature, by decide +kernel, ?_⟩, ?_⟩
  · simp only [shippedExternals, if_true]
  · rw [manifestDigest]
    simp only [shippedExternals, and_self, if_true]
  · rw [onnxDigest]
    decide +kernel

theorem shippedBundle_loads : BundleVerifies shippedExternals shippedFiles shippedConfig
    pinnedReferencePublicKey shippedManifest := by
  refine ⟨pinnedReferencePublicKey, _, _, _, ?_, shippedFiles_hold, shippedBundle_verifies⟩
  simp only [shippedExternals, if_true]

/-- The shipped bundle gives an active session, on every host. -/
theorem shippedBundle_active {S : Type} (host : NpuHost S) :
    fromConfig shippedExternals shippedFiles host shippedConfig pinnedReferencePublicKey =
      .ok (newActive host shippedManifest) := by
  rcases fromConfig_cases shippedExternals shippedFiles host shippedConfig
      pinnedReferencePublicKey with ⟨m, loaded, verifies⟩ | ⟨reason, _, refused⟩
  · rw [loaded, (verifies shippedManifest).mp shippedBundle_loads]
  · exact absurd shippedBundle_loads (refused shippedManifest)

/-- The model file of the shipped bundle is not the reference model: it is 380 bytes shorter. -/
theorem shippedOnnx_ne_reference : shippedOnnx ≠ generateReferenceOnnx := by
  have lengths : shippedOnnx.length + 380 = generateReferenceOnnx.length := by decide +kernel
  intro same
  have equal := congrArg List.length same
  omega

/-- The session of the shipped bundle is active and does not score with the model it verified. -/
theorem shippedBundle_not_scored :
    fromConfig shippedExternals shippedFiles shippedHost shippedConfig pinnedReferencePublicKey =
        .ok (newActive shippedHost shippedManifest) ∧
      ¬ ScoresVerifiedModel shippedExternals shippedFiles shippedConfig
        (newActive shippedHost shippedManifest) := by
  refine ⟨shippedBundle_active shippedHost, ?_⟩
  intro scores
  have reference := scoringModel_of_active rfl rfl (shippedBundle_active shippedHost) rfl
  rw [scores _ _ _ shippedFiles_hold] at reference
  exact shippedOnnx_ne_reference (Option.some.inj reference)

/-- On the shipped bundle the condition fails, and with it the property. -/
theorem shippedBundle_condition_fails :
    shippedHost.npuHardware = true ∧
      (ScoresVerifiedModel shippedExternals shippedFiles shippedConfig
          (newActive shippedHost shippedManifest) ↔
        ∀ M s O, BundleFiles shippedExternals shippedFiles "models/active" M s O →
          O = generateReferenceOnnx) :=
  ⟨rfl, scoring_model_is_verified_iff shippedExternals shippedFiles shippedHost shippedConfig
    pinnedReferencePublicKey (newActive shippedHost shippedManifest) shippedManifest rfl rfl
    (shippedBundle_active _) rfl⟩

end NpuSession

end KavachNpu

/-
Module: KavachNpu.Proofs.UnfedDaemon
Layer: Proofs
Purpose: The live daemon as it is started: it makes its consumers and its pipe server but hands them nothing,
  so its runs are sections of the loop alone. The session is then asked for tensors of zeros only, the engines
  and the broker stay as they were made, and no verdict is dispatched but by a verified bundle in a build with
  the runtime.
Trusted boundary: none
Main exports: InputTensor.zeros, Sentinel.silentCall, Sentinel.Unfed, Sentinel.headCall_of_unfed,
  Sentinel.unfed_daemon_silent
-/
import KavachNpu.Proofs.HeadAlerts

namespace KavachNpu

/-- The tensor of zeros. -/
def InputTensor.zeros (slots : Nat) : InputTensor slots :=
  ⟨Vector.replicate slots (Vector.replicate 4 0)⟩

section Zeros

variable {F : Type} [Field F] [LinearOrder F] [IsStrictOrderedRing F]

omit [Field F] [LinearOrder F] [IsStrictOrderedRing F] in
/-- A fold over its rows that a row of zeros leaves where it is. -/
theorem foldl_zeros (slots : Nat) {f : F → Vector Int8 4 → F} {start : F}
    (fixed : f start (Vector.replicate 4 0) = start) :
    (InputTensor.zeros slots).data.foldl f start = start := by
  rw [InputTensor.zeros, ← Vector.foldl_toList, Vector.toList_replicate]
  induction slots with
  | zero => rfl
  | succ slots ih => rw [List.replicate_succ, List.foldl_cons, fixed, ih]

theorem ioBaseline_zeros : (NpuEngine.ioBaseline (InputTensor.zeros 10) : F) = 0 := by
  rw [NpuEngine.ioBaseline, foldl_zeros 10 (by simp)]
  norm_num [clamp]

omit [LinearOrder F] [IsStrictOrderedRing F] in
theorem firstFeatureSum_zeros (slots : Nat) :
    (NpuEngine.firstFeatureSum (InputTensor.zeros slots) : F) = 0.0 :=
  foldl_zeros slots (by simp)

theorem netBaseline_zeros : (NpuEngine.netBaseline (InputTensor.zeros 32) : F) = 0 := by
  rw [NpuEngine.netBaseline, firstFeatureSum_zeros]
  norm_num [clamp]

theorem auditBaseline_zeros : (NpuEngine.auditBaseline (InputTensor.zeros 16) : F) = 0 := by
  rw [NpuEngine.auditBaseline, firstFeatureSum_zeros]
  norm_num [clamp]

/-- A matrix of zeros is quantized to zeros. -/
theorem fromF32Matrix_zeros [FloorRing F] [FloatOps F] [ExactArithmetic F] (slots : Nat) :
    InputTensor.fromF32Matrix (Vector.replicate slots (Vector.replicate 4 (0.0 : F)))
      QuantizationParams.default = InputTensor.zeros slots := by
  have zero : quantizeF32ToI8 (0.0 : F) QuantizationParams.default = 0 :=
    Int8.toInt_inj.mp toInt_quantize_zero
  simp only [InputTensor.fromF32Matrix, InputTensor.zeros, Vector.map_replicate, zero]

end Zeros

namespace Sentinel

/-- What a head is asked when its engine has seen nothing. -/
def silentCall : LoopPhase → HeadCall
  | .io => .io (InputTensor.zeros 10)
  | .net => .net (InputTensor.zeros 32)
  | .audit => .audit (InputTensor.zeros 16)

/-- Sections of the loop and nothing else. -/
def loopOnly (sections : List (List FlowKey × PipeAttempt)) : List SentinelInput :=
  sections.map fun entry => .loop entry.1 entry.2

/-- The engines and the broker are as they were made. -/
structure Unfed {D : Type} (config : KavachConfig) (s : Sentinel D) : Prop where
  entropyEngine : s.entropyEngine = EntropyEngine.new
  beaconEngine : s.beaconEngine = TcnEngine.new
  eventSubscriber : s.eventSubscriber = EventSubscriber.new
  broker : s.broker = LiveLoop.broker config.liveLoop

section Exact

variable {D F : Type} [Add D] [Sub D] [Mul D] [Div D] [LE D] [LT D] [DecidableLE D] [DecidableLT D]
  [NatCast D] [OfScientific D] [FloatOps D] [Field F] [LinearOrder F] [IsStrictOrderedRing F] [FloorRing F]
  [FloatOps F] [ExactArithmetic F] [AsF32 D F] (host : SentinelHost D F) (config : KavachConfig)

/-- Unfed engines give matrices of zeros. -/
theorem headCall_of_unfed {s : Sentinel D} (unfed : Unfed config s) (order : List FlowKey) :
    s.headCall host order = silentCall s.phase := by
  unfold headCall silentCall
  cases s.phase with
  | io =>
      have zeros : (s.entropyEngine.tracker.buildTensorMatrix host.sha256 : IoMatrix F) =
          Vector.replicate 10 (Vector.replicate 4 0.0) := by
        rw [unfed.entropyEngine]
        rfl
      simp only [LiveLoop.ioTensor, zeros, fromF32Matrix_zeros]
  | net =>
      have noFlow : order.findSome? (fun key => (s.beaconEngine.flows.lookup key).bind fun flow =>
          (flow.buildTensorMatrix host.float : Option (FlowMatrix F))) = none := by
        rw [unfed.beaconEngine]
        simp [TcnEngine.new]
      have zeros : (s.beaconEngine.buildTensorMatrix host.float order : FlowMatrix F) =
          Vector.replicate 32 (Vector.replicate 4 0.0) := by
        rw [TcnEngine.buildTensorMatrix, noFlow]
        rfl
      simp only [zeros, fromF32Matrix_zeros]
  | audit =>
      have zeros : (s.eventSubscriber.buildTensorMatrix host.sha256 : Vector (Vector F 4) 16) =
          Vector.replicate 16 (Vector.replicate 4 0.0) := by
        rw [unfed.eventSubscriber]
        ext i inRows j inRow
        simp [EventSubscriber.buildTensorMatrix, EventSubscriber.new, EventSequenceTracker.new,
          EventSequenceTracker.buildTensorMatrix]
      simp only [zeros, fromF32Matrix_zeros]

/-- Sections of the loop feed nothing, so in turn each head is asked for zeros. -/
theorem asked_of_unfed {s : Sentinel D} {k : Nat} (unfed : Unfed config s) (at' : AtSection s k)
    (sections : List (List FlowKey × PipeAttempt)) :
    handed (step host config) (sessionComponent host config).calls s (loopOnly sections) =
        (List.range sections.length).map (fun i => silentCall (phaseAt (k + i))) ∧
      Unfed config (final (step host config) s (loopOnly sections)) := by
  induction sections generalizing s k with
  | nil => exact ⟨rfl, unfed⟩
  | cons entry rest ih =>
      have stays : Unfed config (step host config s (.loop entry.1 entry.2)).2 := by
        simp only [step, loopSection_spec]
        exact ⟨unfed.entropyEngine, unfed.beaconEngine, unfed.eventSubscriber, unfed.broker⟩
      obtain ⟨asked, ended⟩ := ih stays (atSection_step host config at' entry.1 entry.2)
      refine ⟨?_, ended⟩
      have first : (sessionComponent host config).calls s (.loop entry.1 entry.2) =
          [silentCall (phaseAt k)] := by
        rw [← at'.phase, ← headCall_of_unfed host config unfed entry.1]
        rfl
      rw [loopOnly, List.map_cons, handed, first, List.length_cons, List.range_succ_eq_map, List.map_cons,
        List.map_map, List.singleton_append, Nat.add_zero]
      refine congrArg _ (asked.trans ?_)
      apply List.map_congr_left
      intro i _
      rw [Function.comp_apply, Nat.add_assoc, Nat.add_comm 1]

omit [Field F] [LinearOrder F] [IsStrictOrderedRing F] [FloorRing F] [FloatOps F] [ExactArithmetic F] in
/-- Without a runtime an active session answers with the baseline. -/
theorem evaluateHead_of_cpu {session : NpuSession} {m : ModelManifest} (active : session.state = .active m)
    (cpu : session.engine.ortSession = none) (score : OrtBackendSession → Except String F) (baseline : F) :
    (session.evaluateHead fun engine => (engine.scoreOr score baseline, engine.count)).1 =
      .ok baseline := by
  simp only [NpuSession.evaluateHead, active, NpuEngine.scoreOr, cpu]

omit [FloorRing F] [FloatOps F] [ExactArithmetic F] in
/-- So zeros are scored zero, if they are scored. -/
theorem score_of_silent {npu : NpuHost F} {session : NpuSession} (cpu : session.engine.ortSession = none)
    {phase : LoopPhase} {score : F} (answered : (session.evaluate npu (silentCall phase)).1 = .ok score) :
    score = 0 := by
  cases state : session.state with
  | degradedObserver reason minimum keyId =>
      rw [NpuSession.evaluate_of_degraded npu state] at answered
      cases answered
  | active m =>
      cases phase with
      | io =>
          have given := evaluateHead_of_cpu state cpu
            (fun ort => ort.runIoInference npu (InputTensor.zeros 10))
            (NpuEngine.ioBaseline (InputTensor.zeros 10))
          rw [← Except.ok.inj (given.symm.trans answered), ioBaseline_zeros]
      | net =>
          have given := evaluateHead_of_cpu state cpu
            (fun ort => ort.runNetInference npu (InputTensor.zeros 32))
            (NpuEngine.netBaseline (InputTensor.zeros 32))
          rw [← Except.ok.inj (given.symm.trans answered), netBaseline_zeros]
      | audit =>
          have given := evaluateHead_of_cpu state cpu
            (fun ort => ort.runAuditInference npu (InputTensor.zeros 16))
            (NpuEngine.auditBaseline (InputTensor.zeros 16))
          rw [← Except.ok.inj (given.symm.trans answered), auditBaseline_zeros]

omit [IsStrictOrderedRing F] [FloorRing F] [FloatOps F] [ExactArithmetic F] in
/-- An evaluation makes no runtime. -/
theorem ortSession_of_evaluate (npu : NpuHost F) (session : NpuSession) (call : HeadCall) :
    (session.evaluate npu call).2.engine.ortSession = session.engine.ortSession := by
  cases state : session.state with
  | degradedObserver reason minimum keyId => rw [NpuSession.evaluate_of_degraded npu state]
  | active m =>
      rw [(NpuSession.evaluate_of_active npu state call).2]
      rfl

omit [FloorRing F] [FloatOps F] [ExactArithmetic F] in
/-- So are they in any number of evaluations. -/
theorem scores_of_silent {npu : NpuHost F} {session : NpuSession}
    (cpu : session.engine.ortSession = none) (phases : List LoopPhase) :
    ∀ entry ∈ trace (NpuSession.evaluate npu) session (phases.map silentCall), ∀ score,
      entry.2 = .ok score → score = 0 := by
  induction phases generalizing session with
  | nil => exact fun _ member => absurd member List.not_mem_nil
  | cons phase rest ih =>
      rw [List.map_cons, trace, List.forall_mem_cons]
      refine ⟨fun score answered => score_of_silent cpu answered, ih ?_⟩
      rw [ortSession_of_evaluate]
      exact cpu

omit [Field F] [LinearOrder F] [IsStrictOrderedRing F] [FloorRing F] [FloatOps F] [ExactArithmetic F] in
/-- No build without the feature has a runtime. -/
theorem ortSession_of_fromConfig {Key Value : Type} {externals : ManifestExternals Key Value}
    {fs : FileSystem} {npu : NpuHost F} {model : ModelConfig} {keyBytes : Bytes 32} {session : NpuSession}
    (loaded : NpuSession.fromConfig externals fs npu model keyBytes = .ok session)
    (cpu : npu.npuHardware = false) : session.engine.ortSession = none := by
  have made : (NpuEngine.new npu).ortSession = none := by
    rw [NpuEngine.new, NpuEngine.sessionOf, cpu]
    rfl
  rcases NpuSession.fromConfig_cases externals fs npu model keyBytes with
    ⟨m, active, _⟩ | ⟨reason, degraded, _⟩
  · cases loaded.symm.trans active
    exact made
  · cases loaded.symm.trans degraded
    exact made

omit [IsStrictOrderedRing F] [FloorRing F] [ExactArithmetic F] in
/-- Whatever is loaded, nothing is dispatched unless the bundle verifies. -/
theorem silent_unless_verified {Key Value : Type} (externals : ManifestExternals Key Value)
    (fs : FileSystem) (keyBytes : Bytes 32) (inputs : List SentinelInput) :
    ∃ session, NpuSession.fromConfig externals fs host.npu config.model.toModelConfig keyBytes =
        .ok session ∧
      ((¬ ∃ m, NpuSession.BundleVerifies externals fs config.model.toModelConfig keyBytes m) →
        ∀ report ∈ reportsOf (trace (step host config) (new config session : Sentinel D) inputs),
          report.dispatched = none) := by
  rcases NpuSession.fromConfig_cases externals fs host.npu config.model.toModelConfig keyBytes with
    ⟨m, loaded, verifies⟩ | ⟨reason, loaded, -⟩
  · exact ⟨_, loaded, fun never => absurd ⟨m, (verifies m).mpr rfl⟩ never⟩
  · refine ⟨_, loaded, fun _ report member => ?_⟩
    exact ((run_of_degraded (D := D) host config rfl inputs).1 report member).2

/-- The live daemon as it is started feeds its engines nothing. Whatever the configuration, the files and the
    key, a session results, and in every run of the loop its heads are asked for zeros in turn and the engines
    and the broker stay as they were made. A build without the runtime scores nothing but zero, and a verdict
    is dispatched only if the bundle verifies and the build has the runtime. -/
theorem unfed_daemon_silent {Key Value : Type} (externals : ManifestExternals Key Value) (fs : FileSystem)
    (keyBytes : Bytes 32) (sections : List (List FlowKey × PipeAttempt)) :
    ∃ session, NpuSession.fromConfig externals fs host.npu config.model.toModelConfig keyBytes =
        .ok session ∧
      let start : Sentinel D := new config session
      let reported := reportsOf (trace (step host config) start (loopOnly sections))
      handed (step host config) (sessionComponent host config).calls start (loopOnly sections) =
          (List.range sections.length).map (fun i => silentCall (phaseAt i)) ∧
        Unfed config (final (step host config) start (loopOnly sections)) ∧
        (host.npu.npuHardware = false →
          ∀ report ∈ reported, ∀ score, report.score = .ok score → score = 0) ∧
        ∀ report ∈ reported, report.dispatched ≠ none → host.npu.npuHardware = true ∧
          ∃ m, NpuSession.BundleVerifies externals fs config.model.toModelConfig keyBytes m := by
  obtain ⟨session, loaded, refuses⟩ := silent_unless_verified (D := D) host config externals fs keyBytes
    (loopOnly sections)
  have unfed : Unfed config (new config session : Sentinel D) := ⟨rfl, rfl, rfl, rfl⟩
  obtain ⟨asked, ended⟩ := asked_of_unfed host config unfed (k := 0) ⟨rfl, rfl⟩ sections
  simp only [Nat.zero_add] at asked
  have zeros : host.npu.npuHardware = false →
      ∀ report ∈ reportsOf (trace (step host config) (new config session : Sentinel D) (loopOnly sections)),
        ∀ score, report.score = .ok score → score = 0 := by
    intro cpu report member score answered
    have listed := List.mem_map_of_mem (f := HeadReport.score) member
    have phases : (List.range sections.length).map (fun i => silentCall (phaseAt i)) =
        ((List.range sections.length).map phaseAt).map silentCall := by
      rw [List.map_map]
      rfl
    rw [scores_of_run, asked, phases] at listed
    obtain ⟨entry, ran, same⟩ := List.mem_map.mp listed
    exact scores_of_silent (ortSession_of_fromConfig loaded cpu) _ entry ran score (same.trans answered)
  refine ⟨session, loaded, asked, ended, zeros, ?_⟩
  intro report member dispatched
  constructor
  · by_contra software
    have reached := (reaches_of_dispatched host config _ _ report member dispatched).2
    cases answer : report.score with
    | error e =>
        rw [answer] at reached
        cases reached
    | ok score =>
        rw [answer, zeros (Bool.eq_false_of_not_eq_true software) report member score answer] at reached
        norm_num [LiveLoop.reaches, LiveLoop.ioThreshold] at reached
  · by_contra unverified
    exact dispatched (refuses unverified report member)

end Exact

/-- The shipped bundle in a build without the runtime: in four rounds every head is scored zero. -/
theorem fourRounds_silent : ∃ session,
    NpuSession.fromConfig NpuSession.shippedExternals NpuSession.shippedFiles cpuHost.npu
        KavachConfig.safeDefaults.model.toModelConfig pinnedReferencePublicKey = .ok session ∧
      ∀ report ∈ reportsOf (trace (step cpuHost KavachConfig.safeDefaults)
        (new KavachConfig.safeDefaults session) (loopOnly (List.replicate 12 ([], .openFailed)))),
        report.score = .ok 0 ∧ report.dispatched = none := by
  obtain ⟨session, loaded, _, _, zeros, silent⟩ := unfed_daemon_silent cpuHost KavachConfig.safeDefaults
    NpuSession.shippedExternals NpuSession.shippedFiles pinnedReferencePublicKey
    (List.replicate 12 ([], .openFailed))
  have made : session = NpuSession.newActive cpuHost.npu shippedManifest :=
    Outcome.ok.inj (loaded.symm.trans (NpuSession.shippedBundle_active cpuHost.npu))
  have active : session.state = .active shippedManifest := congrArg NpuSession.state made
  refine ⟨session, loaded, fun report member => ⟨?_, ?_⟩⟩
  · obtain ⟨score, scored⟩ := (run_of_active (D := ℚ) cpuHost KavachConfig.safeDefaults active
      (loopOnly (List.replicate 12 ([], .openFailed)))).1 report member
    rw [scored, zeros rfl report member score scored]
  · by_contra dispatched
    cases (silent report member dispatched).1

end Sentinel

end KavachNpu

/-
Module: KavachNpu.Proofs.HeadAlerts
Layer: Proofs
Purpose: When the second and the third head alert, on the CPU baseline. Both scores are means of the
  quantized first features, so reaching the threshold is a bound on an integer sum: for head 3 on the
  severities of the last sixteen records, for head 2 on the logarithms of the gaps of one flow. What the
  sum does not look at, order and regularity, cannot raise an alert or prevent one.
Trusted boundary: none
Main exports: firstFeatureSum_eq, baseline_reaches_iff, Sentinel.audit_alert_iff
-/
import KavachNpu.Proofs.BeaconFlows
import KavachNpu.Proofs.EventSequence
import KavachNpu.Proofs.HeadFeatures

namespace KavachNpu

section Baseline

variable {F : Type} [Field F] [LinearOrder F] [IsStrictOrderedRing F]

omit [LinearOrder F] [IsStrictOrderedRing F] in
/-- A fold that adds scaled integers. -/
theorem foldl_scaled {R : Type} (level : R → ℤ) (rows : List R) (start : F) :
    rows.foldl (fun score row => score + (level row : F) / 127.0) start =
      start + ((rows.map level).sum : ℤ) / 127.0 := by
  induction rows generalizing start with
  | nil => simp
  | cons row rest ih =>
      rw [List.foldl_cons, ih, List.map_cons, List.sum_cons]
      push_cast
      ring

/-- The sum of the first features is an integer number of steps. -/
theorem firstFeatureSum_eq {slots : Nat} (tensor : InputTensor slots) :
    (NpuEngine.firstFeatureSum tensor : F) = ((NpuEngine.firstFeatures tensor).sum : ℤ) / 127 := by
  unfold NpuEngine.firstFeatureSum NpuEngine.firstFeatures
  rw [← Vector.foldl_toList, foldl_scaled fun row : Vector Int8 4 => row[0].toInt]
  norm_num

/-- The mean of the first features reaches the threshold exactly if their sum is large enough. -/
theorem baseline_reaches_iff {slots : Nat} (tensor : InputTensor slots) (whole : F)
    (count : whole = slots) (some : 0 < slots) :
    LiveLoop.reaches (.ok (clamp (NpuEngine.firstFeatureSum tensor / whole) 0.0 1.0)) = true ↔
      2159 * (slots : ℤ) ≤ 20 * (NpuEngine.firstFeatures tensor).sum := by
  have positive : (0 : F) < slots := by exact_mod_cast some
  have scaled : (0.85 : F) ≤ NpuEngine.firstFeatureSum tensor / whole ↔
      ((2159 * (slots : ℤ) : ℤ) : F) ≤ ((20 * (NpuEngine.firstFeatures tensor).sum : ℤ) : F) := by
    rw [firstFeatureSum_eq, count, le_div_iff₀ positive, le_div_iff₀ (by norm_num)]
    push_cast
    constructor
    · intro le
      norm_num at le
      linarith
    · intro le
      norm_num
      linarith
  unfold LiveLoop.reaches LiveLoop.ioThreshold
  simp only [decide_eq_true_eq, ge_iff_le]
  rw [le_clamp_iff (by norm_num) (by norm_num), scaled, Int.cast_le]

end Baseline

/-! ### A section on the CPU baseline -/

namespace Sentinel

section Sections

variable {D S : Type} [Add D] [Sub D] [Mul D] [Div D] [LE D] [LT D] [DecidableLE D] [DecidableLT D]
  [NatCast D] [OfScientific D] [FloatOps D] [Add S] [Mul S] [Div S] [Neg S] [LE S] [LT S] [DecidableLE S]
  [DecidableLT S] [NatCast S] [IntCast S] [OfScientific S] [FloatOps S] [AsF32 D S]
  (host : SentinelHost D S) (config : KavachConfig)

/-- What a section of head 3 returns without a runtime. -/
theorem step_audit {s : Sentinel D} {m : ModelManifest} (turn : s.phase = .audit)
    (active : s.npuSession.state = .active m) (cpu : s.npuSession.engine.ortSession = none)
    (order : List FlowKey) (attempt : PipeAttempt) :
    (step host config s (.loop order attempt)).1 = .head
      { phase := .audit
        score := .ok (NpuEngine.auditBaseline (InputTensor.fromF32Matrix
          (s.eventSubscriber.buildTensorMatrix host.sha256 : Vector (Vector S 4) 16)
          QuantizationParams.default))
        dispatched := none } := by
  simp only [step, loopSection_spec, headCall, turn, NpuSession.evaluate, NpuSession.evaluateAuditHead,
    NpuSession.evaluateHead, active, NpuEngine.runAuditInference, NpuEngine.scoreOr, cpu, reduceCtorEq,
    false_and, if_false]

/-- The loop in a run with an active session: the section that comes next, and a session that has only
    counted. -/
theorem active_of_run {session : NpuSession} {m : ModelManifest} (active : session.state = .active m)
    (before : List SentinelInput) :
    let s : Sentinel D := final (step host config) (new config session) before
    s.phase = phaseAt (before.countP SentinelInput.isLoop) ∧ s.npuSession.state = .active m ∧
      s.npuSession.engine.ortSession = session.engine.ortSession := by
  intro s
  have began : AtSection (new config session : Sentinel D) 0 := ⟨rfl, rfl⟩
  have turn := (reports_of_sections host config began before).1.phase
  rw [Nat.zero_add] at turn
  have asked := (sessionComponent host config).final_eq (new config session : Sentinel D) before
  have counts := final_evaluate_of_active host.npu active
    (handed (step host config) (sessionComponent host config).calls (new config session) before)
  have ended := asked.trans counts
  have state := congrArg NpuSession.state ended
  have runtime := congrArg (fun session => session.engine.ortSession) ended
  exact ⟨turn, state.trans active, runtime⟩

end Sections

end Sentinel

/-! ### Head 3: severities -/

/-- The quantized severity of an event. -/
def CriticalEventId.level : CriticalEventId → ℤ
  | .logonSuccess => 13
  | .logonFailure => 51
  | .powerShellScriptBlock => 76
  | .serviceCreated | .serviceInstall => 102
  | .bugCheck => 114
  | .auditLogCleared => 127

/-- A cleared log or a bug check: the events above the level of a service installation. -/
def CriticalEventId.IsGrave (id : CriticalEventId) : Prop :=
  id = .auditLogCleared ∨ id = .bugCheck

instance decidableIsGrave (id : CriticalEventId) : Decidable id.IsGrave :=
  inferInstanceAs (Decidable (_ ∨ _))

/-- The last sixteen records of a run. -/
def recentRecords (inputs : List SentinelInput) : List SecurityEventRecord :=
  let records := inputs.flatMap SentinelInput.records
  records.drop (records.length - 16)

/-- The first features of a window shorter than the matrix add up to those of its items. -/
theorem sum_ofFn_getElem? {α : Type} (feature : α → ℤ) {items : List α} {slots : Nat}
    (short : items.length ≤ slots) :
    (List.ofFn fun i : Fin slots => (items[i.val]?).elim 0 feature).sum = (items.map feature).sum := by
  induction items generalizing slots with
  | nil => simp
  | cons item rest ih =>
      cases slots with
      | zero => simp at short
      | succ slots =>
          have others := ih (Nat.le_of_succ_le_succ short)
          rw [List.ofFn_succ, List.sum_cons, List.map_cons, List.sum_cons, ← others]
          rfl

section Exact

variable {F : Type} [Field F] [LinearOrder F] [IsStrictOrderedRing F] [FloorRing F] [FloatOps F]
  [ExactArithmetic F]

/-- Quantizing with the default scale rounds to the nearest of 127 steps. -/
theorem toInt_quantize_default {val : F} {steps : ℤ} (close : |val * 127 - steps| < 1 / 2)
    (low : -128 ≤ steps) (high : steps ≤ 127) :
    (quantizeF32ToI8 val (QuantizationParams.default : QuantizationParams F)).toInt = steps := by
  have scale : (QuantizationParams.default : QuantizationParams F).scale = 127⁻¹ := by
    norm_num [QuantizationParams.default]
  have unshifted : (QuantizationParams.default : QuantizationParams F).zeroPoint.toInt = 0 := rfl
  rw [toInt_quantize, scale, div_inv_eq_mul, roundAway_eq close, unshifted]
  omega

theorem toInt_quantize_zero :
    (quantizeF32ToI8 (0.0 : F) (QuantizationParams.default : QuantizationParams F)).toInt = 0 := by
  apply toInt_quantize_default <;> norm_num

theorem toInt_quantize_severity (id : CriticalEventId) :
    (quantizeF32ToI8 (id.severityWeight : F) QuantizationParams.default).toInt = id.level := by
  cases id <;> apply toInt_quantize_default <;>
    norm_num [CriticalEventId.severityWeight, CriticalEventId.level, abs_lt]

/-- The first feature of a slot of the matrix: the level of its event, or zero. -/
theorem toInt_quantize_slot (sha256 : List UInt8 → Bytes 32) (tracker : EventSequenceTracker) (i : Nat)
    (inside : i < 16) :
    (quantizeF32ToI8 ((tracker.buildTensorMatrix sha256 : Vector (Vector F 4) 16)[i])[0]
      QuantizationParams.default).toInt = (tracker.events[i]?).elim 0 fun e => e.eventId.level := by
  cases found : tracker.events[i]? with
  | some event =>
      have row : ∃ prevTs, (tracker.buildTensorMatrix sha256 : Vector (Vector F 4) 16)[i] =
          EventSequenceTracker.eventFeatures sha256 prevTs event := by
        simp only [EventSequenceTracker.buildTensorMatrix, Vector.getElem_ofFn, found]
        exact ⟨_, rfl⟩
      obtain ⟨prevTs, row⟩ := row
      rw [row]
      exact toInt_quantize_severity event.eventId
  | none =>
      have row : (tracker.buildTensorMatrix sha256 : Vector (Vector F 4) 16)[i] = Vector.replicate 4 0.0 := by
        simp only [EventSequenceTracker.buildTensorMatrix, Vector.getElem_ofFn, found]
      rw [row, Vector.getElem_replicate]
      exact toInt_quantize_zero

omit [IsStrictOrderedRing F] [FloorRing F] [ExactArithmetic F] in
/-- The first features of a tensor of a matrix, slot by slot. -/
theorem firstFeatures_eq_ofFn {slots : Nat} (matrix : Vector (Vector F 4) slots) (column : 0 < 4) :
    NpuEngine.firstFeatures (InputTensor.fromF32Matrix matrix QuantizationParams.default) =
      List.ofFn fun i : Fin slots => (quantizeF32ToI8 (matrix[i])[0] QuantizationParams.default).toInt := by
  unfold NpuEngine.firstFeatures InputTensor.fromF32Matrix
  apply List.ext_getElem
  · rw [List.length_map, Vector.length_toList, List.length_ofFn]
  · intro i inRows inFn
    simp only [List.getElem_map, Vector.getElem_toList, Vector.getElem_map, List.getElem_ofFn,
      Fin.getElem_fin]

/-- The first features of the matrix of a window are the levels of its events, and zeros. -/
theorem sum_firstFeatures_audit (sha256 : List UInt8 → Bytes 32) {tracker : EventSequenceTracker}
    (short : tracker.events.length ≤ 16) :
    (NpuEngine.firstFeatures (InputTensor.fromF32Matrix
      (tracker.buildTensorMatrix sha256 : Vector (Vector F 4) 16) QuantizationParams.default)).sum =
      (tracker.events.map fun e => e.eventId.level).sum := by
  rw [firstFeatures_eq_ofFn _ (by decide), ← sum_ofFn_getElem? (fun e => e.eventId.level) short]
  apply congrArg (fun slot => (List.ofFn slot).sum)
  funext i
  exact toInt_quantize_slot sha256 tracker i.val i.isLt

/-- The score of a window reaches the threshold exactly if its levels add up to 1728. -/
theorem auditBaseline_reaches_iff (sha256 : List UInt8 → Bytes 32) {tracker : EventSequenceTracker}
    (short : tracker.events.length ≤ 16) :
    LiveLoop.reaches (.ok (NpuEngine.auditBaseline (InputTensor.fromF32Matrix
      (tracker.buildTensorMatrix sha256 : Vector (Vector F 4) 16) QuantizationParams.default) : F)) = true ↔
      1728 ≤ (tracker.events.map fun e => e.eventId.level).sum := by
  have sixteen : (16.0 : F) = ((16 : Nat) : F) := by norm_num
  have reached := baseline_reaches_iff (InputTensor.fromF32Matrix
    (tracker.buildTensorMatrix sha256 : Vector (Vector F 4) 16) QuantizationParams.default) _ sixteen
    (by decide)
  rw [sum_firstFeatures_audit sha256 short] at reached
  refine reached.trans ?_
  omega

end Exact

/-- What a sum of levels says about the grave events among them. -/
theorem sum_level_le (events : List SecurityEventRecord) :
    (events.map fun e => e.eventId.level).sum ≤
      102 * events.length + 25 * (events.countP fun e => decide e.eventId.IsGrave) := by
  induction events with
  | nil => simp
  | cons event rest ih =>
      rw [List.map_cons, List.sum_cons, List.length_cons, List.countP_cons]
      have single : event.eventId.level ≤ 102 + if decide event.eventId.IsGrave = true then 25 else 0 := by
        cases event.eventId <;> decide
      split at single
      · rename_i grave
        rw [if_pos grave]
        push_cast
        omega
      · rename_i minor
        rw [if_neg minor]
        push_cast
        omega

namespace Sentinel

/-- The subscriber is its tracker. -/
theorem subscriber_final (sha256 : List UInt8 → Bytes 32) (subscriber : EventSubscriber)
    (records : List SecurityEventRecord) :
    final (EventSubscriber.ingestEvent sha256) subscriber records =
      ⟨final (EventSequenceTracker.recordEvent sha256) subscriber.tracker records⟩ := by
  induction records generalizing subscriber with
  | nil => rfl
  | cons record rest ih => exact ih _

section Audit

variable {D F : Type} [Add D] [Sub D] [Mul D] [Div D] [LE D] [LT D] [DecidableLE D] [DecidableLT D]
  [NatCast D] [OfScientific D] [FloatOps D] [Field F] [LinearOrder F] [IsStrictOrderedRing F] [FloorRing F]
  [FloatOps F] [ExactArithmetic F] [AsF32 D F] (host : SentinelHost D F) (config : KavachConfig)

omit [IsStrictOrderedRing F] [FloorRing F] [ExactArithmetic F] in
/-- The window of the subscriber in a run of the daemon. -/
theorem events_of_run (session : NpuSession) (before : List SentinelInput) :
    (final (step host config) (new config session : Sentinel D) before).eventSubscriber.tracker.events =
      recentRecords before := by
  have alone : (final (step host config) (new config session : Sentinel D) before).eventSubscriber =
      final (EventSubscriber.ingestEvent host.sha256) EventSubscriber.new
        (before.flatMap SentinelInput.records) :=
    ((eventComponent host config).run_alone (fun _ _ => rfl) (new config session) before).2
  rw [alone, subscriber_final]
  exact EventSequenceTracker.final_window host.sha256 (before.flatMap SentinelInput.records)

/-- Head 3 alerts on the CPU baseline exactly if the levels of the last sixteen records add up to 1728,
    after any interleaving of sensor events, frames and sections of the loop. An alert therefore needs at
    least fourteen records and at least four grave ones among them: no number of failed logons, service
    installations and scripts raises it. -/
theorem audit_alert_iff (session : NpuSession) {m : ModelManifest} (active : session.state = .active m)
    (cpu : session.engine.ortSession = none) (before : List SentinelInput)
    (turn : before.countP SentinelInput.isLoop % 3 = 2) (order : List FlowKey) (attempt : PipeAttempt) :
    let s : Sentinel D := final (step host config) (new config session) before
    ∃ score : F, (step host config s (.loop order attempt)).1 = .head ⟨.audit, .ok score, none⟩ ∧
      (LiveLoop.reaches (.ok score) = true ↔
        1728 ≤ ((recentRecords before).map fun e => e.eventId.level).sum) ∧
      (LiveLoop.reaches (.ok score) = true → 14 ≤ (recentRecords before).length ∧
        4 ≤ (recentRecords before).countP fun e => decide e.eventId.IsGrave) := by
  intro s
  obtain ⟨phase, stays, runtime⟩ := active_of_run host config active before
  have third : phaseAt (before.countP SentinelInput.isLoop) = .audit := by simp [phaseAt, turn]
  have window : s.eventSubscriber.tracker.events = recentRecords before :=
    events_of_run host config session before
  have few : (recentRecords before).length ≤ 16 := by
    rw [recentRecords, List.length_drop]
    omega
  have alerts := auditBaseline_reaches_iff (F := F) host.sha256 (window ▸ few)
  rw [window] at alerts
  refine ⟨_, step_audit host config (phase.trans third) stays (runtime.trans cpu) order attempt, alerts, ?_⟩
  intro high
  have total := alerts.mp high
  have most := sum_level_le (recentRecords before)
  have grave := List.countP_le_length (p := fun e : SecurityEventRecord => decide e.eventId.IsGrave)
    (l := recentRecords before)
  omega

end Audit

/-- A host without a runtime. -/
def cpuHost : SentinelHost ℚ ℚ :=
  { log2 := id
    float := ⟨id, id, fun _ => Bytes.replicate 8 0⟩
    sha256 := fun _ => Bytes.replicate 32 0
    npu := { NpuSession.shippedHost with npuHardware := false }
    startTs := 0 }

/-- A record of the given event. -/
def recordOf (id : CriticalEventId) : SecurityEventRecord :=
  ⟨id, 0, 4, "SYSTEM", "EventLog"⟩

/-- Two sections of the loop, twelve services installed and the log cleared four times. -/
def fourClearances : List SentinelInput :=
  [.loop [] .openFailed, .loop [] .openFailed] ++
    (List.replicate 12 (.eventLog (recordOf .serviceInstall)) ++
      List.replicate 4 (.eventLog (recordOf .auditLogCleared)))

/-- Four clearances are enough. -/
theorem fourClearances_alert : ∃ score : ℚ,
    (step cpuHost KavachConfig.safeDefaults
      (final (step cpuHost KavachConfig.safeDefaults)
        (new KavachConfig.safeDefaults (NpuSession.newActive cpuHost.npu shippedManifest)) fourClearances)
      (.loop [] .openFailed)).1 = .head ⟨.audit, .ok score, none⟩ ∧ LiveLoop.reaches (.ok score) = true := by
  obtain ⟨score, answered, alerts, _⟩ := audit_alert_iff cpuHost KavachConfig.safeDefaults
    (NpuSession.newActive cpuHost.npu shippedManifest) rfl rfl fourClearances (by decide) [] .openFailed
  exact ⟨score, answered, alerts.mpr (by decide)⟩

end Sentinel

end KavachNpu

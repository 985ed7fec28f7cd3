/-
Module: KavachNpu.Proofs.SentinelRuns
Layer: Proofs
Purpose: Runs of the live daemon, in any order of its critical sections. `loopSection_spec` says everything a
  section of the loop does; from it each engine and the inference session are components of the daemon, so
  that what one of them answers in a run is what it answers to its own calls alone. Over whole runs the daemon
  is fail-closed, and its loop visits the heads in turn.
Trusted boundary: none
Main exports: Sentinel.loopSection_spec, Sentinel.tripwireComponent, Sentinel.beaconComponent,
  Sentinel.eventComponent, Sentinel.sessionComponent, Sentinel.scores_of_run, Sentinel.daemon_fail_closed,
  Sentinel.loop_of_run
-/
import KavachNpu.Daemon.Sentinel
import KavachNpu.Foundation.Components
import KavachNpu.Proofs.ModelLoading

namespace KavachNpu

/-- The phase after a section. -/
def LoopPhase.next : LoopPhase → LoopPhase
  | .io => .net
  | .net => .audit
  | .audit => .io

namespace SentinelInput

/-- The file operation an input hands to the tripwire. -/
def operations : SentinelInput → List FileOperation
  | .kernelFile event => [event.operation]
  | _ => []

/-- The packet an input hands to the beacon engine, with its flow. -/
def packets : SentinelInput → List (FlowKey × PacketMeta)
  | .tcpip event => [(event.flowKey, event.meta)]
  | _ => []

/-- The record an input hands to the event subscriber. -/
def records : SentinelInput → List SecurityEventRecord
  | .eventLog record => [record]
  | _ => []

/-- Whether an input is a section of the loop. -/
def isLoop : SentinelInput → Bool
  | .loop _ _ => true
  | _ => false

end SentinelInput

namespace Sentinel

/-- The head of the `k`-th section of the loop, counted from zero. -/
def phaseAt (k : Nat) : LoopPhase :=
  if k % 3 = 0 then .io else if k % 3 = 1 then .net else .audit

/-- The loop has run `k` sections since it began. -/
structure AtSection {D : Type} (s : Sentinel D) (k : Nat) : Prop where
  phase : s.phase = phaseAt k
  tick : s.tick = UInt64.ofNat ((k + 2) / 3)

section Entries

variable {D S : Type}

/-- The evaluation in a reply of the tripwire. -/
def bursts : SentinelReply D S → List (Option (ProcessBurstEvaluation D S))
  | .burst result => [result]
  | _ => []

/-- The alert in a reply of the event subscriber. -/
def alerts : SentinelReply D S → List (Option EventAnomalyAlert)
  | .event result => [result]
  | _ => []

/-- The report of a section of the loop. -/
def reports : SentinelReply D S → List (HeadReport S)
  | .head report => [report]
  | _ => []

end Entries

section Arithmetic

variable {D S : Type} [Add D] [Sub D] [Mul D] [Div D] [LE D] [LT D] [DecidableLE D] [DecidableLT D]
  [NatCast D] [OfScientific D] [FloatOps D] [Add S] [Mul S] [Div S] [Neg S] [LE S] [LT S] [DecidableLE S]
  [DecidableLT S] [NatCast S] [IntCast S] [OfScientific S] [FloatOps S] [AsF32 D S]
  (host : SentinelHost D S) (config : KavachConfig)

/-- Everything a section of the loop does: it asks the session once, dispatches if it is head 1 and the
    score reaches the threshold, and moves on to the next section. No engine changes. -/
theorem loopSection_spec (s : Sentinel D) (order : List FlowKey) (attempt : PipeAttempt) :
    loopSection host config s order attempt =
      ({ phase := s.phase
         score := (s.npuSession.evaluate host.npu (s.headCall host order)).1
         dispatched :=
          if s.phase = .io ∧
              LiveLoop.reaches (s.npuSession.evaluate host.npu (s.headCall host order)).1 = true then
            some (LiveLoop.verdict config.liveLoop host.startTs (s.tick + 1),
              PipeVerdictDispatcher.dispatchPipe attempt)
          else
            none },
        { s with
          npuSession := (s.npuSession.evaluate host.npu (s.headCall host order)).2
          tick := s.nextTick
          phase := s.phase.next }) := by
  unfold loopSection nextTick
  cases phase : s.phase with
  | io => simp [LoopPhase.next]
  | net => simp [LoopPhase.next]
  | audit => simp [LoopPhase.next]

/-! ### The engines -/

/-- The tripwire engine, fed by the kernel file events. -/
def tripwireComponent : Component (step host config)
    (EntropyEngine.ingestOperation (S := S) host.log2 host.sha256) where
  state := entropyEngine
  calls _ input := input.operations
  replies := bursts
  final_step s input := by
    cases input with
    | loop order attempt => simp [step, loopSection_spec, SentinelInput.operations, final]
    | _ => rfl
  trace_step s input := by cases input <;> rfl

/-- The event subscriber, fed by the log records. -/
def eventComponent : Component (step (S := S) host config)
    (EventSubscriber.ingestEvent host.sha256) where
  state := eventSubscriber
  calls _ input := input.records
  replies := alerts
  final_step s input := by
    cases input with
    | loop order attempt => simp [step, loopSection_spec, SentinelInput.records, final]
    | _ => rfl
  trace_step s input := by cases input <;> rfl

/-! ### The inference session and the loop -/

/-- The session, asked once by each section of the loop. What it is asked depends on the engines. -/
def sessionComponent : Component (step host config) (NpuSession.evaluate host.npu) where
  state := npuSession
  calls s input :=
    match input with
    | .loop order _ => [s.headCall host order]
    | _ => []
  replies reply := (reports reply).map HeadReport.score
  final_step s input := by
    cases input with
    | loop order attempt => simp [step, loopSection_spec, final]
    | _ => rfl
  trace_step s input := by
    cases input with
    | loop order attempt => simp [step, loopSection_spec, reports, trace]
    | _ => rfl

/-- The reports of the loop in a run, in order. -/
def reportsOf (run : List (SentinelInput × SentinelReply D S)) : List (HeadReport S) :=
  run.flatMap fun entry => reports entry.2

/-- Each section of the loop asks the session once. -/
theorem length_asked (start : Sentinel D) (inputs : List SentinelInput) :
    (handed (step host config) (sessionComponent host config).calls start inputs).length =
      inputs.countP SentinelInput.isLoop := by
  induction inputs generalizing start with
  | nil => rfl
  | cons input rest ih =>
      rw [handed, List.length_append, ih, List.countP_cons, Nat.add_comm]
      cases input <;> rfl

/-- The session after a number of evaluations. -/
def counted (session : NpuSession) (n : Nat) : NpuSession :=
  { session with
    engine := { session.engine with
      activeInferences := session.engine.activeInferences + UInt64.ofNat n } }

omit [Neg S] [LE S] [DecidableLE S] [NatCast S] [FloatOps S] in
/-- An active session counts its evaluations and changes in nothing else. -/
theorem final_evaluate_of_active (npu : NpuHost S) {session : NpuSession} {m : ModelManifest}
    (active : session.state = .active m) (calls : List HeadCall) :
    final (NpuSession.evaluate npu) session calls = counted session calls.length := by
  induction calls generalizing session with
  | nil =>
      have zero : session.engine.activeInferences + UInt64.ofNat 0 = session.engine.activeInferences :=
        UInt64.add_zero _
      rw [List.length_nil, counted, zero]
      rfl
  | cons call rest ih =>
      have next : session.engine.activeInferences + 1 + UInt64.ofNat rest.length =
          session.engine.activeInferences + UInt64.ofNat (rest.length + 1) := by
        rw [UInt64.ofNat_add, UInt64.add_assoc, UInt64.add_comm 1]
        rfl
      have stays : ({ session with engine := session.engine.count } : NpuSession).state = .active m := active
      rw [final, (NpuSession.evaluate_of_active npu active call).2, ih stays]
      simp only [counted, NpuEngine.count, List.length_cons, next]

/-- Only a score that reaches the threshold of head 1 is followed by a dispatch. -/
theorem reaches_of_dispatched (start : Sentinel D) (inputs : List SentinelInput) :
    ∀ report ∈ reportsOf (trace (step host config) start inputs), report.dispatched ≠ none →
      report.phase = .io ∧ LiveLoop.reaches report.score = true := by
  intro report member dispatched
  obtain ⟨⟨input, reply⟩, ran, reported⟩ := List.mem_flatMap.mp member
  obtain ⟨before, after, _, replied⟩ := exists_split_of_mem_trace ran
  simp only at replied reported
  rw [replied] at reported
  cases input with
  | loop order attempt =>
      simp only [step, loopSection_spec, reports, List.mem_singleton] at reported
      subst reported
      simp only [ne_eq, ite_eq_right_iff, reduceCtorEq, imp_false, not_not] at dispatched
      exact dispatched
  | _ => cases reported

/-- The scores the loop reports are the answers of the session. -/
theorem scores_of_run (start : Sentinel D) (inputs : List SentinelInput) :
    (reportsOf (trace (step host config) start inputs)).map HeadReport.score =
      (trace (NpuSession.evaluate host.npu) start.npuSession
        (handed (step host config) (sessionComponent host config).calls start inputs)).map Prod.snd := by
  rw [reportsOf, List.map_flatMap]
  exact (sessionComponent host config).trace_eq start inputs

/-- The answers to evaluations with a property shared by all of them have that property in the reports. -/
theorem score_of_report (property : Except NpuError S → Prop) (start : Sentinel D)
    (inputs : List SentinelInput)
    (answers : ∀ calls, ∀ entry ∈ trace (NpuSession.evaluate host.npu) start.npuSession calls,
      property entry.2) :
    ∀ report ∈ reportsOf (trace (step host config) start inputs), property report.score := by
  intro report member
  have listed := List.mem_map_of_mem (f := HeadReport.score) member
  rw [scores_of_run] at listed
  obtain ⟨entry, ran, same⟩ := List.mem_map.mp listed
  rw [← same]
  exact answers _ entry ran

/-- In a run an active session answers every section of the loop and counts it. -/
theorem run_of_active {session : NpuSession} {m : ModelManifest} (active : session.state = .active m)
    (inputs : List SentinelInput) :
    let start : Sentinel D := new config session
    (∀ report ∈ reportsOf (trace (step host config) start inputs), ∃ score, report.score = .ok score) ∧
      (final (step host config) start inputs).npuSession =
        counted session (inputs.countP SentinelInput.isLoop) := by
  intro start
  refine ⟨score_of_report host config (fun answer => ∃ score, answer = .ok score) _ inputs
    (NpuSession.evaluations_of_active host.npu active), ?_⟩
  have asked := (sessionComponent host config).final_eq start inputs
  have counts := final_evaluate_of_active host.npu active
    (handed (step host config) (sessionComponent host config).calls start inputs)
  rw [length_asked] at counts
  exact asked.trans counts

/-- A degraded session refuses them all, nothing is dispatched, and the session stays as it is. -/
theorem run_of_degraded {session : NpuSession} {reason : DegradedReason} {minimum : UInt64} {keyId : String}
    (degraded : session.state = .degradedObserver reason minimum keyId) (inputs : List SentinelInput) :
    let start : Sentinel D := new config session
    (∀ report ∈ reportsOf (trace (step host config) start inputs),
        report.score = .error (.degradedObserver reason) ∧ report.dispatched = none) ∧
      (final (step host config) start inputs).npuSession = session := by
  intro start
  have answers := score_of_report host config (· = .error (.degradedObserver reason)) start inputs
    fun calls => (NpuSession.evaluations_of_degraded host.npu degraded calls).1
  constructor
  · intro report member
    refine ⟨answers report member, ?_⟩
    by_contra dispatched
    have reached := (reaches_of_dispatched host config _ inputs report member dispatched).2
    rw [answers report member] at reached
    cases reached
  · have asked := (sessionComponent host config).final_eq start inputs
    exact asked.trans (NpuSession.evaluations_of_degraded host.npu degraded _).2

/-- The daemon is fail-closed over whole runs. Whatever the configuration, the files and the key, a session
    results, and then in every run, in any order of the critical sections: if the bundle verifies, the
    session answers every section of the loop and counts it; if not, it refuses them all, nothing is ever
    dispatched, and the session, its counter included, never changes. -/
theorem daemon_fail_closed {Key Value : Type} (externals : ManifestExternals Key Value) (fs : FileSystem)
    (keyBytes : Bytes 32) (inputs : List SentinelInput) :
    ∃ session, NpuSession.fromConfig externals fs host.npu config.model.toModelConfig keyBytes =
        .ok session ∧
      let start : Sentinel D := new config session
      let reported := reportsOf (trace (step host config) start inputs)
      let last := final (step host config) start inputs
      ((∃ m, NpuSession.BundleVerifies externals fs config.model.toModelConfig keyBytes m) →
        (∀ report ∈ reported, ∃ score, report.score = .ok score) ∧
        last.npuSession.state = session.state ∧
        last.npuSession.engine.activeInferences = UInt64.ofNat (inputs.countP SentinelInput.isLoop)) ∧
      ((¬ ∃ m, NpuSession.BundleVerifies externals fs config.model.toModelConfig keyBytes m) →
        (∀ report ∈ reported,
          (∃ reason, report.score = .error (.degradedObserver reason)) ∧ report.dispatched = none) ∧
        last.npuSession = session) := by
  rcases NpuSession.fromConfig_cases externals fs host.npu config.model.toModelConfig keyBytes with
    ⟨m, loaded, verifies⟩ | ⟨reason, loaded, refused⟩
  · refine ⟨_, loaded, ?_, fun never => absurd ⟨m, (verifies m).mpr rfl⟩ never⟩
    intro _
    have active : (NpuSession.newActive host.npu m).state = .active m := rfl
    obtain ⟨answered, ended⟩ := run_of_active (D := D) host config active inputs
    have state := congrArg NpuSession.state ended
    have count := congrArg (fun session => session.engine.activeInferences) ended
    exact ⟨answered, state, count.trans (UInt64.zero_add _)⟩
  · refine ⟨_, loaded, fun ⟨m, verified⟩ => absurd verified (refused m), ?_⟩
    intro _
    generalize sessionOf : NpuSession.newDegraded host.npu reason
      config.model.toModelConfig.minimumRollbackGeneration "reference-model-2026-b" = session
    have degraded : session.state = .degradedObserver reason
        config.model.toModelConfig.minimumRollbackGeneration "reference-model-2026-b" := by
      rw [← sessionOf]
      rfl
    obtain ⟨refuses, ended⟩ := run_of_degraded (D := D) host config degraded inputs
    refine ⟨fun report member => ?_, ended⟩
    obtain ⟨refused, silent⟩ := refuses report member
    exact ⟨⟨reason, refused⟩, silent⟩

/-! ### The rounds of the loop -/

omit [Add D] [Sub D] [Mul D] [Div D] [LE D] [LT D] [DecidableLE D] [DecidableLT D] [NatCast D]
  [OfScientific D] [FloatOps D] in
/-- The section after one that comes `k`-th from the start comes `k + 1`-st, and its tick with it. -/
theorem atSection_next {s : Sentinel D} {k : Nat} (at' : AtSection s k) :
    s.phase.next = phaseAt (k + 1) ∧ s.nextTick = UInt64.ofNat ((k + 1 + 2) / 3) := by
  obtain ⟨phase, tick⟩ := at'
  have split : k % 3 = 0 ∨ k % 3 = 1 ∨ k % 3 = 2 := by omega
  unfold nextTick
  rw [phase, tick]
  rcases split with first | second | third
  · have following : (k + 1) % 3 = 1 := by omega
    have round : (k + 1 + 2) / 3 = (k + 2) / 3 + 1 := by omega
    simp [phaseAt, first, following, LoopPhase.next, round]
  · have following : (k + 1) % 3 = 2 := by omega
    have round : (k + 1 + 2) / 3 = (k + 2) / 3 := by omega
    simp [phaseAt, second, following, LoopPhase.next, round]
  · have following : (k + 1) % 3 = 0 := by omega
    have round : (k + 1 + 2) / 3 = (k + 2) / 3 := by omega
    simp [phaseAt, third, following, LoopPhase.next, round]

theorem atSection_step {s : Sentinel D} {k : Nat} (at' : AtSection s k) (order : List FlowKey)
    (attempt : PipeAttempt) : AtSection (step host config s (.loop order attempt)).2 (k + 1) := by
  obtain ⟨phase, tick⟩ := atSection_next at'
  simp only [step, loopSection_spec]
  exact ⟨phase, tick⟩

/-- What the report of the `k`-th section says: its head is the next in turn, and a verdict is dispatched
    exactly if the head is head 1 and its score reaches the threshold; it is then the verdict of the round. -/
structure ReportAt (k : Nat) (report : HeadReport S) : Prop where
  phase : report.phase = phaseAt k
  verdict : report.dispatched.map Prod.fst =
    if k % 3 = 0 ∧ LiveLoop.reaches report.score = true then
      some (LiveLoop.verdict config.liveLoop host.startTs (UInt64.ofNat (k / 3 + 1)))
    else
      none

/-- The report of the section that comes `k`-th. -/
theorem loopSection_reportAt {s : Sentinel D} {k : Nat} (at' : AtSection s k) (order : List FlowKey)
    (attempt : PipeAttempt) : ReportAt host config k (loopSection host config s order attempt).1 := by
  rw [loopSection_spec]
  refine ⟨at'.phase, ?_⟩
  simp only
  have first : s.phase = .io ↔ k % 3 = 0 := by
    rw [at'.phase, phaseAt]
    split
    · rename_i turn
      exact iff_of_true rfl turn
    · rename_i turn
      refine iff_of_false ?_ turn
      split <;> simp
  simp only [first]
  split
  · rename_i alerts
    have round : (k + 2) / 3 = k / 3 := by omega
    have next : UInt64.ofNat (k / 3) + 1 = UInt64.ofNat (k / 3 + 1) := by
      rw [UInt64.ofNat_add]
      rfl
    rw [at'.tick, round, next]
    rfl
  · rfl

/-- From the `k`-th section on, the sections of a run come in turn, and so do their reports. -/
theorem reports_of_sections {s : Sentinel D} {k : Nat} (at' : AtSection s k)
    (inputs : List SentinelInput) :
    AtSection (final (step host config) s inputs) (k + inputs.countP SentinelInput.isLoop) ∧
      ∀ i report, (reportsOf (trace (step host config) s inputs))[i]? = some report →
        ReportAt host config (k + i) report := by
  induction inputs generalizing s k with
  | nil => exact ⟨at', fun i report found => by simp [reportsOf, trace] at found⟩
  | cons input rest ih =>
      cases input with
      | loop order attempt =>
          obtain ⟨ended, reported⟩ := ih (atSection_step host config at' order attempt)
          refine ⟨?_, ?_⟩
          · rw [final, List.countP_cons_of_pos rfl, Nat.add_comm (List.countP _ _), ← Nat.add_assoc]
            exact ended
          · intro i report found
            have unrolled : reportsOf (trace (step host config) s (.loop order attempt :: rest)) =
                (loopSection host config s order attempt).1 ::
                  reportsOf (trace (step host config) (step host config s (.loop order attempt)).2 rest) :=
              rfl
            rw [unrolled] at found
            cases i with
            | zero =>
                cases found
                exact loopSection_reportAt host config at' order attempt
            | succ i =>
                have shifted := reported i report found
                rwa [Nat.add_assoc, Nat.add_comm 1] at shifted
      | _ =>
          -- the other inputs leave the loop where it is
          exact ih (s := (step host config s _).2) ⟨at'.phase, at'.tick⟩

/-- In every run of the daemon, in any order of the critical sections, the loop visits the heads in turn,
    whatever the sensors and the pipe do: the `i`-th section scores head `i mod 3` in round `i / 3 + 1`, and
    a verdict is dispatched exactly at the sections of head 1 whose score reaches 0.85. It is the verdict of
    that round, which always asks to suspend and never to kill. -/
theorem loop_of_run (session : NpuSession) (inputs : List SentinelInput) :
    let run := trace (step host config) (new config session : Sentinel D) inputs
    let last := final (step host config) (new config session : Sentinel D) inputs
    (reportsOf run).length = inputs.countP SentinelInput.isLoop ∧
      last.tick = UInt64.ofNat ((inputs.countP SentinelInput.isLoop + 2) / 3) ∧
      (∀ i report, (reportsOf run)[i]? = some report → ReportAt host config i report) ∧
      ∀ report ∈ reportsOf run, ∀ v outcome, report.dispatched = some (v, outcome) →
        v.requestedAction = .suspendAndAlert ∧
          v.policyGeneration = config.allowlist.requiredPolicyGeneration := by
  intro run last
  have began : AtSection (new config session : Sentinel D) 0 := ⟨rfl, rfl⟩
  obtain ⟨ended, reported⟩ := reports_of_sections host config began inputs
  rw [Nat.zero_add] at ended
  have listed : ∀ i report, (reportsOf run)[i]? = some report → ReportAt host config i report := by
    intro i report found
    have turn := reported i report found
    rwa [Nat.zero_add] at turn
  refine ⟨?_, ended.tick, listed, ?_⟩
  · have scores := congrArg List.length (scores_of_run host config (new config session) inputs)
    rw [List.length_map, List.length_map, length_trace, length_asked] at scores
    exact scores
  · intro report member v outcome dispatched
    obtain ⟨i, found⟩ := List.mem_iff_getElem?.mp member
    have verdict := (listed i report found).verdict
    rw [dispatched, Option.map_some] at verdict
    split at verdict
    · cases verdict
      exact ⟨rfl, rfl⟩
    · cases verdict

end Arithmetic

end Sentinel

end KavachNpu

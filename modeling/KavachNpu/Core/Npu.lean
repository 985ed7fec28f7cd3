/-
Module: KavachNpu.Core.Npu
Layer: Core
Purpose: The inference session: active with a verified manifest, or a degraded observer that refuses every
  evaluation. `HeadCall` collects the evaluations a session can be asked for.
Trusted boundary: human-reviewed spec
Main exports: NpuError, NpuState, NpuSession, NpuSession.fromConfig, HeadCall, NpuSession.evaluate
-/
import KavachNpu.Core.Manifest
import KavachNpu.Core.NpuBackend

namespace KavachNpu

/-- Errors of an evaluation. -/
inductive NpuError where
  | degradedObserver (reason : DegradedReason)
  | executionFailed (message : String)
deriving DecidableEq

/-- Operational state of the session. -/
inductive NpuState where
  | active (manifest : ModelManifest)
  | degradedObserver (reason : DegradedReason) (rollbackMinimum : UInt64) (expectedKeyId : String)
deriving DecidableEq

/-- The session: its state and its engine. -/
structure NpuSession where
  state : NpuState
  engine : NpuEngine
deriving DecidableEq

/-- The model section of the configuration. -/
structure ModelConfig where
  bundleDirectory : String
  minimumRollbackGeneration : UInt64
deriving DecidableEq

namespace NpuSession

variable {S Key Value : Type}

/-- An active session with a verified manifest. -/
def newActive (host : NpuHost S) (manifest : ModelManifest) : NpuSession :=
  { state := .active manifest
    engine := NpuEngine.new host }

/-- A degraded observer session. -/
def newDegraded (host : NpuHost S) (reason : DegradedReason) (rollbackMinimum : UInt64)
    (expectedKeyId : String) : NpuSession :=
  { state := .degradedObserver reason rollbackMinimum expectedKeyId
    engine := NpuEngine.new host }

/-- The session of the configured bundle: active if it verifies, else degraded. -/
def fromConfig (externals : ManifestExternals Key Value) (fs : FileSystem) (host : NpuHost S)
    (config : ModelConfig) (verifyingKeyBytes : Bytes 32) : Outcome Empty NpuSession :=
  match externals.verifyingKeyFromBytes verifyingKeyBytes with
  | .error e =>
      .ok (newDegraded host (.manifestSignatureInvalid ("invalid verifying key: " ++ e))
        config.minimumRollbackGeneration "reference-model-2026-b")
  | .ok verifyingKey =>
      match verifyBundleDir externals fs config.bundleDirectory verifyingKey
          config.minimumRollbackGeneration with
      | .ok manifest => .ok (newActive host manifest)
      | .err reason =>
          .ok (newDegraded host reason config.minimumRollbackGeneration "reference-model-2026-b")
      | .panicked cause => .panicked cause

/-- `is_degraded`. -/
def isDegraded (session : NpuSession) : Bool :=
  match session.state with
  | .degradedObserver _ _ _ => true
  | .active _ => false

/-- Refuses in the degraded state, and otherwise runs the inference on the engine. -/
def evaluateHead (session : NpuSession) (inference : NpuEngine → S × NpuEngine) :
    Except NpuError S × NpuSession :=
  match session.state with
  | .degradedObserver reason _ _ => (.error (.degradedObserver reason), session)
  | .active _ =>
      let (score, engine) := inference session.engine
      (.ok score, { session with engine := engine })

variable [Add S] [Mul S] [Div S] [LT S] [DecidableLT S] [IntCast S] [OfScientific S]

/-- Evaluates head 1. -/
def evaluateIoHead (host : NpuHost S) (session : NpuSession) (input : IoInputTensor) :
    Except NpuError S × NpuSession :=
  session.evaluateHead fun engine => engine.runIoInference host input

/-- Evaluates head 2. -/
def evaluateNetHead (host : NpuHost S) (session : NpuSession) (input : NetInputTensor) :
    Except NpuError S × NpuSession :=
  session.evaluateHead fun engine => engine.runNetInference host input

/-- Evaluates head 3. -/
def evaluateAuditHead (host : NpuHost S) (session : NpuSession) (input : AuditInputTensor) :
    Except NpuError S × NpuSession :=
  session.evaluateHead fun engine => engine.runAuditInference host input

end NpuSession

/-- One evaluation of a session. -/
inductive HeadCall where
  | io (input : IoInputTensor)
  | net (input : NetInputTensor)
  | audit (input : AuditInputTensor)

/-- Runs one evaluation. -/
def NpuSession.evaluate {S : Type} [Add S] [Mul S] [Div S] [LT S] [DecidableLT S] [IntCast S]
    [OfScientific S] (host : NpuHost S) (session : NpuSession) :
    HeadCall → Except NpuError S × NpuSession
  | .io input => session.evaluateIoHead host input
  | .net input => session.evaluateNetHead host input
  | .audit input => session.evaluateAuditHead host input

end KavachNpu

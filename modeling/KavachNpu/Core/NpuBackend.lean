/-
Module: KavachNpu.Core.NpuBackend
Layer: Core
Purpose: The multi-head inference engine. It commits a model to the ONNX Runtime through a cascade of
  execution providers and scores with the session or, without one, with the CPU baseline. The runtime is
  third-party code: whether it accepts a model and what a session answers are parameters, and a session is
  the model it was committed from together with its provider.
Trusted boundary: human-reviewed spec
Main exports: NpuHardwareInfo, OrtRuntime, OrtBackendSession, OrtBackendSession.fromBytes, NpuEngine,
  NpuEngine.runIoInference
-/
import KavachNpu.Core.ReferenceOnnx
import KavachNpu.Core.Tensor

namespace KavachNpu

/-- Execution backend selected for inference. -/
inductive ExecutionProviderBackend where
  | amdXdnaNpu
  | directMlGpu
  | nativeCpuBaseline
deriving DecidableEq

/-- Hardware presence and runtime files. -/
structure NpuHardwareInfo where
  deviceDetected : Bool
  driverVersion : Option String
  runtimeBinDir : Option String
  xclbinPath : Option String
  selectedBackend : ExecutionProviderBackend
deriving DecidableEq

/-- `NpuHardwareInfo::probe`, from what it finds on the system. -/
def NpuHardwareInfo.probe (runtimeBin xclbin : Option String) (deviceDetected : Bool)
    (driverVersion : Option String) : NpuHardwareInfo :=
  let hasRuntime := runtimeBin.isSome && xclbin.isSome
  { deviceDetected := deviceDetected
    driverVersion := driverVersion
    runtimeBinDir := runtimeBin
    xclbinPath := xclbin
    selectedBackend :=
      if deviceDetected && hasRuntime then
        .amdXdnaNpu
      else if hasRuntime then
        .directMlGpu
      else
        .nativeCpuBaseline }

/-- The execution provider a session is built with. -/
inductive Provider where
  | vitis
  | directML
  | cpu
deriving DecidableEq

/-- An ONNX Runtime session: the model it was committed from, and its provider. -/
structure OrtSession where
  onnxBytes : List UInt8
  provider : Provider
deriving DecidableEq

/-- The ONNX Runtime: the outcome of `commit_from_memory`, and the three raw scores of a run. -/
structure OrtRuntime (S : Type) where
  commitFromMemory : Provider → List UInt8 → Except String Unit
  run : OrtSession → IoInputTensor → NetInputTensor → AuditInputTensor → Except String (S × S × S)

/-- Active session with its backend. -/
structure OrtBackendSession where
  session : OrtSession
  backend : ExecutionProviderBackend
deriving DecidableEq

/-- What the engine finds on its host: the probed hardware, the runtime, and whether
    `KAVACH_ENABLE_VITIS_AI` is set. `npuHardware` tells whether the crate was built with the
    `npu-hardware` feature. -/
structure NpuHost (S : Type) where
  npuHardware : Bool
  info : NpuHardwareInfo
  ort : OrtRuntime S
  enableVitis : Bool

namespace OrtBackendSession

variable {S : Type}

/-- Commits a model through the provider cascade: Vitis AI if opted in and present, DirectML, CPU. -/
def fromBytes (host : NpuHost S) (onnxBytes : List UInt8) : Except String OrtBackendSession :=
  let commit := fun provider => host.ort.commitFromMemory provider onnxBytes
  let vitis : Option (Except String Unit) :=
    if host.enableVitis && host.info.deviceDetected && host.info.runtimeBinDir.isSome &&
        host.info.xclbinPath.isSome then
      some (commit .vitis)
    else
      none
  match vitis with
  | some (.ok ()) => .ok ⟨⟨onnxBytes, .vitis⟩, .amdXdnaNpu⟩
  | _ =>
      let lastErr :=
        match vitis with
        | some (.error e) => "VitisAI EP failed: " ++ e ++ "; "
        | _ => ""
      match commit .directML with
      | .ok () => .ok ⟨⟨onnxBytes, .directML⟩, .directMlGpu⟩
      | .error e =>
          let lastErr := lastErr ++ "DirectML EP failed: " ++ e ++ "; "
          match commit .cpu with
          | .ok () => .ok ⟨⟨onnxBytes, .cpu⟩, .nativeCpuBaseline⟩
          | .error e =>
              .error ("all execution providers failed (CPU error: " ++ e ++ ", prior: " ++
                lastErr ++ ")")

/-- Commits the reference model. -/
def fromReferenceModel (host : NpuHost S) : Except String OrtBackendSession :=
  fromBytes host generateReferenceOnnx

variable [Div S] [LT S] [DecidableLT S] [OfScientific S]

/-- One evaluation of the graph, with the raw scores brought into `[0, 1]`. -/
def runMultiHead (host : NpuHost S) (self : OrtBackendSession) (io : IoInputTensor)
    (net : NetInputTensor) (audit : AuditInputTensor) : Except String (S × S × S) :=
  match host.ort.run self.session io net audit with
  | .ok (ioRaw, netRaw, auditRaw) =>
      .ok (clamp (ioRaw / 127.0) 0.0 1.0, clamp (netRaw / 127.0) 0.0 1.0,
        clamp (auditRaw / 127.0) 0.0 1.0)
  | .error e => .error e

/-- The tensor of zeros that stands in for the other heads. -/
def dummy (slots : Nat) : InputTensor slots :=
  ⟨Vector.replicate slots (Vector.replicate 4 0)⟩

/-- Head 1. -/
def runIoInference (host : NpuHost S) (self : OrtBackendSession) (tensorData : IoInputTensor) :
    Except String S :=
  (self.runMultiHead host tensorData (dummy 32) (dummy 16)).map fun scores => scores.1

/-- Head 2. -/
def runNetInference (host : NpuHost S) (self : OrtBackendSession) (tensorData : NetInputTensor) :
    Except String S :=
  (self.runMultiHead host (dummy 10) tensorData (dummy 16)).map fun scores => scores.2.1

/-- Head 3. -/
def runAuditInference (host : NpuHost S) (self : OrtBackendSession) (tensorData : AuditInputTensor) :
    Except String S :=
  (self.runMultiHead host (dummy 10) (dummy 32) tensorData).map fun scores => scores.2.2

end OrtBackendSession

/-- The inference engine. Without the `npu-hardware` feature it has no runtime session. -/
structure NpuEngine where
  info : NpuHardwareInfo
  activeInferences : UInt64
  ortSession : Option OrtBackendSession
deriving DecidableEq

namespace NpuEngine

variable {S : Type}

/-- `Result::ok`, in a build with the feature. -/
def sessionOf (host : NpuHost S) (result : Except String OrtBackendSession) :
    Option OrtBackendSession :=
  if host.npuHardware then result.toOption else none

/-- The engine of the reference model. -/
def new (host : NpuHost S) : NpuEngine :=
  { info := host.info
    activeInferences := 0
    ortSession := sessionOf host (OrtBackendSession.fromReferenceModel host) }

/-- The engine of the given model. -/
def withOnnxBytes (host : NpuHost S) (onnxBytes : List UInt8) : NpuEngine :=
  { info := host.info
    activeInferences := 0
    ortSession := sessionOf host (OrtBackendSession.fromBytes host onnxBytes) }

/-- `active_inferences.fetch_add(1)`. -/
def count (engine : NpuEngine) : NpuEngine :=
  { engine with activeInferences := engine.activeInferences + 1 }

/-- The score of the runtime session if there is one and it answers, else the baseline's. -/
def scoreOr (engine : NpuEngine) (session : OrtBackendSession → Except String S) (baseline : S) : S :=
  match engine.ortSession with
  | some ort =>
      match session ort with
      | .ok score => score
      | .error _ => baseline
  | none => baseline

variable [Add S] [Mul S] [Div S] [LT S] [DecidableLT S] [IntCast S] [OfScientific S]

/-- The CPU baseline of head 1: weighted mean of entropy and intermittent score. -/
def ioBaseline (tensorData : IoInputTensor) : S :=
  let score : S := tensorData.data.foldl
    (fun score row =>
      let entropyNorm := (row[0].toInt : S) / 127.0
      let intermittent := (row[3].toInt : S) / 127.0
      score + (entropyNorm * 0.7 + intermittent * 0.3))
    0.0
  clamp (score / 10.0) 0.0 1.0

/-- The sum of the first feature over all slots. -/
def firstFeatureSum {slots : Nat} (tensorData : InputTensor slots) : S :=
  tensorData.data.foldl (fun score row => score + (row[0].toInt : S) / 127.0) 0.0

/-- The first features themselves, slot by slot. -/
def firstFeatures {slots : Nat} (tensor : InputTensor slots) : List Int :=
  tensor.data.toList.map fun row => row[0].toInt

/-- The CPU baseline of head 2. -/
def netBaseline (tensorData : NetInputTensor) : S :=
  clamp (firstFeatureSum tensorData / 32.0) 0.0 1.0

/-- The CPU baseline of head 3. -/
def auditBaseline (tensorData : AuditInputTensor) : S :=
  clamp (firstFeatureSum tensorData / 16.0) 0.0 1.0

/-- Computes the I/O anomaly score. -/
def runIoInference (host : NpuHost S) (engine : NpuEngine) (tensorData : IoInputTensor) :
    S × NpuEngine :=
  (engine.scoreOr (fun ort => ort.runIoInference host tensorData) (ioBaseline tensorData), engine.count)

/-- Computes the network timing score. -/
def runNetInference (host : NpuHost S) (engine : NpuEngine) (tensorData : NetInputTensor) :
    S × NpuEngine :=
  (engine.scoreOr (fun ort => ort.runNetInference host tensorData) (netBaseline tensorData),
    engine.count)

/-- Computes the audit event sequence score. -/
def runAuditInference (host : NpuHost S) (engine : NpuEngine) (tensorData : AuditInputTensor) :
    S × NpuEngine :=
  (engine.scoreOr (fun ort => ort.runAuditInference host tensorData) (auditBaseline tensorData),
    engine.count)

end NpuEngine

end KavachNpu

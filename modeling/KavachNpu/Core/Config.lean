/-
Module: KavachNpu.Core.Config
Layer: Core
Purpose: The configuration file: its sections with their defaults, the bounds it is checked against, and
  loading with a fall back to the safe defaults. The TOML parser is third-party code and enters as a
  parameter: it answers with the fields a text sets, or with the text of its error.
Trusted boundary: human-reviewed spec
Main exports: KavachConfig, ConfigError, TomlConfig, TomlConfig.resolve, KavachConfig.validate,
  KavachConfig.fromTomlStr, KavachConfig.loadOrSafeDefaults
-/
import KavachNpu.Core.Npu

namespace KavachNpu

/-- Containment policy settings. -/
structure ContainmentConfig where
  hardKillEnabled : Bool
  minimumCorroboratingEvidence : UInt8
  suspendActionTtlSeconds : UInt32
deriving DecidableEq

/-- Local signed allowlist settings. -/
structure AllowlistConfig where
  manifestPath : String
  requiredPolicyGeneration : UInt64
deriving DecidableEq

/-- The whole of `ModelConfig`: what the session reads, and the two fields it does not. -/
structure ModelSettings extends ModelConfig where
  minimumKeyringGeneration : UInt64
  allowLastKnownGood : Bool
deriving DecidableEq

/-- Settings of the WSL2 sentinel. -/
structure WslConfig where
  correlationWindowMs : UInt32
  maximumClockUncertaintyMs : UInt32
  clockSyncIntervalSeconds : UInt32
  clockSyncStaleAfterSeconds : UInt32
  ambiguousVmContainmentEnabled : Bool
deriving DecidableEq

/-- Root configuration. -/
structure KavachConfig where
  artifactVersion : ArtifactVersion
  containment : ContainmentConfig
  allowlist : AllowlistConfig
  model : ModelSettings
  wsl : WslConfig
deriving DecidableEq

/-- Errors of loading and of the bounds check. -/
inductive ConfigError where
  | ioError (message : String)
  | parseError (message : String)
  | unsupportedMajorVersion (major : UInt16)
  | invalidBounds (message : String)
deriving DecidableEq

/-- The `Display` text. -/
def ConfigError.display : ConfigError → String
  | .ioError msg => "configuration I/O error: " ++ msg
  | .parseError msg => "configuration syntax error: " ++ msg
  | .unsupportedMajorVersion v => "unsupported configuration major version: " ++ toString v
  | .invalidBounds msg => "configuration bounds violation: " ++ msg

/-! ### Defaults -/

/-- `default_false`. -/
def defaultFalse : Bool := false

/-- `default_true`. -/
def defaultTrue : Bool := true

/-- `default_min_evidence`. -/
def defaultMinEvidence : UInt8 := 3

/-- `default_suspend_ttl`. -/
def defaultSuspendTtl : UInt32 := 3600

/-- `default_allowlist_manifest`. -/
def defaultAllowlistManifest : String := "policy/allowlist.json"

/-- `default_model_bundle_dir`. -/
def defaultModelBundleDir : String := "models/active"

/-- `default_correlation_window_ms`. -/
def defaultCorrelationWindowMs : UInt32 := 250

/-- `default_max_clock_uncertainty_ms`. -/
def defaultMaxClockUncertaintyMs : UInt32 := 50

/-- `default_clock_sync_interval`. -/
def defaultClockSyncInterval : UInt32 := 30

/-- `default_clock_sync_stale`. -/
def defaultClockSyncStale : UInt32 := 90

/-- `ContainmentConfig::default`. -/
def ContainmentConfig.default : ContainmentConfig :=
  { hardKillEnabled := defaultFalse
    minimumCorroboratingEvidence := defaultMinEvidence
    suspendActionTtlSeconds := defaultSuspendTtl }

/-- `AllowlistConfig::default`. -/
def AllowlistConfig.default : AllowlistConfig :=
  { manifestPath := defaultAllowlistManifest
    requiredPolicyGeneration := 0 }

/-- `ModelConfig::default`. -/
def ModelSettings.default : ModelSettings :=
  { bundleDirectory := defaultModelBundleDir
    minimumRollbackGeneration := 0
    minimumKeyringGeneration := 0
    allowLastKnownGood := defaultTrue }

/-- `WslConfig::default`. -/
def WslConfig.default : WslConfig :=
  { correlationWindowMs := defaultCorrelationWindowMs
    maximumClockUncertaintyMs := defaultMaxClockUncertaintyMs
    clockSyncIntervalSeconds := defaultClockSyncInterval
    clockSyncStaleAfterSeconds := defaultClockSyncStale
    ambiguousVmContainmentEnabled := defaultFalse }

/-- The compiled-in safe defaults. -/
def KavachConfig.safeDefaults : KavachConfig :=
  { artifactVersion := { major := 1, minor := 0 }
    containment := ContainmentConfig.default
    allowlist := AllowlistConfig.default
    model := ModelSettings.default
    wsl := WslConfig.default }

/-! ### What a text sets -/

/-- The fields a `[containment]` table sets. -/
structure TomlContainment where
  hardKillEnabled : Option Bool
  minimumCorroboratingEvidence : Option UInt8
  suspendActionTtlSeconds : Option UInt32
deriving DecidableEq

/-- The fields an `[allowlist]` table sets. -/
structure TomlAllowlist where
  manifestPath : Option String
  requiredPolicyGeneration : Option UInt64
deriving DecidableEq

/-- The fields a `[model]` table sets. -/
structure TomlModel where
  bundleDirectory : Option String
  minimumRollbackGeneration : Option UInt64
  minimumKeyringGeneration : Option UInt64
  allowLastKnownGood : Option Bool
deriving DecidableEq

/-- The fields a `[wsl]` table sets. -/
structure TomlWsl where
  correlationWindowMs : Option UInt32
  maximumClockUncertaintyMs : Option UInt32
  clockSyncIntervalSeconds : Option UInt32
  clockSyncStaleAfterSeconds : Option UInt32
  ambiguousVmContainmentEnabled : Option Bool
deriving DecidableEq

/-- What a text of the right types sets. The version has no default: a text without it does not parse. -/
structure TomlConfig where
  artifactVersion : ArtifactVersion
  containment : Option TomlContainment
  allowlist : Option TomlAllowlist
  model : Option TomlModel
  wsl : Option TomlWsl
deriving DecidableEq

/-- The section with its `serde` defaults. -/
def TomlContainment.resolve (toml : TomlContainment) : ContainmentConfig :=
  { hardKillEnabled := toml.hardKillEnabled.getD defaultFalse
    minimumCorroboratingEvidence := toml.minimumCorroboratingEvidence.getD defaultMinEvidence
    suspendActionTtlSeconds := toml.suspendActionTtlSeconds.getD defaultSuspendTtl }

/-- The section with its `serde` defaults. -/
def TomlAllowlist.resolve (toml : TomlAllowlist) : AllowlistConfig :=
  { manifestPath := toml.manifestPath.getD defaultAllowlistManifest
    requiredPolicyGeneration := toml.requiredPolicyGeneration.getD 0 }

/-- The section with its `serde` defaults. -/
def TomlModel.resolve (toml : TomlModel) : ModelSettings :=
  { bundleDirectory := toml.bundleDirectory.getD defaultModelBundleDir
    minimumRollbackGeneration := toml.minimumRollbackGeneration.getD 0
    minimumKeyringGeneration := toml.minimumKeyringGeneration.getD 0
    allowLastKnownGood := toml.allowLastKnownGood.getD defaultTrue }

/-- The section with its `serde` defaults. -/
def TomlWsl.resolve (toml : TomlWsl) : WslConfig :=
  { correlationWindowMs := toml.correlationWindowMs.getD defaultCorrelationWindowMs
    maximumClockUncertaintyMs := toml.maximumClockUncertaintyMs.getD defaultMaxClockUncertaintyMs
    clockSyncIntervalSeconds := toml.clockSyncIntervalSeconds.getD defaultClockSyncInterval
    clockSyncStaleAfterSeconds := toml.clockSyncStaleAfterSeconds.getD defaultClockSyncStale
    ambiguousVmContainmentEnabled := toml.ambiguousVmContainmentEnabled.getD defaultFalse }

/-- The configuration of a text: an absent section is the section's `Default`. -/
def TomlConfig.resolve (toml : TomlConfig) : KavachConfig :=
  { artifactVersion := toml.artifactVersion
    containment := (toml.containment.map TomlContainment.resolve).getD ContainmentConfig.default
    allowlist := (toml.allowlist.map TomlAllowlist.resolve).getD AllowlistConfig.default
    model := (toml.model.map TomlModel.resolve).getD ModelSettings.default
    wsl := (toml.wsl.map TomlWsl.resolve).getD WslConfig.default }

/-! ### Loading -/

namespace KavachConfig

/-- Checks all fields against their bounds, in the source's order. -/
def validate (config : KavachConfig) : Except ConfigError Unit :=
  if config.artifactVersion.major ≠ 1 then
    .error (.unsupportedMajorVersion config.artifactVersion.major)
  else if config.containment.minimumCorroboratingEvidence = 0 then
    .error (.invalidBounds "minimum_corroborating_evidence must be between 1 and 255")
  else if ¬ (60 ≤ config.containment.suspendActionTtlSeconds ∧
      config.containment.suspendActionTtlSeconds ≤ 86400) then
    .error (.invalidBounds ("suspend_action_ttl_seconds (" ++
      toString config.containment.suspendActionTtlSeconds ++ ") must be between 60 and 86400"))
  else if ¬ (10 ≤ config.wsl.correlationWindowMs ∧ config.wsl.correlationWindowMs ≤ 250) then
    .error (.invalidBounds ("correlation_window_ms (" ++ toString config.wsl.correlationWindowMs ++
      ") must be between 10 and 250 in v1"))
  else if ¬ (1 ≤ config.wsl.maximumClockUncertaintyMs ∧ config.wsl.maximumClockUncertaintyMs ≤ 50) then
    .error (.invalidBounds ("maximum_clock_uncertainty_ms (" ++
      toString config.wsl.maximumClockUncertaintyMs ++ ") must be between 1 and 50"))
  else if config.wsl.clockSyncIntervalSeconds ≠ 30 then
    .error (.invalidBounds ("clock_sync_interval_seconds (" ++
      toString config.wsl.clockSyncIntervalSeconds ++ ") is fixed at 30 in v1"))
  else if config.wsl.clockSyncStaleAfterSeconds ≠ 90 then
    .error (.invalidBounds ("clock_sync_stale_after_seconds (" ++
      toString config.wsl.clockSyncStaleAfterSeconds ++ ") is fixed at 90 in v1"))
  else
    .ok ()

/-- Parses and checks a text. -/
def fromTomlStr (toml : String → Except String TomlConfig) (tomlStr : String) :
    Except ConfigError KavachConfig :=
  match toml tomlStr with
  | .error e => .error (.parseError e)
  | .ok document =>
      match document.resolve.validate with
      | .error err => .error err
      | .ok () => .ok document.resolve

/-- Loads a file, falling back to the safe defaults on any failure. -/
def loadOrSafeDefaults (toml : String → Except String TomlConfig) (fs : FileSystem) (path : String) :
    KavachConfig × Option ConfigError :=
  match fs.readToString path with
  | .error e => (safeDefaults, some (.ioError e))
  | .ok content =>
      match fromTomlStr toml content with
      | .ok cfg => (cfg, none)
      | .error err => (safeDefaults, some err)

end KavachConfig

end KavachNpu

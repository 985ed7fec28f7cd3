/-
Module: KavachNpu.Proofs.ConfigLoading
Layer: Proofs
Purpose: What a configuration can be after loading, and what follows for the broker the daemon builds from
  it. Loading never fails and never returns a value out of bounds: a file that cannot be read, does not
  parse or is out of bounds leaves the safe defaults, under which no run of the broker kills a process.
Trusted boundary: none
Main exports: KavachConfig.InBounds, KavachConfig.validate_eq_ok, KavachConfig.loadOrSafeDefaults_cases,
  KavachConfig.load_in_bounds, KavachConfig.hardKill_needs_opt_in
-/
import KavachNpu.Daemon.Sentinel
import KavachNpu.Proofs.BrokerGates

namespace KavachNpu

namespace KavachConfig

/-- The bounds of the schema. -/
structure InBounds (config : KavachConfig) : Prop where
  major : config.artifactVersion.major = 1
  evidence : 1 ≤ config.containment.minimumCorroboratingEvidence
  ttl : 60 ≤ config.containment.suspendActionTtlSeconds ∧
    config.containment.suspendActionTtlSeconds ≤ 86400
  window : 10 ≤ config.wsl.correlationWindowMs ∧ config.wsl.correlationWindowMs ≤ 250
  uncertainty : 1 ≤ config.wsl.maximumClockUncertaintyMs ∧ config.wsl.maximumClockUncertaintyMs ≤ 50
  interval : config.wsl.clockSyncIntervalSeconds = 30
  stale : config.wsl.clockSyncStaleAfterSeconds = 90

theorem one_le_iff_ne_zero (n : UInt8) : 1 ≤ n ↔ n ≠ 0 := by
  rw [UInt8.le_iff_toNat_le, Ne, ← UInt8.toNat_inj]
  change 1 ≤ n.toNat ↔ ¬ n.toNat = 0
  omega

/-- The check passes exactly within the bounds. -/
theorem validate_eq_ok {config : KavachConfig} : config.validate = .ok () ↔ config.InBounds := by
  unfold validate
  constructor
  · intro passed
    split at passed
    · cases passed
    · rename_i major
      split at passed
      · cases passed
      · rename_i evidence
        split at passed
        · cases passed
        · rename_i ttl
          split at passed
          · cases passed
          · rename_i window
            split at passed
            · cases passed
            · rename_i uncertainty
              split at passed
              · cases passed
              · rename_i interval
                split at passed
                · cases passed
                · rename_i stale
                  exact ⟨not_not.mp major, (one_le_iff_ne_zero _).mpr evidence, not_not.mp ttl,
                    not_not.mp window, not_not.mp uncertainty, not_not.mp interval, not_not.mp stale⟩
  · intro bounds
    rw [if_neg (not_not.mpr bounds.major), if_neg ((one_le_iff_ne_zero _).mp bounds.evidence),
      if_neg (not_not.mpr bounds.ttl), if_neg (not_not.mpr bounds.window),
      if_neg (not_not.mpr bounds.uncertainty), if_neg (not_not.mpr bounds.interval),
      if_neg (not_not.mpr bounds.stale)]

/-- The safe defaults pass their own check. -/
theorem safeDefaults_inBounds : safeDefaults.InBounds := by
  apply validate_eq_ok.mp
  decide

section Loading

variable (toml : String → Except String TomlConfig) (fs : FileSystem) (path : String)

/-- The file is there, and its text parses. -/
def Reads (document : TomlConfig) : Prop :=
  ∃ text, fs.readToString path = .ok text ∧ toml text = .ok document

/-- Everything loading can do. -/
theorem loadOrSafeDefaults_cases :
    (∃ e, fs.readToString path = .error e ∧
      loadOrSafeDefaults toml fs path = (safeDefaults, some (.ioError e))) ∨
    (∃ text e, fs.readToString path = .ok text ∧ toml text = .error e ∧
      loadOrSafeDefaults toml fs path = (safeDefaults, some (.parseError e))) ∨
    (∃ document error, Reads toml fs path document ∧ ¬ document.resolve.InBounds ∧
      document.resolve.validate = .error error ∧
      loadOrSafeDefaults toml fs path = (safeDefaults, some error)) ∨
    (∃ document, Reads toml fs path document ∧ document.resolve.InBounds ∧
      loadOrSafeDefaults toml fs path = (document.resolve, none)) := by
  unfold loadOrSafeDefaults
  cases readable : fs.readToString path with
  | error e => exact .inl ⟨e, rfl, rfl⟩
  | ok text =>
      unfold fromTomlStr
      cases parsed : toml text with
      | error e =>
          refine .inr (.inl ⟨text, e, rfl, parsed, ?_⟩)
          simp only [parsed]
      | ok document =>
          have reads : Reads toml fs path document := ⟨text, readable, parsed⟩
          cases checked : document.resolve.validate with
          | error error =>
              refine .inr (.inr (.inl ⟨document, error, reads, ?_, checked, ?_⟩))
              · intro bounds
                rw [validate_eq_ok.mpr bounds] at checked
                cases checked
              · simp only [parsed, checked]
          | ok =>
              refine .inr (.inr (.inr ⟨document, reads, validate_eq_ok.mp checked, ?_⟩))
              simp only [parsed, checked]

/-- Only one document can be read from a path. -/
theorem reads_unique {first second : TomlConfig} (one : Reads toml fs path first)
    (other : Reads toml fs path second) : first = second := by
  obtain ⟨text, readable, parsed⟩ := one
  obtain ⟨text', readable', parsed'⟩ := other
  rw [readable] at readable'
  cases readable'
  rw [parsed] at parsed'
  cases parsed'
  rfl

/-- The loaded configuration is within the bounds. -/
theorem load_bounds : (loadOrSafeDefaults toml fs path).1.InBounds := by
  rcases loadOrSafeDefaults_cases toml fs path with ⟨_, _, loaded⟩ | ⟨_, _, _, _, loaded⟩ |
    ⟨_, _, _, _, _, loaded⟩ | ⟨_, _, bounds, loaded⟩
  · rw [loaded]
    exact safeDefaults_inBounds
  · rw [loaded]
    exact safeDefaults_inBounds
  · rw [loaded]
    exact safeDefaults_inBounds
  · rw [loaded]
    exact bounds

/-- Whatever the file system and the parser do, the loaded configuration is within the bounds. No error is
    reported exactly if the file reads as a document within the bounds, and the configuration is then that
    document with the defaults filled in; with any error it is the safe defaults. -/
theorem load_in_bounds :
    (loadOrSafeDefaults toml fs path).1.InBounds ∧
      ((loadOrSafeDefaults toml fs path).2 = none ↔
        ∃ document, Reads toml fs path document ∧ document.resolve.InBounds) ∧
      (∀ document, Reads toml fs path document → document.resolve.InBounds →
        (loadOrSafeDefaults toml fs path).1 = document.resolve) ∧
      ((loadOrSafeDefaults toml fs path).2 ≠ none →
        (loadOrSafeDefaults toml fs path).1 = safeDefaults) := by
  refine ⟨load_bounds toml fs path, ?_⟩
  rcases loadOrSafeDefaults_cases toml fs path with ⟨e, unreadable, loaded⟩ |
    ⟨text, e, readable, unparsed, loaded⟩ | ⟨document, error, reads, out, _, loaded⟩ |
    ⟨document, reads, bounds, loaded⟩
  · have nothing : ∀ document, ¬ Reads toml fs path document := by
      rintro document ⟨text, readable, _⟩
      rw [unreadable] at readable
      cases readable
    rw [loaded]
    refine ⟨?_, fun document reads => absurd reads (nothing document), fun _ => rfl⟩
    exact iff_of_false (by simp) fun ⟨document, reads, _⟩ => nothing document reads
  · have nothing : ∀ document, ¬ Reads toml fs path document := by
      rintro document ⟨text', readable', parsed⟩
      rw [readable] at readable'
      cases readable'
      rw [unparsed] at parsed
      cases parsed
    rw [loaded]
    refine ⟨?_, fun document reads => absurd reads (nothing document), fun _ => rfl⟩
    exact iff_of_false (by simp) fun ⟨document, reads, _⟩ => nothing document reads
  · have outside : ∀ other, Reads toml fs path other → ¬ other.resolve.InBounds := by
      intro other read
      rw [← reads_unique toml fs path reads read]
      exact out
    rw [loaded]
    refine ⟨?_, fun other read bounds => absurd bounds (outside other read),
      fun _ => rfl⟩
    exact iff_of_false (by simp) fun ⟨other, read, bounds⟩ => outside other read bounds
  · rw [loaded]
    refine ⟨iff_of_true rfl ⟨document, reads, bounds⟩, ?_, fun error => absurd rfl error⟩
    intro other read _
    rw [reads_unique toml fs path reads read]

/-! ### The broker of a loaded configuration -/

/-- A configuration that enables the kill has it from a document that says so. -/
theorem document_of_hardKillEnabled
    (enabled : (loadOrSafeDefaults toml fs path).1.containment.hardKillEnabled = true) :
    ∃ document containment, Reads toml fs path document ∧ document.containment = some containment ∧
      containment.hardKillEnabled = some true ∧
      (loadOrSafeDefaults toml fs path).1 = document.resolve := by
  rcases loadOrSafeDefaults_cases toml fs path with ⟨e, _, loaded⟩ | ⟨text, e, _, _, loaded⟩ |
    ⟨document, error, _, _, _, loaded⟩ | ⟨document, reads, _, loaded⟩
  · rw [loaded] at enabled
    cases enabled
  · rw [loaded] at enabled
    cases enabled
  · rw [loaded] at enabled
    cases enabled
  · rw [loaded] at enabled ⊢
    cases present : document.containment with
    | none =>
        simp only [TomlConfig.resolve, present, Option.map_none, Option.getD_none] at enabled
        cases enabled
    | some containment =>
        refine ⟨document, containment, reads, present, ?_, rfl⟩
        simp only [TomlConfig.resolve, present, Option.map_some, Option.getD_some,
          TomlContainment.resolve] at enabled
        cases set : containment.hardKillEnabled with
        | none =>
            rw [set] at enabled
            cases enabled
        | some value =>
            rw [set, Option.getD_some] at enabled
            rw [enabled]

/-- Killing a process takes an explicit opt-in, end to end. For every file system and parser, and in every
    run of the broker the daemon builds from the loaded configuration, through either route and with any
    purges and rule edits in between: a verdict that asks for a kill is accepted only if the file was read
    and parsed and its document, within the bounds, itself sets the switch to true; the verdict then names
    a process and carries at least the document's minimum of evidence, which is not zero. -/
theorem hardKill_needs_opt_in (calls : List BrokerCall) :
    let config := (loadOrSafeDefaults toml fs path).1
    ∀ entry ∈ trace EnforcementBroker.call (LiveLoop.broker config.liveLoop) calls,
      ∀ v, entry.1.verdict? = some v → v.requestedAction = .hardKill → entry.2.accepted = true →
        ∃ document containment, Reads toml fs path document ∧ config = document.resolve ∧
          document.resolve.InBounds ∧ document.containment = some containment ∧
          containment.hardKillEnabled = some true ∧ v.targetProcessId ≠ 0 ∧
          1 ≤ config.containment.minimumCorroboratingEvidence ∧
          config.containment.minimumCorroboratingEvidence ≤ v.corroboratingEvidenceCount := by
  intro config entry ran v submits asks accepted
  obtain ⟨before, after, _, reply⟩ := exists_split_of_mem_trace ran
  have built := EnforcementBroker.final_config (LiveLoop.broker config.liveLoop) before
  rw [reply] at accepted
  have authorized := (EnforcementBroker.authorized_of_accepted submits accepted).1
  obtain ⟨enabled, evidence⟩ := authorized.hardKill asks
  have switch : config.containment.hardKillEnabled = true := by
    rw [← enabled]
    exact (congrArg (fun values => values.2.1) built).symm
  have minimum : (final EnforcementBroker.call (LiveLoop.broker config.liveLoop)
      before).minimumCorroboratingEvidence = config.containment.minimumCorroboratingEvidence :=
    congrArg (fun values => values.2.2.1) built
  obtain ⟨document, containment, reads, present, sets, same⟩ :=
    document_of_hardKillEnabled toml fs path switch
  have bounds := load_bounds toml fs path
  refine ⟨document, containment, reads, same, ?_, present, sets, ?_, bounds.evidence, ?_⟩
  · rw [← same]
    exact bounds
  · exact authorized.target (by rw [asks]; simp)
  · rw [← minimum]
    exact evidence

end Loading

/-- A configuration that opts in and sets nothing else. -/
def optInText : String :=
  "[artifact_version]\nmajor = 1\nminor = 0\n\n[containment]\nhard_kill_enabled = true\n"

def optInDocument : TomlConfig :=
  { artifactVersion := { major := 1, minor := 0 }
    containment := some ⟨some true, none, none⟩
    allowlist := none
    model := none
    wsl := none }

/-- The parser on that text. -/
def optInToml (text : String) : Except String TomlConfig :=
  if text = optInText then .ok optInDocument else .error "TOML parse error at line 1, column 1"

/-- A file system with that file. -/
def optInFiles : FileSystem :=
  { join := fun base name => base ++ "/" ++ name
    read := fun path =>
      if path = "kavach.toml" then .ok (asBytes optInText)
      else .error "No such file or directory (os error 2)" }

/-- A request to kill, for a broker of the default generation. -/
def killVerdict : Verdict :=
  { LiveLoop.verdict safeDefaults.liveLoop 0 0 with requestedAction := .hardKill }

theorem load_optIn : loadOrSafeDefaults optInToml optInFiles "kavach.toml" =
    (optInDocument.resolve, none) := by
  have text : fromUtf8 (asBytes optInText) = some optInText := fromUtf8_eq_some.mpr rfl
  have readable : optInFiles.readToString "kavach.toml" = .ok optInText := by
    simp only [FileSystem.readToString, optInFiles, if_true, text]
  have parsed : optInToml optInText = .ok optInDocument := if_pos rfl
  have checked : optInDocument.resolve.validate = .ok () := by decide
  simp [loadOrSafeDefaults, fromTomlStr, readable, parsed, checked]

/-- Under that configuration the broker kills once. -/
theorem hardKill_opted_in :
    ∃ document containment, Reads optInToml optInFiles "kavach.toml" document ∧
      document.containment = some containment ∧ containment.hardKillEnabled = some true := by
  have accepted : ((LiveLoop.broker (loadOrSafeDefaults optInToml optInFiles
      "kavach.toml").1.liveLoop).call (.evaluate killVerdict 0)).1.accepted = true := by
    rw [load_optIn]
    apply EnforcementBroker.accepted_of_authorized (v := killVerdict) rfl
    refine ⟨rfl, rfl, by decide, ?_, rfl, rfl, rfl, fun _ => by decide, fun _ => by decide⟩
    simp only [EnforcementBroker.purgeExpiredReplayCache, LiveLoop.broker, EnforcementBroker.new]
    exact Finmap.notMem_empty
  obtain ⟨document, containment, reads, _, _, present, sets, _⟩ :=
    hardKill_needs_opt_in optInToml optInFiles "kavach.toml" [.evaluate killVerdict 0]
      (.evaluate killVerdict 0, _) List.mem_cons_self killVerdict rfl rfl accepted
  exact ⟨document, containment, reads, present, sets⟩

end KavachConfig

end KavachNpu

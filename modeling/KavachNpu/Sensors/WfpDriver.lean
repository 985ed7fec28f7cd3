/-
Module: KavachNpu.Sensors.WfpDriver
Layer: Sensors
Purpose: The driver that owns the quarantine rules and a second set of their identifiers. Its `drop` is a
  function of its own, since the rules are cleared by it and not by the end of the model.
Trusted boundary: human-reviewed spec
Main exports: WfpDriver, WfpDriver.addQuarantine, WfpDriver.removeQuarantine, WfpDriver.drop
-/
import KavachNpu.Firewall.Rule

namespace KavachNpu

/-- Interface to the Windows Filtering Platform. -/
structure WfpDriver where
  registry : WfpRuleRegistry
  activeFilterIds : Finset UInt64
  engineHandle : Nat
  isLive : Bool

namespace WfpDriver

/-- Constructs a new driver. -/
def new : WfpDriver :=
  { registry := WfpRuleRegistry.new
    activeFilterIds := ∅
    engineHandle := 0
    isLive := false }

/-- Injects a quarantine rule. -/
def addQuarantine (driver : WfpDriver) (target : QuarantineTarget) (nowMs : UInt64) :
    Outcome String UInt64 × WfpDriver :=
  let (ruleId, registry) := driver.registry.addQuarantineRule target nowMs
  (.ok ruleId,
    { driver with registry := registry, activeFilterIds := insert ruleId driver.activeFilterIds })

/-- Releases a quarantine rule. -/
def removeQuarantine (driver : WfpDriver) (filterId : UInt64) : Outcome String Unit × WfpDriver :=
  let (removed, registry) := driver.registry.removeRule filterId
  if removed then
    (.ok (),
      { driver with registry := registry, activeFilterIds := driver.activeFilterIds.erase filterId })
  else
    (.err s!"filter rule {filterId} not found", { driver with registry := registry })

/-- The shutdown sweep of `Drop`. -/
def drop (driver : WfpDriver) : WfpDriver :=
  { driver with registry := driver.registry.clearAllOnShutdown, activeFilterIds := ∅ }

end WfpDriver

end KavachNpu

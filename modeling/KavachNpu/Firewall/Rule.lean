/-
Module: KavachNpu.Firewall.Rule
Layer: Firewall
Purpose: The in-memory registry of dynamic quarantine rules. Filter identifiers come from a `u64`
  counter that wraps as the release build does.
Trusted boundary: human-reviewed spec
Main exports: QuarantineTarget, DynamicFilterRule, WfpRuleRegistry
-/
import KavachNpu.Foundation.Bytes
import KavachNpu.Foundation.FiniteMap

namespace KavachNpu

/-- `FWPM_FILTER_FLAG_CLEAR_ACTION_ON_SHUTDOWN`. -/
def fwpmFilterFlagClearActionOnShutdown : UInt32 := 0x10

/-- `std::net::IpAddr`, by its octets. -/
inductive IpAddr where
  | v4 (octets : Bytes 4)
  | v6 (octets : Bytes 16)
deriving DecidableEq

/-- Target resource to be isolated by the autonomous firewall. -/
inductive QuarantineTarget where
  | destinationIpPort (ip : IpAddr) (port : Option UInt16) (protocol : UInt8)
  | wslVirtualSwitch (switchName : String)
deriving DecidableEq

/-- A dynamic packet filtering rule. -/
structure DynamicFilterRule where
  filterId : UInt64
  target : QuarantineTarget
  createdAtMs : UInt64
  wfpFlags : UInt32
  isActive : Bool
deriving DecidableEq

/-- Registry of the active dynamic packet filtering rules. -/
structure WfpRuleRegistry where
  rules : HashMap UInt64 DynamicFilterRule
  nextFilterId : UInt64

namespace WfpRuleRegistry

/-- Creates a new empty registry. -/
def new : WfpRuleRegistry :=
  { rules := ∅, nextFilterId := 1 }

/-- Injects a new dynamic quarantine rule with safe shutdown cleanup flags. -/
def addQuarantineRule (registry : WfpRuleRegistry) (target : QuarantineTarget) (nowMs : UInt64) :
    UInt64 × WfpRuleRegistry :=
  let id := registry.nextFilterId
  let rule : DynamicFilterRule :=
    { filterId := id
      target := target
      createdAtMs := nowMs
      wfpFlags := fwpmFilterFlagClearActionOnShutdown
      isActive := true }
  (id, { rules := registry.rules.insert id rule, nextFilterId := id + 1 })

/-- Removes an existing rule and tells whether there was one. -/
def removeRule (registry : WfpRuleRegistry) (filterId : UInt64) : Bool × WfpRuleRegistry :=
  (decide (filterId ∈ registry.rules), { registry with rules := registry.rules.erase filterId })

/-- Returns the number of rules in the registry. -/
def activeRuleCount (registry : WfpRuleRegistry) : Nat :=
  registry.rules.keys.card

/-- Returns true if a specific target is currently under active quarantine. -/
def isQuarantined (registry : WfpRuleRegistry) (target : QuarantineTarget) : Bool :=
  registry.rules.any fun _ rule => rule.isActive && decide (rule.target = target)

/-- Clears all rules on shutdown. -/
def clearAllOnShutdown (registry : WfpRuleRegistry) : WfpRuleRegistry :=
  { registry with rules := ∅ }

end WfpRuleRegistry

end KavachNpu

/-
Module: KavachNpu.Proofs.QuarantineRules
Layer: Proofs
Purpose: The quarantine rules are the additions not yet undone. Duplicate targets are told apart by the
  identifiers that the additions return; the registry, and the driver with its second set of identifiers,
  hold at any time exactly the additions that no later call has removed or cleared.
Trusted boundary: none
Main exports: QuarantineRules.outstanding, QuarantineRules.Consistent,
  QuarantineRules.quarantine_consistent
-/
import Mathlib.Data.List.Induction
import KavachNpu.Foundation.Trace
import KavachNpu.Sensors.WfpDriver

namespace KavachNpu

namespace QuarantineRules

/-- A call that changes the quarantine. -/
inductive QuarantineCall where
  | add (target : QuarantineTarget) (nowMs : UInt64)
  | remove (filterId : UInt64)
  | clear
deriving DecidableEq

/-! ### What a history leaves standing -/

/-- The calls of a run, each with the identifier it returned, if any. -/
abbrev History := List (QuarantineCall × Option UInt64)

/-- The addition that an entry makes. -/
def opened : QuarantineCall × Option UInt64 → Option (UInt64 × QuarantineTarget)
  | (.add target _, some id) => some (id, target)
  | _ => none

/-- The entry undoes the addition that returned `id`. -/
def ends (id : UInt64) (entry : QuarantineCall × Option UInt64) : Bool :=
  match entry.1 with
  | .add _ _ => false
  | .remove filterId => filterId == id
  | .clear => true

/-- The additions that no later call has removed or cleared. -/
def outstanding : History → List (UInt64 × QuarantineTarget)
  | [] => []
  | entry :: later =>
      ((opened entry).filter fun addition => ! later.any (ends addition.1)).toList ++ outstanding later

/-- The identifiers returned in a history, in order. -/
def returnedIds (history : History) : List UInt64 :=
  history.filterMap Prod.snd

/-- A further entry undoes what it ends and adds what it opens. -/
theorem outstanding_append (history : History) (entry : QuarantineCall × Option UInt64) :
    outstanding (history ++ [entry]) =
      (outstanding history).filter (fun addition => ! ends addition.1 entry) ++ (opened entry).toList := by
  induction history with
  | nil =>
      simp only [List.nil_append, outstanding, List.any_nil, Bool.not_false, List.append_nil,
        List.filter_nil]
      cases opened entry with
      | none => rfl
      | some addition => rfl
  | cons first later ih =>
      rw [List.cons_append]
      simp only [outstanding]
      rw [ih, List.filter_append, List.append_assoc]
      congr 1
      cases opened first with
      | none => rfl
      | some addition =>
          simp only [Option.filter_some, List.any_append, List.any_cons, List.any_nil, Bool.or_false,
            Bool.not_or]
          cases later.any (ends addition.1) with
          | true => simp
          | false => simp [List.filter_cons]; cases ends addition.1 entry <;> rfl

/-! ### The registry and the driver as machines -/

/-- One call on a registry. -/
def callRegistry (registry : WfpRuleRegistry) : QuarantineCall → Option UInt64 × WfpRuleRegistry
  | .add target nowMs =>
      let (id, registry) := registry.addQuarantineRule target nowMs
      (some id, registry)
  | .remove filterId => (none, (registry.removeRule filterId).2)
  | .clear => (none, registry.clearAllOnShutdown)

/-- One call on a driver. -/
def callDriver (driver : WfpDriver) : QuarantineCall → Option UInt64 × WfpDriver
  | .add target nowMs =>
      let (result, driver) := driver.addQuarantine target nowMs
      (result.ok?, driver)
  | .remove filterId => (none, (driver.removeQuarantine filterId).2)
  | .clear => (none, driver.drop)

/-- The registry holds the outstanding additions of the history: the returned identifiers are distinct;
    every rule is stored under its own, active, and flagged for removal on shutdown; a target is
    quarantined, and a removal succeeds, exactly for an outstanding addition; the rules are as many as
    these; and a failed removal changes nothing. -/
structure Consistent (history : History) (registry : WfpRuleRegistry) : Prop where
  distinct : (returnedIds history).Nodup
  stored : ∀ id rule, registry.rules.lookup id = some rule → rule.filterId = id ∧
    rule.isActive = true ∧ rule.wfpFlags = fwpmFilterFlagClearActionOnShutdown
  quarantined : ∀ target, registry.isQuarantined target = true ↔
    ∃ id, (id, target) ∈ outstanding history
  count : registry.activeRuleCount = (outstanding history).length
  removal : ∀ id, ((registry.removeRule id).1 = true ↔ ∃ target, (id, target) ∈ outstanding history) ∧
    ((registry.removeRule id).1 = false → (registry.removeRule id).2 = registry)

/-! ### One call -/

/-- What a history determines of the registry. -/
structure Tracks (history : History) (registry : WfpRuleRegistry) : Prop where
  next : registry.nextFilterId.toNat = 1 + (returnedIds history).length
  below : ∀ id ∈ returnedIds history, id < registry.nextFilterId
  distinct : (returnedIds history).Nodup
  stored : ∀ id rule, registry.rules.lookup id = some rule → id < registry.nextFilterId ∧
    rule.filterId = id ∧ rule.isActive = true ∧ rule.wfpFlags = fwpmFilterFlagClearActionOnShutdown
  standing : ∀ id target, (id, target) ∈ outstanding history ↔
    ∃ rule, registry.rules.lookup id = some rule ∧ rule.target = target
  single : ((outstanding history).map Prod.fst).Nodup

theorem tracks_new : Tracks [] WfpRuleRegistry.new := by
  refine ⟨rfl, ?_, List.nodup_nil, ?_, ?_, List.nodup_nil⟩
  · intro id member
    cases member
  · intro id rule found
    simp [WfpRuleRegistry.new] at found
  · intro id target
    simp [outstanding, WfpRuleRegistry.new]

theorem returnedIds_of_silent (history : History) (c : QuarantineCall) :
    returnedIds (history ++ [(c, none)]) = returnedIds history := by
  simp [returnedIds]

theorem returnedIds_of_add (history : History) (target : QuarantineTarget) (nowMs id : UInt64) :
    returnedIds (history ++ [(.add target nowMs, some id)]) = returnedIds history ++ [id] := by
  simp [returnedIds]

theorem outstanding_of_add (history : History) (target : QuarantineTarget) (nowMs id : UInt64) :
    outstanding (history ++ [(.add target nowMs, some id)]) = outstanding history ++ [(id, target)] := by
  rw [outstanding_append]
  congr 1
  simp [ends]

section Step

variable {history : History} {registry : WfpRuleRegistry} (tracks : Tracks history registry)
include tracks

/-- The next identifier is larger than every one given out, as long as the counter does not wrap. -/
theorem nextFilterId_lt (few : (returnedIds history).length < 2 ^ 64 - 2) :
    registry.nextFilterId < registry.nextFilterId + 1 ∧
      (registry.nextFilterId + 1).toNat = registry.nextFilterId.toNat + 1 := by
  have next : (registry.nextFilterId + 1).toNat = registry.nextFilterId.toNat + 1 := by
    have current := tracks.next
    rw [UInt64.toNat_add]
    apply Nat.mod_eq_of_lt
    change registry.nextFilterId.toNat + 1 < 2 ^ 64
    omega
  refine ⟨?_, next⟩
  rw [UInt64.lt_iff_toNat_lt, next]
  exact Nat.lt_succ_self _

/-- No rule is stored under the next identifier. -/
theorem ne_nextFilterId {id : UInt64} {rule : DynamicFilterRule}
    (found : registry.rules.lookup id = some rule) : id ≠ registry.nextFilterId :=
  UInt64.ne_of_lt (tracks.stored id rule found).1

/-- An addition stands besides the earlier ones. -/
theorem standing_of_add (target : QuarantineTarget) (nowMs : UInt64) (id : UInt64)
    (other : QuarantineTarget) :
    (id, other) ∈ outstanding history ++ [(registry.nextFilterId, target)] ↔
      ∃ rule, (registry.addQuarantineRule target nowMs).2.rules.lookup id = some rule ∧
        rule.target = other := by
  change _ ↔ ∃ rule, Finmap.lookup id (registry.rules.insert registry.nextFilterId _) = some rule ∧ _
  rw [List.mem_append, List.mem_singleton, Prod.mk.injEq, tracks.standing id other]
  by_cases same : id = registry.nextFilterId
  · have absent : ¬ ∃ rule, registry.rules.lookup id = some rule ∧ rule.target = other := by
      rintro ⟨rule, found, _⟩
      exact ne_nextFilterId tracks found same
    rw [same] at absent ⊢
    rw [Finmap.lookup_insert]
    constructor
    · rintro (present | ⟨_, rfl⟩)
      · exact absurd present absent
      · exact ⟨_, rfl, rfl⟩
    · rintro ⟨rule, found, rfl⟩
      cases found
      exact Or.inr ⟨rfl, rfl⟩
  · rw [Finmap.lookup_insert_of_ne _ same]
    simp [same]

/-- An addition stands under a new identifier. -/
theorem tracks_add (few : (returnedIds history).length < 2 ^ 64 - 2) (target : QuarantineTarget)
    (nowMs : UInt64) :
    Tracks (history ++ [(.add target nowMs, some registry.nextFilterId)])
      (registry.addQuarantineRule target nowMs).2 := by
  obtain ⟨grows, next⟩ := nextFilterId_lt tracks few
  have ids := returnedIds_of_add history target nowMs registry.nextFilterId
  have additions := outstanding_of_add history target nowMs registry.nextFilterId
  refine ⟨?_, ?_, ?_, ?_, ?_, ?_⟩
  · change (registry.nextFilterId + 1).toNat = _
    rw [ids, List.length_append, next, tracks.next]
    rfl
  · rw [ids]
    intro id member
    change id < registry.nextFilterId + 1
    rcases List.mem_append.mp member with early | last
    · exact UInt64.lt_trans (tracks.below id early) grows
    · rw [List.mem_singleton.mp last]
      exact grows
  · rw [ids]
    apply List.nodup_append.mpr
    refine ⟨tracks.distinct, List.nodup_singleton _, ?_⟩
    intro id early other last
    rw [List.mem_singleton.mp last]
    exact UInt64.ne_of_lt (tracks.below id early)
  · intro id rule found
    change Finmap.lookup id (registry.rules.insert registry.nextFilterId _) = some rule at found
    by_cases same : id = registry.nextFilterId
    · rw [same, Finmap.lookup_insert] at found
      cases found
      rw [same]
      exact ⟨grows, rfl, rfl, rfl⟩
    · rw [Finmap.lookup_insert_of_ne _ same] at found
      obtain ⟨earlier, kept⟩ := tracks.stored id rule found
      exact ⟨UInt64.lt_trans earlier grows, kept⟩
  · intro id other
    rw [additions]
    exact standing_of_add tracks target nowMs id other
  · rw [additions, List.map_append]
    apply List.nodup_append.mpr
    refine ⟨tracks.single, List.nodup_singleton _, ?_⟩
    intro id early other last
    obtain ⟨⟨_, target'⟩, member, rfl⟩ := List.mem_map.mp early
    obtain ⟨rule, found, _⟩ := (tracks.standing _ target').mp member
    rw [List.mem_singleton.mp last]
    exact ne_nextFilterId tracks found

/-- A call that returns no identifier only takes rules away. -/
theorem tracks_of_silent (c : QuarantineCall) {rules : HashMap UInt64 DynamicFilterRule}
    (kept : ∀ id rule, rules.lookup id = some rule → registry.rules.lookup id = some rule)
    (standing : ∀ id target, (id, target) ∈ outstanding (history ++ [(c, none)]) ↔
      ∃ rule, rules.lookup id = some rule ∧ rule.target = target)
    (single : ((outstanding (history ++ [(c, none)])).map Prod.fst).Nodup) :
    Tracks (history ++ [(c, none)]) { registry with rules := rules } := by
  refine ⟨?_, ?_, ?_, fun id rule found => tracks.stored id rule (kept id rule found), standing, single⟩
  · rw [returnedIds_of_silent]
    exact tracks.next
  · rw [returnedIds_of_silent]
    exact tracks.below
  · rw [returnedIds_of_silent]
    exact tracks.distinct

/-- A removal undoes the addition of its identifier. -/
theorem tracks_remove (filterId : UInt64) :
    Tracks (history ++ [(.remove filterId, none)]) (registry.removeRule filterId).2 := by
  have additions : outstanding (history ++ [(.remove filterId, none)]) =
      (outstanding history).filter fun addition => ! (filterId == addition.1) := by
    rw [outstanding_append]
    exact List.append_nil _
  apply tracks_of_silent tracks
  · intro id rule found
    by_cases same : id = filterId
    · rw [same, Finmap.lookup_erase] at found
      cases found
    · rw [Finmap.lookup_erase_ne same] at found
      exact found
  · intro id target
    rw [additions, List.mem_filter, tracks.standing id target]
    by_cases same : id = filterId
    · rw [same, Finmap.lookup_erase]
      simp
    · have other : ¬ filterId = id := fun eq => same eq.symm
      rw [Finmap.lookup_erase_ne same]
      simp [other]
  · rw [additions]
    exact tracks.single.sublist (List.Sublist.map _ List.filter_sublist)

/-- A shutdown undoes everything. -/
theorem tracks_clear : Tracks (history ++ [(.clear, none)]) registry.clearAllOnShutdown := by
  have additions : outstanding (history ++ [(.clear, none)]) = [] := by
    rw [outstanding_append]
    simp [ends, opened]
  apply tracks_of_silent tracks
  · intro id rule found
    simp at found
  · intro id target
    rw [additions]
    simp
  · rw [additions]
    exact List.nodup_nil

/-- One call carries the relation along. -/
theorem tracks_call (few : (returnedIds history).length < 2 ^ 64 - 2) (c : QuarantineCall) :
    Tracks (history ++ [(c, (callRegistry registry c).1)]) (callRegistry registry c).2 := by
  cases c with
  | add target nowMs => exact tracks_add tracks few target nowMs
  | remove filterId => exact tracks_remove tracks filterId
  | clear => exact tracks_clear tracks

end Step

/-! ### Whole runs -/

/-- The registry after a run. -/
def registryAfter (calls : List QuarantineCall) : WfpRuleRegistry :=
  final callRegistry WfpRuleRegistry.new calls

/-- The history of a run on a registry. -/
def registryHistory (calls : List QuarantineCall) : History :=
  trace callRegistry WfpRuleRegistry.new calls

/-- The driver after a run. -/
def driverAfter (calls : List QuarantineCall) : WfpDriver :=
  final callDriver WfpDriver.new calls

/-- The history of a run on a driver. -/
def driverHistory (calls : List QuarantineCall) : History :=
  trace callDriver WfpDriver.new calls

theorem registryHistory_append (calls : List QuarantineCall) (c : QuarantineCall) :
    registryHistory (calls ++ [c]) =
      registryHistory calls ++ [(c, (callRegistry (registryAfter calls) c).1)] :=
  trace_append ..

theorem registryAfter_append (calls : List QuarantineCall) (c : QuarantineCall) :
    registryAfter (calls ++ [c]) = (callRegistry (registryAfter calls) c).2 :=
  final_append ..

theorem length_registryHistory (calls : List QuarantineCall) :
    (registryHistory calls).length = calls.length := by
  induction calls using List.reverseRecOn with
  | nil => rfl
  | append_singleton calls c ih => simp [registryHistory_append, ih]

/-- The registry follows its history through every run that the counter can count. -/
theorem tracks_of_run {calls : List QuarantineCall} (few : calls.length < 2 ^ 64 - 1) :
    Tracks (registryHistory calls) (registryAfter calls) := by
  induction calls using List.reverseRecOn with
  | nil => exact tracks_new
  | append_singleton calls c ih =>
      rw [List.length_append, List.length_singleton] at few
      have fewer : (returnedIds (registryHistory calls)).length < 2 ^ 64 - 2 := by
        have bounded : (returnedIds (registryHistory calls)).length ≤ (registryHistory calls).length :=
          List.length_filterMap_le ..
        rw [length_registryHistory] at bounded
        omega
      rw [registryHistory_append, registryAfter_append]
      exact tracks_call (ih (by omega)) fewer c

section Offers

variable {history : History} {registry : WfpRuleRegistry} (tracks : Tracks history registry)
include tracks

theorem mem_rules_iff (id : UInt64) :
    id ∈ registry.rules ↔ ∃ target, (id, target) ∈ outstanding history := by
  simp only [tracks.standing]
  rw [Finmap.mem_iff]
  constructor
  · rintro ⟨rule, found⟩
    exact ⟨rule.target, rule, found, rfl⟩
  · rintro ⟨_, rule, found, _⟩
    exact ⟨rule, found⟩

theorem isQuarantined_iff (target : QuarantineTarget) :
    registry.isQuarantined target = true ↔ ∃ id, (id, target) ∈ outstanding history := by
  unfold WfpRuleRegistry.isQuarantined
  rw [HashMap.any_eq_true]
  constructor
  · rintro ⟨id, rule, found, matching⟩
    obtain ⟨_, same⟩ := Bool.and_eq_true_iff.mp matching
    exact ⟨id, (tracks.standing id target).mpr ⟨rule, found, of_decide_eq_true same⟩⟩
  · rintro ⟨id, member⟩
    obtain ⟨rule, found, same⟩ := (tracks.standing id target).mp member
    have active := (tracks.stored id rule found).2.2.1
    exact ⟨id, rule, found, Bool.and_eq_true_iff.mpr ⟨active, decide_eq_true same⟩⟩

theorem activeRuleCount_eq : registry.activeRuleCount = (outstanding history).length := by
  have keys : registry.rules.keys = ((outstanding history).map Prod.fst).toFinset := by
    ext id
    rw [Finmap.mem_keys, mem_rules_iff tracks, List.mem_toFinset, List.mem_map]
    constructor
    · rintro ⟨target, member⟩
      exact ⟨(id, target), member, rfl⟩
    · rintro ⟨⟨_, target⟩, member, rfl⟩
      exact ⟨target, member⟩
  unfold WfpRuleRegistry.activeRuleCount
  rw [keys, List.toFinset_card_of_nodup tracks.single, List.length_map]

/-- What a registry that follows its history offers. -/
theorem consistent_of_tracks : Consistent history registry := by
  refine ⟨tracks.distinct, fun id rule found => (tracks.stored id rule found).2, isQuarantined_iff tracks,
    activeRuleCount_eq tracks, ?_⟩
  intro id
  refine ⟨?_, ?_⟩
  · rw [← mem_rules_iff tracks]
    exact decide_eq_true_iff
  · intro failed
    have absent : ¬ id ∈ registry.rules := of_decide_eq_false failed
    unfold WfpRuleRegistry.removeRule
    rw [HashMap.erase_of_notMem absent]

end Offers

/-! ### The driver -/

/-- The two sets of identifiers agree. -/
def Mirrored (driver : WfpDriver) : Prop :=
  driver.activeFilterIds = driver.registry.rules.keys

/-- One call on a driver is the call on its registry, and keeps the two sets equal. -/
theorem callDriver_simulates {driver : WfpDriver} (mirrored : Mirrored driver) (c : QuarantineCall) :
    (callDriver driver c).1 = (callRegistry driver.registry c).1 ∧
      (callDriver driver c).2.registry = (callRegistry driver.registry c).2 ∧
      Mirrored (callDriver driver c).2 := by
  unfold Mirrored at mirrored ⊢
  cases c with
  | add target nowMs =>
      refine ⟨rfl, rfl, ?_⟩
      change insert driver.registry.nextFilterId driver.activeFilterIds =
        Finmap.keys (driver.registry.rules.insert driver.registry.nextFilterId _)
      ext id
      rw [Finset.mem_insert, Finmap.mem_keys, Finmap.mem_insert, mirrored, Finmap.mem_keys]
  | remove filterId =>
      simp only [callDriver, callRegistry, WfpDriver.removeQuarantine]
      split
      · refine ⟨trivial, rfl, ?_⟩
        change driver.activeFilterIds.erase filterId = Finmap.keys (driver.registry.rules.erase filterId)
        rw [Finmap.keys_erase, mirrored]
      · rename_i absent
        refine ⟨trivial, rfl, ?_⟩
        change driver.activeFilterIds = Finmap.keys (driver.registry.rules.erase filterId)
        have missing : ¬ filterId ∈ driver.registry.rules := by
          simpa [WfpRuleRegistry.removeRule] using absent
        rw [Finmap.keys_erase, mirrored, Finset.erase_eq_of_notMem (Finmap.mem_keys.not.mpr missing)]
  | clear => exact ⟨rfl, rfl, rfl⟩

/-- A run on a driver is the run on its registry. -/
theorem driver_refines_registry (calls : List QuarantineCall) :
    driverHistory calls = registryHistory calls ∧ (driverAfter calls).registry = registryAfter calls ∧
      Mirrored (driverAfter calls) := by
  induction calls using List.reverseRecOn with
  | nil => exact ⟨rfl, rfl, rfl⟩
  | append_singleton calls c ih =>
      obtain ⟨history, registry, mirrored⟩ := ih
      obtain ⟨reply, next, kept⟩ := callDriver_simulates mirrored c
      rw [registry] at reply next
      have driven : driverHistory (calls ++ [c]) =
          driverHistory calls ++ [(c, (callDriver (driverAfter calls) c).1)] := trace_append ..
      have last : driverAfter (calls ++ [c]) = (callDriver (driverAfter calls) c).2 := final_append ..
      rw [driven, last, registryHistory_append, registryAfter_append, history, reply]
      exact ⟨rfl, next, kept⟩

/-- The quarantine is consistent. After every run of fewer than 2^64 - 1 additions, removals and shutdowns
    the registry holds exactly the outstanding additions; so does a driver, whose second set of identifiers
    is that of its registry, and whose removals succeed exactly for these and otherwise change nothing. -/
theorem quarantine_consistent (calls : List QuarantineCall) (few : calls.length < 2 ^ 64 - 1) :
    Consistent (registryHistory calls) (registryAfter calls) ∧
      Consistent (driverHistory calls) (driverAfter calls).registry ∧
      (driverAfter calls).activeFilterIds = (driverAfter calls).registry.rules.keys ∧
      ∀ id,
        (((driverAfter calls).removeQuarantine id).1.isOk = true ↔
          ∃ target, (id, target) ∈ outstanding (driverHistory calls)) ∧
        (((driverAfter calls).removeQuarantine id).1.isOk = false →
          (driverAfter calls).removeQuarantine id =
            (.err s!"filter rule {id} not found", driverAfter calls)) := by
  obtain ⟨history, registry, mirrored⟩ := driver_refines_registry calls
  have consistent := consistent_of_tracks (tracks_of_run few)
  rw [history, registry]
  refine ⟨consistent, consistent, ?_, ?_⟩
  · rw [← registry]
    exact mirrored
  · intro id
    obtain ⟨succeeds, unchanged⟩ := consistent.removal id
    rw [← registry] at succeeds unchanged
    unfold WfpDriver.removeQuarantine
    simp only
    cases removed : ((driverAfter calls).registry.removeRule id).1 with
    | true =>
        rw [removed] at succeeds
        simpa using succeeds.mp rfl
    | false =>
        rw [removed] at succeeds unchanged
        rw [unchanged rfl]
        simpa using succeeds

/-- The virtual switch of the distributions. -/
def sampleTarget : QuarantineTarget :=
  .wslVirtualSwitch "vEthernet (WSL)"

/-- Two quarantines of the switch, of which one is released. -/
def sampleCalls : List QuarantineCall :=
  [.add sampleTarget 1000, .add sampleTarget 2000, .remove 1]

/-- The switch stays quarantined by the other, and the released identifier cannot be released again. -/
theorem sampleCalls_consistent :
    sampleCalls.length < 2 ^ 64 - 1 ∧
      (driverAfter sampleCalls).registry.isQuarantined sampleTarget = true ∧
      (driverAfter sampleCalls).registry.activeRuleCount = 1 ∧
      ((driverAfter sampleCalls).removeQuarantine 1).1.isOk = false := by
  have few : sampleCalls.length < 2 ^ 64 - 1 := by decide
  have standing : outstanding (driverHistory sampleCalls) = [(2, sampleTarget)] := by
    decide +kernel
  obtain ⟨_, consistent, _, removals⟩ := quarantine_consistent sampleCalls few
  refine ⟨few, ?_, ?_, ?_⟩
  · rw [consistent.quarantined, standing]
    exact ⟨2, by simp⟩
  · rw [consistent.count, standing]
    rfl
  · rw [Bool.eq_false_iff, Ne, (removals 1).1, standing]
    simp

end QuarantineRules

end KavachNpu

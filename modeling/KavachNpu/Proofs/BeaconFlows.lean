/-
Module: KavachNpu.Proofs.BeaconFlows
Layer: Proofs
Purpose: Beacon detection is per flow. Through every interleaving of packets the engine holds, for each
  flow seen since the last clear, exactly the last 32 packets of that flow; what it returns for a packet is
  a function of these alone.
Trusted boundary: none
Main exports: BeaconFlows.seen, BeaconFlows.packetsOf, BeaconFlows.ingest_depends_on_own_flow
-/
import Mathlib.Data.List.Induction
import KavachNpu.Foundation.Trace
import KavachNpu.Foundation.Window
import KavachNpu.Beacon.Engine

namespace KavachNpu

namespace BeaconFlows

/-- A call on the engine. -/
inductive TcnCall where
  | ingest (key : FlowKey) (packet : PacketMeta)
  | clear
deriving DecidableEq

/-- The packets ingested since the last clear, each with its flow. -/
def seen (calls : List TcnCall) : List (FlowKey × PacketMeta) :=
  calls.foldl
    (fun packets c =>
      match c with
      | .ingest key packet => packets ++ [(key, packet)]
      | .clear => [])
    []

/-- The packets of one flow, in the order of arrival. -/
def packetsOf (key : FlowKey) (packets : List (FlowKey × PacketMeta)) : List PacketMeta :=
  (packets.filter fun entry => decide (entry.1 = key)).map Prod.snd

@[simp] theorem seen_ingest (calls : List TcnCall) (key : FlowKey) (packet : PacketMeta) :
    seen (calls ++ [.ingest key packet]) = seen calls ++ [(key, packet)] := by
  simp [seen]

@[simp] theorem seen_clear (calls : List TcnCall) : seen (calls ++ [.clear]) = [] := by
  simp [seen]

theorem packetsOf_append_self (key : FlowKey) (packets : List (FlowKey × PacketMeta))
    (packet : PacketMeta) :
    packetsOf key (packets ++ [(key, packet)]) = packetsOf key packets ++ [packet] := by
  simp [packetsOf]

theorem packetsOf_append_other {key other : FlowKey} (ne : other ≠ key)
    (packets : List (FlowKey × PacketMeta)) (packet : PacketMeta) :
    packetsOf key (packets ++ [(other, packet)]) = packetsOf key packets := by
  simp [packetsOf, ne]

theorem packetsOf_eq_nil {key : FlowKey} {packets : List (FlowKey × PacketMeta)} :
    packetsOf key packets = [] ↔ key ∉ packets.map Prod.fst := by
  simp only [packetsOf, List.map_eq_nil_iff, List.filter_eq_nil_iff, decide_eq_true_eq, List.mem_map,
    not_exists, not_and]

/-! ### One packet -/

/-- The flow holds the last 32 of the packets. -/
def Holds (flow : RollingFlow) (packets : List PacketMeta) : Prop :=
  IsWindow 32 flow.packets packets

theorem Holds.recordPacket {flow : RollingFlow} {packets : List PacketMeta}
    (holds : Holds flow packets) (packet : PacketMeta) :
    Holds (flow.recordPacket packet).2 (packets ++ [packet]) ∧
      ((flow.recordPacket packet).1 = true ↔ 32 ≤ (packets ++ [packet]).length) := by
  have window : IsWindow 32 (flow.recordPacket packet).2.packets (packets ++ [packet]) :=
    IsWindow.evict_push (by decide) holds packet
  refine ⟨window, ?_⟩
  change decide ((flow.recordPacket packet).2.packets.length = 32) = true ↔ _
  rw [decide_eq_true_iff, window.length]
  omega

/-- The engine holds the last 32 packets of each flow, and no other flow. -/
def Tracks (packets : List (FlowKey × PacketMeta)) (engine : TcnEngine) : Prop :=
  ∀ key, match engine.flows.lookup key with
    | none => packetsOf key packets = []
    | some flow => packetsOf key packets ≠ [] ∧ Holds flow (packetsOf key packets)

/-- The window an engine finds for a flow, created if there is none. -/
theorem Tracks.holds {packets : List (FlowKey × PacketMeta)} {engine : TcnEngine}
    (tracks : Tracks packets engine) (key : FlowKey) :
    Holds ((engine.flows.lookup key).getD RollingFlow.new) (packetsOf key packets) := by
  have entry := tracks key
  cases found : engine.flows.lookup key with
  | none =>
      rw [found] at entry
      rw [show packetsOf key packets = [] from entry]
      exact isWindow_nil 32
  | some flow =>
      rw [found] at entry
      exact entry.2

section Arithmetic

variable {D S : Type} [Add D] [Sub D] [Mul D] [Div D] [LE D] [LT D] [DecidableLE D] [DecidableLT D]
  [NatCast D] [OfScientific D] [Div S] [LT S] [DecidableLT S] [NatCast S] [Neg S] [OfScientific S]
  [AsF32 D S] (float : FloatFunctions D) (sha256 : List UInt8 → Bytes 32)

/-- One call on the engine; only `ingest_packet` returns something. -/
def call (engine : TcnEngine) : TcnCall → Option (BeaconDetectionResult D S) × TcnEngine
  | .ingest key packet => engine.ingestPacket float sha256 key packet
  | .clear => (none, engine.clear)

/-- The engine after a run. -/
def engineAfter (calls : List TcnCall) : TcnEngine :=
  final (call (S := S) float sha256) TcnEngine.new calls

/-- Ingesting a packet moves the window of its flow and leaves the others. -/
theorem Tracks.ingestPacket {packets : List (FlowKey × PacketMeta)} {engine : TcnEngine}
    (tracks : Tracks packets engine) (key : FlowKey) (packet : PacketMeta) :
    Tracks (packets ++ [(key, packet)]) (engine.ingestPacket (S := S) float sha256 key packet).2 := by
  intro other
  change match Finmap.lookup other (engine.flows.insert key _) with
    | none => _
    | some flow => _
  by_cases same : other = key
  · rw [same, Finmap.lookup_insert, packetsOf_append_self]
    exact ⟨by simp, ((tracks.holds key).recordPacket packet).1⟩
  · rw [Finmap.lookup_insert_of_ne _ same, packetsOf_append_other (Ne.symm same)]
    exact tracks other

/-- Every run keeps the windows of the flows seen since the last clear. -/
theorem tracks_of_run (calls : List TcnCall) :
    Tracks (seen calls) (engineAfter (S := S) float sha256 calls) := by
  induction calls using List.reverseRecOn with
  | nil =>
      intro key
      rfl
  | append_singleton calls c ih =>
      have step : engineAfter (S := S) float sha256 (calls ++ [c]) =
          (call (S := S) float sha256 (engineAfter (S := S) float sha256 calls) c).2 := final_append ..
      rw [step]
      cases c with
      | ingest key packet =>
          rw [seen_ingest]
          exact ih.ingestPacket float sha256 key packet
      | clear =>
          rw [seen_clear]
          intro key
          rfl

/-! ### What a packet returns -/

/-- A full window has an evaluation. -/
theorem isSome_evaluateBeaconRhythm {flow : RollingFlow} (full : flow.packets.length = 32) :
    (evaluateBeaconRhythm (S := S) float sha256 flow).isSome = true := by
  have ready : flow.isFull = true := decide_eq_true full
  have present : (flow.packets.zipWith (fun earlier later => RollingFlow.deltaMs (D := D)
      earlier.timestampNs later.timestampNs) flow.packets.tail).isEmpty = false := by
    rw [List.isEmpty_eq_false_iff, ← List.length_pos_iff, List.length_zipWith, List.length_tail, full]
    decide
  have matrix : ∃ tensor : FlowMatrix S, flow.buildTensorMatrix float = some tensor := by
    unfold RollingFlow.buildTensorMatrix
    exact ⟨_, dif_pos full⟩
  obtain ⟨tensor, built⟩ := matrix
  unfold evaluateBeaconRhythm
  simp only [ready, Bool.not_true, Bool.false_eq_true, if_false, present, built, Option.isSome_some]

/-- The evaluation of a packet, in terms of the packets of its flow. -/
theorem ingestPacket_of_tracks {packets : List (FlowKey × PacketMeta)} {engine : TcnEngine}
    (tracks : Tracks packets engine) (key : FlowKey) (packet : PacketMeta) (total : UInt64) :
    let own := packetsOf key packets ++ [packet]
    (engine.ingestPacket (S := S) float sha256 key packet).1 =
      if 32 ≤ own.length then
        evaluateBeaconRhythm float sha256 ⟨own.drop (own.length - 32), total⟩
      else
        none := by
  intro own
  obtain ⟨window, ready⟩ := (tracks.holds key).recordPacket packet
  change (if (((engine.flows.lookup key).getD RollingFlow.new).recordPacket packet).1 = true then
    evaluateBeaconRhythm float sha256
      (((engine.flows.lookup key).getD RollingFlow.new).recordPacket packet).2 else none) = _
  rw [← show _ = own.drop (own.length - 32) from window]
  by_cases full : 32 ≤ own.length
  · rw [if_pos (ready.mpr full), if_pos full]
    rfl
  · rw [if_neg (mt ready.mp full), if_neg full]

/-- The tracked flows are those seen since the last clear. -/
theorem activeFlowCount_of_tracks {packets : List (FlowKey × PacketMeta)} {engine : TcnEngine}
    (tracks : Tracks packets engine) :
    engine.activeFlowCount = (packets.map Prod.fst).dedup.length := by
  have keys : engine.flows.keys = (packets.map Prod.fst).toFinset := by
    ext key
    rw [Finmap.mem_keys, List.mem_toFinset, ← not_iff_not, ← packetsOf_eq_nil, ← Finmap.lookup_eq_none]
    have entry := tracks key
    cases found : engine.flows.lookup key with
    | none =>
        rw [found] at entry
        exact iff_of_true rfl entry
    | some flow =>
        rw [found] at entry
        exact iff_of_false (by simp) entry.1
  unfold TcnEngine.activeFlowCount
  rw [keys, List.card_toFinset]

/-- Beacon detection is per flow and sees the last 32 packets. After every run of packets and clears, a
    packet of a flow returns nothing while the flow has fewer than 32 packets since the last clear, and
    then the evaluation of exactly its last 32; any run with the same packets of this flow returns the
    same, whatever the others; and the flows counted are those seen since the last clear. -/
theorem ingest_depends_on_own_flow (calls : List TcnCall) (key : FlowKey) (packet : PacketMeta) :
    let own := packetsOf key (seen (calls ++ [.ingest key packet]))
    let result : Option (BeaconDetectionResult D S) :=
      ((engineAfter (S := S) float sha256 calls).ingestPacket float sha256 key packet).1
    (own.length < 32 → result = none) ∧
      (32 ≤ own.length → result.isSome = true ∧
        ∀ total, result =
          evaluateBeaconRhythm float sha256 ⟨own.drop (own.length - 32), total⟩) ∧
      (∀ calls', packetsOf key (seen calls') = packetsOf key (seen calls) →
        ((engineAfter (S := S) float sha256 calls').ingestPacket float sha256 key packet).1 = result) ∧
      (engineAfter (S := S) float sha256 calls).activeFlowCount =
        ((seen calls).map Prod.fst).dedup.length := by
  intro own result
  have ownEq : own = packetsOf key (seen calls) ++ [packet] := by
    simp only [own, seen_ingest, packetsOf_append_self]
  have tracks := tracks_of_run (S := S) float sha256 calls
  have returned := ingestPacket_of_tracks (S := S) float sha256 tracks key packet
  simp only [← ownEq] at returned
  refine ⟨?_, ?_, ?_, activeFlowCount_of_tracks tracks⟩
  · intro few
    exact (returned 0).trans (if_neg (by omega))
  · intro full
    have evaluated := fun total => (returned total).trans (if_pos full)
    refine ⟨?_, evaluated⟩
    rw [show result = _ from evaluated 0]
    apply isSome_evaluateBeaconRhythm
    simp only [List.length_drop]
    omega
  · intro calls' same
    have other := ingestPacket_of_tracks (S := S) float sha256
      (tracks_of_run (S := S) float sha256 calls') key packet 0
    rw [same] at other
    simp only [← ownEq] at other
    exact other.trans (returned 0).symm

end Arithmetic

end BeaconFlows

end KavachNpu

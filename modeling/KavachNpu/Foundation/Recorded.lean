/-
Module: KavachNpu.Foundation.Recorded
Layer: Foundation
Purpose: Fallible computations that record what they do to the outside. The record of a sequence is the
  record of its first part and, if that part succeeds, the record of the rest; forgetting the records gives
  the plain computation back.
Trusted boundary: human-reviewed spec
Main exports: Recorded, Recorded.silent, Recorded.recording, Recorded.outcome_bind, Recorded.mem_events_bind
-/
import KavachNpu.Foundation.Outcome
import Mathlib.Data.List.Basic

namespace KavachNpu

/-- A computation with the events it has caused, in order. -/
structure Recorded (E ε α : Type) where
  events : List E
  outcome : Outcome ε α

namespace Recorded

variable {E ε α β : Type}

/-- Sequencing: an error or a panic ends the computation and keeps what was recorded. -/
def bind (first : Recorded E ε α) (next : α → Recorded E ε β) : Recorded E ε β :=
  match first.outcome with
  | .ok value => ⟨first.events ++ (next value).events, (next value).outcome⟩
  | .err error => ⟨first.events, .err error⟩
  | .panicked cause => ⟨first.events, .panicked cause⟩

instance : Monad (Recorded E ε) where
  pure value := ⟨[], .ok value⟩
  bind := bind

/-- A computation without events. -/
def silent (outcome : Outcome ε α) : Recorded E ε α :=
  ⟨[], outcome⟩

/-- A computation that causes one event, whether it succeeds or not. -/
def recording (event : E) (outcome : Outcome ε α) : Recorded E ε α :=
  ⟨[event], outcome⟩

@[simp] theorem outcome_silent (outcome : Outcome ε α) :
    (silent outcome : Recorded E ε α).outcome = outcome := rfl

@[simp] theorem outcome_recording (event : E) (outcome : Outcome ε α) :
    (recording event outcome : Recorded E ε α).outcome = outcome := rfl

/-- Forgetting the events commutes with sequencing. -/
@[simp] theorem outcome_bind (first : Recorded E ε α) (next : α → Recorded E ε β) :
    (first >>= next).outcome = first.outcome >>= fun value => (next value).outcome := by
  change (bind first next).outcome = first.outcome.bind fun value => (next value).outcome
  unfold bind Outcome.bind
  cases first.outcome with
  | ok value => rfl
  | err error => rfl
  | panicked cause => rfl

/-- The events of a sequence: those of its first part, and those of the rest if it is reached. -/
theorem mem_events_bind {first : Recorded E ε α} {next : α → Recorded E ε β} {event : E} :
    event ∈ (first >>= next).events ↔
      event ∈ first.events ∨ ∃ value, first.outcome = .ok value ∧ event ∈ (next value).events := by
  change event ∈ (bind first next).events ↔ _
  unfold bind
  cases first.outcome with
  | ok value => simp
  | err error => simp
  | panicked cause => simp

@[simp] theorem mem_events_recording {event other : E} {outcome : Outcome ε α} :
    other ∈ (recording event outcome : Recorded E ε α).events ↔ other = event :=
  List.mem_singleton

@[simp] theorem events_silent (outcome : Outcome ε α) :
    (silent outcome : Recorded E ε α).events = [] := rfl

end Recorded

end KavachNpu

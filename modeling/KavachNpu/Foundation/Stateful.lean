/-
Module: KavachNpu.Foundation.Stateful
Layer: Foundation
Purpose: Fallible computations over a state. An error or a panic ends the computation and leaves the state as
  it is by then. A relation that every part of a computation keeps between the state before and the state
  after is kept by the whole, however it ends.
Trusted boundary: human-reviewed spec
Main exports: Stateful, Stateful.reading, Stateful.Keeps, Stateful.bind_eq_ok, Stateful.Keeps.bind
-/
import KavachNpu.Foundation.Outcome

namespace KavachNpu

/-- A computation: what it returns, and the state it leaves. -/
def Stateful (σ ε α : Type) : Type :=
  σ → Outcome ε α × σ

namespace Stateful

variable {σ ε α β : Type}

/-- Sequencing. -/
def bind (first : Stateful σ ε α) (next : α → Stateful σ ε β) : Stateful σ ε β :=
  fun state =>
    match first state with
    | (.ok value, state') => next value state'
    | (.err error, state') => (.err error, state')
    | (.panicked cause, state') => (.panicked cause, state')

instance : Monad (Stateful σ ε) where
  pure value := fun state => (.ok value, state)
  bind := bind

/-- What the state is asked for, without changing it. -/
def reading (ask : σ → Outcome ε α) : Stateful σ ε α :=
  fun state => (ask state, state)

@[simp] theorem reading_apply (ask : σ → Outcome ε α) (state : σ) :
    (reading ask : Stateful σ ε α) state = (ask state, state) := rfl

@[simp] theorem pure_apply (value : α) (state : σ) :
    (pure value : Stateful σ ε α) state = (.ok value, state) := rfl

/-- A sequence that succeeds is two successes. -/
theorem bind_eq_ok {first : Stateful σ ε α} {next : α → Stateful σ ε β} {state last : σ} {result : β} :
    (first >>= next) state = (.ok result, last) ↔
      ∃ value state', first state = (.ok value, state') ∧ next value state' = (.ok result, last) := by
  change bind first next state = _ ↔ _
  unfold bind
  rcases first state with ⟨outcome, state'⟩
  cases outcome with
  | ok value =>
      constructor
      · intro ran
        exact ⟨value, state', rfl, ran⟩
      · rintro ⟨_, _, same, ran⟩
        cases same
        exact ran
  | err error => simp
  | panicked cause => simp

/-- Reading and then going on. -/
theorem reading_bind (ask : σ → Outcome ε α) (next : α → Stateful σ ε β) (state : σ) :
    (reading ask >>= next) state =
      match ask state with
      | .ok value => next value state
      | .err error => (.err error, state)
      | .panicked cause => (.panicked cause, state) := by
  change bind (reading ask) next state = _
  unfold bind reading
  cases ask state <;> rfl

/-- The state after a computation stands in the relation to the state before it, however it ends. -/
def Keeps (related : σ → σ → Prop) (program : Stateful σ ε α) : Prop :=
  ∀ state, related state (program state).2

section Rules

variable {related : σ → σ → Prop}

theorem Keeps.pure (refl : ∀ state, related state state) (value : α) :
    Keeps related (Pure.pure value : Stateful σ ε α) :=
  refl

theorem Keeps.reading (refl : ∀ state, related state state) (ask : σ → Outcome ε α) :
    Keeps related (Stateful.reading ask : Stateful σ ε α) :=
  refl

theorem Keeps.bind (trans : ∀ {a b c}, related a b → related b c → related a c)
    {first : Stateful σ ε α} {next : α → Stateful σ ε β} (keeps : Keeps related first)
    (continues : ∀ value, Keeps related (next value)) : Keeps related (first >>= next) := by
  intro state
  have before := keeps state
  change related state (Stateful.bind first next state).2
  unfold Stateful.bind
  rcases ran : first state with ⟨outcome, state'⟩
  rw [ran] at before
  cases outcome with
  | ok value => exact trans before (continues value state')
  | err error => exact before
  | panicked cause => exact before

/-- Going on from what the state has been asked for, when something is known of the answer. -/
theorem Keeps.reading_bind (refl : ∀ state, related state state) {ask : σ → Outcome ε α}
    {next : α → Stateful σ ε β}
    (continues : ∀ state value, ask state = .ok value → Keeps related (next value)) :
    Keeps related (Stateful.reading ask >>= next) := by
  intro state
  rw [Stateful.reading_bind]
  cases answer : ask state with
  | ok value => exact continues state value answer state
  | err error => exact refl state
  | panicked cause => exact refl state

end Rules

end Stateful

end KavachNpu

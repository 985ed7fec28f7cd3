/-
Module: KavachNpu.Foundation.Outcome
Layer: Foundation
Purpose: Meaning of a fallible Rust call. A function of type `Result<α, ε>` returns `Ok`, returns
  `Err`, or aborts because an index, a slice copy, or a checked subtraction went wrong. The third case
  is kept apart from `Err`, so that "this never panics" is a statement about the model and not a
  consequence of how the model was typed.
Trusted boundary: human-reviewed spec
Main exports: Panic, Outcome, Outcome.bind_eq_ok, Outcome.guard_eq_ok, Outcome.Returns
-/
import Mathlib.Data.Nat.Notation

namespace KavachNpu

/-- Reasons for which the modelled Rust code can abort instead of returning. -/
inductive Panic where
  | indexOutOfBounds
  | sliceLengthMismatch
  | subtractWithOverflow
  | unwrapOnNone
deriving DecidableEq, Repr

/-- What a call to a function returning `Result<α, ε>` can do. -/
inductive Outcome (ε α : Type) where
  | ok (value : α)
  | err (error : ε)
  | panicked (cause : Panic)
deriving DecidableEq, Repr

namespace Outcome

variable {ε ε' α β : Type}

/-- Sequencing: `Err` and a panic both end the function, as `?` and unwinding do. -/
def bind (first : Outcome ε α) (next : α → Outcome ε β) : Outcome ε β :=
  match first with
  | ok value => next value
  | err error => err error
  | panicked cause => panicked cause

instance : Monad (Outcome ε) where
  pure := ok
  bind := bind

/-- `Result::map`. -/
def map (f : α → β) : Outcome ε α → Outcome ε β
  | ok value => ok (f value)
  | err error => err error
  | panicked cause => panicked cause

/-- `Result::map_err`. -/
def mapErr (f : ε → ε') : Outcome ε α → Outcome ε' α
  | ok value => ok value
  | err error => err (f error)
  | panicked cause => panicked cause

/-- `Option::ok_or`, and `map_err` of a result whose error is not looked at. -/
def okOr (error : ε) : Option α → Outcome ε α
  | some value => ok value
  | none => err error

/-- `map_err(f)?` on the result of a call that cannot panic. -/
def ofExcept (f : ε' → ε) : Except ε' α → Outcome ε α
  | .ok value => ok value
  | .error error => err (f error)

/-- `Result::is_ok`; a panicking call has no result. -/
def isOk : Outcome ε α → Bool
  | ok _ => true
  | _ => false

/-- `Result::is_err`; a panicking call has no result. -/
def isErr : Outcome ε α → Bool
  | err _ => true
  | _ => false

/-- `Result::ok`. -/
def ok? : Outcome ε α → Option α
  | ok value => some value
  | _ => none

/-- `Result::err`. -/
def err? : Outcome ε α → Option ε
  | err error => some error
  | _ => none

@[simp] theorem ok_bind (value : α) (next : α → Outcome ε β) :
    (ok value >>= next) = next value := rfl

@[simp] theorem err_bind (error : ε) (next : α → Outcome ε β) :
    (err error >>= next) = err error := rfl

@[simp] theorem panicked_bind (cause : Panic) (next : α → Outcome ε β) :
    (panicked cause >>= next) = panicked cause := rfl

@[simp] theorem map_ok (f : α → β) (value : α) : map f (ok value : Outcome ε α) = ok (f value) := rfl

@[simp] theorem map_err (f : α → β) (error : ε) : map f (err error : Outcome ε α) = err error := rfl

@[simp] theorem isOk_ok (value : α) : (ok value : Outcome ε α).isOk = true := rfl

@[simp] theorem isOk_err (error : ε) : (err error : Outcome ε α).isOk = false := rfl

@[simp] theorem isErr_ok (value : α) : (ok value : Outcome ε α).isErr = false := rfl

@[simp] theorem isErr_err (error : ε) : (err error : Outcome ε α).isErr = true := rfl

theorem isOk_iff {outcome : Outcome ε α} : outcome.isOk = true ↔ ∃ value, outcome = ok value := by
  cases outcome <;> simp [isOk]

theorem ok?_eq_none {outcome : Outcome ε α} : outcome.ok? = none ↔ outcome.isOk = false := by
  cases outcome <;> simp [ok?, isOk]

@[simp] theorem isOk_map (f : α → β) (outcome : Outcome ε α) :
    (outcome.map f).isOk = outcome.isOk := by
  cases outcome <;> rfl

@[simp] theorem isErr_map (f : α → β) (outcome : Outcome ε α) :
    (outcome.map f).isErr = outcome.isErr := by
  cases outcome <;> rfl

@[simp] theorem err?_map (f : α → β) (outcome : Outcome ε α) :
    (outcome.map f).err? = outcome.err? := by
  cases outcome <;> rfl

theorem err?_eq_some {outcome : Outcome ε α} {error : ε} :
    outcome.err? = some error ↔ outcome = err error := by
  cases outcome <;> simp [err?]

theorem okOr_eq_ok {error : ε} {option : Option α} {value : α} :
    okOr error option = ok value ↔ option = some value := by
  cases option <;> simp [okOr]

theorem ofExcept_eq_ok {f : ε' → ε} {result : Except ε' α} {value : α} :
    ofExcept f result = ok value ↔ result = .ok value := by
  cases result <;> simp [ofExcept]

theorem isErr_of_isOk {outcome : Outcome ε α} (succeeded : outcome.isOk = true) :
    outcome.isErr = false := by
  cases outcome with
  | ok value => rfl
  | err error => cases succeeded
  | panicked cause => cases succeeded

theorem isOk_of_isErr {outcome : Outcome ε α} (failed : outcome.isErr = true) :
    outcome.isOk = false := by
  cases outcome with
  | ok value => cases failed
  | err error => rfl
  | panicked cause => cases failed

theorem mapErr_eq_ok {f : ε → ε'} {outcome : Outcome ε α} {value : α} :
    outcome.mapErr f = ok value ↔ outcome = ok value := by
  cases outcome <;> simp [mapErr]

/-- A sequence that succeeds is two successes. -/
theorem bind_eq_ok {first : Outcome ε α} {next : α → Outcome ε β} {result : β} :
    (first >>= next) = ok result ↔ ∃ value, first = ok value ∧ next value = ok result := by
  cases first with
  | ok value => simp
  | err error => simp
  | panicked cause => simp

/-- A guard that lets the call continue is a guard whose condition is false. -/
theorem guard_eq_ok {condition : Prop} [Decidable condition] {error : ε} {rest : Outcome ε α}
    {value : α} :
    (if condition then err error else rest) = ok value ↔ ¬ condition ∧ rest = ok value := by
  by_cases holds : condition <;> simp [holds]

/-! ### Calls that never panic -/

/-- The call returns: it ends in `Ok` or in `Err`. -/
def Returns (outcome : Outcome ε α) : Prop :=
  ∀ cause, outcome ≠ panicked cause

theorem returns_ok (value : α) : Returns (ok value : Outcome ε α) := by
  intro cause panics
  cases panics

theorem returns_err (error : ε) : Returns (err error : Outcome ε α) := by
  intro cause panics
  cases panics

theorem returns_okOr (error : ε) (option : Option α) : Returns (okOr error option) := by
  cases option with
  | none => exact returns_err error
  | some value => exact returns_ok value

theorem returns_ofExcept (f : ε' → ε) (result : Except ε' α) : Returns (ofExcept f result) := by
  cases result with
  | ok value => exact returns_ok value
  | error error => exact returns_err (f error)

theorem Returns.ite {condition : Prop} [Decidable condition] {first rest : Outcome ε α}
    (returns : Returns first) (otherwise : Returns rest) :
    Returns (if condition then first else rest) := by
  by_cases holds : condition
  · rw [if_pos holds]
    exact returns
  · rw [if_neg holds]
    exact otherwise

theorem Returns.guard {condition : Prop} [Decidable condition] {error : ε} {rest : Outcome ε α}
    (returns : ¬ condition → Returns rest) :
    Returns (if condition then err error else rest) := by
  by_cases holds : condition
  · rw [if_pos holds]
    exact returns_err error
  · rw [if_neg holds]
    exact returns holds

theorem Returns.bind {first : Outcome ε α} {next : α → Outcome ε β} (returns : Returns first)
    (continues : ∀ value, Returns (next value)) : Returns (first >>= next) := by
  cases first with
  | ok value => exact continues value
  | err error => exact returns_err error
  | panicked cause => exact absurd rfl (returns cause)

end Outcome

end KavachNpu

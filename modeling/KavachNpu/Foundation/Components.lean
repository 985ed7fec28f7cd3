/-
Module: KavachNpu.Foundation.Components
Layer: Foundation
Purpose: The components of a machine, as machines of their own. A component sees some of the inputs, each
  as a list of calls that may depend on the state of the whole, and its replies are found in the outputs.
  If every step of the whole runs the component on the calls it hands over, then so does every run, whatever
  the other components do in between.
Trusted boundary: human-reviewed spec
Main exports: handed, Component, Component.final_eq, Component.trace_eq, Component.run_alone
-/
import KavachNpu.Foundation.Trace

namespace KavachNpu

variable {S I O P J R : Type}

/-- The calls a run hands to a component. -/
def handed (step : S → I → O × S) (calls : S → I → List J) (state : S) : List I → List J
  | [] => []
  | input :: rest => calls state input ++ handed step calls (step state input).2 rest

/-- The calls of one more input come last. -/
theorem handed_append (step : S → I → O × S) (calls : S → I → List J) (state : S) (inputs more : List I) :
    handed step calls state (inputs ++ more) =
      handed step calls state inputs ++ handed step calls (final step state inputs) more := by
  induction inputs generalizing state with
  | nil => rfl
  | cons input rest ih => rw [List.cons_append, handed, handed, ih, List.append_assoc, final]

/-- A component of a machine: each step of the machine runs it on the calls of the input, and leaves its
    replies in the output. -/
structure Component (step : S → I → O × S) (inner : P → J → R × P) where
  state : S → P
  calls : S → I → List J
  replies : O → List R
  final_step : ∀ whole input, state (step whole input).2 = final inner (state whole) (calls whole input)
  trace_step : ∀ whole input,
    replies (step whole input).1 = (trace inner (state whole) (calls whole input)).map Prod.snd

variable {step : S → I → O × S} {inner : P → J → R × P}

/-- Calls that depend on the input alone are handed over in the order of the inputs. -/
theorem handed_eq_flatMap {calls : S → I → List J} {own : I → List J}
    (stateless : ∀ whole input, calls whole input = own input) (whole : S) (inputs : List I) :
    handed step calls whole inputs = inputs.flatMap own := by
  induction inputs generalizing whole with
  | nil => rfl
  | cons input rest ih => rw [handed, stateless, ih, List.flatMap_cons]

namespace Component

/-- After any run, a component is where its own calls leave it. -/
theorem final_eq (component : Component step inner) (whole : S) (inputs : List I) :
    component.state (final step whole inputs) =
      final inner (component.state whole) (handed step component.calls whole inputs) := by
  induction inputs generalizing whole with
  | nil => rfl
  | cons input rest ih =>
      rw [final, ih, component.final_step, handed, final_append]

/-- The replies of a component in any run are those of its own run. -/
theorem trace_eq (component : Component step inner) (whole : S) (inputs : List I) :
    (trace step whole inputs).flatMap (fun entry => component.replies entry.2) =
      (trace inner (component.state whole) (handed step component.calls whole inputs)).map Prod.snd := by
  induction inputs generalizing whole with
  | nil => rfl
  | cons input rest ih =>
      rw [trace, List.flatMap_cons, ih, component.trace_step, component.final_step, handed, trace_append,
        List.map_append]

/-- A component whose calls depend on the inputs alone runs as if it were alone: no other component, and no
    order in which the inputs of the others come in between, makes a difference to it. -/
theorem run_alone (component : Component step inner) {own : I → List J}
    (stateless : ∀ whole input, component.calls whole input = own input) (whole : S) (inputs : List I) :
    (trace step whole inputs).flatMap (fun entry => component.replies entry.2) =
        (trace inner (component.state whole) (inputs.flatMap own)).map Prod.snd ∧
      component.state (final step whole inputs) =
        final inner (component.state whole) (inputs.flatMap own) := by
  have calls : handed step component.calls whole inputs = inputs.flatMap own :=
    handed_eq_flatMap stateless whole inputs
  rw [component.trace_eq, component.final_eq, calls]
  exact ⟨rfl, rfl⟩

end Component

end KavachNpu

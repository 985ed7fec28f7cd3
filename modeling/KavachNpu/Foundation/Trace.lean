/-
Module: KavachNpu.Foundation.Trace
Layer: Foundation
Purpose: Whole runs of a deterministic machine with outputs. A run is recorded as the list of its
  inputs paired with what each of them returned; the rules below reduce a statement about every entry
  of a run, or about every reached state, to one step. `Erases` deletes chosen entries from a run, and
  `trace_of_erases` is the simulation rule under which the remaining entries are again a run.
Trusted boundary: human-reviewed spec
Main exports: trace, final, getElem?_trace, final_induction, history_induction, trace_induction, Erases,
  trace_of_erases
-/
import Mathlib.Data.List.Basic

namespace KavachNpu

variable {S I O : Type}

/-- The inputs of a run, each with the output it produced. -/
def trace (step : S → I → O × S) (state : S) : List I → List (I × O)
  | [] => []
  | input :: rest => (input, (step state input).1) :: trace step (step state input).2 rest

/-- The state in which a run ends. -/
def final (step : S → I → O × S) (state : S) : List I → S
  | [] => state
  | input :: rest => final step (step state input).2 rest

variable {step : S → I → O × S}

/-- A run in two parts ends where the second part ends. -/
theorem final_append (state : S) (inputs more : List I) :
    final step state (inputs ++ more) = final step (final step state inputs) more := by
  induction inputs generalizing state with
  | nil => rfl
  | cons input rest ih => exact ih (step state input).2

/-- A run in two parts is recorded part by part. -/
theorem trace_append (state : S) (inputs more : List I) :
    trace step state (inputs ++ more) =
      trace step state inputs ++ trace step (final step state inputs) more := by
  induction inputs generalizing state with
  | nil => rfl
  | cons input rest ih => exact congrArg _ (ih (step state input).2)

theorem length_trace (state : S) (inputs : List I) : (trace step state inputs).length = inputs.length := by
  induction inputs generalizing state with
  | nil => rfl
  | cons input rest ih => rw [trace, List.length_cons, List.length_cons, ih]

/-- The entry of an input is the step taken where the inputs before it ended. -/
theorem getElem?_trace (state : S) (before : List I) (input : I) (after : List I) :
    (trace step state (before ++ input :: after))[before.length]? =
      some (input, (step (final step state before) input).1) := by
  have length : (trace step state before).length = before.length := length_trace state before
  rw [trace_append, List.getElem?_append_right (Nat.le_of_eq length), length, Nat.sub_self]
  rfl

/-- A property of the initial state that every step preserves holds of every reached state. -/
theorem final_induction (invariant : S → Prop)
    (preserved : ∀ state input, invariant state → invariant (step state input).2)
    {state : S} (inputs : List I) (holds : invariant state) :
    invariant (final step state inputs) := by
  induction inputs generalizing state with
  | nil => exact holds
  | cons input rest ih => exact ih (preserved state input holds)

/-- An invariant may also speak of the inputs that led to the state. -/
theorem history_induction (invariant : List I → S → Prop) {state : S} (initially : invariant [] state)
    (preserved : ∀ before input, invariant before (final step state before) →
      invariant (before ++ [input]) (step (final step state before) input).2)
    (inputs : List I) : invariant inputs (final step state inputs) := by
  have extended : ∀ rest before, invariant before (final step state before) →
      invariant (before ++ rest) (final step state (before ++ rest)) := by
    intro rest
    induction rest with
    | nil =>
        intro before holds
        rwa [List.append_nil]
    | cons input rest ih =>
        intro before holds
        have next := preserved before input holds
        have ended : final step state (before ++ [input]) = (step (final step state before) input).2 :=
          final_append state before [input]
        rw [← ended] at next
        have split : before ++ input :: rest = (before ++ [input]) ++ rest := by simp
        rw [split]
        exact ih (before ++ [input]) next
  exact extended inputs [] initially

/-- Under such an invariant, what one step guarantees about its output holds of every entry. -/
theorem trace_induction (invariant : S → Prop) (guarantee : I → O → Prop)
    (preserved : ∀ state input, invariant state → invariant (step state input).2)
    (guaranteed : ∀ state input, invariant state → guarantee input (step state input).1)
    {state : S} {inputs : List I} (holds : invariant state) :
    ∀ entry ∈ trace step state inputs, guarantee entry.1 entry.2 := by
  induction inputs generalizing state with
  | nil =>
      intro entry member
      cases member
  | cons input rest ih =>
      intro entry member
      rcases List.mem_cons.mp member with rfl | later
      · exact guaranteed state input holds
      · exact ih (preserved state input holds) entry later

/-- The inputs recorded in a run are the inputs it was given. -/
theorem mem_inputs_of_mem_trace {state : S} {inputs : List I} {entry : I × O}
    (member : entry ∈ trace step state inputs) : entry.1 ∈ inputs := by
  induction inputs generalizing state with
  | nil => cases member
  | cons input rest ih =>
      rcases List.mem_cons.mp member with rfl | later
      · exact List.mem_cons_self
      · exact List.mem_cons_of_mem input (ih later)

/-- An entry of a run is one step, taken from the state in which the inputs before it ended. -/
theorem exists_split_of_mem_trace {state : S} {inputs : List I} {entry : I × O}
    (member : entry ∈ trace step state inputs) :
    ∃ before after, inputs = before ++ entry.1 :: after ∧
      entry.2 = (step (final step state before) entry.1).1 := by
  induction inputs generalizing state with
  | nil => cases member
  | cons input rest ih =>
      rcases List.mem_cons.mp member with rfl | later
      · exact ⟨[], rest, rfl, rfl⟩
      · obtain ⟨before, after, split, output⟩ := ih later
        exact ⟨input :: before, after, by rw [split]; rfl, output⟩

/-! ### Erasing entries of a run -/

/-- The second list is the first with some of the entries in `droppable` deleted. -/
inductive Erases (droppable : I → O → Prop) : List (I × O) → List (I × O) → Prop where
  | nil : Erases droppable [] []
  | keep (entry : I × O) {run kept : List (I × O)} :
      Erases droppable run kept → Erases droppable (entry :: run) (entry :: kept)
  | drop {entry : I × O} {run kept : List (I × O)} :
      droppable entry.1 entry.2 → Erases droppable run kept → Erases droppable (entry :: run) kept

/-- Simulation up to a clock. If states related at a time give the same output to every later input and
    stay related at its reading, and a droppable input leaves its state related to the state it was not
    run on, then a chronological run with droppable entries erased is the run of the remaining
    inputs. -/
theorem trace_of_erases {T : Type} [LE T] (clock : I → T) (related : T → S → S → Prop)
    {droppable : I → O → Prop}
    (kept_step : ∀ time state other input, related time state other → time ≤ clock input →
      (step state input).1 = (step other input).1 ∧
        related (clock input) (step state input).2 (step other input).2)
    (dropped_step : ∀ time state other input, related time state other → time ≤ clock input →
      droppable input (step state input).1 → related (clock input) (step state input).2 other) :
    ∀ (inputs : List I) (time : T) (state other : S) (kept : List (I × O)),
      inputs.Pairwise (fun earlier later => clock earlier ≤ clock later) →
      (∀ input ∈ inputs, time ≤ clock input) → related time state other →
      Erases droppable (trace step state inputs) kept →
      trace step other (kept.map Prod.fst) = kept := by
  intro inputs
  induction inputs with
  | nil =>
      intro time state other kept _ _ _ erased
      cases erased
      rfl
  | cons input rest ih =>
      intro time state other kept ordered future rel erased
      obtain ⟨later, ordered⟩ := List.pairwise_cons.mp ordered
      have current := future input List.mem_cons_self
      cases erased with
      | keep _ erased =>
          obtain ⟨output, related'⟩ := kept_step time state other input rel current
          have remaining := ih _ _ _ _ ordered later related' erased
          simp only [List.map_cons, trace]
          rw [output, remaining]
      | drop droppable erased =>
          have related' := dropped_step time state other input rel current droppable
          exact ih _ _ _ _ ordered later related' erased

end KavachNpu

import Mathlib.Data.List.Basic

/-!
Contract: machines that serve one operation after another.

Owns the responses and the last state of a run, conditions that every step of a
run meets, the rule of invariants, and the rule of simulations between two
machines that serve the same operations.

Does not own interleavings; see `Lib/Interleaving.lean`.
-/

namespace GhostArk.Lib

/-- What an operation is answered, and the state it leaves. -/
abbrev Machine (σ Operation Response : Type) := σ → Operation → Response × σ

namespace Machine

variable {σ Operation Response : Type} (machine : Machine σ Operation Response)

def finalState : σ → List Operation → σ
  | state, [] => state
  | state, operation :: rest => finalState (machine state operation).2 rest

def responses : σ → List Operation → List Response
  | _, [] => []
  | state, operation :: rest =>
    (machine state operation).1 :: responses (machine state operation).2 rest

/-- Every step of a run meets a condition on its operation and the state before it. -/
def Throughout (meets : σ → Operation → Prop) : σ → List Operation → Prop
  | _, [] => True
  | state, operation :: rest =>
    meets state operation ∧ Throughout meets (machine state operation).2 rest

variable {machine} {meets : σ → Operation → Prop}

variable {state : σ}

theorem throughout_append {first second : List Operation} :
    machine.Throughout meets state (first ++ second) ↔
      machine.Throughout meets state first ∧
        machine.Throughout meets (machine.finalState state first) second := by
  induction first generalizing state with
  | nil => simp [Throughout, finalState]
  | cons operation rest ih =>
    rw [List.cons_append, Throughout, Throughout, ih, finalState, and_assoc]

variable {operations : List Operation}

theorem throughout_of_forall {holds : Operation → Prop}
    (allHold : ∀ operation ∈ operations, holds operation) :
    machine.Throughout (fun _ operation => holds operation) state operations := by
  induction operations generalizing state with
  | nil => exact trivial
  | cons operation rest ih =>
    rw [List.forall_mem_cons] at allHold
    exact ⟨allHold.1, ih allHold.2⟩

theorem Throughout.and {also : σ → Operation → Prop}
    (throughout : machine.Throughout meets state operations)
    (alsoThroughout : machine.Throughout also state operations) :
    machine.Throughout (fun state operation => meets state operation ∧ also state operation) state
      operations := by
  induction operations generalizing state with
  | nil => exact trivial
  | cons operation rest ih =>
    exact ⟨⟨throughout.1, alsoThroughout.1⟩, ih throughout.2 alsoThroughout.2⟩

theorem Throughout.mono {weaker : σ → Operation → Prop}
    (throughout : machine.Throughout meets state operations)
    (weaken : ∀ state operation, meets state operation → weaker state operation) :
    machine.Throughout weaker state operations := by
  induction operations generalizing state with
  | nil => exact trivial
  | cons operation rest ih =>
    exact ⟨weaken _ _ throughout.1, ih throughout.2⟩

variable {invariant : σ → Prop}

theorem preserved_finalState
    (step : ∀ state operation, invariant state → invariant (machine state operation).2)
    (operations : List Operation) (holds : invariant state) :
    invariant (machine.finalState state operations) := by
  induction operations generalizing state with
  | nil => exact holds
  | cons operation rest ih =>
    exact ih (step state operation holds)

/-- The run rule: what every step keeps under a condition, a run under it keeps. -/
theorem invariant_finalState (step : ∀ state operation, invariant state → meets state operation →
      invariant (machine state operation).2) (holds : invariant state)
    (throughout : machine.Throughout meets state operations) :
    invariant (machine.finalState state operations) := by
  induction operations generalizing state with
  | nil => exact holds
  | cons operation rest ih =>
    exact ih (step state operation holds throughout.1) throughout.2

/-- The run rule for properties of the single step. -/
theorem throughout_of_invariant {also : σ → Operation → Prop}
    (step : ∀ state operation, invariant state → meets state operation →
      also state operation ∧ invariant (machine state operation).2) (holds : invariant state)
    (throughout : machine.Throughout meets state operations) :
    machine.Throughout also state operations := by
  induction operations generalizing state with
  | nil => exact trivial
  | cons operation rest ih =>
    have both := step state operation holds throughout.1
    exact ⟨both.1, ih both.2 throughout.2⟩

/-- In a run whose steps all meet a condition, two properties of steps that agree under it and
an invariant hold throughout together. -/
theorem throughout_congr {left right : σ → Operation → Prop}
    (step : ∀ state operation, invariant state → meets state operation →
      (left state operation ↔ right state operation) ∧ invariant (machine state operation).2)
    (holds : invariant state) (throughout : machine.Throughout meets state operations) :
    machine.Throughout left state operations ↔ machine.Throughout right state operations := by
  induction operations generalizing state with
  | nil => exact Iff.rfl
  | cons operation rest ih =>
    have both := step state operation holds throughout.1
    exact and_congr both.1 (ih both.2 throughout.2)

section Beside

variable {τ Other : Type} (machine) (other : Machine τ Operation Other)

/-- Two machines that serve the same operations, each in its own state. -/
def beside : Machine (σ × τ) Operation (Response × Other) := fun states operation =>
  (((machine states.1 operation).1, (other states.2 operation).1),
    ((machine states.1 operation).2, (other states.2 operation).2))

variable {machine other}

/-- The simulation rule: related machines answer alike throughout. -/
theorem simulates {meets : σ × τ → Operation → Prop} {related : σ → τ → Prop}
    {alike : Response → Other → Prop}
    (step : ∀ state image operation, related state image → meets (state, image) operation →
      alike (machine state operation).1 (other image operation).1 ∧
        related (machine state operation).2 (other image operation).2)
    {state : σ} {image : τ} {operations : List Operation} (isRelated : related state image)
    (throughout : (machine.beside other).Throughout meets (state, image) operations) :
    List.Forall₂ alike (machine.responses state operations) (other.responses image operations) := by
  induction operations generalizing state image with
  | nil => exact .nil
  | cons operation rest ih =>
    have both := step state image operation isRelated throughout.1
    exact .cons both.1 (ih both.2 throughout.2)

end Beside

end Machine

end GhostArk.Lib

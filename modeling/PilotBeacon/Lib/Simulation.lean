import PilotBeacon.Lib.Transition
import Mathlib.Data.List.Forall2

/-!
# Simulation

Two deterministic systems side by side, each of which answers every event. If one step on
related events keeps related states related and gives related answers, so does every run.

The two systems may be an implementation and its specification on the same events, or one
system on two inputs that differ in something it must not depend on.

- `answers`: what a run answers, event by event
- `Simulates`: the step condition
- `Simulates.run`, `Simulates.answers`: what follows for runs
-/

namespace PilotBeacon.Lib

namespace Simulation

variable {σ σ' ε ε' α α' : Type}

/-- The state after an event. -/
def next (step : σ → ε → σ × α) (s : σ) (e : ε) : σ := (step s e).1

/-- What each step of a run answers. -/
def answers (step : σ → ε → σ × α) : σ → List ε → List α
  | _, [] => []
  | s, e :: es => (step s e).2 :: answers step (step s e).1 es

/-- Steps on events related by `E` keep `R` and give answers related by `O`. -/
structure Simulates (step : σ → ε → σ × α) (step' : σ' → ε' → σ' × α') (E : ε → ε' → Prop)
    (O : α → α' → Prop) (R : σ → σ' → Prop) : Prop where
  next : ∀ {s s' e e'}, R s s' → E e e' → R (step s e).1 (step' s' e').1
  answer : ∀ {s s' e e'}, R s s' → E e e' → O (step s e).2 (step' s' e').2

namespace Simulates

variable {step : σ → ε → σ × α} {step' : σ' → ε' → σ' × α'} {E : ε → ε' → Prop}
  {O : α → α' → Prop} {R : σ → σ' → Prop}

/-- **Simulation of runs**: related states. -/
theorem run (h : Simulates step step' E O R) {s : σ} {s' : σ'} (hs : R s s') {es : List ε}
    {es' : List ε'} (hes : List.Forall₂ E es es') :
    R (Transition.run (Simulation.next step) s es)
      (Transition.run (Simulation.next step') s' es') := by
  induction hes generalizing s s' with
  | nil => exact hs
  | cons he _ ih => exact ih (h.next hs he)

/-- **Simulation of runs**: related answers, one by one. -/
theorem answers (h : Simulates step step' E O R) {s : σ} {s' : σ'} (hs : R s s') {es : List ε}
    {es' : List ε'} (hes : List.Forall₂ E es es') :
    List.Forall₂ O (Simulation.answers step s es) (Simulation.answers step' s' es') := by
  induction hes generalizing s s' with
  | nil => exact .nil
  | cons he _ ih => exact .cons (h.answer hs he) (ih (h.next hs he))

end Simulates

end Simulation

end PilotBeacon.Lib

import PilotBeacon.Lib.Transition
import Mathlib.Algebra.BigOperators.Group.Finset.Piecewise
import Mathlib.Algebra.Order.Group.Multiset
import Mathlib.Logic.Function.Basic

/-!
# Networks of Reacting Nodes

Nodes react to events by a change of state and by messages to each other. Messages are in
flight until they are delivered, in any order, or lost. A delivery is an event of the
receiver like any other, made from the message, its sender and the circumstances of the
delivery.

- `State`, `Event`, `step`: the network as a transition system
- `occurs`: the node event a network event amounts to
- `run_node_invariant`, `run_node_induction`: the proof rules, for facts about all nodes and
  for facts about one
- `sum_observedAt`: what is observed at the nodes, taken together
-/

namespace PilotBeacon.Lib

namespace Network

variable {ι σ ε μ ρ : Type}

/-- A message on its way. -/
structure Flight (ι μ : Type) where
  src : ι
  dst : ι
  msg : μ

/-- The nodes' states and what is in flight. -/
structure State (ι σ μ : Type) where
  node : ι → σ
  flights : List (Flight ι μ)

/-- A node's own event, the arrival of a message in flight, or its loss. -/
inductive Event (ι ε ρ : Type) where
  | act (i : ι) (e : ε)
  | deliver (k : Nat) (x : ρ)
  | lose (k : Nat)

/-- Which node event a network event is, if any; `receive` makes it from a delivery. -/
def occurs (receive : ι → μ → ρ → ε) (m : State ι σ μ) : Event ι ε ρ → Option (ι × ε)
  | .act i e => some (i, e)
  | .deliver k x => (m.flights[k]?).map fun f => (f.dst, receive f.src f.msg x)
  | .lose _ => none

/-- What stays in flight. -/
def pending (m : State ι σ μ) : Event ι ε ρ → List (Flight ι μ)
  | .act _ _ => m.flights
  | .deliver k _ => m.flights.eraseIdx k
  | .lose k => m.flights.eraseIdx k

section

variable [DecidableEq ι] (react : ι → σ → ε → σ × List (ι × μ)) (receive : ι → μ → ρ → ε)

/-- What the node event `occurs` of a network event sends. -/
def sent (m : State ι σ μ) (ev : Event ι ε ρ) : List (Flight ι μ) :=
  match occurs receive m ev with
  | some (i, e) => (react i (m.node i) e).2.map fun x => ⟨i, x.1, x.2⟩
  | none => []

/-- The network after an event. -/
def step (m : State ι σ μ) (ev : Event ι ε ρ) : State ι σ μ where
  node := match occurs receive m ev with
    | some (i, e) => Function.update m.node i (react i (m.node i) e).1
    | none => m.node
  flights := pending m ev ++ sent react receive m ev

variable {react receive} {m : State ι σ μ} {ev : Event ι ε ρ}

/-- The node an event happens at reacts to it. -/
theorem node_step_self {i : ι} {e : ε} (h : occurs receive m ev = some (i, e)) :
    (step react receive m ev).node i = (react i (m.node i) e).1 := by
  simp only [step, h, Function.update_self]

/-- The others do not notice. -/
theorem node_step_of_ne {i j : ι} {e : ε} (h : occurs receive m ev = some (i, e)) (hj : j ≠ i) :
    (step react receive m ev).node j = m.node j := by
  simp only [step, h]
  exact Function.update_of_ne hj _ _

/-- Nothing happens anywhere. -/
theorem node_step_none (h : occurs receive m ev = none) :
    (step react receive m ev).node = m.node := by
  simp only [step, h]

/-- **Network invariants, one node event at a time**: what holds initially, is not affected by
    flights and survives every node event that can occur holds after every run. -/
theorem run_node_invariant {A : State ι σ μ → Event ι ε ρ → Prop} (P : (ι → σ) → Prop)
    {m : State ι σ μ} (init : P m.node)
    (next : ∀ m ev i e, A m ev → occurs receive m ev = some (i, e) → P m.node →
      P (Function.update m.node i (react i (m.node i) e).1))
    (evs : List (Event ι ε ρ)) (hA : Transition.Along (step react receive) A m evs) :
    P (Transition.run (step react receive) m evs).node := by
  apply Transition.along_invariant (step react receive) (fun m => P m.node) init _ hA
  intro m ev hev ih
  cases h : occurs receive m ev with
  | none =>
    rw [node_step_none h]
    exact ih
  | some x =>
    have hstep : (step react receive m ev).node =
        Function.update m.node x.1 (react x.1 (m.node x.1) x.2).1 := by
      simp only [step, h]
    rw [hstep]
    exact next m ev x.1 x.2 hev h ih

/-- What the events at node `i` show; `g s e` is what event `e` in state `s` does. -/
def observedAt {α : Type} (receive : ι → μ → ρ → ε) (i : ι) (g : σ → ε → List α)
    (m : State ι σ μ) (ev : Event ι ε ρ) : List α :=
  match occurs receive m ev with
  | some (j, e) => if j = i then g (m.node i) e else []
  | none => []

/-- **One node of the network**: a relation between what was observed at a node and its state
    holds along network runs if it holds initially and survives the node's own events. -/
theorem run_node_induction {α : Type} (i : ι) (g : σ → ε → List α) (I : List α → σ → Prop)
    {m : State ι σ μ} (init : I [] (m.node i))
    (next : ∀ obs s e, I obs s → I (obs ++ g s e) (react i s e).1) (evs : List (Event ι ε ρ)) :
    I (Transition.observe (step react receive) (observedAt receive i g) m evs)
      ((Transition.run (step react receive) m evs).node i) := by
  apply Transition.run_induction (step react receive) (fun evs m' =>
    I (Transition.observe (step react receive) (observedAt receive i g) m evs) (m'.node i)) init
  intro evs ev ih
  rw [Transition.observe_concat, observedAt]
  cases h : occurs receive (Transition.run (step react receive) m evs) ev with
  | none =>
    rw [node_step_none h, List.append_nil]
    exact ih
  | some x =>
    obtain ⟨j, e⟩ := x
    -- an event of another node neither changes this one nor shows anything at it
    by_cases hj : j = i
    · subst hj
      rw [node_step_self h]
      dsimp only
      rw [if_pos rfl]
      exact next _ _ e ih
    · rw [node_step_of_ne h (Ne.symm hj)]
      dsimp only
      rw [if_neg hj, List.append_nil]
      exact ih

theorem observedAt_flatMap {α β : Type} (receive : ι → μ → ρ → ε) (i : ι) (g : σ → ε → List α)
    (h : α → List β) (m : State ι σ μ) (ev : Event ι ε ρ) :
    observedAt receive i (fun s e => (g s e).flatMap h) m ev =
      (observedAt receive i g m ev).flatMap h := by
  unfold observedAt
  split
  · split_ifs <;> rfl
  · rfl

/-- What the node event `occurs` of a network event shows. -/
def shown {α : Type} (receive : ι → μ → ρ → ε) (g : ι → σ → ε → List α) (m : State ι σ μ)
    (ev : Event ι ε ρ) : List α :=
  match occurs receive m ev with
  | some (i, e) => g i (m.node i) e
  | none => []

/-- **All nodes together.** What is observed at one node or another is what is shown. -/
theorem sum_observedAt {α : Type} [Fintype ι] (g : ι → σ → ε → List α) (m : State ι σ μ)
    (evs : List (Event ι ε ρ)) :
    ∑ i, (Transition.observe (step react receive) (observedAt receive i (g i)) m evs :
        Multiset α) =
      Transition.observe (step react receive) (shown receive g) m evs := by
  induction evs using List.reverseRecOn with
  | nil => simp
  | append_singleton evs ev ih =>
    simp only [Transition.observe_concat, ← Multiset.coe_add, Finset.sum_add_distrib, ih]
    congr 1
    -- the last event is one of one node, or of none
    unfold observedAt shown
    cases occurs receive (Transition.run (step react receive) m evs) ev with
    | none => simp
    | some x =>
      rw [Finset.sum_eq_single x.1]
      · simp
      · intro i _ hi
        simp [Ne.symm hi]
      · simp

end

end Network

end PilotBeacon.Lib

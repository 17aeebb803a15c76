import Mathlib.Algebra.GroupWithZero.Nat
import Mathlib.Data.List.Induction

/-!
# Runs of a Transition System

A deterministic step function driven by a list of events, and what can be
observed along its runs. Nondeterminism of a modelled program (clock readings,
scheduling, results of system calls) sits in the events.

- `run`: the state after a list of events
- `observe`: the concatenation of what each step shows
- `Reaches`: some run over admissible events leads from one state to another
- `run_induction`, `run_invariant`: the proof rules, for facts that mention the
  events so far and for facts about states only
- `along_induction`, `along_invariant`, `along_of_invariant`: the same under a condition that every
  step of the run meets
- `observe_amortized`: the rule of the potential method, for bounds on what a run shows
- `run_exhausts`: the rule of ranks, for what one party completes whatever the others do
-/

namespace PilotBeacon.Lib

namespace Transition

variable {σ ε α : Type} (step : σ → ε → σ)

/-! ## Runs and observations -/

/-- The state reached from `s` by the events `es`, in order. -/
def run (s : σ) (es : List ε) : σ := es.foldl step s

/-- Everything `f` sees along the run: `f s e` is what taking event `e` in state `s` shows. -/
def observe (f : σ → ε → List α) : σ → List ε → List α
  | _, [] => []
  | s, e :: es => f s e ++ observe f (step s e) es

@[simp] theorem run_nil (s : σ) : run step s [] = s := rfl

@[simp] theorem run_cons (s : σ) (e : ε) (es : List ε) :
    run step s (e :: es) = run step (step s e) es := rfl

theorem run_append (s : σ) (es es' : List ε) :
    run step s (es ++ es') = run step (run step s es) es' :=
  List.foldl_append

theorem run_concat (s : σ) (es : List ε) (e : ε) :
    run step s (es ++ [e]) = step (run step s es) e := by
  rw [run_append]; rfl

@[simp] theorem observe_nil (f : σ → ε → List α) (s : σ) : observe step f s [] = [] := rfl

@[simp] theorem observe_cons (f : σ → ε → List α) (s : σ) (e : ε) (es : List ε) :
    observe step f s (e :: es) = f s e ++ observe step f (step s e) es := rfl

theorem observe_append (f : σ → ε → List α) (s : σ) (es es' : List ε) :
    observe step f s (es ++ es') = observe step f s es ++ observe step f (run step s es) es' := by
  induction es generalizing s with
  | nil => rfl
  | cons e es ih => simp [ih, List.append_assoc]

theorem observe_concat (f : σ → ε → List α) (s : σ) (es : List ε) (e : ε) :
    observe step f s (es ++ [e]) = observe step f s es ++ f (run step s es) e := by
  rw [observe_append]; simp

/-- What is observed along a run is observed at one of its events. -/
theorem mem_observe (f : σ → ε → List α) (s : σ) (es : List ε) (x : α) :
    x ∈ observe step f s es ↔
      ∃ pre e post, es = pre ++ e :: post ∧ x ∈ f (run step s pre) e := by
  induction es generalizing s with
  | nil => simp
  | cons e es ih =>
    rw [observe_cons, List.mem_append, ih]
    constructor
    · rintro (hx | ⟨pre, e', post, rfl, hx⟩)
      · exact ⟨[], e, es, rfl, hx⟩
      · exact ⟨e :: pre, e', post, rfl, hx⟩
    · rintro ⟨pre, e', post, heq, hx⟩
      -- the event is the first one or one of the rest
      cases pre with
      | nil =>
        cases heq
        exact Or.inl hx
      | cons d pre =>
        cases heq
        exact Or.inr ⟨pre, e', post, rfl, hx⟩

/-- An observer that does not look at the state. -/
theorem observe_const (g : ε → List α) (s : σ) (es : List ε) :
    observe step (fun _ e => g e) s es = es.flatMap g := by
  induction es generalizing s with
  | nil => rfl
  | cons e es ih => simp [ih]

theorem observe_flatMap {β : Type} (f : σ → ε → List α) (h : α → List β) (s : σ) (es : List ε) :
    observe step (fun s e => (f s e).flatMap h) s es = (observe step f s es).flatMap h := by
  induction es generalizing s with
  | nil => rfl
  | cons e es ih => simp [ih, List.flatMap_append]

theorem observe_congr {f g : σ → ε → List α} {es : List ε} (h : ∀ s, ∀ e ∈ es, f s e = g s e)
    (s : σ) : observe step f s es = observe step g s es := by
  induction es generalizing s with
  | nil => rfl
  | cons e es ih =>
    rw [observe_cons, observe_cons, h s e List.mem_cons_self,
      ih fun s x hx => h s x (List.mem_cons_of_mem e hx)]

/-- Two observers that see the same at every event of the run see the same of it. -/
theorem observe_congr_run {f g : σ → ε → List α} {s : σ} {es : List ε}
    (h : ∀ pre e post, es = pre ++ e :: post → f (run step s pre) e = g (run step s pre) e) :
    observe step f s es = observe step g s es := by
  induction es generalizing s with
  | nil => rfl
  | cons e es ih =>
    rw [observe_cons, observe_cons, show f s e = g s e from h [] e es rfl,
      ih fun pre e' post heq => h (e :: pre) e' post (by rw [heq]; rfl)]

/-- Who sees less at every event sees less of the run. -/
theorem observe_sublist {f g : σ → ε → List α} (h : ∀ s e, (f s e).Sublist (g s e)) (s : σ)
    (es : List ε) : (observe step f s es).Sublist (observe step g s es) := by
  induction es generalizing s with
  | nil => exact List.Sublist.refl _
  | cons e es ih => exact (h s e).append (ih (step s e))

/-- Two observers that at every event share out what a third one sees share out all it sees. -/
theorem observe_append_perm {f g k : σ → ε → List α} (h : ∀ s e, (f s e ++ g s e).Perm (k s e))
    (s : σ) (es : List ε) :
    (observe step f s es ++ observe step g s es).Perm (observe step k s es) := by
  induction es generalizing s with
  | nil => exact List.Perm.refl _
  | cons e es ih =>
    have hswap : (f s e ++ observe step f (step s e) es ++
        (g s e ++ observe step g (step s e) es)).Perm
        (f s e ++ g s e ++ (observe step f (step s e) es ++ observe step g (step s e) es)) := by
      simp only [List.append_assoc]
      exact (List.perm_append_comm_assoc _ _ _).append_left _
    exact hswap.trans ((h s e).append (ih (step s e)))

/-- A relation holds between all earlier and later observations if it holds between what any
    two events of the run show (and each event shows at most one thing). -/
theorem pairwise_observe {f : σ → ε → List α} (R : α → α → Prop) {s : σ} {es : List ε}
    (hone : ∀ s e, (f s e).length ≤ 1)
    (h : ∀ pre e mid e' post, es = pre ++ e :: (mid ++ e' :: post) →
      ∀ x ∈ f (run step s pre) e, ∀ y ∈ f (run step s (pre ++ e :: mid)) e', R x y) :
    (observe step f s es).Pairwise R := by
  induction es generalizing s with
  | nil => exact List.Pairwise.nil
  | cons e es ih =>
    rw [observe_cons, List.pairwise_append]
    refine ⟨?_, ih ?_, ?_⟩
    · match hf : f s e, hone s e with
      | [], _ => exact List.Pairwise.nil
      | [x], _ => exact List.pairwise_singleton R x
    · intro pre d mid d' post heq
      exact h (e :: pre) d mid d' post (by rw [heq]; rfl)
    · intro x hx y hy
      obtain ⟨mid, e', post, heq, hy'⟩ := (mem_observe step f (step s e) es y).mp hy
      exact h [] e mid e' post (by rw [heq]; rfl) x hx y hy'

/-- Every step of the run meets `A`, in the state it is taken in. -/
def Along (A : σ → ε → Prop) : σ → List ε → Prop
  | _, [] => True
  | s, e :: es => A s e ∧ Along A (step s e) es

instance Along.decidable (A : σ → ε → Prop) [∀ s e, Decidable (A s e)] :
    ∀ (s : σ) (es : List ε), Decidable (Along step A s es)
  | _, [] => inferInstanceAs (Decidable True)
  | s, e :: es => @instDecidableAnd _ _ _ (Along.decidable A (step s e) es)

theorem along_append {A : σ → ε → Prop} {s : σ} {es es' : List ε} :
    Along step A s (es ++ es') ↔ Along step A s es ∧ Along step A (run step s es) es' := by
  induction es generalizing s with
  | nil => simp [Along]
  | cons e es ih => simp only [List.cons_append, Along, run_cons, ih, and_assoc]

theorem along_iff {A : σ → ε → Prop} {s : σ} {es : List ε} : Along step A s es ↔
    ∀ pre e post, es = pre ++ e :: post → A (run step s pre) e := by
  induction es generalizing s with
  | nil => simp [Along]
  | cons e es ih =>
    rw [Along, ih]
    constructor
    · rintro ⟨he, hes⟩ pre e' post heq
      cases pre with
      | nil =>
        cases heq
        exact he
      | cons d pre =>
        cases heq
        exact hes pre e' post rfl
    · intro h
      exact ⟨h [] e es rfl, fun pre e' post heq => h (e :: pre) e' post (by rw [heq]; rfl)⟩

/-! ## Reaching a state -/

/-- Events that meet `p` lead from `s` to `s'`, and show `out`. -/
def Reaches (f : σ → ε → List α) (p : ε → Prop) (s : σ) (out : List α) (s' : σ) : Prop :=
  ∃ es, (∀ e ∈ es, p e) ∧ run step s es = s' ∧ observe step f s es = out

section

variable {step : σ → ε → σ} {f : σ → ε → List α} {p : ε → Prop} {s s' s'' : σ}
  {out out' : List α}

theorem Reaches.refl : Reaches step f p s [] s :=
  ⟨[], fun _ he => absurd he List.not_mem_nil, rfl, rfl⟩

theorem Reaches.single {e : ε} (he : p e) : Reaches step f p s (f s e) (step s e) :=
  ⟨[e], by simpa using he, rfl, by simp⟩

theorem Reaches.trans (h : Reaches step f p s out s') (h' : Reaches step f p s' out' s'') :
    Reaches step f p s (out ++ out') s'' := by
  obtain ⟨es, hes, rfl, rfl⟩ := h
  obtain ⟨es', hes', rfl, rfl⟩ := h'
  refine ⟨es ++ es', ?_, run_append step s es es', observe_append step f s es es'⟩
  intro e he
  exact (List.mem_append.mp he).elim (hes e) (hes' e)

end

/-! ## Proof rules -/

/-- **Run induction.** A relation between the events so far and the state they lead to
    holds along a run if it holds at the start and survives one more event. -/
theorem run_induction {s : σ} (I : List ε → σ → Prop) (init : I [] s)
    (next : ∀ es e, I es (run step s es) → I (es ++ [e]) (step (run step s es) e))
    (es : List ε) : I es (run step s es) := by
  -- `I` speaks of the events from the start on, so the run grows at its end
  induction es using List.reverseRecOn with
  | nil => exact init
  | append_singleton es e ih =>
    rw [run_concat]
    exact next es e ih

/-- **Invariant rule.** A property of states kept by every step holds after every run. -/
theorem run_invariant {s : σ} (P : σ → Prop) (init : P s)
    (next : ∀ s e, P s → P (step s e)) (es : List ε) : P (run step s es) :=
  run_induction step (fun _ s => P s) init (fun _ e h => next _ e h) es

/-- **Run induction under a condition** that every step of the run meets. -/
theorem along_induction {A : σ → ε → Prop} {s : σ} (I : List ε → σ → Prop) (init : I [] s)
    (next : ∀ es e, A (run step s es) e → I es (run step s es) →
      I (es ++ [e]) (step (run step s es) e))
    {es : List ε} (h : Along step A s es) : I es (run step s es) := by
  induction es using List.reverseRecOn with
  | nil => exact init
  | append_singleton es e ih =>
    obtain ⟨hes, he, -⟩ := (along_append step).mp h
    rw [run_concat]
    exact next es e he (ih hes)

/-- **Invariant rule under a condition.** -/
theorem along_invariant {A : σ → ε → Prop} {s : σ} (P : σ → Prop) (init : P s)
    (next : ∀ s e, A s e → P s → P (step s e)) {es : List ε} (h : Along step A s es) :
    P (run step s es) :=
  along_induction step (fun _ s => P s) init (fun _ e he => next _ e he) h

/-- **One condition from another.** What follows at each step from the condition and an invariant
    it keeps holds along the run. -/
theorem along_of_invariant {A B : σ → ε → Prop} {s : σ} (P : σ → Prop) (init : P s)
    (next : ∀ s e, A s e → P s → P (step s e)) (imp : ∀ s e, A s e → P s → B s e) {es : List ε}
    (h : Along step A s es) : Along step B s es := by
  induction es generalizing s with
  | nil => trivial
  | cons e es ih => exact ⟨imp s e h.1 init, ih (next s e h.1 init) h.2⟩

/-- **Amortized bound.** Each step pays `w` for what `f` shows out of what it earns, `v` for what
    `g` shows, and out of the potential `Φ` it was handed; so does every run. -/
theorem observe_amortized {β : Type} {f : σ → ε → List α} {g : σ → ε → List β} {w : α → Nat}
    {v : β → Nat} {Φ : σ → Nat} {P : σ → Prop} (keep : ∀ s e, P s → P (step s e))
    (pay : ∀ s e, P s →
      ((f s e).map w).sum + Φ (step s e) ≤ ((g s e).map v).sum + Φ s)
    {s : σ} (init : P s) (es : List ε) :
    ((observe step f s es).map w).sum + Φ (run step s es) ≤
      ((observe step g s es).map v).sum + Φ s := by
  induction es generalizing s with
  | nil => simp
  | cons e es ih =>
    have hfirst := pay s e init
    have hrest := ih (keep s e init)
    simp only [observe_cons, run_cons, List.map_append, List.sum_append]
    omega

/-- **Ranking.** No step raises the rank and each step of one party lowers it: after as many steps
    of that party, the rank is zero, whatever happened in between. -/
theorem run_exhausts (rank : σ → Nat) (own : ε → Bool) {P : σ → Prop}
    (keep : ∀ s e, P s → P (step s e)) (le : ∀ s e, P s → rank (step s e) ≤ rank s)
    (lt : ∀ s e, P s → own e = true → 0 < rank s → rank (step s e) < rank s)
    {s : σ} (init : P s) {es : List ε} (h : rank s ≤ es.countP own) :
    rank (run step s es) = 0 := by
  induction es generalizing s with
  | nil => simpa using h
  | cons e es ih =>
    refine ih (keep s e init) ?_
    have hle := le s e init
    rw [List.countP_cons] at h
    cases hown : own e with
    | false => exact Nat.le_trans hle (by simpa [hown] using h)
    | true =>
      have hlt := lt s e init hown
      simp only [hown, if_true] at h
      omega

end Transition

end PilotBeacon.Lib

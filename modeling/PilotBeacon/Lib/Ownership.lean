import PilotBeacon.Lib.Tally
import Mathlib.Data.Multiset.Range
import Mathlib.Data.Multiset.MapFold
import Mathlib.Algebra.Order.Group.Multiset
import Mathlib.Logic.Function.Basic
import Mathlib.Tactic.Abel

/-!
# Cells With One Owner

Numbered cells of a store that are handed around and used again. Cells are allocated in order;
a cell is spare while nobody relies on what it holds, filled while somebody relies on it holding
a certain value, and lost once nobody can get at it.

- `Tracked`: every allocated cell is in exactly one of these states, and the filled ones hold
  what they should
- `alloc`, `fill`, `rebalance`: what can be done to cells without breaking that; a cell that is
  filled has to be spare before
- `exchange`, `fillAt`: the same for one of many holders, each with a list of spare and a list
  of filled cells
-/

namespace PilotBeacon.Lib

namespace Ownership

variable {α β : Type} {R : α → β → Prop} {mem : Nat → α} {next : Nat}
  {spare spare' lost lost' : Multiset Nat} {filled filled' : Multiset (Nat × β)}

/-- The cells below `next` are spare, filled or lost, each in one way, and `R` holds between
    what a filled cell contains and what it is relied on for. -/
structure Tracked (R : α → β → Prop) (mem : Nat → α) (next : Nat) (spare : Multiset Nat)
    (filled : Multiset (Nat × β)) (lost : Multiset Nat) : Prop where
  once : spare + filled.map Prod.fst + lost = Multiset.range next
  holds : ∀ p ∈ filled, R (mem p.1) p.2

theorem Tracked.empty (R : α → β → Prop) (mem : Nat → α) : Tracked R mem 0 0 0 0 where
  once := rfl
  holds := fun p hp => absurd hp (Multiset.notMem_zero p)

/-- No cell has two owners. -/
theorem Tracked.nodup (h : Tracked R mem next spare filled lost) :
    (spare + filled.map Prod.fst).Nodup := by
  apply Multiset.nodup_of_le (Multiset.le_add_right _ lost)
  rw [h.once]
  exact Multiset.nodup_range next

/-- **Handing around.** Cells may change hands, be given back and be lost, as long as none
    appears or disappears. -/
theorem Tracked.rebalance (h : Tracked R mem next spare filled lost)
    (once : spare' + filled'.map Prod.fst + lost' = spare + filled.map Prod.fst + lost)
    (kept : ∀ p ∈ filled', p ∈ filled) : Tracked R mem next spare' filled' lost' where
  once := once.trans h.once
  holds := fun p hp => h.holds p (kept p hp)

/-- **A new cell** is spare. -/
theorem Tracked.alloc (h : Tracked R mem next spare filled lost)
    (hspare : spare' = {next} + spare) : Tracked R mem (next + 1) spare' filled lost where
  once := by
    rw [hspare, Multiset.range_succ, ← h.once, ← Multiset.singleton_add]
    simp only [add_assoc]
  holds := h.holds

/-- **Filling.** Writing to a spare cell leaves the filled ones alone. -/
theorem Tracked.fill {b : Nat} {v : β} {x : α}
    (h : Tracked R mem next ({b} + spare) filled lost) (hx : R x v)
    (hfilled : filled' = {(b, v)} + filled) :
    Tracked R (Function.update mem b x) next spare filled' lost := by
  have hone : spare + filled'.map Prod.fst + lost = {b} + spare + filled.map Prod.fst + lost := by
    rw [hfilled, Multiset.map_add, Multiset.map_singleton]
    abel
  refine ⟨hone.trans h.once, ?_⟩
  intro p hp
  rw [hfilled, Multiset.mem_add, Multiset.mem_singleton] at hp
  rcases hp with rfl | hp
  · rw [Function.update_self]
    exact hx
  · -- a filled cell is not the spare one
    have hne : p.1 ≠ b := by
      rintro rfl
      exact Multiset.disjoint_left.mp (Multiset.nodup_add.mp h.nodup).2.2
        (Multiset.mem_add.mpr (Or.inl (Multiset.mem_singleton_self _)))
        (Multiset.mem_map_of_mem Prod.fst hp)
    rw [Function.update_of_ne hne]
    exact h.holds p hp

/-! ## One of many holders -/

section

open Tally

variable {n i : Nat} {f g : Nat → List Nat} {F G : Nat → List (Nat × β)}
  {pool pool' gone restSpare : Multiset Nat} {restFilled : Multiset (Nat × β)}

/-- **One holder deals with the pool.** What it and the pool have afterwards, together with what
    is `gone`, is what they had. -/
theorem Tracked.exchange
    (h : Tracked R mem next (pool + total n f + restSpare) (total n F + restFilled) lost)
    (hi : i < n) (hf : ∀ j, j ≠ i → g j = f j) (hF : ∀ j, j ≠ i → G j = F j)
    (once : pool' + g i + (G i).map Prod.fst + gone = pool + f i + (F i).map Prod.fst)
    (kept : ∀ p ∈ G i, p ∈ F i) :
    Tracked R mem next (pool' + total n g + restSpare) (total n G + restFilled)
      (lost + gone) := by
  apply h.rebalance
  · -- the other holders are on both sides
    have hspare := total_change (Or.inl hi) hf
    have hfilled := congrArg (Multiset.map Prod.fst) (total_change (Or.inl hi) hF)
    simp only [Multiset.map_add, Multiset.map_coe] at hfilled ⊢
    rw [Multiset.ext] at once hspare hfilled ⊢
    intro a
    have h₁ := once a
    have h₂ := hspare a
    have h₃ := hfilled a
    simp only [Multiset.count_add] at h₁ h₂ h₃ ⊢
    omega
  · intro p hp
    rw [Multiset.mem_add, mem_total] at hp ⊢
    refine hp.imp_left ?_
    rintro ⟨j, hj, hp⟩
    by_cases hji : j = i
    · subst hji
      exact ⟨j, hj, kept p hp⟩
    · rw [hF j hji] at hp
      exact ⟨j, hj, hp⟩

/-- **One holder fills** a spare cell it has. -/
theorem Tracked.fillAt {b : Nat} {v : β} {x : α}
    (h : Tracked R mem next (pool + total n f + restSpare) (total n F + restFilled) lost)
    (hi : i < n) (hf : ∀ j, j ≠ i → g j = f j) (hF : ∀ j, j ≠ i → G j = F j)
    (hspare : (f i : Multiset Nat) = {b} + g i)
    (hfilled : (G i : Multiset (Nat × β)) = {(b, v)} + F i) (hx : R x v) :
    Tracked R (Function.update mem b x) next (pool + total n g + restSpare)
      (total n G + restFilled) lost := by
  have hS : total n f = {b} + total n g := by
    have hchange := total_change (Or.inl hi) hf
    rw [hspare, ← add_assoc, add_right_cancel_iff] at hchange
    rw [← hchange, add_comm]
  have hG : total n G = {(b, v)} + total n F := by
    have hchange := total_change (Or.inl hi) hF
    rw [hfilled, ← add_assoc, add_right_cancel_iff] at hchange
    rw [hchange, add_comm]
  apply Tracked.fill (b := b) _ hx (v := v)
  · rw [hG, add_assoc]
  · rwa [show {b} + (pool + total n g + restSpare) = pool + total n f + restSpare by
      rw [hS]; abel]

end

end Ownership

end PilotBeacon.Lib

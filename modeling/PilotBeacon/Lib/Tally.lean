import Mathlib.Algebra.BigOperators.Group.Finset.Piecewise
import Mathlib.Algebra.Order.Group.Multiset
import Mathlib.Data.List.Perm.Basic

/-!
# Keeping Count of Items

Items that sit in a family of lists (queues, batches) and move between them, counted as
multisets.

- `total`: everything in the first `n` lists
- `total_change`: changing one list changes the total by the difference
- `matched_split`: when carriers are divided up, so is what they carry
-/

namespace PilotBeacon.Lib

namespace Tally

variable {α β : Type} {n i : Nat}

/-- Everything in the lists `f 0, …, f (n - 1)`. -/
def total (n : Nat) (f : Nat → List α) : Multiset α := ∑ i ∈ Finset.range n, (f i : Multiset α)

theorem total_update (hi : i < n) (f : Nat → List α) (l : List α) :
    total n (Function.update f i l) + f i = total n f + l := by
  have hmem : i ∈ Finset.range n := Finset.mem_range.mpr hi
  have hcoe : (fun j => (Function.update f i l j : Multiset α)) =
      Function.update (fun j => (f j : Multiset α)) i l := by
    funext j
    by_cases hj : j = i
    · rw [hj, Function.update_self, Function.update_self]
    · rw [Function.update_of_ne hj, Function.update_of_ne hj]
  rw [total, hcoe, Finset.sum_update_of_mem hmem, total, ← Finset.sdiff_union_of_subset
    (Finset.singleton_subset_iff.mpr hmem), Finset.sum_union Finset.sdiff_disjoint,
    Finset.sum_singleton, Finset.union_sdiff_right, Finset.sdiff_idem, add_assoc, add_comm]

/-- **What comes in and what goes out of one list.** A list beyond the first `n` has to stay
    empty. -/
theorem total_change {f g : Nat → List α} (hi : i < n ∨ f i = [] ∧ g i = [])
    (h : ∀ j, j ≠ i → g j = f j) : total n g + f i = total n f + g i := by
  have hg : g = Function.update f i (g i) := by
    funext j
    by_cases hj : j = i
    · rw [hj, Function.update_self]
    · rw [Function.update_of_ne hj, h j hj]
  rcases hi with hi | ⟨hf, hgi⟩
  · rw [hg, total_update hi, Function.update_self]
  · rw [hg, Function.update_self, hgi, ← hf, Function.update_eq_self]

theorem mem_total {f : Nat → List α} {a : α} : a ∈ total n f ↔ ∃ i < n, a ∈ f i := by
  simp [total, Multiset.mem_sum]

theorem total_eq_zero {f : Nat → List α} (h : ∀ i < n, f i = []) : total n f = 0 := by
  apply Finset.sum_eq_zero
  intro i hi
  rw [h i (Finset.mem_range.mp hi), Multiset.coe_nil]

/-- **Dividing up.** If `ws` carry `bs` and are divided into `xs` and `ys`, then so are `bs`. -/
theorem matched_split {R : α → β → Prop} {xs ys ws : List α} {bs : List β}
    (hperm : (xs ++ ys).Perm ws) (h : List.Forall₂ R ws bs) :
    ∃ bx bY, List.Forall₂ R xs bx ∧ List.Forall₂ R ys bY ∧ (bx ++ bY).Perm bs := by
  obtain ⟨cs, hcs, hperm'⟩ := List.perm_comp_forall₂ hperm h
  have hx := List.forall₂_take xs.length hcs
  have hy := List.forall₂_drop xs.length hcs
  rw [List.take_left] at hx
  rw [List.drop_left] at hy
  refine ⟨_, _, hx, hy, ?_⟩
  rw [List.take_append_drop]
  exact hperm'

end Tally

end PilotBeacon.Lib

import Mathlib.Data.Fintype.EquivFin
import Mathlib.Logic.Relation
import Mathlib.Order.Monotone.Basic

/-!
# Ranks and Paths

A relation whose hops go up in rank has no cycles, and no endless paths over finitely many
places. Hops into places that no hop leaves need not go up.

- `no_cycle_of_rank`, `no_endless_path_of_rank`
-/

namespace PilotBeacon.Lib

namespace Ranking

variable {α : Type} {R : α → α → Prop} {final : α → Prop} {rank : α → ℕ}

/-- A path goes up in rank unless it ends at a final place. -/
theorem rank_lt_of_path (hsrc : ∀ i j, R i j → ¬ final i)
    (hrank : ∀ i j, R i j → final j ∨ rank i < rank j) {i j : α} (h : Relation.TransGen R i j)
    (hj : ¬ final j) : rank i < rank j := by
  -- only the last place of the path may be final
  induction h with
  | single h => exact (hrank _ _ h).resolve_left hj
  | tail _ h ih => exact (ih (hsrc _ _ h)).trans ((hrank _ _ h).resolve_left hj)

theorem no_cycle_of_rank (hsrc : ∀ i j, R i j → ¬ final i)
    (hrank : ∀ i j, R i j → final j ∨ rank i < rank j) (i : α) : ¬ Relation.TransGen R i i := by
  intro h
  obtain ⟨j, hij, -⟩ := Relation.TransGen.head'_iff.mp h
  exact lt_irrefl _ (rank_lt_of_path hsrc hrank h (hsrc i j hij))

theorem no_endless_path_of_rank [Finite α] (hsrc : ∀ i j, R i j → ¬ final i)
    (hrank : ∀ i j, R i j → final j ∨ rank i < rank j) :
    ¬ ∃ f : ℕ → α, ∀ k, R (f k) (f (k + 1)) := by
  rintro ⟨f, hf⟩
  -- every place of an endless path is left again, so the ranks go up for ever
  have hmono : StrictMono fun k => rank (f k) := by
    apply strictMono_nat_of_lt_succ
    intro k
    exact (hrank _ _ (hf k)).resolve_left (hsrc _ _ (hf (k + 1)))
  exact not_injective_infinite_finite f (fun a b hab => hmono.injective (congrArg rank hab))

end Ranking

end PilotBeacon.Lib

import Mathlib.Data.List.Induction

/-!
# Histories

The past-time operator "since" over the list of events that happened so far, oldest first.

- `Since keep start hist`: something in `hist` satisfied `start`, and everything after it
  satisfied `keep`
- `since_concat`: how one more event changes that, which is what an invariant that ties a
  table to its history needs
-/

namespace PilotBeacon.Lib

namespace History

variable {ε : Type} {keep start : ε → Prop} {hist : List ε}

/-- `start` held at some event, and `keep` at all events since. -/
def Since (keep start : ε → Prop) (hist : List ε) : Prop :=
  ∃ before e after, hist = before ++ e :: after ∧ start e ∧ ∀ x ∈ after, keep x

theorem not_since_nil : ¬ Since keep start [] := by
  rintro ⟨before, e, after, h, -⟩
  cases before <;> cases h

/-- It starts now, or it has been going on and goes on. -/
theorem since_concat {e : ε} :
    Since keep start (hist ++ [e]) ↔ start e ∨ Since keep start hist ∧ keep e := by
  constructor
  · rintro ⟨before, x, after, heq, hstart, hkeep⟩
    -- is the starting event the last one?
    rcases List.eq_nil_or_concat after with rfl | ⟨after, y, rfl⟩
    · obtain ⟨-, rfl⟩ := List.append_singleton_inj.mp heq
      exact Or.inl hstart
    · right
      rw [List.concat_eq_append, ← List.cons_append, ← List.append_assoc] at heq
      obtain ⟨rfl, rfl⟩ := List.append_singleton_inj.mp heq
      exact ⟨⟨before, x, after, rfl, hstart, fun z hz => hkeep z (by simp [hz])⟩,
        hkeep e (by simp)⟩
  · rintro (hstart | ⟨⟨before, x, after, rfl, hstart, hkeep⟩, hlast⟩)
    · exact ⟨hist, e, [], rfl, hstart, by simp⟩
    · refine ⟨before, x, after ++ [e], by simp, hstart, ?_⟩
      intro z hz
      rcases List.mem_append.mp hz with hz | hz
      · exact hkeep z hz
      · rw [List.mem_singleton.mp hz]
        exact hlast

end History

end PilotBeacon.Lib

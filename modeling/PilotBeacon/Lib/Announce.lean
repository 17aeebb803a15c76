import Mathlib.Data.List.Induction

/-!
# Announcements

Sources announce in turn whether they hold something. One that does becomes its owner, one
that does not gives it up if it was. When everybody who could have been the owner has had a
turn, the owner is somebody who holds it, and there is one if anybody does.

- `announce`, `announceAll`
- `announceAll_some`, `announceAll_holds`: the owner after a number of turns, in any order
-/

namespace PilotBeacon.Lib

namespace Announce

variable {ι : Type} [DecidableEq ι]

/-- The owner after a turn of `j`. -/
def announce (holds : ι → Bool) (owner : Option ι) (j : ι) : Option ι :=
  if holds j then some j else owner.filter fun i => decide (i ≠ j)

/-- The owner after the turns of `js`, in this order. -/
def announceAll (holds : ι → Bool) (owner : Option ι) (js : List ι) : Option ι :=
  js.foldl (announce holds) owner

theorem announceAll_concat (holds : ι → Bool) (owner : Option ι) (js : List ι) (j : ι) :
    announceAll holds owner (js ++ [j]) = announce holds (announceAll holds owner js) j := by
  rw [announceAll, List.foldl_append]
  rfl

variable {holds : ι → Bool} {owner : Option ι} {js : List ι}

/-- An owner holds the thing, or it was the owner before and has not had a turn. -/
theorem announceAll_some {i : ι} (h : announceAll holds owner js = some i) :
    holds i = true ∨ owner = some i ∧ i ∉ js := by
  induction js using List.reverseRecOn generalizing i with
  | nil => exact Or.inr ⟨h, by simp⟩
  | append_singleton js j ih =>
    rw [announceAll_concat, announce] at h
    split_ifs at h with hj
    · cases h
      exact Or.inl hj
    · obtain ⟨hold, hne⟩ := Option.filter_eq_some_iff.mp h
      rw [decide_eq_true_eq] at hne
      refine (ih hold).imp_right fun hi => ⟨hi.1, ?_⟩
      simp [hi.2, hne]

/-- Once a holder has had a turn there is an owner, and one that holds the thing. -/
theorem announceAll_holds {j : ι} (hj : j ∈ js) (hholds : holds j = true) :
    ∃ i, announceAll holds owner js = some i ∧ holds i = true := by
  induction js using List.reverseRecOn with
  | nil => cases hj
  | append_singleton js k ih =>
    rw [announceAll_concat, announce]
    by_cases hk : holds k = true
    · exact ⟨k, if_pos hk, hk⟩
    · have hjs : j ∈ js := by
        rcases List.mem_append.mp hj with hjs | hjk
        · exact hjs
        · rw [List.mem_singleton.mp hjk] at hholds
          exact absurd hholds hk
      obtain ⟨i, hi, hi'⟩ := ih hjs
      refine ⟨i, ?_, hi'⟩
      rw [if_neg hk, hi, Option.filter_eq_some_iff]
      refine ⟨rfl, ?_⟩
      -- `k` does not hold it, so it is not `i` that gives it up
      rw [decide_eq_true_eq]
      rintro rfl
      exact hk hi'

end Announce

end PilotBeacon.Lib

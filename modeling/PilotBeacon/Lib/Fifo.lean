import Mathlib.Data.List.Infix

/-!
# First In, First Out

A queue that grows at its end and is served at its head, seen from the moment it held `q₀`:
whoever was in it then is served, in order, by as many rounds as it was long, however much
arrives meanwhile.

- `Served`: what holds between the rounds, the items taken and the queue
- `Served.all`: enough rounds serve everybody
-/

namespace PilotBeacon.Lib

namespace Fifo

variable {α : Type} {q₀ taken q : List α} {rounds : Nat}

/-- After `rounds` rounds the items `taken` have been taken and `q` is left. Every round took an
    item, unless all of `q₀` had been taken before. -/
structure Served (q₀ : List α) (rounds : Nat) (taken q : List α) : Prop where
  order : q₀ <+: taken ++ q
  count : rounds ≤ taken.length ∨ q₀ <+: taken

theorem Served.start (q₀ : List α) : Served q₀ 0 [] q₀ where
  order := List.prefix_rfl
  count := Or.inl (Nat.zero_le _)

theorem Served.arrive (h : Served q₀ rounds taken q) (xs : List α) :
    Served q₀ rounds taken (q ++ xs) where
  order := by
    rw [← List.append_assoc]
    exact h.order.trans (List.prefix_append _ xs)
  count := h.count

/-- A round takes the head. -/
theorem Served.take {x : α} (h : Served q₀ rounds taken (x :: q)) :
    Served q₀ (rounds + 1) (taken ++ [x]) q where
  order := by
    rw [List.append_assoc]
    exact h.order
  count := by
    refine h.count.imp ?_ fun hall => hall.trans (List.prefix_append _ _)
    intro hcount
    rw [List.length_append, List.length_singleton]
    exact Nat.succ_le_succ hcount

/-- A round finds the queue empty: then everybody has been served. -/
theorem Served.empty (h : Served q₀ rounds taken []) : Served q₀ (rounds + 1) taken [] where
  order := h.order
  count := by
    refine Or.inr ?_
    have horder := h.order
    rwa [List.append_nil] at horder

/-- **Everybody is served** after as many rounds as there were items. -/
theorem Served.all (h : Served q₀ rounds taken q) (hrounds : q₀.length ≤ rounds) :
    q₀ <+: taken := by
  rcases h.count with hcount | hall
  · -- both are initial parts of what was or is in the queue
    exact List.prefix_of_prefix_length_le h.order (List.prefix_append taken q)
      (hrounds.trans hcount)
  · exact hall

end Fifo

end PilotBeacon.Lib

import Mathlib.Data.List.Forall2

/-!
# Lossy In-Order Processing

`List.SublistForall₂ R out inp` says that `out` is made, element by element and in order, from
some of `inp`. These are its laws under the moves of a pipeline: two stages in a row, losing
output, looking at one flow only.

- `Pipeline`: a queue in front of a batch in front of the outside
- `Pipeline.offer`, `Pipeline.move`: the two moves that keep its order
-/

namespace PilotBeacon.Lib

namespace Subsequence

variable {α β γ : Type} {R : α → β → Prop}

open List (SublistForall₂)

/-- More input in front changes nothing. -/
theorem sublistForall₂_append_left {out : List α} {inp : List β} (more : List β)
    (h : SublistForall₂ R out inp) : SublistForall₂ R out (more ++ inp) := by
  induction more with
  | nil => exact h
  | cons b more ih => exact .cons_right ih

/-- What two pipelines make one after the other. -/
theorem sublistForall₂_append {out out' : List α} {inp inp' : List β}
    (h : SublistForall₂ R out inp) (h' : SublistForall₂ R out' inp') :
    SublistForall₂ R (out ++ out') (inp ++ inp') := by
  induction h with
  | nil => exact sublistForall₂_append_left _ h'
  | cons hr _ ih => exact .cons hr ih
  | cons_right _ ih => exact .cons_right ih

/-- Output can be lost. -/
theorem sublistForall₂_of_sublist {out out' : List α} {inp : List β} (hsub : out'.Sublist out)
    (h : SublistForall₂ R out inp) : SublistForall₂ R out' inp := by
  induction h generalizing out' with
  | nil =>
    rw [List.sublist_nil.mp hsub]
    exact .nil
  | cons hr _ ih =>
    -- the element is lost or kept
    cases hsub with
    | cons _ hsub => exact .cons_right (ih hsub)
    | cons_cons _ hsub => exact .cons hr (ih hsub)
  | cons_right _ ih => exact .cons_right (ih hsub)

/-- There can be more input than was used. -/
theorem sublistForall₂_of_sublist_right {out : List α} {inp inp' : List β}
    (h : SublistForall₂ R out inp) (hsub : inp.Sublist inp') : SublistForall₂ R out inp' := by
  induction hsub generalizing out with
  | slnil => exact h
  | cons b _ ih => exact .cons_right (ih h)
  | cons_cons b _ ih =>
    cases h with
    | nil => exact .nil
    | cons hr h => exact .cons hr (ih h)
    | cons_right h => exact .cons_right (ih h)

/-- One flow of a pipeline that does not mix flows. -/
theorem sublistForall₂_filter {out : List α} {inp : List β} (p : α → Bool) (q : β → Bool)
    (hpq : ∀ a b, R a b → p a = q b) (h : SublistForall₂ R out inp) :
    SublistForall₂ R (out.filter p) (inp.filter q) := by
  induction h with
  | nil => exact .nil
  | @cons a b _ _ hr _ ih =>
    rw [List.filter_cons, List.filter_cons, hpq a b hr]
    cases q b with
    | false => exact ih
    | true => exact .cons hr ih
  | @cons_right b _ _ _ ih =>
    rw [List.filter_cons]
    cases q b with
    | false => exact ih
    | true => exact .cons_right ih

/-- The input seen through `f`. -/
theorem sublistForall₂_map {out : List α} {inp : List β} {S : α → γ → Prop} (f : β → γ)
    (hRS : ∀ a, ∀ b ∈ inp, R a b → S a (f b)) (h : SublistForall₂ R out inp) :
    SublistForall₂ S out (inp.map f) := by
  induction h with
  | nil => exact .nil
  | cons hr _ ih =>
    exact .cons (hRS _ _ (by simp) hr) (ih fun a b hb => hRS a b (by simp [hb]))
  | cons_right _ ih => exact .cons_right (ih fun a b hb => hRS a b (by simp [hb]))

/-- Everything made was made from something. -/
theorem exists_of_mem {out : List α} {inp : List β}
    (h : SublistForall₂ R out inp) {x : α} (hx : x ∈ out) : ∃ y ∈ inp, R x y := by
  induction h with
  | nil => cases hx
  | cons hR _ ih =>
    rcases List.mem_cons.mp hx with rfl | hx
    · exact ⟨_, List.mem_cons_self, hR⟩
    · obtain ⟨y, hy, hxy⟩ := ih hx
      exact ⟨y, List.mem_cons_of_mem _ hy, hxy⟩
  | cons_right _ ih =>
    obtain ⟨y, hy, hxy⟩ := ih hx
    exact ⟨y, List.mem_cons_of_mem _ hy, hxy⟩

/-! ## Pipelines -/

/-- What left (`sent`), is batched and is queued is, in this order, made from a subsequence of
    what was offered. -/
def Pipeline (R : α → β → Prop) (sent batch : List α) (queue offered : List β) : Prop :=
  ∃ early late, offered = early ++ late ∧ SublistForall₂ R (sent ++ batch) early ∧
    queue.Sublist late

section

variable {sent batch : List α} {queue offered : List β}

theorem pipeline_nil (R : α → β → Prop) : Pipeline R [] [] [] [] :=
  ⟨[], [], rfl, .nil, .slnil⟩

/-- Of what is offered, some is queued. -/
theorem Pipeline.offer (h : Pipeline R sent batch queue offered) {more accepted : List β}
    (haccepted : accepted.Sublist more) :
    Pipeline R sent batch (queue ++ accepted) (offered ++ more) := by
  obtain ⟨early, late, rfl, hearly, hlate⟩ := h
  exact ⟨early, late ++ more, by rw [List.append_assoc], hearly, hlate.append haccepted⟩

/-- Of the front of the queue, some is added to the batch; of that, some leaves and a later part
    stays. -/
theorem Pipeline.move {taken rest : List β} {added out batch' : List α}
    (h : Pipeline R sent batch (taken ++ rest) offered) (hadded : SublistForall₂ R added taken)
    (hout : (out ++ batch').Sublist (batch ++ added)) :
    Pipeline R (sent ++ out) batch' rest offered := by
  obtain ⟨early, late, rfl, hearly, hlate⟩ := h
  -- what is taken moves from the late part of the offered to the early one
  rw [List.append_sublist_iff] at hlate
  obtain ⟨used, unused, rfl, hused, hunused⟩ := hlate
  refine ⟨early ++ used, unused, by rw [List.append_assoc], ?_, hunused⟩
  have hmade := sublistForall₂_append hearly (sublistForall₂_of_sublist_right hadded hused)
  apply sublistForall₂_of_sublist _ hmade
  rw [List.append_assoc, List.append_assoc]
  exact hout.append_left sent

theorem Pipeline.sent_in_order (h : Pipeline R sent batch queue offered) :
    SublistForall₂ R sent offered := by
  obtain ⟨early, late, rfl, hearly, -⟩ := h
  exact sublistForall₂_of_sublist_right
    (sublistForall₂_of_sublist (List.sublist_append_left _ _) hearly)
    (List.sublist_append_left _ _)

end

end Subsequence

end PilotBeacon.Lib

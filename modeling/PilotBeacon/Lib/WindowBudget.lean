import PilotBeacon.Lib.Limiter

/-!
# Bursts Through a Window Limiter

The windows of a key are anchored at its admissions, so an arbitrary interval of the length of
a window can overlap two of them. What one key is admitted is therefore bounded by `max` from
the start of each window on, and by `2 * max - 1` in an arbitrary interval.

- `WindowLog`: the limiter against the history of one key: when it was admitted and when its
  windows started
- `WindowLog.call`, `WindowLog.other`, `WindowLog.sweep`: the moves of the limiter keep it
- `WindowLog.burst`: the bound for an arbitrary interval
-/

namespace PilotBeacon.Lib

namespace Limiter

/-! ## Counting -/

theorem countP_le_add {α : Type} {p q r : α → Bool} {l : List α}
    (h : ∀ x ∈ l, p x = true → q x = true ∨ r x = true) :
    l.countP p ≤ l.countP q + l.countP r := by
  induction l with
  | nil => exact Nat.le_refl _
  | cons x l ih =>
    have hl := ih fun y hy => h y (List.mem_cons_of_mem x hy)
    have hx := h x List.mem_cons_self
    rw [List.countP_cons, List.countP_cons, List.countP_cons]
    split_ifs with hp hq hr <;> simp_all <;> omega

theorem countP_lt_of_mem {α : Type} {p q : α → Bool} {l : List α} {x : α} (hx : x ∈ l)
    (h : ∀ y ∈ l, p y = true → q y = true) (hq : q x = true) (hp : p x = false) :
    l.countP p < l.countP q := by
  obtain ⟨l₁, l₂, rfl⟩ := List.append_of_mem hx
  have h₁ : l₁.countP p ≤ l₁.countP q := List.countP_mono_left fun y hy => h y (by simp [hy])
  have h₂ : l₂.countP p ≤ l₂.countP q := List.countP_mono_left fun y hy => h y (by simp [hy])
  rw [List.countP_append, List.countP_append, List.countP_cons, List.countP_cons, hq, hp]
  simp only [Bool.false_eq_true, if_false, if_true]
  omega

variable {K : Type} [DecidableEq K] {n : Nat} {shardOf : K → Fin n}

/-! ## Windows -/

/-- A call of `k` now would open a window. -/
def opensWindow (m : ShardedMap K Window n shardOf) (k : K) (now period : Int) : Bool :=
  match m.lookup k with
  | none => true
  | some w => decide (period ≤ now - w.windowStart)

section

variable {m : ShardedMap K Window n shardOf} {k : K} {now period : Int} {max : Nat}

theorem windowAllow_of_opens (h : opensWindow m k now period = true) :
    windowAllow m k now period max = (true, m.insert k ⟨now, 1⟩) := by
  unfold opensWindow at h
  unfold windowAllow
  cases hlookup : m.lookup k with
  | none => rfl
  | some w =>
    rw [hlookup] at h
    exact if_pos (of_decide_eq_true h)

theorem windowAllow_of_running (h : opensWindow m k now period = false) (max : Nat) :
    ∃ w, m.lookup k = some w ∧ now - w.windowStart < period ∧
      windowAllow m k now period max =
        if max ≤ w.count then (false, m) else (true, m.insert k ⟨w.windowStart, w.count + 1⟩) := by
  unfold opensWindow at h
  unfold windowAllow
  cases hlookup : m.lookup k with
  | none =>
    rw [hlookup] at h
    cases h
  | some w =>
    rw [hlookup] at h
    have hlt := of_decide_eq_false h
    exact ⟨w, rfl, by omega, if_neg hlt⟩

/-- The limiter against the history of `k`: `admitted` are the times of its admissions and
    `starts` those that opened a window. -/
structure WindowLog (m : ShardedMap K Window n shardOf) (k : K) (period : Int) (max : Nat)
    (admitted starts : List Int) (now : Int) : Prop where
  capped : ∀ w ∈ starts, admitted.countP (fun t => w ≤ t ∧ t < w + period) ≤ max
  covered : ∀ t ∈ admitted, ∃ w ∈ starts, w ≤ t ∧ t < w + period
  opened : ∀ w ∈ starts, w ∈ admitted
  apart : starts.Pairwise fun v w => v + period ≤ w
  current : ∀ w, m.lookup k = some w → w.windowStart ∈ starts ∧
    (∀ v ∈ starts, v ≤ w.windowStart) ∧
    w.count = admitted.countP fun t => w.windowStart ≤ t ∧ t < w.windowStart + period
  forgotten : m.lookup k = none → ∀ w ∈ starts, w + period ≤ now
  past : ∀ t ∈ admitted, t ≤ now

variable {admitted starts : List Int}

theorem windowLog_empty (h : m.lookup k = none) (period : Int) (max : Nat) (now : Int) :
    WindowLog m k period max [] [] now where
  capped := nofun
  covered := nofun
  opened := nofun
  apart := .nil
  current := fun w hw => by rw [h] at hw; cases hw
  forgotten := fun _ => nofun
  past := nofun

theorem WindowLog.mono (h : WindowLog m k period max admitted starts now) {now' : Int}
    (hle : now ≤ now') : WindowLog m k period max admitted starts now' :=
  { h with
    forgotten := fun hnone w hw => (h.forgotten hnone w hw).trans hle
    past := fun t ht => (h.past t ht).trans hle }

/-- Two windows are one, or one ends before the other starts. -/
theorem WindowLog.disjoint (h : WindowLog m k period max admitted starts now) :
    ∀ v ∈ starts, ∀ w ∈ starts, v = w ∨ v + period ≤ w ∨ w + period ≤ v := by
  have hsymm : Std.Symm fun v w : Int => v = w ∨ v + period ≤ w ∨ w + period ≤ v :=
    ⟨fun v w hvw => by omega⟩
  have hpair : starts.Pairwise fun v w => v = w ∨ v + period ≤ w ∨ w + period ≤ v :=
    h.apart.imp fun hvw => Or.inr (Or.inl hvw)
  intro v hv w hw
  exact List.Pairwise.forall_of_forall
    (R := fun v w : Int => v = w ∨ v + period ≤ w ∨ w + period ≤ v) (fun _ _ => Or.inl rfl) hpair
    hv hw

/-- Only the window of `k` matters. -/
theorem WindowLog.of_lookup_eq (h : WindowLog m k period max admitted starts now)
    {m' : ShardedMap K Window n shardOf} (hm : m'.lookup k = m.lookup k) :
    WindowLog m' k period max admitted starts now :=
  { h with
    current := by rw [hm]; exact h.current
    forgotten := by rw [hm]; exact h.forgotten }

theorem WindowLog.other (h : WindowLog m k period max admitted starts now) {k' : K} (hne : k ≠ k')
    (t : Int) : WindowLog (windowAllow m k' t period max).2 k period max admitted starts now :=
  h.of_lookup_eq (lookup_windowAllow_of_ne hne t period max)

/-- A sweep forgets windows that have run out. -/
theorem WindowLog.sweep (h : WindowLog m k period max admitted starts now) {cutoff : Int}
    (hcutoff : cutoff + period ≤ now) :
    WindowLog (windowSweep m cutoff) k period max admitted starts now := by
  have hlookup : (windowSweep m cutoff).lookup k =
      (m.lookup k).filter fun w => !decide (w.windowStart < cutoff) :=
    ShardedMap.lookup_filter _ m k
  refine { h with current := ?_, forgotten := ?_ }
  · intro w hw
    rw [hlookup, Option.filter_eq_some_iff] at hw
    exact h.current w hw.1
  · intro hnone v hv
    rw [hlookup, Option.filter_eq_none_iff] at hnone
    cases hm : m.lookup k with
    | none => exact h.forgotten hm v hv
    | some w =>
      have hold := hnone w hm
      simp only [Bool.not_eq_true', decide_eq_false_iff_not, not_not] at hold
      have hv' := (h.current w hm).2.1 v hv
      omega

/-- All windows have run out when a new one is opened. -/
theorem WindowLog.run_out (h : WindowLog m k period max admitted starts now)
    (hopens : opensWindow m k now period = true) : ∀ w ∈ starts, w + period ≤ now := by
  intro v hv
  unfold opensWindow at hopens
  split at hopens
  · rename_i hnone
    exact h.forgotten hnone v hv
  · rename_i w hw
    have hv' := (h.current w hw).2.1 v hv
    have := of_decide_eq_true hopens
    omega

theorem WindowLog.past_concat (h : WindowLog m k period max admitted starts now) :
    ∀ t ∈ admitted ++ [now], t ≤ now := by
  intro t ht
  rcases List.mem_append.mp ht with ht | ht
  · exact h.past t ht
  · rw [List.mem_singleton.mp ht]

/-- A window that is over does not count a new admission. -/
theorem countP_concat_of_over {w : Int} (hover : w + period ≤ now) :
    (admitted ++ [now]).countP (fun t => w ≤ t ∧ t < w + period) =
      admitted.countP fun t => w ≤ t ∧ t < w + period := by
  rw [List.countP_append, List.countP_singleton, if_neg (by simp; omega), Nat.add_zero]

/-- A window that opens holds the admission that opens it only. -/
theorem WindowLog.count_opening (h : WindowLog m k period max admitted starts now)
    (hperiod : 0 < period) (hopens : opensWindow m k now period = true) :
    (admitted ++ [now]).countP (fun t => now ≤ t ∧ t < now + period) = 1 := by
  have hzero : admitted.countP (fun t => now ≤ t ∧ t < now + period) = 0 := by
    rw [List.countP_eq_zero]
    intro t ht
    obtain ⟨w, hw, -, hlt⟩ := h.covered t ht
    have := h.run_out hopens w hw
    simp only [decide_eq_true_eq]
    omega
  rw [List.countP_append, hzero, List.countP_singleton, if_pos (by simp; omega)]

/-- An admission that opens a window. -/
theorem WindowLog.opening (h : WindowLog m k period max admitted starts now) (hperiod : 0 < period)
    (hmax : 0 < max) (hopens : opensWindow m k now period = true) :
    WindowLog (m.insert k ⟨now, 1⟩) k period max (admitted ++ [now]) (starts ++ [now]) now where
  capped := by
    intro w hw
    rcases List.mem_append.mp hw with hw | hw
    · rw [countP_concat_of_over (h.run_out hopens w hw)]
      exact h.capped w hw
    · rw [List.mem_singleton.mp hw, h.count_opening hperiod hopens]
      exact hmax
  covered := by
    intro t ht
    rcases List.mem_append.mp ht with ht | ht
    · obtain ⟨w, hw, hwt⟩ := h.covered t ht
      exact ⟨w, List.mem_append_left _ hw, hwt⟩
    · rw [List.mem_singleton.mp ht]
      exact ⟨now, by simp, by omega, by omega⟩
  opened := by
    intro w hw
    rcases List.mem_append.mp hw with hw | hw
    · exact List.mem_append_left _ (h.opened w hw)
    · exact List.mem_append_right _ hw
  apart := by
    rw [List.pairwise_append]
    refine ⟨h.apart, List.pairwise_singleton _ _, ?_⟩
    intro v hv w hw
    rw [List.mem_singleton.mp hw]
    exact h.run_out hopens v hv
  current := by
    intro w hw
    rw [ShardedMap.lookup_insert_self] at hw
    cases hw
    refine ⟨by simp, ?_, (h.count_opening hperiod hopens).symm⟩
    intro v hv
    rcases List.mem_append.mp hv with hv | hv
    · have := h.run_out hopens v hv
      dsimp only
      omega
    · rw [List.mem_singleton.mp hv]
  forgotten := by
    intro hnone
    rw [ShardedMap.lookup_insert_self] at hnone
    cases hnone
  past := h.past_concat

/-- An admission into the running window. -/
theorem WindowLog.running (h : WindowLog m k period max admitted starts now) {w : Window}
    (hw : m.lookup k = some w) (hrun : now - w.windowStart < period) (hroom : w.count < max) :
    WindowLog (m.insert k ⟨w.windowStart, w.count + 1⟩) k period max (admitted ++ [now]) starts
      now := by
  obtain ⟨hstart, hlatest, hcount⟩ := h.current w hw
  have hpast := h.past _ (h.opened _ hstart)
  have hgrow : (admitted ++ [now]).countP
      (fun t => w.windowStart ≤ t ∧ t < w.windowStart + period) = w.count + 1 := by
    rw [List.countP_append, ← hcount, List.countP_singleton, if_pos (by simp; omega)]
  refine ⟨?_, ?_, ?_, h.apart, ?_, ?_, h.past_concat⟩
  · intro v hv
    by_cases hvw : v = w.windowStart
    · rw [hvw, hgrow]
      exact hroom
    · -- an earlier window ended before this one started
      have hdisjoint := h.disjoint v hv _ hstart
      have := hlatest v hv
      rw [countP_concat_of_over (by omega)]
      exact h.capped v hv
  · intro t ht
    rcases List.mem_append.mp ht with ht | ht
    · exact h.covered t ht
    · rw [List.mem_singleton.mp ht]
      exact ⟨w.windowStart, hstart, hpast, by omega⟩
  · exact fun v hv => List.mem_append_left _ (h.opened v hv)
  · intro w' hw'
    rw [ShardedMap.lookup_insert_self] at hw'
    cases hw'
    exact ⟨hstart, hlatest, hgrow.symm⟩
  · intro hnone
    rw [ShardedMap.lookup_insert_self] at hnone
    cases hnone

/-- **One call**, admitted or not. -/
theorem WindowLog.call (h : WindowLog m k period max admitted starts now) (hperiod : 0 < period)
    (hmax : 0 < max) :
    WindowLog (windowAllow m k now period max).2 k period max
      (admitted ++ if (windowAllow m k now period max).1 then [now] else [])
      (starts ++ if opensWindow m k now period then [now] else []) now := by
  cases hopens : opensWindow m k now period with
  | true =>
    rw [windowAllow_of_opens hopens]
    exact h.opening hperiod hmax hopens
  | false =>
    obtain ⟨w, hw, hrun, hallow⟩ := windowAllow_of_running hopens max
    rw [hallow, if_neg Bool.false_ne_true, List.append_nil]
    by_cases hfull : max ≤ w.count
    · rw [if_pos hfull, if_neg Bool.false_ne_true, List.append_nil]
      exact h
    · rw [if_neg hfull, if_pos rfl]
      exact h.running hw hrun (by omega)

/-! ## Bursts -/

/-- Of a window that started before an interval, the interval misses at least the admission that
    opened it. -/
theorem WindowLog.early (h : WindowLog m k period max admitted starts now) (hmax : 0 < max)
    (t₀ : Int) :
    admitted.countP (fun t => t₀ ≤ t ∧ ∃ v ∈ starts, v < t₀ ∧ t < v + period) ≤ max - 1 := by
  by_cases hstart : ∃ v ∈ starts, v < t₀ ∧ t₀ < v + period
  · obtain ⟨v, hv, hlt, hgt⟩ := hstart
    -- there is one such window, as they do not overlap
    have hlt := countP_lt_of_mem (h.opened v hv)
      (p := fun t => t₀ ≤ t ∧ ∃ v ∈ starts, v < t₀ ∧ t < v + period)
      (q := fun t => v ≤ t ∧ t < v + period)
      (by
        intro t _ ht
        simp only [decide_eq_true_eq] at ht ⊢
        obtain ⟨ht₀, w, hw, hwt, htw⟩ := ht
        have := h.disjoint v hv w hw
        omega)
      (by
        have := h.covered v (h.opened v hv)
        simp only [decide_eq_true_eq]
        omega)
      (by
        simp only [decide_eq_false_iff_not, not_and]
        intro hle
        omega)
    have := h.capped v hv
    omega
  · have hzero : admitted.countP (fun t => t₀ ≤ t ∧ ∃ v ∈ starts, v < t₀ ∧ t < v + period) = 0 := by
      rw [List.countP_eq_zero]
      intro t _
      simp only [decide_eq_true_eq]
      rintro ⟨ht₀, w, hw, hwt, htw⟩
      exact hstart ⟨w, hw, hwt, by omega⟩
    omega

/-- In an interval at most one window starts. -/
theorem WindowLog.late (h : WindowLog m k period max admitted starts now) (t₀ : Int) :
    admitted.countP (fun t => t < t₀ + period ∧ ∃ v ∈ starts, t₀ ≤ v ∧ v ≤ t ∧ t < v + period) ≤
      max := by
  by_cases hstart : ∃ v ∈ starts, t₀ ≤ v ∧ v < t₀ + period
  · obtain ⟨v, hv, hle, hlt⟩ := hstart
    apply le_trans _ (h.capped v hv)
    apply List.countP_mono_left
    intro t _ ht
    simp only [decide_eq_true_eq] at ht ⊢
    obtain ⟨ht₀, w, hw, hle', hwt, htw⟩ := ht
    have := h.disjoint v hv w hw
    omega
  · have hzero : admitted.countP
        (fun t => t < t₀ + period ∧ ∃ v ∈ starts, t₀ ≤ v ∧ v ≤ t ∧ t < v + period) = 0 := by
      rw [List.countP_eq_zero]
      intro t _
      simp only [decide_eq_true_eq]
      rintro ⟨ht₀, w, hw, hle', hwt, htw⟩
      exact hstart ⟨w, hw, hle', by omega⟩
    omega

/-- **An arbitrary interval** of the length of a window holds fewer admissions than two full
    windows. -/
theorem WindowLog.burst (h : WindowLog m k period max admitted starts now) (hmax : 0 < max)
    (t₀ : Int) :
    admitted.countP (fun t => t₀ ≤ t ∧ t < t₀ + period) ≤ 2 * max - 1 := by
  have hsplit := countP_le_add (l := admitted) (p := fun t => t₀ ≤ t ∧ t < t₀ + period)
    (q := fun t => t₀ ≤ t ∧ ∃ v ∈ starts, v < t₀ ∧ t < v + period)
    (r := fun t => t < t₀ + period ∧ ∃ v ∈ starts, t₀ ≤ v ∧ v ≤ t ∧ t < v + period)
    (by
      intro t ht hin
      simp only [decide_eq_true_eq] at hin ⊢
      obtain ⟨v, hv, hvt, htv⟩ := h.covered t ht
      by_cases hearly : v < t₀
      · exact Or.inl ⟨hin.1, v, hv, hearly, htv⟩
      · exact Or.inr ⟨hin.2, v, hv, by omega, hvt, htv⟩)
  have := h.early hmax t₀
  have := h.late t₀
  omega

end

end Limiter

end PilotBeacon.Lib

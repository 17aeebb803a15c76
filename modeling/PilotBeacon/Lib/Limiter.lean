import PilotBeacon.Lib.ShardedMap

/-!
# Rate Limiters over Sharded Maps

Two limiters keyed by an arbitrary key, with their clock readings passed in.

- **Interval limiter**: at most one admission per key and `minInterval`
- **Window limiter**: at most `max` admissions per key and window of length `period`,
  windows being opened by the first admission after the previous one ran out

Both forget entries older than a cutoff when swept. The key result about the window
limiter is `windowAllow_of_budget`: a key whose calls stay within `max` per period is
never refused, whatever other keys do.
-/

namespace PilotBeacon.Lib

namespace Limiter

variable {K : Type} [DecidableEq K] {n : Nat} {shardOf : K → Fin n}

/-! ## Interval limiter -/

/-- Admit `k` unless its last admission is less than `minInterval` ago; record admissions. -/
def intervalAllow (m : ShardedMap K Int n shardOf) (k : K) (now minInterval : Int) :
    Bool × ShardedMap K Int n shardOf :=
  match m.lookup k with
  | some last => if now - last < minInterval then (false, m) else (true, m.insert k now)
  | none => (true, m.insert k now)

/-- Forget the entries from before `cutoff`. -/
def intervalSweep (m : ShardedMap K Int n shardOf) (cutoff : Int) : ShardedMap K Int n shardOf :=
  m.filter (fun _ last => !decide (last < cutoff))

/-- A refusal leaves the limiter as it was. -/
theorem intervalAllow_false {m : ShardedMap K Int n shardOf} {k : K} {now minInterval : Int}
    (h : (intervalAllow m k now minInterval).1 = false) :
    (intervalAllow m k now minInterval).2 = m := by
  unfold intervalAllow at h ⊢
  split at h
  · split_ifs at h
    simp [*]
  · simp at h

/-- Why a call is refused. -/
theorem lookup_of_intervalAllow_false {m : ShardedMap K Int n shardOf} {k : K}
    {now minInterval : Int} (h : (intervalAllow m k now minInterval).1 = false) :
    ∃ last, m.lookup k = some last ∧ now - last < minInterval := by
  unfold intervalAllow at h
  cases hl : m.lookup k with
  | none =>
    rw [hl] at h
    nomatch h
  | some last =>
    refine ⟨last, rfl, ?_⟩
    by_contra hold
    simp [hl, hold] at h

/-- What an admission records, and why it was not refused. -/
theorem intervalAllow_true {m : ShardedMap K Int n shardOf} {k : K} {now minInterval : Int}
    (h : (intervalAllow m k now minInterval).1 = true) :
    (intervalAllow m k now minInterval).2 = m.insert k now ∧
      ∀ last, m.lookup k = some last → minInterval ≤ now - last := by
  unfold intervalAllow at h ⊢
  split at h
  · rename_i last hlast
    split_ifs at h with hlt
    refine ⟨by simp [hlt], ?_⟩
    intro last' hlast'
    rw [hlast] at hlast'
    cases hlast'
    omega
  · rename_i hnone
    refine ⟨rfl, ?_⟩
    intro last hlast
    rw [hnone] at hlast
    cases hlast

theorem lookup_intervalAllow_of_ne {m : ShardedMap K Int n shardOf} {k k' : K} (hne : k ≠ k')
    (now minInterval : Int) :
    (intervalAllow m k' now minInterval).2.lookup k = m.lookup k := by
  unfold intervalAllow
  split
  · split_ifs
    · rfl
    · exact ShardedMap.lookup_insert_of_ne _ _ hne
  · exact ShardedMap.lookup_insert_of_ne _ _ hne

/-- A call leaves a recorded time as it is, unless that is `minInterval` old. -/
theorem lookup_intervalAllow_or {m : ShardedMap K Int n shardOf} {k : K} {t : Int}
    (h : m.lookup k = some t) (k' : K) (now minInterval : Int) :
    (intervalAllow m k' now minInterval).2.lookup k = some t ∨ minInterval ≤ now - t := by
  by_cases hk : k = k'
  · subst hk
    cases hallow : (intervalAllow m k now minInterval).1 with
    | false =>
      left
      rw [intervalAllow_false hallow]
      exact h
    | true => exact Or.inr ((intervalAllow_true hallow).2 t h)
  · left
    rw [lookup_intervalAllow_of_ne hk]
    exact h

/-- A call depends on its own key's entry only. -/
theorem intervalAllow_congr {m m' : ShardedMap K Int n shardOf} {k : K}
    (h : m'.lookup k = m.lookup k) (now minInterval : Int) :
    (intervalAllow m' k now minInterval).1 = (intervalAllow m k now minInterval).1 ∧
      (intervalAllow m' k now minInterval).2.lookup k =
        (intervalAllow m k now minInterval).2.lookup k := by
  unfold intervalAllow
  rw [h]
  cases hk : m.lookup k with
  | none => simp
  | some last =>
    dsimp only
    split_ifs
    · exact ⟨rfl, h.trans rfl⟩
    · simp

/-- A key whose last admission is long enough ago is admitted. -/
theorem intervalAllow_of_old {m : ShardedMap K Int n shardOf} {k : K} {now minInterval : Int}
    (h : ∀ last, m.lookup k = some last → last + minInterval ≤ now) :
    intervalAllow m k now minInterval = (true, m.insert k now) := by
  unfold intervalAllow
  cases hk : m.lookup k with
  | none => rfl
  | some last =>
    dsimp only
    have := h last hk
    rw [if_neg (by omega)]

/-! ## Spaced times -/

/-- Times that are at least `d` apart and lie within `k * d` of each other are at most `k + 1`. -/
theorem length_le_of_spaced {d : Int} (hd : 0 < d) {ts : List Int}
    (hspaced : ts.Pairwise fun t t' => t + d ≤ t') {k : Nat} {lo : Int}
    (hin : ∀ t ∈ ts, lo ≤ t ∧ t ≤ lo + k * d) : ts.length ≤ k + 1 := by
  induction ts generalizing k lo with
  | nil => exact Nat.zero_le _
  | cons t ts ih =>
    obtain ⟨hfirst, hrest⟩ := List.pairwise_cons.mp hspaced
    obtain ⟨hlo, -⟩ := hin t List.mem_cons_self
    cases k with
    | zero =>
      -- a second time would be beyond the end
      cases ts with
      | nil => simp
      | cons t' ts =>
        have hsecond := hfirst t' List.mem_cons_self
        have hend := (hin t' (by simp)).2
        rw [Int.natCast_zero, Int.zero_mul] at hend
        omega
    | succ k =>
      have hlater : ∀ t' ∈ ts, lo + d ≤ t' ∧ t' ≤ lo + d + k * d := by
        intro t' ht'
        have hsecond := hfirst t' ht'
        have hend := (hin t' (List.mem_cons_of_mem t ht')).2
        rw [Int.natCast_succ, Int.add_mul, Int.one_mul] at hend
        exact ⟨by omega, by omega⟩
      exact Nat.succ_le_succ (ih hrest hlater)

/-! ## Window limiter -/

/-- One key's current window: when it opened and how many admissions it holds. -/
structure Window where
  windowStart : Int
  count : Nat
deriving DecidableEq

/-- Admit `k` if its window has run out (opening a new one) or is not full. -/
def windowAllow (m : ShardedMap K Window n shardOf) (k : K) (now period : Int) (max : Nat) :
    Bool × ShardedMap K Window n shardOf :=
  match m.lookup k with
  | none => (true, m.insert k ⟨now, 1⟩)
  | some w =>
    -- the window has run out: this call opens the next one
    if period ≤ now - w.windowStart then (true, m.insert k ⟨now, 1⟩)
    else if max ≤ w.count then (false, m)
    else (true, m.insert k ⟨w.windowStart, w.count + 1⟩)

/-- Forget the windows opened before `cutoff`. -/
def windowSweep (m : ShardedMap K Window n shardOf) (cutoff : Int) :
    ShardedMap K Window n shardOf :=
  m.filter (fun _ w => !decide (w.windowStart < cutoff))

theorem lookup_windowAllow_of_ne {m : ShardedMap K Window n shardOf} {k k' : K} (hne : k ≠ k')
    (now period : Int) (max : Nat) :
    (windowAllow m k' now period max).2.lookup k = m.lookup k := by
  unfold windowAllow
  split
  · exact ShardedMap.lookup_insert_of_ne _ _ hne
  · split_ifs
    · exact ShardedMap.lookup_insert_of_ne _ _ hne
    · rfl
    · exact ShardedMap.lookup_insert_of_ne _ _ hne

/-- The window of `k` counts calls of `k` only: of the calls at the times `ts`, it holds at
    most those from its opening on, and it opened no later than `now`. -/
def WindowCounts (m : ShardedMap K Window n shardOf) (k : K) (ts : List Int) (now : Int) : Prop :=
  ∀ w, m.lookup k = some w →
    w.count ≤ ts.countP (fun t => w.windowStart ≤ t) ∧ w.windowStart ≤ now

theorem WindowCounts.sweep {m : ShardedMap K Window n shardOf} {k : K} {ts : List Int} {now : Int}
    (h : WindowCounts m k ts now) (cutoff : Int) :
    WindowCounts (windowSweep m cutoff) k ts now := by
  intro w hw
  rw [windowSweep, ShardedMap.lookup_filter, Option.filter_eq_some_iff] at hw
  exact h w hw.1

theorem WindowCounts.mono {m : ShardedMap K Window n shardOf} {k : K} {ts : List Int}
    {now now' : Int} (h : WindowCounts m k ts now) (hle : now ≤ now') :
    WindowCounts m k ts now' :=
  fun w hw => ⟨(h w hw).1, (h w hw).2.trans hle⟩

theorem WindowCounts.other {m : ShardedMap K Window n shardOf} {k k' : K} {ts : List Int}
    {now : Int} (h : WindowCounts m k ts now) (hne : k ≠ k') (t period : Int) (max : Nat) :
    WindowCounts (windowAllow m k' t period max).2 k ts now := by
  intro w hw
  rw [lookup_windowAllow_of_ne hne] at hw
  exact h w hw

/-- One more call of `k`, admitted or not. -/
theorem WindowCounts.call {m : ShardedMap K Window n shardOf} {k : K} {ts : List Int} {now : Int}
    (h : WindowCounts m k ts now) (period : Int) (max : Nat) :
    WindowCounts (windowAllow m k now period max).2 k (ts ++ [now]) now := by
  -- a new window counts this call only
  have hnew : WindowCounts (m.insert k ⟨now, 1⟩) k (ts ++ [now]) now := by
    intro w hw
    rw [ShardedMap.lookup_insert_self] at hw
    cases hw
    simp
  unfold windowAllow
  split
  · exact hnew
  · rename_i w hw
    obtain ⟨hcount, hstart⟩ := h w hw
    split_ifs
    · exact hnew
    · intro w' hw'
      rw [hw] at hw'
      cases hw'
      -- refused: the window stays, the list of calls grows
      refine ⟨?_, hstart⟩
      rw [List.countP_append]
      omega
    · intro w' hw'
      rw [ShardedMap.lookup_insert_self] at hw'
      cases hw'
      refine ⟨?_, hstart⟩
      rw [List.countP_append, List.countP_singleton, if_pos (by simpa using hstart)]
      exact Nat.add_le_add_right hcount 1

/-- **A key within its budget is not refused**: if the calls of `k` so far and this one put
    at most `max` into every half-open interval of length `period`, this one is admitted. -/
theorem windowAllow_of_budget {m : ShardedMap K Window n shardOf} {k : K} {ts : List Int}
    {now period : Int} {max : Nat} (h : WindowCounts m k ts now) (hpast : ∀ t ∈ ts, t ≤ now)
    (hbudget : ∀ t₀, (ts ++ [now]).countP (fun t => t₀ ≤ t ∧ t < t₀ + period) ≤ max) :
    (windowAllow m k now period max).1 = true := by
  unfold windowAllow
  split
  · rfl
  · rename_i w hw
    obtain ⟨hcount, hstart⟩ := h w hw
    split_ifs with hopen hfull
    · rfl
    · -- the full window and this call lie in one interval of length `period`
      exfalso
      have hall : ts.countP (fun t => w.windowStart ≤ t) ≤
          ts.countP (fun t => w.windowStart ≤ t ∧ t < w.windowStart + period) := by
        apply List.countP_mono_left
        intro t ht hle
        simp only [decide_eq_true_eq] at hle ⊢
        exact ⟨hle, by have := hpast t ht; omega⟩
      have hlim := hbudget w.windowStart
      rw [List.countP_append, List.countP_singleton, if_pos (by simp; omega)] at hlim
      omega
    · rfl

end Limiter

end PilotBeacon.Lib

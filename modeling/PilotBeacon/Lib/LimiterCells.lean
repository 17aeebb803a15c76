import PilotBeacon.Lib.Limiter
import PilotBeacon.Lib.Transition

/-!
# Limiters Cell by Cell

A keyed limiter is a rule for one key, applied to what is kept for that key. Seen this way
sharding cannot matter, since a call reads and writes the cell of its own key only, and neither
can a sweep, as long as it drops only cells the rule would treat as missing ones from then on.

- `Rule`: the rule for one key; `intervalRule`, `windowRule` are those of the two limiters
- `flatAllow`: the rule over a single map that is never swept
- `answersAlone`: a sharded, swept limiter answers every call as the single map does that has
  seen only the calls for the same key
-/

namespace PilotBeacon.Lib

namespace Limiter

/-! ## Rules -/

/-- What is kept for a key after an admitted call at a given time, from what was kept before;
    `none` refuses the call, and then what was kept stays. -/
abbrev Rule (S : Type) := Option S → Int → Option S

/-- Admit unless the last admission is less than `minInterval` ago. -/
def intervalRule (minInterval : Int) : Rule Int := fun last now =>
  if last.any fun last => now - last < minInterval then none else some now

/-- Admit into the current window while it has room, or open the next one. -/
def windowRule (period : Int) (max : Nat) : Rule Window := fun w now =>
  match w with
  | none => some ⟨now, 1⟩
  | some w =>
    if period ≤ now - w.windowStart then some ⟨now, 1⟩
    else if max ≤ w.count then none
    else some ⟨w.windowStart, w.count + 1⟩

/-- From `interval` after its stamp on, a cell counts as missing. -/
def Rule.Forgets {S : Type} (rule : Rule S) (stamp : S → Int) (interval : Int) : Prop :=
  ∀ s now, stamp s + interval ≤ now → rule (some s) now = rule none now

theorem intervalRule_forgets (minInterval : Int) :
    (intervalRule minInterval).Forgets id minInterval := by
  intro last now h
  have hold : ¬ now - last < minInterval := by
    simp only [id] at h
    omega
  simp [intervalRule, hold]

theorem windowRule_forgets (period : Int) (max : Nat) :
    (windowRule period max).Forgets Window.windowStart period := by
  intro w now h
  exact if_pos (by omega)

variable {K S : Type}

/-! ## Calls -/

/-- A call of a limiter, with what the clock reads then. -/
inductive Call (K : Type) where
  | allow (k : K) (now : Int)
  | sweep (now cutoff : Int)

def Call.time : Call K → Int
  | .allow _ now => now
  | .sweep now _ => now

/-- The clock does not go back, and every sweep spares the last `interval`. -/
structure WellTimed (interval : Int) (cs : List (Call K)) : Prop where
  clock : (cs.map Call.time).Pairwise (· ≤ ·)
  spares : ∀ now cutoff, .sweep now cutoff ∈ cs → cutoff + interval ≤ now

theorem WellTimed.append_singleton {interval : Int} {cs : List (Call K)} {x : Call K}
    (h : WellTimed interval (cs ++ [x])) :
    WellTimed interval cs ∧ ∀ y ∈ cs, y.time ≤ x.time := by
  obtain ⟨hclock, hspares⟩ := h
  rw [List.map_append, List.pairwise_append] at hclock
  refine ⟨⟨hclock.1, fun now cutoff hmem => hspares now cutoff (by simp [hmem])⟩, ?_⟩
  intro y hy
  exact hclock.2.2 y.time (List.mem_map_of_mem hy) x.time (by simp)

/-! ## The cell of one key -/

/-- What is kept for `k`, against what the single map keeps: the same, or nothing in place of a
    cell that counts as missing from now on. -/
def CellKept (stamp : S → Int) (interval : Int) (cs : List (Call K)) (c d : Option S) : Prop :=
  c = d ∨ c = none ∧ ∃ s, d = some s ∧
    ∀ now, (∀ x ∈ cs, Call.time x ≤ now) → stamp s + interval ≤ now

section

variable {rule : Rule S} {stamp : S → Int} {interval : Int} {cs : List (Call K)} {c d : Option S}

/-- The rule does not see the difference. -/
theorem CellKept.rule_eq (h : CellKept stamp interval cs c d)
    (hforgets : rule.Forgets stamp interval) {now : Int} (hnow : ∀ x ∈ cs, Call.time x ≤ now) :
    rule c now = rule d now := by
  rcases h with rfl | ⟨rfl, s, rfl, hold⟩
  · rfl
  · exact (hforgets s now (hold now hnow)).symm

theorem CellKept.mono (h : CellKept stamp interval cs c d) (x : Call K) :
    CellKept stamp interval (cs ++ [x]) c d := by
  rcases h with rfl | ⟨rfl, s, rfl, hold⟩
  · exact Or.inl rfl
  · exact Or.inr ⟨rfl, s, rfl, fun now hnow => hold now fun y hy => hnow y (by simp [hy])⟩

/-- A call for the key. -/
theorem CellKept.call (h : CellKept stamp interval cs c d) (hforgets : rule.Forgets stamp interval)
    (k : K) {now : Int} (hnow : ∀ x ∈ cs, Call.time x ≤ now) :
    CellKept stamp interval (cs ++ [.allow k now]) ((rule c now).or c) ((rule d now).or d) := by
  rw [h.rule_eq hforgets hnow]
  cases rule d now with
  | some s => exact Or.inl rfl
  | none => exact h.mono _

/-- A sweep that spares the last `interval`. -/
theorem CellKept.sweep (h : CellKept stamp interval cs c d) {now cutoff : Int}
    (hspare : cutoff + interval ≤ now) :
    CellKept stamp interval (cs ++ [.sweep now cutoff])
      (c.filter fun s => !decide (stamp s < cutoff)) d := by
  have h' := h.mono (.sweep now cutoff)
  cases c with
  | none => exact h'
  | some s =>
    rcases h with rfl | ⟨hnone, -⟩
    · by_cases hold : stamp s < cutoff
      · -- dropped, and older than `interval` already
        refine Or.inr ⟨by simp [Option.filter, hold], s, rfl, ?_⟩
        intro t ht
        have hlast : now ≤ t := ht (.sweep now cutoff) (by simp)
        omega
      · exact Or.inl (by simp [Option.filter, hold])
    · nomatch hnone

end

variable [DecidableEq K] {n : Nat} {shardOf : K → Fin n}

/-! ## Limiters -/

/-- The rule over a single map. -/
def flatAllow (rule : Rule S) (f : FiniteMap K S) (k : K) (now : Int) : Bool × FiniteMap K S :=
  match rule (f.lookup k) now with
  | none => (false, f)
  | some s => (true, AList.insert k s f)

/-- The rule over a sharded map. -/
def cellAllow (rule : Rule S) (m : ShardedMap K S n shardOf) (k : K) (now : Int) :
    Bool × ShardedMap K S n shardOf :=
  match rule (m.lookup k) now with
  | none => (false, m)
  | some s => (true, m.insert k s)

/-- Drop the cells stamped before `cutoff`. -/
def cellSweep (stamp : S → Int) (m : ShardedMap K S n shardOf) (cutoff : Int) :
    ShardedMap K S n shardOf :=
  m.filter fun _ s => !decide (stamp s < cutoff)

theorem intervalAllow_eq_cellAllow (m : ShardedMap K Int n shardOf) (k : K)
    (now minInterval : Int) :
    intervalAllow m k now minInterval = cellAllow (intervalRule minInterval) m k now := by
  unfold intervalAllow cellAllow intervalRule
  cases m.lookup k with
  | none => rfl
  | some last => by_cases h : now - last < minInterval <;> simp [h]

theorem windowAllow_eq_cellAllow (m : ShardedMap K Window n shardOf) (k : K) (now period : Int)
    (max : Nat) :
    windowAllow m k now period max = cellAllow (windowRule period max) m k now := by
  unfold windowAllow cellAllow windowRule
  cases m.lookup k with
  | none => rfl
  | some w =>
    dsimp only
    by_cases hopen : period ≤ now - w.windowStart
    · rw [if_pos hopen, if_pos hopen]
    · by_cases hfull : max ≤ w.count
      · rw [if_neg hopen, if_neg hopen, if_pos hfull, if_pos hfull]
      · rw [if_neg hopen, if_neg hopen, if_neg hfull, if_neg hfull]

theorem fst_flatAllow (rule : Rule S) (f : FiniteMap K S) (k : K) (now : Int) :
    (flatAllow rule f k now).1 = (rule (f.lookup k) now).isSome := by
  unfold flatAllow
  cases rule (f.lookup k) now <;> rfl

theorem fst_cellAllow (rule : Rule S) (m : ShardedMap K S n shardOf) (k : K) (now : Int) :
    (cellAllow rule m k now).1 = (rule (m.lookup k) now).isSome := by
  unfold cellAllow
  cases rule (m.lookup k) now <;> rfl

/-- A call replaces its own cell by what the rule says, if it says anything. -/
theorem lookup_flatAllow (rule : Rule S) (f : FiniteMap K S) (k : K) (now : Int) :
    (flatAllow rule f k now).2.lookup k = (rule (f.lookup k) now).or (f.lookup k) := by
  unfold flatAllow
  cases rule (f.lookup k) now with
  | none => rfl
  | some s => exact AList.lookup_insert f

theorem lookup_cellAllow (rule : Rule S) (m : ShardedMap K S n shardOf) (k : K) (now : Int) :
    (cellAllow rule m k now).2.lookup k = (rule (m.lookup k) now).or (m.lookup k) := by
  unfold cellAllow
  cases rule (m.lookup k) now with
  | none => rfl
  | some s => exact ShardedMap.lookup_insert_self m k s

theorem lookup_cellAllow_of_ne (rule : Rule S) (m : ShardedMap K S n shardOf) {k k' : K}
    (hne : k ≠ k') (now : Int) : (cellAllow rule m k' now).2.lookup k = m.lookup k := by
  unfold cellAllow
  cases rule (m.lookup k') now with
  | none => rfl
  | some s => exact ShardedMap.lookup_insert_of_ne m s hne

/-! ## Runs -/

/-- The times of the calls for `k`. -/
def callsFor (k : K) (cs : List (Call K)) : List Int :=
  cs.filterMap fun
    | .allow k' now => if k' = k then some now else none
    | .sweep _ _ => none

/-- A limiter given by its two methods. -/
def limiterNext {L : Type} (allow : L → K → Int → Bool × L) (sweep : L → Int → L) (l : L) :
    Call K → L
  | .allow k now => (allow l k now).2
  | .sweep _ cutoff => sweep l cutoff

/-- A single map that is never swept and sees the calls for `k` only. -/
def aloneRun (rule : Rule S) (k : K) (cs : List (Call K)) : FiniteMap K S :=
  Transition.run (fun f now => (flatAllow rule f k now).2) ∅ (callsFor k cs)

/-- Every call of the limiter is answered as by the single map that has seen only the calls for
    the same key. -/
def AnswersAlone {L : Type} (allow : L → K → Int → Bool × L) (sweep : L → Int → L) (new : L)
    (rule : Rule S) (interval : Int) : Prop :=
  ∀ (cs : List (Call K)) (k : K) (now : Int), WellTimed interval (cs ++ [.allow k now]) →
    (allow (Transition.run (limiterNext allow sweep) new cs) k now).1 =
      (flatAllow rule (aloneRun rule k cs) k now).1

/-- What a well-timed run keeps for a key. -/
theorem cellKept_run (rule : Rule S) (stamp : S → Int) (interval : Int)
    (hforgets : rule.Forgets stamp interval) (k : K) {cs : List (Call K)}
    (h : WellTimed interval cs) :
    CellKept stamp interval cs
      ((Transition.run (limiterNext (cellAllow rule) (cellSweep stamp))
        (ShardedMap.empty : ShardedMap K S n shardOf) cs).lookup k)
      ((aloneRun rule k cs).lookup k) := by
  apply Transition.run_induction (limiterNext (cellAllow rule) (cellSweep stamp))
    (s := (ShardedMap.empty : ShardedMap K S n shardOf)) (fun cs m => WellTimed interval cs →
      CellKept stamp interval cs (m.lookup k) ((aloneRun rule k cs).lookup k)) ?_ ?_ cs h
  · intro _
    left
    rw [ShardedMap.lookup_empty]
    rfl
  · intro cs x ih hcs
    obtain ⟨hbefore, hnow⟩ := hcs.append_singleton
    have hkept := ih hbefore
    cases x with
    | allow k' now =>
      by_cases hk : k' = k
      · subst hk
        have hcalls : callsFor k' (cs ++ [.allow k' now]) = callsFor k' cs ++ [now] := by
          simp [callsFor]
        rw [aloneRun, hcalls, Transition.run_concat, lookup_flatAllow, limiterNext,
          lookup_cellAllow]
        exact hkept.call hforgets k' hnow
      · -- another key's call touches neither
        have hcalls : callsFor k (cs ++ [.allow k' now]) = callsFor k cs := by
          simp [callsFor, hk]
        rw [aloneRun, hcalls, limiterNext, lookup_cellAllow_of_ne _ _ (Ne.symm hk)]
        exact hkept.mono _
    | sweep now cutoff =>
      have hcalls : callsFor k (cs ++ [.sweep now cutoff]) = callsFor k cs := by
        simp [callsFor]
      rw [aloneRun, hcalls, limiterNext, cellSweep, ShardedMap.lookup_filter]
      exact hkept.sweep (hcs.spares now cutoff (by simp))

/-- **Sharding and sweeping are invisible.** -/
theorem answersAlone (rule : Rule S) (stamp : S → Int) (interval : Int)
    (hforgets : rule.Forgets stamp interval) :
    AnswersAlone (cellAllow rule) (cellSweep stamp)
      (ShardedMap.empty : ShardedMap K S n shardOf) rule interval := by
  intro cs k now h
  obtain ⟨hbefore, hnow⟩ := h.append_singleton
  rw [fst_cellAllow, fst_flatAllow]
  apply congrArg Option.isSome
  exact (cellKept_run rule stamp interval hforgets k hbefore).rule_eq hforgets hnow

theorem interval_answersAlone (minInterval : Int) :
    AnswersAlone (fun (m : ShardedMap K Int n shardOf) k now => intervalAllow m k now minInterval)
      intervalSweep ShardedMap.empty (intervalRule minInterval) minInterval := by
  simp only [intervalAllow_eq_cellAllow]
  exact answersAlone _ id _ (intervalRule_forgets minInterval)

theorem window_answersAlone (period : Int) (max : Nat) :
    AnswersAlone (fun (m : ShardedMap K Window n shardOf) k now => windowAllow m k now period max)
      windowSweep ShardedMap.empty (windowRule period max) period := by
  simp only [windowAllow_eq_cellAllow]
  exact answersAlone _ Window.windowStart _ (windowRule_forgets period max)

/-- A sweep leaves nothing stamped before its cutoff. -/
theorem le_stamp_of_lookup_cellSweep (stamp : S → Int) {m : ShardedMap K S n shardOf}
    {cutoff : Int} {k : K} {s : S} (h : (cellSweep stamp m cutoff).lookup k = some s) :
    cutoff ≤ stamp s := by
  rw [cellSweep, ShardedMap.lookup_filter, Option.filter_eq_some_iff] at h
  simpa using h.2

end Limiter

end PilotBeacon.Lib

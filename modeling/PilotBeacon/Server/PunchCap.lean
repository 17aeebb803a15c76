import PilotBeacon.Server.Beacon

/-!
# The Global Punch Cap Under Concurrency

The rate-limit guard of a PunchRequest reads the clock, loads the time of the last pass, asks the
limiter of its source, and stores its own time; the readers of all sockets run it concurrently.
Here each of these is a step of its own.

- `PunchReaders`, `guardNext`: the readers, interleaved
- `guard_uninterrupted`: a guard that is not interrupted is `punchGuard`
- `punch_capped`: as long as nobody loads the last pass while another reader is about to store
  one, passes are spaced
- `punch_burst`: otherwise everybody passes at once
-/

namespace PilotBeacon

open PilotBeacon.Lib PilotBeacon.Net

/-! ## Interleaved readers -/

/-- How far a reader is with a request. -/
inductive GuardStage where
  | idle
  /-- The clock is read. -/
  | clocked (sourceKey : Text) (now : Int)
  /-- The last pass is long enough ago. -/
  | checked (sourceKey : Text) (now : Int)
  /-- The source is let in as well. -/
  | allowed (now : Int)
deriving DecidableEq

/-- The beacon and its readers. -/
structure PunchReaders (n : Nat) where
  server : Server
  readers : Fin n → GuardStage

inductive GuardStep (n : Nat) where
  /-- Reader `r` has a request of this source and reads the clock. -/
  | clock (r : Fin n) (sourceKey : Text) (now : Int)
  | load (r : Fin n)
  | allow (r : Fin n) (now : Int)
  | store (r : Fin n)
  /-- The reaper's sweep. -/
  | sweep (now : Int)

/-- What the clock reads in a step, if it is read. -/
def GuardStep.now? {n : Nat} : GuardStep n → Option Int
  | .clock _ _ now => some now
  | .allow _ now => some now
  | .sweep now => some now
  | _ => none

/-- A fresh beacon with `n` readers. -/
def PunchReaders.start (cfg : Config) (peers : List Text) (n : Nat) : PunchReaders n where
  server := newWithPeers cfg peers
  readers := fun _ => .idle

def guardNext {n : Nat} (cfg : Config) (c : PunchReaders n) : GuardStep n → PunchReaders n
  | .clock r sourceKey now =>
    match c.readers r with
    | .idle =>
      -- whitelisted sources skip the guard
      if cfg.punchWhitelistAll || cfg.punchWhitelist.contains sourceKey then c
      else { c with readers := Function.update c.readers r (.clocked sourceKey now) }
    | _ => c
  | .load r =>
    match c.readers r with
    | .clocked sourceKey now =>
      { c with
        readers := Function.update c.readers r
          (if now - c.server.lastPunchTime < second / maxPunchPerSecond then .idle
            else .checked sourceKey now) }
    | _ => c
  | .allow r now =>
    match c.readers r with
    | .checked sourceKey read =>
      let (allowed, rl) := c.server.punchRL.allow sourceKey now punchPerSourceInterval
      { c with
        server := { c.server with punchRL := rl }
        readers := Function.update c.readers r (if allowed then .allowed read else .idle) }
    | _ => c
  | .store r =>
    match c.readers r with
    | .allowed read =>
      { c with
        server := { c.server with lastPunchTime := read }
        readers := Function.update c.readers r .idle }
    | _ => c
  | .sweep now =>
    { c with
      server :=
        { c.server with punchRL := c.server.punchRL.sweep (now - punchRateCleanupInterval) } }

/-- The clock value of the request that passes the guard in a step. -/
def guardPassed {n : Nat} (c : PunchReaders n) : GuardStep n → List Int
  | .store r =>
    match c.readers r with
    | .allowed read => [read]
    | _ => []
  | _ => []

/-- The clock values of all passes of a run. -/
def punchPasses {n : Nat} (cfg : Config) (peers : List Text) (ss : List (GuardStep n)) : List Int :=
  Transition.observe (guardNext cfg) guardPassed (PunchReaders.start cfg peers n) ss

/-- **A guard that is not interrupted** is `punchGuard`. -/
theorem guard_uninterrupted {n : Nat} (cfg : Config) (c : PunchReaders n) {r : Fin n}
    (hidle : c.readers r = .idle) (sourceKey : Text) (now : Int) :
    Transition.run (guardNext cfg) c
        [.clock r sourceKey now, .load r, .allow r now, .store r] =
      { c with server := (c.server.punchGuard cfg now sourceKey).getD c.server } := by
  have hback : ∀ x, Function.update (Function.update c.readers r x) r .idle = c.readers := by
    intro x
    rw [Function.update_idem, ← hidle, Function.update_eq_self]
  unfold Server.punchGuard
  split_ifs with hall hlisted hsoon
  · simp [guardNext, hidle, hall]
  · simp [guardNext, hidle, hall, hlisted]
  · simp [guardNext, hidle, hall, hlisted, hsoon, hback]
  · cases hallow : (c.server.punchRL.allow sourceKey now punchPerSourceInterval).1 with
    | false =>
      -- a refusal is not recorded
      have hrl : (c.server.punchRL.allow sourceKey now punchPerSourceInterval).2 =
          c.server.punchRL := Limiter.intervalAllow_false hallow
      simp [guardNext, hidle, hall, hlisted, hsoon, hallow, hback, hrl]
    | true => simp [guardNext, hidle, hall, hlisted, hsoon, hallow, hback]

/-! ## The cap -/

/-- Any two passes are 1/`maxPunchPerSecond` second apart, and no second has more than
    `maxPunchPerSecond + 1`. -/
structure PunchCapped (passes : List Int) : Prop where
  apart : passes.Pairwise fun t t' =>
    t + second / maxPunchPerSecond ≤ t' ∨ t' + second / maxPunchPerSecond ≤ t
  capped : ∀ lo, (passes.countP fun t => lo ≤ t ∧ t ≤ lo + second) ≤ maxPunchPerSecond.toNat + 1

/-- Passes in order, each 1/`maxPunchPerSecond` second after the one before. -/
theorem punchCapped_of_spaced {passes : List Int}
    (h : passes.Pairwise fun t t' => t + second / maxPunchPerSecond ≤ t') :
    PunchCapped passes := by
  constructor
  · exact h.imp Or.inl
  · intro lo
    rw [List.countP_eq_length_filter]
    apply Limiter.length_le_of_spaced (d := second / maxPunchPerSecond) (by decide)
      (h.sublist List.filter_sublist)
    intro t ht
    have hin := (List.mem_filter.mp ht).2
    rw [decide_eq_true_eq] at hin
    have hten : (maxPunchPerSecond.toNat : Int) * (second / maxPunchPerSecond) = second := by decide
    rw [hten]
    exact hin

/-- The clock value a reader holds that is past the check of the last pass. -/
def GuardStage.time? : GuardStage → Option Int
  | .checked _ now => some now
  | .allowed now => some now
  | _ => none

/-- Nobody loads the time of the last pass while another reader is past its own check of it. -/
def LoadsAlone {n : Nat} (c : PunchReaders n) : GuardStep n → Prop
  | .load r => ∀ r', r' ≠ r → (c.readers r').time? = none
  | _ => True

instance {n : Nat} (c : PunchReaders n) : (st : GuardStep n) → Decidable (LoadsAlone c st)
  | .load r => inferInstanceAs (Decidable (∀ r', r' ≠ r → (c.readers r').time? = none))
  | .clock .. => instDecidableTrue
  | .allow .. => instDecidableTrue
  | .store .. => instDecidableTrue
  | .sweep .. => instDecidableTrue

/-- At most one reader is past the check, it is right to be there, and the passes so far are
    spaced. -/
structure Guarded {n : Nat} (passes : List Int) (c : PunchReaders n) : Prop where
  alone : ∀ r r' t t', (c.readers r).time? = some t → (c.readers r').time? = some t' → r = r'
  far : ∀ r t, (c.readers r).time? = some t →
    c.server.lastPunchTime + second / maxPunchPerSecond ≤ t
  past : ∀ t ∈ passes, t ≤ c.server.lastPunchTime
  spaced : passes.Pairwise fun t t' => t + second / maxPunchPerSecond ≤ t'

section

variable {n : Nat} {cfg : Config} {passes : List Int} {c : PunchReaders n}

theorem guarded_start (cfg : Config) (peers : List Text) (n : Nat) :
    Guarded [] (PunchReaders.start cfg peers n) where
  alone := fun _ _ _ _ h _ => nomatch h
  far := fun _ _ h => nomatch h
  past := fun _ h => nomatch h
  spaced := List.Pairwise.nil

/-- What a step of reader `r` leaves of the others. -/
theorem Guarded.update (h : Guarded passes c) (r : Fin n) (stage : GuardStage) (server : Server)
    (hlast : server.lastPunchTime = c.server.lastPunchTime)
    (hstage : ∀ t, stage.time? = some t →
      (∀ r', r' ≠ r → (c.readers r').time? = none) ∧
        c.server.lastPunchTime + second / maxPunchPerSecond ≤ t) :
    Guarded passes ⟨server, Function.update c.readers r stage⟩ := by
  -- past the check are those who were, `r` apart, and `r` if its stage says so
  have hcases : ∀ r' t, (Function.update c.readers r stage r').time? = some t →
      r' = r ∧ stage.time? = some t ∨ r' ≠ r ∧ (c.readers r').time? = some t := by
    intro r' t ht
    by_cases hr : r' = r
    · subst hr
      rw [Function.update_self] at ht
      exact Or.inl ⟨rfl, ht⟩
    · rw [Function.update_of_ne hr] at ht
      exact Or.inr ⟨hr, ht⟩
  constructor
  · intro r₁ r₂ t₁ t₂ h₁ h₂
    rcases hcases r₁ t₁ h₁ with ⟨hr₁, hs₁⟩ | ⟨hr₁, hs₁⟩ <;>
      rcases hcases r₂ t₂ h₂ with ⟨hr₂, hs₂⟩ | ⟨hr₂, hs₂⟩
    · rw [hr₁, hr₂]
    · nomatch ((hstage t₁ hs₁).1 r₂ hr₂).symm.trans hs₂
    · nomatch ((hstage t₂ hs₂).1 r₁ hr₁).symm.trans hs₁
    · exact h.alone r₁ r₂ t₁ t₂ hs₁ hs₂
  · intro r' t ht
    dsimp only
    rw [hlast]
    rcases hcases r' t ht with ⟨-, hs⟩ | ⟨-, hs⟩
    · exact (hstage t hs).2
    · exact h.far r' t hs
  · dsimp only
    rw [hlast]
    exact h.past
  · exact h.spaced

/-- A pass is the latest one, and leaves nobody past the check. -/
theorem Guarded.store (h : Guarded passes c) {r : Fin n} {t : Int}
    (hr : c.readers r = .allowed t) :
    Guarded (passes ++ [t])
      ⟨{ c.server with lastPunchTime := t }, Function.update c.readers r .idle⟩ := by
  have htime : (c.readers r).time? = some t := by rw [hr]; rfl
  have hfar := h.far r t htime
  have hd : 0 < second / maxPunchPerSecond := by decide
  have hnone : ∀ r' t', (Function.update c.readers r .idle r').time? ≠ some t' := by
    intro r' t' ht'
    by_cases hr' : r' = r
    · subst hr'
      rw [Function.update_self] at ht'
      nomatch ht'
    · rw [Function.update_of_ne hr'] at ht'
      exact hr' (h.alone r' r t' t ht' htime)
  constructor
  · exact fun r₁ _ t₁ _ h₁ _ => absurd h₁ (hnone r₁ t₁)
  · exact fun r' t' ht' => absurd ht' (hnone r' t')
  · intro t' ht'
    rcases List.mem_append.mp ht' with hmem | hmem
    · have := h.past t' hmem
      dsimp only
      omega
    · exact (List.mem_singleton.mp hmem).le
  · apply List.pairwise_append.mpr
    refine ⟨h.spaced, List.pairwise_singleton _ _, ?_⟩
    intro t' ht' t'' ht''
    rw [List.mem_singleton.mp ht'']
    have := h.past t' ht'
    omega

/-- **One step** of somebody who loads alone. -/
theorem Guarded.next (h : Guarded passes c) {st : GuardStep n} (halone : LoadsAlone c st) :
    Guarded (passes ++ guardPassed c st) (guardNext cfg c st) := by
  cases st with
  | clock r sourceKey now =>
    simp only [guardNext, guardPassed, List.append_nil]
    cases c.readers r with
    | idle =>
      dsimp only
      split_ifs
      · exact h
      · exact h.update r _ c.server rfl fun t ht => nomatch ht
    | _ => exact h
  | load r =>
    simp only [guardNext, guardPassed, List.append_nil]
    cases c.readers r with
    | clocked sourceKey now =>
      refine h.update r _ c.server rfl fun t ht => ⟨halone, ?_⟩
      split_ifs at ht with hsoon
      · nomatch ht
      · rw [← Option.some_inj.mp ht]
        omega
    | _ => exact h
  | allow r now =>
    simp only [guardNext, guardPassed, List.append_nil]
    cases hr : c.readers r with
    | checked sourceKey read =>
      have htime : (c.readers r).time? = some read := by rw [hr]; rfl
      refine h.update r _ _ rfl fun t ht => ?_
      split_ifs at ht
      · -- nobody else can have come past the check
        rw [← Option.some_inj.mp ht]
        refine ⟨fun r' hr' => ?_, h.far r read htime⟩
        rw [Option.eq_none_iff_forall_ne_some]
        exact fun t' ht' => hr' (h.alone r' r t' read ht' htime)
      · nomatch ht
    | _ => exact h
  | store r =>
    simp only [guardNext, guardPassed]
    cases hr : c.readers r with
    | allowed read => exact h.store hr
    | _ =>
      dsimp only
      rw [List.append_nil]
      exact h
  | sweep now =>
    simp only [guardPassed, List.append_nil]
    exact ⟨h.alone, h.far, h.past, h.spaced⟩

/-- **The cap holds** in every run in which nobody loads the time of the last pass while another
    reader is between its own load of it and its store. -/
theorem punch_capped (cfg : Config) (peers : List Text) (ss : List (GuardStep n))
    (halone : Transition.Along (guardNext cfg) LoadsAlone (PunchReaders.start cfg peers n) ss) :
    PunchCapped (punchPasses cfg peers ss) := by
  have hguarded : Guarded (punchPasses cfg peers ss)
      (Transition.run (guardNext cfg) (PunchReaders.start cfg peers n) ss) := by
    apply Transition.along_induction (guardNext cfg)
      (fun ss c => Guarded (punchPasses cfg peers ss) c) _ _ halone
    · exact guarded_start cfg peers n
    · intro ss st hst h
      rw [punchPasses, Transition.observe_concat]
      exact h.next hst
  exact punchCapped_of_spaced hguarded.spaced

end

/-- The guard from the clock to the store, by one reader without a break. -/
def guardSteps {n : Nat} (r : Fin n) (sourceKey : Text) (now : Int) : List (GuardStep n) :=
  [.clock r sourceKey now, .load r, .allow r now, .store r]

/-- Two readers, one after the other. -/
theorem punch_capped_in_turn :
    PunchCapped (punchPasses sampleConfig [] (guardSteps (0 : Fin 2) ['a'] second ++
        guardSteps 1 ['b'] (2 * second))) ∧
      punchPasses sampleConfig [] (guardSteps (0 : Fin 2) ['a'] second ++
        guardSteps 1 ['b'] (2 * second)) = [second, 2 * second] :=
  ⟨punch_capped sampleConfig [] _ (by decide +kernel), by decide +kernel⟩

/-- Twelve readers with a request each, of twelve sources, take each step of the guard together. -/
def twelveAtOnce : List (GuardStep 12) :=
  (List.finRange 12).map (fun r => .clock r (Nat.toDigits 10 r.val) second) ++
    (List.finRange 12).map .load ++ (List.finRange 12).map (.allow · second) ++
    (List.finRange 12).map .store

/-- **Twelve passes at once**, although the clock does not go back. -/
theorem punch_burst :
    (twelveAtOnce.filterMap GuardStep.now?).Pairwise (· ≤ ·) ∧
      punchPasses sampleConfig [] twelveAtOnce = List.replicate 12 second ∧
      ¬ PunchCapped (punchPasses sampleConfig [] twelveAtOnce) := by
  have hpasses : punchPasses sampleConfig [] twelveAtOnce = List.replicate 12 second := by
    decide +kernel
  refine ⟨by decide +kernel, hpasses, fun h => ?_⟩
  rw [hpasses] at h
  have := h.capped second
  revert this
  decide

end PilotBeacon

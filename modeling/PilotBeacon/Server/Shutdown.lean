import PilotBeacon.Server.Teardown

/-!
# A Shutdown Comes to an End

`Teardown` says what holds once `Close` has returned. Here: it does return, after a number of
steps of the call that runs the teardown which depends on the number of readers only, and no other
goroutine can hold it up; every other call returns at its next step; and a reader whose socket is
closed ends with the `ReadBatch` after the rest of its batch.

- `TeardownStage.rank`, `Reader.rank`: what is left to do
- `close_completes`: the statement about runs
-/

namespace PilotBeacon

open PilotBeacon.Lib PilotBeacon.Net

/-- The step is one of call `k` of `Close`. -/
def ProcessStep.isClose (k : Nat) : ProcessStep → Bool
  | .close j _ _ => j == k
  | _ => false

/-- The step is one of the loop of reader `r` over its batch. -/
def ProcessStep.isHandle (r : Nat) : ProcessStep → Bool
  | .handle j _ _ => j == r
  | _ => false

/-- The steps that the teardown may still need. -/
def TeardownStage.rank (readers : Nat) : TeardownStage → Nat
  | .fresh => readers + 4
  | .entered _ => readers + 3
  | .signalled _ => readers + 2
  | .closing _ rest _ => rest.length + 1
  | .finished => 0

/-- The steps that the loop over the batch may still need. -/
def Reader.rank (rd : Reader) : Nat :=
  match rd.stage with
  | .handling i n => n - i + 1
  | _ => 0

section

variable {cfg : Config} {pl : Platform} {peers : List Text} {p p' : Process} {k r : Nat}

/-! ## The teardown -/

/-- Call `k` runs the teardown of a process that the code can reach, or has run it. -/
structure Tearing (cfg : Config) (pl : Platform) (peers : List Text) (k : Nat) (p : Process) :
    Prop where
  reachable : ∃ es, p = processRun cfg pl peers es
  owner : p.teardown.owner = some k ∨ p.teardown = .finished

theorem Tearing.torn (h : Tearing cfg pl peers k p) : ∃ es, Torn cfg pl peers es p := by
  obtain ⟨es, rfl⟩ := h.reachable
  exact ⟨es, torn_run cfg pl peers es⟩

/-- No call moves the teardown back, or takes it from its owner. -/
theorem CloseMove.rank {j : Nat} {ok : Bool} {results : List (Option CloseError)}
    (hmove : CloseMove p j ok results p') (hlisten : ListenInv pl p)
    (howner : p.teardown.owner = some k ∨ p.teardown = .finished) :
    (p'.teardown.owner = some k ∨ p'.teardown = .finished) ∧
      p'.teardown.rank pl.readers ≤ p.teardown.rank pl.readers := by
  cases hmove with
  | wait => exact ⟨howner, le_rfl⟩
  | enter hout hfresh => simp [hfresh, TeardownStage.owner] at howner
  | join hout hrun => exact ⟨howner, le_rfl⟩
  | signal hin hstage =>
    simp only [hstage, TeardownStage.owner, reduceCtorEq, or_false] at howner
    exact ⟨.inl howner, by simp [hstage, TeardownStage.rank]⟩
  | look hin hstage =>
    simp only [hstage, TeardownStage.owner, reduceCtorEq, or_false] at howner
    have hfew := hlisten.few
    exact ⟨.inl howner, by simp only [hstage, TeardownStage.rank]; omega⟩
  | shut hin hstage =>
    simp only [hstage, TeardownStage.owner, reduceCtorEq, or_false] at howner
    exact ⟨.inl howner, by simp [hstage, TeardownStage.rank]⟩
  | finish hin hstage => exact ⟨.inr rfl, by simp [TeardownStage.rank]⟩
  | leave hin hstage => exact ⟨howner, le_rfl⟩

/-- A step of the owner moves it on. -/
theorem rank_closeStep (hin : p.callers k = .inside) (howner : p.teardown.owner = some k)
    (hfew : p.conns.length ≤ pl.readers) (ok : Bool) :
    (p.closeStep k ok).teardown.rank pl.readers < p.teardown.rank pl.readers := by
  unfold Process.closeStep
  cases hstage : p.teardown with
  | fresh => simp [hstage, TeardownStage.owner] at howner
  | finished => simp [hstage, TeardownStage.owner] at howner
  | entered j =>
    simp only [hstage, TeardownStage.owner, Option.some.injEq] at howner
    simp [hin, howner, TeardownStage.rank]
  | signalled j =>
    simp only [hstage, TeardownStage.owner, Option.some.injEq] at howner
    simp only [hin, howner, if_true, TeardownStage.rank]
    omega
  | closing j rest firstErr =>
    simp only [hstage, TeardownStage.owner, Option.some.injEq] at howner
    cases rest <;> simp [hin, howner, TeardownStage.rank]

theorem Tearing.next (h : Tearing cfg pl peers k p) (e : ProcessStep) :
    Tearing cfg pl peers k (processNext cfg pl p e) ∧
      (processNext cfg pl p e).teardown.rank pl.readers ≤ p.teardown.rank pl.readers := by
  obtain ⟨es', htorn⟩ := h.torn
  obtain ⟨es, hp⟩ := h.reachable
  have hreach : ∃ es, processNext cfg pl p e = processRun cfg pl peers es :=
    ⟨es ++ [e], by rw [processRun_concat, hp]⟩
  have hout := @ListenInv.outsideClose pl p htorn.listen e
  have hkeep : OutsideClose p (p.goroutineStep pl e) →
      Tearing cfg pl peers k (processNext cfg pl p e) ∧
        (processNext cfg pl p e).teardown.rank pl.readers ≤ p.teardown.rank pl.readers := by
    intro hout
    have hsame : (processNext cfg pl p e).teardown = p.teardown := hout.teardown
    exact ⟨⟨hreach, hsame ▸ h.owner⟩, hsame ▸ le_rfl⟩
  cases e with
  | close j now ok =>
    have hmove := (closeStep_move p j now ok).rank htorn.listen h.owner
    exact ⟨⟨hreach, hmove.1⟩, hmove.2⟩
  | _ => exact hkeep (hout (by simp))

/-- **The teardown ends** after as many steps of its owner as its rank says. -/
theorem teardown_finishes {es : List ProcessStep}
    (howner : (processRun cfg pl peers es).teardown.owner = some k) {es' : List ProcessStep}
    (hsteps : pl.readers + 3 ≤ es'.countP (ProcessStep.isClose k)) :
    (processRun cfg pl peers (es ++ es')).teardown = .finished := by
  have hrank : (processRun cfg pl peers es).teardown.rank pl.readers ≤ pl.readers + 3 := by
    have hlisten := (torn_run cfg pl peers es).listen
    have hstage := (torn_run cfg pl peers es).stage
    cases hteardown : (processRun cfg pl peers es).teardown with
    | fresh => simp [hteardown, TeardownStage.owner] at howner
    | closing j rest firstErr =>
      -- the sockets left are among those the teardown saw
      simp only [TeardownOk, hteardown] at hstage
      obtain ⟨-, pre, e, hlooked⟩ := hstage
      have hsub := hlooked.suffix.length_le
      have hfew := (torn_run cfg pl peers pre).listen.few
      simp only [TeardownStage.rank]
      omega
    | _ => simp [TeardownStage.rank]
  have hzero := Transition.run_exhausts (processNext cfg pl)
    (fun p => p.teardown.rank pl.readers) (ProcessStep.isClose k)
    (P := Tearing cfg pl peers k) (fun _ e h => (h.next e).1) (fun _ e h => (h.next e).2)
    (fun p e h hown hpos => ?_) ⟨⟨es, rfl⟩, .inl howner⟩ (hrank.trans hsteps)
  · rw [processRun_append]
    cases hend : (Transition.run (processNext cfg pl) (processRun cfg pl peers es) es').teardown <;>
      simp [hend, TeardownStage.rank] at hzero ⊢
  · obtain ⟨es, htorn⟩ := h.torn
    cases e with
    | close j now ok =>
      have hj : j = k := by simpa [ProcessStep.isClose] using hown
      subst hj
      have howner := h.owner.resolve_right fun hfinished => by
        simp [hfinished, TeardownStage.rank] at hpos
      exact rank_closeStep (htorn.owner j howner) howner htorn.listen.few ok
    | _ => cases hown

/-! ## Readers -/

/-- A reader of a serving process whose socket is closed. -/
structure Ending (cfg : Config) (pl : Platform) (peers : List Text) (r : Nat) (p : Process) :
    Prop where
  reachable : ∃ es, p = processRun cfg pl peers es
  serving : p.serve = .serving
  closed : p.readerClosed r = true

theorem Ending.next (h : Ending cfg pl peers r p) (e : ProcessStep) :
    Ending cfg pl peers r (processNext cfg pl p e) := by
  obtain ⟨es, hp⟩ := h.reachable
  refine ⟨⟨es ++ [e], by rw [processRun_concat, hp]⟩, serving_next h.serving e, ?_⟩
  exact (hp ▸ torn_run cfg pl peers es : Torn cfg pl peers es p).readerClosed_next h.serving e
    h.closed

/-- A reader that has started, with at most thirty-two messages in its batch. -/
structure Reader.Running (rd : Reader) : Prop where
  started : rd.stage ≠ .idle
  batch : ∀ i n, rd.stage = .handling i n → n ≤ readBatchCap

variable {rd : Reader}

/-- Between batches. -/
theorem Reader.running_of_stage (h : rd.stage = .reading ∨ rd.stage = .ended) : rd.Running := by
  rcases h with h | h <;> exact ⟨by simp [h], by simp [h]⟩

theorem Reader.Running.read (h : rd.Running) (hsized : rd.Sized) (closed done : Bool)
    (result : Option (List Arrived)) : (rd.read closed done result).Running := by
  obtain ⟨stage, msgs⟩ := rd
  cases stage with
  | reading =>
    cases closed with
    | true => exact running_of_stage (.inr rfl)
    | false =>
      cases result with
      | none =>
        cases done with
        | true => exact running_of_stage (.inr rfl)
        | false => exact h
      | some xs =>
        refine ⟨by simp [Reader.read], fun i n hstage => ?_⟩
        cases hstage
        exact (List.length_take_le _ _).trans hsized.count.le
  | _ => exact h

theorem Reader.Running.handle (h : rd.Running) : rd.handle.Running := by
  obtain ⟨stage, msgs⟩ := rd
  cases stage with
  | handling i n =>
    simp only [Reader.handle]
    split_ifs
    · refine ⟨by simp, fun j m hstage => ?_⟩
      cases hstage
      exact h.batch i n rfl
    · exact running_of_stage (.inl rfl)
  | _ => exact h

theorem Reader.Running.unwind (h : rd.Running) (done : Bool) : (rd.unwind done).Running := by
  obtain ⟨stage, msgs⟩ := rd
  cases stage with
  | idle | ended => exact h
  | reading | handling i n =>
    cases done with
    | true => exact running_of_stage (.inr rfl)
    | false => exact running_of_stage (.inl rfl)

/-- Every reader of a serving process has started. -/
def ReadersRun (p : Process) : Prop :=
  p.serve = .serving → ∀ r < p.conns.length, (p.readers r).Running

theorem ReadersRun.next (h : ReadersRun p) (hinv : ReadersInv p) (e : ProcessStep) :
    ReadersRun (processNext cfg pl p e) := by
  intro hserving r hr
  by_cases hbefore : p.serve = .serving
  · rw [conns_next hbefore] at hr
    have hrd := h hbefore r hr
    rw [readers_next]
    cases e with
    | serve now => simpa only [Process.serveStep, hbefore] using hrd
    | read j result =>
      dsimp only
      split_ifs
      · exact hrd.read (hinv.sized r) _ _ _
      · exact hrd
    | handle j now env =>
      dsimp only
      split_ifs
      · exact hrd.handle
      · exact hrd
    | unwind j =>
      dsimp only
      split_ifs
      · exact hrd.unwind _
      · exact hrd
    | _ => exact hrd
  · -- the step is the one that starts the goroutines
    have hwork := fun result => @not_serving pl p hbefore result
    cases e with
    | serve now =>
      cases hstage : p.serve with
      | binding i =>
        by_cases hi : i < pl.readers
        · simp [processNext, Process.goroutineStep, Process.serveStep, hstage, hi] at hserving
        · simp only [processNext, Process.goroutineStep, Process.serveStep, hstage, hi,
            if_false] at hr ⊢
          simp only [hr, if_true]
          exact Reader.running_of_stage (.inl rfl)
      | _ =>
        simp [processNext, Process.goroutineStep, Process.serveStep, hstage] at hserving hbefore
    | listen => exact absurd hserving (hwork none).1
    | bind result => exact absurd hserving (hwork result).2.1
    | append => exact absurd hserving (hwork none).2.2.1
    | cleanup => exact absurd hserving (hwork none).2.2.2
    | close k now ok => exact absurd ((p.closeStep_frame k ok).2.1.symm.trans hserving) hbefore
    | _ => exact absurd hserving hbefore

theorem readersRun_run (cfg : Config) (pl : Platform) (peers : List Text)
    (es : List ProcessStep) : ReadersRun (processRun cfg pl peers es) :=
  Transition.run_induction (processNext cfg pl) (fun _ p => ReadersRun p)
    (by simp [ReadersRun, Process.new]) (fun es e h => h.next (readersInv_run cfg pl peers es) e) es

/-- What is left of the batch of a reader whose socket is closed only shrinks. -/
theorem Ending.rank (h : Ending cfg pl peers r p) (e : ProcessStep) :
    ((processNext cfg pl p e).readers r).rank ≤ (p.readers r).rank ∧
      (e.isHandle r = true → 0 < (p.readers r).rank →
        ((processNext cfg pl p e).readers r).rank < (p.readers r).rank) := by
  rw [readers_next]
  cases hrd : p.readers r with
  | mk stage msgs =>
    cases e with
    | serve now =>
      have hsame : (p.serveStep pl).readers r = ⟨stage, msgs⟩ := by
        simp [Process.serveStep, h.serving, hrd]
      exact ⟨hsame ▸ le_rfl, by simp [ProcessStep.isHandle]⟩
    | read j result =>
      refine ⟨?_, by simp [ProcessStep.isHandle]⟩
      by_cases hj : j = r
      · cases stage <;> simp [Reader.read, Reader.rank, h.closed, hj]
      · simp [hj]
    | handle j now env =>
      by_cases hj : j = r
      · cases stage with
        | handling i n =>
          simp only [hj, if_true, Reader.handle, Reader.rank]
          by_cases hi : i < n
          · simp only [hi, if_true]
            omega
          · simp [hi]
        | _ => simp [Reader.handle, Reader.rank]
      · simp [hj, ProcessStep.isHandle]
    | unwind j =>
      refine ⟨?_, by simp [ProcessStep.isHandle]⟩
      by_cases hj : j = r
      · cases stage <;> cases p.server.done <;>
          simp [Reader.unwind, Reader.rank, hj]
      · simp [hj]
    | _ => exact ⟨le_rfl, by simp [ProcessStep.isHandle]⟩

/-- A reader whose socket is closed ends at the `ReadBatch` after its batch. -/
theorem reader_ends {es : List ProcessStep} (h : Ending cfg pl peers r (processRun cfg pl peers es))
    {es' : List ProcessStep} (hsteps : readBatchCap + 1 ≤ es'.countP (ProcessStep.isHandle r))
    (result : Option (List Arrived)) :
    ((processRun cfg pl peers (es ++ es' ++ [.read r result])).readers r).stage = .ended := by
  have hlt : ∀ {p : Process}, p.readerClosed r = true → r < p.conns.length := by
    intro p hclosed
    by_contra hge
    simp [Process.readerClosed, List.getElem?_eq_none (Nat.le_of_not_lt hge)] at hclosed
  have hrank : ((processRun cfg pl peers es).readers r).rank ≤ readBatchCap + 1 := by
    have hrun := readersRun_run cfg pl peers es h.serving r (hlt h.closed)
    cases hstage : ((processRun cfg pl peers es).readers r).stage with
    | handling i n =>
      have hn := hrun.batch i n hstage
      simp only [Reader.rank, hstage]
      omega
    | _ => simp [Reader.rank, hstage]
  have hzero := Transition.run_exhausts (processNext cfg pl) (fun p => (p.readers r).rank)
    (ProcessStep.isHandle r) (P := Ending cfg pl peers r) (fun _ e h => h.next e)
    (fun _ e h => (h.rank e).1) (fun _ e h hown => (h.rank e).2 hown) h (hrank.trans hsteps)
  have hend : Ending cfg pl peers r (processRun cfg pl peers (es ++ es')) := by
    have hrun := Transition.run_invariant (processNext cfg pl) (Ending cfg pl peers r) h
      (fun _ e h => h.next e) es'
    rwa [← processRun_append] at hrun
  have hrun := readersRun_run cfg pl peers (es ++ es') hend.serving r (hlt hend.closed)
  rw [← processRun_append] at hzero
  rw [processRun_concat, readers_next]
  cases hrd : (processRun cfg pl peers (es ++ es')).readers r with
  | mk stage msgs =>
    rw [hrd] at hrun hzero
    cases stage with
    | idle => exact absurd rfl hrun.started
    | handling i n => simp [Reader.rank] at hzero
    | reading => simp [Reader.read, hend.closed]
    | ended => simp [Reader.read]

end

/-- **A shutdown completes.** Once a call of `Close` runs the teardown, it is over after three steps
    of that call and one for each reader, whatever every other goroutine does in between; each call
    that is inside then returns at its next step with the error of the teardown; and a reader of a
    closed socket is gone after the rest of its batch and one more `ReadBatch`, whatever that
    would have brought. -/
theorem close_completes (cfg : Config) (pl : Platform) (peers : List Text)
    (es es' : List ProcessStep) (k : Nat)
    (howner : (processRun cfg pl peers es).teardown.owner = some k)
    (hsteps : pl.readers + 3 ≤ es'.countP (ProcessStep.isClose k)) :
    let p := processRun cfg pl peers (es ++ es')
    p.teardown = .finished ∧
      (∀ j now ok, p.callers j = .inside →
        (processNext cfg pl p (.close j now ok)).callers j = .returned p.closeErr) ∧
      ∀ r, p.serve = .serving → p.readerClosed r = true → ∀ es'' result,
        readBatchCap + 1 ≤ es''.countP (ProcessStep.isHandle r) →
        ((processRun cfg pl peers (es ++ es' ++ es'' ++ [.read r result])).readers r).stage =
          .ended := by
  intro p
  have hfinished : p.teardown = .finished := teardown_finishes howner hsteps
  refine ⟨hfinished, fun j now ok hin => ?_, fun r hserving hclosed es'' result hhandled => ?_⟩
  · simp [processNext, Process.goroutineStep, Process.closeStep, hin, hfinished,
      Process.setCaller]
  · exact reader_ends ⟨⟨_, rfl⟩, hserving, hclosed⟩ hhandled result

/-- Two sockets are served and read from; one call of `Close` enters, another waits for it. -/
def closeEntered : List ProcessStep :=
  [.listen, .bind (some (sampleAddr 0 0 0 0 9001)), .append,
    .bind (some (sampleAddr 0 0 0 0 9001)), .append, .serve 0, .read 0 (some []), .close 0 0 true,
    .close 1 0 true]

/-- Call 0 takes its five steps among those of a reader, the reaper and a third call. -/
def closeAmongOthers : List ProcessStep :=
  [.close 0 0 true, .read 1 none, .close 0 0 true, .beacon ⟨0, .reap⟩, .close 0 0 true,
    .close 2 0 true, .handle 0 0 sampleEnv, .close 0 0 true, .close 1 0 true, .close 0 0 true]

/-- The teardown is over, the call that waited returns, and the readers end. -/
theorem close_completes_amongOthers :
    let p := processRun sampleConfig ⟨1, 0⟩ [] (closeEntered ++ closeAmongOthers)
    p.teardown = .finished ∧
      (processNext sampleConfig ⟨1, 0⟩ p (.close 1 0 true)).callers 1 = .returned p.closeErr ∧
      ∀ r < 2, ((processRun sampleConfig ⟨1, 0⟩ [] (closeEntered ++ closeAmongOthers ++
        List.replicate 33 (.handle r 0 sampleEnv) ++ [.read r none])).readers r).stage =
          .ended := by
  obtain ⟨hfinished, hreturns, hreaders⟩ := close_completes sampleConfig ⟨1, 0⟩ [] closeEntered
    closeAmongOthers 0 rfl (by decide)
  refine ⟨hfinished, hreturns 1 0 true rfl, fun r hr => ?_⟩
  have hclosed : ∀ r < 2, (processRun sampleConfig ⟨1, 0⟩ []
      (closeEntered ++ closeAmongOthers)).readerClosed r = true := by decide
  refine hreaders r rfl (hclosed r hr) _ none ?_
  rw [List.countP_replicate, if_pos (by simp [ProcessStep.isHandle])]
  decide

end PilotBeacon

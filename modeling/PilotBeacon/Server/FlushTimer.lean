import PilotBeacon.Lib.Timer
import PilotBeacon.Server.RelayOrder
import PilotBeacon.Server.WorkerOutcome

/-!
# Batches and the Flush Timer

A worker keeps a message in its batch until the batch is full or the flush timer fires. It
remembers in `timerActive` whether it has set the timer, and arms, stops and drains the timer by
that mark. Here the timers run beside the beacon: they expire whenever they like, and a worker
receives from its timer exactly if that has sent something, whatever the mark says.

- `flush_worker`, `addMessage_worker`: what is left of a batch
- `Agrees`: a batch below its cap, the mark set if it is not empty, the timer live if it is marked
- `timersAgree_run`: so it is whenever a worker waits
- `timed_refines`: the beacon beside its timers does what the beacon with the marks does
-/

namespace PilotBeacon

open PilotBeacon.Lib PilotBeacon.Net

/-! ## Batches -/

/-- The three slices of a batch have one length. -/
structure Worker.Aligned (w : Worker) : Prop where
  payloads : w.payloadsToReturn.length = w.msgs.length
  outBufs : w.outBufsToReturn.length = w.msgs.length

/-- A worker that waits: its batch has room, and the timer is marked if the batch has messages. -/
structure Worker.Settled (w : Worker) : Prop extends w.Aligned where
  room : w.msgs.length < relayBatchCap
  marked : w.timerActive = true ↔ w.msgs ≠ []

/-- A worker with nothing in its batch and its timer not marked. -/
theorem Worker.settled_empty (stopped : Bool) : Worker.Settled ⟨[], [], [], false, stopped⟩ where
  payloads := rfl
  outBufs := rfl
  room := show 0 < relayBatchCap by decide
  marked := by simp

namespace Server

/-- `WriteBatch` is called on the batch and returns a negative count. -/
def FlushPanics (o : FlushOutcome) (s : Server) (msgs : List Message) : Prop :=
  msgs ≠ [] ∧ s.sendDualStack = false ∧ o.n < 0

instance (o : FlushOutcome) (s : Server) (msgs : List Message) : Decidable (FlushPanics o s msgs) :=
  inferInstanceAs (Decidable (_ ∧ _))

section

variable {cfg : Config} {env : JobEnv} {o : FlushOutcome} {s : Server} {i : Nat}

/-- **What a flush leaves of a batch**: nothing, in a loop that goes on or starts again. -/
theorem flush_worker (h : (s.workers i).Aligned) : (flush o s i).1.workers i =
    if FlushPanics o s (s.workers i).msgs then ⟨[], [], [], false, s.done⟩
    else ⟨[], [], [], (s.workers i).timerActive, (s.workers i).stopped⟩ := by
  unfold flush
  dsimp only
  by_cases hempty : (s.workers i).msgs = []
  · have hpayloads := h.payloads
    have houtBufs := h.outBufs
    rw [hempty, List.length_nil, List.length_eq_zero_iff] at hpayloads houtBufs
    rw [if_pos hempty, if_neg (fun hp => hp.1 hempty)]
    -- an empty batch is left as it is, and so are the other two slices
    cases hw : s.workers i with
    | mk msgs payloads outBufs timerActive stopped =>
      rw [hw] at hempty hpayloads houtBufs
      cases hempty
      cases hpayloads
      cases houtBufs
      rfl
  · rw [if_neg hempty]
    by_cases hdual : s.sendDualStack = true
    · rw [if_pos hdual, if_neg (fun hp => Bool.false_ne_true (hp.2.1.symm.trans hdual))]
      exact Function.update_self ..
    · rw [if_neg hdual]
      by_cases hn : o.n < 0
      · rw [if_pos hn, if_pos ⟨hempty, Bool.not_eq_true _ ▸ hdual, hn⟩]
        exact workers_setWorker _ _ _
      · rw [if_neg hn, if_neg (fun hp => hn hp.2.2)]
        exact Function.update_self ..

/-- The worker with one more message, before it looks at the length of its batch. -/
def withMessage (w : Worker) (m : Message) (payload : Buf) : Worker :=
  { w with
    msgs := w.msgs ++ [m]
    payloadsToReturn := w.payloadsToReturn ++ [payload]
    outBufsToReturn := w.outBufsToReturn ++ [m.buffer.buf] }

theorem aligned_withMessage {w : Worker} (h : w.Aligned) (m : Message) (payload : Buf) :
    (withMessage w m payload).Aligned where
  payloads := by
    simp only [withMessage, List.length_append, List.length_singleton, h.payloads]
  outBufs := by
    simp only [withMessage, List.length_append, List.length_singleton, h.outBufs]

/-- **What one more message leaves of a batch.** -/
theorem addMessage_worker (h : (s.workers i).Aligned) (m : Message) (payload : Buf) :
    (addMessage o s i m payload).1.workers i =
      if relayBatchCap ≤ ((s.workers i).msgs ++ [m]).length then
        if FlushPanics o s ((s.workers i).msgs ++ [m]) then ⟨[], [], [], false, s.done⟩
        else ⟨[], [], [], false, (s.workers i).stopped⟩
      else { withMessage (s.workers i) m payload with timerActive := true } := by
  unfold addMessage
  dsimp only
  by_cases hfull : relayBatchCap ≤ ((s.workers i).msgs ++ [m]).length
  · rw [if_pos hfull, if_pos hfull]
    have hw := workers_setWorker s i
      { withMessage (s.workers i) m payload with timerActive := false }
    have hflush := flush_worker (o := o) (i := i)
      (s := s.setWorker i { withMessage (s.workers i) m payload with timerActive := false }) (by
        rw [hw]
        exact ⟨(aligned_withMessage h m payload).payloads,
          (aligned_withMessage h m payload).outBufs⟩)
    rw [hw] at hflush
    exact hflush
  · rw [if_neg hfull, if_neg hfull]
    exact workers_setWorker _ _ _

theorem workerStep_job_none (h : s.taken cfg i (.job env o) = none) :
    workerStep cfg s i (.job env o) = (s, []) := by
  unfold workerStep
  by_cases hoff : (s.conn.isNone || (s.workers i).stopped) = true
  · rw [if_pos hoff]
  · rw [if_neg hoff]
    cases hq : s.relayChs i with
    | nil => rfl
    | cons job rest =>
      rw [taken, if_neg hoff, hq] at h
      cases h

/-- **What a job leaves of a batch**, by its outcome. -/
theorem workerStep_job_worker {job : RelayJob} {outcome : JobOutcome}
    (h : s.taken cfg i (.job env o) = some (job, outcome)) (halign : (s.workers i).Aligned) :
    (workerStep cfg s i (.job env o)).1.workers i =
      match outcome with
      | .written _ | .discarded => s.workers i
      | .panics => ⟨[], [], [], false, s.done⟩
      | .batched m =>
        if relayBatchCap ≤ ((s.workers i).msgs ++ [m]).length then
          if FlushPanics o s ((s.workers i).msgs ++ [m]) then ⟨[], [], [], false, s.done⟩
          else ⟨[], [], [], false, (s.workers i).stopped⟩
        else { withMessage (s.workers i) m job.payload.buf with timerActive := true } := by
  have hoff : ¬ (s.conn.isNone || (s.workers i).stopped) = true := by
    intro hoff
    rw [taken, if_pos hoff] at h
    cases h
  obtain ⟨env', o', rest, hev, hq, hout⟩ := taken_eq_some h
  cases hev
  -- the outcome is the same in the state with the job taken off
  have houtcome : jobOutcome cfg env { s with relayChs := Function.update s.relayChs i rest } job =
      outcome := hout.symm
  rw [workerStep, if_neg hoff, hq]
  dsimp only
  rw [handleJob_eq, houtcome]
  cases outcome with
  | written frame => rfl
  | discarded => rfl
  | panics => exact workers_setWorker _ _ _
  | batched m =>
    exact addMessage_worker (s :=
      { s with
        relayChs := Function.update s.relayChs i rest
        outBufPool := (s.outBufPool.get env.outPick (maxRelayPayload + 9)).2 })
      halign m job.payload.buf

end

end Server

/-! ## Workers beside their timers -/

/-- A beacon and the flush timers of its workers. -/
structure Timed where
  server : Server
  timers : Nat → Timer

/-- What happens to it. -/
inductive TimedEvent where
  | beacon (e : Event)
  | expire (i : Nat)

section

-- `clears` tells the versions of Go apart; `expired i` says whether the timer that worker `i`
-- makes and stops at the start of its loop expires in between
variable (cfg : Config) (clears : Bool) (expired : Nat → Bool)

/-- The timer at the start of a worker's loop. -/
def startTimer (i : Nat) : Timer :=
  (if expired i then Timer.new.expire else Timer.new).stopAndDrain clears

/-- The timer of worker `i` after a job. -/
def timerAfterJob (s : Server) (i : Nat) (env : JobEnv) (o : FlushOutcome) (t : Timer) : Timer :=
  match s.taken cfg i (.job env o) with
  | some (_, .batched m) =>
    if relayBatchCap ≤ ((s.workers i).msgs ++ [m]).length then
      if s.FlushPanics o ((s.workers i).msgs ++ [m]) then startTimer clears expired i
      else if (s.workers i).timerActive then t.stopAndDrain clears else t
    else if (s.workers i).timerActive then t else t.reset clears
  | some (_, .panics) => startTimer clears expired i
  | _ => t

/-- One event. A worker receives from its timer if there is something to receive. -/
def timedNext (ts : Timed) : TimedEvent → Timed
  | .expire i => { ts with timers := Function.update ts.timers i (ts.timers i).expire }
  | .beacon e =>
    match e.act with
    | .worker i (.job env o) =>
      { server := next cfg ts.server e
        timers := Function.update ts.timers i
          (timerAfterJob cfg clears expired ts.server i env o (ts.timers i)) }
    | .worker i (.timer o) =>
      let w := ts.server.workers i
      if ts.server.conn.isNone || w.stopped || !(ts.timers i).pending then ts
      else
        { server := (ts.server.setWorker i { w with timerActive := false }).flush o i |>.1
          timers := Function.update ts.timers i
            (if ts.server.FlushPanics o w.msgs then startTimer clears expired i
             else (ts.timers i).tryRecv) }
    | _ => { ts with server := next cfg ts.server e }

/-- A beacon whose workers are about to enter their loops. -/
def timedStart (s : Server) : Timed := ⟨s, startTimer clears expired⟩

end

/-! ## Agreement -/

/-- A worker that waits and its timer agree. -/
structure Agrees (w : Worker) (t : Timer) : Prop where
  settled : w.Settled
  live : w.timerActive = t.live
  single : t.Single

theorem agrees_empty (stopped : Bool) : Agrees ⟨[], [], [], false, stopped⟩ Timer.idle where
  settled := Worker.settled_empty stopped
  live := rfl
  single := Timer.single_idle

theorem startTimer_eq (clears : Bool) (expired : Nat → Bool) (i : Nat) :
    startTimer clears expired i = Timer.idle := by
  have hnew : Timer.new.Single := fun h => Bool.false_ne_true h.2
  unfold startTimer
  split_ifs
  · exact hnew.expire.stopAndDrain clears
  · exact hnew.stopAndDrain clears

section

variable {cfg : Config} {clears : Bool} {expired : Nat → Bool} {s : Server} {i : Nat} {t : Timer}

theorem Agrees.expire {w : Worker} (h : Agrees w t) : Agrees w t.expire where
  settled := h.settled
  live := h.live.trans t.live_expire.symm
  single := h.single.expire

/-- A timer that is not marked is idle. -/
theorem Agrees.idle {w : Worker} (h : Agrees w t) (hmark : w.timerActive = false) :
    t = Timer.idle :=
  Timer.eq_idle_of_not_live (h.live.symm.trans hmark)

/-- One more message that does not fill the batch. -/
theorem Agrees.message {w : Worker} (h : Agrees w t) (m : Message) (payload : Buf)
    (hroom : ¬ relayBatchCap ≤ (w.msgs ++ [m]).length) :
    Agrees { Server.withMessage w m payload with timerActive := true }
      (if w.timerActive then t else t.reset clears) := by
  have halign := Server.aligned_withMessage h.settled.toAligned m payload
  have hsettled : Worker.Settled { Server.withMessage w m payload with timerActive := true } :=
    { payloads := halign.payloads
      outBufs := halign.outBufs
      room := Nat.lt_of_not_le hroom
      marked := by simp [Server.withMessage] }
  cases hmark : w.timerActive with
  | true => exact ⟨hsettled, hmark.symm.trans h.live, h.single⟩
  | false =>
    rw [h.idle hmark, if_neg Bool.false_ne_true, Timer.reset_idle]
    exact ⟨hsettled, rfl, fun hboth => Bool.false_ne_true hboth.2⟩

/-- **A job**, whatever becomes of it. -/
theorem Agrees.job (h : Agrees (s.workers i) t) (env : JobEnv) (o : FlushOutcome) :
    Agrees ((s.workerStep cfg i (.job env o)).1.workers i)
      (timerAfterJob cfg clears expired s i env o t) := by
  unfold timerAfterJob
  cases htaken : s.taken cfg i (.job env o) with
  | none =>
    rw [Server.workerStep_job_none htaken]
    exact h
  | some p =>
    obtain ⟨job, outcome⟩ := p
    rw [Server.workerStep_job_worker htaken h.settled.toAligned]
    cases outcome with
    | written frame => exact h
    | discarded => exact h
    | panics =>
      rw [startTimer_eq]
      exact agrees_empty _
    | batched m =>
      dsimp only
      by_cases hfull : relayBatchCap ≤ ((s.workers i).msgs ++ [m]).length
      · rw [if_pos hfull, if_pos hfull]
        by_cases hpanics : s.FlushPanics o ((s.workers i).msgs ++ [m])
        · rw [if_pos hpanics, if_pos hpanics, startTimer_eq]
          exact agrees_empty _
        · rw [if_neg hpanics, if_neg hpanics]
          -- the timer is stopped by its mark
          cases hmark : (s.workers i).timerActive with
          | true =>
            rw [if_pos rfl, h.single.stopAndDrain]
            exact agrees_empty _
          | false =>
            rw [if_neg Bool.false_ne_true, h.idle hmark]
            exact agrees_empty _
      · rw [if_neg hfull, if_neg hfull]
        exact h.message m job.payload.buf hfull

/-- **The timer is received from.** -/
theorem Agrees.fired (h : Agrees (s.workers i) t) (hpending : t.pending = true)
    (o : FlushOutcome) :
    Agrees
      ((Server.flush o (s.setWorker i { s.workers i with timerActive := false }) i).1.workers i)
      (if s.FlushPanics o (s.workers i).msgs then startTimer clears expired i else t.tryRecv) := by
  have hw := Server.workers_setWorker s i { s.workers i with timerActive := false }
  have hflush := Server.flush_worker (o := o) (i := i)
    (s := s.setWorker i { s.workers i with timerActive := false }) (by
      rw [hw]
      exact ⟨h.settled.payloads, h.settled.outBufs⟩)
  rw [hw] at hflush
  rw [hflush]
  by_cases hpanics : s.FlushPanics o (s.workers i).msgs
  · rw [if_pos hpanics, startTimer_eq]
    exact (congrArg (Agrees · Timer.idle) (if_pos hpanics)).mpr (agrees_empty _)
  · rw [if_neg hpanics, h.single.tryRecv hpending]
    exact (congrArg (Agrees · Timer.idle) (if_neg hpanics)).mpr (agrees_empty _)

end

/-! ## Runs -/

/-- Every worker that runs agrees with its timer. -/
def TimersAgree (ts : Timed) : Prop :=
  ∀ i, (ts.server.workers i).stopped = false → Agrees (ts.server.workers i) (ts.timers i)

section

variable {cfg : Config} {clears : Bool} {expired : Nat → Bool} {ts : Timed}

/-- A step of worker `i` cannot change the others. -/
theorem TimersAgree.worker (h : TimersAgree ts) {i : Nat} {s' : Server} {t' : Timer}
    (hframe : Server.WorkerFrame i ts.server s')
    (hself : (s'.workers i).stopped = false → Agrees (s'.workers i) t') :
    TimersAgree ⟨s', Function.update ts.timers i t'⟩ := by
  intro j hrun
  dsimp only at hrun ⊢
  by_cases hj : j = i
  · subst hj
    rw [Function.update_self]
    exact hself hrun
  · rw [hframe.otherWorkers j hj] at hrun ⊢
    rw [Function.update_of_ne hj]
    exact h j hrun

/-- Of everything but a step of a worker, workers and timers notice nothing. -/
theorem TimersAgree.other (h : TimersAgree ts) {e : Event} (hact : ∀ i ev, e.act ≠ .worker i ev) :
    TimersAgree { ts with server := next cfg ts.server e } := by
  have hnext : next cfg ts.server e = relayNext cfg ts.server (.beacon e) := rfl
  rcases relayNext_queues cfg ts.server (.beacon e) with ⟨now, i, ev, heq⟩ | ⟨-, hworkers, -⟩
  · cases heq
    exact absurd rfl (hact i ev)
  · intro i hrun
    dsimp only at hrun ⊢
    rw [hnext, hworkers] at hrun ⊢
    exact h i hrun

/-- A worker that has stopped does nothing. -/
theorem Server.workerStep_stopped {s : Server} {i : Nat} (h : (s.workers i).stopped = true)
    (ev : WorkerEvent) : s.workerStep cfg i ev = (s, []) := by
  unfold Server.workerStep
  rw [h, Bool.or_true, if_pos rfl]

/-- At shutdown a worker stops, unless it is not shutdown. -/
theorem Server.workerStep_done (s : Server) (i : Nat) (o : FlushOutcome) :
    s.workerStep cfg i (.done o) = (s, []) ∨
      ((s.workerStep cfg i (.done o)).1.workers i).stopped = true := by
  unfold Server.workerStep
  by_cases hoff : (s.conn.isNone || (s.workers i).stopped) = true
  · rw [if_pos hoff]
    exact Or.inl rfl
  · rw [if_neg hoff]
    dsimp only
    by_cases hdone : s.done = true
    · rw [if_pos hdone]
      exact Or.inr (by rw [Server.workers_setWorker])
    · rw [if_neg hdone]
      exact Or.inl rfl

/-- A worker that shuts down takes its timer with it. -/
theorem TimersAgree.done (h : TimersAgree ts) (cfg : Config) (i : Nat) (o : FlushOutcome) :
    TimersAgree { ts with server := (ts.server.workerStep cfg i (.done o)).1 } := by
  intro j hrun
  dsimp only at hrun ⊢
  rcases @Server.workerStep_done cfg ts.server i o with hidle | hstop
  · rw [hidle] at hrun ⊢
    exact h j hrun
  · by_cases hj : j = i
    · subst hj
      rw [hstop] at hrun
      cases hrun
    · rw [(Server.workerStep_spec cfg ts.server i (.done o)).1.otherWorkers j hj] at hrun ⊢
      exact h j hrun

/-- **One event.** -/
theorem timersAgree_next (h : TimersAgree ts) (e : TimedEvent) :
    TimersAgree (timedNext cfg clears expired ts e) := by
  cases e with
  | expire i => exact h.worker (Server.WorkerFrame.refl i _) fun hrun => (h i hrun).expire
  | beacon e =>
    obtain ⟨now, act⟩ := e
    cases act with
    | worker i ev =>
      cases ev with
      | job env o =>
        apply h.worker (Server.workerStep_spec cfg ts.server i (.job env o)).1
        intro hrun
        cases hstopped : (ts.server.workers i).stopped with
        | false => exact (h i hstopped).job env o
        | true =>
          rw [Server.workerStep_stopped hstopped, hstopped] at hrun
          cases hrun
      | timer o =>
        simp only [timedNext]
        by_cases hoff : (ts.server.conn.isNone || (ts.server.workers i).stopped ||
            !(ts.timers i).pending) = true
        · rw [if_pos hoff]
          exact h
        · rw [if_neg hoff]
          simp only [Bool.or_eq_true, not_or, Bool.not_eq_true, Bool.not_eq_false'] at hoff
          apply h.worker ((Server.setWorker_frame _ i _).trans (Server.flush_spec o _ i).1)
          exact fun _ => (h i hoff.1.2).fired hoff.2 o
      | done o => exact h.done cfg i o
    | _ => exact h.other (by intro _ _ heq; cases heq)

/-- The beacon with its timers after the events `es`. -/
def timedRun (cfg : Config) (clears : Bool) (expired : Nat → Bool) (s : Server)
    (es : List TimedEvent) : Timed :=
  Transition.run (timedNext cfg clears expired) (timedStart clears expired s) es

theorem timersAgree_run (cfg : Config) (clears : Bool) (expired : Nat → Bool) {s : Server}
    (hstart : ∀ i, s.workers i = Worker.start) (es : List TimedEvent) :
    TimersAgree (timedRun cfg clears expired s es) := by
  apply Transition.run_invariant (timedNext cfg clears expired) TimersAgree
  · intro i _
    dsimp only [timedStart]
    rw [hstart, startTimer_eq]
    exact agrees_empty false
  · exact fun ts e h => timersAgree_next h e

/-- An event beside the timers is an event of the beacon, or none. -/
theorem timedNext_server (h : TimersAgree ts) (e : TimedEvent) :
    (timedNext cfg clears expired ts e).server = ts.server ∨
      ∃ e', (timedNext cfg clears expired ts e).server = next cfg ts.server e' := by
  cases e with
  | expire i => exact Or.inl rfl
  | beacon e =>
    obtain ⟨now, act⟩ := e
    cases act with
    | worker i ev =>
      cases ev with
      | timer o =>
        simp only [timedNext]
        by_cases hoff : (ts.server.conn.isNone || (ts.server.workers i).stopped ||
            !(ts.timers i).pending) = true
        · rw [if_pos hoff]
          exact Or.inl rfl
        · rw [if_neg hoff]
          simp only [Bool.or_eq_true, not_or, Bool.not_eq_true, Bool.not_eq_false'] at hoff
          -- there is something to receive, so the timer is marked
          have hmark : (ts.server.workers i).timerActive = true := by
            rw [(h i hoff.1.2).live, Timer.live, hoff.2, Bool.or_true]
          refine Or.inr ⟨⟨now, .worker i (.timer o)⟩, ?_⟩
          exact (congrArg Prod.fst
            (Server.workerStep_timer cfg o hoff.1.1 hoff.1.2 hmark)).symm
      | _ => exact Or.inr ⟨_, rfl⟩
    | _ => exact Or.inr ⟨_, rfl⟩

end

/-- **Refinement.** With real timers the beacon reaches no state it does not reach with the
    marks in their place. -/
theorem timed_refines (cfg : Config) (clears : Bool) (expired : Nat → Bool) {s : Server}
    (hstart : ∀ i, s.workers i = Worker.start) (es : List TimedEvent) :
    ∃ bs, (timedRun cfg clears expired s es).server = Transition.run (next cfg) s bs := by
  induction es using List.reverseRecOn with
  | nil => exact ⟨[], rfl⟩
  | append_singleton es e ih =>
    obtain ⟨bs, hbs⟩ := ih
    have hagree := timersAgree_run cfg clears expired hstart es
    rw [timedRun, Transition.run_concat]
    rcases @timedNext_server cfg clears expired _ hagree e with hsame | ⟨e', hnext⟩
    · exact ⟨bs, hsame.trans hbs⟩
    · refine ⟨bs ++ [e'], hnext.trans ?_⟩
      rw [Transition.run_concat, ← hbs]

/-- **No message is stranded in a batch.** From the start of the workers' loops on, whatever is
    queued and whatever happens, a worker that waits has a batch below the cap with its three
    slices in line, its timer is marked exactly if the batch has messages, and exactly then the
    timer will fire or has fired. -/
theorem batches_settled (cfg : Config) (clears : Bool) (expired : Nat → Bool) {s : Server}
    (hstart : ∀ i, s.workers i = Worker.start) (es : List TimedEvent) (i : Nat)
    (hrun : ((timedRun cfg clears expired s es).server.workers i).stopped = false) :
    ((timedRun cfg clears expired s es).server.workers i).payloadsToReturn.length =
        ((timedRun cfg clears expired s es).server.workers i).msgs.length ∧
      ((timedRun cfg clears expired s es).server.workers i).outBufsToReturn.length =
        ((timedRun cfg clears expired s es).server.workers i).msgs.length ∧
      ((timedRun cfg clears expired s es).server.workers i).msgs.length < relayBatchCap ∧
      (((timedRun cfg clears expired s es).server.workers i).timerActive = true ↔
        ((timedRun cfg clears expired s es).server.workers i).msgs ≠ []) ∧
      (((timedRun cfg clears expired s es).timers i).live = true ↔
        ((timedRun cfg clears expired s es).server.workers i).msgs ≠ []) := by
  have h := timersAgree_run cfg clears expired hstart es i hrun
  exact ⟨h.settled.payloads, h.settled.outBufs, h.settled.room, h.settled.marked,
    h.live ▸ h.settled.marked⟩

/-- A frame for node 7 is batched by worker 7. -/
def oneBatched : List TimedEvent :=
  (nodeSeven ++
    [sampleDatagram second (sampleAddr 10 0 0 9 4000) [0x05, 0, 0, 0, 9, 0, 0, 0, 7, 0xaa],
      ⟨second, .worker 7 (.job ⟨false, false, 0⟩ ⟨0, fun _ => false⟩)⟩]).map .beacon

theorem batches_settled_oneBatched :
    (((timedRun sampleConfig true (fun _ => false) (newWithPeers sampleConfig []) oneBatched).timers
      7).live = true ↔
      ((timedRun sampleConfig true (fun _ => false) (newWithPeers sampleConfig [])
        oneBatched).server.workers 7).msgs ≠ []) ∧
    ((timedRun sampleConfig true (fun _ => false) (newWithPeers sampleConfig [])
      oneBatched).server.workers 7).msgs.length = 1 := by
  refine ⟨(batches_settled sampleConfig true (fun _ => false) (fun _ => rfl) oneBatched 7
    ?_).2.2.2.2, ?_⟩
  · decide +kernel
  · decide +kernel

end PilotBeacon

import PilotBeacon.Server.Worker
import Mathlib.Data.List.Perm.Basic

/-!
# Outcomes of Worker Steps

What exactly becomes of the job a worker takes and of the batch it flushes. A job is written
to a WSS connection, discarded, or batched as one message; a flushed batch is divided into
what some send accepted and what none did.

- `jobOutcome`, `handleJob_eq`: the ways of a job
- `flushSent`, `flushFailed`, `flush_exact`: the two parts of a flushed batch
- `workerStep_exact`: what a step does to queue, batch, transports and counters
-/

namespace PilotBeacon

open PilotBeacon.Lib PilotBeacon.Net

/-! ## Jobs -/

/-- What becomes of a job. -/
inductive JobOutcome where
  /-- `WriteFrame` accepts the frame. -/
  | written (frame : Bytes)
  /-- Nobody to send it to, or `WriteFrame` fails. -/
  | discarded
  | batched (m : Message)
  /-- The output buffer is too small. -/
  | panics
deriving DecidableEq

namespace Server

/-- The output buffer a job is given. -/
def jobBuffer (env : JobEnv) (s : Server) : Buf :=
  (s.outBufPool.get env.outPick (maxRelayPayload + 9)).1

def jobOutcome (cfg : Config) (env : JobEnv) (s : Server) (job : RelayJob) : JobOutcome :=
  if cfg.wssBridge && env.wssConnected then
    match outSlice (s.jobBuffer env) (deliverHeader cfg job.senderID) job.payload.data with
    | none => .panics
    | some out => if env.wssWrite then .written out.data else .discarded
  else
    match (s.route job.destID).header cfg job with
    | none => .discarded
    | some (addr, header) =>
      match outSlice (s.jobBuffer env) header job.payload.data with
      | none => .panics
      | some out => .batched ⟨out, addr, job.destID⟩

section

variable {cfg : Config} {env : JobEnv} {o : FlushOutcome} {s : Server} {i : Nat} {job : RelayJob}

theorem outSlice_eq_some {buf : Buf} {header payload : Bytes} {out : Slice}
    (h : outSlice buf header payload = some out) : out = ⟨buf, header ++ payload⟩ := by
  unfold outSlice at h
  split_ifs at h
  cases h
  rfl

/-- **The outcome decides what a worker does with a job.** -/
theorem handleJob_eq (cfg : Config) (env : JobEnv) (o : FlushOutcome) (s : Server) (i : Nat)
    (job : RelayJob) : handleJob cfg env o s i job =
    let s₁ := { s with outBufPool := (s.outBufPool.get env.outPick (maxRelayPayload + 9)).2 }
    match jobOutcome cfg env s job with
    | .written frame =>
      (releaseJob { s₁ with relayForwarded := s₁.relayForwarded + 1 } job (s.jobBuffer env),
        [.wss job.destID frame])
    | .discarded =>
      (releaseJob { s₁ with relayNotFound := s₁.relayNotFound + 1 } job (s.jobBuffer env), [])
    | .batched m =>
      ((addMessage o s₁ i m job.payload.buf).1, (addMessage o s₁ i m job.payload.buf).2.map .udp)
    | .panics => (s₁.workerPanic i, []) := by
  -- routing does not look at the buffers
  have hroute : ∀ pool, (route { s with outBufPool := pool } job.destID).header cfg job =
      (s.route job.destID).header cfg job := fun _ => rfl
  unfold handleJob jobOutcome
  dsimp only
  by_cases hwss : (cfg.wssBridge && env.wssConnected) = true
  · rw [if_pos hwss, if_pos hwss]
    unfold sendWSS jobBuffer
    cases outSlice (s.outBufPool.get env.outPick (maxRelayPayload + 9)).1
        (deliverHeader cfg job.senderID) job.payload.data with
    | none => rfl
    | some out => cases env.wssWrite <;> rfl
  · rw [if_neg hwss, if_neg hwss]
    unfold sendUDP jobBuffer
    rw [hroute]
    cases (s.route job.destID).header cfg job with
    | none => rfl
    | some p =>
      dsimp only
      cases outSlice (s.outBufPool.get env.outPick (maxRelayPayload + 9)).1 p.2
          job.payload.data <;> rfl

/-- What WSS accepts is the delivery of the job, in the layout without destination. -/
theorem jobOutcome_written {frame : Bytes} (h : jobOutcome cfg env s job = .written frame) :
    cfg.wssBridge = true ∧ env.wssConnected = true ∧ env.wssWrite = true ∧
      frame = deliverHeader cfg job.senderID ++ job.payload.data := by
  unfold jobOutcome at h
  by_cases hwss : (cfg.wssBridge && env.wssConnected) = true
  · rw [if_pos hwss] at h
    cases hout : outSlice (s.jobBuffer env) (deliverHeader cfg job.senderID) job.payload.data with
    | none =>
      rw [hout] at h
      cases h
    | some out =>
      rw [hout] at h
      dsimp only at h
      split_ifs at h with hwrite
      cases h
      rw [Bool.and_eq_true] at hwss
      exact ⟨hwss.1, hwss.2, hwrite, by rw [outSlice_eq_some hout]⟩
  · rw [if_neg hwss] at h
    cases hheader : (s.route job.destID).header cfg job with
    | none =>
      rw [hheader] at h
      cases h
    | some p =>
      rw [hheader] at h
      dsimp only at h
      split at h <;> cases h

/-- What is batched is the routed job, in the buffer it was given. -/
theorem jobOutcome_batched {m : Message} (h : jobOutcome cfg env s job = .batched m) :
    (cfg.wssBridge && env.wssConnected) = false ∧ BatchedAs cfg s m job ∧
      m.buffer.buf = s.jobBuffer env := by
  unfold jobOutcome at h
  by_cases hwss : (cfg.wssBridge && env.wssConnected) = true
  · rw [if_pos hwss] at h
    split at h
    · cases h
    · split at h <;> cases h
  · rw [if_neg hwss] at h
    cases hheader : (s.route job.destID).header cfg job with
    | none =>
      rw [hheader] at h
      cases h
    | some p =>
      obtain ⟨addr, header⟩ := p
      rw [hheader] at h
      dsimp only at h
      cases hout : outSlice (s.jobBuffer env) header job.payload.data with
      | none =>
        rw [hout] at h
        cases h
      | some out =>
        rw [hout] at h
        cases h
        rw [outSlice_eq_some hout]
        exact ⟨by simpa using hwss, ⟨rfl, header, hheader, rfl⟩, rfl⟩

end

/-! ## Flushes -/

/-- The messages from index `k` on whose own `WriteToUDP` fails. -/
def failEach (writeOk : Nat → Bool) (k : Nat) (msgs : List Message) : List Message :=
  ((msgs.zipIdx.drop k).filter fun p => !writeOk p.2).map Prod.fst

/-- The messages of a flushed batch that some send accepts. -/
def flushSent (o : FlushOutcome) (dualStack : Bool) (msgs : List Message) : List Message :=
  if dualStack then writeEach o.writeOk 0 msgs
  else msgs.take o.n.toNat ++ writeEach o.writeOk o.n.toNat msgs

/-- The messages of a flushed batch that no send accepts. -/
def flushFailed (o : FlushOutcome) (dualStack : Bool) (msgs : List Message) : List Message :=
  if dualStack then failEach o.writeOk 0 msgs else failEach o.writeOk o.n.toNat msgs

/-- `WriteBatch`, if it is called, reports how many of the first messages it sent. -/
def FlushReported (o : FlushOutcome) (dualStack : Bool) (msgs : List Message) : Prop :=
  msgs = [] ∨ dualStack = true ∨ 0 ≤ o.n ∧ o.n ≤ msgs.length

instance (o : FlushOutcome) (dualStack : Bool) (msgs : List Message) :
    Decidable (FlushReported o dualStack msgs) := inferInstanceAs (Decidable (_ ∨ _))

theorem writeEach_append_failEach (writeOk : Nat → Bool) (k : Nat) (msgs : List Message) :
    (writeEach writeOk k msgs ++ failEach writeOk k msgs).Perm (msgs.drop k) := by
  have hfst : (msgs.zipIdx.drop k).map Prod.fst = msgs.drop k := by
    rw [List.map_drop, List.zipIdx_map_fst]
  rw [writeEach, failEach, ← List.map_append, ← hfst]
  exact (List.filter_append_perm _ _).map _

/-- **A flush divides the batch.** -/
theorem flushSent_append_flushFailed (o : FlushOutcome) (dualStack : Bool) (msgs : List Message) :
    (flushSent o dualStack msgs ++ flushFailed o dualStack msgs).Perm msgs := by
  cases dualStack with
  | true => exact writeEach_append_failEach o.writeOk 0 msgs
  | false =>
    have h := (writeEach_append_failEach o.writeOk o.n.toNat msgs).append_left
      (msgs.take o.n.toNat)
    rw [List.take_append_drop, ← List.append_assoc] at h
    exact h

theorem flush_exact {o : FlushOutcome} {s : Server} {i : Nat}
    (h : FlushReported o s.sendDualStack (s.workers i).msgs) :
    (flush o s i).2 = flushSent o s.sendDualStack (s.workers i).msgs ∧
      ((flush o s i).1.workers i).msgs = [] ∧
      (flush o s i).1.relayForwarded = s.relayForwarded + (flush o s i).2.length ∧
      (flush o s i).1.relayNotFound = s.relayNotFound := by
  unfold flush flushSent
  dsimp only
  by_cases hempty : (s.workers i).msgs = []
  · rw [if_pos hempty, hempty]
    cases s.sendDualStack <;> simp [writeEach]
  · rw [if_neg hempty]
    cases hdual : s.sendDualStack with
    | true => simp [finishFlush]
    | false =>
      obtain hnil | hd | ⟨hlo, hhi⟩ := h
      · exact absurd hnil hempty
      · rw [hdual] at hd
        cases hd
      · rw [if_neg Bool.false_ne_true, if_neg (by omega), if_neg Bool.false_ne_true]
        refine ⟨rfl, by simp [finishFlush], ?_, rfl⟩
        -- the reported messages exist
        rw [List.length_append, List.length_take, min_eq_left (by omega)]
        rfl

/-! ## Steps -/

end Server

def WorkerEvent.flushOutcome : WorkerEvent → FlushOutcome
  | .job _ o => o
  | .timer o => o
  | .done o => o

namespace Server

section

variable (cfg : Config) (s : Server) (i : Nat)

/-- The job worker `i` takes off its queue, and what becomes of it. -/
def taken : WorkerEvent → Option (RelayJob × JobOutcome)
  | .job env _ =>
    if s.conn.isNone || (s.workers i).stopped then none
    else (s.relayChs i).head?.map fun job => (job, jobOutcome cfg env s job)
  | _ => none

/-- What the step writes to a WSS connection. -/
def stepWritten (ev : WorkerEvent) : List Sent :=
  match s.taken cfg i ev with
  | some (job, .written frame) => [.wss job.destID frame]
  | _ => []

/-- The job the step discards. -/
def stepDiscarded (ev : WorkerEvent) : List RelayJob :=
  match s.taken cfg i ev with
  | some (job, .discarded) => [job]
  | _ => []

/-- The message the step batches. -/
def stepBatched (ev : WorkerEvent) : List Message :=
  match s.taken cfg i ev with
  | some (_, .batched m) => [m]
  | _ => []

/-- The batch the step flushes. -/
def flushedBatch (ev : WorkerEvent) : List Message :=
  match ev with
  | .job _ _ =>
    if s.stepBatched cfg i ev ≠ [] ∧
        relayBatchCap ≤ ((s.workers i).msgs ++ s.stepBatched cfg i ev).length then
      (s.workers i).msgs ++ s.stepBatched cfg i ev
    else []
  | .timer _ =>
    if s.conn.isNone || (s.workers i).stopped then []
    else if (s.workers i).timerActive then (s.workers i).msgs else []
  | .done _ =>
    if s.conn.isNone || (s.workers i).stopped then []
    else if s.done then (s.workers i).msgs else []

/-- What the step sends over UDP. -/
def stepFlushSent (ev : WorkerEvent) : List Message :=
  flushSent ev.flushOutcome s.sendDualStack (s.flushedBatch cfg i ev)

/-- What the step fails to send over UDP. -/
def stepFlushFailed (ev : WorkerEvent) : List Message :=
  flushFailed ev.flushOutcome s.sendDualStack (s.flushedBatch cfg i ev)

/-- The exact effect of a step on queue, batch, transports and counters. -/
structure ExactStep (ev : WorkerEvent) : Prop where
  queue : s.relayChs i =
    ((s.taken cfg i ev).map Prod.fst).toList ++ (workerStep cfg s i ev).1.relayChs i
  batch : (s.workers i).msgs ++ s.stepBatched cfg i ev =
    s.flushedBatch cfg i ev ++ ((workerStep cfg s i ev).1.workers i).msgs
  out : (workerStep cfg s i ev).2 =
    s.stepWritten cfg i ev ++ (s.stepFlushSent cfg i ev).map .udp
  forwarded : (workerStep cfg s i ev).1.relayForwarded =
    s.relayForwarded + (workerStep cfg s i ev).2.length
  notFound : (workerStep cfg s i ev).1.relayNotFound =
    s.relayNotFound + (s.stepDiscarded cfg i ev).length

end

section

variable {cfg : Config} {o : FlushOutcome} {s : Server} {i : Nat}

theorem taken_eq_some {ev : WorkerEvent} {job : RelayJob} {outcome : JobOutcome}
    (h : s.taken cfg i ev = some (job, outcome)) : ∃ env o rest, ev = .job env o ∧
      s.relayChs i = job :: rest ∧ outcome = jobOutcome cfg env s job := by
  cases ev with
  | job env o =>
    unfold taken at h
    split_ifs at h
    cases hq : s.relayChs i with
    | nil =>
      rw [hq] at h
      cases h
    | cons job' rest =>
      rw [hq] at h
      cases h
      exact ⟨env, o, rest, rfl, rfl, rfl⟩
  | timer o => cases h
  | done o => cases h

theorem flushSent_nil (o : FlushOutcome) (dualStack : Bool) : flushSent o dualStack [] = [] := by
  cases dualStack <;> simp [flushSent, writeEach]

/-- A message that fills the batch is flushed with it, any other waits in it. -/
theorem addMessage_exact (m : Message) (payload : Buf)
    (h : relayBatchCap ≤ ((s.workers i).msgs ++ [m]).length →
      FlushReported o s.sendDualStack ((s.workers i).msgs ++ [m])) :
    let full := relayBatchCap ≤ ((s.workers i).msgs ++ [m]).length
    (addMessage o s i m payload).2 =
        (if full then flushSent o s.sendDualStack ((s.workers i).msgs ++ [m]) else []) ∧
      ((addMessage o s i m payload).1.workers i).msgs =
        (if full then [] else (s.workers i).msgs ++ [m]) ∧
      (addMessage o s i m payload).1.relayForwarded =
        s.relayForwarded + (addMessage o s i m payload).2.length ∧
      (addMessage o s i m payload).1.relayNotFound = s.relayNotFound := by
  unfold addMessage
  dsimp only
  by_cases hfull : relayBatchCap ≤ ((s.workers i).msgs ++ [m]).length
  · rw [if_pos hfull, if_pos hfull, if_pos hfull]
    have hflush := flush_exact (s := s.setWorker i
      { s.workers i with
        msgs := (s.workers i).msgs ++ [m]
        payloadsToReturn := (s.workers i).payloadsToReturn ++ [payload]
        outBufsToReturn := (s.workers i).outBufsToReturn ++ [m.buffer.buf]
        timerActive := false }) (i := i) (o := o) (by rw [workers_setWorker]; exact h hfull)
    rw [workers_setWorker] at hflush
    exact hflush
  · rw [if_neg hfull, if_neg hfull, if_neg hfull]
    exact ⟨rfl, by simp [setWorker], rfl, rfl⟩

/-- A step that does nothing. -/
theorem exactStep_idle {ev : WorkerEvent} (htaken : s.taken cfg i ev = none)
    (hbatch : s.flushedBatch cfg i ev = []) (hstep : workerStep cfg s i ev = (s, [])) :
    ExactStep cfg s i ev := by
  constructor <;> simp [hstep, htaken, hbatch, stepBatched, stepWritten, stepDiscarded,
    stepFlushSent, flushSent_nil]

/-- A step that flushes the batch and nothing else. -/
theorem exactStep_flush {ev : WorkerEvent} {s' : Server} {sent : List Message}
    (htaken : s.taken cfg i ev = none) (hbatch : s.flushedBatch cfg i ev = (s.workers i).msgs)
    (hstep : workerStep cfg s i ev = (s', sent.map .udp)) (hchs : s'.relayChs i = s.relayChs i)
    (hsent : sent = flushSent ev.flushOutcome s.sendDualStack (s.workers i).msgs)
    (hmsgs : (s'.workers i).msgs = [])
    (hforwarded : s'.relayForwarded = s.relayForwarded + sent.length)
    (hnotFound : s'.relayNotFound = s.relayNotFound) : ExactStep cfg s i ev where
  queue := by rw [htaken, hstep, hchs]; rfl
  batch := by rw [stepBatched, htaken, hbatch, hstep, hmsgs]
  out := by rw [stepWritten, htaken, stepFlushSent, hbatch, hstep, ← hsent]; rfl
  forwarded := by rw [hstep, hforwarded, List.length_map]
  notFound := by rw [hstep, stepDiscarded, htaken, hnotFound]; rfl

theorem exactStep_timer (hoff : ¬ (s.conn.isNone || (s.workers i).stopped) = true)
    (hflush : FlushReported o s.sendDualStack (s.flushedBatch cfg i (.timer o))) :
    ExactStep cfg s i (.timer o) := by
  by_cases htimer : (s.workers i).timerActive = true
  · have hbatch : s.flushedBatch cfg i (.timer o) = (s.workers i).msgs :=
      (if_neg hoff).trans (if_pos htimer)
    rw [hbatch] at hflush
    have h := flush_exact (s := s.setWorker i { s.workers i with timerActive := false })
      (i := i) (o := o) (by rw [workers_setWorker]; exact hflush)
    rw [workers_setWorker] at h
    exact exactStep_flush rfl hbatch ((if_neg hoff).trans (if_pos htimer))
      (congrFun (flush_spec o _ i).2.1 i) h.1 h.2.1 h.2.2.1 h.2.2.2
  · apply exactStep_idle rfl
    · exact (if_neg hoff).trans (if_neg htimer)
    · exact (if_neg hoff).trans (if_neg htimer)

theorem exactStep_done (hoff : ¬ (s.conn.isNone || (s.workers i).stopped) = true)
    (hflush : FlushReported o s.sendDualStack (s.flushedBatch cfg i (.done o))) :
    ExactStep cfg s i (.done o) := by
  by_cases hdone : s.done = true
  · have hbatch : s.flushedBatch cfg i (.done o) = (s.workers i).msgs :=
      (if_neg hoff).trans (if_pos hdone)
    rw [hbatch] at hflush
    have hstep : workerStep cfg s i (.done o) =
        ((flush o s i).1.setWorker i { (flush o s i).1.workers i with stopped := true },
          (flush o s i).2.map .udp) := (if_neg hoff).trans (if_pos hdone)
    have h := flush_exact hflush
    have hmsgs : (((flush o s i).1.setWorker i
        { (flush o s i).1.workers i with stopped := true }).workers i).msgs = [] := by
      rw [workers_setWorker]
      exact h.2.1
    exact exactStep_flush rfl hbatch hstep (congrFun (flush_spec o s i).2.1 i) h.1 hmsgs h.2.2.1
      h.2.2.2
  · apply exactStep_idle rfl
    · exact (if_neg hoff).trans (if_neg hdone)
    · exact (if_neg hoff).trans (if_neg hdone)

/-- A step that takes a job and batches it. -/
theorem exactStep_batched {env : JobEnv} {job : RelayJob} {rest : List RelayJob} {m : Message}
    (htaken : s.taken cfg i (.job env o) = some (job, .batched m))
    (hqueue : s.relayChs i = ((s.taken cfg i (.job env o)).map Prod.fst).toList ++
      (workerStep cfg s i (.job env o)).1.relayChs i)
    {s₁ : Server} (hs₁ : s₁ =
      { s with
        relayChs := Function.update s.relayChs i rest
        outBufPool := (s.outBufPool.get env.outPick (maxRelayPayload + 9)).2 })
    (hstep : workerStep cfg s i (.job env o) =
      ((addMessage o s₁ i m job.payload.buf).1, (addMessage o s₁ i m job.payload.buf).2.map .udp))
    (hflush : FlushReported o s.sendDualStack (s.flushedBatch cfg i (.job env o))) :
    ExactStep cfg s i (.job env o) := by
  have hadded : s.stepBatched cfg i (.job env o) = [m] := by rw [stepBatched, htaken]
  have hbatch : s.flushedBatch cfg i (.job env o) =
      if relayBatchCap ≤ ((s.workers i).msgs ++ [m]).length then (s.workers i).msgs ++ [m]
      else [] := by
    rw [flushedBatch, hadded]
    simp
  have hadd := addMessage_exact (o := o) (i := i) (s := s₁) m job.payload.buf
  subst hs₁
  obtain ⟨hsent, hmsgs, hforwarded, hnotFound⟩ := hadd (by
    intro hfull
    rw [hbatch, if_pos hfull] at hflush
    exact hflush)
  constructor
  · exact hqueue
  · rw [hstep, hadded, hbatch, hmsgs]
    split_ifs <;> simp
  · rw [hstep, stepWritten, htaken, stepFlushSent, hbatch, hsent, List.nil_append]
    split_ifs
    · rfl
    · rw [flushSent_nil]
  · rw [hstep, List.length_map]
    exact hforwarded
  · rw [hstep, stepDiscarded, htaken]
    exact hnotFound

/-- A step that takes a job. -/
theorem exactStep_job {env : JobEnv} {job : RelayJob} {rest : List RelayJob}
    (htaken : s.taken cfg i (.job env o) = some (job, jobOutcome cfg env s job))
    (hq : s.relayChs i = job :: rest)
    (hstep : workerStep cfg s i (.job env o) =
      handleJob cfg env o { s with relayChs := Function.update s.relayChs i rest } i job)
    (hflush : FlushReported o s.sendDualStack (s.flushedBatch cfg i (.job env o)))
    (hpanic : jobOutcome cfg env s job ≠ .panics) : ExactStep cfg s i (.job env o) := by
  have hqueue : s.relayChs i = ((s.taken cfg i (.job env o)).map Prod.fst).toList ++
      (workerStep cfg s i (.job env o)).1.relayChs i := by
    have hchs : (workerStep cfg s i (.job env o)).1.relayChs i = rest := by
      rw [hstep, (handleJob_spec cfg env o _ i job).2.1]
      exact Function.update_self ..
    rw [htaken, hchs, hq]
    rfl
  -- the outcome is the same in the state with the job taken off
  have houtcome : jobOutcome cfg env { s with relayChs := Function.update s.relayChs i rest } job =
      jobOutcome cfg env s job := rfl
  rw [handleJob_eq, houtcome] at hstep
  cases hj : jobOutcome cfg env s job with
  | panics => exact absurd hj hpanic
  | written frame =>
    rw [hj] at hstep htaken
    constructor
    · exact hqueue
    all_goals simp [hstep, flushedBatch, stepBatched, stepWritten, stepDiscarded, stepFlushSent,
      htaken, flushSent_nil, releaseJob]
  | discarded =>
    rw [hj] at hstep htaken
    constructor
    · exact hqueue
    all_goals simp [hstep, flushedBatch, stepBatched, stepWritten, stepDiscarded, stepFlushSent,
      htaken, flushSent_nil, releaseJob]
  | batched m =>
    rw [hj] at hstep htaken
    exact exactStep_batched htaken hqueue rfl hstep hflush

/-- **The exact effect of a worker step**, as long as flushes are reported and no job panics. -/
theorem workerStep_exact {ev : WorkerEvent}
    (hflush : FlushReported ev.flushOutcome s.sendDualStack (s.flushedBatch cfg i ev))
    (hpanic : ∀ job, s.taken cfg i ev ≠ some (job, .panics)) : ExactStep cfg s i ev := by
  by_cases hoff : (s.conn.isNone || (s.workers i).stopped) = true
  · have htaken : s.taken cfg i ev = none := by
      cases ev with
      | job env o => exact if_pos hoff
      | _ => rfl
    apply exactStep_idle htaken
    · cases ev with
      | job env o => simp [flushedBatch, stepBatched, htaken]
      | _ => exact if_pos hoff
    · exact if_pos hoff
  · cases ev with
    | job env o =>
      cases hq : s.relayChs i with
      | nil =>
        have htaken : s.taken cfg i (.job env o) = none := by rw [taken, if_neg hoff, hq]; rfl
        apply exactStep_idle htaken
        · simp [flushedBatch, stepBatched, htaken]
        · rw [workerStep, if_neg hoff, hq]
      | cons job rest =>
        have htaken : s.taken cfg i (.job env o) = some (job, jobOutcome cfg env s job) := by
          rw [taken, if_neg hoff, hq]
          rfl
        have hstep : workerStep cfg s i (.job env o) =
            handleJob cfg env o { s with relayChs := Function.update s.relayChs i rest } i job := by
          rw [workerStep, if_neg hoff, hq]
        exact exactStep_job htaken hq hstep hflush fun h => hpanic job (by rw [htaken, h])
    | timer o => exact exactStep_timer hoff hflush
    | done o => exact exactStep_done hoff hflush

end

end Server

end PilotBeacon

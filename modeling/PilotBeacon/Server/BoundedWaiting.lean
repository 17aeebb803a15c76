import PilotBeacon.Lib.Fifo
import PilotBeacon.Server.FlushTimer
import PilotBeacon.Server.RelayAccounting

/-!
# Bounded Waiting on the Relay Path

A frame waits twice: in its queue until a worker takes it, and in the worker's batch until that is
flushed. Neither wait depends on what arrives meanwhile. From any moment on, as many jobs as there
are in a queue make its worker take all of them, in order, and after the next firing of the flush
timer each of their frames, and each that was in the batch, has left with what the worker put out,
has been refused by its own send call, or has no destination.

- `Serving`: while nobody calls `Close`, every worker runs and its batch is settled
- `BatchesCarry`: batched messages carry frames
- `WorkedOff`: what holds of one worker between two moments
- `bounded_waiting`: after enough rounds and a firing of the timer
-/

namespace PilotBeacon

open PilotBeacon.Lib PilotBeacon.Net

/-! ## Observing one worker -/

/-- What worker `i` shows in a round; other events show nothing. -/
def showOf {α : Type} (i : Nat) (f : Server → WorkerEvent → List α) (s : Server) (e : RelayEvent) :
    List α :=
  match e.worker? with
  | some (j, ev) => if j = i then f s ev else []
  | none => []

/-- The jobs that leave the queue of worker `i`. -/
def jobsTaken (cfg : Config) (i : Nat) : Server → RelayEvent → List RelayJob :=
  showOf i fun s ev =>
    (s.relayChs i).take
      ((s.relayChs i).length - ((s.workerStep cfg i ev).1.relayChs i).length)

/-- What worker `i` puts out, over UDP or WSS. -/
def workerSends (cfg : Config) (i : Nat) : Server → RelayEvent → List Sent :=
  showOf i fun s ev => (s.workerStep cfg i ev).2

/-- The messages worker `i` flushes whose own `WriteToUDP` fails. -/
def sendsRefused (cfg : Config) (i : Nat) : Server → RelayEvent → List Message :=
  showOf i fun s ev => s.stepFlushFailed cfg i ev

/-- The jobs worker `i` discards as not found. -/
def jobsNotFound (cfg : Config) (i : Nat) : Server → RelayEvent → List RelayJob :=
  showOf i fun s ev => s.stepDiscarded cfg i ev

/-- A round in which worker `i` receives from its queue. -/
def isJobRound (i : Nat) (e : RelayEvent) : Bool :=
  match e.worker? with
  | some (j, .job _ _) => j == i
  | _ => false

def RelayEvent.isClose : RelayEvent → Bool
  | .beacon ⟨_, .close⟩ => true
  | _ => false

/-! ## Workers while nobody calls `Close` -/

/-- Every worker runs, and its batch is settled. -/
structure Serving (s : Server) : Prop where
  done : s.done = false
  running : ∀ i, (s.workers i).stopped = false
  settled : ∀ i, (s.workers i).Settled

section

variable {cfg : Config} {s : Server} {i : Nat}

/-- Only `Close` sets `done`, and only `ListenAndServe` sets the socket, once. -/
theorem relayNext_lifetime (cfg : Config) (s : Server) (e : RelayEvent) :
    (relayNext cfg s e).done = (s.done || e.isClose) ∧
      ((relayNext cfg s e).conn = s.conn ∨ ∃ now addr, e = .beacon ⟨now, .listen addr⟩ ∧
        (relayNext cfg s e).conn = some (s.conn.getD addr)) := by
  cases e with
  | setTables t => simp [relayNext, Server.withTables, RelayEvent.isClose]
  | beacon e =>
    obtain ⟨now, act⟩ := e
    cases act with
    | worker i ev =>
      have h := (Server.workerStep_spec cfg s i ev).1
      simp [relayNext, next, step, RelayEvent.isClose, h.done, h.conn]
    | packet env data remote bridgePeer =>
      simp only [relayNext, next, step, Server.handlePacketFrom, RelayEvent.isClose, Bool.or_false]
      cases cfg.proto.decode data with
      | discover body wantDest =>
        simp only [Server.handleDiscover_state]
        cases Server.discoverAdmitted env body <;> exact ⟨rfl, .inl rfl⟩
      | punchRequest body =>
        obtain ⟨_, _, h⟩ := Server.handlePunchRequest_state cfg env now s body remote
        rw [h]
        exact ⟨rfl, .inl rfl⟩
      | relay body =>
        obtain ⟨_, _, _, _, _, h, -⟩ := Server.dispatchRelay_frame cfg env now s body
          (relaySource remote bridgePeer)
        rw [h]
        exact ⟨rfl, .inl rfl⟩
      | sync body =>
        simp only [Server.handleSync_eq]
        cases Server.acceptedSync cfg s body remote <;> exact ⟨rfl, .inl rfl⟩
      | other => exact ⟨rfl, .inl rfl⟩
    | reap =>
      obtain ⟨_, _, _, _, h⟩ := Server.reapStaleNodes_frame s now
      simp [relayNext, next, step, RelayEvent.isClose, h]
    | notify nodeID =>
      obtain ⟨_, h, _⟩ := Server.notifyNode_frame s nodeID now
      simp [relayNext, next, step, RelayEvent.isClose, h]
    | registry x =>
      obtain ⟨_, h⟩ := Server.registryDiscover_frame cfg s x
      simp [relayNext, next, step, RelayEvent.isClose, h]
    | listen addr => simp [relayNext, next, step, RelayEvent.isClose]
    | gossip order => simp [relayNext, next, step, RelayEvent.isClose]
    | close => simp [relayNext, next, step, RelayEvent.isClose]

theorem bound_relayNext (h : s.conn.isSome = true) (e : RelayEvent) :
    (relayNext cfg s e).conn.isSome = true := by
  rcases (relayNext_lifetime cfg s e).2 with hsame | ⟨_, _, -, hset⟩
  · rw [hsame, h]
  · rw [hset, Option.isSome_some]

/-- With the socket bound, no worker's round is void. -/
theorem Serving.on (h : Serving s) (hbound : s.conn.isSome = true) (i : Nat) :
    (s.conn.isNone || (s.workers i).stopped) = false := by
  rw [h.running i, Option.isNone_eq_false_iff.mpr hbound]
  rfl

theorem settled_withMessage {w : Worker} (h : w.Settled) (m : Message) (payload : Buf)
    (hroom : ¬ relayBatchCap ≤ (w.msgs ++ [m]).length) :
    Worker.Settled { Server.withMessage w m payload with timerActive := true } :=
  ⟨⟨(Server.aligned_withMessage h.toAligned m payload).payloads,
      (Server.aligned_withMessage h.toAligned m payload).outBufs⟩,
    Nat.lt_of_not_ge hroom, by simp [Server.withMessage]⟩

/-- A round of a running worker leaves it running, with a settled batch. -/
theorem Serving.workerStep (h : Serving s) (ev : WorkerEvent) :
    ((s.workerStep cfg i ev).1.workers i).stopped = false ∧
      ((s.workerStep cfg i ev).1.workers i).Settled := by
  have hsettled := h.settled i
  have hrunning := h.running i
  have hempty : ∀ stopped, stopped = false →
      (⟨[], [], [], false, stopped⟩ : Worker).stopped = false ∧
        (⟨[], [], [], false, stopped⟩ : Worker).Settled :=
    fun _ hstopped => ⟨hstopped, Worker.settled_empty _⟩
  cases ev with
  | job env o =>
    cases htaken : s.taken cfg i (.job env o) with
    | none =>
      rw [Server.workerStep_job_none htaken]
      exact ⟨hrunning, hsettled⟩
    | some p =>
      obtain ⟨job, outcome⟩ := p
      rw [Server.workerStep_job_worker htaken hsettled.toAligned]
      cases outcome with
      | written frame => exact ⟨hrunning, hsettled⟩
      | discarded => exact ⟨hrunning, hsettled⟩
      | panics => exact hempty _ h.done
      | batched m =>
        dsimp only
        split_ifs with hfull hpanics
        · exact hempty _ h.done
        · exact hempty _ hrunning
        · exact ⟨hrunning, settled_withMessage hsettled m job.payload.buf hfull⟩
  | timer o =>
    by_cases hoff : (s.conn.isNone || (s.workers i).stopped) = true
    · rw [Server.workerStep, if_pos hoff]
      exact ⟨hrunning, hsettled⟩
    · rw [Server.workerStep, if_neg hoff]
      dsimp only
      split_ifs
      · have hw := Server.workers_setWorker s i { s.workers i with timerActive := false }
        have hflush := Server.flush_worker (o := o) (i := i)
          (s := s.setWorker i { s.workers i with timerActive := false }) (by
            rw [hw]
            exact ⟨hsettled.payloads, hsettled.outBufs⟩)
        rw [hw] at hflush
        dsimp only
        rw [hflush]
        split_ifs
        · exact hempty _ h.done
        · exact hempty _ hrunning
      · exact ⟨hrunning, hsettled⟩
  | done o =>
    -- `done` is not closed
    have hidle : s.workerStep cfg i (.done o) = (s, []) := by
      simp [Server.workerStep, h.done]
    rw [hidle]
    exact ⟨hrunning, hsettled⟩

theorem Serving.next (h : Serving s) {e : RelayEvent} (hclose : e.isClose = false) :
    Serving (relayNext cfg s e) := by
  have hdone : (relayNext cfg s e).done = false := by
    rw [(relayNext_lifetime cfg s e).1, h.done, hclose]
    rfl
  rcases relayNext_queues cfg s e with ⟨now, i, ev, rfl⟩ | ⟨-, hworkers, -⟩
  · have hframe := (Server.workerStep_spec cfg s i ev).1
    have hworker : ∀ j, ((relayNext cfg s (.beacon ⟨now, .worker i ev⟩)).workers j).stopped =
        false ∧ ((relayNext cfg s (.beacon ⟨now, .worker i ev⟩)).workers j).Settled := by
      intro j
      by_cases hj : j = i
      · subst hj
        exact h.workerStep ev
      · rw [show (relayNext cfg s (.beacon ⟨now, .worker i ev⟩)).workers j = s.workers j from
          hframe.otherWorkers j hj]
        exact ⟨h.running j, h.settled j⟩
    exact ⟨hdone, fun j => (hworker j).1, fun j => (hworker j).2⟩
  · refine ⟨hdone, ?_, ?_⟩
    · rw [hworkers]
      exact h.running
    · rw [hworkers]
      exact h.settled

theorem serving_run (cfg : Config) (peers : List Text) {es : List RelayEvent}
    (hopen : ∀ e ∈ es, e.isClose = false) :
    Serving (Transition.run (relayNext cfg) (newWithPeers cfg peers) es) := by
  induction es using List.reverseRecOn with
  | nil => exact ⟨rfl, fun _ => rfl, fun _ => Worker.settled_empty false⟩
  | append_singleton es e ih =>
    rw [Transition.run_concat]
    exact (ih fun x hx => hopen x (List.mem_append_left _ hx)).next
      (hopen e (List.mem_append_right _ (List.mem_singleton_self e)))

/-! ## Batched messages carry frames -/

/-- Every batched message carries a frame. -/
def BatchesCarry (cfg : Config) (s : Server) : Prop :=
  ∀ i, ∀ m ∈ (s.workers i).msgs, ∃ a, Carries cfg (.udp m) a

theorem BatchesCarry.next (h : BatchesCarry cfg s) (e : RelayEvent) :
    BatchesCarry cfg (relayNext cfg s e) := by
  rcases relayNext_queues cfg s e with ⟨now, i, ev, rfl⟩ | ⟨-, hworkers, -⟩
  · obtain ⟨hframe, taken, added, -, hadd, hsub⟩ := Server.workerStep_spec cfg s i ev
    intro j m hm
    have hm : m ∈ ((s.workerStep cfg i ev).1.workers j).msgs := hm
    by_cases hj : j = i
    · subst hj
      rcases List.mem_append.mp (hsub.subset (List.mem_append_right _ hm)) with hold | hnew
      · exact h j m hold
      · -- an added message stands for one of the jobs taken
        obtain ⟨job, -, hbatched⟩ := Subsequence.exists_of_mem hadd hnew
        exact ⟨job.addressed, hbatched.1, hbatched.encodes⟩
    · rw [hframe.otherWorkers j hj] at hm
      exact h j m hm
  · intro j m hm
    rw [hworkers] at hm
    exact h j m hm

theorem batchesCarry_run (cfg : Config) (peers : List Text) (es : List RelayEvent) :
    BatchesCarry cfg (Transition.run (relayNext cfg) (newWithPeers cfg peers) es) :=
  Transition.run_invariant (relayNext cfg) (BatchesCarry cfg)
    (fun _ _ hm => absurd hm List.not_mem_nil) (fun _ e h => h.next e) es

/-- The frames of a batch. -/
theorem BatchesCarry.frames (h : BatchesCarry cfg s) (i : Nat) :
    ∃ held, List.Forall₂ (Carries cfg) ((s.workers i).msgs.map .udp) held := by
  have hcarry := h i
  generalize (s.workers i).msgs = msgs at hcarry
  induction msgs with
  | nil => exact ⟨[], .nil⟩
  | cons m msgs ih =>
    obtain ⟨a, ha⟩ := hcarry m List.mem_cons_self
    obtain ⟨held, hheld⟩ := ih fun m' hm' => hcarry m' (List.mem_cons_of_mem m hm')
    exact ⟨a :: held, .cons ha hheld⟩

/-! ## Between two moments -/

/-- The frames that were in the batch and those of the jobs taken since have left, were refused,
    have no destination, or are in the batch. -/
def FramesAccounted (cfg : Config) (i : Nat) (held₀ : List Addressed) (s₀ : Server)
    (es : List RelayEvent) (s : Server) : Prop :=
  ∃ forwarded lost held,
    List.Forall₂ (Carries cfg)
      (Transition.observe (relayNext cfg) (workerSends cfg i) s₀ es) forwarded ∧
    List.Forall₂ (Carries cfg)
      ((Transition.observe (relayNext cfg) (sendsRefused cfg i) s₀ es).map .udp) lost ∧
    List.Forall₂ (Carries cfg) ((s.workers i).msgs.map .udp) held ∧
    (held₀ : Multiset Addressed) +
        (Transition.observe (relayNext cfg) (jobsTaken cfg i) s₀ es).map RelayJob.addressed =
      forwarded + lost +
        (Transition.observe (relayNext cfg) (jobsNotFound cfg i) s₀ es).map RelayJob.addressed +
        held

/-- What worker `i` has done since it was in state `s₀`. -/
structure WorkedOff (cfg : Config) (i : Nat) (held₀ : List Addressed) (s₀ : Server)
    (es : List RelayEvent) (s : Server) : Prop where
  bound : s.conn.isSome = true
  serving : Serving s
  fit : s.BuffersFit
  served : Fifo.Served (s₀.relayChs i) (es.countP (isJobRound i))
    (Transition.observe (relayNext cfg) (jobsTaken cfg i) s₀ es) (s.relayChs i)
  frames : FramesAccounted cfg i held₀ s₀ es s

section

variable {held₀ : List Addressed} {s₀ : Server} {es : List RelayEvent} {now : Int}
  {ev : WorkerEvent}

theorem showOf_self {α : Type} (f : Server → WorkerEvent → List α) :
    showOf i f s (.beacon ⟨now, .worker i ev⟩) = f s ev :=
  if_pos rfl

/-- What leaves the queue is the job that is taken. -/
theorem jobsTaken_self (hexact : Server.ExactStep cfg s i ev) :
    jobsTaken cfg i s (.beacon ⟨now, .worker i ev⟩) =
      ((s.taken cfg i ev).map Prod.fst).toList := by
  rw [jobsTaken, showOf_self]
  have hqueue := hexact.queue
  generalize (s.workerStep cfg i ev).1.relayChs i = rest at hqueue
  rw [hqueue]
  simp

/-- **A round of the worker itself**: the queue. -/
theorem WorkedOff.round (h : WorkedOff cfg i held₀ s₀ es s)
    (hexact : Server.ExactStep cfg s i ev) :
    Fifo.Served (s₀.relayChs i)
        ((es ++ [RelayEvent.beacon ⟨now, .worker i ev⟩]).countP (isJobRound i))
        (Transition.observe (relayNext cfg) (jobsTaken cfg i) s₀ es ++
          ((s.taken cfg i ev).map Prod.fst).toList)
        ((s.workerStep cfg i ev).1.relayChs i) := by
  have hqueue := hexact.queue
  have hserved := h.served
  have hon := h.serving.on h.bound i
  rw [List.countP_append, List.countP_singleton]
  cases ev with
  | job env o =>
    -- the worker receives, so it takes a job unless there is none
    have hround : isJobRound i (.beacon ⟨now, .worker i (.job env o)⟩) = true := by
      simp [isJobRound, RelayEvent.worker?]
    rw [if_pos hround]
    cases hq : s.relayChs i with
    | nil =>
      have htaken : s.taken cfg i (.job env o) = none := by
        simp [Server.taken, hon, hq]
      have hrest : (s.workerStep cfg i (.job env o)).1.relayChs i = [] := by
        simpa [htaken, hq] using hqueue.symm
      rw [hq] at hserved
      rw [htaken, hrest]
      simpa using hserved.empty
    | cons job rest =>
      have htaken : s.taken cfg i (.job env o) =
          some (job, Server.jobOutcome cfg env s job) := by
        simp [Server.taken, hon, hq]
      have hrest : (s.workerStep cfg i (.job env o)).1.relayChs i = rest := by
        simpa [htaken, hq] using hqueue.symm
      rw [hq] at hserved
      rw [htaken, hrest]
      exact hserved.take
  | timer o =>
    have hqueue' : (s.workerStep cfg i (.timer o)).1.relayChs i = s.relayChs i := hqueue.symm
    rw [hqueue']
    simpa [isJobRound, RelayEvent.worker?, Server.taken] using hserved
  | done o =>
    have hqueue' : (s.workerStep cfg i (.done o)).1.relayChs i = s.relayChs i := hqueue.symm
    rw [hqueue']
    simpa [isJobRound, RelayEvent.worker?, Server.taken] using hserved

/-- **A round of the worker itself**: the frames. -/
theorem FramesAccounted.round (h : FramesAccounted cfg i held₀ s₀ es s)
    (hexact : Server.ExactStep cfg s i ev)
    (hpanic : ∀ job, s.taken cfg i ev ≠ some (job, .panics))
    (hs : Transition.run (relayNext cfg) s₀ es = s) :
    FramesAccounted cfg i held₀ s₀ (es ++ [.beacon ⟨now, .worker i ev⟩])
      (relayNext cfg s (.beacon ⟨now, .worker i ev⟩)) := by
  obtain ⟨forwarded, lost, held, hforwarded, hlost, hheld, hsum⟩ := h
  obtain ⟨written, batched, hwritten, hbatched, htaken⟩ := taken_carried cfg s i ev hpanic
  obtain ⟨sent, failed, rest, hsent, hfailed, hrest, hdivide⟩ := batch_division hexact (by
    rw [List.map_append]
    exact List.rel_append hheld hbatched)
  have hshows : ∀ {α : Type} (f : Server → RelayEvent → List α),
      Transition.observe (relayNext cfg) f s₀ (es ++ [.beacon ⟨now, .worker i ev⟩]) =
        Transition.observe (relayNext cfg) f s₀ es ++ f s (.beacon ⟨now, .worker i ev⟩) :=
    fun f => by rw [Transition.observe_concat, hs]
  refine ⟨forwarded ++ (written ++ sent), lost ++ failed, rest, ?_, ?_, hrest, ?_⟩
  · rw [hshows, workerSends, showOf_self, hexact.out]
    exact List.rel_append hforwarded (List.rel_append hwritten hsent)
  · rw [hshows, sendsRefused, showOf_self, List.map_append]
    exact List.rel_append hlost hfailed
  · rw [hshows, hshows, jobsTaken_self hexact, jobsNotFound, showOf_self]
    simp only [List.map_append, htaken, ← Multiset.coe_add] at hsum hdivide ⊢
    ext a
    have h₁ := congrArg (Multiset.count a) hsum
    have h₂ := congrArg (Multiset.count a) hdivide
    simp only [jobsNotFound, Multiset.count_add] at h₁ h₂ ⊢
    omega

/-- An event that is not a round of worker `i`. -/
theorem WorkedOff.other (h : WorkedOff cfg i held₀ s₀ es s)
    {e : RelayEvent} (hclose : e.isClose = false) (hother : ∀ ev, e.worker? ≠ some (i, ev))
    (hworker : (relayNext cfg s e).workers i = s.workers i)
    (hqueue : ∃ arrived, (relayNext cfg s e).relayChs i = s.relayChs i ++ arrived)
    (hs : Transition.run (relayNext cfg) s₀ es = s) :
    WorkedOff cfg i held₀ s₀ (es ++ [e]) (relayNext cfg s e) := by
  have hshow : ∀ {α : Type} (f : Server → WorkerEvent → List α), showOf i f s e = [] := by
    intro α f
    unfold showOf
    split
    · rename_i j ev hev
      rw [if_neg]
      rintro rfl
      exact hother ev hev
    · rfl
  have hsame : ∀ {α : Type} (f : Server → WorkerEvent → List α),
      Transition.observe (relayNext cfg) (showOf i f) s₀ (es ++ [e]) =
        Transition.observe (relayNext cfg) (showOf i f) s₀ es := fun f => by
    rw [Transition.observe_concat, hs, hshow, List.append_nil]
  have hround : isJobRound i e = false := by
    unfold isJobRound
    split
    · rename_i j env o hev
      rw [beq_eq_false_iff_ne]
      rintro rfl
      exact hother _ hev
    · rfl
  refine ⟨bound_relayNext h.bound e, h.serving.next hclose, buffersFit_next e h.fit,
    ?_, ?_⟩
  · obtain ⟨arrived, harrived⟩ := hqueue
    rw [jobsTaken, hsame, List.countP_append, List.countP_singleton, hround,
      if_neg Bool.false_ne_true, Nat.add_zero, harrived]
    exact h.served.arrive arrived
  · have hframes := h.frames
    unfold FramesAccounted workerSends sendsRefused jobsTaken jobsNotFound at hframes ⊢
    simp only [hsame, hworker]
    exact hframes

/-- **One event.** -/
theorem WorkedOff.next (h : WorkedOff cfg i held₀ s₀ es s)
    {e : RelayEvent} (hclose : e.isClose = false) (hflush : FlushesReported cfg s e)
    (hs : Transition.run (relayNext cfg) s₀ es = s) :
    WorkedOff cfg i held₀ s₀ (es ++ [e]) (relayNext cfg s e) := by
  cases hev : e.worker? with
  | some p =>
    obtain ⟨j, ev⟩ := p
    obtain ⟨now, rfl⟩ := RelayEvent.worker?_eq_some hev
    by_cases hj : j = i
    · subst hj
      have hpanic := Server.taken_ne_panics cfg h.fit j ev
      have hexact := Server.workerStep_exact (hflush (j, ev) rfl) hpanic
      refine ⟨bound_relayNext h.bound _, h.serving.next hclose,
        buffersFit_next _ h.fit, ?_, h.frames.round hexact hpanic hs⟩
      rw [Transition.observe_concat, hs, jobsTaken_self hexact]
      exact h.round hexact
    · have hframe := (Server.workerStep_spec cfg s j ev).1
      refine h.other hclose ?_ (hframe.otherWorkers i (Ne.symm hj)) ⟨[], ?_⟩ hs
      · intro ev' hev'
        exact hj (congrArg Prod.fst (Option.some_inj.mp hev'))
      · rw [List.append_nil]
        exact hframe.otherChs i (Ne.symm hj)
  | none =>
    rcases relayNext_queues cfg s e with ⟨now, j, ev, rfl⟩ | ⟨-, hworkers, hchs⟩
    · cases hev
    · refine h.other hclose (by simp [hev]) (congrFun hworkers i) ?_ hs
      rcases hchs with hsame | ⟨job, -, hjob⟩
      · exact ⟨[], by rw [hsame, List.append_nil]⟩
      · rw [hjob]
        by_cases hi : i = relayQueueFor cfg job.destID
        · subst hi
          exact ⟨[job], Function.update_self ..⟩
        · exact ⟨[], by rw [Function.update_of_ne hi, List.append_nil]⟩

end

/-- A firing of the timer empties the batch. -/
theorem batch_timer (hbound : s.conn.isSome = true) (h : Serving s) {o : FlushOutcome}
    (hexact : Server.ExactStep cfg s i (.timer o)) :
    ((s.workerStep cfg i (.timer o)).1.workers i).msgs = [] := by
  have hflushed : s.flushedBatch cfg i (.timer o) = (s.workers i).msgs := by
    rw [Server.flushedBatch, h.on hbound i, if_neg Bool.false_ne_true]
    split_ifs with hmark
    · rfl
    · -- an unmarked timer means an empty batch
      by_contra hne
      exact hmark ((h.settled i).marked.mpr (Ne.symm hne))
  have hbatch := hexact.batch
  rw [hflushed] at hbatch
  exact List.append_cancel_left hbatch.symm

end

/-- **Bounded waiting.** Take any moment, with the socket bound, of any run in which nobody calls
    `Close`, and any worker. However frames arrive, tables change and other workers go on from
    there, as long as each `WriteBatch` reports how many messages it sent: once the worker has
    received from its queue as often as the queue was long, it has taken every job that was in it,
    in order; and when its timer has fired after that, its batch is empty, and the frames that were
    in the batch and those of the jobs taken since are, each once, those carried by what the worker
    put out, those no send call accepted, and those without a destination. -/
theorem bounded_waiting (cfg : Config) (peers : List Text) (es₀ es : List RelayEvent)
    (hopen : ∀ e ∈ es₀ ++ es, e.isClose = false) (i : Nat) (now : Int) (o : FlushOutcome)
    (hbound : (Transition.run (relayNext cfg) (newWithPeers cfg peers) es₀).conn.isSome = true)
    (hflush : Transition.Along (relayNext cfg) (FlushesReported cfg)
      (Transition.run (relayNext cfg) (newWithPeers cfg peers) es₀)
      (es ++ [.beacon ⟨now, .worker i (.timer o)⟩]))
    (hrounds : ((Transition.run (relayNext cfg) (newWithPeers cfg peers) es₀).relayChs i).length ≤
      es.countP (isJobRound i)) :
    let s₀ := Transition.run (relayNext cfg) (newWithPeers cfg peers) es₀
    let es' := es ++ [.beacon ⟨now, .worker i (.timer o)⟩]
    s₀.relayChs i <+: Transition.observe (relayNext cfg) (jobsTaken cfg i) s₀ es ∧
      ((Transition.run (relayNext cfg) s₀ es').workers i).msgs = [] ∧
      ∃ held forwarded lost : List Addressed,
        List.Forall₂ (Carries cfg) ((s₀.workers i).msgs.map .udp) held ∧
        List.Forall₂ (Carries cfg)
          (Transition.observe (relayNext cfg) (workerSends cfg i) s₀ es') forwarded ∧
        List.Forall₂ (Carries cfg)
          ((Transition.observe (relayNext cfg) (sendsRefused cfg i) s₀ es').map .udp) lost ∧
        (held : Multiset Addressed) +
            (Transition.observe (relayNext cfg) (jobsTaken cfg i) s₀ es').map RelayJob.addressed =
          forwarded + lost + (Transition.observe (relayNext cfg) (jobsNotFound cfg i) s₀ es').map
            RelayJob.addressed := by
  intro s₀ es'
  have hserving : Serving s₀ :=
    serving_run cfg peers fun e he => hopen e (List.mem_append_left _ he)
  obtain ⟨held₀, hheld₀⟩ := (batchesCarry_run cfg peers es₀).frames i
  have hstart : WorkedOff cfg i held₀ s₀ [] s₀ :=
    ⟨hbound, hserving, buffersFit_run cfg peers es₀, Fifo.Served.start _,
      [], [], held₀, .nil, .nil, hheld₀, by simp⟩
  obtain ⟨hes, htimer, -⟩ := (Transition.along_append (relayNext cfg)).mp hflush
  have hrun := Transition.along_induction (relayNext cfg)
    (fun es s => (∀ e ∈ es, e.isClose = false) → Transition.run (relayNext cfg) s₀ es = s →
      WorkedOff cfg i held₀ s₀ es s) (fun _ _ => hstart) ?_ hes
    (fun e he => hopen e (List.mem_append_right _ he)) rfl
  · have hend := hrun.next (e := .beacon ⟨now, .worker i (.timer o)⟩) rfl htimer rfl
    obtain ⟨forwarded, lost, held, hforwarded, hlost, hheld, hsum⟩ := hend.frames
    have hempty : ((Transition.run (relayNext cfg) s₀ es').workers i).msgs = [] := by
      rw [Transition.run_concat]
      exact batch_timer hrun.bound hrun.serving (Server.workerStep_exact
        (htimer (i, .timer o) rfl) (Server.taken_ne_panics cfg hrun.fit i (.timer o)))
    -- nothing is left in the batch
    rw [← Transition.run_concat (relayNext cfg), hempty] at hheld
    rw [List.forall₂_nil_left_iff.mp hheld, Multiset.coe_nil, add_zero] at hsum
    exact ⟨hrun.served.all hrounds, hempty, held₀, forwarded, lost, hheld₀, hforwarded, hlost,
      hsum⟩
  · intro es e he ih hopen' hs
    exact (ih (fun x hx => hopen' x (List.mem_append_left _ hx)) rfl).next
      (hopen' e (List.mem_append_right _ (List.mem_singleton_self e))) he rfl

/-- A Relay datagram with one byte for node 9. -/
def relayToNine (payload : UInt8) : RelayEvent :=
  .beacon (sampleDatagram second (sampleAddr 10 0 0 7 4000)
    [0x05, 0, 0, 0, 7, 0, 0, 0, 9, payload])

/-- A round in which worker 1, which serves node 9, receives from its queue. -/
def jobRound : RelayEvent :=
  .beacon ⟨second, .worker 1 (.job ⟨false, false, 0⟩ ⟨0, fun _ => true⟩)⟩

/-- Node 9 is registered, and two frames for it are queued. -/
def twoWaiting : List RelayEvent :=
  [.beacon ⟨0, .listen (sampleAddr 0 0 0 0 9001)⟩,
    .beacon (sampleDatagram second (sampleAddr 10 0 0 9 4000) [0x01, 0, 0, 0, 9]),
    relayToNine 0xaa, relayToNine 0xbb]

/-- A third frame arrives while the two are taken. -/
theorem bounded_waiting_twoWaiting :
    let s₀ := Transition.run (relayNext sampleConfig) (newWithPeers sampleConfig []) twoWaiting
    let es := [jobRound, relayToNine 0xcc, jobRound]
    let es' := es ++ [.beacon ⟨second, .worker 1 (.timer ⟨1, fun _ => true⟩)⟩]
    (s₀.relayChs 1).length = 2 ∧
      (Transition.observe (relayNext sampleConfig) (workerSends sampleConfig 1) s₀ es').length
        = 2 ∧
      s₀.relayChs 1 <+: Transition.observe (relayNext sampleConfig) (jobsTaken sampleConfig 1)
        s₀ es ∧
      ((Transition.run (relayNext sampleConfig) s₀ es').workers 1).msgs = [] ∧
      ∃ held forwarded lost : List Addressed,
        List.Forall₂ (Carries sampleConfig) ((s₀.workers 1).msgs.map .udp) held ∧
        List.Forall₂ (Carries sampleConfig)
          (Transition.observe (relayNext sampleConfig) (workerSends sampleConfig 1) s₀ es')
          forwarded ∧
        List.Forall₂ (Carries sampleConfig)
          ((Transition.observe (relayNext sampleConfig) (sendsRefused sampleConfig 1) s₀
            es').map .udp) lost ∧
        (held : Multiset Addressed) +
            (Transition.observe (relayNext sampleConfig) (jobsTaken sampleConfig 1) s₀ es').map
              RelayJob.addressed =
          forwarded + lost +
            (Transition.observe (relayNext sampleConfig) (jobsNotFound sampleConfig 1) s₀
              es').map RelayJob.addressed :=
  ⟨by decide, by decide, bounded_waiting sampleConfig [] twoWaiting
    [jobRound, relayToNine 0xcc, jobRound] (by decide) 1 second ⟨1, fun _ => true⟩ (by decide)
    (by decide) (by decide)⟩

end PilotBeacon

import PilotBeacon.Lib.Tally
import PilotBeacon.Server.Buffers

/-!
# Relay Accounting

Every Relay frame that is long enough has exactly one fate. It is dropped, not found, refused
or oversize when it is dispatched; or it is queued, taken by a worker and then discarded or
batched; or it leaves, over WSS or with its batch, or no send accepts it.

- `Ledger`: the frames of a run by fate, and what the workers transmitted
- `Ledger.Balanced`: the received frames are those of all fates together, and the three
  counters count what they are said to count
- `relay_accounting`: the ledger of every run balances
-/

namespace PilotBeacon

open PilotBeacon.Lib PilotBeacon.Net

/-! ## Observations -/

/-- The transmission carries the frame to its node, or towards it. -/
def Carries (cfg : Config) : Sent → Addressed → Prop
  | .udp m, a => m.dest = a.1 ∧ Encodes cfg a.1 m a.2
  | .wss nodeID frame, a =>
    nodeID = a.1 ∧ frame = deliverHeader cfg a.2.senderID ++ a.2.payload

def RelayJob.addressed (job : RelayJob) : Addressed := (job.destID, job.frame)

/-- What becomes of the datagram an event is, if it is a Relay datagram. -/
def dispatchFate (cfg : Config) (s : Server) : RelayEvent → Option RelayFate
  | .beacon ⟨now, .packet env data remote bridgePeer⟩ =>
    match cfg.proto.decode data with
    | .relay body => some (s.dispatchRelay cfg env now body (relaySource remote bridgePeer)).2
    | _ => none
  | _ => none

/-- The frame an event hands to `dispatchRelay`, if it has one of the given fates. -/
def receivedAs (fates : List RelayFate) (cfg : Config) (s : Server) (e : RelayEvent) :
    List Addressed :=
  if (dispatchFate cfg s e).any (· ∈ fates) then received cfg e else []

/-- What a worker shows in a round; other events show nothing. -/
def workerShow {α : Type} (f : Server → Nat → WorkerEvent → List α) (s : Server) (e : RelayEvent) :
    List α :=
  match e.worker? with
  | some (i, ev) => f s i ev
  | none => []

/-- What an event makes the workers transmit over either transport. -/
def transmitted (cfg : Config) : Server → RelayEvent → List Sent :=
  workerShow fun s i ev => (s.workerStep cfg i ev).2

/-- The frames not found: by the pre-check, or when a worker takes them. -/
def notFoundFrames (cfg : Config) (s : Server) (e : RelayEvent) : List Addressed :=
  receivedAs [.notFound] cfg s e ++
    workerShow (fun s i ev => (s.stepDiscarded cfg i ev).map RelayJob.addressed) s e

/-- Every `WriteBatch` reports a number of first messages it sent. -/
def FlushesReported (cfg : Config) (s : Server) (e : RelayEvent) : Prop :=
  ∀ p ∈ e.worker?, Server.FlushReported p.2.flushOutcome s.sendDualStack
    (s.flushedBatch cfg p.1 p.2)

instance (cfg : Config) (s : Server) (e : RelayEvent) : Decidable (FlushesReported cfg s e) :=
  match h : e.worker? with
  | none => isTrue fun _ hp => by simp [h] at hp
  | some p =>
    decidable_of_iff (Server.FlushReported p.2.flushOutcome s.sendDualStack
      (s.flushedBatch cfg p.1 p.2)) (by simp [FlushesReported, h])

/-! ## The ledger -/

structure Ledger where
  received : List Addressed
  transmitted : List Sent
  dropped : List Addressed
  notFound : List Addressed
  limited : List Addressed
  oversize : List Addressed
  failed : List Message

/-- The entries of one event. -/
def stepLedger (cfg : Config) (s : Server) (e : RelayEvent) : Ledger where
  received := received cfg e
  transmitted := transmitted cfg s e
  dropped := receivedAs [.breaker, .queueFull] cfg s e
  notFound := notFoundFrames cfg s e
  limited := receivedAs [.limited] cfg s e
  oversize := receivedAs [.oversize] cfg s e
  failed := workerShow (Server.stepFlushFailed cfg) s e

/-- The entries of a run. -/
def ledger (cfg : Config) (s : Server) (es : List RelayEvent) : Ledger where
  received := es.flatMap (received cfg)
  transmitted := Transition.observe (relayNext cfg) (transmitted cfg) s es
  dropped := Transition.observe (relayNext cfg) (receivedAs [.breaker, .queueFull] cfg) s es
  notFound := Transition.observe (relayNext cfg) (notFoundFrames cfg) s es
  limited := Transition.observe (relayNext cfg) (receivedAs [.limited] cfg) s es
  oversize := Transition.observe (relayNext cfg) (receivedAs [.oversize] cfg) s es
  failed := Transition.observe (relayNext cfg) (workerShow (Server.stepFlushFailed cfg)) s es

def Ledger.append (L L' : Ledger) : Ledger where
  received := L.received ++ L'.received
  transmitted := L.transmitted ++ L'.transmitted
  dropped := L.dropped ++ L'.dropped
  notFound := L.notFound ++ L'.notFound
  limited := L.limited ++ L'.limited
  oversize := L.oversize ++ L'.oversize
  failed := L.failed ++ L'.failed

theorem ledger_concat (cfg : Config) (s : Server) (es : List RelayEvent) (e : RelayEvent) :
    ledger cfg s (es ++ [e]) =
      (ledger cfg s es).append (stepLedger cfg (Transition.run (relayNext cfg) s es) e) := by
  simp only [ledger, Ledger.append, stepLedger, Transition.observe_concat, List.flatMap_append,
    List.flatMap_singleton]

/-- Everything that is queued. -/
def queuedFrames (cfg : Config) (s : Server) : Multiset Addressed :=
  Tally.total cfg.relayWorkerCount fun i => (s.relayChs i).map RelayJob.addressed

/-- **The books balance.** Transmissions, failed sends and batched messages carry one frame
    each; these frames and those of the other fates are the received ones, each as often as it
    was received. -/
structure Ledger.Balanced (cfg : Config) (L : Ledger) (s : Server) : Prop where
  fates : ∃ (forwarded lost : List Addressed) (held : Nat → List Addressed),
    List.Forall₂ (Carries cfg) L.transmitted forwarded ∧
    List.Forall₂ (Carries cfg) (L.failed.map .udp) lost ∧
    (∀ i, List.Forall₂ (Carries cfg) ((s.workers i).msgs.map .udp) (held i)) ∧
    (L.received : Multiset Addressed) =
      forwarded + L.dropped + L.notFound + L.limited + L.oversize + lost + queuedFrames cfg s +
        Tally.total cfg.relayWorkerCount held
  forwarded : s.relayForwarded = L.transmitted.length
  dropped : s.relayDropped = L.dropped.length
  notFound : s.relayNotFound = L.notFound.length

/-- There are `relayWorkerCount` workers. -/
def Idle (cfg : Config) (s : Server) : Prop :=
  ∀ i, cfg.relayWorkerCount ≤ i → s.relayChs i = [] ∧ (s.workers i).msgs = []

/-! ## Worker steps -/

section

variable {cfg : Config} {s : Server} {i : Nat}

/-- The job taken is carried by what it is written or batched as, or discarded. -/
theorem taken_carried (cfg : Config) (s : Server) (i : Nat) (ev : WorkerEvent)
    (hpanic : ∀ job, s.taken cfg i ev ≠ some (job, .panics)) : ∃ written batched,
    List.Forall₂ (Carries cfg) (s.stepWritten cfg i ev) written ∧
      List.Forall₂ (Carries cfg) ((s.stepBatched cfg i ev).map .udp) batched ∧
      ((s.taken cfg i ev).map Prod.fst).toList.map RelayJob.addressed =
        written ++ batched ++ (s.stepDiscarded cfg i ev).map RelayJob.addressed := by
  unfold Server.stepWritten Server.stepBatched Server.stepDiscarded
  cases htaken : s.taken cfg i ev with
  | none => exact ⟨[], [], .nil, .nil, rfl⟩
  | some p =>
    obtain ⟨job, outcome⟩ := p
    obtain ⟨env, -, -, -, -, rfl⟩ := Server.taken_eq_some htaken
    cases hj : Server.jobOutcome cfg env s job with
    | written frame =>
      obtain ⟨-, -, -, rfl⟩ := Server.jobOutcome_written hj
      exact ⟨[job.addressed], [], .cons ⟨rfl, rfl⟩ .nil, .nil, rfl⟩
    | discarded => exact ⟨[], [], .nil, .nil, rfl⟩
    | batched m =>
      obtain ⟨-, hm, -⟩ := Server.jobOutcome_batched hj
      exact ⟨[], [job.addressed], .nil, .cons ⟨hm.1, hm.encodes⟩ .nil, rfl⟩
    | panics => exact absurd (by rw [htaken, hj]) (hpanic job)

/-- The flushed part of a batch is divided up, the rest stays. -/
theorem batch_division {ev : WorkerEvent} (h : Server.ExactStep cfg s i ev) {held : List Addressed}
    (hheld : List.Forall₂ (Carries cfg)
      (((s.workers i).msgs ++ s.stepBatched cfg i ev).map .udp) held) :
    ∃ sent lost rest, List.Forall₂ (Carries cfg) ((s.stepFlushSent cfg i ev).map .udp) sent ∧
      List.Forall₂ (Carries cfg) ((s.stepFlushFailed cfg i ev).map .udp) lost ∧
      List.Forall₂ (Carries cfg)
        (((s.workerStep cfg i ev).1.workers i).msgs.map .udp) rest ∧
      (held : Multiset Addressed) = sent + lost + rest := by
  rw [h.batch, List.map_append] at hheld
  obtain ⟨flushed, rest, hflushed, hrest, hperm⟩ := Tally.matched_split (List.Perm.refl _) hheld
  have hdivide := (Server.flushSent_append_flushFailed ev.flushOutcome s.sendDualStack
    (s.flushedBatch cfg i ev)).map Sent.udp
  rw [List.map_append] at hdivide
  obtain ⟨sent, lost, hsent, hlost, hperm'⟩ := Tally.matched_split hdivide hflushed
  refine ⟨sent, lost, rest, hsent, hlost, hrest, ?_⟩
  rw [Multiset.coe_add, Multiset.coe_add, Multiset.coe_eq_coe]
  exact ((hperm'.append_right rest).trans hperm).symm

theorem stepLedger_worker (cfg : Config) (s : Server) (now : Int) (i : Nat) (ev : WorkerEvent) :
    stepLedger cfg s (.beacon ⟨now, .worker i ev⟩) =
      { received := []
        transmitted := (s.workerStep cfg i ev).2
        dropped := []
        notFound := (s.stepDiscarded cfg i ev).map RelayJob.addressed
        limited := []
        oversize := []
        failed := s.stepFlushFailed cfg i ev } := rfl

/-- A worker beyond the last has nothing to do. -/
theorem idle_worker {ev : WorkerEvent} (hidle : Idle cfg s) (h : Server.ExactStep cfg s i ev) :
    Idle cfg (s.workerStep cfg i ev).1 := by
  have hframe := (Server.workerStep_spec cfg s i ev).1
  intro j hj
  by_cases hji : j = i
  · subst hji
    have hqueue := h.queue
    rw [(hidle j hj).1] at hqueue
    obtain ⟨htaken, hrest⟩ := List.append_eq_nil_iff.mp hqueue.symm
    rw [Option.toList_eq_nil_iff, Option.map_eq_none_iff] at htaken
    have hbatch := h.batch
    rw [(hidle j hj).2, Server.stepBatched, htaken] at hbatch
    exact ⟨hrest, (List.append_eq_nil_iff.mp hbatch.symm).2⟩
  · rw [hframe.otherChs j hji, hframe.otherWorkers j hji]
    exact hidle j hj

theorem queuedFrames_worker {ev : WorkerEvent} (hidle : Idle cfg s)
    (h : Server.ExactStep cfg s i ev) :
    queuedFrames cfg (s.workerStep cfg i ev).1 +
        ((s.taken cfg i ev).map Prod.fst).toList.map RelayJob.addressed = queuedFrames cfg s := by
  have hframe := (Server.workerStep_spec cfg s i ev).1
  have hchange := Tally.total_change (n := cfg.relayWorkerCount) (i := i)
    (f := fun j => (s.relayChs j).map RelayJob.addressed)
    (g := fun j => ((s.workerStep cfg i ev).1.relayChs j).map RelayJob.addressed)
    (by
      refine (lt_or_ge i cfg.relayWorkerCount).imp_right fun hi => ?_
      rw [(hidle i hi).1, (idle_worker hidle h i hi).1]
      exact ⟨rfl, rfl⟩)
    (fun j hj => by rw [hframe.otherChs j hj])
  rw [h.queue, List.map_append, ← Multiset.coe_add, ← add_assoc] at hchange
  exact add_right_cancel hchange

theorem total_held_worker {ev : WorkerEvent} (hidle : Idle cfg s)
    (h : Server.ExactStep cfg s i ev) {held : Nat → List Addressed} {rest : List Addressed}
    (hheld : List.Forall₂ (Carries cfg) ((s.workers i).msgs.map .udp) (held i))
    (hrest : List.Forall₂ (Carries cfg)
      (((s.workerStep cfg i ev).1.workers i).msgs.map .udp) rest) :
    Tally.total cfg.relayWorkerCount (Function.update held i rest) + held i =
      Tally.total cfg.relayWorkerCount held + rest := by
  have hchange := Tally.total_change (n := cfg.relayWorkerCount) (i := i) (f := held)
    (g := Function.update held i rest)
    (by
      refine (lt_or_ge i cfg.relayWorkerCount).imp_right fun hi => ?_
      -- an empty batch carries nothing
      rw [(hidle i hi).2] at hheld
      rw [(idle_worker hidle h i hi).2] at hrest
      rw [Function.update_self]
      exact ⟨List.forall₂_nil_left_iff.mp hheld, List.forall₂_nil_left_iff.mp hrest⟩)
    (fun j hj => Function.update_of_ne hj ..)
  rw [Function.update_self] at hchange
  exact hchange

theorem balanced_worker {L : Ledger} {now : Int} {ev : WorkerEvent}
    (hpanic : ∀ job, s.taken cfg i ev ≠ some (job, .panics)) (hidle : Idle cfg s)
    (hexact : Server.ExactStep cfg s i ev) (h : L.Balanced cfg s) :
    (L.append (stepLedger cfg s (.beacon ⟨now, .worker i ev⟩))).Balanced cfg
      (s.workerStep cfg i ev).1 := by
  have hframe := (Server.workerStep_spec cfg s i ev).1
  obtain ⟨⟨forwarded, lost, held, hforwarded, hlost, hheld, hsum⟩, hcount, hdropped, hnotFound⟩ := h
  obtain ⟨written, batched, hwritten, hbatched, htaken⟩ := taken_carried cfg s i ev hpanic
  have hbatch : List.Forall₂ (Carries cfg)
      (((s.workers i).msgs ++ s.stepBatched cfg i ev).map .udp) (held i ++ batched) := by
    rw [List.map_append]
    exact List.rel_append (hheld i) hbatched
  obtain ⟨sent, failed, rest, hsent, hfailed, hrest, hdivide⟩ := batch_division hexact hbatch
  have hqueued := queuedFrames_worker hidle hexact
  rw [htaken] at hqueued
  have hheld' := total_held_worker hidle hexact (hheld i) hrest
  rw [stepLedger_worker]
  refine ⟨⟨forwarded ++ (written ++ sent), lost ++ failed, Function.update held i rest, ?_, ?_, ?_,
    ?_⟩, ?_, ?_, ?_⟩
  · rw [hexact.out]
    exact List.rel_append hforwarded (List.rel_append hwritten hsent)
  · dsimp only [Ledger.append]
    rw [List.map_append]
    exact List.rel_append hlost hfailed
  · intro j
    by_cases hj : j = i
    · subst hj
      rw [Function.update_self]
      exact hrest
    · rw [Function.update_of_ne hj, hframe.otherWorkers j hj]
      exact hheld j
  · dsimp only [Ledger.append]
    simp only [List.append_nil, ← Multiset.coe_add] at hqueued hdivide ⊢
    ext a
    have h₁ := congrArg (Multiset.count a) hsum
    have h₂ := congrArg (Multiset.count a) hqueued
    have h₃ := congrArg (Multiset.count a) hheld'
    have h₄ := congrArg (Multiset.count a) hdivide
    simp only [Multiset.count_add] at h₁ h₂ h₃ h₄ ⊢
    omega
  · rw [hexact.forwarded, hcount]
    exact List.length_append.symm
  · rw [hframe.relayDropped, hdropped]
    exact (congrArg List.length (List.append_nil _)).symm
  · rw [hexact.notFound, hnotFound]
    dsimp only [Ledger.append]
    rw [List.length_append, List.length_map]

/-! ## Dispatches -/

theorem relayQueueFor_lt (cfg : Config) (destID : UInt32) :
    relayQueueFor cfg destID < cfg.relayWorkerCount :=
  Nat.mod_lt _ (lt_of_lt_of_le (by decide) cfg.workers_ok)

section

variable {now : Int} {env : Env} {data body : Bytes} {remote : UDPAddr} {bridgePeer : UInt32}

theorem receivedAs_dispatch (hdec : cfg.proto.decode data = .relay body)
    (fates : List RelayFate) :
    receivedAs fates cfg s (.beacon ⟨now, .packet env data remote bridgePeer⟩) =
      if (s.dispatchRelay cfg env now body (relaySource remote bridgePeer)).2 ∈ fates then
        received cfg (.beacon ⟨now, .packet env data remote bridgePeer⟩)
      else [] := by
  simp only [receivedAs, dispatchFate, hdec, Option.any_some, decide_eq_true_eq]

/-- A frame that is not short is received. -/
theorem received_dispatch (hdec : cfg.proto.decode data = .relay body) :
    received cfg (.beacon ⟨now, .packet env data remote bridgePeer⟩) =
      if (s.dispatchRelay cfg env now body (relaySource remote bridgePeer)).2 = .short then []
      else [(BigEndian.uint32 (body.drop 4), ⟨BigEndian.uint32 body, body.drop 8⟩)] := by
  have hshort := (Server.dispatchRelay_account cfg env now s body
    (relaySource remote bridgePeer)).short
  rw [received, Protocol.relayFrames_eq hdec]
  by_cases hlen : body.length < 8
  · rw [if_neg (by omega), if_pos (hshort.mpr hlen)]
  · rw [if_pos (by omega), if_neg (fun h => hlen (hshort.mp h))]

/-- Each received frame has one fate. -/
theorem received_by_fate (hdec : cfg.proto.decode data = .relay body) {e : RelayEvent}
    (he : e = .beacon ⟨now, .packet env data remote bridgePeer⟩) :
    (received cfg e : Multiset Addressed) =
      receivedAs [.breaker, .queueFull] cfg s e + receivedAs [.notFound] cfg s e +
        receivedAs [.limited] cfg s e + receivedAs [.oversize] cfg s e +
        receivedAs [.queued] cfg s e := by
  subst he
  simp only [receivedAs_dispatch hdec, received_dispatch (s := s) hdec]
  cases (s.dispatchRelay cfg env now body (relaySource remote bridgePeer)).2 <;> simp

theorem queuedFrames_dispatch (hdec : cfg.proto.decode data = .relay body) {e : RelayEvent}
    (he : e = .beacon ⟨now, .packet env data remote bridgePeer⟩) :
    queuedFrames cfg (s.dispatchRelay cfg env now body (relaySource remote bridgePeer)).1 =
      queuedFrames cfg s + receivedAs [.queued] cfg s e := by
  subst he
  have haccount := Server.dispatchRelay_account cfg env now s body (relaySource remote bridgePeer)
  rw [receivedAs_dispatch hdec, received_dispatch (s := s) hdec]
  by_cases hfate : (s.dispatchRelay cfg env now body (relaySource remote bridgePeer)).2 = .queued
  · obtain ⟨-, buf, hchs⟩ := haccount.queued hfate
    have hchange := Tally.total_change (n := cfg.relayWorkerCount)
      (i := relayQueueFor cfg (BigEndian.uint32 (body.drop 4)))
      (f := fun j => (s.relayChs j).map RelayJob.addressed)
      (g := fun j => ((s.dispatchRelay cfg env now body
        (relaySource remote bridgePeer)).1.relayChs j).map RelayJob.addressed)
      (Or.inl (relayQueueFor_lt cfg _))
      (fun j hj => by rw [hchs, Function.update_of_ne hj])
    rw [hchs, Function.update_self, List.map_append, ← Multiset.coe_add, add_left_comm,
      add_comm, ← hchs] at hchange
    rw [hfate]
    exact add_left_cancel hchange
  · rw [queuedFrames, haccount.other hfate]
    simp [hfate, queuedFrames]

theorem workers_dispatch (cfg : Config) (env : Env) (now : Int) (s : Server) (body : Bytes)
    (src : RelaySourceKey) :
    (s.dispatchRelay cfg env now body src).1.workers = s.workers ∧
      (s.dispatchRelay cfg env now body src).1.relayForwarded = s.relayForwarded := by
  obtain ⟨_, _, _, _, _, hframe, -⟩ := Server.dispatchRelay_frame cfg env now s body src
  rw [hframe]
  exact ⟨rfl, rfl⟩

theorem idle_dispatch (hidle : Idle cfg s) (env : Env) (now : Int) (body : Bytes)
    (src : RelaySourceKey) : Idle cfg (s.dispatchRelay cfg env now body src).1 := by
  have haccount := Server.dispatchRelay_account cfg env now s body src
  intro j hj
  rw [(workers_dispatch cfg env now s body src).1]
  refine ⟨?_, (hidle j hj).2⟩
  by_cases hfate : (s.dispatchRelay cfg env now body src).2 = .queued
  · obtain ⟨-, buf, hchs⟩ := haccount.queued hfate
    have hlt := relayQueueFor_lt cfg (BigEndian.uint32 (body.drop 4))
    rw [hchs, Function.update_of_ne (by omega)]
    exact (hidle j hj).1
  · rw [haccount.other hfate]
    exact (hidle j hj).1

theorem balanced_dispatch {L : Ledger} (hdec : cfg.proto.decode data = .relay body)
    (h : L.Balanced cfg s) :
    (L.append (stepLedger cfg s (.beacon ⟨now, .packet env data remote bridgePeer⟩))).Balanced
      cfg (s.dispatchRelay cfg env now body (relaySource remote bridgePeer)).1 := by
  have haccount := Server.dispatchRelay_account cfg env now s body (relaySource remote bridgePeer)
  obtain ⟨hworkers, hforward⟩ := workers_dispatch cfg env now s body (relaySource remote bridgePeer)
  obtain ⟨⟨forwarded, lost, held, hforwarded, hlost, hheld, hsum⟩, hcount, hdropped, hnotFound⟩ := h
  have hfates := received_by_fate (s := s) hdec (e := .beacon
    ⟨now, .packet env data remote bridgePeer⟩) rfl
  have hqueued := queuedFrames_dispatch (s := s) hdec (e := .beacon
    ⟨now, .packet env data remote bridgePeer⟩) rfl
  -- no worker, so nothing is transmitted or fails
  have htransmitted : (L.append (stepLedger cfg s (.beacon
    ⟨now, .packet env data remote bridgePeer⟩))).transmitted = L.transmitted := List.append_nil _
  have hfailed : (L.append (stepLedger cfg s (.beacon
    ⟨now, .packet env data remote bridgePeer⟩))).failed = L.failed := List.append_nil _
  refine ⟨⟨forwarded, lost, held, ?_, ?_, ?_, ?_⟩, ?_, ?_, ?_⟩
  · rw [htransmitted]
    exact hforwarded
  · rw [hfailed]
    exact hlost
  · rw [hworkers]
    exact hheld
  · dsimp only [Ledger.append, stepLedger, notFoundFrames, workerShow, RelayEvent.worker?]
    rw [List.append_nil, hqueued]
    simp only [← Multiset.coe_add]
    ext a
    have h₁ := congrArg (Multiset.count a) hsum
    have h₂ := congrArg (Multiset.count a) hfates
    simp only [Multiset.count_add] at h₁ h₂ ⊢
    omega
  · rw [hforward, hcount, htransmitted]
  · rw [haccount.dropped, hdropped]
    dsimp only [Ledger.append, stepLedger]
    rw [List.length_append, receivedAs_dispatch hdec, received_dispatch (s := s) hdec]
    cases (s.dispatchRelay cfg env now body (relaySource remote bridgePeer)).2 <;> simp
  · rw [haccount.notFound, hnotFound]
    dsimp only [Ledger.append, stepLedger, notFoundFrames, workerShow, RelayEvent.worker?]
    rw [List.append_nil, List.length_append, receivedAs_dispatch hdec,
      received_dispatch (s := s) hdec]
    cases (s.dispatchRelay cfg env now body (relaySource remote bridgePeer)).2 <;> simp

end

/-! ## Runs -/

/-- What carries the accounting along a run. -/
structure Accounted (cfg : Config) (L : Ledger) (s : Server) : Prop where
  fit : s.BuffersFit
  idle : Idle cfg s
  balanced : L.Balanced cfg s

/-- **One step.** -/
theorem Accounted.next {L : Ledger} {e : RelayEvent} (hflush : FlushesReported cfg s e)
    (h : Accounted cfg L s) :
    Accounted cfg (L.append (stepLedger cfg s e)) (relayNext cfg s e) := by
  have hfit : (relayNext cfg s e).BuffersFit := buffersFit_next e h.fit
  rcases relayNext_cases cfg s e with
    ⟨now, i, ev, rfl⟩ | ⟨now, env, data, remote, bridgePeer, body, rfl, hdec, hnext⟩ |
      ⟨hworker, hreceived, -, hsame⟩
  · have hpanic := Server.taken_ne_panics cfg h.fit i ev
    have hexact := Server.workerStep_exact (hflush (i, ev) rfl) hpanic
    exact ⟨hfit, idle_worker h.idle hexact, balanced_worker hpanic h.idle hexact h.balanced⟩
  · rw [hnext] at hfit ⊢
    exact ⟨hfit, idle_dispatch h.idle _ _ _ _, balanced_dispatch hdec h.balanced⟩
  · -- nothing to enter
    have hentry : L.append (stepLedger cfg s e) = L := by
      simp [Ledger.append, stepLedger, hreceived, transmitted, receivedAs, notFoundFrames,
        workerShow, hworker]
    rw [hentry]
    refine ⟨hfit, ?_, ?_, ?_, ?_, ?_⟩
    · rw [Idle, hsame.relayChs, hsame.workers]
      exact h.idle
    · rw [queuedFrames, hsame.relayChs, hsame.workers]
      exact h.balanced.fates
    · rw [hsame.relayForwarded]
      exact h.balanced.forwarded
    · rw [hsame.relayDropped]
      exact h.balanced.dropped
    · rw [hsame.relayNotFound]
      exact h.balanced.notFound

end

theorem accounted_new (cfg : Config) (peers : List Text) :
    Accounted cfg (ledger cfg (newWithPeers cfg peers) []) (newWithPeers cfg peers) where
  fit := buffersFit_run cfg peers []
  idle := fun _ _ => ⟨rfl, rfl⟩
  balanced := by
    refine ⟨⟨[], [], fun _ => [], .nil, .nil, fun _ => .nil, ?_⟩, rfl, rfl, rfl⟩
    simp [ledger, queuedFrames, newWithPeers, Tally.total]

/-- **Relay accounting.** Along every run of dispatches, worker steps and table changes in which
    each `WriteBatch` reports a number of first messages it sent, whatever WSS connections come
    and go, the frames received are those forwarded, dropped, not found, refused, oversize,
    not sent, queued and batched, and the counters count the transmissions, the drops and the
    frames not found. -/
theorem relay_accounting (cfg : Config) (peers : List Text) (es : List RelayEvent)
    (hflush : Transition.Along (relayNext cfg) (FlushesReported cfg) (newWithPeers cfg peers) es) :
    (ledger cfg (newWithPeers cfg peers) es).Balanced cfg
      (Transition.run (relayNext cfg) (newWithPeers cfg peers) es) := by
  have hrun := Transition.along_induction (relayNext cfg)
    (fun es s => Accounted cfg (ledger cfg (newWithPeers cfg peers) es) s)
    (accounted_new cfg peers) ?_ hflush
  · exact hrun.balanced
  · intro es e he ih
    rw [ledger_concat]
    exact ih.next he

/-- Five frames: one is batched and its send fails, one is written to a WSS connection that came
    up meanwhile, one has an unknown destination, one is batched and one queued. -/
def accountedEvents : List RelayEvent :=
  let relay (dest payload : UInt8) : Event :=
    sampleDatagram second (sampleAddr 10 0 0 7 4000) [0x05, 0, 0, 0, 7, 0, 0, 0, dest, payload]
  [⟨0, .listen (sampleAddr 0 0 0 0 9001)⟩,
    sampleDatagram second (sampleAddr 10 0 0 9 4000) [0x01, 0, 0, 0, 9],
    relay 9 0xaa,
    ⟨second, .worker 1 (.job ⟨false, false, 0⟩ ⟨0, fun _ => true⟩)⟩,
    relay 9 0xbb,
    ⟨second, .worker 1 (.job ⟨true, true, 0⟩ ⟨0, fun _ => true⟩)⟩,
    ⟨second, .worker 1 (.timer ⟨0, fun _ => false⟩)⟩,
    relay 5 0xcc,
    relay 9 0xdd,
    ⟨second, .worker 1 (.job ⟨false, false, 0⟩ ⟨0, fun _ => true⟩)⟩,
    relay 9 0xee].map .beacon

theorem relay_accounting_accountedEvents :
    let cfg := { sampleConfig with wssBridge := true }
    let s := Transition.run (relayNext cfg) (newWithPeers cfg []) accountedEvents
    Transition.Along (relayNext cfg) (FlushesReported cfg) (newWithPeers cfg [])
        accountedEvents ∧
      (ledger cfg (newWithPeers cfg []) accountedEvents).Balanced cfg s ∧
      s.relayForwarded = 1 ∧ s.relayDropped = 0 ∧ s.relayNotFound = 1 ∧
      (ledger cfg (newWithPeers cfg []) accountedEvents).failed.length = 1 ∧
      (s.workers 1).msgs.length = 1 ∧ (s.relayChs 1).length = 1 := by
  have hflush : Transition.Along (relayNext { sampleConfig with wssBridge := true })
      (FlushesReported { sampleConfig with wssBridge := true })
      (newWithPeers { sampleConfig with wssBridge := true } []) accountedEvents := by decide
  exact ⟨hflush, relay_accounting _ [] accountedEvents hflush, by decide⟩

end PilotBeacon

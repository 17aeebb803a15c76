import PilotBeacon.Lib.Subsequence
import PilotBeacon.Server.Beacon

/-!
# Order and Fidelity of the UDP Relay

Frames for one destination take one queue and one worker, whose batches are flushed in order.
The runs considered here are those of the beacon with, in addition, arbitrary changes of all
its tables at any point (`RelayEvent.setTables`), so routes may appear, move between tiers and
vanish between any two steps.

- `InFlight`: at any time, what was sent for a destination, what is batched for it and what is
  queued for it are, in this order, made from a subsequence of what was dispatched for it
- `relay_in_order`: the datagrams sent for a destination
-/

namespace PilotBeacon

open PilotBeacon.Lib PilotBeacon.Net
open List (SublistForall₂)

/-! ## Runs with arbitrary table changes -/

/-- Replace all tables. -/
def Server.withTables (s : Server) (t : Tables) : Server :=
  { s with
    nodes := t.nodes, dstNodes := t.dstNodes, nodePubKeys := t.nodePubKeys
    discoverRL := t.discoverRL, relayRL := t.relayRL, peers := t.peers
    peerNodes := t.peerNodes, gossipSeen := t.gossipSeen }

inductive RelayEvent where
  | beacon (e : Event)
  | setTables (t : Tables)

def relayNext (cfg : Config) (s : Server) : RelayEvent → Server
  | .beacon e => next cfg s e
  | .setTables t => s.withTables t

/-- The worker an event is a round of, and what it receives. -/
def RelayEvent.worker? : RelayEvent → Option (Nat × WorkerEvent)
  | .beacon ⟨_, .worker i ev⟩ => some (i, ev)
  | _ => none

theorem RelayEvent.worker?_eq_some {e : RelayEvent} {i : Nat} {ev : WorkerEvent}
    (h : e.worker? = some (i, ev)) : ∃ now, e = .beacon ⟨now, .worker i ev⟩ := by
  unfold RelayEvent.worker? at h
  split at h
  · rename_i now j ev'
    cases h
    exact ⟨now, rfl⟩
  · cases h

/-- A relay frame: the sender id in it and its payload. -/
structure Frame where
  senderID : UInt32
  payload : Bytes
deriving DecidableEq

/-- The frame for `d` that an event hands to `dispatchRelay`. -/
def dispatchedFor (cfg : Config) (d : UInt32) : RelayEvent → List Frame
  | .beacon ⟨_, .packet _ data _ _⟩ =>
    match cfg.proto.decode data with
    | .relay body =>
      if 8 ≤ body.length ∧ BigEndian.uint32 (body.drop 4) = d then
        [⟨BigEndian.uint32 body, body.drop 8⟩]
      else []
    | _ => []
  | _ => []

/-- The messages an event makes the workers send. -/
def relaySent (cfg : Config) (s : Server) : RelayEvent → List Message
  | .beacon ⟨_, .worker i ev⟩ => sentMessages (s.workerStep cfg i ev).2
  | _ => []

/-- The messages for `d` among those sent. -/
def relaySentFor (cfg : Config) (d : UInt32) (s : Server) (e : RelayEvent) : List Message :=
  (relaySent cfg s e).filter fun m => m.dest = d

/-- The datagram is `frame`, delivered to `d` or forwarded for it. -/
def Encodes (cfg : Config) (d : UInt32) (m : Message) (frame : Frame) : Prop :=
  m.buffer.data = deliverHeader cfg frame.senderID ++ frame.payload ∨
    m.buffer.data = deliverDestHeader cfg frame.senderID d ++ frame.payload ∨
    m.buffer.data = relayHeader cfg frame.senderID d ++ frame.payload

/-! ## Steps -/

section

variable {cfg : Config} {d : UInt32} {s : Server}

def RelayJob.frame (job : RelayJob) : Frame := ⟨job.senderID, job.payload.data⟩

/-- What a job is batched as encodes its frame. -/
theorem Server.BatchedAs.encodes {m : Message} {job : RelayJob} (h : Server.BatchedAs cfg s m job) :
    Encodes cfg job.destID m job.frame := by
  obtain ⟨-, header, hroute, hdata⟩ := h
  unfold Encodes RelayJob.frame
  cases hr : s.route job.destID with
  | localNode addr wantDest =>
    rw [hr] at hroute
    cases wantDest <;> simp only [Route.header, Option.some.injEq, Prod.mk.injEq] at hroute
    · exact Or.inl (by rw [hdata, hroute.2])
    · exact Or.inr (Or.inl (by rw [hdata, hroute.2]))
  | peer addr =>
    rw [hr] at hroute
    simp only [Route.header, Option.some.injEq, Prod.mk.injEq] at hroute
    exact Or.inr (Or.inr (by rw [hdata, hroute.2]))
  | unknown =>
    rw [hr] at hroute
    cases hroute

/-- A frame and the node it is for. -/
abbrev Addressed := UInt32 × Frame

/-- The frame `dispatchRelay` reads a datagram as, if it is a Relay datagram and long enough. -/
def Protocol.relayFrames (p : Protocol) (data : Bytes) : List Addressed :=
  match p.decode data with
  | .relay body =>
    if 8 ≤ body.length then
      [(BigEndian.uint32 (body.drop 4), ⟨BigEndian.uint32 body, body.drop 8⟩)]
    else []
  | _ => []

theorem Protocol.relayFrames_eq {p : Protocol} {data body : Bytes}
    (h : p.decode data = .relay body) : p.relayFrames data =
      if 8 ≤ body.length then
        [(BigEndian.uint32 (body.drop 4), ⟨BigEndian.uint32 body, body.drop 8⟩)]
      else [] := by
  rw [relayFrames, h]

/-- The frame an event hands to `dispatchRelay`. -/
def received (cfg : Config) : RelayEvent → List Addressed
  | .beacon ⟨_, .packet _ data _ _⟩ => cfg.proto.relayFrames data
  | _ => []

/-- The relay path of `s'` is that of `s`. -/
structure RelayUntouched (s s' : Server) : Prop where
  relayChs : s'.relayChs = s.relayChs
  workers : s'.workers = s.workers
  outBufPool : s'.outBufPool = s.outBufPool
  relayForwarded : s'.relayForwarded = s.relayForwarded
  relayDropped : s'.relayDropped = s.relayDropped
  relayNotFound : s'.relayNotFound = s.relayNotFound

/-- **Who works on the relay path**: the workers, and Relay datagrams. -/
theorem relayNext_cases (cfg : Config) (s : Server) (e : RelayEvent) :
    (∃ now i ev, e = .beacon ⟨now, .worker i ev⟩) ∨
    (∃ now env data remote bridgePeer body,
      e = .beacon ⟨now, .packet env data remote bridgePeer⟩ ∧
      cfg.proto.decode data = .relay body ∧
      relayNext cfg s e = (s.dispatchRelay cfg env now body (relaySource remote bridgePeer)).1) ∨
    (e.worker? = none ∧ received cfg e = [] ∧ relaySent cfg s e = [] ∧
      RelayUntouched s (relayNext cfg s e)) := by
  cases e with
  | setTables t => exact Or.inr (Or.inr ⟨rfl, rfl, rfl, ⟨rfl, rfl, rfl, rfl, rfl, rfl⟩⟩)
  | beacon e =>
    obtain ⟨now, act⟩ := e
    simp only [relayNext, next, step]
    cases act with
    | worker i ev => exact Or.inl ⟨now, i, ev, rfl⟩
    | packet env data remote bridgePeer =>
      right
      simp only [Server.handlePacketFrom, received, Protocol.relayFrames]
      cases hdec : cfg.proto.decode data with
      | relay body => exact Or.inl ⟨now, env, data, remote, bridgePeer, body, rfl, hdec, rfl⟩
      | discover body wantDest =>
        simp only [Server.handleDiscover_state]
        refine Or.inr ⟨rfl, trivial, rfl, ?_⟩
        cases Server.discoverAdmitted env body <;> exact ⟨rfl, rfl, rfl, rfl, rfl, rfl⟩
      | punchRequest body =>
        obtain ⟨_, _, h⟩ := Server.handlePunchRequest_state cfg env now s body remote
        simp only [h]
        exact Or.inr ⟨rfl, trivial, rfl, ⟨rfl, rfl, rfl, rfl, rfl, rfl⟩⟩
      | sync body =>
        simp only [Server.handleSync_eq]
        refine Or.inr ⟨rfl, trivial, rfl, ?_⟩
        cases Server.acceptedSync cfg s body remote <;> exact ⟨rfl, rfl, rfl, rfl, rfl, rfl⟩
      | other => exact Or.inr ⟨rfl, rfl, rfl, ⟨rfl, rfl, rfl, rfl, rfl, rfl⟩⟩
    | reap =>
      obtain ⟨_, _, _, _, h⟩ := Server.reapStaleNodes_frame s now
      simp only [h]
      exact Or.inr (Or.inr ⟨rfl, rfl, rfl, ⟨rfl, rfl, rfl, rfl, rfl, rfl⟩⟩)
    | notify nodeID =>
      obtain ⟨_, h, _⟩ := Server.notifyNode_frame s nodeID now
      simp only [h]
      exact Or.inr (Or.inr ⟨rfl, rfl, rfl, ⟨rfl, rfl, rfl, rfl, rfl, rfl⟩⟩)
    | registry x =>
      obtain ⟨_, h⟩ := Server.registryDiscover_frame cfg s x
      simp only [h]
      exact Or.inr (Or.inr ⟨rfl, rfl, rfl, ⟨rfl, rfl, rfl, rfl, rfl, rfl⟩⟩)
    | listen addr => exact Or.inr (Or.inr ⟨rfl, rfl, rfl, ⟨rfl, rfl, rfl, rfl, rfl, rfl⟩⟩)
    | gossip order => exact Or.inr (Or.inr ⟨rfl, rfl, rfl, ⟨rfl, rfl, rfl, rfl, rfl, rfl⟩⟩)
    | close => exact Or.inr (Or.inr ⟨rfl, rfl, rfl, ⟨rfl, rfl, rfl, rfl, rfl, rfl⟩⟩)

/-- Queues and batches change by dispatches and worker steps only. -/
theorem relayNext_queues (cfg : Config) (s : Server) (e : RelayEvent) :
    (∃ now i ev, e = .beacon ⟨now, .worker i ev⟩) ∨
    (relaySent cfg s e = [] ∧ (relayNext cfg s e).workers = s.workers ∧
      ((relayNext cfg s e).relayChs = s.relayChs ∨
        ∃ job, (∀ d, dispatchedFor cfg d e = if job.destID = d then [job.frame] else []) ∧
          (relayNext cfg s e).relayChs = Function.update s.relayChs
            (relayQueueFor cfg job.destID)
            (s.relayChs (relayQueueFor cfg job.destID) ++ [job]))) := by
  rcases relayNext_cases cfg s e with
    hworker | ⟨now, env, data, remote, bridgePeer, body, rfl, hdec, hnext⟩ | ⟨-, -, hsent, hsame⟩
  · exact Or.inl hworker
  · -- the one event that can put a job on a queue
    obtain ⟨_, _, _, _, _, h, hchs⟩ := Server.dispatchRelay_frame cfg env now s body
      (relaySource remote bridgePeer)
    rw [hnext, h]
    refine Or.inr ⟨rfl, rfl, hchs.imp_right ?_⟩
    rintro ⟨buf, hlen, hchs⟩
    refine ⟨⟨BigEndian.uint32 body, BigEndian.uint32 (body.drop 4), ⟨buf, body.drop 8⟩⟩, ?_, hchs⟩
    intro d
    simp only [dispatchedFor, hdec, hlen, true_and, RelayJob.frame]
  · exact Or.inr ⟨hsent, hsame.workers, Or.inl hsame.relayChs⟩

/-! ## What is under way for a destination -/

/-- The jobs of queue `i` for `d`. -/
def queuedFor (s : Server) (d : UInt32) (i : Nat) : List RelayJob :=
  (s.relayChs i).filter fun job => job.destID = d

/-- The batched messages of worker `i` for `d`. -/
def batchedFor (s : Server) (d : UInt32) (i : Nat) : List Message :=
  (s.workers i).msgs.filter fun m => m.dest = d

/-- `d` is served by its own queue and worker only. -/
def PlacedFor (cfg : Config) (d : UInt32) (s : Server) : Prop :=
  ∀ i, i ≠ relayQueueFor cfg d → queuedFor s d i = [] ∧ batchedFor s d i = []

/-- What was sent (`sent`), is batched and is queued for `d` is, in this order, made from a
    subsequence of what was dispatched for it. -/
def InFlight (cfg : Config) (d : UInt32) (s : Server) (sent : List Message)
    (dispatched : List Frame) : Prop :=
  ∃ early late, dispatched = early ++ late ∧
    SublistForall₂ (Encodes cfg d) (sent ++ batchedFor s d (relayQueueFor cfg d)) early ∧
    ((queuedFor s d (relayQueueFor cfg d)).map RelayJob.frame).Sublist late

/-- A step of worker `i`, seen from one destination: the jobs taken and the messages added
    are about it alone, and so is what is sent. -/
theorem workerStep_for (cfg : Config) (s : Server) (d : UInt32) (i : Nat) (ev : WorkerEvent) :
    ∃ taken added, queuedFor s d i = taken ++ queuedFor (s.workerStep cfg i ev).1 d i ∧
      SublistForall₂ (Encodes cfg d) added (taken.map RelayJob.frame) ∧
      ((sentMessages (s.workerStep cfg i ev).2).filter (fun m => m.dest = d) ++
        batchedFor (s.workerStep cfg i ev).1 d i).Sublist (batchedFor s d i ++ added) := by
  obtain ⟨-, taken, added, hq, hadd, hsub⟩ := Server.workerStep_spec cfg s i ev
  refine ⟨taken.filter fun job => job.destID = d, added.filter fun m => m.dest = d, ?_, ?_, ?_⟩
  · rw [queuedFor, hq, List.filter_append]
    rfl
  · -- what was made from the jobs taken, restricted to this destination on both sides
    have hflow := Subsequence.sublistForall₂_filter (fun m => decide (m.dest = d))
      (fun job => decide (job.destID = d)) (fun m job h => by rw [h.1]) hadd
    have hmem : ∀ job ∈ taken.filter (fun job => decide (job.destID = d)), job.destID = d :=
      fun job h => by simpa using (List.mem_filter.mp h).2
    apply Subsequence.sublistForall₂_map RelayJob.frame _ hflow
    intro m job hjob h
    rw [← hmem job hjob]
    exact h.encodes
  · have hfilter := hsub.filter fun m => decide (m.dest = d)
    rw [List.filter_append, List.filter_append] at hfilter
    exact hfilter

/-- A worker that does not serve `d` sends nothing for it and leaves its queue and batch. -/
theorem workerStep_other {i : Nat} {ev : WorkerEvent} (hplaced : PlacedFor cfg d s)
    (hi : i ≠ relayQueueFor cfg d) :
    (sentMessages (s.workerStep cfg i ev).2).filter (fun m => m.dest = d) = [] ∧
      queuedFor (s.workerStep cfg i ev).1 d i = [] ∧
      batchedFor (s.workerStep cfg i ev).1 d i = [] := by
  obtain ⟨taken, added, hq, hadd, hsub⟩ := workerStep_for cfg s d i ev
  rw [(hplaced i hi).1] at hq
  obtain ⟨rfl, hq'⟩ := List.append_eq_nil_iff.mp hq.symm
  -- no job taken for `d`, so no message added for it
  cases hadd
  rw [(hplaced i hi).2] at hsub
  obtain ⟨hsent, hbatch⟩ := List.append_eq_nil_iff.mp (List.sublist_nil.mp hsub)
  exact ⟨hsent, hq', hbatch⟩

theorem placedFor_worker {i : Nat} {ev : WorkerEvent} (hplaced : PlacedFor cfg d s) :
    PlacedFor cfg d (s.workerStep cfg i ev).1 := by
  intro j hj
  by_cases hji : j = i
  · subst hji
    exact (workerStep_other hplaced hj).2
  · have hframe := (Server.workerStep_spec cfg s i ev).1
    rw [queuedFor, batchedFor, hframe.otherChs j hji, hframe.otherWorkers j hji]
    exact hplaced j hj

/-- A worker step moves what is under way for `d` along. -/
theorem inFlight_worker {i : Nat} {ev : WorkerEvent} {sent : List Message}
    {dispatched : List Frame} (hplaced : PlacedFor cfg d s) (h : InFlight cfg d s sent dispatched) :
    InFlight cfg d (s.workerStep cfg i ev).1
      (sent ++ (sentMessages (s.workerStep cfg i ev).2).filter (fun m => m.dest = d))
      dispatched := by
  by_cases hi : i = relayQueueFor cfg d
  · subst hi
    obtain ⟨taken, added, hq, hadd, hsub⟩ := workerStep_for cfg s d (relayQueueFor cfg d) ev
    rw [InFlight, hq, List.map_append] at h
    exact Subsequence.Pipeline.move h hadd hsub
  · have hframe := (Server.workerStep_spec cfg s i ev).1
    rw [(workerStep_other hplaced hi).1, List.append_nil, InFlight, batchedFor, queuedFor,
      hframe.otherWorkers _ (Ne.symm hi), hframe.otherChs _ (Ne.symm hi)]
    exact h

/-- Appending a job to its queue keeps every destination in place. -/
theorem queuedFor_update (cfg : Config) (d : UInt32) (s : Server) (job : RelayJob)
    {chs : Nat → List RelayJob} {s' : Server}
    (hchs : chs = Function.update s.relayChs (relayQueueFor cfg job.destID)
      (s.relayChs (relayQueueFor cfg job.destID) ++ [job])) (hs' : s'.relayChs = chs) (i : Nat) :
    queuedFor s' d i = queuedFor s d i ++
      if i = relayQueueFor cfg job.destID ∧ job.destID = d then [job] else [] := by
  rw [queuedFor, hs', hchs, queuedFor]
  by_cases hi : i = relayQueueFor cfg job.destID
  · subst hi
    rw [Function.update_self, List.filter_append]
    by_cases hd : job.destID = d <;> simp [hd]
  · rw [Function.update_of_ne hi]
    simp [hi]

theorem placedFor_next (e : RelayEvent) (hplaced : PlacedFor cfg d s) :
    PlacedFor cfg d (relayNext cfg s e) := by
  rcases relayNext_queues cfg s e with ⟨now, i, ev, rfl⟩ | ⟨-, hworkers, hchs⟩
  · exact placedFor_worker hplaced
  · intro i hi
    rw [batchedFor, hworkers]
    refine ⟨?_, (hplaced i hi).2⟩
    rcases hchs with hchs | ⟨job, -, hchs⟩
    · rw [queuedFor, hchs]
      exact (hplaced i hi).1
    · -- the job went to the queue of its destination
      have hother : ¬ (i = relayQueueFor cfg job.destID ∧ job.destID = d) := by
        rintro ⟨rfl, rfl⟩
        exact hi rfl
      rw [queuedFor_update cfg d s job hchs rfl, if_neg hother, List.append_nil]
      exact (hplaced i hi).1

/-- **One step.** -/
theorem inFlight_step {sent : List Message} {dispatched : List Frame} (e : RelayEvent)
    (hplaced : PlacedFor cfg d s) (h : InFlight cfg d s sent dispatched) :
    InFlight cfg d (relayNext cfg s e) (sent ++ relaySentFor cfg d s e)
      (dispatched ++ dispatchedFor cfg d e) := by
  rcases relayNext_queues cfg s e with ⟨now, i, ev, rfl⟩ | ⟨hsent, hworkers, hchs⟩
  · have hdisp : dispatchedFor cfg d (.beacon ⟨now, .worker i ev⟩) = [] := rfl
    rw [hdisp, List.append_nil]
    exact inFlight_worker hplaced h
  · rw [relaySentFor, hsent, List.filter_nil, List.append_nil, InFlight, batchedFor, hworkers]
    rcases hchs with hchs | ⟨job, hdisp, hchs⟩
    · have hqueued : (queuedFor (relayNext cfg s e) d (relayQueueFor cfg d)).map RelayJob.frame =
          (queuedFor s d (relayQueueFor cfg d)).map RelayJob.frame ++ [] := by
        rw [queuedFor, hchs, List.append_nil]
        rfl
      rw [hqueued]
      exact Subsequence.Pipeline.offer h (List.nil_sublist _)
    · rw [queuedFor_update cfg d s job hchs rfl, List.map_append]
      apply Subsequence.Pipeline.offer h
      rw [hdisp]
      by_cases hd : job.destID = d
      · simp [hd]
      · simp [hd]

end

/-! ## Runs -/

/-- **Relay order and fidelity.** Whatever the interleaving of dispatches, worker steps and
    table changes, and whatever the sends return, the datagrams sent for `d` are, in order,
    encodings of a subsequence of the frames dispatched for `d`. -/
theorem relay_in_order (cfg : Config) (peers : List Text) (d : UInt32) (es : List RelayEvent) :
    ∃ frames, frames.Sublist (es.flatMap (dispatchedFor cfg d)) ∧
      List.Forall₂ (Encodes cfg d)
        (Transition.observe (relayNext cfg) (relaySentFor cfg d) (newWithPeers cfg peers) es)
        frames := by
  have hrun := Transition.run_induction (relayNext cfg) (s := newWithPeers cfg peers)
    (fun es s => PlacedFor cfg d s ∧ InFlight cfg d s
      (Transition.observe (relayNext cfg) (relaySentFor cfg d) (newWithPeers cfg peers) es)
      (es.flatMap (dispatchedFor cfg d)))
    ⟨fun _ _ => ⟨rfl, rfl⟩, Subsequence.pipeline_nil _⟩ ?_ es
  · obtain ⟨frames, hframes, hsub⟩ :=
      List.sublistForall₂_iff.mp (Subsequence.Pipeline.sent_in_order hrun.2)
    exact ⟨frames, hsub, hframes⟩
  · intro es e ih
    rw [Transition.observe_concat, List.flatMap_append, List.flatMap_singleton]
    exact ⟨placedFor_next e ih.1, inFlight_step e ih.1 ih.2⟩

/-- Two frames for node 9, the second one dispatched after the first was batched: the timer
    flush sends both, one by `WriteBatch` and one by the fallback. -/
example :
    (Transition.observe (relayNext sampleConfig) (relaySentFor sampleConfig 9)
      (newWithPeers sampleConfig [])
      ([⟨0, .listen (sampleAddr 0 0 0 0 9001)⟩,
        sampleDatagram second (sampleAddr 10 0 0 9 4000) [0x01, 0, 0, 0, 9],
        sampleDatagram second (sampleAddr 10 0 0 7 4000) [0x05, 0, 0, 0, 7, 0, 0, 0, 9, 0xaa],
        ⟨second, .worker 1 (.job ⟨false, false, 0⟩ ⟨0, fun _ => false⟩)⟩,
        sampleDatagram second (sampleAddr 10 0 0 7 4000) [0x05, 0, 0, 0, 7, 0, 0, 0, 9, 0xbb],
        ⟨second, .worker 1 (.job ⟨false, false, 0⟩ ⟨0, fun _ => false⟩)⟩,
        ⟨second, .worker 1 (.timer ⟨1, fun _ => true⟩)⟩].map .beacon)).map
      (fun m => (m.addr, m.buffer.data)) =
    [(sampleAddr 10 0 0 9 4000, [0x06, 0, 0, 0, 7, 0xaa]),
      (sampleAddr 10 0 0 9 4000, [0x06, 0, 0, 0, 7, 0xbb])] := by
  decide

end PilotBeacon

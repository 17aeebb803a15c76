import PilotBeacon.Server.Relay
import Mathlib.Data.List.Forall2

/-!
# Relay Workers (`relayWorkerLoop`)

Each worker drains one queue. A job goes to the destination's WSS connection, to its local
endpoint, to the peer beacon that announced it, or nowhere; UDP messages are collected in a
batch that is flushed when it is full, when the timer fires and at shutdown. A flush sends
the batch with one `WriteBatch` and what that left over message by message, or everything
message by message on a dual-stack socket.

An index or slice expression out of range unwinds the loop; the worker resumes with an empty
batch, unless the server is shutting down.
-/

namespace PilotBeacon

open PilotBeacon.Lib PilotBeacon.Net

/-! ## Environment -/

/-- The answers while a job is handled: `IsConnected` and `WriteFrame` for its destination,
    and which output buffer the pool hands out. -/
structure JobEnv where
  wssConnected : Bool
  wssWrite : Bool
  outPick : Nat

/-- The results of a flush: the count `WriteBatch` returns, and whether the `WriteToUDP` of
    each message of the batch succeeds if it is made. -/
structure FlushOutcome where
  n : Int
  writeOk : Nat → Bool

/-- What the `select` of a worker can receive. -/
inductive WorkerEvent where
  | job (env : JobEnv) (o : FlushOutcome)
  | timer (o : FlushOutcome)
  | done (o : FlushOutcome)

/-- What a worker sends. -/
inductive Sent where
  | udp (m : Message)
  | wss (nodeID : UInt32) (frame : Bytes)
deriving DecidableEq

/-- The UDP messages among what was sent. -/
def sentMessages (out : List Sent) : List Message :=
  out.filterMap fun
    | .udp m => some m
    | .wss _ _ => none

/-! ## Outgoing frames -/

/-- Where a destination is reached, and in which layout. -/
inductive Route where
  | localNode (addr : UDPAddr) (wantDest : Bool)
  | peer (addr : UDPAddr)
  | unknown
deriving DecidableEq

def deliverHeader (cfg : Config) (senderID : UInt32) : Bytes :=
  cfg.proto.beaconMsgRelayDeliver :: BigEndian.putUint32 senderID

def deliverDestHeader (cfg : Config) (senderID destID : UInt32) : Bytes :=
  cfg.proto.beaconMsgRelayDeliverDest ::
    (BigEndian.putUint32 senderID ++ BigEndian.putUint32 destID)

def relayHeader (cfg : Config) (senderID destID : UInt32) : Bytes :=
  cfg.proto.beaconMsgRelay :: (BigEndian.putUint32 senderID ++ BigEndian.putUint32 destID)

/-- The address and header a routed job is sent with. -/
def Route.header (cfg : Config) (job : RelayJob) : Route → Option (UDPAddr × Bytes)
  | .localNode addr true => some (addr, deliverDestHeader cfg job.senderID job.destID)
  | .localNode addr false => some (addr, deliverHeader cfg job.senderID)
  | .peer addr => some (addr, relayHeader cfg job.senderID job.destID)
  | .unknown => none

/-- `outBuf[:len(header)+len(payload)]`, filled; `none` if the buffer is too small. -/
def outSlice (buf : Buf) (header payload : Bytes) : Option Slice :=
  if (header ++ payload).length ≤ buf.cap then some ⟨buf, header ++ payload⟩ else none

/-- The messages from index `k` on whose own `WriteToUDP` succeeds. -/
def writeEach (writeOk : Nat → Bool) (k : Nat) (msgs : List Message) : List Message :=
  ((msgs.zipIdx.drop k).filter fun p => writeOk p.2).map Prod.fst

namespace Server

/-! ## Lookup tiers -/

/-- Tiers 1 to 3: local node, peer beacon, unknown. -/
def route (s : Server) (destID : UInt32) : Route :=
  match s.nodes.snapshot destID with
  | some addr => .localNode addr (s.dstNodes.lookup destID).isSome
  | none =>
    match s.peerNodes.lookup destID with
    | some addr => .peer addr
    | none => .unknown

/-- Tier 1 comes first. -/
theorem route_of_has {s : Server} {destID : UInt32} (h : s.nodes.has destID = true) :
    ∃ addr wantDest, s.route destID = .localNode addr wantDest := by
  obtain ⟨node, hnode⟩ := (NodeMap.has_iff _ _).mp h
  refine ⟨node.addr, (s.dstNodes.lookup destID).isSome, ?_⟩
  rw [route, NodeMap.snapshot, hnode]
  rfl

/-- Tier 2 is for nodes that are not registered here. -/
theorem route_eq_peer {s : Server} {destID : UInt32} {addr : UDPAddr} :
    s.route destID = .peer addr ↔
      s.nodes.has destID = false ∧ s.peerNodes.lookup destID = some addr := by
  unfold route NodeMap.snapshot NodeMap.has
  cases s.nodes.lookup destID with
  | some node => simp
  | none =>
    cases s.peerNodes.lookup destID with
    | none => simp
    | some a => simp

/-- `isWildcardIPv6` of the bound address. -/
def sendDualStack (s : Server) : Bool := s.conn.any fun a => a.ip.to4.isNone

def setWorker (s : Server) (i : Nat) (w : Worker) : Server :=
  { s with workers := Function.update s.workers i w }

@[simp] theorem workers_setWorker (s : Server) (i : Nat) (w : Worker) :
    (s.setWorker i w).workers i = w :=
  Function.update_self ..

/-! ## Flushing -/

/-- A panic in worker `i`: its batch is lost. -/
def workerPanic (s : Server) (i : Nat) : Server :=
  s.setWorker i { Worker.start with stopped := s.done }

/-- Count what was sent, return the buffers, empty the batch. -/
def finishFlush (s : Server) (i sent : Nat) : Server :=
  let w := s.workers i
  { s with
    relayForwarded := s.relayForwarded + sent
    pool := w.payloadsToReturn.foldl Pool.put s.pool
    outBufPool := w.outBufsToReturn.foldl Pool.put s.outBufPool
    workers := Function.update s.workers i
      { w with msgs := [], payloadsToReturn := [], outBufsToReturn := [] } }

/-- The state after a flush of worker `i`, and the messages sent. -/
def flush (o : FlushOutcome) (s : Server) (i : Nat) : Server × List Message :=
  let msgs := (s.workers i).msgs
  if msgs = [] then (s, [])
  -- `sendmmsg` refuses IPv4 destinations on a dual-stack socket
  else if s.sendDualStack then
    let sent := writeEach o.writeOk 0 msgs
    (s.finishFlush i sent.length, sent)
  -- the remainder loop starts at index `n`
  else if o.n < 0 then (s.workerPanic i, [])
  else
    let rest := writeEach o.writeOk o.n.toNat msgs
    (s.finishFlush i (o.n.toNat + rest.length), msgs.take o.n.toNat ++ rest)

/-! ## Jobs -/

/-- Append to the batch; flush it if that fills it, else see that the timer runs. -/
def addMessage (o : FlushOutcome) (s : Server) (i : Nat) (m : Message) (payload : Buf) :
    Server × List Message :=
  let w := s.workers i
  let w := { w with
    msgs := w.msgs ++ [m]
    payloadsToReturn := w.payloadsToReturn ++ [payload]
    outBufsToReturn := w.outBufsToReturn ++ [m.buffer.buf] }
  -- a full batch stops the timer and is flushed right away
  if relayBatchCap ≤ w.msgs.length then
    flush o (s.setWorker i { w with timerActive := false }) i
  else (s.setWorker i { w with timerActive := true }, [])

/-- Return both buffers of a job that is not batched. -/
def releaseJob (s : Server) (job : RelayJob) (obp : Buf) : Server :=
  { s with pool := s.pool.put job.payload.buf, outBufPool := s.outBufPool.put obp }

/-- Tier 0: write to the destination's WSS connection. -/
def sendWSS (cfg : Config) (env : JobEnv) (s : Server) (i : Nat) (job : RelayJob) (obp : Buf) :
    Server × List Sent :=
  match outSlice obp (deliverHeader cfg job.senderID) job.payload.data with
  | none => (s.workerPanic i, [])
  | some out =>
    -- a connection lost meanwhile: the frame counts as not found
    if env.wssWrite then
      (releaseJob { s with relayForwarded := s.relayForwarded + 1 } job obp,
        [.wss job.destID out.data])
    else (releaseJob { s with relayNotFound := s.relayNotFound + 1 } job obp, [])

/-- Tiers 1 to 3. -/
def sendUDP (cfg : Config) (o : FlushOutcome) (s : Server) (i : Nat) (job : RelayJob) (obp : Buf) :
    Server × List Sent :=
  match (s.route job.destID).header cfg job with
  | none => (releaseJob { s with relayNotFound := s.relayNotFound + 1 } job obp, [])
  | some (addr, header) =>
    match outSlice obp header job.payload.data with
    | none => (s.workerPanic i, [])
    | some out =>
      let (s, sent) := s.addMessage o i ⟨out, addr, job.destID⟩ job.payload.buf
      (s, sent.map .udp)

def handleJob (cfg : Config) (env : JobEnv) (o : FlushOutcome) (s : Server) (i : Nat)
    (job : RelayJob) : Server × List Sent :=
  let (obp, outBufPool) := s.outBufPool.get env.outPick (maxRelayPayload + 9)
  let s := { s with outBufPool := outBufPool }
  -- tier 0 comes before the node table
  if cfg.wssBridge && env.wssConnected then s.sendWSS cfg env i job obp
  else s.sendUDP cfg o i job obp

/-! ## The loop -/

/-- One round of the loop of worker `i`. Events that cannot occur do nothing: the workers
    start once the sockets are bound, the timer fires only while it is active, `done` is
    received only after `Close`. -/
def workerStep (cfg : Config) (s : Server) (i : Nat) (ev : WorkerEvent) : Server × List Sent :=
  if s.conn.isNone || (s.workers i).stopped then (s, [])
  else
    match ev with
    | .job env o =>
      match s.relayChs i with
      | [] => (s, [])
      | job :: rest =>
        handleJob cfg env o { s with relayChs := Function.update s.relayChs i rest } i job
    | .timer o =>
      if (s.workers i).timerActive then
        let (s, sent) := flush o (s.setWorker i { s.workers i with timerActive := false }) i
        (s, sent.map .udp)
      else (s, [])
    | .done o =>
      if s.done then
        let (s, sent) := flush o s i
        (s.setWorker i { s.workers i with stopped := true }, sent.map .udp)
      else (s, [])

/-! ## The usual way of a job -/

section

variable {s : Server} {i : Nat}

theorem workerStep_job (cfg : Config) (env : JobEnv) (o : FlushOutcome)
    (hconn : s.conn.isNone = false) (hrun : (s.workers i).stopped = false) {job : RelayJob}
    {rest : List RelayJob} (hqueue : s.relayChs i = job :: rest) :
    workerStep cfg s i (.job env o) =
      handleJob cfg env o { s with relayChs := Function.update s.relayChs i rest } i job := by
  rw [workerStep, hconn, hrun, if_neg (by simp), hqueue]

theorem workerStep_timer (cfg : Config) (o : FlushOutcome) (hconn : s.conn.isNone = false)
    (hrun : (s.workers i).stopped = false) (htimer : (s.workers i).timerActive = true) :
    workerStep cfg s i (.timer o) =
      ((flush o (s.setWorker i { s.workers i with timerActive := false }) i).1,
        (flush o (s.setWorker i { s.workers i with timerActive := false }) i).2.map .udp) := by
  rw [workerStep, hconn, hrun, if_neg (by simp), if_pos htimer]

/-- A routed job that fits its buffer joins the batch, if that does not fill it. -/
theorem handleJob_batched (cfg : Config) (env : JobEnv) (o : FlushOutcome) (s : Server) (i : Nat)
    (job : RelayJob) {addr : UDPAddr} {header : Bytes}
    (hwss : (cfg.wssBridge && env.wssConnected) = false)
    (hroute : (s.route job.destID).header cfg job = some (addr, header))
    (hfit : (header ++ job.payload.data).length ≤
      (s.outBufPool.get env.outPick (maxRelayPayload + 9)).1.cap)
    (hbatch : (s.workers i).msgs.length + 1 < relayBatchCap) :
    handleJob cfg env o s i job =
      ({ s with
          outBufPool := (s.outBufPool.get env.outPick (maxRelayPayload + 9)).2
          workers := Function.update s.workers i
            { s.workers i with
              msgs := (s.workers i).msgs ++
                [⟨⟨(s.outBufPool.get env.outPick (maxRelayPayload + 9)).1,
                  header ++ job.payload.data⟩, addr, job.destID⟩]
              payloadsToReturn := (s.workers i).payloadsToReturn ++ [job.payload.buf]
              outBufsToReturn := (s.workers i).outBufsToReturn ++
                [(s.outBufPool.get env.outPick (maxRelayPayload + 9)).1]
              timerActive := true } }, []) := by
  have hroute' : ∀ pool, (Server.route { s with outBufPool := pool } job.destID).header cfg job =
      some (addr, header) := fun _ => hroute
  unfold handleJob
  dsimp only
  rw [hwss, if_neg Bool.false_ne_true, sendUDP, hroute']
  dsimp only
  rw [outSlice, if_pos hfit]
  dsimp only
  rw [addMessage, if_neg]
  · rfl
  · dsimp only
    rw [List.length_append, List.length_singleton]
    omega

/-- A flush whose `WriteBatch` takes the whole batch sends it. -/
theorem flush_all (o : FlushOutcome) (hmsgs : (s.workers i).msgs ≠ [])
    (hdual : s.sendDualStack = false) (hn : o.n = (s.workers i).msgs.length) :
    flush o s i = (s.finishFlush i (s.workers i).msgs.length, (s.workers i).msgs) := by
  have hrest : writeEach o.writeOk (s.workers i).msgs.length (s.workers i).msgs = [] := by
    rw [writeEach, List.drop_of_length_le (by rw [List.length_zipIdx])]
    rfl
  unfold flush
  dsimp only
  rw [if_neg hmsgs, hdual, if_neg Bool.false_ne_true, if_neg (by omega), hn, Int.toNat_natCast,
    hrest, List.take_length, List.append_nil, List.length_nil, Nat.add_zero]

end

/-! ## What a worker step does -/

/-- `s'` is `s` up to the batch and queue of worker `i`, the buffer pools and the counters. -/
structure WorkerFrame (i : Nat) (s s' : Server) : Prop where
  conn : s'.conn = s.conn
  done : s'.done = s.done
  nodes : s'.nodes = s.nodes
  dstNodes : s'.dstNodes = s.dstNodes
  nodePubKeys : s'.nodePubKeys = s.nodePubKeys
  punchRL : s'.punchRL = s.punchRL
  lastPunchTime : s'.lastPunchTime = s.lastPunchTime
  relayRL : s'.relayRL = s.relayRL
  discoverRL : s'.discoverRL = s.discoverRL
  peers : s'.peers = s.peers
  peerNodes : s'.peerNodes = s.peerNodes
  gossipSeen : s'.gossipSeen = s.gossipSeen
  relayDropped : s'.relayDropped = s.relayDropped
  otherChs : ∀ j, j ≠ i → s'.relayChs j = s.relayChs j
  otherWorkers : ∀ j, j ≠ i → s'.workers j = s.workers j

theorem WorkerFrame.refl (i : Nat) (s : Server) : WorkerFrame i s s := by
  constructor <;> intros <;> rfl

theorem WorkerFrame.trans {i : Nat} {s₁ s₂ s₃ : Server} (h₁ : WorkerFrame i s₁ s₂)
    (h₂ : WorkerFrame i s₂ s₃) : WorkerFrame i s₁ s₃ where
  conn := h₂.conn.trans h₁.conn
  done := h₂.done.trans h₁.done
  nodes := h₂.nodes.trans h₁.nodes
  dstNodes := h₂.dstNodes.trans h₁.dstNodes
  nodePubKeys := h₂.nodePubKeys.trans h₁.nodePubKeys
  punchRL := h₂.punchRL.trans h₁.punchRL
  lastPunchTime := h₂.lastPunchTime.trans h₁.lastPunchTime
  relayRL := h₂.relayRL.trans h₁.relayRL
  discoverRL := h₂.discoverRL.trans h₁.discoverRL
  peers := h₂.peers.trans h₁.peers
  peerNodes := h₂.peerNodes.trans h₁.peerNodes
  gossipSeen := h₂.gossipSeen.trans h₁.gossipSeen
  relayDropped := h₂.relayDropped.trans h₁.relayDropped
  otherChs := fun j hj => (h₂.otherChs j hj).trans (h₁.otherChs j hj)
  otherWorkers := fun j hj => (h₂.otherWorkers j hj).trans (h₁.otherWorkers j hj)

section

variable {cfg : Config} {s : Server} {i : Nat}

theorem setWorker_frame (s : Server) (i : Nat) (w : Worker) :
    WorkerFrame i s (s.setWorker i w) := by
  constructor <;> intros <;> simp [setWorker, *]

theorem finishFlush_frame (s : Server) (i sent : Nat) :
    WorkerFrame i s (s.finishFlush i sent) := by
  constructor <;> intros <;> simp [finishFlush, *]

/-- `m` is what `job` is batched as in state `s`. -/
def BatchedAs (cfg : Config) (s : Server) (m : Message) (job : RelayJob) : Prop :=
  m.dest = job.destID ∧ ∃ header, (s.route job.destID).header cfg job = some (m.addr, header) ∧
    m.buffer.data = header ++ job.payload.data

theorem writeEach_sublist (writeOk : Nat → Bool) (k : Nat) (msgs : List Message) :
    (writeEach writeOk k msgs).Sublist (msgs.drop k) := by
  have hfst : (msgs.zipIdx.drop k).map Prod.fst = msgs.drop k := by
    rw [List.map_drop, List.zipIdx_map_fst]
  rw [writeEach, ← hfst]
  exact List.filter_sublist.map _

/-- A flush sends some of the batch, in order, and keeps nothing of what it sent. -/
theorem flush_spec (o : FlushOutcome) (s : Server) (i : Nat) :
    WorkerFrame i s (flush o s i).1 ∧ (flush o s i).1.relayChs = s.relayChs ∧
      ((flush o s i).2 ++ ((flush o s i).1.workers i).msgs).Sublist (s.workers i).msgs := by
  unfold flush
  dsimp only
  split_ifs with hempty hdual hneg
  · exact ⟨WorkerFrame.refl i s, rfl, by simp⟩
  · refine ⟨finishFlush_frame s i _, rfl, ?_⟩
    simpa [finishFlush] using writeEach_sublist o.writeOk 0 (s.workers i).msgs
  · exact ⟨setWorker_frame s i _, rfl, by simp [workerPanic, setWorker, Worker.start]⟩
  · refine ⟨finishFlush_frame s i _, rfl, ?_⟩
    have h := (writeEach_sublist o.writeOk o.n.toNat (s.workers i).msgs).append_left
      ((s.workers i).msgs.take o.n.toNat)
    rw [List.take_append_drop] at h
    simpa [finishFlush] using h

/-- Batching a message sends some of the batch so far and it, in order. -/
theorem addMessage_spec (o : FlushOutcome) (s : Server) (i : Nat) (m : Message) (payload : Buf) :
    WorkerFrame i s (addMessage o s i m payload).1 ∧
      (addMessage o s i m payload).1.relayChs = s.relayChs ∧
      ((addMessage o s i m payload).2 ++ ((addMessage o s i m payload).1.workers i).msgs).Sublist
        ((s.workers i).msgs ++ [m]) := by
  unfold addMessage
  dsimp only
  split_ifs with hfull
  · obtain ⟨hframe, hchs, hsub⟩ := flush_spec o (s.setWorker i
      { s.workers i with
        msgs := (s.workers i).msgs ++ [m]
        payloadsToReturn := (s.workers i).payloadsToReturn ++ [payload]
        outBufsToReturn := (s.workers i).outBufsToReturn ++ [m.buffer.buf]
        timerActive := false }) i
    refine ⟨(setWorker_frame s i _).trans hframe, hchs, ?_⟩
    simpa [setWorker] using hsub
  · exact ⟨setWorker_frame s i _, rfl, by simp [setWorker]⟩

theorem sentMessages_map_udp (msgs : List Message) : sentMessages (msgs.map .udp) = msgs := by
  simp [sentMessages, List.filterMap_map]

/-- What is left of a job: nothing, or one message for it. -/
theorem handleJob_spec (cfg : Config) (env : JobEnv) (o : FlushOutcome) (s : Server) (i : Nat)
    (job : RelayJob) :
    WorkerFrame i s (handleJob cfg env o s i job).1 ∧
      (handleJob cfg env o s i job).1.relayChs = s.relayChs ∧
      ∃ added, List.SublistForall₂ (BatchedAs cfg s) added [job] ∧
        (sentMessages (handleJob cfg env o s i job).2 ++
          ((handleJob cfg env o s i job).1.workers i).msgs).Sublist
          ((s.workers i).msgs ++ added) := by
  have hpool : ∀ (pool outBufPool : Pool) (forwarded notFound : Nat),
      WorkerFrame i s { s with pool := pool, outBufPool := outBufPool,
                               relayForwarded := forwarded, relayNotFound := notFound } := by
    intros; constructor <;> intros <;> rfl
  unfold handleJob
  dsimp only
  split_ifs with hwss
  · unfold sendWSS
    split
    · exact ⟨(hpool _ _ _ _).trans (setWorker_frame _ i _), rfl, [], .nil,
        by simp [sentMessages, workerPanic, setWorker, Worker.start]⟩
    · split_ifs
      · exact ⟨hpool _ _ _ _, rfl, [], .nil, by simp [sentMessages, releaseJob]⟩
      · exact ⟨hpool _ _ _ _, rfl, [], .nil, by simp [sentMessages, releaseJob]⟩
  · unfold sendUDP
    split
    · exact ⟨hpool _ _ _ _, rfl, [], .nil, by simp [sentMessages, releaseJob]⟩
    · rename_i addr header hroute
      split
      · exact ⟨(hpool _ _ _ _).trans (setWorker_frame _ i _), rfl, [], .nil,
          by simp [sentMessages, workerPanic, setWorker, Worker.start]⟩
      · rename_i out hout
        obtain ⟨hframe, hchs, hsub⟩ := addMessage_spec o
          { s with outBufPool := (s.outBufPool.get env.outPick (maxRelayPayload + 9)).2 } i
          ⟨out, addr, job.destID⟩ job.payload.buf
        have hbatched : BatchedAs cfg s ⟨out, addr, job.destID⟩ job := by
          refine ⟨rfl, header, hroute, ?_⟩
          unfold outSlice at hout
          split_ifs at hout
          cases hout
          rfl
        refine ⟨(hpool _ _ _ _).trans hframe, hchs, [⟨out, addr, job.destID⟩],
          .cons hbatched .nil, ?_⟩
        rw [sentMessages_map_udp]
        exact hsub

/-- **What a worker step does**: it takes at most one job off its queue (`taken`), adds at
    most one message for it to its batch (`added`), and of the batch sends some, in order,
    and keeps a later part. -/
theorem workerStep_spec (cfg : Config) (s : Server) (i : Nat) (ev : WorkerEvent) :
    WorkerFrame i s (workerStep cfg s i ev).1 ∧
      ∃ taken added, s.relayChs i = taken ++ (workerStep cfg s i ev).1.relayChs i ∧
        List.SublistForall₂ (BatchedAs cfg s) added taken ∧
        (sentMessages (workerStep cfg s i ev).2 ++
          ((workerStep cfg s i ev).1.workers i).msgs).Sublist
          ((s.workers i).msgs ++ added) := by
  -- nothing taken, nothing added, nothing sent
  have hidle : WorkerFrame i s s ∧ ∃ taken added, s.relayChs i = taken ++ s.relayChs i ∧
      List.SublistForall₂ (BatchedAs cfg s) added taken ∧
      (sentMessages [] ++ (s.workers i).msgs).Sublist ((s.workers i).msgs ++ added) :=
    ⟨WorkerFrame.refl i s, [], [], rfl, .nil, by simp [sentMessages]⟩
  unfold workerStep
  by_cases hoff : (s.conn.isNone || (s.workers i).stopped) = true
  · rw [if_pos hoff]
    exact hidle
  · rw [if_neg hoff]
    cases ev with
    | job env o =>
      dsimp only
      split
      · exact hidle
      · rename_i job rest hq
        have hdeq : WorkerFrame i s
            { s with relayChs := Function.update s.relayChs i rest } := by
          constructor <;> intros <;> simp [*]
        obtain ⟨hframe, hchs, added, hadd, hsub⟩ := handleJob_spec cfg env o
          { s with relayChs := Function.update s.relayChs i rest } i job
        refine ⟨hdeq.trans hframe, [job], added, ?_, hadd, hsub⟩
        rw [hchs, hq]
        simp
    | timer o =>
      dsimp only
      split_ifs
      · obtain ⟨hframe, hchs, hsub⟩ :=
          flush_spec o (s.setWorker i { s.workers i with timerActive := false }) i
        refine ⟨(setWorker_frame s i _).trans hframe, [], [], by rw [hchs]; rfl, .nil, ?_⟩
        rw [sentMessages_map_udp]
        simpa [setWorker] using hsub
      · exact hidle
    | done o =>
      dsimp only
      split_ifs
      · obtain ⟨hframe, hchs, hsub⟩ := flush_spec o s i
        refine ⟨hframe.trans (setWorker_frame _ i _), [], [], ?_, .nil, ?_⟩
        · exact (congrFun hchs i).symm
        · rw [sentMessages_map_udp]
          simpa [setWorker] using hsub
      · exact hidle

end

end Server

end PilotBeacon

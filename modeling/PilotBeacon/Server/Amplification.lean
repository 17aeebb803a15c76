import PilotBeacon.Server.RelayAccounting

/-!
# How Much the Beacon Answers

A spoofed datagram makes the beacon send to somebody else, so what matters is how much more it
sends than it receives. Over a whole run the three kinds of traffic are bounded each by its own
requests: a DiscoverReply by four times the Discover, the two PunchCommands by 40 bytes for a
request of at least 9 (81 with a grant), and a relayed frame by the frame itself. Relayed frames
leave later than they arrive, if at all, so there the queues and batches are the potential of an
amortized argument.

- `Server.loads`: the sizes of what waits in a worker's queue and batch
- `workerStep_loads`, `dispatch_loads`: what leaves was there, what arrives is added
- `amplification_bounded`: the three bounds
-/

namespace PilotBeacon

open PilotBeacon.Lib PilotBeacon.Net

/-! ## Traffic -/

namespace Inbound

def isDiscover : Inbound → Bool
  | .discover _ _ => true
  | _ => false

def isPunchRequest : Inbound → Bool
  | .punchRequest _ => true
  | _ => false

def isRelay : Inbound → Bool
  | .relay _ => true
  | _ => false

end Inbound

/-- The frame that arrives with an event, if it is of the kind `kind`. -/
def arrived (cfg : Config) (kind : Inbound → Bool) (e : Event) : List Bytes :=
  match e.act with
  | .packet _ data _ _ => if kind (cfg.proto.decode data) then [data] else []
  | _ => []

/-- What is sent while a frame of the kind `kind` is handled. -/
def answered (cfg : Config) (kind : Inbound → Bool) (s : Server) (e : Event) : List Bytes :=
  match e.act with
  | .packet env data remote bridgePeer =>
    if kind (cfg.proto.decode data) then
      (s.handlePacketFrom cfg env e.now data remote bridgePeer).2.map Datagram.data
    else []
  | _ => []

/-- The bytes a worker puts on either transport. -/
def Sent.bytes : Sent → Bytes
  | .udp m => m.buffer.data
  | .wss _ frame => frame

/-- What the workers transmit at an event. -/
def relayedBytes (cfg : Config) (s : Server) (e : Event) : List Bytes :=
  match e.act with
  | .worker i ev => (s.workerStep cfg i ev).2.map Sent.bytes
  | _ => []

/-- The length of the frames together. -/
def totalBytes (frames : List Bytes) : Nat := (frames.map List.length).sum

/-- The shortest PunchRequest that is answered. -/
def punchRequestSize (cfg : Config) : Nat :=
  if cfg.requirePunchToken then 9 + punchGrantTrailerSize else 9

/-! ## Replies -/

section

variable {cfg : Config} {s : Server}

theorem length_wire {ip : IP} {b : Bytes} (h : ip.wire = some b) : b.length ≤ 16 := by
  unfold IP.wire at h
  split at h
  · rename_i v hv
    cases h
    unfold IP.to4 at hv
    split_ifs at hv with h4 <;> cases hv
    · exact h4.le.trans (by decide)
    · rw [List.length_drop]
      omega
  · unfold IP.to16 at h
    split_ifs at h with h4 h16 <;> cases h
    · simp [IP.v4InV6Prefix, h4]
    · exact h16.le

/-- A message that carries an address has at most 20 bytes. -/
theorem length_addrMessage {msgType : UInt8} {addr : UDPAddr} {msg : Bytes}
    (h : addrMessage msgType addr = some msg) : msg.length ≤ 20 := by
  obtain ⟨b, hb, rfl⟩ := Option.map_eq_some_iff.mp h
  have hlen := length_wire hb
  simp only [List.length_cons, List.length_append, BigEndian.length_putUint16]
  omega

theorem totalBytes_writeToUDP (s : Server) (dst : UDPAddr) (data : Bytes) :
    totalBytes ((s.writeToUDP dst data).map Datagram.data) ≤ data.length := by
  unfold Server.writeToUDP
  split_ifs <;> simp [totalBytes]

theorem totalBytes_append (xs ys : List Bytes) :
    totalBytes (xs ++ ys) = totalBytes xs + totalBytes ys := by
  simp [totalBytes]

theorem totalBytes_discoverReply (cfg : Config) (s : Server) (remote : UDPAddr) :
    totalBytes ((s.discoverReply cfg remote).map Datagram.data) ≤ 20 := by
  unfold Server.discoverReply
  split
  · simp [totalBytes]
  · rename_i reply hreply
    exact (totalBytes_writeToUDP s remote reply).trans (length_addrMessage hreply)

theorem totalBytes_sendPunchCommand (cfg : Config) (s : Server) (nodeID : UInt32)
    (target : UDPAddr) :
    totalBytes ((s.sendPunchCommand cfg nodeID target).map Datagram.data) ≤ 20 := by
  unfold Server.sendPunchCommand
  split
  · rename_i nodeAddr msg _ hmsg
    exact (totalBytes_writeToUDP s nodeAddr msg).trans (length_addrMessage hmsg)
  · simp [totalBytes]

theorem totalBytes_coordinatePunch (cfg : Config) (now : Int) (s : Server)
    (requesterID targetID : UInt32) (remote : UDPAddr) :
    totalBytes ((s.coordinatePunch cfg now requesterID targetID remote).2.map Datagram.data) ≤
      40 := by
  unfold Server.coordinatePunch
  dsimp only
  split
  · rw [List.map_append, totalBytes_append]
    exact Nat.add_le_add (totalBytes_sendPunchCommand ..) (totalBytes_sendPunchCommand ..)
  · simp [totalBytes]

/-- **One Discover.** -/
theorem totalBytes_handleDiscover (cfg : Config) (env : Env) (now : Int) (s : Server) (body : Bytes)
    (remote : UDPAddr) (wantDest : Bool) :
    totalBytes ((s.handleDiscover cfg env now body remote wantDest).2.map Datagram.data) ≤
      4 * (body.length + 1) := by
  rw [Server.handleDiscover_reply]
  split_ifs with h
  · have hlen := (Server.discoverAdmitted_iff.mp h.1).1
    have hreply := totalBytes_discoverReply cfg s remote
    omega
  · simp [totalBytes]

/-- A PunchRequest that is admitted has its ids, and its grant if one is asked for. -/
theorem length_of_punchAdmitted {env : Env} {now : Int} {body : Bytes} {remote : UDPAddr}
    (h : Server.punchAdmitted cfg env now s body remote = true) :
    punchRequestSize cfg ≤ body.length + 1 := by
  simp only [Server.punchAdmitted, Bool.and_eq_true, Bool.not_eq_true', decide_eq_false_iff_not,
    Bool.or_eq_true] at h
  obtain ⟨⟨⟨hlen, -⟩, -⟩, hgrant⟩ := h
  unfold punchRequestSize
  split_ifs with hreq
  · -- the grant check fails on a short trailer
    have hverify := hgrant.resolve_left (by simp [hreq])
    unfold Server.verifyPunchGrant at hverify
    split_ifs at hverify with htrailer
    rw [List.length_drop] at htrailer
    omega
  · omega

/-- **One PunchRequest.** -/
theorem totalBytes_handlePunchRequest (cfg : Config) (env : Env) (now : Int) (s : Server)
    (body : Bytes) (remote : UDPAddr) :
    punchRequestSize cfg *
        totalBytes ((s.handlePunchRequest cfg env now body remote).2.map Datagram.data) ≤
      40 * (body.length + 1) := by
  obtain ⟨rl, last, ⟨-, h⟩ | ⟨hadm, h⟩⟩ := Server.handlePunchRequest_cases cfg env now s body remote
  · simp [h, totalBytes]
  · rw [h]
    calc _ ≤ punchRequestSize cfg * 40 :=
          Nat.mul_le_mul_left _ (totalBytes_coordinatePunch ..)
      _ ≤ (body.length + 1) * 40 := Nat.mul_le_mul_right _ (length_of_punchAdmitted hadm)
      _ = 40 * (body.length + 1) := Nat.mul_comm _ _

/-- The body is what follows the type byte. -/
theorem decode_length {data : Bytes} {body : Bytes}
    (h : (∃ wantDest, cfg.proto.decode data = .discover body wantDest) ∨
      cfg.proto.decode data = .punchRequest body ∨ cfg.proto.decode data = .relay body) :
    data.length = body.length + 1 := by
  cases data with
  | nil => simp [Protocol.decode] at h
  | cons msgType rest =>
    suffices rest = body by rw [this, List.length_cons]
    simp only [Protocol.decode] at h
    split_ifs at h <;> simp at h <;> exact h

/-! ## Relayed frames -/

variable {μ : Nat → Nat}

/-- The sizes, weighed by `μ`, of what waits in queue `i` and in the batch of worker `i`: of a
    queued job the size it arrived with. -/
def Server.loads (μ : Nat → Nat) (s : Server) (i : Nat) : List Nat :=
  (s.relayChs i).map (fun job => μ (job.payload.data.length + 9)) ++
    (s.workers i).msgs.map fun m => μ m.buffer.data.length

theorem loads_congr {s' : Server} {i : Nat} (hchs : s'.relayChs i = s.relayChs i)
    (hworkers : s'.workers i = s.workers i) : s'.loads μ i = s.loads μ i := by
  rw [Server.loads, hchs, hworkers, Server.loads]

/-- What a job is batched as is no longer than the frame it came in. -/
theorem length_batched (hμ : Monotone μ) {m : Message} {job : RelayJob}
    (h : Server.BatchedAs cfg s m job) :
    μ m.buffer.data.length ≤ μ (job.payload.data.length + 9) := by
  obtain ⟨-, header, hheader, hdata⟩ := h
  have hlen := Server.length_header hheader
  apply hμ
  rw [hdata, List.length_append]
  omega

/-- What a sublist of the batch weighs. -/
theorem sum_sublist {msgs msgs' : List Message} (h : msgs.Sublist msgs') :
    (msgs.map fun m => μ m.buffer.data.length).sum ≤
      (msgs'.map fun m => μ m.buffer.data.length).sum :=
  (h.map _).sum_le_sum fun _ _ => Nat.zero_le _

/-- **One job.** -/
theorem handleJob_loads (hμ : Monotone μ) (env : JobEnv) (o : FlushOutcome) (s : Server) (i : Nat)
    (job : RelayJob) :
    ((s.handleJob cfg env o i job).2.map fun x => μ x.bytes.length).sum +
        (((s.handleJob cfg env o i job).1.workers i).msgs.map
          fun m => μ m.buffer.data.length).sum ≤
      μ (job.payload.data.length + 9) +
        ((s.workers i).msgs.map fun m => μ m.buffer.data.length).sum := by
  rw [Server.handleJob_eq]
  cases hj : Server.jobOutcome cfg env s job with
  | written frame =>
    -- a frame for WSS has the short header
    obtain ⟨-, -, -, rfl⟩ := Server.jobOutcome_written hj
    have hlen : μ (deliverHeader cfg job.senderID ++ job.payload.data).length ≤
        μ (job.payload.data.length + 9) := by
      apply hμ
      simp only [deliverHeader, List.length_append, List.length_cons, BigEndian.length_putUint32]
      omega
    simpa [Server.releaseJob, Sent.bytes] using hlen
  | discarded => simp [Server.releaseJob]
  | batched m =>
    obtain ⟨-, hm, -⟩ := Server.jobOutcome_batched hj
    have hsub := sum_sublist (μ := μ) (Server.addMessage_spec o { s with
      outBufPool := (s.outBufPool.get env.outPick (maxRelayPayload + 9)).2 } i m
      job.payload.buf).2.2
    have hlen := length_batched hμ hm
    simp only [List.map_append, List.sum_append, List.map_cons, List.map_nil, List.sum_cons,
      List.sum_nil] at hsub
    simp only [List.map_map, Function.comp_def, Sent.bytes]
    omega
  | panics => simp [Server.workerPanic, Worker.start]

/-- A flush sends what was in the batch. -/
theorem flush_loads (o : FlushOutcome) (s : Server) (i : Nat) :
    (((Server.flush o s i).2.map Sent.udp).map fun x => μ x.bytes.length).sum +
        (((Server.flush o s i).1.workers i).msgs.map fun m => μ m.buffer.data.length).sum ≤
      ((s.workers i).msgs.map fun m => μ m.buffer.data.length).sum := by
  have hsub := sum_sublist (μ := μ) (Server.flush_spec o s i).2.2
  rw [List.map_append, List.sum_append] at hsub
  simpa only [List.map_map, Function.comp_def, Sent.bytes] using hsub

/-- **What a worker transmits was in its queue or batch.** -/
theorem workerStep_loads (hμ : Monotone μ) (s : Server) (i : Nat) (ev : WorkerEvent) :
    ((s.workerStep cfg i ev).2.map fun x => μ x.bytes.length).sum +
        ((s.workerStep cfg i ev).1.loads μ i).sum ≤ (s.loads μ i).sum := by
  unfold Server.loads
  simp only [List.sum_append]
  by_cases hoff : (s.conn.isNone || (s.workers i).stopped) = true
  · simp [Server.workerStep, hoff]
  · unfold Server.workerStep
    rw [if_neg hoff]
    cases ev with
    | job env o =>
      dsimp only
      cases hq : s.relayChs i with
      | nil => simp [hq]
      | cons job rest =>
        have hjob := @handleJob_loads cfg μ hμ env o
          { s with relayChs := Function.update s.relayChs i rest } i job
        have hchs := (Server.handleJob_spec cfg env o
          { s with relayChs := Function.update s.relayChs i rest } i job).2.1
        have hrest : (Server.handleJob cfg env o { s with
            relayChs := Function.update s.relayChs i rest } i job).1.relayChs i = rest := by
          rw [hchs]
          exact Function.update_self ..
        dsimp only at hjob ⊢
        rw [hrest, List.map_cons, List.sum_cons]
        omega
    | timer o =>
      dsimp only
      split_ifs
      · have hflush := flush_loads (μ := μ) o
          (s.setWorker i { s.workers i with timerActive := false }) i
        have hchs := (Server.flush_spec o
          (s.setWorker i { s.workers i with timerActive := false }) i).2.1
        rw [Server.workers_setWorker] at hflush
        dsimp only at hflush ⊢
        rw [hchs]
        exact (Nat.add_left_comm _ _ _).trans_le (Nat.add_le_add_left hflush _)
      · simp
    | done o =>
      dsimp only
      split_ifs
      · have hflush := flush_loads (μ := μ) o s i
        have hchs := (Server.flush_spec o s i).2.1
        dsimp only at hflush ⊢
        rw [Server.workers_setWorker]
        show _ + ((((Server.flush o s i).1.relayChs i).map _).sum + _) ≤ _
        rw [hchs]
        exact (Nat.add_left_comm _ _ _).trans_le (Nat.add_le_add_left hflush _)
      · simp

/-- Everything that waits. -/
def relayLoad (cfg : Config) (μ : Nat → Nat) (s : Server) : Nat :=
  (Tally.total cfg.relayWorkerCount (s.loads μ)).sum

/-- One worker's load changes, the others' do not. -/
theorem relayLoad_change {s' : Server} {i : Nat}
    (hi : i < cfg.relayWorkerCount ∨ s.loads μ i = [] ∧ s'.loads μ i = [])
    (h : ∀ j, j ≠ i → s'.loads μ j = s.loads μ j) :
    relayLoad cfg μ s' + (s.loads μ i).sum = relayLoad cfg μ s + (s'.loads μ i).sum := by
  have hchange := congrArg Multiset.sum (Tally.total_change hi h)
  simp only [Multiset.sum_add, Multiset.sum_coe] at hchange
  exact hchange

/-- Nobody puts anything into the queues beyond the last worker's. -/
theorem idle_workerStep (hidle : Idle cfg s) (i : Nat) (ev : WorkerEvent) :
    Idle cfg (s.workerStep cfg i ev).1 := by
  obtain ⟨hframe, taken, added, hqueue, hadded, hsub⟩ := Server.workerStep_spec cfg s i ev
  intro j hj
  by_cases hji : j = i
  · subst hji
    rw [(hidle j hj).1] at hqueue
    obtain ⟨htaken, hrest⟩ := List.append_eq_nil_iff.mp hqueue.symm
    subst htaken
    cases hadded
    rw [(hidle j hj).2] at hsub
    exact ⟨hrest, (List.append_eq_nil_iff.mp (List.sublist_nil.mp hsub)).2⟩
  · rw [hframe.otherChs j hji, hframe.otherWorkers j hji]
    exact hidle j hj

theorem loads_of_idle (hidle : Idle cfg s) {i : Nat} (hi : cfg.relayWorkerCount ≤ i) :
    s.loads μ i = [] := by
  rw [Server.loads, (hidle i hi).1, (hidle i hi).2]
  rfl

theorem relayLoad_worker (hμ : Monotone μ) (hidle : Idle cfg s) (i : Nat) (ev : WorkerEvent) :
    ((s.workerStep cfg i ev).2.map fun x => μ x.bytes.length).sum +
        relayLoad cfg μ (s.workerStep cfg i ev).1 ≤ relayLoad cfg μ s := by
  have hframe := (Server.workerStep_spec cfg s i ev).1
  have hstep := @workerStep_loads cfg μ hμ s i ev
  have hchange := @relayLoad_change cfg s μ (s.workerStep cfg i ev).1 i
    ((lt_or_ge i cfg.relayWorkerCount).imp_right fun hi =>
      ⟨loads_of_idle hidle hi, loads_of_idle (idle_workerStep hidle i ev) hi⟩)
    (fun j hj => loads_congr (hframe.otherChs j hj) (hframe.otherWorkers j hj))
  omega

/-- **What is queued is the frame that arrived.** -/
theorem relayLoad_dispatch (env : Env) (now : Int) (s : Server) (body : Bytes)
    (src : RelaySourceKey) :
    relayLoad cfg μ (s.dispatchRelay cfg env now body src).1 ≤
      μ (body.length + 1) + relayLoad cfg μ s := by
  have hworkers := (workers_dispatch cfg env now s body src).1
  obtain ⟨chs, _, _, _, _, hframe, hchs⟩ := Server.dispatchRelay_frame cfg env now s body src
  have hchs' : (s.dispatchRelay cfg env now body src).1.relayChs = chs := by rw [hframe]
  rcases hchs with rfl | ⟨buf, hlen, hupdate⟩
  · have hsame : (s.dispatchRelay cfg env now body src).1.loads μ = s.loads μ := by
      funext j
      exact loads_congr (by rw [hchs']) (by rw [hworkers])
    rw [relayLoad, hsame]
    exact Nat.le_add_left _ _
  · rw [hupdate] at hchs'
    have hchange := @relayLoad_change cfg s μ (s.dispatchRelay cfg env now body src).1 _
      (Or.inl (relayQueueFor_lt cfg (BigEndian.uint32 (body.drop 4))))
      (fun j hj => loads_congr (by rw [hchs', Function.update_of_ne hj]) (by rw [hworkers]))
    -- the new job is at the end of the queue
    have hload : ((s.dispatchRelay cfg env now body src).1.loads μ
        (relayQueueFor cfg (BigEndian.uint32 (body.drop 4)))).sum =
        (s.loads μ (relayQueueFor cfg (BigEndian.uint32 (body.drop 4)))).sum +
          μ (body.length + 1) := by
      unfold Server.loads
      rw [hchs', hworkers, Function.update_self]
      simp only [List.map_append, List.sum_append, List.map_cons, List.map_nil, List.sum_cons,
        List.sum_nil, List.length_drop, show body.length - 8 + 9 = body.length + 1 by omega]
      omega
    omega

/-- **One event**: what it transmits and what waits afterwards is covered by the Relay frame that
    arrives with it and what waited before. -/
theorem relayLoad_next (hμ : Monotone μ) (hidle : Idle cfg s) (e : Event) :
    ((relayedBytes cfg s e).map fun b => μ b.length).sum + relayLoad cfg μ (next cfg s e) ≤
      ((arrived cfg Inbound.isRelay e).map fun b => μ b.length).sum + relayLoad cfg μ s := by
  obtain ⟨now, act⟩ := e
  rcases relayNext_cases cfg s (.beacon ⟨now, act⟩) with
    ⟨_, i, ev, he⟩ | ⟨_, env, data, remote, bridgePeer, body, he, hdec, hnext⟩ |
      ⟨hworker, -, -, hsame⟩
  · cases he
    have hload := relayLoad_worker hμ hidle i ev
    simpa [relayedBytes, arrived, next, step, List.map_map, Function.comp_def] using hload
  · cases he
    have hload := @relayLoad_dispatch cfg μ env now s body
      (relaySource remote bridgePeer)
    have harrived : arrived cfg Inbound.isRelay ⟨now, .packet env data remote bridgePeer⟩ =
        [data] := by
      simp [arrived, hdec, Inbound.isRelay]
    have hlen := decode_length (Or.inr (Or.inr hdec))
    rw [harrived, show next cfg s ⟨now, .packet env data remote bridgePeer⟩ = _ from hnext]
    simpa [relayedBytes, hlen] using hload
  · have hload : relayLoad cfg μ (next cfg s ⟨now, act⟩) = relayLoad cfg μ s := by
      have hloads : (next cfg s ⟨now, act⟩).loads μ = s.loads μ := by
        funext j
        exact loads_congr (congrFun hsame.relayChs j) (congrFun hsame.workers j)
      rw [relayLoad, hloads, relayLoad]
    have hnone : relayedBytes cfg s ⟨now, act⟩ = [] := by
      cases act <;> first | rfl | cases hworker
    rw [hload, hnone]
    exact Nat.add_le_add_right (Nat.zero_le _) _

theorem idle_next (hidle : Idle cfg s) (e : Event) : Idle cfg (next cfg s e) := by
  rcases relayNext_cases cfg s (.beacon e) with
    ⟨now, i, ev, he⟩ | ⟨now, env, data, remote, bridgePeer, body, -, -, hnext⟩ | ⟨-, -, -, hsame⟩
  · cases he
    exact idle_workerStep hidle i ev
  · rw [show next cfg s e = _ from hnext]
    exact idle_dispatch hidle _ _ _ _
  · intro j hj
    rw [show (next cfg s e).relayChs = _ from hsame.relayChs,
      show (next cfg s e).workers = _ from hsame.workers]
    exact hidle j hj

end

/-! ## Runs -/

/-- A bound that holds for every event holds for a run. -/
theorem totalBytes_run {cfg : Config} {kind : Inbound → Bool} {a b : Nat}
    (h : ∀ s e, a * totalBytes (answered cfg kind s e) ≤ b * totalBytes (arrived cfg kind e))
    (s : Server) (es : List Event) :
    a * totalBytes (Transition.observe (next cfg) (answered cfg kind) s es) ≤
      b * totalBytes (es.flatMap (arrived cfg kind)) := by
  induction es generalizing s with
  | nil => simp [totalBytes]
  | cons e es ih =>
    simp only [Transition.observe_cons, List.flatMap_cons, totalBytes_append, Nat.mul_add]
    exact Nat.add_le_add (h s e) (ih (next cfg s e))

theorem answered_discover {cfg : Config} (s : Server) (e : Event) :
    totalBytes (answered cfg Inbound.isDiscover s e) ≤
      4 * totalBytes (arrived cfg Inbound.isDiscover e) := by
  unfold answered arrived
  cases e.act with
  | packet env data remote bridgePeer =>
    simp only [Server.handlePacketFrom]
    cases hdec : cfg.proto.decode data with
    | discover body wantDest =>
      have hone := totalBytes_handleDiscover cfg env e.now s body remote wantDest
      rw [← decode_length (Or.inl ⟨wantDest, hdec⟩)] at hone
      simpa [Inbound.isDiscover, totalBytes] using hone
    | _ => simp [Inbound.isDiscover, totalBytes]
  | _ => simp [totalBytes]

theorem answered_punchRequest {cfg : Config} (s : Server) (e : Event) :
    punchRequestSize cfg * totalBytes (answered cfg Inbound.isPunchRequest s e) ≤
      40 * totalBytes (arrived cfg Inbound.isPunchRequest e) := by
  unfold answered arrived
  cases e.act with
  | packet env data remote bridgePeer =>
    simp only [Server.handlePacketFrom]
    cases hdec : cfg.proto.decode data with
    | punchRequest body =>
      have hone := totalBytes_handlePunchRequest cfg env e.now s body remote
      rw [← decode_length (Or.inr (Or.inl hdec))] at hone
      simpa [Inbound.isPunchRequest, totalBytes] using hone
    | _ => simp [Inbound.isPunchRequest, totalBytes]
  | _ => simp [totalBytes]

theorem answered_other {cfg : Config} (s : Server) (e : Event) :
    answered cfg (fun x => !x.isDiscover && !x.isPunchRequest) s e = [] := by
  unfold answered
  cases e.act with
  | packet env data remote bridgePeer =>
    simp only [Server.handlePacketFrom]
    cases cfg.proto.decode data <;> simp [Inbound.isDiscover, Inbound.isPunchRequest]
  | _ => rfl

theorem idle_new (cfg : Config) (peers : List Text) : Idle cfg (newWithPeers cfg peers) :=
  fun _ _ => ⟨rfl, rfl⟩

theorem relayLoad_new (cfg : Config) (μ : Nat → Nat) (peers : List Text) :
    relayLoad cfg μ (newWithPeers cfg peers) = 0 := by
  have hnone : Tally.total cfg.relayWorkerCount ((newWithPeers cfg peers).loads μ) = 0 :=
    Tally.total_eq_zero fun _ _ => rfl
  rw [relayLoad, hnone, Multiset.sum_zero]

/-- **Bounded amplification.** Over every run, whatever arrives from wherever, the DiscoverReplies
    sent are at most four times as long as the Discovers, 40 bytes of PunchCommands need a request
    of `punchRequestSize`, no other frame is answered, and what the workers transmit over both
    transports is no more and no longer, in any measure, than the Relay frames that arrived. -/
theorem amplification_bounded (cfg : Config) (peers : List Text) (es : List Event) :
    totalBytes (Transition.observe (next cfg) (answered cfg Inbound.isDiscover)
        (newWithPeers cfg peers) es) ≤
      4 * totalBytes (es.flatMap (arrived cfg Inbound.isDiscover)) ∧
    punchRequestSize cfg * totalBytes (Transition.observe (next cfg)
        (answered cfg Inbound.isPunchRequest) (newWithPeers cfg peers) es) ≤
      40 * totalBytes (es.flatMap (arrived cfg Inbound.isPunchRequest)) ∧
    Transition.observe (next cfg)
      (answered cfg fun x => !x.isDiscover && !x.isPunchRequest) (newWithPeers cfg peers) es = [] ∧
    ∀ μ : Nat → Nat, Monotone μ →
      ((Transition.observe (next cfg) (relayedBytes cfg) (newWithPeers cfg peers) es).map
        fun b => μ b.length).sum ≤
      ((es.flatMap (arrived cfg Inbound.isRelay)).map fun b => μ b.length).sum := by
  refine ⟨?_, totalBytes_run answered_punchRequest _ es, ?_, ?_⟩
  · simpa only [Nat.one_mul] using totalBytes_run (a := 1) (b := 4)
      (fun s e => by simpa only [Nat.one_mul] using answered_discover s e) _ es
  · apply List.eq_nil_iff_forall_not_mem.mpr
    intro b hb
    obtain ⟨pre, e, post, -, hb⟩ := (Transition.mem_observe _ _ _ _ _).mp hb
    rw [answered_other] at hb
    exact absurd hb List.not_mem_nil
  · intro μ hμ
    have hrun := Transition.observe_amortized (next cfg) (f := relayedBytes cfg)
      (g := fun _ e => arrived cfg Inbound.isRelay e) (P := Idle cfg)
      (fun s e hidle => idle_next hidle e) (fun s e hidle => relayLoad_next hμ hidle e)
      (idle_new cfg peers) es
    -- nothing waits at the start
    rw [relayLoad_new, Nat.add_zero, Transition.observe_const] at hrun
    exact (Nat.le_add_right _ _).trans hrun

end PilotBeacon

import PilotBeacon.Server.RelayAccounting

/-!
# Order Across Transports

A frame for a node that is connected over WSS is written at once, while frames taken off the
queue earlier, before the node connected, may still wait in the worker's batch. So the frames
of a flow can leave out of order when its destination changes transports, unlike those that
take UDP only (`relay_in_order`).

- `transports_in_order`: as long as nothing is written past a batched frame for the same node,
  what leaves for a node over WSS and UDP together is in the order of queueing
- `wss_overtakes_batch`: a frame that is written past one
-/

namespace PilotBeacon

open PilotBeacon.Lib PilotBeacon.Net
open List (SublistForall₂)

/-! ## Observations -/

/-- The node a transmission is for. -/
def Sent.dest : Sent → UInt32
  | .udp m => m.dest
  | .wss nodeID _ => nodeID

/-- What an event makes the workers transmit for `d`. -/
def transmittedFor (cfg : Config) (d : UInt32) (s : Server) (e : RelayEvent) : List Sent :=
  (transmitted cfg s e).filter fun x => x.dest = d

/-- The frame for `d` that an event puts on a queue. -/
def enqueuedFor (cfg : Config) (d : UInt32) (s : Server) (e : RelayEvent) : List Addressed :=
  (receivedAs [.queued] cfg s e).filter fun a => a.1 = d

/-- Nothing for `d` is written to WSS while its worker has a message for `d` in its batch. -/
def NothingOvertaken (cfg : Config) (d : UInt32) (s : Server) (e : RelayEvent) : Prop :=
  match e.worker? with
  | some (i, .job env _) =>
    (cfg.wssBridge && env.wssConnected && env.wssWrite) = true →
      (s.relayChs i).head?.map RelayJob.destID = some d → batchedFor s d i = []
  | _ => True

instance (cfg : Config) (d : UInt32) (s : Server) (e : RelayEvent) :
    Decidable (NothingOvertaken cfg d s e) := by
  unfold NothingOvertaken
  split <;> infer_instance

/-! ## Worker steps -/

section

variable {cfg : Config} {d : UInt32} {s : Server} {i : Nat} {ev : WorkerEvent}

/-- A worker step writes one frame to WSS and leaves the batch alone, or uses UDP only. -/
theorem workerStep_out (cfg : Config) (s : Server) (i : Nat) (ev : WorkerEvent) :
    (∃ env o job frame, ev = .job env o ∧ Server.jobOutcome cfg env s job = .written frame ∧
      s.relayChs i = job :: (s.workerStep cfg i ev).1.relayChs i ∧
      (s.workerStep cfg i ev).1.workers = s.workers ∧
      (s.workerStep cfg i ev).2 = [.wss job.destID frame]) ∨
    ∃ msgs : List Message, (s.workerStep cfg i ev).2 = msgs.map .udp := by
  unfold Server.workerStep
  by_cases hoff : (s.conn.isNone || (s.workers i).stopped) = true
  · rw [if_pos hoff]
    exact Or.inr ⟨[], rfl⟩
  · rw [if_neg hoff]
    cases ev with
    | job env o =>
      cases hq : s.relayChs i with
      | nil => exact Or.inr ⟨[], rfl⟩
      | cons job rest =>
        dsimp only
        rw [Server.handleJob_eq]
        have houtcome : Server.jobOutcome cfg env
            { s with relayChs := Function.update s.relayChs i rest } job =
            Server.jobOutcome cfg env s job := rfl
        rw [houtcome]
        cases hj : Server.jobOutcome cfg env s job with
        | written frame =>
          refine Or.inl ⟨env, o, job, frame, rfl, hj, ?_, rfl, rfl⟩
          simp [Server.releaseJob]
        | discarded => exact Or.inr ⟨[], rfl⟩
        | batched m => exact Or.inr ⟨_, rfl⟩
        | panics => exact Or.inr ⟨[], rfl⟩
    | timer o =>
      dsimp only
      split_ifs
      · exact Or.inr ⟨_, rfl⟩
      · exact Or.inr ⟨[], rfl⟩
    | done o =>
      dsimp only
      split_ifs
      · exact Or.inr ⟨_, rfl⟩
      · exact Or.inr ⟨[], rfl⟩

/-- A step of worker `i`, seen from one destination that is not overtaken. -/
theorem workerStep_transports (now : Int)
    (h : NothingOvertaken cfg d s (.beacon ⟨now, .worker i ev⟩)) :
    ∃ (taken : List RelayJob) (added : List Sent),
      queuedFor s d i = taken ++ queuedFor (s.workerStep cfg i ev).1 d i ∧
      SublistForall₂ (Carries cfg) added (taken.map RelayJob.addressed) ∧
      (transmittedFor cfg d s (.beacon ⟨now, .worker i ev⟩) ++
        (batchedFor (s.workerStep cfg i ev).1 d i).map Sent.udp).Sublist
        ((batchedFor s d i).map Sent.udp ++ added) := by
  have htrans : transmittedFor cfg d s (.beacon ⟨now, .worker i ev⟩) =
      (s.workerStep cfg i ev).2.filter fun x => x.dest = d := rfl
  rw [htrans]
  rcases workerStep_out cfg s i ev with
    ⟨env, o, job, frame, rfl, hj, hq, hworkers, hout⟩ | ⟨msgs, hout⟩
  · obtain ⟨hbridge, hconnected, hwrite, hframe⟩ := Server.jobOutcome_written hj
    have hbatch : batchedFor (s.workerStep cfg i (.job env o)).1 d i = batchedFor s d i := by
      rw [batchedFor, hworkers, batchedFor]
    rw [hbatch, hout, queuedFor, hq]
    by_cases hd : job.destID = d
    · subst hd
      -- nothing of the batch is for this node, so the frame is not ahead of any
      have hempty : batchedFor s job.destID i = [] :=
        h (by rw [hbridge, hconnected, hwrite]; rfl) (by rw [hq]; rfl)
      refine ⟨[job], [.wss job.destID frame], by simp [queuedFor],
        .cons ⟨rfl, hframe⟩ .nil, ?_⟩
      simp [hempty, Sent.dest]
    · exact ⟨[], [], by simp [queuedFor, hd], .nil, by simp [hd, Sent.dest]⟩
  · obtain ⟨-, taken, added, hq, hadd, hsub⟩ := Server.workerStep_spec cfg s i ev
    rw [hout, Server.sentMessages_map_udp] at hsub
    have hfilter := hsub.filter fun m => decide (m.dest = d)
    rw [List.filter_append, List.filter_append] at hfilter
    refine ⟨taken.filter fun job => job.destID = d,
      (added.filter fun m => m.dest = d).map .udp, ?_, ?_, ?_⟩
    · rw [queuedFor, hq, List.filter_append]
      rfl
    · have hflow := Subsequence.sublistForall₂_filter (fun m => decide (m.dest = d))
        (fun job => decide (job.destID = d)) (fun m job h => by rw [h.1]) hadd
      rw [List.sublistForall₂_map_left_iff]
      exact Subsequence.sublistForall₂_map RelayJob.addressed
        (fun m job _ hm => ⟨hm.1, hm.encodes⟩) hflow
    · have hmap := hfilter.map Sent.udp
      rw [List.map_append, List.map_append] at hmap
      rw [hout, List.filter_map]
      exact hmap

/-- A worker that does not serve `d` transmits nothing for it. -/
theorem workerStep_transports_other (now : Int) (hplaced : PlacedFor cfg d s)
    (hi : i ≠ relayQueueFor cfg d) :
    transmittedFor cfg d s (.beacon ⟨now, .worker i ev⟩) = [] := by
  have hnone : NothingOvertaken cfg d s (.beacon ⟨now, .worker i ev⟩) := by
    cases ev with
    | job env o => exact fun _ _ => (hplaced i hi).2
    | _ => trivial
  obtain ⟨taken, added, hq, hadd, hsub⟩ := workerStep_transports now hnone
  rw [(hplaced i hi).1] at hq
  obtain ⟨rfl, -⟩ := List.append_eq_nil_iff.mp hq.symm
  cases hadd
  rw [(hplaced i hi).2] at hsub
  exact (List.append_eq_nil_iff.mp (List.sublist_nil.mp hsub)).1

/-! ## Runs -/

/-- What is under way for `d` over both transports. -/
def UnderWay (cfg : Config) (d : UInt32) (s : Server) (sent : List Sent)
    (enqueued : List Addressed) : Prop :=
  Subsequence.Pipeline (Carries cfg) sent ((batchedFor s d (relayQueueFor cfg d)).map .udp)
    ((queuedFor s d (relayQueueFor cfg d)).map RelayJob.addressed) enqueued

theorem underWay_worker {now : Int} {sent : List Sent} {enqueued : List Addressed}
    (hplaced : PlacedFor cfg d s) (hnone : NothingOvertaken cfg d s (.beacon ⟨now, .worker i ev⟩))
    (h : UnderWay cfg d s sent enqueued) :
    UnderWay cfg d (s.workerStep cfg i ev).1
      (sent ++ transmittedFor cfg d s (.beacon ⟨now, .worker i ev⟩)) enqueued := by
  by_cases hi : i = relayQueueFor cfg d
  · subst hi
    obtain ⟨taken, added, hq, hadd, hsub⟩ := workerStep_transports now hnone
    rw [UnderWay, hq, List.map_append] at h
    exact Subsequence.Pipeline.move h hadd hsub
  · have hframe := (Server.workerStep_spec cfg s i ev).1
    rw [workerStep_transports_other now hplaced hi, List.append_nil, UnderWay, batchedFor,
      queuedFor, hframe.otherWorkers _ (Ne.symm hi), hframe.otherChs _ (Ne.symm hi)]
    exact h

/-- A dispatch appends to the queue what it enqueues. -/
theorem queuedFor_dispatch {now : Int} {env : Env} {data body : Bytes} {remote : UDPAddr}
    {bridgePeer : UInt32} (hdec : cfg.proto.decode data = .relay body) :
    (queuedFor (s.dispatchRelay cfg env now body (relaySource remote bridgePeer)).1 d
        (relayQueueFor cfg d)).map RelayJob.addressed =
      (queuedFor s d (relayQueueFor cfg d)).map RelayJob.addressed ++
        enqueuedFor cfg d s (.beacon ⟨now, .packet env data remote bridgePeer⟩) := by
  have haccount := Server.dispatchRelay_account cfg env now s body (relaySource remote bridgePeer)
  rw [enqueuedFor, receivedAs_dispatch hdec, received_dispatch (s := s) hdec]
  by_cases hfate : (s.dispatchRelay cfg env now body (relaySource remote bridgePeer)).2 = .queued
  · obtain ⟨-, buf, hchs⟩ := haccount.queued hfate
    rw [queuedFor_update cfg d s
      ⟨BigEndian.uint32 body, BigEndian.uint32 (body.drop 4), ⟨buf, body.drop 8⟩⟩ hchs rfl,
      List.map_append, hfate]
    by_cases hd : BigEndian.uint32 (body.drop 4) = d
    · subst hd
      simp [RelayJob.addressed, RelayJob.frame]
    · simp [hd]
  · rw [queuedFor, haccount.other hfate]
    simp [hfate, queuedFor]

/-- **One step.** -/
theorem underWay_step {sent : List Sent} {enqueued : List Addressed} {e : RelayEvent}
    (hplaced : PlacedFor cfg d s) (hnone : NothingOvertaken cfg d s e)
    (h : UnderWay cfg d s sent enqueued) :
    UnderWay cfg d (relayNext cfg s e) (sent ++ transmittedFor cfg d s e)
      (enqueued ++ enqueuedFor cfg d s e) := by
  rcases relayNext_cases cfg s e with
    ⟨now, i, ev, rfl⟩ | ⟨now, env, data, remote, bridgePeer, body, rfl, hdec, hnext⟩ |
      ⟨hworker, hreceived, -, hsame⟩
  · have henq : enqueuedFor cfg d s (.beacon ⟨now, .worker i ev⟩) = [] := rfl
    rw [henq, List.append_nil]
    exact underWay_worker hplaced hnone h
  · have htrans : transmittedFor cfg d s (.beacon ⟨now, .packet env data remote bridgePeer⟩) = [] :=
      rfl
    obtain ⟨_, _, _, _, _, hframe, -⟩ := Server.dispatchRelay_frame cfg env now s body
      (relaySource remote bridgePeer)
    rw [htrans, List.append_nil, hnext, UnderWay, queuedFor_dispatch hdec]
    have hbatch : batchedFor (s.dispatchRelay cfg env now body (relaySource remote bridgePeer)).1 d
        (relayQueueFor cfg d) = batchedFor s d (relayQueueFor cfg d) := by rw [hframe]; rfl
    rw [hbatch]
    exact Subsequence.Pipeline.offer h (List.Sublist.refl _)
  · have htrans : transmittedFor cfg d s e = [] := by
      simp [transmittedFor, transmitted, workerShow, hworker]
    have henq : enqueuedFor cfg d s e = [] := by simp [enqueuedFor, receivedAs, hreceived]
    rw [htrans, henq, List.append_nil, List.append_nil, UnderWay, batchedFor, queuedFor,
      hsame.workers, hsame.relayChs]
    exact h

end

/-- **Order across transports.** If no frame for `d` is written to WSS while its worker still
    has one for `d` in its batch, then what leaves for `d`, over WSS and UDP together and in the
    order it is sent, carries a subsequence of the frames queued for `d`. -/
theorem transports_in_order (cfg : Config) (peers : List Text) (d : UInt32) (es : List RelayEvent)
    (hnone : Transition.Along (relayNext cfg) (NothingOvertaken cfg d) (newWithPeers cfg peers)
      es) :
    SublistForall₂ (Carries cfg)
      (Transition.observe (relayNext cfg) (transmittedFor cfg d) (newWithPeers cfg peers) es)
      (Transition.observe (relayNext cfg) (enqueuedFor cfg d) (newWithPeers cfg peers) es) := by
  have hrun := Transition.along_induction (relayNext cfg) (s := newWithPeers cfg peers)
    (fun es s => PlacedFor cfg d s ∧ UnderWay cfg d s
      (Transition.observe (relayNext cfg) (transmittedFor cfg d) (newWithPeers cfg peers) es)
      (Transition.observe (relayNext cfg) (enqueuedFor cfg d) (newWithPeers cfg peers) es))
    ⟨fun _ _ => ⟨rfl, rfl⟩, Subsequence.pipeline_nil _⟩ ?_ hnone
  · exact Subsequence.Pipeline.sent_in_order hrun.2
  · rintro es e he ⟨hplaced, hunder⟩
    rw [Transition.observe_concat, Transition.observe_concat]
    exact ⟨placedFor_next e hplaced, underWay_step hplaced he hunder⟩

/-- Two frames for node 9. The first is batched; `flushed` says whether the timer fires before
    node 9 connects and the second is written to its connection. -/
def transportSwitch (flushed : Bool) : List RelayEvent :=
  let timer : Event := ⟨second, .worker 1 (.timer ⟨1, fun _ => true⟩)⟩
  let relay (payload : UInt8) : Event :=
    sampleDatagram second (sampleAddr 10 0 0 7 4000) [0x05, 0, 0, 0, 7, 0, 0, 0, 9, payload]
  ([⟨0, .listen (sampleAddr 0 0 0 0 9001)⟩,
    sampleDatagram second (sampleAddr 10 0 0 9 4000) [0x01, 0, 0, 0, 9],
    relay 0xaa,
    ⟨second, .worker 1 (.job ⟨false, false, 0⟩ ⟨0, fun _ => true⟩)⟩] ++
    (if flushed then [timer] else []) ++
    [relay 0xbb,
    ⟨second, .worker 1 (.job ⟨true, true, 0⟩ ⟨0, fun _ => true⟩)⟩,
    timer]).map .beacon

/-- With the batch flushed first, the frames leave in order, on two transports. -/
theorem transports_in_order_flushed :
    let cfg := { sampleConfig with wssBridge := true }
    Transition.Along (relayNext cfg) (NothingOvertaken cfg 9) (newWithPeers cfg [])
        (transportSwitch true) ∧
      SublistForall₂ (Carries cfg)
        (Transition.observe (relayNext cfg) (transmittedFor cfg 9) (newWithPeers cfg [])
          (transportSwitch true))
        (Transition.observe (relayNext cfg) (enqueuedFor cfg 9) (newWithPeers cfg [])
          (transportSwitch true)) ∧
      (Transition.observe (relayNext cfg) (transmittedFor cfg 9) (newWithPeers cfg [])
        (transportSwitch true)).length = 2 := by
  have hnone : Transition.Along (relayNext { sampleConfig with wssBridge := true })
      (NothingOvertaken { sampleConfig with wssBridge := true } 9)
      (newWithPeers { sampleConfig with wssBridge := true } []) (transportSwitch true) := by decide
  exact ⟨hnone, transports_in_order _ [] 9 (transportSwitch true) hnone, by decide⟩

/-- With the batch still waiting, the second frame leaves before the first. -/
theorem wss_overtakes_batch :
    let cfg := { sampleConfig with wssBridge := true }
    let sent := Transition.observe (relayNext cfg) (transmittedFor cfg 9) (newWithPeers cfg [])
      (transportSwitch false)
    let enqueued := Transition.observe (relayNext cfg) (enqueuedFor cfg 9) (newWithPeers cfg [])
      (transportSwitch false)
    enqueued = [(9, ⟨7, [0xaa]⟩), (9, ⟨7, [0xbb]⟩)] ∧
      sent = [.wss 9 [0x06, 0, 0, 0, 7, 0xbb],
        .udp ⟨⟨⟨0, maxRelayPayload + 9⟩, [0x06, 0, 0, 0, 7, 0xaa]⟩, sampleAddr 10 0 0 9 4000, 9⟩] ∧
      ¬ SublistForall₂ (Carries cfg) sent enqueued := by
  intro cfg sent enqueued
  have hsent : sent = [.wss 9 [0x06, 0, 0, 0, 7, 0xbb],
      .udp ⟨⟨⟨0, maxRelayPayload + 9⟩, [0x06, 0, 0, 0, 7, 0xaa]⟩,
        sampleAddr 10 0 0 9 4000, 9⟩] := by
    decide
  have henqueued : enqueued = [(9, ⟨7, [0xaa]⟩), (9, ⟨7, [0xbb]⟩)] := by decide
  refine ⟨henqueued, hsent, ?_⟩
  rw [hsent, henqueued]
  intro h
  obtain ⟨frames, hframes, hsub⟩ := List.sublistForall₂_iff.mp h
  -- both frames left, so the first to leave would have to carry the first that was queued
  obtain rfl := hsub.eq_of_length (by rw [← hframes.length_eq]; rfl)
  cases hframes with
  | cons hfirst _ => exact absurd hfirst.2 (by decide)

end PilotBeacon

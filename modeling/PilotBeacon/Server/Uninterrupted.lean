import PilotBeacon.Server.SharedBuffers

/-!
# Goroutines That Are Not Interrupted

The steps of `SharedBuffers` cut `dispatchRelay` and the loop of a worker into pieces. Taken one
after the other, without anybody in between, they put together what the other modules take for
one step: the same state, and the same transmissions.

- `dispatch_uninterrupted`: a receiver is `dispatchRelay`
- `worker_uninterrupted`: a worker is `workerStep`
-/

namespace PilotBeacon

open PilotBeacon.Lib PilotBeacon.Net

/-! ## A receiver on its own -/

section

variable {cfg : Config} {env : Env} {now : Int} {s : Server} {data : Bytes} {src : RelaySourceKey}

/-- A frame that does not get through is at most counted. -/
theorem Server.dispatchRelay_of_not_admitted
    (h : (s.admitRelay cfg env now data src).2 = false) :
    (s.dispatchRelay cfg env now data src).1 = (s.admitRelay cfg env now data src).1 := by
  unfold admitRelay at h ⊢
  unfold dispatchRelay
  split_ifs at h ⊢
  · rfl
  · rfl
  · rfl
  · dsimp only at h ⊢
    cases hallow : (s.relayRL.allow src now maxRelaysPerSourcePerSecond).1 with
    | false => rfl
    | true =>
      rw [hallow, Bool.true_and, decide_eq_false_iff_not] at h
      simp only [Bool.not_true, Bool.false_eq_true, if_false]
      rw [queueRelay, if_pos (by omega)]

/-- One that gets through is copied and queued. -/
theorem Server.dispatchRelay_of_admitted
    (h : (s.admitRelay cfg env now data src).2 = true) :
    s.dispatchRelay cfg env now data src =
      let s' := (s.admitRelay cfg env now data src).1
      let (buf, pool) := s'.pool.getPayload env.poolPick (data.drop 8).length
      enqueueRelay cfg { s' with pool := pool }
        ⟨BigEndian.uint32 data, BigEndian.uint32 (data.drop 4), ⟨buf, data.drop 8⟩⟩ := by
  unfold admitRelay at h ⊢
  unfold dispatchRelay
  split_ifs at h ⊢
  dsimp only at h ⊢
  rw [Bool.and_eq_true, decide_eq_true_iff] at h
  rw [h.1]
  simp only [Bool.not_true, Bool.false_eq_true, if_false]
  rw [queueRelay, if_neg (by omega)]

end

/-- **A receiver that is not interrupted** is `dispatchRelay`. -/
theorem dispatch_uninterrupted {cfg : Config} {receivers r : Nat} {c : Shared} {data body : Bytes}
    (hr : r < receivers) (hidle : (c.receivers r).stage = .idle)
    (hdata : cfg.proto.decode data = .relay body) (env : Env) (now : Int) (remote : UDPAddr)
    (bridgePeer : UInt32) :
    let c' := Transition.run (sharedNext cfg receivers) c
      ([.receive now env data remote bridgePeer, .get env.poolPick, .copy, .enqueue].map
        (SharedStep.receiver r))
    c'.server = (c.server.dispatchRelay cfg env now body (relaySource remote bridgePeer)).1 ∧
      (c'.receivers r).stage = .idle := by
  set s' := c.server.admitRelay cfg env now body (relaySource remote bridgePeer) with hs'
  simp only [List.map_cons, List.map_nil, Transition.run_cons, Transition.run_nil, sharedNext,
    if_pos hr]
  have hreceive : c.receiverNext cfg r (.receive now env data remote bridgePeer) =
      Shared.setReceiver { c with server := s'.1 } r ⟨body, if s'.2 then .passed else .idle⟩ := by
    simp only [Shared.receiverNext, hidle, hdata, ← hs']
  rw [hreceive]
  cases hadmitted : s'.2 with
  | false =>
    rw [Server.dispatchRelay_of_not_admitted hadmitted]
    simp [Shared.receiverNext, Shared.setReceiver, ← hs']
  | true =>
    rw [Server.dispatchRelay_of_admitted hadmitted]
    simp [Shared.receiverNext, Shared.setReceiver, ← hs']

/-! ## A worker on its own -/

/-- Worker `i`, alone, gets from `c` to `c'` and transmits `out`. -/
def WorkerAlone (cfg : Config) (receivers i : Nat) (c : Shared) (out : List Sent) (c' : Shared) :
    Prop :=
  Transition.Reaches (sharedNext cfg receivers) (written cfg) (fun e => ∃ a, e = .worker i a)
    c out c'

section

variable {cfg : Config} {receivers i : Nat} {c c' : Shared} {out : List Sent}

theorem workerAlone_step (hi : i < cfg.relayWorkerCount) {a : WorkerStep}
    (hnext : c.workerNext cfg i a = c') (hout : written cfg c (.worker i a) = out) :
    WorkerAlone cfg receivers i c out c' := by
  have hstep : sharedNext cfg receivers c (.worker i a) = c' := by
    rw [sharedNext, if_pos hi, hnext]
  subst hout hstep
  exact Transition.Reaches.single ⟨a, rfl⟩

theorem WorkerAlone.trans {c'' : Shared} {out' : List Sent}
    (h : WorkerAlone cfg receivers i c out c') (h' : WorkerAlone cfg receivers i c' out' c'') :
    WorkerAlone cfg receivers i c (out ++ out') c'' :=
  Transition.Reaches.trans h h'

/-- A silent step first. -/
theorem workerAlone_cons {c'' : Shared} (hi : i < cfg.relayWorkerCount) {a : WorkerStep}
    (hnext : c.workerNext cfg i a = c') (hout : written cfg c (.worker i a) = [])
    (h : WorkerAlone cfg receivers i c' out c'') : WorkerAlone cfg receivers i c out c'' :=
  (workerAlone_step hi hnext hout).trans h

theorem writeEach_of_lt (ok : Nat → Bool) {k : Nat} {msgs : List Message} (h : k < msgs.length) :
    writeEach ok k msgs = (if ok k then [msgs[k]] else []) ++ writeEach ok (k + 1) msgs := by
  have hdrop : msgs.zipIdx.drop k = (msgs[k], k) :: msgs.zipIdx.drop (k + 1) := by
    rw [List.drop_eq_getElem_cons (by simpa using h)]
    simp
  rw [writeEach, hdrop, List.filter_cons]
  dsimp only
  split_ifs <;> simp [writeEach]

/-- **The sends of a flush.** -/
theorem workerAlone_sends (hi : i < cfg.relayWorkerCount) (ok : Nat → Bool) {k n : Nat}
    (hstage : c.stages i = .sending k n) (hk : k ≤ (c.server.workers i).msgs.length) :
    WorkerAlone cfg receivers i c ((writeEach ok k (c.server.workers i).msgs).map .udp)
      (c.setStage i (.sending (c.server.workers i).msgs.length
        (n + (writeEach ok k (c.server.workers i).msgs).length))) := by
  induction hm : (c.server.workers i).msgs.length - k generalizing c k n with
  | zero =>
    have heq : k = (c.server.workers i).msgs.length := by omega
    have hnone : writeEach ok k (c.server.workers i).msgs = [] := by
      rw [writeEach, List.drop_of_length_le (by simp [heq])]
      rfl
    have hsame : c.setStage i (.sending k n) = c := by
      rw [← hstage, Shared.setStage, Function.update_eq_self]
    rw [hnone, ← heq, List.length_nil, Nat.add_zero, hsame]
    exact Transition.Reaches.refl
  | succ m ih =>
    have hlt : k < (c.server.workers i).msgs.length := by omega
    have hnext : c.workerNext cfg i (.send (ok k)) =
        c.setStage i (.sending (k + 1) (if ok k then n + 1 else n)) := by
      simp only [Shared.workerNext, Shared.send, hstage, if_pos hlt]
    have hout : written cfg c (.worker i (.send (ok k))) =
        if ok k then [.udp (c.server.workers i).msgs[k]] else [] := by
      cases ok k <;> simp [written, transmits, hstage, hi, hlt]
    have hrest := ih (c := c.setStage i (.sending (k + 1) (if ok k then n + 1 else n)))
      (k := k + 1) (Function.update_self ..) hlt (by simp only [Shared.setStage]; omega)
    have hout' : (writeEach ok k (c.server.workers i).msgs).map Sent.udp =
        (if ok k then [.udp (c.server.workers i).msgs[k]] else []) ++
          (writeEach ok (k + 1) (c.server.workers i).msgs).map .udp := by
      rw [writeEach_of_lt ok hlt]
      split_ifs <;> simp
    have hsum : n + (writeEach ok k (c.server.workers i).msgs).length =
        (if ok k then n + 1 else n) + (writeEach ok (k + 1) (c.server.workers i).msgs).length := by
      rw [writeEach_of_lt ok hlt]
      split_ifs
      · simp only [List.length_append, List.length_singleton]
        omega
      · rfl
    rw [hout', hsum]
    have hall := (workerAlone_step hi hnext hout).trans hrest
    rwa [Shared.setStage_setStage] at hall

/-- The buffers of worker `i`'s batch are back. -/
def Server.returnBuffers (s : Server) (i : Nat) : Server :=
  { s with
    pool := (s.workers i).payloadsToReturn.foldl Pool.put s.pool
    outBufPool := (s.workers i).outBufsToReturn.foldl Pool.put s.outBufPool
    workers := Function.update s.workers i
      { s.workers i with payloadsToReturn := [], outBufsToReturn := [] } }

theorem Server.returnBuffers_eq_self {s : Server} (hbufs : (s.workers i).payloadsToReturn = [])
    (hobps : (s.workers i).outBufsToReturn = []) : s.returnBuffers i = s := by
  have hw : { s.workers i with payloadsToReturn := [], outBufsToReturn := [] } = s.workers i := by
    rw [← hbufs]
    nth_rewrite 2 [hbufs]
    rw [← hobps]
  rw [returnBuffers, hw, hbufs, hobps, Function.update_eq_self]
  rfl

/-- **The buffers of a batch go back.** -/
theorem workerAlone_returns (hi : i < cfg.relayWorkerCount) (hstage : c.stages i = .returning) :
    WorkerAlone cfg receivers i c []
      (Shared.setStage { c with server := c.server.returnBuffers i } i .waiting) := by
  induction hbufs : (c.server.workers i).payloadsToReturn generalizing c with
  | nil =>
    induction hobps : (c.server.workers i).outBufsToReturn generalizing c with
    | nil =>
      rw [Server.returnBuffers_eq_self hbufs hobps]
      apply workerAlone_step hi (a := .putBack) _ rfl
      simp only [Shared.workerNext, Shared.putBack, hstage, hbufs, hobps]
    | cons obp obps ih =>
      have hnext : c.workerNext cfg i .putBack =
          Shared.setStage
            { c with
              server := { c.server with outBufPool := c.server.outBufPool.put obp }.setWorker i
                { c.server.workers i with outBufsToReturn := obps } }
            i .returning := by
        simp only [Shared.workerNext, Shared.putBack, hstage, hbufs, hobps]
      have hrest := ih (c := c.workerNext cfg i .putBack) (by simp [hnext, Shared.setStage])
        (by simp [hnext, Shared.setStage, hbufs]) (by simp [hnext, Shared.setStage])
      convert workerAlone_cons hi rfl rfl hrest using 1
      simp [hnext, Shared.setStage, Server.returnBuffers, Server.setWorker, hobps, hbufs]
  | cons buf bufs ih =>
    have hnext : c.workerNext cfg i .putBack =
        Shared.setStage
          { c with
            server := { c.server with pool := c.server.pool.put buf }.setWorker i
              { c.server.workers i with payloadsToReturn := bufs } }
          i .returning := by
      simp only [Shared.workerNext, Shared.putBack, hstage, hbufs]
    have hrest := ih (c := c.workerNext cfg i .putBack) (by simp [hnext, Shared.setStage])
      (by simp [hnext, Shared.setStage])
    convert workerAlone_cons hi rfl rfl hrest using 1
    simp [hnext, Shared.setStage, Server.returnBuffers, Server.setWorker, hbufs]

/-- **A whole batch**, with given results. -/
theorem workerAlone_sendAll (hi : i < cfg.relayWorkerCount) (ok : Nat → Bool) :
    WorkerAlone cfg receivers i (c.setStage i (.sending 0 0))
      ((writeEach ok 0 (c.server.workers i).msgs).map .udp)
      (Shared.setStage
        { c with
          server := c.server.finishFlush i (writeEach ok 0 (c.server.workers i).msgs).length }
        i .waiting) := by
  have hsends : WorkerAlone cfg receivers i (c.setStage i (.sending 0 0)) _ _ :=
    workerAlone_sends hi ok (Function.update_self ..) (Nat.zero_le _)
  rw [Shared.setStage_setStage, Nat.zero_add] at hsends
  set n := (writeEach ok 0 (c.server.workers i).msgs).length
  set s₁ := { c.server with relayForwarded := c.server.relayForwarded + n }.setWorker i
    { c.server.workers i with msgs := [] } with hs₁
  have hnext : (c.setStage i (.sending (c.server.workers i).msgs.length n)).workerNext cfg i
      (.send false) = Shared.setStage { c with server := s₁ } i .returning := by
    simp [Shared.workerNext, Shared.send, Shared.setStage, hs₁]
  have hreturns : WorkerAlone cfg receivers i (Shared.setStage { c with server := s₁ } i .returning)
      [] _ := workerAlone_returns hi (Function.update_self ..)
  have hs : s₁.returnBuffers i = c.server.finishFlush i n := by
    simp [hs₁, Server.returnBuffers, Server.setWorker, Server.finishFlush]
  rw [Shared.setStage_setStage] at hreturns
  have hall := hsends.trans (workerAlone_cons hi hnext rfl hreturns)
  rw [List.append_nil] at hall
  rw [← hs]
  exact hall

/-- `WriteBatch` takes the first `n`, the others go one by one. -/
theorem writeEach_batch (ok : Nat → Bool) {n : Nat} {msgs : List Message} :
    writeEach (fun k => decide (k < n) || ok k) 0 msgs = msgs.take n ++ writeEach ok n msgs := by
  have hall : msgs.zipIdx = msgs.zipIdx.take n ++ msgs.zipIdx.drop n :=
    (List.take_append_drop n _).symm
  rw [writeEach, List.drop_zero, hall, List.filter_append, List.map_append]
  congr 1
  · rw [List.filter_eq_self.mpr, List.map_take, List.zipIdx_map_fst]
    intro p hp
    obtain ⟨k, hk, rfl⟩ := List.mem_iff_getElem.mp hp
    rw [List.length_take] at hk
    simp
    omega
  · rw [writeEach]
    congr 1
    apply List.filter_congr
    intro p hp
    obtain ⟨k, hk, rfl⟩ := List.mem_iff_getElem.mp hp
    simp

/-- **A flush.** -/
theorem workerAlone_flush (hi : i < cfg.relayWorkerCount) (o : FlushOutcome)
    (hmsgs : (c.server.workers i).msgs ≠ []) (hn : o.n ≤ (c.server.workers i).msgs.length) :
    WorkerAlone cfg receivers i (c.setStage i (.sending 0 0)) ((c.server.flush o i).2.map .udp)
      (Shared.setStage { c with server := (c.server.flush o i).1 } i .waiting) := by
  unfold Server.flush
  dsimp only
  rw [if_neg hmsgs]
  split_ifs with hdual hneg
  · exact workerAlone_sendAll hi o.writeOk
  · -- an index below zero is the only panic
    apply workerAlone_step hi (a := .crash) _ rfl
    simp [Shared.workerNext, Shared.setStage, Shared.workerCrash]
  · have hall : (c.server.workers i).msgs.take o.n.toNat ++
        writeEach o.writeOk o.n.toNat (c.server.workers i).msgs =
        writeEach (fun k => decide (k < o.n.toNat) || o.writeOk k) 0 (c.server.workers i).msgs :=
      (writeEach_batch o.writeOk).symm
    have hsum : o.n.toNat + (writeEach o.writeOk o.n.toNat (c.server.workers i).msgs).length =
        (writeEach (fun k => decide (k < o.n.toNat) || o.writeOk k) 0
          (c.server.workers i).msgs).length := by
      rw [← hall, List.length_append, List.length_take, Nat.min_eq_left (by omega)]
    rw [hall, hsum]
    exact workerAlone_sendAll hi _

/-- A flush that may have nothing to send. -/
theorem workerAlone_flushFrom (hi : i < cfg.relayWorkerCount) (o : FlushOutcome)
    (hn : o.n ≤ (c.server.workers i).msgs.length) :
    WorkerAlone cfg receivers i (c.flushFrom i) ((c.server.flush o i).2.map .udp)
      (Shared.setStage { c with server := (c.server.flush o i).1 } i .waiting) := by
  unfold Shared.flushFrom
  split_ifs with hmsgs
  · rw [Server.flush, if_pos hmsgs]
    exact Transition.Reaches.refl
  · exact workerAlone_flush hi o hmsgs hn

/-- A round that ends in a flush. -/
theorem workerAlone_round (hi : i < cfg.relayWorkerCount) (o : FlushOutcome) {a : WorkerStep}
    {s : Server} (hnext : c.workerNext cfg i a = Shared.flushFrom { c with server := s } i)
    (hout : written cfg c (.worker i a) = []) (hn : o.n ≤ (s.workers i).msgs.length) :
    WorkerAlone cfg receivers i c ((s.flush o i).2.map .udp)
      (Shared.setStage { c with server := (s.flush o i).1 } i .waiting) :=
  workerAlone_cons hi hnext hout (workerAlone_flushFrom (c := { c with server := s }) hi o hn)

/-- **A message joins the batch**, which is flushed if that fills it. -/
theorem workerAlone_batch (hi : i < cfg.relayWorkerCount) (o : FlushOutcome)
    (hn : o.n ≤ relayBatchCap) (m : Message) (payload : Buf) :
    WorkerAlone cfg receivers i (c.batch i m payload)
      ((c.server.addMessage o i m payload).2.map .udp)
      (Shared.setStage { c with server := (c.server.addMessage o i m payload).1 } i .waiting) := by
  unfold Shared.batch Server.addMessage
  dsimp only
  split_ifs with hfull
  · apply workerAlone_flush hi o
    · simp
    · rw [Server.workers_setWorker]
      exact hn.trans (by exact_mod_cast hfull)
  · exact Transition.Reaches.refl

/-- Both buffers of a job go back. -/
theorem workerAlone_release (hi : i < cfg.relayWorkerCount) (job : RelayJob) (obp : Buf) :
    WorkerAlone cfg receivers i (c.setStage i (.releasing job obp)) []
      (Shared.setStage { c with server := c.server.releaseJob job obp } i .waiting) := by
  apply workerAlone_cons hi (a := .release) rfl rfl
  apply workerAlone_step hi (a := .release) _ rfl
  simp [Shared.workerNext, Shared.release, Shared.setStage, Server.releaseJob]

/-- Tier 0. -/
theorem workerAlone_wss (hi : i < cfg.relayWorkerCount) (env : JobEnv) (job : RelayJob)
    (obp : Buf) :
    ∃ outs, WorkerAlone cfg receivers i (c.setStage i (.lent job .wss obp))
      (c.server.sendWSS cfg env i job obp).2
      (Shared.setStage { c with server := (c.server.sendWSS cfg env i job obp).1, outs := outs } i
        .waiting) := by
  unfold Server.sendWSS
  cases hout : outSlice obp (deliverHeader cfg job.senderID) job.payload.data with
  | none =>
    refine ⟨c.outs, workerAlone_step hi (a := .shape) ?_ rfl⟩
    simp [Shared.workerNext, Shared.shape, Tier.header, hout, Shared.setStage, Shared.workerCrash]
  | some out =>
    have hbuf : out.buf = obp := by
      unfold outSlice at hout
      split_ifs at hout
      cases hout
      rfl
    set c₁ := c.fillOut obp (deliverHeader cfg job.senderID) job.payload with hc₁
    have hshape : (c.setStage i (.lent job .wss obp)).workerNext cfg i .shape =
        c₁.setStage i (.writing job out) := by
      simp [Shared.workerNext, Shared.shape, Tier.header, hout, Shared.setStage, hc₁,
        Shared.fillOut, Shared.payloadBytes]
    refine ⟨c₁.outs, workerAlone_cons hi hshape rfl ?_⟩
    cases env.wssWrite with
    | false =>
      have hrelease : WorkerAlone cfg receivers i _ [] _ := workerAlone_release hi job obp
        (c := { c₁ with server := { c.server with relayNotFound := c.server.relayNotFound + 1 } })
      apply workerAlone_cons hi (a := .writeFrame false) _ rfl hrelease
      simp [Shared.workerNext, Shared.writeFrame, Shared.setStage, hc₁, Shared.fillOut, hbuf]
    | true =>
      have hrelease : WorkerAlone cfg receivers i _ [] _ := workerAlone_release hi job obp
        (c := { c₁ with server := { c.server with relayForwarded := c.server.relayForwarded + 1 } })
      show WorkerAlone cfg receivers i _ ([Sent.wss job.destID out.data] ++ []) _
      apply WorkerAlone.trans _ hrelease
      apply workerAlone_step hi (a := .writeFrame true)
      · simp [Shared.workerNext, Shared.writeFrame, Shared.setStage, hc₁, Shared.fillOut, hbuf]
      · simp [written, transmits, Shared.setStage, hi]

theorem Shared.shape_setStage (cfg : Config) (c : Shared) (i : Nat) (stage : WorkerStage)
    (job : RelayJob) (tier : Tier) (obp : Buf) :
    (c.setStage i stage).shape cfg i job tier obp = c.shape cfg i job tier obp := by
  simp only [shape, setStage, workerCrash, fillOut, batch, payloadBytes, Function.update_idem]
  rfl

/-- Tiers 1 to 3. -/
theorem workerAlone_udp (hi : i < cfg.relayWorkerCount) (o : FlushOutcome)
    (hn : o.n ≤ relayBatchCap) (job : RelayJob) (obp : Buf) {tier : Tier}
    (htier : tier = match c.server.nodes.snapshot job.destID with
      | some addr => .localNode addr
      | none => .other) :
    ∃ outs, WorkerAlone cfg receivers i (c.setStage i (.lent job tier obp))
      (c.server.sendUDP cfg o i job obp).2
      (Shared.setStage { c with server := (c.server.sendUDP cfg o i job obp).1, outs := outs } i
        .waiting) := by
  have hnext : (c.setStage i (.lent job tier obp)).workerNext cfg i .shape =
      c.shape cfg i job tier obp := by
    rw [← Shared.shape_setStage cfg c i (.lent job tier obp)]
    simp [Shared.workerNext, Shared.setStage]
  have hheader : tier.header cfg c.server job = _ := Tier.header_eq_route htier
  unfold Server.sendUDP
  unfold Shared.shape at hnext
  cases hroute : (c.server.route job.destID).header cfg job with
  | none =>
    simp only [hheader, hroute, Option.map_none] at hnext
    exact ⟨c.outs, workerAlone_cons hi hnext rfl (workerAlone_release hi job obp)⟩
  | some p =>
    simp only [hheader, hroute, Option.map_some] at hnext
    dsimp only
    cases hout : outSlice obp p.2 job.payload.data with
    | none =>
      simp only [hout] at hnext
      exact ⟨c.outs, workerAlone_step hi hnext rfl⟩
    | some out =>
      simp only [hout] at hnext
      exact ⟨(c.fillOut obp p.2 job.payload).outs,
        workerAlone_cons hi hnext rfl (workerAlone_batch hi o hn _ _)⟩

/-- A flush does not look at the flag that ends the loop. -/
theorem Server.flush_stop (o : FlushOutcome) {s : Server} (hdone : s.done = true) (i : Nat) :
    flush o (s.setWorker i { s.workers i with stopped := true }) i =
      ((flush o s i).1.setWorker i { (flush o s i).1.workers i with stopped := true },
        (flush o s i).2) := by
  have hdual : (s.setWorker i { s.workers i with stopped := true }).sendDualStack =
      s.sendDualStack := rfl
  unfold flush
  simp only [workers_setWorker, hdual]
  split_ifs <;>
    simp [finishFlush, workerPanic, setWorker, Function.update_idem, hdone]

/-- `WriteBatch` counts no more messages than it is given. -/
def WorkerEvent.Counts (w : Worker) : WorkerEvent → Prop
  | .job _ o => o.n ≤ relayBatchCap
  | .timer o => o.n ≤ w.msgs.length
  | .done o => o.n ≤ w.msgs.length

/-- From a job taken to its being handled. -/
theorem workerAlone_job (hi : i < cfg.relayWorkerCount) (env : JobEnv) (o : FlushOutcome)
    (hn : o.n ≤ relayBatchCap) (job : RelayJob) :
    ∃ outs, WorkerAlone cfg receivers i (c.setStage i (.took job))
      (c.server.handleJob cfg env o i job).2
      (Shared.setStage { c with server := (c.server.handleJob cfg env o i job).1, outs := outs } i
        .waiting) := by
  unfold Server.handleJob
  dsimp only
  set obp := (c.server.outBufPool.get env.outPick (maxRelayPayload + 9)).1 with hobp
  set c₁ : Shared := { c with server := { c.server with
    outBufPool := (c.server.outBufPool.get env.outPick (maxRelayPayload + 9)).2 } } with hc₁
  have hlookup : ∀ tier,
      (c.setStage i (.took job)).workerNext cfg i (.lookup env.wssConnected) =
        c.setStage i (.looked job tier) → ∀ out c',
      WorkerAlone cfg receivers i (c₁.setStage i (.lent job tier obp)) out c' →
        WorkerAlone cfg receivers i (c.setStage i (.took job)) out c' := by
    intro tier hlooked out c' h
    apply workerAlone_cons hi hlooked rfl
    apply workerAlone_cons hi (a := .getOut env.outPick) _ rfl h
    simp [Shared.workerNext, Shared.getOut, Shared.setStage, hc₁, hobp]
  split_ifs with hwss
  · obtain ⟨outs, h⟩ := @workerAlone_wss cfg receivers i c₁ hi env job obp
    refine ⟨outs, hlookup .wss ?_ _ _ h⟩
    simp only [Shared.workerNext, Shared.lookup, Shared.setStage, Function.update_self, hwss,
      if_true, Function.update_idem]
  · obtain ⟨outs, h⟩ := @workerAlone_udp cfg receivers i c₁ hi o hn job obp _ rfl
    refine ⟨outs, hlookup _ ?_ _ _ h⟩
    simp only [Shared.workerNext, Shared.lookup, Shared.setStage, Function.update_self, hwss,
      Function.update_idem]
    rfl

/-- **A worker that is not interrupted** is the worker of the other modules. -/
theorem worker_uninterrupted (hi : i < cfg.relayWorkerCount) (hstage : c.stages i = .waiting)
    (ev : WorkerEvent) (hn : ev.Counts (c.server.workers i)) :
    ∃ outs, WorkerAlone cfg receivers i c (c.server.workerStep cfg i ev).2
      { c with server := (c.server.workerStep cfg i ev).1, outs := outs } := by
  -- the worker ends where it began
  have hwaiting : ∀ s outs, Shared.setStage { c with server := s, outs := outs } i .waiting =
      { c with server := s, outs := outs } := by
    intro s outs
    rw [← hstage, Shared.setStage, Function.update_eq_self]
  unfold Server.workerStep
  by_cases hoff : (c.server.conn.isNone || (c.server.workers i).stopped) = true
  · rw [if_pos hoff]
    exact ⟨c.outs, Transition.Reaches.refl⟩
  · rw [if_neg hoff]
    rw [Bool.or_eq_true, not_or, Bool.not_eq_true, Bool.not_eq_true] at hoff
    cases ev with
    | timer o =>
      dsimp only
      split_ifs with htimer
      · refine ⟨c.outs, ?_⟩
        rw [← hwaiting]
        apply workerAlone_round hi o (a := .timer) _ rfl
        · simpa [WorkerEvent.Counts] using hn
        · simp [Shared.workerNext, Shared.selectFlush, hstage, hoff.1, hoff.2, htimer]
      · exact ⟨c.outs, Transition.Reaches.refl⟩
    | done o =>
      dsimp only
      split_ifs with hdone
      · refine ⟨c.outs, ?_⟩
        have hround : WorkerAlone cfg receivers i c _ _ := workerAlone_round hi o (a := .done)
          (s := c.server.setWorker i { c.server.workers i with stopped := true })
          (by simp [Shared.workerNext, Shared.selectFlush, hstage, hoff.1, hoff.2, hdone]) rfl
          (by simpa [WorkerEvent.Counts] using hn)
        rw [Server.flush_stop o hdone, hwaiting] at hround
        exact hround
      · exact ⟨c.outs, Transition.Reaches.refl⟩
    | job env o =>
      dsimp only
      cases hqueue : c.server.relayChs i with
      | nil => exact ⟨c.outs, Transition.Reaches.refl⟩
      | cons job rest =>
        have htake : c.workerNext cfg i .take = Shared.setStage { c with server := { c.server with
            relayChs := Function.update c.server.relayChs i rest } } i (.took job) := by
          simp only [Shared.workerNext, Shared.take, hstage, hoff.1, hoff.2, hqueue]
          rfl
        obtain ⟨outs, h⟩ := @workerAlone_job cfg receivers i
          { c with server := { c.server with
            relayChs := Function.update c.server.relayChs i rest } } hi env o hn job
        refine ⟨outs, ?_⟩
        rw [← hwaiting]
        exact workerAlone_cons hi htake rfl h

end

end PilotBeacon

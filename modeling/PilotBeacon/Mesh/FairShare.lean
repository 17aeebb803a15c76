import PilotBeacon.Mesh.Basic
import PilotBeacon.Server.RelayBudget

/-!
# Relay Budgets across the Mesh

The relay limiter charges a frame to the endpoint it was received from. A forwarded frame is
received from the beacon that forwards it, so at the next beacon all frames that come this way
share one budget, whoever sent them first.

- `forwarded_not_refused`: if the frames from one beacon stay within that budget, none of them
  is refused, whatever else arrives
- `squeeze_refused`: if every sender stays within its own budget, some may be
-/

namespace PilotBeacon

open PilotBeacon.Lib PilotBeacon.Net

/-! ## Frames between members -/

namespace Mesh

variable {n : Nat} (M : Mesh n)

/-- The times at which the limiter of member `i` charges `key` along a run. -/
def limiterCalls (i : Fin n) (key : RelaySourceKey) (m : MeshState n) (es : List (MeshEvent n)) :
    List Int :=
  Transition.observe M.step (Network.observedAt M.receive i
    fun b e => limiterCall (M.cfg i) key b.server (b.event e)) m es

/-- A frame forwarded by `i` arrives at `j`, where its destination is registered, and is
    refused by the limiter. -/
def refuses (i j : Fin n) (m : MeshState n) : MeshEvent n → Bool
  | .deliver k x =>
    (m.flights[k]?).any fun f =>
      decide (f.src = i ∧ f.dst = j) &&
        match (M.cfg j).proto.decode f.msg with
        | .relay body =>
          (m.node j).server.nodes.has (BigEndian.uint32 (body.drop 4)) &&
            decide ((Server.dispatchRelay (M.cfg j) x.env ((m.node j).clock + x.elapsed)
              (m.node j).server body (relaySource (M.addr i) 0)).2 = .limited)
        | _ => false
  | _ => false

variable {M} {i j : Fin n} {m : MeshState n} {ev : MeshEvent n}

/-- A refused frame is charged to its forwarder, who is over budget. -/
theorem limiterCalls_of_refuses (h : M.refuses i j m ev = true) :
    ∃ now, (m.node j).clock ≤ now ∧
      Network.observedAt M.receive j (fun b e => limiterCall (M.cfg j)
        (relaySourceForUDP (M.addr i)) b.server (b.event e)) m ev = [now] ∧
      ((m.node j).server.relayRL.allow (relaySourceForUDP (M.addr i)) now
        maxRelaysPerSourcePerSecond).1 = false := by
  cases ev with
  | act _ _ => cases h
  | lose _ => cases h
  | deliver k x =>
    rw [refuses] at h
    cases hf : m.flights[k]? with
    | none =>
      rw [hf] at h
      cases h
    | some f =>
      rw [hf, Option.any_some, Bool.and_eq_true, decide_eq_true_eq] at h
      obtain ⟨⟨rfl, rfl⟩, h⟩ := h
      refine ⟨(m.node f.dst).clock + x.elapsed, by omega, ?_⟩
      rw [Network.observedAt, Network.occurs, hf, Option.map_some]
      dsimp only
      rw [if_pos rfl, limiterCall]
      cases hdec : (M.cfg f.dst).proto.decode f.msg with
      | relay body =>
        -- a refused frame got as far as the limiter
        rw [hdec, Bool.and_eq_true, decide_eq_true_eq] at h
        obtain ⟨hroutable, hrefused⟩ := Server.dispatchRelay_limited.mp h.2
        have hcharge : relayCharge (M.cfg f.dst) (m.node f.dst).server
            ((m.node f.dst).event (M.receive f.src f.msg x)) =
            some (relaySourceForUDP (M.addr f.src)) := by
          simp only [relayCharge, Member.event, receive, hdec, hroutable, if_true]
          rfl
        exact ⟨if_pos hcharge, hrefused⟩
      | _ =>
        rw [hdec] at h
        cases h

/-- Along every run of the mesh, the limiter of `j` counts what it is asked. -/
theorem charged_run (M : Mesh n) (j : Fin n) (key : RelaySourceKey) (peers : Fin n → List Text)
    (clock : Fin n → Int) (es : List (MeshEvent n)) :
    Charged key (M.limiterCalls j key (M.start peers clock) es)
      ((M.run (M.start peers clock) es).node j).clock
      ((M.run (M.start peers clock) es).node j).server := by
  apply Network.run_node_induction j
    (fun (b : Member) e => limiterCall (M.cfg j) key b.server (b.event e))
    (fun calls (b : Member) => Charged key calls b.clock b.server)
  · refine ⟨?_, fun t ht => by cases ht⟩
    intro w hw
    cases hw
  · intro calls b e hb
    apply hb.next
    show b.clock ≤ b.clock + e.elapsed
    omega

end Mesh

/-! ## A run with two senders -/

/-- A frame of node 1 for node 7, without payload. -/
def squeezeBody : Bytes := [0, 0, 0, 1, 0, 0, 0, 7]

def squeezeFrame : Bytes := 0x05 :: squeezeBody

/-- Beacon 0 receives the frame from `src` and queues it, and its worker sends it on when the
    timer fires. The worker asks for the output buffer number `k`, so it gets a new one as long
    as the pool has no more than `k`. -/
def forwardEvents (src : UDPAddr) (k : Nat) : List MemberEvent :=
  [⟨0, .packet sampleEnv squeezeFrame src 0⟩,
    ⟨0, .worker 7 (.job ⟨false, false, k⟩ ⟨0, fun _ => false⟩)⟩,
    ⟨0, .worker 7 (.timer ⟨1, fun _ => false⟩)⟩]

/-- The frame in flight arrives at beacon 1. -/
def squeezeArrival : MeshEvent 2 := .deliver 0 ⟨0, sampleEnv⟩

def firstSender : UDPAddr := sampleAddr 10 0 0 3 4000

def secondSender : UDPAddr := sampleAddr 10 0 0 4 4000

/-- `k` frames of the first sender go all the way. -/
def squeeze : Nat → List (MeshEvent 2)
  | 0 => timely
  | k + 1 => squeeze k ++ ((forwardEvents firstSender k).map (.act beacon0) ++ [squeezeArrival])

/-- The first sender uses up its budget, and the second sends one frame. -/
def squeezeLast : List (MeshEvent 2) :=
  squeeze maxRelaysPerSourcePerSecond ++
    (forwardEvents secondSender maxRelaysPerSourcePerSecond).map (.act beacon0)

/-! ## The budget of a beacon at the next one -/

/-- **A beacon's forwards share one budget**, and within it none is refused: if what beacon `j`
    receives from the endpoint of beacon `i` and charges to it stays within
    `maxRelaysPerSourcePerSecond` in every interval of one second, then no frame `i` forwards
    for a node registered at `j` is refused there, whatever else happens. -/
theorem forwarded_not_refused {n : Nat} (M : Mesh n) (i j : Fin n) (peers : Fin n → List Text)
    (clock : Fin n → Int) (es : List (MeshEvent n))
    (hbudget : ∀ t₀, (M.limiterCalls j (relaySourceForUDP (M.addr i)) (M.start peers clock)
      es).countP (fun t => t₀ ≤ t ∧ t < t₀ + second) ≤ maxRelaysPerSourcePerSecond) :
    Transition.Along M.step (fun m ev => M.refuses i j m ev = false) (M.start peers clock) es := by
  rw [Transition.along_iff]
  rintro pre ev post rfl
  rw [Bool.eq_false_iff]
  intro hrefuses
  obtain ⟨now, hnow, hcall, hrefused⟩ := Mesh.limiterCalls_of_refuses hrefuses
  have hcharged := M.charged_run j (relaySourceForUDP (M.addr i)) peers clock pre
  have hallow := hcharged.allow hnow ?_ hbudget
  · cases hallow.symm.trans hrefused
  · -- the calls so far and this one are among all calls
    rw [Mesh.limiterCalls, Mesh.limiterCalls, Transition.observe_append,
      Transition.observe_cons, hcall, ← List.append_assoc]
    exact List.sublist_append_left _ _

/-- A forwarded frame within the budget: beacon 1 charges it and does not refuse it. -/
theorem squeeze_one_not_refused :
    pair.limiterCalls 1 (relaySourceForUDP (pairAddr 0)) pairStart (squeeze 1) = [0] ∧
      Transition.Along pair.step (fun m ev => pair.refuses 0 1 m ev = false) pairStart
        (squeeze 1) :=
  ⟨by decide, forwarded_not_refused pair 0 1 _ _ _ fun _ => List.countP_le_length.trans (by decide)⟩

/-! ## Two senders share one budget -/

theorem decode_squeezeFrame (i : Fin 2) :
    (pair.cfg i).proto.decode squeezeFrame = .relay squeezeBody := rfl

theorem dest_squeezeBody : BigEndian.uint32 (squeezeBody.drop 4) = 7 := by decide

/-- The frame reaches the limiter of a beacon that knows node 7. -/
theorem routable_of_known {s : Server} {i : Fin 2}
    (h : s.relayKnown (pair.cfg i) sampleEnv 7 = true) :
    Server.relayRoutable (pair.cfg i) sampleEnv s squeezeBody = true := by
  rw [Server.relayRoutable, dest_squeezeBody, h]
  rfl

theorem routable_of_has {s : Server} (h : s.nodes.has 7 = true) (i : Fin 2) :
    Server.relayRoutable (pair.cfg i) sampleEnv s squeezeBody = true := by
  apply routable_of_known
  rw [NodeMap.has] at h
  rw [Server.relayKnown, NodeMap.get, h]
  rfl

/-- Beacon 0 has a route for node 7 to beacon 1. Frames for it are handled by worker 7, which
    has the queue `jobs` and the batch `msgs`; there are at most `k` output buffers. -/
structure Forwarder (k : Nat) (jobs : List RelayJob) (msgs : List Message) (s : Server) : Prop where
  conn : s.conn = some (pairAddr 0)
  unregistered : s.nodes.has 7 = false
  route : s.peerNodes.lookup 7 = some (pairAddr 1)
  running : (s.workers 7).stopped = false
  queue : s.relayChs 7 = jobs
  batch : (s.workers 7).msgs = msgs
  timer : msgs ≠ [] → (s.workers 7).timerActive = true
  outBufs : s.outBufPool.free.length + (s.workers 7).outBufsToReturn.length ≤ k

section

variable {k : Nat} {s : Server}

/-- An admitted frame is queued. -/
theorem Forwarder.receive (h : Forwarder k [] [] s) {src : UDPAddr} {now : Int}
    (hallow : (s.relayRL.allow (relaySourceForUDP src) now maxRelaysPerSourcePerSecond).1 = true) :
    ∃ buf s', step (pair.cfg 0) s ⟨now, .packet sampleEnv squeezeFrame src 0⟩ = (s', []) ∧
      Forwarder k [⟨1, 7, ⟨buf, []⟩⟩] [] s' ∧
      s'.relayRL = (s.relayRL.allow (relaySourceForUDP src) now maxRelaysPerSourcePerSecond).2 := by
  have hroutable : Server.relayRoutable (pair.cfg 0) sampleEnv s squeezeBody = true := by
    apply routable_of_known
    simp [Server.relayKnown, h.route]
  -- the queue is empty
  have hroom : (s.relayChs 7).length < relayQueueCap (pair.cfg 0) := by
    rw [h.queue]
    decide
  obtain ⟨buf, pool, hqueue⟩ := Server.queueRelay_of_room (pair.cfg 0) sampleEnv
    { s with
      relayRL := (s.relayRL.allow (relaySourceForUDP src) now maxRelaysPerSourcePerSecond).2 }
    squeezeBody (by decide) (by rw [dest_squeezeBody]; exact hroom)
  have hsrc : relaySource src 0 = relaySourceForUDP src := rfl
  have hstep : step (pair.cfg 0) s ⟨now, .packet sampleEnv squeezeFrame src 0⟩ =
      ({ s with
          relayRL := (s.relayRL.allow (relaySourceForUDP src) now maxRelaysPerSourcePerSecond).2
          pool := pool
          relayChs := Function.update s.relayChs 7 [⟨1, 7, ⟨buf, []⟩⟩] }, []) := by
    rw [dest_squeezeBody] at hqueue
    simp only [step, Server.handlePacketFrom, decode_squeezeFrame, hsrc,
      Server.dispatchRelay_of_routable hroutable, hallow, if_true, hqueue, List.map_nil]
    rw [show relayQueueFor (pair.cfg 0) 7 = 7 from rfl, h.queue]
    rfl
  exact ⟨buf, _, hstep, ⟨h.conn, h.unregistered, h.route, h.running, by simp, h.batch, h.timer,
    h.outBufs⟩, rfl⟩

/-- The worker takes the frame off its queue and puts it into its batch. -/
theorem Forwarder.job {buf : Buf} (h : Forwarder k [⟨1, 7, ⟨buf, []⟩⟩] [] s) (now : Int) :
    ∃ m s', step (pair.cfg 0) s ⟨now, .worker 7 (.job ⟨false, false, k⟩ ⟨0, fun _ => false⟩)⟩ =
        (s', []) ∧ m.addr = pairAddr 1 ∧ m.buffer.data = squeezeFrame ∧
      Forwarder (k + 1) [] [m] s' ∧ s'.relayRL = s.relayRL := by
  have hst : step (pair.cfg 0) s ⟨now, .worker 7 (.job ⟨false, false, k⟩ ⟨0, fun _ => false⟩)⟩ =
      ((Server.workerStep (pair.cfg 0) s 7 (.job ⟨false, false, k⟩ ⟨0, fun _ => false⟩)).1,
        (Server.workerStep (pair.cfg 0) s 7 (.job ⟨false, false, k⟩ ⟨0, fun _ => false⟩)).2.map
          .relayed) := rfl
  have hout := h.outBufs
  -- no pooled buffer has the number asked for
  have hget : s.outBufPool.get k (maxRelayPayload + 9) = (⟨s.outBufPool.next, maxRelayPayload + 9⟩,
      { s.outBufPool with next := s.outBufPool.next + 1 }) := by
    rw [Pool.get, List.getElem?_eq_none (by omega)]
  -- not registered here, so tier 2
  have hroute : (s.route 7).header (pair.cfg 0) ⟨1, 7, ⟨buf, []⟩⟩ =
      some (pairAddr 1, squeezeFrame) := by
    have hheader : relayHeader (pair.cfg 0) 1 7 = squeezeFrame := by decide
    rw [Server.route_eq_peer.mpr ⟨h.unregistered, h.route⟩, Route.header, hheader]
  have hfit : (squeezeFrame ++ []).length ≤ (s.outBufPool.get k (maxRelayPayload + 9)).1.cap := by
    rw [hget]
    show (squeezeFrame ++ []).length ≤ maxRelayPayload + 9
    decide
  have hbatch : (s.workers 7).msgs.length + 1 < relayBatchCap := by
    rw [h.batch]
    decide
  rw [Server.workerStep_job _ _ _ (by rw [h.conn]; rfl) h.running h.queue,
    Server.handleJob_batched (pair.cfg 0) ⟨false, false, k⟩ ⟨0, fun _ => false⟩
      { s with relayChs := Function.update s.relayChs 7 [] } 7 ⟨1, 7, ⟨buf, []⟩⟩ rfl hroute hfit
      hbatch] at hst
  refine ⟨⟨⟨(s.outBufPool.get k (maxRelayPayload + 9)).1, squeezeFrame ++ []⟩, pairAddr 1, 7⟩,
    _, hst, rfl, rfl, ?_, rfl⟩
  refine ⟨h.conn, h.unregistered, h.route, ?_, ?_, ?_, ?_, ?_⟩
  · simpa using h.running
  · simp
  · simp [h.batch]
  · simp
  · simp [hget]
    omega

/-- When the timer fires the batch is sent. -/
theorem Forwarder.timer_fires {m : Message} (h : Forwarder k [] [m] s) (now : Int) :
    ∃ s', step (pair.cfg 0) s ⟨now, .worker 7 (.timer ⟨1, fun _ => false⟩)⟩ =
        (s', [.relayed (.udp m)]) ∧ Forwarder k [] [] s' ∧ s'.relayRL = s.relayRL := by
  have hbatch : ((s.setWorker 7 { s.workers 7 with timerActive := false }).workers 7).msgs =
      [m] := by
    simp [Server.setWorker, h.batch]
  -- the socket is bound to an IPv4 address
  have hdual : (s.setWorker 7 { s.workers 7 with timerActive := false }).sendDualStack = false := by
    rw [Server.sendDualStack, Server.setWorker, h.conn]
    decide
  have hflush := Server.flush_all ⟨1, fun _ => false⟩ (by rw [hbatch]; simp) hdual
    (by rw [hbatch]; rfl)
  have hstep := Server.workerStep_timer (pair.cfg 0) ⟨1, fun _ => false⟩ (by rw [h.conn]; rfl)
    h.running (h.timer (by simp))
  rw [hflush, hbatch] at hstep
  refine ⟨(s.setWorker 7 { s.workers 7 with timerActive := false }).finishFlush 7 1, ?_, ?_, rfl⟩
  · rw [step]
    dsimp only
    rw [hstep]
    rfl
  · refine ⟨h.conn, h.unregistered, h.route, ?_, h.queue, ?_, ?_, ?_⟩
    · simpa [Server.finishFlush, Server.setWorker] using h.running
    · simp [Server.finishFlush]
    · simp
    · have hout := h.outBufs
      simp only [Server.finishFlush, Server.setWorker, Function.update_self,
        Pool.length_free_foldl_put, List.length_nil]
      omega

end

/-- An event of member 0 that takes no time. -/
theorem pair_step_act {m : MeshState 2} {act : Act} {s s' : Server} {out : List Output}
    {flights : List (Network.Flight (Fin 2) Bytes)} {now : Int}
    (h : step (pair.cfg 0) s ⟨now, act⟩ = (s', out)) :
    pair.step ⟨Function.update m.node 0 ⟨s, now⟩, flights⟩ (.act beacon0 ⟨0, act⟩) =
      ⟨Function.update m.node 0 ⟨s', now⟩,
        flights ++ (pair.internal out).map fun x => ⟨0, x.1, x.2⟩⟩ := by
  have hnow : now + ((0 : Nat) : Int) = now := by omega
  have hstep : PilotBeacon.step (pair.cfg 0) (Function.update m.node 0 ⟨s, now⟩ 0).server
      ((Function.update m.node 0 ⟨s, now⟩ 0).event ⟨0, act⟩) = (s', out) := by
    rw [Function.update_self, Member.event, hnow]
    exact h
  have hact := pair.step_act_of (m := ⟨Function.update m.node 0 ⟨s, now⟩, flights⟩) hstep
  simpa only [Function.update_self, Function.update_idem, hnow] using hact

/-- Beacon 0 receives, queues and sends on a frame from `src`. -/
theorem run_forwardEvents {m : MeshState 2} {k : Nat} {now : Int} (hnow : (m.node 0).clock = now)
    (h : Forwarder k [] [] (m.node 0).server) {src : UDPAddr}
    (hallow : ((m.node 0).server.relayRL.allow (relaySourceForUDP src) now
      maxRelaysPerSourcePerSecond).1 = true) :
    ∃ s', pair.run m ((forwardEvents src k).map (.act beacon0)) =
        ⟨Function.update m.node 0 ⟨s', now⟩, m.flights ++ [⟨0, 1, squeezeFrame⟩]⟩ ∧
      Forwarder (k + 1) [] [] s' ∧ s'.relayRL = ((m.node 0).server.relayRL.allow
        (relaySourceForUDP src) now maxRelaysPerSourcePerSecond).2 := by
  obtain ⟨buf, s₁, hstep₁, h₁, hrl₁⟩ := h.receive hallow
  obtain ⟨msg, s₂, hstep₂, haddr, hdata, h₂, hrl₂⟩ := h₁.job now
  obtain ⟨s₃, hstep₃, h₃, hrl₃⟩ := h₂.timer_fires now
  refine ⟨s₃, ?_, h₃, by rw [hrl₃, hrl₂, hrl₁]⟩
  -- the only output of the three events goes to beacon 1
  have hsent : pair.internal [.relayed (.udp msg)] = [(1, squeezeFrame)] := by
    simp only [Mesh.internal, List.filterMap_cons, List.filterMap_nil, Output.datagram?, haddr,
      hdata]
    decide
  have hsilent : pair.internal [] = [] := rfl
  have hm : m = ⟨Function.update m.node 0 ⟨(m.node 0).server, now⟩, m.flights⟩ := by
    rw [← hnow, Function.update_eq_self]
  conv_lhs => rw [hm]
  simp only [Mesh.run, forwardEvents, List.map_cons, List.map_nil, Transition.run_cons,
    Transition.run_nil]
  rw [pair_step_act hstep₁, pair_step_act hstep₂, pair_step_act hstep₃, hsent, hsilent]
  simp

def WindowOf (rl : RelayRateLimiter) (key : RelaySourceKey) (k : Nat) : Prop :=
  rl.lookup key = if k = 0 then none else some ⟨0, k⟩

theorem WindowOf.allow {rl : RelayRateLimiter} {key : RelaySourceKey} {k : Nat}
    (h : WindowOf rl key k) (hk : k < maxRelaysPerSourcePerSecond) :
    (rl.allow key 0 maxRelaysPerSourcePerSecond).1 = true ∧
      WindowOf (rl.allow key 0 maxRelaysPerSourcePerSecond).2 key (k + 1) := by
  unfold RelayRateLimiter.allow Limiter.windowAllow
  rw [h]
  -- the first call opens the window, the others find it open
  by_cases h0 : k = 0
  · subst h0
    exact ⟨rfl, ShardedMap.lookup_insert_self _ _ _⟩
  · rw [if_neg h0]
    dsimp only
    rw [if_neg (by decide), if_neg (by omega)]
    exact ⟨rfl, ShardedMap.lookup_insert_self _ _ _⟩

theorem WindowOf.full {rl : RelayRateLimiter} {key : RelaySourceKey}
    (h : WindowOf rl key maxRelaysPerSourcePerSecond) :
    (rl.allow key 0 maxRelaysPerSourcePerSecond).1 = false := by
  unfold RelayRateLimiter.allow Limiter.windowAllow
  rw [h, if_neg (by decide)]
  dsimp only
  rw [if_neg (by decide), if_pos (le_refl _)]

structure Squeezed (k : Nat) (m : MeshState 2) : Prop where
  quiet : m.flights = []
  clocks : ∀ i, (m.node i).clock = 0
  forwarder : Forwarder k [] [] (m.node 0).server
  first : WindowOf (m.node 0).server.relayRL (relaySourceForUDP firstSender) k
  second : WindowOf (m.node 0).server.relayRL (relaySourceForUDP secondSender) 0
  registered : (m.node 1).server.nodes.has 7 = true
  shared : WindowOf (m.node 1).server.relayRL (relaySourceForUDP (pairAddr 0)) k

theorem squeezed_zero : Squeezed 0 (pair.run pairStart timely) where
  quiet := by decide
  clocks := by decide
  forwarder := ⟨rfl, rfl, rfl, rfl, rfl, rfl, by simp, by decide⟩
  first := rfl
  second := rfl
  registered := rfl
  shared := rfl

/-- A frame of beacon 0 reaches the limiter of beacon 1. -/
theorem squeeze_arrives {m : MeshState 2} {k : Nat} (hflights : m.flights = [⟨0, 1, squeezeFrame⟩])
    (hclock : (m.node 1).clock = 0) (hreg : (m.node 1).server.nodes.has 7 = true)
    (hshared : WindowOf (m.node 1).server.relayRL (relaySourceForUDP (pairAddr 0)) k)
    (hk : k < maxRelaysPerSourcePerSecond) :
    ∃ s', pair.step m squeezeArrival = ⟨Function.update m.node 1 ⟨s', 0⟩, []⟩ ∧
      s'.nodes.has 7 = true ∧ WindowOf s'.relayRL (relaySourceForUDP (pairAddr 0)) (k + 1) := by
  have hf : m.flights[0]? = some ⟨0, 1, squeezeFrame⟩ := by
    rw [hflights]
    rfl
  have hevent : (m.node 1).event (pair.receive 0 squeezeFrame ⟨0, sampleEnv⟩) =
      ⟨0, .packet sampleEnv squeezeFrame (pairAddr 0) 0⟩ := by
    rw [Member.event, hclock]
    rfl
  -- the frame changes the limiter and the queues of beacon 1, not its nodes
  have htables := next_tables (pair.cfg 1) (m.node 1).server
    ⟨0, .packet sampleEnv squeezeFrame (pairAddr 0) 0⟩
  simp only [decode_squeezeFrame, routable_of_has hreg, if_true] at htables
  refine ⟨next (pair.cfg 1) (m.node 1).server ⟨0, .packet sampleEnv squeezeFrame (pairAddr 0) 0⟩,
    ?_, ?_, ?_⟩
  · rw [squeezeArrival, pair.step_deliver hf, hflights, Member.next, hevent, hclock]
    rfl
  · rw [show (next _ _ _).nodes = (next _ _ _).tables.nodes from rfl, htables]
    exact hreg
  · rw [show (next _ _ _).relayRL = (next _ _ _).tables.relayRL from rfl, htables]
    exact (hshared.allow hk).2

/-- With the budget used up, the frame is refused. -/
theorem refuses_of_full {m : MeshState 2} (hflights : m.flights = [⟨0, 1, squeezeFrame⟩])
    (hclock : (m.node 1).clock = 0) (hreg : (m.node 1).server.nodes.has 7 = true)
    (hshared : WindowOf (m.node 1).server.relayRL (relaySourceForUDP (pairAddr 0))
      maxRelaysPerSourcePerSecond) :
    pair.refuses 0 1 m squeezeArrival = true := by
  have hlimited : (Server.dispatchRelay (pair.cfg 1) sampleEnv 0 (m.node 1).server
      squeezeBody (relaySourceForUDP (pairAddr 0))).2 = .limited :=
    Server.dispatchRelay_limited.mpr ⟨routable_of_has hreg 1, hshared.full⟩
  have hsrc : relaySource (pairAddr 0) 0 = relaySourceForUDP (pairAddr 0) := rfl
  simp only [Mesh.refuses, squeezeArrival, hflights, List.getElem?_cons_zero, Option.any_some,
    decode_squeezeFrame, dest_squeezeBody, hreg, hclock]
  simpa [show pair.addr 0 = pairAddr 0 from rfl, hsrc] using hlimited

/-- One frame of the first sender goes all the way. -/
theorem Squeezed.step {k : Nat} {m : MeshState 2} (h : Squeezed k m)
    (hk : k < maxRelaysPerSourcePerSecond) :
    Squeezed (k + 1)
      (pair.run m ((forwardEvents firstSender k).map (.act beacon0) ++ [squeezeArrival])) := by
  obtain ⟨s₀, hrun, hforwarder, hrl⟩ := run_forwardEvents (h.clocks 0) h.forwarder
    (h.first.allow hk).1
  rw [h.quiet] at hrun
  obtain ⟨s₁, hstep, hreg, hshared⟩ := squeeze_arrives
    (m := ⟨Function.update m.node 0 ⟨s₀, 0⟩, [] ++ [⟨0, 1, squeezeFrame⟩]⟩) rfl (h.clocks 1)
    h.registered h.shared hk
  -- through beacon 0 and into beacon 1
  have hfinal : pair.run m ((forwardEvents firstSender k).map (.act beacon0) ++ [squeezeArrival]) =
      ⟨Function.update (Function.update m.node 0 ⟨s₀, 0⟩) 1 ⟨s₁, 0⟩, []⟩ := by
    rw [Mesh.run, Transition.run_concat]
    exact (congrArg (fun m => pair.step m squeezeArrival) hrun).trans hstep
  have hkeys : relaySourceForUDP secondSender ≠ relaySourceForUDP firstSender := by decide
  rw [hfinal]
  refine ⟨rfl, ?_, hforwarder, ?_, ?_, hreg, hshared⟩
  · intro i
    match i with
    | 0 => rfl
    | 1 => rfl
  · show WindowOf s₀.relayRL _ _
    rw [hrl]
    exact (h.first.allow hk).2
  · show WindowOf s₀.relayRL _ _
    rw [hrl]
    exact (Limiter.lookup_windowAllow_of_ne hkeys _ _ _).trans h.second

/-- Once the first sender has used up its budget, the next frame of the second is refused. -/
theorem Squeezed.refuses {m : MeshState 2} (h : Squeezed maxRelaysPerSourcePerSecond m) :
    pair.refuses 0 1 (pair.run m ((forwardEvents secondSender maxRelaysPerSourcePerSecond).map
      (.act beacon0))) squeezeArrival = true := by
  obtain ⟨s₀, hrun, -, -⟩ := run_forwardEvents (h.clocks 0) h.forwarder
    (h.second.allow (by decide)).1
  rw [hrun, h.quiet]
  exact refuses_of_full rfl (h.clocks 1) h.registered h.shared

theorem squeezed {k : Nat} (hk : k ≤ maxRelaysPerSourcePerSecond) :
    Squeezed k (pair.run pairStart (squeeze k)) := by
  induction k with
  | zero => exact squeezed_zero
  | succ k ih =>
    rw [squeeze, Mesh.run, Transition.run_append]
    exact (ih (by omega)).step (by omega)

/-- An event in which member `i` receives a relay frame from the endpoint `src` outside. -/
def Mesh.relayFrom {n : Nat} (M : Mesh n) (i : Fin n) (src : UDPAddr) : MeshEvent n → Bool
  | .act j ⟨_, .packet _ data remote _⟩ =>
    decide (j = i) && remote.sameEndpoint src &&
      match (M.cfg i).proto.decode data with
      | .relay _ => true
      | _ => false
  | _ => false

/-- A frame on its way through beacon 0 is one frame of its sender. -/
theorem countP_forwardEvents (src src' : UDPAddr) (k : Nat) :
    ((forwardEvents src' k).map (Network.Event.act beacon0)).countP (pair.relayFrom 0 src) =
      if src'.sameEndpoint src then 1 else 0 := by
  simp [forwardEvents, Mesh.relayFrom, decode_squeezeFrame, List.countP_cons]

theorem countP_squeeze (src : UDPAddr) (k : Nat) :
    (squeeze k).countP (pair.relayFrom 0 src) = if firstSender.sameEndpoint src then k else 0 := by
  induction k with
  | zero =>
    rw [ite_self]
    rfl
  | succ k ih =>
    rw [squeeze, List.countP_append, List.countP_append, ih, countP_forwardEvents]
    split_ifs <;> rfl

/-- **The second sender's only frame is refused** at beacon 1, because the first one has used up
    the budget of beacon 0 there; both stay within their own budgets. -/
theorem squeeze_refused :
    (∀ src, squeezeLast.countP (pair.relayFrom 0 src) ≤ maxRelaysPerSourcePerSecond) ∧
      pair.refuses 0 1 (pair.run pairStart squeezeLast) squeezeArrival = true := by
  constructor
  · intro src
    rw [squeezeLast, List.countP_append, countP_squeeze, countP_forwardEvents]
    -- no endpoint is that of both senders
    by_cases hfirst : firstSender.sameEndpoint src = true
    · have hsecond : secondSender.sameEndpoint src = false := by
        rw [← UDPAddr.sameEndpoint_congr hfirst]
        decide
      simp [hfirst, hsecond]
    · rw [if_neg hfirst]
      split_ifs <;> decide
  · rw [squeezeLast, Mesh.run, Transition.run_append]
    exact (squeezed (le_refl maxRelaysPerSourcePerSecond)).refuses

end PilotBeacon

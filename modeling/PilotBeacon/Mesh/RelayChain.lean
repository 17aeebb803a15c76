import PilotBeacon.Lib.History
import PilotBeacon.Server.RelayAccounting

/-!
# Multi-Hop Relay

A frame can pass any number of beacons: each has a route for the destination to the next one,
the last has the destination registered. A beacon parses what it receives, queues sender,
destination and payload, and puts another datagram together from them; these are the facts
about the ends of such a chain.

- `Passage`: a datagram's way through one beacon, in an arbitrary run of it
- `RelayChain`: a datagram's way through several
- `relay_fidelity`: what arrives is what was sent
-/

namespace PilotBeacon

open PilotBeacon.Lib PilotBeacon.Net

/-- `[type(1)][sender(4)][dest(4)][payload…]`. -/
def Protocol.relayDatagram (p : Protocol) (sender dest : UInt32) (payload : Bytes) : Bytes :=
  p.beaconMsgRelay :: (BigEndian.putUint32 sender ++ BigEndian.putUint32 dest ++ payload)

/-- `dispatchRelay` reads the datagram as a frame with this sender, destination and payload. -/
def Protocol.ReadsAs (p : Protocol) (data : Bytes) (sender dest : UInt32) (payload : Bytes) :
    Prop :=
  ∃ body, p.decode data = .relay body ∧ 8 ≤ body.length ∧ BigEndian.uint32 body = sender ∧
    BigEndian.uint32 (body.drop 4) = dest ∧ body.drop 8 = payload

/-- Reading undoes writing. -/
theorem Protocol.relayDatagram_readsAs (p : Protocol) (sender dest : UInt32) (payload : Bytes) :
    p.ReadsAs (p.relayDatagram sender dest payload) sender dest payload := by
  refine ⟨_, (Protocol.decode_cons p _).2.2.2.1, by simp; omega, ?_, ?_, ?_⟩
  · rw [List.append_assoc, BigEndian.uint32_putUint32_append]
  · rw [List.append_assoc, BigEndian.drop_putUint32_append, BigEndian.uint32_putUint32_append]
  · have hdrop : ∀ l : Bytes, l.drop 8 = (l.drop 4).drop 4 := fun l => by rw [List.drop_drop]
    rw [hdrop, List.append_assoc, BigEndian.drop_putUint32_append,
      BigEndian.drop_putUint32_append]

/-! ## Delivery marks -/

/-- The event is a DiscoverEx of `d` that is let in. -/
def requestsDest (cfg : Config) (d : UInt32) (e : Event) : Bool :=
  match e.act with
  | .packet env data _ _ =>
    match cfg.proto.decode data with
    | .discover body true => Server.discoverAdmitted env body && BigEndian.uint32 body == d
    | _ => false
  | _ => false

/-- Events, each with the state it leads to. -/
def trace (cfg : Config) (s : Server) (es : List Event) : List (Event × Server) :=
  Transition.observe (next cfg) (fun s e => [(e, next cfg s e)]) s es

/-- `d` asked for destination-carrying delivery, and was registered after each round of the reaper
    since. -/
def DestRequested (cfg : Config) (s : Server) (d : UInt32) (es : List Event) : Prop :=
  History.Since (fun p => p.1.act = .reap → p.2.nodes.has d = true)
    (fun p => requestsDest cfg d p.1 = true) (trace cfg s es)

theorem dstNodes_next (cfg : Config) (s : Server) (d : UInt32) (e : Event) :
    ((next cfg s e).dstNodes.lookup d).isSome = true ↔ requestsDest cfg d e = true ∨
      (s.dstNodes.lookup d).isSome = true ∧
        (e.act = .reap → (next cfg s e).nodes.has d = true) := by
  obtain ⟨now, act⟩ := e
  have hdst : (next cfg s ⟨now, act⟩).dstNodes = (next cfg s ⟨now, act⟩).tables.dstNodes := rfl
  cases act with
  | reap =>
    have hreap : next cfg s ⟨now, .reap⟩ = s.reapStaleNodes now := rfl
    rw [hreap, Server.lookup_dstNodes_reap]
    cases (s.reapStaleNodes now).nodes.has d <;> simp [requestsDest]
  | packet env data remote bridgePeer =>
    rw [hdst, next_tables]
    simp only [requestsDest, reduceCtorEq, false_implies, and_true]
    cases cfg.proto.decode data with
    | discover body wantDest =>
      cases wantDest with
      | false => simp [Server.noteDiscover]
      | true =>
        cases hadm : Server.discoverAdmitted env body with
        | false => simp [hadm]
        | true =>
          simp only [hadm, Server.noteDiscover, if_true, Bool.true_and, beq_iff_eq]
          rw [FiniteMap.lookup_insert_eq]
          by_cases hd : d = BigEndian.uint32 body
          · simp [hd]
          · simp [hd, Ne.symm hd]
    | _ => simp [Server.tables]
  | _ =>
    rw [hdst, next_tables]
    simp [requestsDest, Server.tables]

/-- A node is marked exactly if it asked. -/
theorem dstNodes_iff_requested (cfg : Config) (peers : List Text) (d : UInt32) (es : List Event) :
    ((runFrom cfg peers es).dstNodes.lookup d).isSome = true ↔
      DestRequested cfg (newWithPeers cfg peers) d es := by
  unfold runFrom
  apply Transition.run_induction (next cfg) (s := newWithPeers cfg peers)
    (fun es s => (s.dstNodes.lookup d).isSome = true ↔
      DestRequested cfg (newWithPeers cfg peers) d es)
  · exact ⟨nofun, fun h => absurd h History.not_since_nil⟩
  · intro es e ih
    rw [DestRequested, trace, Transition.observe_concat, History.since_concat, dstNodes_next, ih]
    rfl

/-! ## One beacon -/

/-- A datagram's way through a beacon. It arrives after the events `before` and puts `job` on a
    queue; after the events `waiting` a worker takes the job and batches it as `message`, which
    that round or one of the events `after` sends. -/
structure Passage (data : Bytes) where
  cfg : Config
  peers : List Text
  before : List Event
  now : Int
  env : Env
  remote : UDPAddr
  bridgePeer : UInt32
  waiting : List Event
  round : Int
  worker : Nat
  jobEnv : JobEnv
  flush : FlushOutcome
  after : List Event
  job : RelayJob
  message : Message
  queued : ∃ i, (next cfg (runFrom cfg peers before)
      ⟨now, .packet env data remote bridgePeer⟩).relayChs i =
    (runFrom cfg peers before).relayChs i ++ [job]
  taken : (runFrom cfg peers (before ++ ⟨now, .packet env data remote bridgePeer⟩ :: waiting)).taken
    cfg worker (.job jobEnv flush) = some (job, .batched message)
  sent : .udp message ∈ Transition.observe (next cfg) (fun s e => transmitted cfg s (.beacon e))
    (runFrom cfg peers (before ++ ⟨now, .packet env data remote bridgePeer⟩ :: waiting))
    (⟨round, .worker worker (.job jobEnv flush)⟩ :: after)

namespace Passage

variable {data : Bytes} (p : Passage data)

/-- What happened before a worker takes the job. -/
def events : List Event :=
  p.before ++ ⟨p.now, .packet p.env data p.remote p.bridgePeer⟩ :: p.waiting

/-- The beacon when a worker takes the job. -/
def state : Server := runFrom p.cfg p.peers p.events

variable {p} {sender dest : UInt32} {payload : Bytes}

theorem readsAs {proto : Protocol} (hproto : p.cfg.proto = proto)
    (hdata : data = proto.relayDatagram sender dest payload) :
    p.cfg.proto.ReadsAs data sender dest payload := by
  rw [hproto, hdata]
  exact proto.relayDatagram_readsAs sender dest payload

/-- The job is the frame the datagram reads as. -/
theorem job_eq (h : p.cfg.proto.ReadsAs data sender dest payload) :
    p.job.senderID = sender ∧ p.job.destID = dest ∧ p.job.payload.data = payload := by
  obtain ⟨body, hdec, -, rfl, rfl, rfl⟩ := h
  obtain ⟨i, hi⟩ := p.queued
  have hnext : next p.cfg (runFrom p.cfg p.peers p.before)
      ⟨p.now, .packet p.env data p.remote p.bridgePeer⟩ =
      ((runFrom p.cfg p.peers p.before).dispatchRelay p.cfg p.env p.now body
        (relaySource p.remote p.bridgePeer)).1 := by
    simp only [next, step, Server.handlePacketFrom, hdec]
  rw [hnext] at hi
  have haccount := Server.dispatchRelay_account p.cfg p.env p.now
    (runFrom p.cfg p.peers p.before) body (relaySource p.remote p.bridgePeer)
  by_cases hfate : ((runFrom p.cfg p.peers p.before).dispatchRelay p.cfg p.env p.now body
      (relaySource p.remote p.bridgePeer)).2 = .queued
  · obtain ⟨-, buf, hchs⟩ := haccount.queued hfate
    rw [hchs] at hi
    by_cases hq : i = relayQueueFor p.cfg (BigEndian.uint32 (body.drop 4))
    · subst hq
      rw [Function.update_self] at hi
      obtain hjob := List.singleton_inj.mp (List.append_cancel_left hi)
      rw [← hjob]
      exact ⟨rfl, rfl, rfl⟩
    · rw [Function.update_of_ne hq] at hi
      exact absurd hi.symm (by simp)
  · -- nothing was queued
    rw [haccount.other hfate] at hi
    exact absurd hi.symm (by simp)

/-- The message is the frame behind the header of its route. -/
theorem message_eq (h : p.cfg.proto.ReadsAs data sender dest payload) :
    ∃ header, (p.state.route dest).header p.cfg p.job = some (p.message.addr, header) ∧
      p.message.buffer.data = header ++ payload := by
  obtain ⟨-, hdest, hpayload⟩ := job_eq h
  obtain ⟨env, o, rest, -, -, hj⟩ := Server.taken_eq_some p.taken
  obtain ⟨-, ⟨-, header, hroute, hdata⟩, -⟩ := Server.jobOutcome_batched hj.symm
  rw [hdest] at hroute
  rw [hpayload] at hdata
  exact ⟨header, hroute, hdata⟩

/-- **A forwarded frame leaves as it came.** -/
theorem forwarded (h : p.cfg.proto.ReadsAs data sender dest payload) {addr : UDPAddr}
    (hroute : p.state.route dest = .peer addr) :
    p.message.addr = addr ∧
      p.message.buffer.data = p.cfg.proto.relayDatagram sender dest payload := by
  obtain ⟨hsender, hdest, -⟩ := job_eq h
  obtain ⟨header, hheader, hdata⟩ := message_eq h
  rw [hroute, Route.header, hsender, hdest] at hheader
  cases hheader
  exact ⟨rfl, by rw [hdata]; rfl⟩

/-- **A delivered frame**, in the layout the destination asked for. -/
theorem delivered (h : p.cfg.proto.ReadsAs data sender dest payload)
    (hlocal : p.state.nodes.has dest = true) :
    p.message.buffer.data =
      (if (p.state.dstNodes.lookup dest).isSome then deliverDestHeader p.cfg sender dest
        else deliverHeader p.cfg sender) ++ payload := by
  obtain ⟨hsender, hdest, -⟩ := job_eq h
  obtain ⟨header, hheader, hdata⟩ := message_eq h
  obtain ⟨addr, hroute⟩ : ∃ addr, p.state.route dest =
      .localNode addr (p.state.dstNodes.lookup dest).isSome := by
    obtain ⟨node, hnode⟩ := (NodeMap.has_iff _ _).mp hlocal
    exact ⟨node.addr, by rw [Server.route, NodeMap.snapshot, hnode]; rfl⟩
  rw [hroute] at hheader
  rw [hdata]
  cases hmark : (p.state.dstNodes.lookup dest).isSome with
  | true =>
    rw [hmark, Route.header, hsender, hdest] at hheader
    cases hheader
    rfl
  | false =>
    rw [hmark, Route.header, hsender] at hheader
    cases hheader
    rfl

end Passage

/-! ## Chains of beacons -/

/-- A way to `dest` from the beacon at the given address, which receives the given datagram. The
    last beacon has `dest` registered; every other one has a route for it to the next one, which
    receives what it sends. -/
inductive RelayChain (proto : Protocol) (dest : UInt32) : UDPAddr → Bytes → Type
  | deliver {addr : UDPAddr} {data : Bytes} (p : Passage data) (hproto : p.cfg.proto = proto)
      (registered : p.state.nodes.has dest = true) : RelayChain proto dest addr data
  | forward {addr : UDPAddr} {data : Bytes} (p : Passage data) (hproto : p.cfg.proto = proto)
      (next : UDPAddr) (route : p.state.route dest = .peer next)
      (rest : RelayChain proto dest next p.message.buffer.data) : RelayChain proto dest addr data

namespace RelayChain

variable {proto : Protocol} {dest : UInt32}

/-- What the beacons but the last send. -/
def forwarded : ∀ {addr : UDPAddr} {data : Bytes}, RelayChain proto dest addr data → List Message
  | _, _, deliver _ _ _ => []
  | _, _, forward p _ _ _ rest => p.message :: rest.forwarded

/-- The way through the last beacon. -/
def last : ∀ {addr : UDPAddr} {data : Bytes}, RelayChain proto dest addr data →
    (data : Bytes) × Passage data
  | _, _, deliver p _ _ => ⟨_, p⟩
  | _, _, forward _ _ _ _ rest => rest.last

/-- What the last beacon sends. -/
def delivery {addr : UDPAddr} {data : Bytes} (chain : RelayChain proto dest addr data) : Bytes :=
  chain.last.2.message.buffer.data

/-- `dest` asked the last beacon for destination-carrying delivery. -/
def Requested {addr : UDPAddr} {data : Bytes} (chain : RelayChain proto dest addr data) : Prop :=
  DestRequested chain.last.2.cfg (newWithPeers chain.last.2.cfg chain.last.2.peers) dest
    chain.last.2.events

variable {sender : UInt32} {payload : Bytes}

/-- Every beacon but the last sends the datagram it received. -/
theorem forwarded_eq {addr : UDPAddr} {data : Bytes} (chain : RelayChain proto dest addr data)
    (hdata : data = proto.relayDatagram sender dest payload) :
    ∀ m ∈ chain.forwarded, m.buffer.data = proto.relayDatagram sender dest payload := by
  induction chain with
  | deliver p hproto registered => exact fun _ hm => absurd hm List.not_mem_nil
  | forward p hproto next route rest ih =>
    have hsent := (Passage.forwarded (Passage.readsAs hproto hdata) route).2
    rw [hproto] at hsent
    intro m hm
    rcases List.mem_cons.mp hm with rfl | hm
    · exact hsent
    · exact ih hsent m hm

/-- The last beacon delivers the frame. -/
theorem delivery_eq {addr : UDPAddr} {data : Bytes} (chain : RelayChain proto dest addr data)
    (hdata : data = proto.relayDatagram sender dest payload) :
    (chain.Requested → chain.delivery = proto.beaconMsgRelayDeliverDest ::
        (BigEndian.putUint32 sender ++ BigEndian.putUint32 dest) ++ payload) ∧
      (¬ chain.Requested →
        chain.delivery = proto.beaconMsgRelayDeliver :: BigEndian.putUint32 sender ++ payload) := by
  induction chain with
  | deliver p hproto registered =>
    have hsent := Passage.delivered (Passage.readsAs hproto hdata) registered
    have hmark := dstNodes_iff_requested p.cfg p.peers dest p.events
    constructor
    · intro hreq
      have hdst : (p.state.dstNodes.lookup dest).isSome = true := hmark.mpr hreq
      rw [hdst, if_pos rfl, deliverDestHeader, hproto] at hsent
      exact hsent
    · intro hreq
      have hdst : (p.state.dstNodes.lookup dest).isSome = false := by
        rw [Bool.eq_false_iff]
        exact fun h => hreq (hmark.mp h)
      rw [hdst, if_neg Bool.false_ne_true, deliverHeader, hproto] at hsent
      exact hsent
  | forward p hproto next route rest ih =>
    -- the next beacon receives the same datagram
    have hsent := (Passage.forwarded (Passage.readsAs hproto hdata) route).2
    rw [hproto] at hsent
    exact ih hsent

end RelayChain

/-- **Multi-hop fidelity.** Whatever chain of beacons a Relay datagram takes and whatever else
    happens at each of them, what every beacon sends on reads at the next one as a frame with the
    same sender, destination and payload, the delivery is the sender and the payload, with the
    destination in between exactly if it asked for that, and nothing sent is longer than what
    the first beacon received, which one UDP datagram can hold. -/
theorem relay_fidelity (proto : Protocol) (sender dest : UInt32) (payload : Bytes)
    (hsize : payload.length ≤ 65498) (addr : UDPAddr)
    (chain : RelayChain proto dest addr (proto.relayDatagram sender dest payload)) :
    (∀ m ∈ chain.forwarded, proto.ReadsAs m.buffer.data sender dest payload) ∧
      (chain.Requested → chain.delivery = proto.beaconMsgRelayDeliverDest ::
        (BigEndian.putUint32 sender ++ BigEndian.putUint32 dest) ++ payload) ∧
      (¬ chain.Requested →
        chain.delivery = proto.beaconMsgRelayDeliver :: BigEndian.putUint32 sender ++ payload) ∧
      (∀ x ∈ chain.delivery :: chain.forwarded.map (fun m => m.buffer.data),
        x.length ≤ (proto.relayDatagram sender dest payload).length) ∧
      (proto.relayDatagram sender dest payload).length ≤ maxUDPPayload := by
  have hforwarded := chain.forwarded_eq rfl
  obtain ⟨hdest, hplain⟩ := chain.delivery_eq rfl
  have hlength : (proto.relayDatagram sender dest payload).length = payload.length + 9 := by
    simp [Protocol.relayDatagram]
    omega
  refine ⟨?_, hdest, hplain, ?_, ?_⟩
  · intro m hm
    rw [hforwarded m hm]
    exact proto.relayDatagram_readsAs sender dest payload
  · intro x hx
    rcases List.mem_cons.mp hx with rfl | hx
    · rw [hlength]
      by_cases hreq : chain.Requested
      · rw [hdest hreq]
        simp
        omega
      · rw [hplain hreq]
        simp
        omega
    · obtain ⟨m, hm, rfl⟩ := List.mem_map.mp hx
      rw [hforwarded m hm]
  · rw [hlength, maxUDPPayload]
    omega

/-! ## A chain of three -/

/-- Node 7 sends one byte to node 9. -/
def sampleRelay : Bytes := sampleProtocol.relayDatagram 7 9 [0xaa]

/-- A beacon binds its sockets and learns about node 9 from a datagram. -/
def knowing (source : UDPAddr) (news : Bytes) : List Event :=
  [⟨0, .listen (sampleAddr 0 0 0 0 9001)⟩, sampleDatagram 0 source news]

/-- The first beacon has a route to the second. -/
def firstPassage : Passage sampleRelay where
  cfg := sampleConfig
  peers := []
  before := knowing (sampleAddr 10 0 0 2 9001) (syncMessage sampleConfig [9])
  now := second
  env := sampleEnv
  remote := sampleAddr 10 0 0 7 4000
  bridgePeer := 0
  waiting := []
  round := second
  worker := 1
  jobEnv := ⟨false, false, 0⟩
  flush := ⟨0, fun _ => false⟩
  after := [⟨second, .worker 1 (.timer ⟨1, fun _ => true⟩)⟩]
  job := ⟨7, 9, ⟨⟨0, 1500⟩, [0xaa]⟩⟩
  message := ⟨⟨⟨0, maxRelayPayload + 9⟩, sampleRelay⟩, sampleAddr 10 0 0 2 9001, 9⟩
  queued := ⟨1, by decide⟩
  taken := by decide
  sent := by decide

/-- The second has one to the third. -/
def secondPassage : Passage sampleRelay :=
  { firstPassage with
    before := knowing (sampleAddr 10 0 0 3 9001) (syncMessage sampleConfig [9])
    remote := sampleAddr 10 0 0 1 9001
    message := ⟨⟨⟨0, maxRelayPayload + 9⟩, sampleRelay⟩, sampleAddr 10 0 0 3 9001, 9⟩
    queued := ⟨1, by decide⟩
    taken := by decide
    sent := by decide }

/-- At the third node 9 is registered, by a DiscoverEx. -/
def thirdPassage : Passage sampleRelay :=
  { firstPassage with
    before := knowing (sampleAddr 10 0 0 9 4000) [0x08, 0, 0, 0, 9]
    remote := sampleAddr 10 0 0 2 9001
    message := ⟨⟨⟨0, maxRelayPayload + 9⟩, [0x09, 0, 0, 0, 7, 0, 0, 0, 9, 0xaa]⟩,
      sampleAddr 10 0 0 9 4000, 9⟩
    queued := ⟨1, by decide⟩
    taken := by decide
    sent := by decide }

def sampleChain : RelayChain sampleProtocol 9 (sampleAddr 10 0 0 1 9001)
    (sampleProtocol.relayDatagram 7 9 [0xaa]) :=
  .forward firstPassage rfl (sampleAddr 10 0 0 2 9001) (by decide) <|
    .forward secondPassage rfl (sampleAddr 10 0 0 3 9001) (by decide) <|
      .deliver thirdPassage rfl (by decide)

theorem relay_fidelity_sampleChain :
    List.length ([0xaa] : Bytes) ≤ 65498 ∧ sampleChain.forwarded.length = 2 ∧
      (∀ m ∈ sampleChain.forwarded, sampleProtocol.ReadsAs m.buffer.data 7 9 [0xaa]) ∧
      (sampleChain.Requested →
        sampleChain.delivery = [0x09, 0, 0, 0, 7, 0, 0, 0, 9] ++ [0xaa]) ∧
      sampleChain.Requested := by
  have hsize : List.length ([0xaa] : Bytes) ≤ 65498 := by decide
  have h := relay_fidelity sampleProtocol 7 9 [0xaa] hsize _ sampleChain
  refine ⟨hsize, rfl, h.1, h.2.1, ?_⟩
  exact (dstNodes_iff_requested sampleConfig [] 9 thirdPassage.events).mp (by decide)

end PilotBeacon

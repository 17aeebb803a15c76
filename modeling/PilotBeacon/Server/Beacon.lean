import PilotBeacon.Server.Punch
import PilotBeacon.Server.Reap
import PilotBeacon.Server.Registry
import PilotBeacon.Server.Worker

/-!
# The Beacon as a Transition System (`handlePacketFrom` and the loops of `ListenAndServe`)

Everything that can happen to a beacon is an `Event`: an inbound datagram or bridged frame, a
round of a relay worker, a tick of the reaper or of gossip, a notify, a registry exchange,
binding the sockets, `Close`. `step` is the beacon's reaction, and the runs of `step` are the
interleavings of all its goroutines at the granularity of these steps.

The lemmas say which events can change each table, so that an invariant about one table has
to look at those only.
-/

namespace PilotBeacon

open PilotBeacon.Lib PilotBeacon.Net

/-! ## Dispatch -/

/-- An inbound frame by message type. -/
inductive Inbound where
  | discover (body : Bytes) (wantDest : Bool)
  | punchRequest (body : Bytes)
  | relay (body : Bytes)
  | sync (body : Bytes)
  | other

/-- The `switch` on the first byte; an empty frame is ignored like an unknown type. -/
def Protocol.decode (p : Protocol) : Bytes → Inbound
  | [] => .other
  | msgType :: body =>
    if msgType = p.beaconMsgDiscover then .discover body false
    else if msgType = p.beaconMsgDiscoverEx then .discover body true
    else if msgType = p.beaconMsgPunchRequest then .punchRequest body
    else if msgType = p.beaconMsgRelay then .relay body
    else if msgType = p.beaconMsgSync then .sync body
    else .other

/-- The types of the inbound messages are told apart. -/
theorem Protocol.decode_cons (p : Protocol) (body : Bytes) :
    p.decode (p.beaconMsgDiscover :: body) = .discover body false ∧
      p.decode (p.beaconMsgDiscoverEx :: body) = .discover body true ∧
      p.decode (p.beaconMsgPunchRequest :: body) = .punchRequest body ∧
      p.decode (p.beaconMsgRelay :: body) = .relay body ∧
      p.decode (p.beaconMsgSync :: body) = .sync body := by
  -- of two cases with one byte the first would win
  have h := p.inbound_nodup
  simp only [List.nodup_cons, List.mem_cons, not_or] at h
  obtain ⟨⟨h₁, h₂, h₃, h₄, -⟩, ⟨h₅, h₆, h₇, -⟩, ⟨h₈, h₉, -⟩, ⟨h₀, -⟩, -⟩ := h
  simp [decode, Ne.symm h₁, Ne.symm h₂, Ne.symm h₃, Ne.symm h₄, Ne.symm h₅, Ne.symm h₆,
    Ne.symm h₇, Ne.symm h₈, Ne.symm h₉, Ne.symm h₀]

/-- The origin a frame is charged to: the bridge's peer if there is one. -/
def relaySource (remote : UDPAddr) (bridgePeer : UInt32) : RelaySourceKey :=
  if bridgePeer ≠ 0 then relaySourceForBridge bridgePeer else relaySourceForUDP remote

/-- `handlePacketFrom`; `bridgePeer` is 0 for a UDP datagram. -/
def Server.handlePacketFrom (cfg : Config) (env : Env) (now : Int) (s : Server) (data : Bytes)
    (remote : UDPAddr) (bridgePeer : UInt32) : Server × List Datagram :=
  match cfg.proto.decode data with
  | .discover body wantDest => s.handleDiscover cfg env now body remote wantDest
  | .punchRequest body => s.handlePunchRequest cfg env now body remote
  | .relay body => ((s.dispatchRelay cfg env now body (relaySource remote bridgePeer)).1, [])
  | .sync body => (s.handleSync cfg now body remote, [])
  | .other => (s, [])

/-! ## Events -/

/-- What happens. -/
inductive Act where
  | listen (addr : UDPAddr)
  | packet (env : Env) (data : Bytes) (remote : UDPAddr) (bridgePeer : UInt32)
  | worker (i : Nat) (ev : WorkerEvent)
  | reap
  | gossip (order : List UInt32)
  | notify (nodeID : UInt32)
  | registry (x : Exchange)
  | close

/-- What happens, and what the clock reads then. -/
structure Event where
  now : Int
  act : Act

/-- What a beacon puts on its transports. -/
inductive Output where
  | udp (d : Datagram)
  | relayed (x : Sent)
  | registry (msg : JsonObject)

/-- The datagram an output is, if it is one. -/
def Output.datagram? : Output → Option Datagram
  | .udp d => some d
  | .relayed (.udp m) => some ⟨m.addr, m.buffer.data⟩
  | .relayed (.wss _ _) => none
  | .registry _ => none

/-- The beacon's reaction to an event. -/
def step (cfg : Config) (s : Server) (e : Event) : Server × List Output :=
  match e.act with
  | .listen addr => ({ s with conn := some (s.conn.getD addr) }, [])
  | .packet env data remote bridgePeer =>
    let (s, out) := s.handlePacketFrom cfg env e.now data remote bridgePeer
    (s, out.map .udp)
  | .worker i ev =>
    let (s, out) := s.workerStep cfg i ev
    (s, out.map .relayed)
  | .reap => (s.reapStaleNodes e.now, [])
  | .gossip order => (s, (s.sendGossip cfg order).map .udp)
  | .notify nodeID =>
    let (s, out, _) := s.notifyNode nodeID e.now
    (s, out.map .udp)
  | .registry x => (s.registryDiscover cfg x, (s.registryRequests cfg x).map .registry)
  | .close => ({ s with done := true }, [])

/-- The state after an event. -/
def next (cfg : Config) (s : Server) (e : Event) : Server := (step cfg s e).1

/-- The state a beacon with the given configured peers is in after the events `es`. -/
def runFrom (cfg : Config) (peers : List Text) (es : List Event) : Server :=
  Transition.run (next cfg) (newWithPeers cfg peers) es

/-- The clock never goes back. -/
def ClockMonotone (es : List Event) : Prop := (es.map Event.now).Pairwise (· ≤ ·)

instance (es : List Event) : Decidable (ClockMonotone es) :=
  inferInstanceAs (Decidable (List.Pairwise _ _))

theorem clockMonotone_append {es es' : List Event} : ClockMonotone (es ++ es') ↔
    ClockMonotone es ∧ ClockMonotone es' ∧ ∀ e ∈ es, ∀ e' ∈ es', e.now ≤ e'.now := by
  simp only [ClockMonotone, List.map_append, List.pairwise_append, List.mem_map,
    forall_exists_index, and_imp, forall_apply_eq_imp_iff₂]

/-- **Induction along a run with a clock.** Of a property that survives the passing of time, it
    is enough to look at the time of each event. -/
theorem clock_induction (cfg : Config) (peers : List Text) (P : List Event → Int → Server → Prop)
    (init : ∀ now, P [] now (newWithPeers cfg peers))
    (wait : ∀ es s now now', now ≤ now' → P es now s → P es now' s)
    (act : ∀ es e, P es e.now (runFrom cfg peers es) →
      P (es ++ [e]) e.now (next cfg (runFrom cfg peers es) e)) {es : List Event}
    (hclock : ClockMonotone es) {now : Int} (hnow : ∀ e ∈ es, e.now ≤ now) :
    P es now (runFrom cfg peers es) := by
  induction es using List.reverseRecOn generalizing now with
  | nil => exact init now
  | append_singleton es e ih =>
    obtain ⟨hes, -, hle⟩ := clockMonotone_append.mp hclock
    have hbefore := ih hes (fun x hx => hle x hx e (List.mem_singleton_self e))
    have hafter := act es e hbefore
    rw [runFrom, Transition.run_concat]
    exact wait _ _ _ _ (hnow e (by simp)) hafter

/-- A time that no event of the run is after. -/
theorem exists_clock_bound (es : List Event) : ∃ now, ∀ e ∈ es, e.now ≤ now := by
  induction es with
  | nil => exact ⟨0, fun e he => absurd he List.not_mem_nil⟩
  | cons e es ih =>
    obtain ⟨now, hnow⟩ := ih
    refine ⟨max e.now now, fun x hx => ?_⟩
    rcases List.mem_cons.mp hx with rfl | hx
    · exact le_max_left _ _
    · exact (hnow x hx).trans (le_max_right _ _)

/-! ## A sample beacon -/

/-- The message types in the order of their numbers. -/
def sampleProtocol : Protocol where
  beaconMsgDiscover := 0x01
  beaconMsgDiscoverReply := 0x02
  beaconMsgPunchRequest := 0x03
  beaconMsgPunchCommand := 0x04
  beaconMsgRelay := 0x05
  beaconMsgRelayDeliver := 0x06
  beaconMsgSync := 0x07
  beaconMsgDiscoverEx := 0x08
  beaconMsgRelayDeliverDest := 0x09
  inbound_nodup := by decide

/-- The flag defaults of `cmd/beacon`: standalone, no token, no whitelist, open gossip. -/
def sampleConfig : Config where
  proto := sampleProtocol
  beaconID := 0
  relayWorkerCount := 8
  workers_ok := by decide
  requirePunchToken := false
  strictGossip := false
  punchWhitelistAll := false
  punchWhitelist := []
  authKeyLookup := none
  verify := fun _ _ _ => false
  wssBridge := false
  registryAddr := []
  advertiseAddr := []
  registryAdminToken := []
  resolve := fun _ => none
  unmarshal := fun _ => none

/-- No breaker callback, nobody connected over WSS, an empty pool. -/
def sampleEnv : Env where
  breakerAllow := none
  wssConnected := fun _ => false
  poolPick := 0

/-- An IPv4 endpoint. -/
def sampleAddr (a b c d : UInt8) (port : UInt16) : UDPAddr where
  ip := ⟨[a, b, c, d], Or.inr (Or.inl rfl)⟩
  port := port
  zone := []

/-- A UDP datagram arriving at the sample beacon. -/
def sampleDatagram (now : Int) (remote : UDPAddr) (data : Bytes) : Event where
  now := now
  act := .packet sampleEnv data remote 0

/-- The sample beacon listens, and node 7 registers. -/
def nodeSeven : List Event :=
  [⟨0, .listen (sampleAddr 0 0 0 0 9001)⟩,
    sampleDatagram second (sampleAddr 10 0 0 1 4000) [0x01, 0, 0, 0, 7]]

/-! ## What an event does to the tables -/

/-- The part of the state that outlives a datagram's way through the beacon: everything but
    queues, workers, buffers, counters and the punch guard. -/
structure Tables where
  nodes : NodeMap
  dstNodes : FiniteMap UInt32 Unit
  nodePubKeys : FiniteMap UInt32 Bytes
  discoverRL : DiscoverRateLimiter
  relayRL : RelayRateLimiter
  peers : List UDPAddr
  peerNodes : FiniteMap UInt32 UDPAddr
  gossipSeen : FiniteMap Text Int

/-- The tables of a server. -/
def Server.tables (s : Server) : Tables where
  nodes := s.nodes
  dstNodes := s.dstNodes
  nodePubKeys := s.nodePubKeys
  discoverRL := s.discoverRL
  relayRL := s.relayRL
  peers := s.peers
  peerNodes := s.peerNodes
  gossipSeen := s.gossipSeen

section

variable (cfg : Config) (s : Server) (e : Event)

/-- **What an event does to the tables.** Each table an event can touch has its own condition, so
    the others are seen to stay. -/
theorem next_tables : (next cfg s e).tables =
    match e.act with
    | .packet env data remote bridgePeer =>
      match cfg.proto.decode data with
      | .discover body wantDest =>
        { s.tables with
          dstNodes := if Server.discoverAdmitted env body then
            (s.noteDiscover (BigEndian.uint32 body) body wantDest).dstNodes else s.dstNodes
          nodePubKeys := if Server.discoverAdmitted env body then
            (s.noteDiscover (BigEndian.uint32 body) body wantDest).nodePubKeys
            else s.nodePubKeys
          discoverRL := if Server.discoverAdmitted env body then
            (s.discoverRL.allow (BigEndian.uint32 body) e.now discoverMinInterval).2
            else s.discoverRL
          nodes := if Server.discoverAdmitted env body &&
              (s.discoverRL.allow (BigEndian.uint32 body) e.now discoverMinInterval).1 then
            (s.nodes.upsert (BigEndian.uint32 body) remote e.now maxBeaconNodes).nodes
            else s.nodes }
      | .punchRequest body =>
        { s.tables with
          nodes := if Server.punchAdmitted cfg env e.now s body remote then
            (s.nodes.upsert (BigEndian.uint32 body) remote e.now maxBeaconNodes).nodes
            else s.nodes }
      | .relay body =>
        { s.tables with
          relayRL := if Server.relayRoutable cfg env s body then
            (s.relayRL.allow (relaySource remote bridgePeer) e.now
              maxRelaysPerSourcePerSecond).2
            else s.relayRL }
      | .sync body =>
        { s.tables with
          peerNodes := (Server.acceptedSync cfg s body remote).elim s.peerNodes fun ids =>
            (s.publishRoutes ids remote e.now).peerNodes
          gossipSeen := (Server.acceptedSync cfg s body remote).elim s.gossipSeen fun ids =>
            (s.publishRoutes ids remote e.now).gossipSeen }
      | .other => s.tables
    | .reap => (s.reapStaleNodes e.now).tables
    | .notify nodeID => { s.tables with nodes := (s.notifyNode nodeID e.now).1.nodes }
    | .registry x => { s.tables with peers := (s.registryDiscover cfg x).peers }
    | _ => s.tables := by
  unfold next step
  cases e.act with
  | packet env data remote bridgePeer =>
    simp only [Server.handlePacketFrom]
    cases cfg.proto.decode data with
    | discover body wantDest =>
      simp only [Server.handleDiscover_state]
      cases Server.discoverAdmitted env body <;> rfl
    | punchRequest body =>
      -- the guard's fields are not among the tables
      obtain ⟨_, _, h⟩ := Server.handlePunchRequest_state cfg env e.now s body remote
      simp only [h, Server.tables]
    | relay body =>
      obtain ⟨_, _, _, _, _, h, _⟩ := Server.dispatchRelay_frame cfg env e.now s body
        (relaySource remote bridgePeer)
      simp only [← Server.dispatchRelay_relayRL, h, Server.tables]
    | sync body =>
      simp only [Server.handleSync_eq]
      cases Server.acceptedSync cfg s body remote <;> rfl
    | other => rfl
  | worker i ev =>
    -- workers read tables and write none
    have h := (Server.workerStep_spec cfg s i ev).1
    simp only [Server.tables, h.nodes, h.dstNodes, h.nodePubKeys, h.discoverRL, h.relayRL, h.peers,
      h.peerNodes, h.gossipSeen]
  | notify nodeID =>
    obtain ⟨_, h, _⟩ := Server.notifyNode_frame s nodeID e.now
    simp only [h, Server.tables]
  | registry x =>
    obtain ⟨_, h⟩ := Server.registryDiscover_frame cfg s x
    simp only [h, Server.tables]
  | _ => rfl

/-! ## What an event does to the routes -/

/-- The source and the ids of the sync an event is, if it is one and is accepted. -/
def acceptedGossip (cfg : Config) (s : Server) (e : Event) : Option (UDPAddr × List UInt32) :=
  match e.act with
  | .packet _ data remote _ =>
    match cfg.proto.decode data with
    | .sync body => (Server.acceptedSync cfg s body remote).map fun ids => (remote, ids)
    | _ => none
  | _ => none

/-- A sync of another beacon, if it passes the gate. -/
theorem step_syncMessage {sender : Config} (hproto : sender.proto = cfg.proto) {ids : List UInt32}
    (hlen : ids.length ≤ 65535) {remote : UDPAddr}
    (hgate : cfg.strictGossip = true → s.isKnownGossipPeer remote = true) (now : Int) (env : Env)
    (bridgePeer : UInt32) :
    step cfg s ⟨now, .packet env (syncMessage sender ids) remote bridgePeer⟩ =
      (s.publishRoutes ids remote now, []) := by
  have hdec : cfg.proto.decode (syncMessage sender ids) = .sync (syncBody sender ids) := by
    rw [syncMessage, hproto]
    exact (Protocol.decode_cons cfg.proto (syncBody sender ids)).2.2.2.2
  have hacc := Server.acceptedSync_syncBody sender hlen hgate
  simp only [step, Server.handlePacketFrom, hdec, Server.handleSync_eq, hacc, List.map_nil]

/-- **What an event does to the routes**: they change by accepted syncs and by the reaper's
    sweep. -/
theorem next_routes :
    (∃ src ids, acceptedGossip cfg s e = some (src, ids) ∧ e.act ≠ .reap ∧
      (next cfg s e).peerNodes = (s.publishRoutes ids src e.now).peerNodes ∧
      (next cfg s e).gossipSeen = (s.publishRoutes ids src e.now).gossipSeen) ∨
    (acceptedGossip cfg s e = none ∧ e.act = .reap ∧
      (next cfg s e).peerNodes = (s.sweepStaleGossip (e.now - gossipPeerTTL)).peerNodes ∧
      (next cfg s e).gossipSeen = (s.sweepStaleGossip (e.now - gossipPeerTTL)).gossipSeen) ∨
    (acceptedGossip cfg s e = none ∧ e.act ≠ .reap ∧
      (next cfg s e).peerNodes = s.peerNodes ∧ (next cfg s e).gossipSeen = s.gossipSeen) := by
  have hroutes : (next cfg s e).peerNodes = (next cfg s e).tables.peerNodes := rfl
  have hseen : (next cfg s e).gossipSeen = (next cfg s e).tables.gossipSeen := rfl
  rw [hroutes, hseen, next_tables]
  unfold acceptedGossip
  cases e.act with
  | packet env data remote bridgePeer =>
    dsimp only
    cases cfg.proto.decode data with
    | sync body =>
      dsimp only
      cases Server.acceptedSync cfg s body remote with
      | none => exact Or.inr (Or.inr ⟨rfl, nofun, rfl, rfl⟩)
      | some ids => exact Or.inl ⟨remote, ids, rfl, nofun, rfl, rfl⟩
    | _ => exact Or.inr (Or.inr ⟨rfl, nofun, rfl, rfl⟩)
  | reap =>
    -- the reaper sweeps before it drops keys and marks
    obtain ⟨h, h'⟩ := @Server.reapStaleNodes_gossip s e.now
    exact Or.inr (Or.inl ⟨rfl, rfl, h, h'⟩)
  | _ => exact Or.inr (Or.inr ⟨rfl, nofun, rfl, rfl⟩)

/-! ## What an event does to the relay limiter -/

/-- The origin an event makes the relay limiter charge. -/
def relayCharge (cfg : Config) (s : Server) (e : Event) : Option RelaySourceKey :=
  match e.act with
  | .packet env data remote bridgePeer =>
    match cfg.proto.decode data with
    | .relay body =>
      if Server.relayRoutable cfg env s body then some (relaySource remote bridgePeer) else none
    | _ => none
  | _ => none

/-- **What an event does to the relay limiter**: it is asked about one origin, left alone, or
    swept by the reaper. -/
theorem next_relayRL :
    (∃ src, relayCharge cfg s e = some src ∧ (next cfg s e).relayRL =
      (s.relayRL.allow src e.now maxRelaysPerSourcePerSecond).2) ∨
    (relayCharge cfg s e = none ∧ (next cfg s e).relayRL = s.relayRL) ∨
    (relayCharge cfg s e = none ∧ (next cfg s e).relayRL =
      s.relayRL.sweep (e.now - relaySourceCleanupInterval)) := by
  have hrl : (next cfg s e).relayRL = (next cfg s e).tables.relayRL := rfl
  rw [hrl, next_tables]
  unfold relayCharge
  cases e.act with
  | packet env data remote bridgePeer =>
    dsimp only
    cases cfg.proto.decode data with
    | relay body =>
      dsimp only
      cases Server.relayRoutable cfg env s body with
      | false => exact Or.inr (Or.inl ⟨rfl, rfl⟩)
      | true => exact Or.inl ⟨_, rfl, rfl⟩
    | _ => exact Or.inr (Or.inl ⟨rfl, rfl⟩)
  | reap =>
    obtain ⟨_, _, _, _, h⟩ := Server.reapStaleNodes_frame s e.now
    dsimp only
    rw [h]
    exact Or.inr (Or.inr ⟨rfl, rfl⟩)
  | _ => exact Or.inr (Or.inl ⟨rfl, rfl⟩)

end

end PilotBeacon

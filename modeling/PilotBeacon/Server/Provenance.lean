import PilotBeacon.Server.EndpointStability
import PilotBeacon.Server.PeerSet
import PilotBeacon.Server.RelayOrder

/-!
# Where Addresses Come From

A beacon sends to addresses it finds in the node table, in the routes, in the batches of its
workers, in the peer set, and to the source of the datagram it is handling. The tables are
filled with sources of datagrams only, so apart from gossip to its peers it answers those who
have sent to it.

- `Sourced N R s`: addresses of nodes satisfy `N`, owners of routes satisfy `R`, and batched
  messages go to one or the other
- `Sourced.next`: what a step has to respect to keep that
- `Sourced.destination`: where the datagrams of a step go
- `not_reflector`: what this means along a run
-/

namespace PilotBeacon

open PilotBeacon.Lib PilotBeacon.Net

/-! ## Sources -/

/-- The source address of the frame an event delivers. -/
def Event.source (e : Event) : Option UDPAddr :=
  match e.act with
  | .packet _ _ remote _ => some remote
  | _ => none

/-- The node id in the header of a Discover, DiscoverEx or PunchRequest. -/
def Event.names (cfg : Config) (e : Event) : Option UInt32 :=
  match e.act with
  | .packet _ data _ _ =>
    match cfg.proto.decode data with
    | .discover body _ => if 4 ≤ body.length then some (BigEndian.uint32 body) else none
    | .punchRequest body => if 8 ≤ body.length then some (BigEndian.uint32 body) else none
    | _ => none
  | _ => none

/-- The node ids a Sync lists. -/
def Event.lists (cfg : Config) (e : Event) : List UInt32 :=
  match e.act with
  | .packet _ data _ _ =>
    match cfg.proto.decode data with
    | .sync body => BigEndian.uint32s (BigEndian.uint16 (body.drop 4)).toNat (body.drop 6)
    | _ => []
  | _ => []

/-- The event is a Discover or PunchRequest that gets past the checks of its handler. -/
def Event.admitted (cfg : Config) (s : Server) (e : Event) : Bool :=
  match e.act with
  | .packet env data remote _ =>
    match cfg.proto.decode data with
    | .discover body _ => Server.discoverAdmitted env body
    | .punchRequest body => Server.punchAdmitted cfg env e.now s body remote
    | _ => false
  | _ => false

/-- The nodes an event is about: the two a PunchRequest names, or the one to notify. -/
def Event.parties (cfg : Config) (e : Event) : List UInt32 :=
  match e.act with
  | .packet _ data _ _ =>
    match cfg.proto.decode data with
    | .punchRequest body => [BigEndian.uint32 body, BigEndian.uint32 (body.drop 4)]
    | _ => []
  | .notify nodeID => [nodeID]
  | _ => []

/-- The nodes an output of an event is for. -/
def Output.addressees (cfg : Config) (e : Event) : Output → List UInt32
  | .relayed (.udp m) => [m.dest]
  | .relayed (.wss nodeID _) => [nodeID]
  | .udp _ => e.parties cfg
  | .registry _ => []

section

variable {cfg : Config} {s : Server} {e : Event} {id : UInt32} {a : UDPAddr}

/-- A write stores the source of an admitted datagram under the id in its header. -/
theorem nodeWrite_source {w : NodeWrite} (h : w ∈ nodeWrite cfg id s e) :
    e.source = some w.addr ∧ e.names cfg = some id ∧ e.admitted cfg s = true := by
  revert h
  unfold nodeWrite Event.source Event.names Event.admitted
  cases e.act with
  | packet env data remote bridgePeer =>
    dsimp only
    cases cfg.proto.decode data with
    | discover body wantDest =>
      dsimp only
      split_ifs with hstore hlen
      · intro h
        obtain ⟨hadm, hid, -⟩ := hstore
        rw [List.mem_singleton.mp h]
        exact ⟨rfl, by rw [hid], hadm⟩
      · intro h
        obtain ⟨hadm, -⟩ := hstore
        exact absurd (not_le.mp hlen) (Server.discoverAdmitted_iff.mp hadm).1
      · exact fun h => by cases h
      · exact fun h => by cases h
    | punchRequest body =>
      dsimp only
      split_ifs with hstore hlen
      · intro h
        obtain ⟨hadm, hid, -⟩ := hstore
        rw [List.mem_singleton.mp h]
        exact ⟨rfl, by rw [hid], hadm⟩
      · intro h
        obtain ⟨hadm, -⟩ := hstore
        simp only [Server.punchAdmitted, Bool.and_eq_true, Bool.not_eq_true',
          decide_eq_false_iff_not] at hadm
        omega
      · exact fun h => by cases h
      · exact fun h => by cases h
    | _ => exact fun h => by cases h
  | _ => exact fun h => by cases h

/-- An accepted sync lists its ids and is from its source. -/
theorem acceptedGossip_source {ids : List UInt32} (h : acceptedGossip cfg s e = some (a, ids)) :
    e.source = some a ∧ e.lists cfg = ids := by
  revert h
  unfold acceptedGossip Event.source Event.lists
  cases e.act with
  | packet env data remote bridgePeer =>
    dsimp only
    cases cfg.proto.decode data with
    | sync body =>
      dsimp only
      unfold Server.acceptedSync
      split_ifs
      · exact fun h => by cases h
      · rintro ⟨⟩
        exact ⟨rfl, rfl⟩
    | _ => exact fun h => by cases h
  | _ => exact fun h => by cases h

/-! ## What a step does to stored addresses -/

/-- An address in the node table was there or is written by the step. -/
theorem snapshot_next (h : (next cfg s e).nodes.snapshot id = some a) :
    s.nodes.snapshot id = some a ∨ ∃ w ∈ nodeWrite cfg id s e, w.addr = a := by
  rw [NodeMap.snapshot_eq_endpoint, endpoint_next] at h
  rw [NodeMap.snapshot_eq_endpoint]
  rcases nodeWrite_cases cfg id s e with hnone | ⟨w, hw, -⟩
  · left
    rw [hnone] at h
    obtain ⟨p, hp, rfl⟩ := Option.map_eq_some_iff.mp h
    -- the reaper removes, nothing else changes the entry
    dsimp only at hp
    split at hp
    · rw [(Option.filter_eq_some_iff.mp hp).1]
      rfl
    · rw [hp]
      rfl
  · right
    rw [hw] at h ⊢
    exact ⟨w, List.mem_singleton_self w, Option.some_inj.mp h⟩

/-- The owner of a route had it, or has just been accepted for it. -/
theorem routeOwner_next (h : (next cfg s e).peerNodes.lookup id = some a) :
    s.peerNodes.lookup id = some a ∨
      ∃ ids, acceptedGossip cfg s e = some (a, ids) ∧ id ∈ ids ∧ s.nodes.has id = false := by
  rcases next_routes cfg s e with ⟨src, ids, hacc, -, hroutes, -⟩ | ⟨-, -, hroutes, -⟩ |
    ⟨-, -, hroutes, -⟩
  · rw [hroutes, Server.lookup_publishRoutes] at h
    split_ifs at h with hlisted
    · cases h
      exact Or.inr ⟨ids, hacc, hlisted.1, hlisted.2⟩
    · exact Or.inl (Option.filter_eq_some_iff.mp h).1
  · rw [hroutes, Server.lookup_sweepStaleGossip] at h
    exact Or.inl (Option.filter_eq_some_iff.mp h).1
  · rw [hroutes] at h
    exact Or.inl h

/-- A message is batched for the address its destination is routed to. -/
theorem Server.BatchedAs.address {m : Message} {job : RelayJob}
    (h : Server.BatchedAs cfg s m job) :
    s.nodes.snapshot m.dest = some m.addr ∨ s.peerNodes.lookup m.dest = some m.addr := by
  obtain ⟨hdest, header, hroute, -⟩ := h
  rw [hdest]
  cases hr : s.route job.destID with
  | localNode addr wantDest =>
    rw [hr] at hroute
    left
    unfold Server.route at hr
    cases hsnap : s.nodes.snapshot job.destID with
    | none =>
      rw [hsnap] at hr
      dsimp only at hr
      split at hr <;> cases hr
    | some addr' =>
      rw [hsnap] at hr
      cases hr
      cases hmark : (s.dstNodes.lookup job.destID).isSome <;> rw [hmark] at hroute <;>
        cases hroute <;> rfl
  | peer addr =>
    rw [hr] at hroute
    cases hroute
    exact Or.inr (Server.route_eq_peer.mp hr).2
  | unknown =>
    rw [hr] at hroute
    cases hroute

/-- What a worker has sent or batched after a step was batched before or is routed now. -/
theorem workerStep_messages {i : Nat} {ev : WorkerEvent} {m : Message}
    (h : m ∈ sentMessages (s.workerStep cfg i ev).2 ++ ((s.workerStep cfg i ev).1.workers i).msgs) :
    m ∈ (s.workers i).msgs ∨
      s.nodes.snapshot m.dest = some m.addr ∨ s.peerNodes.lookup m.dest = some m.addr := by
  obtain ⟨-, taken, added, -, hadd, hsub⟩ := Server.workerStep_spec cfg s i ev
  rcases List.mem_append.mp (hsub.subset h) with h | h
  · exact Or.inl h
  · right
    -- an added message stands for one of the jobs taken
    obtain ⟨job, -, hbatched⟩ := Subsequence.exists_of_mem hadd h
    exact hbatched.address

/-- A batched message was batched before or is routed now. -/
theorem batch_next {i : Nat} {m : Message} (h : m ∈ ((next cfg s e).workers i).msgs) :
    m ∈ (s.workers i).msgs ∨
      s.nodes.snapshot m.dest = some m.addr ∨ s.peerNodes.lookup m.dest = some m.addr := by
  rcases relayNext_queues cfg s (.beacon e) with ⟨now, j, ev, he⟩ | ⟨-, hworkers, -⟩
  · cases he
    change m ∈ ((s.workerStep cfg j ev).1.workers i).msgs at h
    by_cases hij : i = j
    · subst hij
      exact workerStep_messages (List.mem_append_right _ h)
    · rw [(Server.workerStep_spec cfg s j ev).1.otherWorkers i hij] at h
      exact Or.inl h
  · change (next cfg s e).workers = s.workers at hworkers
    rw [hworkers] at h
    exact Or.inl h

/-! ## What the datagrams of a step are and where they go -/

theorem mem_writeToUDP {dst : UDPAddr} {data : Bytes} {d : Datagram}
    (h : d ∈ s.writeToUDP dst data) : d = ⟨dst, data⟩ := by
  unfold Server.writeToUDP at h
  split_ifs at h
  · exact List.mem_singleton.mp h
  · cases h

theorem mem_handleDiscover {env : Env} {now : Int} {body : Bytes} {remote : UDPAddr}
    {wantDest : Bool} {d : Datagram}
    (h : d ∈ (s.handleDiscover cfg env now body remote wantDest).2) :
    (d.dst = remote ∧ Server.discoverAdmitted env body = true) ∧
      addrMessage cfg.proto.beaconMsgDiscoverReply remote = some d.data := by
  rw [Server.handleDiscover_reply] at h
  split_ifs at h with hreplied
  · unfold Server.discoverReply at h
    split at h
    · cases h
    · rename_i reply hreply
      rw [mem_writeToUDP h]
      exact ⟨⟨rfl, hreplied.1⟩, hreply⟩
  · cases h

/-- After an upsert an address is the new one or an old one. -/
theorem snapshot_upsert {m : NodeMap} {id' : UInt32} {addr : UDPAddr} {now : Int} {maxTotal : Nat}
    (h : (m.upsert id' addr now maxTotal).nodes.snapshot id = some a) :
    a = addr ∨ m.snapshot id = some a := by
  rw [NodeMap.snapshot_eq_endpoint, NodeMap.endpoint_upsert] at h
  rw [NodeMap.snapshot_eq_endpoint]
  split_ifs at h
  · cases h
    exact Or.inl rfl
  · exact Or.inr h

theorem mem_sendPunchCommand {nodeID : UInt32} {target : UDPAddr} {d : Datagram}
    (h : d ∈ s.sendPunchCommand cfg nodeID target) :
    s.nodes.snapshot nodeID = some d.dst ∧
      addrMessage cfg.proto.beaconMsgPunchCommand target = some d.data := by
  unfold Server.sendPunchCommand at h
  split at h
  · rename_i nodeAddr msg hnode hmsg
    rw [mem_writeToUDP h]
    exact ⟨hnode, hmsg⟩
  · cases h

theorem mem_coordinatePunch {now : Int} {r t : UInt32} {remote : UDPAddr} {d : Datagram}
    (h : d ∈ (s.coordinatePunch cfg now r t remote).2) :
    (d.dst = remote ∨ ∃ id ∈ [r, t], s.nodes.snapshot id = some d.dst) ∧
      ∃ target, addrMessage cfg.proto.beaconMsgPunchCommand target = some d.data := by
  unfold Server.coordinatePunch at h
  dsimp only at h
  split at h
  · -- one command to each side, at its address in the updated table
    rcases List.mem_append.mp h with h | h
    · obtain ⟨hnode, hmsg⟩ := mem_sendPunchCommand h
      exact ⟨(snapshot_upsert hnode).imp_right fun h => ⟨r, by simp, h⟩, _, hmsg⟩
    · obtain ⟨hnode, hmsg⟩ := mem_sendPunchCommand h
      exact ⟨(snapshot_upsert hnode).imp_right fun h => ⟨t, by simp, h⟩, _, hmsg⟩
  · cases h

theorem mem_handlePunchRequest {env : Env} {now : Int} {body : Bytes} {remote : UDPAddr}
    {d : Datagram} (h : d ∈ (s.handlePunchRequest cfg env now body remote).2) :
    Server.punchAdmitted cfg env now s body remote = true ∧
      (d.dst = remote ∨ ∃ id ∈ [BigEndian.uint32 body, BigEndian.uint32 (body.drop 4)],
        s.nodes.snapshot id = some d.dst) ∧
      ∃ target, addrMessage cfg.proto.beaconMsgPunchCommand target = some d.data := by
  obtain ⟨rl, last, ⟨-, heq⟩ | ⟨hadm, heq⟩⟩ :=
    Server.handlePunchRequest_cases cfg env now s body remote
  · rw [heq] at h
    cases h
  · rw [heq] at h
    have hdst := mem_coordinatePunch h
    exact ⟨hadm, hdst⟩

theorem mem_notifyNode {nodeID : UInt32} {now : Int} {d : Datagram}
    (h : d ∈ (s.notifyNode nodeID now).2.1) :
    s.nodes.snapshot nodeID = some d.dst ∧ d.data = [msgNotify, notifyKindHandshake] := by
  unfold Server.notifyNode NodeMap.claimNotify at h
  split_ifs at h with hconn
  · cases h
  · cases hnode : s.nodes.lookup nodeID with
    | none =>
      rw [hnode] at h
      cases h
    | some n =>
      rw [hnode] at h
      dsimp only at h
      split_ifs at h
      · cases h
      · rw [List.mem_singleton.mp h, NodeMap.snapshot, hnode]
        exact ⟨rfl, rfl⟩

/-- An answer to a datagram is a DiscoverReply or a PunchCommand; it goes to the source, once the
    datagram is admitted, or to a node the datagram names. -/
theorem mem_handlePacketFrom {env : Env} {now : Int} {data : Bytes} {remote : UDPAddr}
    {bridgePeer : UInt32} {d : Datagram}
    (h : d ∈ (s.handlePacketFrom cfg env now data remote bridgePeer).2) :
    let e : Event := ⟨now, .packet env data remote bridgePeer⟩
    ((d.dst = remote ∧ e.admitted cfg s = true) ∨
      ∃ id ∈ e.parties cfg, s.nodes.snapshot id = some d.dst) ∧
    ∃ msgType ∈ [cfg.proto.beaconMsgDiscoverReply, cfg.proto.beaconMsgPunchCommand],
      ∃ addr, addrMessage msgType addr = some d.data := by
  unfold Server.handlePacketFrom at h
  unfold Event.admitted Event.parties
  dsimp only
  cases hdec : cfg.proto.decode data with
  | discover body wantDest =>
    rw [hdec] at h
    obtain ⟨hdst, hmsg⟩ := mem_handleDiscover h
    exact ⟨Or.inl hdst, _, by simp, _, hmsg⟩
  | punchRequest body =>
    rw [hdec] at h
    obtain ⟨hadm, hdst, hmsg⟩ := mem_handlePunchRequest h
    exact ⟨hdst.imp_left fun hdst => ⟨hdst, hadm⟩, _, by simp, hmsg⟩
  | relay body => rw [hdec] at h; cases h
  | sync body => rw [hdec] at h; cases h
  | other => rw [hdec] at h; cases h

/-- **Where the datagrams of a step go**: gossip to a peer, the source of the datagram it
    answers, an address in a table for a node it is for, or the address of a batched message. -/
theorem step_destination {o : Output} {d : Datagram} (h : o ∈ (step cfg s e).2)
    (hd : o.datagram? = some d) :
    (∃ order, e.act = .gossip order ∧ d.dst ∈ s.peers ∧
      d.data = syncMessage cfg (s.gossipIDs order)) ∨
    (e.source = some d.dst ∧ e.admitted cfg s = true) ∨
    (∃ id ∈ o.addressees cfg e,
      s.nodes.snapshot id = some d.dst ∨ s.peerNodes.lookup id = some d.dst) ∨
    ∃ i, ∃ m ∈ (s.workers i).msgs, m.addr = d.dst ∧ m.dest ∈ o.addressees cfg e := by
  obtain ⟨now, act⟩ := e
  unfold step at h
  cases act with
  | packet env data remote bridgePeer =>
    obtain ⟨dg, hdg, rfl⟩ := List.mem_map.mp h
    cases hd
    rcases (mem_handlePacketFrom hdg).1 with ⟨hdst, hadm⟩ | ⟨id, hid, hnode⟩
    · exact Or.inr (Or.inl ⟨congrArg some hdst.symm, hadm⟩)
    · exact Or.inr (Or.inr (Or.inl ⟨id, hid, Or.inl hnode⟩))
  | worker i ev =>
    obtain ⟨x, hx, rfl⟩ := List.mem_map.mp h
    cases x with
    | wss nodeID frame => cases hd
    | udp m =>
      cases hd
      have hm : m ∈ sentMessages (s.workerStep cfg i ev).2 :=
        List.mem_filterMap.mpr ⟨.udp m, hx, rfl⟩
      have hself : m.dest ∈ Output.addressees cfg ⟨now, .worker i ev⟩ (.relayed (.udp m)) :=
        List.mem_singleton_self _
      right; right
      rcases workerStep_messages (List.mem_append_left _ hm) with hbatch | hroute
      · exact Or.inr ⟨i, m, hbatch, rfl, hself⟩
      · exact Or.inl ⟨m.dest, hself, hroute⟩
  | gossip order =>
    obtain ⟨dg, hdg, rfl⟩ := List.mem_map.mp h
    cases hd
    obtain ⟨-, peer, hpeer, rfl⟩ := Server.mem_sendGossip.mp hdg
    exact Or.inl ⟨order, rfl, hpeer, rfl⟩
  | notify nodeID =>
    obtain ⟨dg, hdg, rfl⟩ := List.mem_map.mp h
    cases hd
    exact Or.inr (Or.inr (Or.inl
      ⟨nodeID, List.mem_singleton_self _, Or.inl (mem_notifyNode hdg).1⟩))
  | registry x =>
    obtain ⟨msg, -, rfl⟩ := List.mem_map.mp h
    cases hd
  | listen addr => cases h
  | reap => cases h
  | close => cases h

/-! ## The invariant -/

/-- Stored addresses of nodes satisfy `N`, owners of routes satisfy `R`, and what is batched
    goes to one or the other. -/
structure Sourced (N R : UInt32 → UDPAddr → Prop) (s : Server) : Prop where
  nodes : ∀ id a, s.nodes.snapshot id = some a → N id a
  routes : ∀ id a, s.peerNodes.lookup id = some a → R id a
  batches : ∀ i, ∀ m ∈ (s.workers i).msgs, N m.dest m.addr ∨ R m.dest m.addr

variable {N R N' R' : UInt32 → UDPAddr → Prop}

/-- Nothing is stored at the start. -/
theorem sourced_new (cfg : Config) (peers : List Text) : Sourced N R (newWithPeers cfg peers) where
  nodes := by
    intro id a h
    cases h
  routes := by
    intro id a h
    cases h
  batches := by
    intro i m h
    cases h

/-- **One step.** It has to store allowed addresses only. -/
theorem Sourced.next (h : Sourced N R s) (hN : ∀ id a, N id a → N' id a)
    (hR : ∀ id a, R id a → R' id a) (hwrite : ∀ id, ∀ w ∈ nodeWrite cfg id s e, N' id w.addr)
    (hroute : ∀ a ids, acceptedGossip cfg s e = some (a, ids) →
      ∀ id ∈ ids, s.nodes.has id = false → R' id a) :
    Sourced N' R' (next cfg s e) where
  nodes := by
    intro id a ha
    rcases snapshot_next ha with hold | ⟨w, hw, rfl⟩
    · exact hN id a (h.nodes id a hold)
    · exact hwrite id w hw
  routes := by
    intro id a ha
    rcases routeOwner_next ha with hold | ⟨ids, hacc, hid, hremote⟩
    · exact hR id a (h.routes id a hold)
    · exact hroute a ids hacc id hid hremote
  batches := by
    intro i m hm
    rcases batch_next hm with hold | hnode | hpeer
    · exact (h.batches i m hold).imp (hN _ _) (hR _ _)
    · exact Or.inl (hN _ _ (h.nodes _ _ hnode))
    · exact Or.inr (hR _ _ (h.routes _ _ hpeer))

/-- Every datagram of a step is gossip to a peer, goes to the source it answers, or to an
    address allowed for a node it is for. -/
theorem Sourced.destination (h : Sourced N R s) {o : Output} {d : Datagram}
    (ho : o ∈ (step cfg s e).2) (hd : o.datagram? = some d) :
    (∃ order, e.act = .gossip order ∧ d.dst ∈ s.peers ∧
      d.data = syncMessage cfg (s.gossipIDs order)) ∨
    (e.source = some d.dst ∧ e.admitted cfg s = true) ∨
    ∃ id ∈ o.addressees cfg e, N id d.dst ∨ R id d.dst := by
  rcases step_destination ho hd with hg | hs | ⟨id, hid, hnode | hpeer⟩ | ⟨i, m, hm, haddr, hid⟩
  · exact Or.inl hg
  · exact Or.inr (Or.inl hs)
  · exact Or.inr (Or.inr ⟨id, hid, Or.inl (h.nodes id _ hnode)⟩)
  · exact Or.inr (Or.inr ⟨id, hid, Or.inr (h.routes id _ hpeer)⟩)
  · exact Or.inr (Or.inr ⟨m.dest, hid, haddr ▸ h.batches i m hm⟩)

end

/-! ## Runs -/

/-- `a` is the source of a datagram of `es` whose header names `id`. -/
def NamedBy (cfg : Config) (es : List Event) (id : UInt32) (a : UDPAddr) : Prop :=
  ∃ e ∈ es, e.names cfg = some id ∧ e.source = some a

/-- `a` is the source of a sync of `es` that lists `id`. -/
def ListedBy (cfg : Config) (es : List Event) (id : UInt32) (a : UDPAddr) : Prop :=
  ∃ e ∈ es, id ∈ e.lists cfg ∧ e.source = some a

theorem sourced_run (cfg : Config) (peers : List Text) (es : List Event) :
    Sourced (NamedBy cfg es) (ListedBy cfg es) (runFrom cfg peers es) := by
  apply Transition.run_induction (next cfg)
    (fun es s => Sourced (NamedBy cfg es) (ListedBy cfg es) s)
  · exact sourced_new cfg peers
  · intro es e ih
    refine ih.next ?_ ?_ ?_ ?_
    · rintro id a ⟨e', he', h⟩
      exact ⟨e', List.mem_append_left _ he', h⟩
    · rintro id a ⟨e', he', h⟩
      exact ⟨e', List.mem_append_left _ he', h⟩
    · intro id w hw
      obtain ⟨hsrc, hname, -⟩ := nodeWrite_source hw
      exact ⟨e, by simp, hname, hsrc⟩
    · intro a ids hacc id hid _
      obtain ⟨hsrc, rfl⟩ := acceptedGossip_source hacc
      exact ⟨e, by simp, hid, hsrc⟩

/-- **Not a reflector.** Every datagram of a run is gossip to a member of the peer set or goes
    to the source of a datagram that has arrived; a stored address is the source of a
    Discover, DiscoverEx or PunchRequest that names its node, and the owner of a route is the
    source of a sync that lists its node. -/
theorem not_reflector (cfg : Config) (peers : List Text) (es : List Event) :
    (∀ pre e post, es = pre ++ e :: post →
      ∀ o ∈ (step cfg (runFrom cfg peers pre) e).2, ∀ d, o.datagram? = some d →
        (∃ order, e.act = .gossip order ∧
          (d.dst ∈ configuredPeers cfg peers ∨
            ∃ resp ∈ completedLists cfg peers pre, d.dst ∈ peersOfResponse cfg resp) ∧
          d.data = syncMessage cfg ((runFrom cfg peers pre).gossipIDs order)) ∨
        ∃ e' ∈ pre ++ [e], e'.source = some d.dst) ∧
    (∀ id a, (runFrom cfg peers es).nodes.snapshot id = some a → NamedBy cfg es id a) ∧
    (∀ id a, (runFrom cfg peers es).peerNodes.lookup id = some a → ListedBy cfg es id a) := by
  refine ⟨?_, (sourced_run cfg peers es).nodes, (sourced_run cfg peers es).routes⟩
  intro pre e post _ o ho d hd
  rcases (sourced_run cfg peers pre).destination ho hd with
    ⟨order, hact, hpeer, hdata⟩ | ⟨hsrc, -⟩ | ⟨id, -, ⟨e', he', -, hsrc⟩ | ⟨e', he', -, hsrc⟩⟩
  · refine Or.inl ⟨order, hact, ?_, hdata⟩
    -- the peer set is the last list, or what was configured
    rw [peers_run] at hpeer
    cases hlast : (completedLists cfg peers pre).getLast? with
    | none =>
      rw [hlast] at hpeer
      exact Or.inl hpeer
    | some resp =>
      rw [hlast] at hpeer
      exact Or.inr ⟨resp, List.mem_of_getLast? hlast, hpeer⟩
  · exact Or.inr ⟨e, by simp, hsrc⟩
  · exact Or.inr ⟨e', List.mem_append_left _ he', hsrc⟩
  · exact Or.inr ⟨e', List.mem_append_left _ he', hsrc⟩

end PilotBeacon

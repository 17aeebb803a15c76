import PilotBeacon.Server.Keepalive

/-!
# What a Refused Discover Changes

A Discover whose endpoint is not stored, because the limiter refuses it or its shard is full, is
not without effect: the mark of a DiscoverEx and the first key of a node are kept before the
limiter is asked, and one that finds its shard full has been charged to the limiter. Apart from
that the beacon goes on as if the datagram had never come.

Two runs are compared, one with the datagram and one without. Socket, punch guard and limiter of
each run go their own way, and the tables follow.

- `TablesAlike`: the tables of the two runs
- `LimiterSpent`: the limiters of the two runs until the node is heard again
- `refused_discover_unseen`: the two runs deliver alike
- `refusedDiscover_heard`: a refused DiscoverEx that changes layout and key
-/

namespace PilotBeacon

open PilotBeacon.Lib PilotBeacon.Net

/-! ## Deliveries -/

/-- The address a route goes to. -/
def Route.addr? : Route → Option UDPAddr
  | .localNode addr _ => some addr
  | .peer addr => some addr
  | .unknown => none

/-- No key is to be learnt from a Discover: it carries none, its node has one, or a lookup is
    asked instead. -/
def KeySettled (cfg : Config) (s : Server) (body : Bytes) : Prop :=
  cfg.authKeyLookup.isSome = true ∨ body.length < 4 + publicKeySize ∨
    (s.nodePubKeys.lookup (BigEndian.uint32 body)).isSome = true

/-- No mark is to be learnt from a Discover: it is not a DiscoverEx, or its node has one. -/
def MarkSettled (s : Server) (body : Bytes) (wantDest : Bool) : Prop :=
  wantDest = false ∨ (s.dstNodes.lookup (BigEndian.uint32 body)).isSome = true

/-- The next Discover of `id` that passes the breaker comes no earlier than at `t`. -/
def NextDiscoverFrom (cfg : Config) (id : UInt32) (t : Int) : List Event → Prop
  | [] => True
  | e :: es =>
    if discoverFor cfg e = some id ∧ e.BreakerClosed then t ≤ e.now
    else NextDiscoverFrom cfg id t es

/-- Frames for `id` go to the same address, in the same layout if `M`, and grants for `id` are
    checked against the same key if `K`. -/
structure DeliversAlike (cfg : Config) (K M : Prop) (id : UInt32) (s s' : Server) : Prop where
  addr : (s'.route id).addr? = (s.route id).addr?
  layout : M → s'.route id = s.route id
  key : K → s'.targetPubKey cfg id = s.targetPubKey cfg id

/-! ## Tables -/

/-- Tables that say the same about endpoints, peers and routes, about keys if `K` and about marks
    if `M`. -/
structure TablesAlike (cfg : Config) (K M : Prop) (t t' : Tables) : Prop where
  nodes : t'.nodes = t.nodes
  peers : t'.peers = t.peers
  peerNodes : t'.peerNodes = t.peerNodes
  gossipSeen : t'.gossipSeen = t.gossipSeen
  keys : K → cfg.authKeyLookup = none → ∀ id, t'.nodePubKeys.lookup id = t.nodePubKeys.lookup id
  marks : M → ∀ id, t'.dstNodes.lookup id = t.dstNodes.lookup id

/-- The same socket and the same punch guard. -/
structure GuardAlike (s s' : Server) : Prop where
  conn : s'.conn = s.conn
  guard : (s'.punchRL, s'.lastPunchTime) = (s.punchRL, s.lastPunchTime)

section

variable {cfg : Config} {K M : Prop} {s s' : Server} {e : Event}

theorem TablesAlike.targetPubKey (h : TablesAlike cfg K M s.tables s'.tables) (hK : K)
    (id : UInt32) : s'.targetPubKey cfg id = s.targetPubKey cfg id := by
  unfold Server.targetPubKey
  cases hlookup : cfg.authKeyLookup with
  | some lookup => rfl
  | none => exact h.keys hK hlookup id

/-- Alike tables deliver alike. -/
theorem TablesAlike.deliversAlike (h : TablesAlike cfg K M s.tables s'.tables) (id : UInt32) :
    DeliversAlike cfg K M id s s' := by
  have hnodes : s'.nodes = s.nodes := h.nodes
  have hroutes : s'.peerNodes = s.peerNodes := h.peerNodes
  constructor
  · unfold Server.route
    rw [hnodes, hroutes]
    cases s.nodes.snapshot id <;> rfl
  · intro hM
    have hmark : s'.dstNodes.lookup id = s.dstNodes.lookup id := h.marks hM id
    unfold Server.route
    rw [hnodes, hroutes, hmark]
  · exact fun hK => h.targetPubKey hK id

/-- A PunchRequest gets the same through. -/
theorem punchAdmitted_alike (hK : cfg.requirePunchToken = true → K) (hguard : GuardAlike s s')
    (h : TablesAlike cfg K M s.tables s'.tables) (env : Env) (now : Int) (body : Bytes)
    (remote : UDPAddr) :
    Server.punchAdmitted cfg env now s' body remote =
      Server.punchAdmitted cfg env now s body remote := by
  obtain ⟨hrl, hlast⟩ := Prod.ext_iff.mp hguard.guard
  have hpass : (s'.punchGuard cfg now remote.ip.string).isSome =
      (s.punchGuard cfg now remote.ip.string).isSome := by
    have hsame : (s'.punchGuard cfg now remote.ip.string).map _ = _ :=
      Server.punchGuard_congr hrl hlast remote.ip.string
    rw [← Option.isSome_map, hsame, Option.isSome_map]
  unfold Server.punchAdmitted
  rw [hpass]
  cases hreq : cfg.requirePunchToken with
  | false => rfl
  | true =>
    unfold Server.verifyPunchGrant
    rw [h.targetPubKey (hK hreq)]

/-- A sync is accepted by the peers. -/
theorem acceptedSync_alike (hpeers : s'.peers = s.peers) (body : Bytes) (remote : UDPAddr) :
    Server.acceptedSync cfg s' body remote = Server.acceptedSync cfg s body remote := by
  unfold Server.acceptedSync Server.isKnownGossipPeer
  rw [hpeers]

theorem publishRoutes_alike (hnodes : s'.nodes = s.nodes) (hroutes : s'.peerNodes = s.peerNodes)
    (hseen : s'.gossipSeen = s.gossipSeen) (ids : List UInt32) (remote : UDPAddr) (now : Int) :
    (s'.publishRoutes ids remote now).peerNodes = (s.publishRoutes ids remote now).peerNodes ∧
      (s'.publishRoutes ids remote now).gossipSeen =
        (s.publishRoutes ids remote now).gossipSeen := by
  unfold Server.publishRoutes
  rw [hnodes, hroutes, hseen]
  exact ⟨rfl, rfl⟩

/-- A sweep of the routes goes by routes and sources only. -/
theorem sweepStaleGossip_alike (hroutes : s'.peerNodes = s.peerNodes)
    (hseen : s'.gossipSeen = s.gossipSeen) (cutoff : Int) :
    (s'.sweepStaleGossip cutoff).peerNodes = (s.sweepStaleGossip cutoff).peerNodes ∧
      (s'.sweepStaleGossip cutoff).gossipSeen = (s.sweepStaleGossip cutoff).gossipSeen := by
  unfold Server.sweepStaleGossip
  rw [hroutes, hseen]
  dsimp only
  split_ifs <;> exact ⟨rfl, rfl⟩

theorem notifyNode_alike (hconn : s'.conn = s.conn) (hnodes : s'.nodes = s.nodes) (id : UInt32)
    (now : Int) : (s'.notifyNode id now).1.nodes = (s.notifyNode id now).1.nodes := by
  unfold Server.notifyNode
  rw [hconn, hnodes]
  split_ifs
  · exact hnodes
  · split
    · exact hnodes
    · rfl
    · rfl

theorem registryDiscover_alike (hconn : s'.conn = s.conn) (hpeers : s'.peers = s.peers)
    (x : Exchange) : (s'.registryDiscover cfg x).peers = (s.registryDiscover cfg x).peers := by
  unfold Server.registryDiscover Server.exchangeOpen
  rw [hconn]
  split_ifs
  · exact hpeers
  · split
    · exact hpeers
    · rfl

/-- The endpoints and routes the reaper leaves. -/
theorem TablesAlike.reap (h : TablesAlike cfg K M s.tables s'.tables) (now : Int) :
    TablesAlike cfg K M (s.reapStaleNodes now).tables (s'.reapStaleNodes now).tables := by
  have hnodes : (s'.reapStaleNodes now).nodes = (s.reapStaleNodes now).nodes := by
    have : s'.nodes = s.nodes := h.nodes
    rw [Server.reapStaleNodes_nodes, Server.reapStaleNodes_nodes, this]
  have hgossip := sweepStaleGossip_alike h.peerNodes h.gossipSeen (now - gossipPeerTTL)
  constructor
  case nodes => exact hnodes
  case peers =>
    obtain ⟨_, _, _, _, hreap⟩ := s.reapStaleNodes_frame now
    obtain ⟨_, _, _, _, hreap'⟩ := s'.reapStaleNodes_frame now
    rw [hreap, hreap']
    exact h.peers
  case peerNodes =>
    dsimp only [Server.tables]
    rw [Server.reapStaleNodes_gossip.1, Server.reapStaleNodes_gossip.1, hgossip.1]
  case gossipSeen =>
    dsimp only [Server.tables]
    rw [Server.reapStaleNodes_gossip.2, Server.reapStaleNodes_gossip.2, hgossip.2]
  case keys =>
    intro hK hnone id
    have hkey : s'.nodePubKeys.lookup id = s.nodePubKeys.lookup id := h.keys hK hnone id
    dsimp only [Server.tables]
    rw [Server.lookup_nodePubKeys_reap, Server.lookup_nodePubKeys_reap, hnodes, hkey]
  case marks =>
    intro hM id
    have hmark : s'.dstNodes.lookup id = s.dstNodes.lookup id := h.marks hM id
    dsimp only [Server.tables]
    rw [Server.lookup_dstNodes_reap, Server.lookup_dstNodes_reap, hnodes, hmark]

/-- What a Discover notes about its node. -/
theorem TablesAlike.note (h : TablesAlike cfg K M s.tables s'.tables) (id : UInt32) (body : Bytes)
    (wantDest : Bool) :
    (K → cfg.authKeyLookup = none → ∀ id',
      (s'.noteDiscover id body wantDest).nodePubKeys.lookup id' =
        (s.noteDiscover id body wantDest).nodePubKeys.lookup id') ∧
    (M → ∀ id', (s'.noteDiscover id body wantDest).dstNodes.lookup id' =
      (s.noteDiscover id body wantDest).dstNodes.lookup id') := by
  unfold Server.noteDiscover
  constructor
  · intro hK hnone id'
    have hkey : s'.nodePubKeys.lookup id' = s.nodePubKeys.lookup id' := h.keys hK hnone id'
    dsimp only
    split_ifs
    · rw [FiniteMap.lookup_loadOrStore, FiniteMap.lookup_loadOrStore, hkey]
    · exact hkey
  · intro hM id'
    have hmark : s'.dstNodes.lookup id' = s.dstNodes.lookup id' := h.marks hM id'
    dsimp only
    cases wantDest with
    | false => exact hmark
    | true =>
      by_cases hid : id' = id
      · rw [hid]
        simp
      · simp [AList.lookup_insert_ne hid, hmark]

/-- **One step keeps tables alike**, if it is no Discover the two limiters disagree on. -/
theorem TablesAlike.next (hK : cfg.requirePunchToken = true → K) (hguard : GuardAlike s s')
    (h : TablesAlike cfg K M s.tables s'.tables)
    (hallow : ∀ id, discoverFor cfg e = some id → e.BreakerClosed →
      (s'.discoverRL.allow id e.now discoverMinInterval).1 =
        (s.discoverRL.allow id e.now discoverMinInterval).1) :
    TablesAlike cfg K M (next cfg s e).tables (next cfg s' e).tables := by
  rw [next_tables, next_tables]
  have hnodes : s'.nodes = s.nodes := h.nodes
  obtain ⟨now, act⟩ := e
  cases act with
  | packet env data remote bridgePeer =>
    dsimp only
    cases hdec : cfg.proto.decode data with
    | discover body wantDest =>
      dsimp only
      cases hadm : Server.discoverAdmitted env body with
      | false => exact { h with }
      | true =>
        have hsame := hallow (BigEndian.uint32 body)
          (discoverFor_packet remote bridgePeer hdec hadm) (Server.discoverAdmitted_iff.mp hadm).2
        obtain ⟨hkeys, hmarks⟩ := h.note (BigEndian.uint32 body) body wantDest
        refine { h with nodes := ?_, keys := hkeys, marks := hmarks }
        dsimp only at hsame ⊢
        rw [hsame, hnodes]
    | punchRequest body =>
      refine { h with nodes := ?_ }
      dsimp only
      rw [punchAdmitted_alike hK hguard h, hnodes]
    | relay body => exact { h with }
    | sync body =>
      have haccept : Server.acceptedSync cfg s' body remote = _ :=
        acceptedSync_alike h.peers body remote
      have hpublish := fun ids =>
        publishRoutes_alike hnodes h.peerNodes h.gossipSeen ids remote now
      refine { h with peerNodes := ?_, gossipSeen := ?_ }
      · dsimp only
        rw [haccept]
        cases Server.acceptedSync cfg s body remote with
        | none => exact h.peerNodes
        | some ids => exact (hpublish ids).1
      · dsimp only
        rw [haccept]
        cases Server.acceptedSync cfg s body remote with
        | none => exact h.gossipSeen
        | some ids => exact (hpublish ids).2
    | other => exact h
  | reap => exact h.reap now
  | notify nodeID => exact { h with nodes := notifyNode_alike hguard.conn hnodes nodeID now }
  | registry x => exact { h with peers := registryDiscover_alike hguard.conn h.peers x }
  | _ => exact h

/-! ## Socket and guard -/

theorem GuardAlike.symm (h : GuardAlike s s') : GuardAlike s' s := ⟨h.conn.symm, h.guard.symm⟩

theorem GuardAlike.trans {s₁ s₂ s₃ : Server} (h : GuardAlike s₁ s₂) (h' : GuardAlike s₂ s₃) :
    GuardAlike s₁ s₃ :=
  ⟨h'.conn.trans h.conn, h'.guard.trans h.guard⟩

/-- A Discover leaves both as they are. -/
theorem guardAlike_discover (env : Env) (now : Int) (body : Bytes) (remote : UDPAddr)
    (wantDest : Bool) : GuardAlike s (s.handleDiscover cfg env now body remote wantDest).1 := by
  rw [Server.handleDiscover_state]
  cases Server.discoverAdmitted env body <;> exact ⟨rfl, rfl⟩

/-- The event is none of those that change socket or guard. -/
def Event.KeepsGuard (cfg : Config) (e : Event) : Prop :=
  match e.act with
  | .listen _ => False
  | .reap => False
  | .packet _ data _ _ => ∀ body, cfg.proto.decode data ≠ .punchRequest body
  | _ => True

theorem Event.KeepsGuard.guardAlike (h : e.KeepsGuard cfg) : GuardAlike s (next cfg s e) := by
  obtain ⟨now, act⟩ := e
  unfold next step
  cases act with
  | listen addr => exact h.elim
  | reap => exact h.elim
  | packet env data remote bridgePeer =>
    dsimp only
    unfold Server.handlePacketFrom
    cases hdec : cfg.proto.decode data with
    | discover body wantDest => exact guardAlike_discover env now body remote wantDest
    | punchRequest body => exact absurd hdec (h body)
    | relay body =>
      obtain ⟨_, _, _, _, _, hframe, _⟩ := Server.dispatchRelay_frame cfg env now s body
        (relaySource remote bridgePeer)
      dsimp only
      rw [hframe]
      exact ⟨rfl, rfl⟩
    | sync body =>
      dsimp only
      rw [Server.handleSync_eq]
      cases Server.acceptedSync cfg s body remote <;> exact ⟨rfl, rfl⟩
    | other => exact ⟨rfl, rfl⟩
  | worker i ev =>
    have hframe := (Server.workerStep_spec cfg s i ev).1
    exact ⟨hframe.conn, Prod.ext hframe.punchRL hframe.lastPunchTime⟩
  | gossip order => exact ⟨rfl, rfl⟩
  | notify nodeID =>
    obtain ⟨_, hframe, _⟩ := Server.notifyNode_frame s nodeID now
    dsimp only
    rw [hframe]
    exact ⟨rfl, rfl⟩
  | registry x =>
    obtain ⟨_, hframe⟩ := Server.registryDiscover_frame cfg s x
    dsimp only
    rw [hframe]
    exact ⟨rfl, rfl⟩
  | close => exact ⟨rfl, rfl⟩

/-- Socket and guard go their own way. -/
theorem GuardAlike.next (h : GuardAlike s s') (e : Event) :
    GuardAlike (next cfg s e) (next cfg s' e) := by
  obtain ⟨now, act⟩ := e
  have hkept : Event.KeepsGuard cfg ⟨now, act⟩ → GuardAlike (PilotBeacon.next cfg s ⟨now, act⟩)
      (PilotBeacon.next cfg s' ⟨now, act⟩) := fun hact =>
    hact.guardAlike.symm.trans (h.trans hact.guardAlike)
  cases act with
  | listen addr =>
    refine ⟨?_, h.guard⟩
    exact congrArg (fun conn => some (Option.getD conn addr)) h.conn
  | reap =>
    obtain ⟨_, _, _, _, hreap⟩ := s.reapStaleNodes_frame now
    obtain ⟨_, _, _, _, hreap'⟩ := s'.reapStaleNodes_frame now
    unfold PilotBeacon.next step
    dsimp only
    rw [hreap, hreap']
    refine ⟨h.conn, ?_⟩
    exact congrArg (fun g : PunchRateLimiter × Int =>
      (g.1.sweep (now - punchRateCleanupInterval), g.2)) h.guard
  | packet env data remote bridgePeer =>
    cases hdec : cfg.proto.decode data with
    | punchRequest body =>
      have hguard := Server.handlePunchRequest_guard cfg env now s body remote
      have hguard' := Server.handlePunchRequest_guard cfg env now s' body remote
      obtain ⟨hrl, hlast⟩ := Prod.ext_iff.mp h.guard
      rw [h.guard, Server.punchGuard_congr hrl hlast, ← hguard] at hguard'
      obtain ⟨_, _, hstate⟩ := Server.handlePunchRequest_state cfg env now s body remote
      obtain ⟨_, _, hstate'⟩ := Server.handlePunchRequest_state cfg env now s' body remote
      unfold PilotBeacon.next step Server.handlePacketFrom
      simp only [hdec]
      refine ⟨?_, hguard'⟩
      rw [hstate, hstate']
      exact h.conn
    | _ => exact hkept (by simp [Event.KeepsGuard, hdec])
  | _ => exact hkept trivial

/-! ## Limiters -/

/-- Two limiters that differ at most in `id`, which both last admitted no later than at `t`. -/
structure LimiterSpent (id : UInt32) (t : Int) (rl rl' : DiscoverRateLimiter) : Prop where
  others : ∀ x, x ≠ id → rl'.lookup x = rl.lookup x
  spent : ∀ u, rl.lookup id = some u → u ≤ t
  spent' : ∀ u, rl'.lookup id = some u → u ≤ t

/-- Equal entries stay equal. -/
theorem lookup_discoverRL_congr {x : UInt32}
    (h : s'.discoverRL.lookup x = s.discoverRL.lookup x) (e : Event) :
    (next cfg s' e).discoverRL.lookup x = (next cfg s e).discoverRL.lookup x := by
  cases limiterAct cfg e with
  | discover id _ _ hrl =>
    rw [hrl, hrl]
    by_cases hx : x = id
    · subst hx
      exact (Limiter.intervalAllow_congr h _ _).2
    · exact (Limiter.lookup_intervalAllow_of_ne hx _ _).trans
        (h.trans (Limiter.lookup_intervalAllow_of_ne hx _ _).symm)
  | sweep _ hrl =>
    rw [hrl, hrl]
    unfold DiscoverRateLimiter.sweep Limiter.intervalSweep
    rw [ShardedMap.lookup_filter, ShardedMap.lookup_filter, h]
  | none _ hrl =>
    rw [hrl, hrl]
    exact h

/-- Until `id` is heard, the difference does not matter. -/
theorem LimiterSpent.next {id : UInt32} {t : Int} (h : LimiterSpent id t s.discoverRL s'.discoverRL)
    (hno : ¬ (discoverFor cfg e = some id ∧ e.BreakerClosed)) :
    LimiterSpent id t (next cfg s e).discoverRL (next cfg s' e).discoverRL where
  others x hx := lookup_discoverRL_congr (h.others x hx) e
  spent u hu := h.spent u (lookup_discoverRL_other hno hu)
  spent' u hu := h.spent' u (lookup_discoverRL_other hno hu)

/-- When `id` is heard late enough, both limiters let it in, and agree from then on. -/
theorem LimiterSpent.heard {id : UInt32} {t : Int}
    (h : LimiterSpent id t s.discoverRL s'.discoverRL) (hfor : discoverFor cfg e = some id)
    (hclosed : e.BreakerClosed) (hlate : t + discoverMinInterval ≤ e.now) :
    (s'.discoverRL.allow id e.now discoverMinInterval).1 =
        (s.discoverRL.allow id e.now discoverMinInterval).1 ∧
      ∀ x, (PilotBeacon.next cfg s' e).discoverRL.lookup x =
        (PilotBeacon.next cfg s e).discoverRL.lookup x := by
  have hlet : s.discoverRL.allow id e.now discoverMinInterval =
      (true, s.discoverRL.insert id e.now) := by
    apply Limiter.intervalAllow_of_old
    intro u hu
    have := h.spent u hu
    omega
  have hlet' : s'.discoverRL.allow id e.now discoverMinInterval =
      (true, s'.discoverRL.insert id e.now) := by
    apply Limiter.intervalAllow_of_old
    intro u hu
    have := h.spent' u hu
    omega
  refine ⟨by rw [hlet, hlet'], fun x => ?_⟩
  rw [discoverRL_next hfor hclosed, discoverRL_next hfor hclosed, hlet, hlet']
  by_cases hx : x = id
  · subst hx
    rw [ShardedMap.lookup_insert_self, ShardedMap.lookup_insert_self]
  · rw [ShardedMap.lookup_insert_of_ne _ _ hx, ShardedMap.lookup_insert_of_ne _ _ hx]
    exact h.others x hx

/-! ## Runs -/

/-- With equal limiters tables stay alike. -/
theorem TablesAlike.run (hK : cfg.requirePunchToken = true → K) (hguard : GuardAlike s s')
    (h : TablesAlike cfg K M s.tables s'.tables)
    (hsame : ∀ x, s'.discoverRL.lookup x = s.discoverRL.lookup x) (es : List Event) :
    TablesAlike cfg K M (Transition.run (PilotBeacon.next cfg) s es).tables
      (Transition.run (PilotBeacon.next cfg) s' es).tables := by
  induction es generalizing s s' with
  | nil => exact h
  | cons e es ih =>
    apply ih (hguard.next e) _ fun x => lookup_discoverRL_congr (hsame x) e
    exact h.next hK hguard fun id _ _ => (Limiter.intervalAllow_congr (hsame id) _ _).1

/-- And with limiters that differ in a node that is not heard too soon. -/
theorem TablesAlike.run_spent (hK : cfg.requirePunchToken = true → K) (hguard : GuardAlike s s')
    (h : TablesAlike cfg K M s.tables s'.tables) {id : UInt32} {t : Int}
    (hspent : LimiterSpent id t s.discoverRL s'.discoverRL) {es : List Event}
    (hes : NextDiscoverFrom cfg id (t + discoverMinInterval) es) :
    TablesAlike cfg K M (Transition.run (PilotBeacon.next cfg) s es).tables
      (Transition.run (PilotBeacon.next cfg) s' es).tables := by
  induction es generalizing s s' with
  | nil => exact h
  | cons e es ih =>
    unfold NextDiscoverFrom at hes
    split_ifs at hes with hheard
    · -- the limiters agree from here on
      obtain ⟨hallow, hsame⟩ := hspent.heard hheard.1 hheard.2 hes
      refine TablesAlike.run hK (hguard.next e) ?_ hsame es
      apply h.next hK hguard
      rintro id' hfor -
      cases hheard.1.symm.trans hfor
      exact hallow
    · apply ih (hguard.next e) _ (hspent.next hheard) hes
      apply h.next hK hguard
      intro id' hfor hclosed
      refine (Limiter.intervalAllow_congr (hspent.others id' ?_) _ _).1
      rintro rfl
      exact hheard ⟨hfor, hclosed⟩

/-- A Discover with no key to be learnt from leaves the keys. -/
theorem KeySettled.lookup_note {body : Bytes} (h : KeySettled cfg s body)
    (hnone : cfg.authKeyLookup = none) (wantDest : Bool) (id : UInt32) :
    (s.noteDiscover (BigEndian.uint32 body) body wantDest).nodePubKeys.lookup id =
      s.nodePubKeys.lookup id := by
  dsimp only [Server.noteDiscover]
  split_ifs with hlen
  · rw [FiniteMap.lookup_loadOrStore]
    split_ifs with hid
    · -- the node has a key
      rcases h with hlookup | hshort | hstored
      · rw [hnone] at hlookup
        cases hlookup
      · omega
      · obtain ⟨key, hkey⟩ := Option.isSome_iff_exists.mp hstored
        rw [hid, hkey]
        rfl
    · rfl
  · rfl

/-- One with no mark to be learnt from leaves the marks. -/
theorem MarkSettled.lookup_note {body : Bytes} {wantDest : Bool} (h : MarkSettled s body wantDest)
    (id : UInt32) :
    (s.noteDiscover (BigEndian.uint32 body) body wantDest).dstNodes.lookup id =
      s.dstNodes.lookup id := by
  dsimp only [Server.noteDiscover]
  split_ifs with hmark
  · by_cases hid : id = BigEndian.uint32 body
    · rcases h with hplain | hmarked
      · exact absurd (hplain.symm.trans hmark) Bool.false_ne_true
      · obtain ⟨u, hu⟩ := Option.isSome_iff_exists.mp hmarked
        rw [hid, hu, AList.lookup_insert]
    · exact AList.lookup_insert_ne hid
  · rfl

/-- What a Discover that is not stored leaves in the tables. -/
theorem tablesAlike_refused (env : Env) (now : Int) {data body : Bytes} {wantDest : Bool}
    (hdec : cfg.proto.decode data = .discover body wantDest) (remote : UDPAddr)
    (bridgePeer : UInt32)
    (hrefused : (s.discoverRL.allow (BigEndian.uint32 body) now discoverMinInterval).1 = true →
      (s.nodes.upsert (BigEndian.uint32 body) remote now maxBeaconNodes).atCapacity = true) :
    TablesAlike cfg (KeySettled cfg s body) (MarkSettled s body wantDest) s.tables
      (next cfg s ⟨now, .packet env data remote bridgePeer⟩).tables := by
  rw [next_tables]
  simp only [hdec]
  constructor
  case nodes =>
    dsimp only
    split_ifs with hstored
    · rw [Bool.and_eq_true] at hstored
      exact (NodeMap.upsert_atCapacity (hrefused hstored.2)).1
    · rfl
  case peers => rfl
  case peerNodes => rfl
  case gossipSeen => rfl
  case keys =>
    intro hsettled hnone id
    dsimp only
    split_ifs
    · exact hsettled.lookup_note hnone wantDest id
    · rfl
  case marks =>
    intro hsettled id
    dsimp only
    split_ifs
    · exact hsettled.lookup_note id
    · rfl

/-- And in the limiter. -/
theorem limiter_refused (env : Env) (now : Int) {data body : Bytes} {wantDest : Bool}
    (hdec : cfg.proto.decode data = .discover body wantDest) (remote : UDPAddr)
    (bridgePeer : UInt32) :
    (next cfg s ⟨now, .packet env data remote bridgePeer⟩).discoverRL = s.discoverRL ∨
      (s.discoverRL.allow (BigEndian.uint32 body) now discoverMinInterval).1 = true ∧
        LimiterSpent (BigEndian.uint32 body) now s.discoverRL
          (next cfg s ⟨now, .packet env data remote bridgePeer⟩).discoverRL := by
  have htables := congrArg Tables.discoverRL
    (next_tables cfg s ⟨now, .packet env data remote bridgePeer⟩)
  simp only [hdec] at htables
  cases hadm : Server.discoverAdmitted env body with
  | false =>
    rw [hadm] at htables
    exact Or.inl htables
  | true =>
    rw [hadm] at htables
    cases hallow : (s.discoverRL.allow (BigEndian.uint32 body) now discoverMinInterval).1 with
    | false => exact Or.inl (htables.trans (Limiter.intervalAllow_false hallow))
    | true =>
      obtain ⟨hinsert, hold⟩ := Limiter.intervalAllow_true hallow
      have hrl : (next cfg s ⟨now, .packet env data remote bridgePeer⟩).discoverRL =
          s.discoverRL.insert (BigEndian.uint32 body) now := htables.trans hinsert
      refine Or.inr ⟨rfl, ?_, ?_, ?_⟩
      · intro x hx
        rw [hrl, ShardedMap.lookup_insert_of_ne _ _ hx]
      · intro u hu
        have := hold u hu
        have : 0 ≤ discoverMinInterval := by decide
        omega
      · intro u hu
        rw [hrl, ShardedMap.lookup_insert_self] at hu
        exact (Option.some_inj.mp hu).ge

/-- **A refused Discover changes nothing about delivery but what it says of its node.** Take a
    Discover that is not stored, because the limiter refuses it, or because its shard is full and
    the node is not heard again within `discoverMinInterval`. Every later state has the same
    address for the node as without the datagram, the same layout unless it marked the node, and
    the same key unless the key was learnt from it. -/
theorem refused_discover_unseen (cfg : Config) (peers : List Text) (pre es : List Event)
    (env : Env) (now : Int) (data body : Bytes) (wantDest : Bool) (remote : UDPAddr)
    (bridgePeer : UInt32) (hdec : cfg.proto.decode data = .discover body wantDest)
    (hrefused : ((runFrom cfg peers pre).discoverRL.allow (BigEndian.uint32 body) now
        discoverMinInterval).1 = true →
      ((runFrom cfg peers pre).nodes.upsert (BigEndian.uint32 body) remote now
        maxBeaconNodes).atCapacity = true ∧
      NextDiscoverFrom cfg (BigEndian.uint32 body) (now + discoverMinInterval) es)
    (hkey : cfg.requirePunchToken = true → KeySettled cfg (runFrom cfg peers pre) body) :
    DeliversAlike cfg (KeySettled cfg (runFrom cfg peers pre) body)
      (MarkSettled (runFrom cfg peers pre) body wantDest) (BigEndian.uint32 body)
      (runFrom cfg peers (pre ++ es))
      (runFrom cfg peers (pre ++ ⟨now, .packet env data remote bridgePeer⟩ :: es)) := by
  unfold runFrom at *
  rw [Transition.run_append, Transition.run_append, Transition.run_cons]
  apply TablesAlike.deliversAlike
  have htables := tablesAlike_refused env now hdec remote bridgePeer fun h => (hrefused h).1
  have hguard : GuardAlike (Transition.run (next cfg) (newWithPeers cfg peers) pre)
      (next cfg (Transition.run (next cfg) (newWithPeers cfg peers) pre)
        ⟨now, .packet env data remote bridgePeer⟩) := by
    apply Event.KeepsGuard.guardAlike
    simp [Event.KeepsGuard, hdec]
  rcases limiter_refused env now hdec remote bridgePeer with hsame | ⟨hallow, hspent⟩
  · exact htables.run hkey hguard (fun x => by rw [hsame]) es
  · exact htables.run_spent hkey hguard hspent (hrefused hallow).2

end

/-- Somebody else discovers node 7 a second later, and the node itself after a minute. -/
theorem refused_discover_unseen_minute :
    DeliversAlike sampleConfig (KeySettled sampleConfig (runFrom sampleConfig [] nodeSeven)
        [0, 0, 0, 7]) (MarkSettled (runFrom sampleConfig [] nodeSeven) [0, 0, 0, 7] false) 7
      (runFrom sampleConfig [] (nodeSeven ++
        [sampleDatagram (60 * second) (sampleAddr 10 0 0 3 4000) [0x01, 0, 0, 0, 7]]))
      (runFrom sampleConfig [] (nodeSeven ++
        [sampleDatagram (2 * second) (sampleAddr 10 0 0 2 4000) [0x01, 0, 0, 0, 7],
          sampleDatagram (60 * second) (sampleAddr 10 0 0 3 4000) [0x01, 0, 0, 0, 7]])) :=
  refused_discover_unseen sampleConfig [] nodeSeven
    [sampleDatagram (60 * second) (sampleAddr 10 0 0 3 4000) [0x01, 0, 0, 0, 7]] sampleEnv
    (2 * second) [0x01, 0, 0, 0, 7] [0, 0, 0, 7] false (sampleAddr 10 0 0 2 4000) 0 rfl
    (fun h => absurd h (by decide +kernel)) (fun h => nomatch h)

/-- A DiscoverEx of node 7, with a key. -/
def lateMark : Event :=
  sampleDatagram (2 * second) (sampleAddr 10 0 0 2 4000)
    (sampleProtocol.beaconMsgDiscoverEx :: BigEndian.putUint32 7 ++ List.replicate publicKeySize 1)

/-- **A refused DiscoverEx is heard**: the limiter refuses its endpoint, but from then on frames for
    the node carry its id, and grants for it are checked against the key. -/
theorem refusedDiscover_heard :
    ((runFrom sampleConfig [] nodeSeven).discoverRL.allow 7 lateMark.now
        discoverMinInterval).1 = false ∧
      (runFrom sampleConfig [] nodeSeven).route 7 =
        .localNode (sampleAddr 10 0 0 1 4000) false ∧
      (runFrom sampleConfig [] (nodeSeven ++ [lateMark])).route 7 =
        .localNode (sampleAddr 10 0 0 1 4000) true ∧
      (runFrom sampleConfig [] nodeSeven).targetPubKey sampleConfig 7 = none ∧
      (runFrom sampleConfig [] (nodeSeven ++ [lateMark])).targetPubKey sampleConfig 7 =
        some (List.replicate publicKeySize 1) := by
  decide +kernel

end PilotBeacon

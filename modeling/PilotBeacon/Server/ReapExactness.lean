import PilotBeacon.Server.Beacon

/-!
# What the Reaper Leaves

The reaper works through six tables, three of them by their own cutoffs and three by what is left
of others. Here is what is left of each, in every state a beacon can be in.

The routes go by when their owner last delivered a sync. The beacon keeps that time under the
owner's printed address and forgets it with the owner's routes, so for the owner of a route it is
the time of the owner's last sync.

- `ownersHeard`: the times kept are those of the last syncs
- `reap_exact`: what one reap leaves, and that a second one changes nothing
-/

namespace PilotBeacon

open PilotBeacon.Lib PilotBeacon.Net

/-! ## Last syncs -/

/-- The accepted sync an event is: its source and time. -/
def syncHeard (cfg : Config) (s : Server) (e : Event) : List (UDPAddr × Int) :=
  match acceptedGossip cfg s e with
  | some (src, _) => [(src, e.now)]
  | none => []

/-- The accepted syncs of a run, oldest first. -/
def syncsHeard (cfg : Config) (peers : List Text) (es : List Event) : List (UDPAddr × Int) :=
  Transition.observe (next cfg) (syncHeard cfg) (newWithPeers cfg peers) es

/-- When the endpoint `a` delivered its last sync. -/
def lastSync (heard : List (UDPAddr × Int)) (a : UDPAddr) : Option Int :=
  ((heard.filter fun p => p.1.sameEndpoint a).getLast?).map Prod.snd

theorem lastSync_append_self (heard : List (UDPAddr × Int)) (a : UDPAddr) (now : Int) :
    lastSync (heard ++ [(a, now)]) a = some now := by
  simp [lastSync, List.filter_append]

theorem lastSync_append_other (heard : List (UDPAddr × Int)) {a src : UDPAddr} (now : Int)
    (h : a.sameEndpoint src = false) : lastSync (heard ++ [(src, now)]) a = lastSync heard a := by
  rw [UDPAddr.sameEndpoint_comm] at h
  simp [lastSync, List.filter_append, h]

/-- The time kept for the owner of a route is that of its last sync. -/
def OwnersHeard (heard : List (UDPAddr × Int)) (s : Server) : Prop :=
  ∀ id a, s.peerNodes.lookup id = some a → ∃ t, lastSync heard a = some t ∧
    s.gossipSeen.lookup a.string = some t

section

variable {cfg : Config} {s : Server} {heard : List (UDPAddr × Int)}

theorem OwnersHeard.publish (h : OwnersHeard heard s) (ids : List UInt32) (src : UDPAddr)
    (now : Int) : OwnersHeard (heard ++ [(src, now)]) (s.publishRoutes ids src now) := by
  intro id a ha
  rw [Server.lookup_publishRoutes] at ha
  rw [Server.lookup_gossipSeen_publishRoutes]
  split_ifs at ha with hpub
  · cases ha
    exact ⟨now, lastSync_append_self heard src now, if_pos rfl⟩
  · obtain ⟨ha, hother⟩ := Option.filter_eq_some_iff.mp ha
    rw [Bool.not_eq_true'] at hother
    obtain ⟨t, hlast, hseen⟩ := h id a ha
    refine ⟨t, (lastSync_append_other heard now hother).trans hlast, ?_⟩
    rw [if_neg, hseen]
    -- another endpoint is printed differently
    intro hstr
    rw [(UDPAddr.string_injective hstr).1] at hother
    nomatch hother

theorem OwnersHeard.sweep (h : OwnersHeard heard s) (cutoff : Int) :
    OwnersHeard heard (s.sweepStaleGossip cutoff) := by
  intro id a ha
  rw [Server.lookup_sweepStaleGossip] at ha
  obtain ⟨ha, hfresh⟩ := Option.filter_eq_some_iff.mp ha
  obtain ⟨t, hlast, hseen⟩ := h id a ha
  rw [hseen] at hfresh
  refine ⟨t, hlast, ?_⟩
  -- the route is kept because its owner's time is
  rw [Server.lookup_gossipSeen_sweep, hseen, Option.filter_eq_some_iff]
  exact ⟨rfl, by simpa using hfresh⟩

theorem OwnersHeard.congr {s' : Server} (h : OwnersHeard heard s)
    (hroutes : s'.peerNodes = s.peerNodes) (hseen : s'.gossipSeen = s.gossipSeen) :
    OwnersHeard heard s' := by
  intro id a ha
  rw [hroutes] at ha
  rw [hseen]
  exact h id a ha

theorem OwnersHeard.next (h : OwnersHeard heard s) (e : Event) :
    OwnersHeard (heard ++ syncHeard cfg s e) (next cfg s e) := by
  unfold syncHeard
  rcases next_routes cfg s e with
    ⟨src, ids, hev, -, hroutes, hseen⟩ | ⟨hev, -, hroutes, hseen⟩ | ⟨hev, -, hroutes, hseen⟩
  · rw [hev]
    exact (h.publish ids src e.now).congr hroutes hseen
  · rw [hev, List.append_nil]
    exact (h.sweep _).congr hroutes hseen
  · rw [hev, List.append_nil]
    exact h.congr hroutes hseen

end

theorem ownersHeard (cfg : Config) (peers : List Text) (es : List Event) :
    OwnersHeard (syncsHeard cfg peers es) (runFrom cfg peers es) := by
  apply Transition.run_induction (next cfg)
    (fun es s => OwnersHeard (syncsHeard cfg peers es) s)
  · intro id a ha
    nomatch ha
  · intro es e ih
    rw [syncsHeard, Transition.observe_concat]
    exact ih.next e

/-! ## A second reap -/

namespace Server

/-- A sweep that finds no source stale changes nothing. -/
theorem sweepStaleGossip_of_fresh {s : Server} {cutoff : Int}
    (h : FiniteMap.filter (fun _ last => !decide (last < cutoff)) s.gossipSeen = s.gossipSeen) :
    s.sweepStaleGossip cutoff = s := by
  have hstale :
      (FiniteMap.filter (fun _ last => decide (last < cutoff)) s.gossipSeen).size = 0 := by
    have hsplit := FiniteMap.size_filter_add_size_filter_not
      (fun _ last => decide (last < cutoff)) s.gossipSeen
    rw [h] at hsplit
    omega
  unfold sweepStaleGossip
  dsimp only
  rw [if_pos hstale, h]

/-- Nor does a reap that finds nothing to do. -/
theorem reapStaleNodes_of_fresh {s : Server} {now : Int}
    (hnodes : (s.nodes.reapStale (now - beaconNodeTTL)).1 = s.nodes)
    (hpunch : s.punchRL.sweep (now - punchRateCleanupInterval) = s.punchRL)
    (hrelay : s.relayRL.sweep (now - relaySourceCleanupInterval) = s.relayRL)
    (hdiscover : s.discoverRL.sweep (now - discoverMinInterval * 2) = s.discoverRL)
    (hgossip : s.sweepStaleGossip (now - gossipPeerTTL) = s)
    (hkeys : FiniteMap.filter (fun id _ => s.nodes.has id) s.nodePubKeys = s.nodePubKeys)
    (hmarks : FiniteMap.filter (fun id _ => s.nodes.has id) s.dstNodes = s.dstNodes) :
    s.reapStaleNodes now = s := by
  unfold reapStaleNodes
  dsimp only
  rw [hnodes, hpunch, hrelay, hdiscover, hgossip, hkeys, hmarks]

/-- **A second reap changes nothing.** -/
theorem reapStaleNodes_reapStaleNodes (s : Server) (now : Int) :
    (s.reapStaleNodes now).reapStaleNodes now = s.reapStaleNodes now := by
  obtain ⟨keys, dst, routes, seen, h⟩ := reapStaleNodes_frame s now
  apply reapStaleNodes_of_fresh
  case hnodes =>
    rw [reapStaleNodes_nodes]
    exact ShardedMap.filter_filter_self _ _
  case hpunch =>
    rw [h]
    exact ShardedMap.filter_filter_self _ _
  case hrelay =>
    rw [h]
    exact ShardedMap.filter_filter_self _ _
  case hdiscover =>
    rw [reapStaleNodes_discoverRL]
    exact ShardedMap.filter_filter_self _ _
  case hgossip =>
    apply sweepStaleGossip_of_fresh
    have hseen : (s.reapStaleNodes now).gossipSeen =
        FiniteMap.filter (fun _ last => !decide (last < now - gossipPeerTTL)) s.gossipSeen := by
      rw [reapStaleNodes_gossip.2]
      unfold sweepStaleGossip
      dsimp only
      split_ifs <;> rfl
    rw [hseen, FiniteMap.filter_filter_self]
  case hkeys =>
    have hkeys := (@reapStaleNodes_notes s now).1
    rw [hkeys, FiniteMap.filter_filter_self]
  case hmarks =>
    have hmarks := (@reapStaleNodes_notes s now).2
    rw [hmarks, FiniteMap.filter_filter_self]

end Server

/-! ## Exactness -/

/-- `r` is what a reap at `now` leaves of `s`, entry by entry, `heard` being the syncs so far. -/
structure Reaped (heard : List (UDPAddr × Int)) (s r : Server) (now : Int) : Prop where
  nodes : ∀ id n, r.nodes.get id = some n ↔
    s.nodes.get id = some n ∧ ¬ n.lastSeen < now - beaconNodeTTL
  nodePubKeys : ∀ id key, r.nodePubKeys.lookup id = some key ↔
    s.nodePubKeys.lookup id = some key ∧ r.nodes.has id = true
  dstNodes : ∀ id, (r.dstNodes.lookup id).isSome = true ↔
    (s.dstNodes.lookup id).isSome = true ∧ r.nodes.has id = true
  punchRL : ∀ key last, r.punchRL.lookup key = some last ↔
    s.punchRL.lookup key = some last ∧ ¬ last < now - punchRateCleanupInterval
  relayRL : ∀ src w, r.relayRL.lookup src = some w ↔
    s.relayRL.lookup src = some w ∧ ¬ w.windowStart < now - relaySourceCleanupInterval
  discoverRL : ∀ id last, r.discoverRL.lookup id = some last ↔
    s.discoverRL.lookup id = some last ∧ ¬ last < now - discoverMinInterval * 2
  peerNodes : ∀ id a, r.peerNodes.lookup id = some a ↔
    s.peerNodes.lookup id = some a ∧ ∃ t, lastSync heard a = some t ∧ ¬ t < now - gossipPeerTTL

/-- What a sweep keeps of a limiter or of the node table. -/
theorem lookup_swept_iff {K V : Type} [DecidableEq K] {n : Nat} {shardOf : K → Fin n}
    (m : ShardedMap K V n shardOf) (stamp : V → Int) (cutoff : Int) (k : K) (v : V) :
    (m.filter fun _ v => !decide (stamp v < cutoff)).lookup k = some v ↔
      m.lookup k = some v ∧ ¬ stamp v < cutoff := by
  rw [ShardedMap.lookup_filter, Option.filter_eq_some_iff]
  simp

/-- **Reap exactness.** In every state a beacon can reach, a reap leaves exactly this, and another
    one at the same time changes nothing. -/
theorem reap_exact (cfg : Config) (peers : List Text) (es : List Event) (now : Int) :
    Reaped (syncsHeard cfg peers es) (runFrom cfg peers es)
        ((runFrom cfg peers es).reapStaleNodes now) now ∧
      ((runFrom cfg peers es).reapStaleNodes now).reapStaleNodes now =
        (runFrom cfg peers es).reapStaleNodes now := by
  have howners := ownersHeard cfg peers es
  set s := runFrom cfg peers es
  obtain ⟨keys, dst, routes, seen, h⟩ := Server.reapStaleNodes_frame s now
  refine ⟨?_, s.reapStaleNodes_reapStaleNodes now⟩
  constructor
  case nodes =>
    intro id n
    rw [Server.reapStaleNodes_nodes]
    exact lookup_swept_iff s.nodes BeaconNode.lastSeen _ id n
  case nodePubKeys =>
    intro id key
    rw [Server.lookup_nodePubKeys_reap]
    cases (s.reapStaleNodes now).nodes.has id <;> simp
  case dstNodes =>
    intro id
    rw [Server.lookup_dstNodes_reap]
    cases (s.reapStaleNodes now).nodes.has id <;> simp
  case punchRL =>
    intro key last
    rw [h]
    exact lookup_swept_iff s.punchRL id _ key last
  case relayRL =>
    intro src w
    rw [h]
    exact lookup_swept_iff s.relayRL Limiter.Window.windowStart _ src w
  case discoverRL =>
    intro id last
    rw [Server.reapStaleNodes_discoverRL]
    exact lookup_swept_iff s.discoverRL (fun t => t) _ id last
  case peerNodes =>
    intro id a
    rw [Server.reapStaleNodes_gossip.1, Server.lookup_sweepStaleGossip, Option.filter_eq_some_iff]
    apply and_congr_right
    intro hroute
    -- the owner's time is kept, and is that of its last sync
    obtain ⟨t, hlast, hseen⟩ := howners id a hroute
    rw [hlast, hseen]
    simp

end PilotBeacon

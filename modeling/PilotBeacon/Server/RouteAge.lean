import PilotBeacon.Server.EndpointStability

/-!
# Routes and Registrations

A route to a node that is also registered here is shadowed by the registration and comes to
light again when the reaper removes it. It then has to be a fresh one: the registration
outlives routes (`beaconNodeTTL` against `gossipPeerTTL`), so a route older than the
registration is swept no later than the registration is reaped, and one newer than it would
not have been published.

- `RoutesDated`: a route is no newer than the registration it is shadowed by
- `no_route_of_unregistered`: no route is left to a node when its registration goes
- `route_next`: where routes come from
-/

namespace PilotBeacon

open PilotBeacon.Lib PilotBeacon.Net

/-- The owner of the route for `d` was last heard by now, and no later than `d` was if `d` is
    registered. -/
def RoutesDated (d : UInt32) (s : Server) (now : Int) : Prop :=
  ∀ a, s.peerNodes.lookup d = some a → ∃ t, s.gossipSeen.lookup a.string = some t ∧ t ≤ now ∧
    ∀ p, s.nodes.endpoint d = some p → t ≤ p.2

section

variable {cfg : Config} {d : UInt32} {s : Server} {e : Event} {now : Int} {a : UDPAddr}

/-- The source of an accepted sync is the address it was received from. -/
theorem acceptedGossip_src {env : Env} {data : Bytes} {remote : UDPAddr} {bridgePeer : UInt32}
    {ids : List UInt32}
    (h : acceptedGossip cfg s ⟨now, .packet env data remote bridgePeer⟩ = some (a, ids)) :
    a = remote := by
  unfold acceptedGossip at h
  dsimp only at h
  cases hdec : cfg.proto.decode data with
  | sync body =>
    simp only [hdec] at h
    obtain ⟨_, -, hpair⟩ := Option.map_eq_some_iff.mp h
    cases hpair
    rfl
  | _ =>
    simp only [hdec] at h
    cases h

/-- A route was there before, or the event is a sync of its owner that lists the node. -/
theorem route_next (h : (next cfg s e).peerNodes.lookup d = some a) :
    s.peerNodes.lookup d = some a ∨
      ∃ ids, acceptedGossip cfg s e = some (a, ids) ∧ d ∈ ids ∧ s.nodes.has d = false := by
  rcases next_routes cfg s e with
    ⟨src, ids, hev, -, hroutes, -⟩ | ⟨-, -, hroutes, -⟩ | ⟨-, -, hroutes, -⟩
  · rw [hroutes, Server.lookup_publishRoutes] at h
    split_ifs at h with hpub
    · cases h
      exact Or.inr ⟨ids, hev, hpub⟩
    · exact Or.inl (Option.filter_eq_some_iff.mp h).1
  · rw [hroutes, Server.lookup_sweepStaleGossip] at h
    exact Or.inl (Option.filter_eq_some_iff.mp h).1
  · exact Or.inl (hroutes ▸ h)

/-- No event makes an entry older than a time it is no older than. -/
theorem endpoint_next_le {t : Int} (hnow : t ≤ e.now)
    (h : ∀ p, s.nodes.endpoint d = some p → t ≤ p.2) :
    ∀ p, (next cfg s e).nodes.endpoint d = some p → t ≤ p.2 := by
  intro p hp
  rw [endpoint_next] at hp
  rcases nodeWrite_cases cfg d s e with hw | ⟨w, hw, htime⟩
  · rw [hw] at hp
    dsimp only at hp
    cases hact : e.act with
    | reap =>
      simp only [hact] at hp
      exact h p (Option.filter_eq_some_iff.mp hp).1
    | _ =>
      simp only [hact] at hp
      exact h p hp
  · rw [hw] at hp
    cases hp
    exact hnow.trans htime.ge

/-- Only the reaper removes an entry, and it removes what is older than `beaconNodeTTL`. -/
theorem endpoint_lost {p : UDPAddr × Int} (hbefore : s.nodes.endpoint d = some p)
    (hafter : (next cfg s e).nodes.endpoint d = none) :
    e.act = .reap ∧ p.2 < e.now - beaconNodeTTL := by
  rw [endpoint_next] at hafter
  rcases nodeWrite_cases cfg d s e with hw | ⟨w, hw, -⟩
  · rw [hw] at hafter
    dsimp only at hafter
    cases hact : e.act with
    | reap =>
      simp only [hact, hbefore] at hafter
      -- the reaper's own condition
      have hold : p.2 + beaconNodeTTL < e.now := by simpa [Option.filter] using hafter
      exact ⟨rfl, by omega⟩
    | _ =>
      simp only [hact, hbefore] at hafter
      cases hafter
  · rw [hw] at hafter
    cases hafter

/-- Every event keeps the dates in order, if the clock does not go back. -/
theorem RoutesDated.next (h : RoutesDated d s now) (hnow : now ≤ e.now) :
    RoutesDated d (next cfg s e) e.now := by
  intro a ha
  rcases next_routes cfg s e with
    ⟨src, ids, hev, hact, hroutes, hseen⟩ | ⟨-, hact, hroutes, hseen⟩ | ⟨-, hact, hroutes, hseen⟩
  · rw [hroutes, Server.lookup_publishRoutes] at ha
    rw [hseen, Server.lookup_gossipSeen_publishRoutes]
    split_ifs at ha with hpub
    · cases ha
      refine ⟨e.now, if_pos rfl, le_refl _, endpoint_next_le (le_refl _) ?_⟩
      -- published now, so not registered
      intro p hp
      rw [NodeMap.has_eq_isSome_endpoint, hp] at hpub
      cases hpub.2
    · obtain ⟨ha, hother⟩ := Option.filter_eq_some_iff.mp ha
      obtain ⟨t, ht, hle, hreg⟩ := h a ha
      refine ⟨t, ?_, hle.trans hnow, endpoint_next_le (hle.trans hnow) hreg⟩
      rw [if_neg, ht]
      -- another endpoint is printed differently, so its time is not overwritten
      intro hstr
      rw [(UDPAddr.string_injective hstr).1] at hother
      cases hother
  · rw [hroutes, Server.lookup_sweepStaleGossip] at ha
    obtain ⟨ha, hfresh⟩ := Option.filter_eq_some_iff.mp ha
    obtain ⟨t, ht, hle, hreg⟩ := h a ha
    rw [ht] at hfresh
    refine ⟨t, ?_, hle.trans hnow, endpoint_next_le (hle.trans hnow) hreg⟩
    rw [hseen, Server.lookup_gossipSeen_sweep, ht, Option.filter_eq_some_iff]
    exact ⟨rfl, by simpa using hfresh⟩
  · rw [hroutes] at ha
    obtain ⟨t, ht, hle, hreg⟩ := h a ha
    exact ⟨t, hseen ▸ ht, hle.trans hnow, endpoint_next_le (hle.trans hnow) hreg⟩

/-- **A node whose registration goes has no route.** -/
theorem no_route_of_unregistered (h : RoutesDated d s now)
    (hbefore : s.nodes.has d = true) (hafter : (PilotBeacon.next cfg s e).nodes.has d = false) :
    (PilotBeacon.next cfg s e).peerNodes.lookup d = none := by
  rw [NodeMap.has_eq_isSome_endpoint] at hbefore hafter
  obtain ⟨p, hp⟩ := Option.isSome_iff_exists.mp hbefore
  have hnone := Option.not_isSome_iff_eq_none.mp (Bool.eq_false_iff.mp hafter)
  obtain ⟨hact, hold⟩ := endpoint_lost hp hnone
  -- the reaper sweeps the routes in the same event
  rcases next_routes cfg s e with ⟨-, -, -, hne, -⟩ | ⟨-, -, hroutes, -⟩ | ⟨-, hne, -⟩
  · exact absurd hact hne
  · rw [hroutes, Server.lookup_sweepStaleGossip, Option.filter_eq_none_iff]
    intro a ha
    obtain ⟨t, ht, -, hreg⟩ := h a ha
    have hle := hreg p hp
    -- the owner was heard no later than the node, so it is swept with it
    have hswept : t < e.now - gossipPeerTTL := by
      simp only [beaconNodeTTL, gossipPeerTTL, second] at hold ⊢
      omega
    simp [ht, hswept]
  · exact absurd hact hne

end

end PilotBeacon

import PilotBeacon.Server.Provenance
import PilotBeacon.Server.ReapExactness

/-!
# Strict Gossip

With `SetStrictGossip` on, a sync counts only if its source has the IP of a beacon in the peer
set. The check is made when the sync arrives, and the peer set changes under it: the registry
adds and removes beacons. So routes, and with them the traffic relayed to other beacons, lead only
to endpoints whose IP was in the peer set when they published; and a beacon that has left the set
keeps its routes for a while, but not past the first round of the reaper later than
`gossipPeerTTL` after it left.

- `PublishedAsPeer`: a route was published by a member of the peer set
- `Outsider`: an address stays outside of the peer set
- `strict_gossip_contained`, `strict_gossip_revoked`: the statements about runs
-/

namespace PilotBeacon

open PilotBeacon.Lib PilotBeacon.Net

section

variable {cfg : Config} {peers : List Text} {s : Server} {e : Event} {a : UDPAddr}

/-- Only members of the peer set are accepted. -/
theorem known_of_accepted (hstrict : cfg.strictGossip = true) {ids : List UInt32}
    (h : acceptedGossip cfg s e = some (a, ids)) : s.isKnownGossipPeer a = true := by
  revert h
  unfold acceptedGossip
  cases e.act with
  | packet env data remote bridgePeer =>
    dsimp only
    cases cfg.proto.decode data with
    | sync body =>
      dsimp only
      unfold Server.acceptedSync
      split_ifs with hrefused
      · exact fun h => by cases h
      · rintro ⟨⟩
        simpa [hstrict] using fun hunknown => hrefused (Or.inr ⟨hstrict, hunknown⟩)
    | _ => exact fun h => by cases h
  | _ => exact fun h => by cases h

/-- Membership is a matter of the IP, however it is written. -/
theorem isKnownGossipPeer_congr {b : UDPAddr} (h : a.ip.to16 = b.ip.to16) :
    s.isKnownGossipPeer a = s.isKnownGossipPeer b := by
  unfold Server.isKnownGossipPeer
  congr 1
  funext p
  rw [Bool.eq_iff_iff, IP.equal_iff, IP.equal_iff, h]

/-! ## Containment -/

/-- An event of the run is a sync of `a` that lists `id`, and `a` was in the peer set when it
    arrived. -/
def PublishedAsPeer (cfg : Config) (peers : List Text) (es : List Event) (id : UInt32)
    (a : UDPAddr) : Prop :=
  ∃ pre e, pre ++ [e] <+: es ∧ e.source = some a ∧ id ∈ e.lists cfg ∧
    (runFrom cfg peers pre).isKnownGossipPeer a = true

theorem PublishedAsPeer.concat {es : List Event} {id : UInt32}
    (h : PublishedAsPeer cfg peers es id a) (e : Event) :
    PublishedAsPeer cfg peers (es ++ [e]) id a := by
  obtain ⟨pre, e₀, hprefix, hrest⟩ := h
  exact ⟨pre, e₀, hprefix.trans (List.prefix_append _ _), hrest⟩

theorem sourced_strict (hstrict : cfg.strictGossip = true) (es : List Event) :
    Sourced (NamedBy cfg es) (PublishedAsPeer cfg peers es) (runFrom cfg peers es) := by
  apply Transition.run_induction (next cfg)
    (fun es s => Sourced (NamedBy cfg es) (PublishedAsPeer cfg peers es) s)
  · exact sourced_new cfg peers
  · intro es e ih
    refine ih.next ?_ (fun id a h => h.concat e) ?_ ?_
    · rintro id a ⟨e', he', h⟩
      exact ⟨e', List.mem_append_left _ he', h⟩
    · intro id w hw
      obtain ⟨hsrc, hname, -⟩ := nodeWrite_source hw
      exact ⟨e, by simp, hname, hsrc⟩
    · intro a ids hacc id hid _
      obtain ⟨hsrc, rfl⟩ := acceptedGossip_source hacc
      exact ⟨es, e, List.prefix_rfl, hsrc, hid, known_of_accepted hstrict hacc⟩

/-! ## Revocation -/

/-- The IP of `a` is outside of the peer set at every event of the run `es` from `s` on. -/
def Outsider (cfg : Config) (a : UDPAddr) (s : Server) (es : List Event) : Prop :=
  Transition.Along (next cfg) (fun s _ => s.isKnownGossipPeer a = false) s es

/-- No endpoint at the IP of `a` was heard at `t` or later. -/
def QuietSince (a : UDPAddr) (t : Int) (s : Server) : Prop :=
  ∀ b : UDPAddr, b.ip.to16 = a.ip.to16 →
    ∀ last, s.gossipSeen.lookup b.string = some last → last < t

/-- A step at which no endpoint at that IP is accepted, or which is early enough. -/
theorem QuietSince.next {t : Int} (h : QuietSince a t s) (e : Event)
    (haccept : ∀ src ids, acceptedGossip cfg s e = some (src, ids) →
      src.ip.to16 = a.ip.to16 → e.now < t) : QuietSince a t (next cfg s e) := by
  intro b hb last hlast
  rcases next_routes cfg s e with ⟨src, ids, hacc, -, -, hseen⟩ | ⟨-, -, -, hseen⟩ |
    ⟨-, -, -, hseen⟩
  · rw [hseen, Server.lookup_gossipSeen_publishRoutes] at hlast
    split_ifs at hlast with hstring
    · -- addresses printed alike have one IP
      cases hlast
      have hip := (UDPAddr.sameEndpoint_iff.mp (UDPAddr.string_injective hstring).1).1
      exact haccept src ids hacc (hip.symm.trans hb)
    · exact h b hb last hlast
  · rw [hseen, Server.lookup_gossipSeen_sweep] at hlast
    exact h b hb last (Option.filter_eq_some_iff.mp hlast).1
  · rw [hseen] at hlast
    exact h b hb last hlast

/-- An outsider is not accepted. -/
theorem not_accepted_of_outsider (hstrict : cfg.strictGossip = true)
    (hout : s.isKnownGossipPeer a = false) {src : UDPAddr} {ids : List UInt32}
    (hacc : acceptedGossip cfg s e = some (src, ids)) : src.ip.to16 ≠ a.ip.to16 := by
  intro hip
  have hknown := known_of_accepted hstrict hacc
  rw [isKnownGossipPeer_congr hip, hout] at hknown
  cases hknown

/-- No route leads to an endpoint at the IP of `a`. -/
def NoRouteTo (a : UDPAddr) (s : Server) : Prop :=
  ∀ id b, s.peerNodes.lookup id = some b → b.ip.to16 ≠ a.ip.to16

/-- An outsider gets no route. -/
theorem NoRouteTo.next (h : NoRouteTo a s) (hstrict : cfg.strictGossip = true)
    (hout : s.isKnownGossipPeer a = false) (e : Event) : NoRouteTo a (next cfg s e) := by
  intro id b hb
  rcases routeOwner_next hb with hold | ⟨ids, hacc, -⟩
  · exact h id b hold
  · exact not_accepted_of_outsider hstrict hout hacc

/-- The sweep takes the routes of whoever has been quiet long enough. -/
theorem noRouteTo_reap {heard : List (UDPAddr × Int)} (hheard : OwnersHeard heard s) {now : Int}
    (hquiet : QuietSince a (now - gossipPeerTTL) s) : NoRouteTo a (next cfg s ⟨now, .reap⟩) := by
  intro id b hb hip
  rcases next_routes cfg s ⟨now, .reap⟩ with ⟨-, -, -, hne, -⟩ | ⟨-, -, hroutes, -⟩ | ⟨-, hne, -⟩
  · exact hne rfl
  · rw [hroutes, Server.lookup_sweepStaleGossip, Option.filter_eq_some_iff] at hb
    obtain ⟨last, -, hlast⟩ := hheard id b hb.1
    have hold := hquiet b hip last hlast
    simp [hlast] at hb
    omega
  · exact hne rfl

/-- What was heard in a run that ended before `t` was heard before `t`. -/
theorem quietSince_run {t : Int} {es : List Event} (h : ∀ e ∈ es, e.now < t) :
    QuietSince a t (runFrom cfg peers es) := by
  induction es using List.reverseRecOn with
  | nil => exact fun _ _ _ hlast => by cases hlast
  | append_singleton es e ih =>
    rw [runFrom, Transition.run_concat]
    have hquiet := ih fun x hx => h x (List.mem_append_left _ hx)
    exact hquiet.next e fun _ _ _ _ => h e (by simp)

end

/-! ## Over whole runs -/

/-- **Strict gossip contains.** With the gate on, every datagram of every run is gossip to a peer,
    goes to the source of the datagram it answers, to an address that a Discover, DiscoverEx or
    PunchRequest of a node it is for came from, or to the source of a sync that listed such a node
    and was in the peer set when the sync arrived; and every route leads to such a source. -/
theorem strict_gossip_contained (cfg : Config) (hstrict : cfg.strictGossip = true)
    (peers : List Text) (es : List Event) :
    (∀ pre e post, es = pre ++ e :: post →
      ∀ o ∈ (step cfg (runFrom cfg peers pre) e).2, ∀ d, o.datagram? = some d →
        (∃ order, e.act = .gossip order ∧ d.dst ∈ (runFrom cfg peers pre).peers) ∨
        (e.source = some d.dst ∧ e.admitted cfg (runFrom cfg peers pre) = true) ∨
        ∃ id ∈ o.addressees cfg e,
          NamedBy cfg pre id d.dst ∨ PublishedAsPeer cfg peers pre id d.dst) ∧
    ∀ id a, (runFrom cfg peers es).peerNodes.lookup id = some a →
      PublishedAsPeer cfg peers es id a := by
  refine ⟨fun pre e post _ o ho d hd => ?_, (sourced_strict hstrict es).routes⟩
  rcases (sourced_strict hstrict pre).destination ho hd with ⟨order, hact, hpeer, -⟩ | hrest
  · exact .inl ⟨order, hact, hpeer⟩
  · exact .inr hrest

/-- **Strict gossip revokes.** If an IP is out of the peer set from some moment on, then from the
    first round of the reaper more than `gossipPeerTTL` later no route leads there, and what a
    worker batches or sends there was in its batch before or is for a node registered there. -/
theorem strict_gossip_revoked (cfg : Config) (hstrict : cfg.strictGossip = true)
    (peers : List Text) (pre mid post : List Event) (now : Int) (a : UDPAddr)
    (hleft : ∀ e ∈ pre, e.now < now - gossipPeerTTL)
    (hout : Outsider cfg a (runFrom cfg peers pre) (mid ++ ⟨now, .reap⟩ :: post)) :
    let s := runFrom cfg peers (pre ++ (mid ++ ⟨now, .reap⟩ :: post))
    (∀ id b, s.peerNodes.lookup id = some b → b.ip.equal a.ip = false) ∧
      ∀ i ev m, m ∈ sentMessages (s.workerStep cfg i ev).2 ++
          ((s.workerStep cfg i ev).1.workers i).msgs →
        m ∈ (s.workers i).msgs ∨ s.nodes.snapshot m.dest = some m.addr ∨
          m.addr.ip.equal a.ip = false := by
  intro s
  obtain ⟨hmid, hreap, hpost⟩ := (Transition.along_append (next cfg)).mp hout
  -- up to the reaper's round nobody at that IP is heard any more
  have hquiet := Transition.along_invariant (next cfg) (QuietSince a (now - gossipPeerTTL))
    (quietSince_run hleft) (fun s e hs hq => hq.next e fun src ids hacc hip =>
      absurd hip (not_accepted_of_outsider hstrict hs hacc)) hmid
  have hheard := ownersHeard cfg peers (pre ++ mid)
  rw [runFrom, Transition.run_append] at hheard
  -- the round takes the routes, and no new ones come
  have hnone : NoRouteTo a s := by
    have hafter := Transition.along_invariant (next cfg) (NoRouteTo a)
      (@noRouteTo_reap cfg _ a _ hheard now hquiet) (fun s e hs hn => hn.next hstrict hs e) hpost
    simp only [s, runFrom, Transition.run_append, Transition.run_cons]
    exact hafter
  have hne : ∀ id b, s.peerNodes.lookup id = some b → b.ip.equal a.ip = false := by
    intro id b hb
    rw [Bool.eq_false_iff, ne_eq, IP.equal_iff]
    exact hnone id b hb
  refine ⟨hne, fun i ev m hm => ?_⟩
  rcases workerStep_messages hm with hold | hnode | hroute
  · exact .inl hold
  · exact .inr (.inl hnode)
  · exact .inr (.inr (hne _ _ hroute))

/-- The configured peer publishes a route for node 7, and the registry's next list is empty. -/
def peerLeaves : List Event :=
  [⟨0, .listen (sampleAddr 0 0 0 0 9001)⟩,
    ⟨0, .packet sampleEnv (syncMessage emptyListConfig [7]) (sampleAddr 10 0 0 2 9001) 0⟩,
    ⟨1, .registry ⟨some "10.0.0.1".toList, 4, [0, 0, 0, 2, 0x7b, 0x7d, 0, 0, 0, 2, 0x7b, 0x7d]⟩⟩]

theorem peerLeaves_route : (runFrom emptyListConfig ["10.0.0.2:9001".toList]
    peerLeaves).peerNodes.lookup 7 = some (sampleAddr 10 0 0 2 9001) := by
  decide

/-- The route is there, and a member of the peer set published it. -/
theorem strict_gossip_contained_peerLeaves :
    PublishedAsPeer emptyListConfig ["10.0.0.2:9001".toList] peerLeaves 7
      (sampleAddr 10 0 0 2 9001) :=
  (strict_gossip_contained emptyListConfig rfl ["10.0.0.2:9001".toList] peerLeaves).2 7 _
    peerLeaves_route

theorem peerLeaves_outsider : Outsider emptyListConfig (sampleAddr 10 0 0 2 9001)
    (runFrom emptyListConfig ["10.0.0.2:9001".toList] peerLeaves)
    ([] ++ [⟨100 * second, .reap⟩]) :=
  ⟨by decide, trivial⟩

/-- A hundred seconds later the reaper takes the route. -/
theorem strict_gossip_revoked_peerLeaves :
    (runFrom emptyListConfig ["10.0.0.2:9001".toList] peerLeaves).peerNodes.lookup 7 =
        some (sampleAddr 10 0 0 2 9001) ∧
      (runFrom emptyListConfig ["10.0.0.2:9001".toList]
        (peerLeaves ++ ([] ++ [⟨100 * second, .reap⟩]))).peerNodes.lookup 7 ≠
        some (sampleAddr 10 0 0 2 9001) :=
  ⟨peerLeaves_route, fun h => absurd
    ((strict_gossip_revoked emptyListConfig rfl ["10.0.0.2:9001".toList] peerLeaves [] []
      (100 * second) (sampleAddr 10 0 0 2 9001) (by decide) peerLeaves_outsider).1 7 _ h)
    (by decide)⟩

end PilotBeacon

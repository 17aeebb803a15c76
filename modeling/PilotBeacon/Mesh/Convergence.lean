import PilotBeacon.Lib.Announce
import PilotBeacon.Mesh.Basic

/-!
# Convergence of Gossip

In a full mesh one round of gossip is enough: when every beacon has sent its list and all
lists have arrived, in whatever order, the routes lead to the beacons where nodes are
registered, whatever they were before.

Each list is a turn in the sense of `Announce`: its sender becomes the owner of the routes for
the nodes on it and gives up the others.

- `FullMesh`: the states a round starts from
- `RoundState`: what holds in the middle of a round
- `gossip_converges`: what holds after it
-/

namespace PilotBeacon

open PilotBeacon.Lib PilotBeacon.Net
open Announce (announce announceAll)

namespace Mesh

variable {n : Nat} (M : Mesh n)

/-! ## Rounds -/

/-- Every member is bound and has all others as its peers, its list of nodes fits one
    datagram, and its routes lead to other members. -/
structure FullMesh (node : Fin n → Member) : Prop where
  bound : ∀ i, (node i).server.conn.isSome = true
  peers_members : ∀ i, ∀ a ∈ (node i).server.peers, ∃ j, j ≠ i ∧ a.sameEndpoint (M.addr j) = true
  members_peers : ∀ i j, j ≠ i → ∃ a ∈ (node i).server.peers, a.sameEndpoint (M.addr j) = true
  small : ∀ i, (node i).server.nodes.len ≤ 16375
  owned : ∀ i d a, (node i).server.peerNodes.lookup d = some a →
    ∃ j, j ≠ i ∧ a.sameEndpoint (M.addr j) = true

/-- The member whose `sendGossip` an event is. -/
def gossiper? : MeshEvent n → Option (Fin n)
  | .act i ⟨_, .gossip _⟩ => some i
  | _ => none

/-- A step of a gossip round: somebody gossips, or something arrives. -/
def InRound (ev : MeshEvent n) : Prop := (gossiper? ev).isSome = true ∨ ∃ k x, ev = .deliver k x

/-- The events of a gossip round: everybody gossips. -/
structure IsRound (es : List (MeshEvent n)) : Prop where
  events : ∀ ev ∈ es, InRound ev
  everybody : ∀ i, i ∈ es.filterMap gossiper?

/-- The member that owns the route for `d`. -/
def owner? (s : Server) (d : UInt32) : Option (Fin n) := (s.peerNodes.lookup d).bind M.member?

/-- Whether `d` is registered at a member. -/
def holds (node : Fin n → Member) (d : UInt32) (i : Fin n) : Bool := (node i).server.nodes.has d

/-! ## The middle of a round -/

/-- What is in flight is the full list of its sender. -/
structure ListFlight (node : Fin n → Member) (f : Network.Flight (Fin n) Bytes) : Prop where
  other : f.src ≠ f.dst
  list : ∃ ids, f.msg = syncMessage (M.cfg f.src) ids ∧ ids.length ≤ 16375 ∧
    ∀ d, d ∈ ids ↔ holds node d f.src = true

/-- `m` is reached in a round from `start`, after the members `gossiped` have gossiped and
    lists have arrived at `i` in the order `arrived i`. -/
structure RoundState (start : Fin n → Member) (gossiped : List (Fin n))
    (arrived : Fin n → List (Fin n)) (m : MeshState n) : Prop where
  nodes : ∀ i, (m.node i).server.nodes = (start i).server.nodes
  peers : ∀ i, (m.node i).server.peers = (start i).server.peers
  conn : ∀ i, (m.node i).server.conn = (start i).server.conn
  flights : ∀ f ∈ m.flights, M.ListFlight start f
  covered : ∀ j ∈ gossiped, ∀ i, i ≠ j →
    j ∈ arrived i ∨ ∃ f ∈ m.flights, f.src = j ∧ f.dst = i
  arrived_other : ∀ i, i ∉ arrived i
  members : ∀ i d a, (m.node i).server.peerNodes.lookup d = some a →
    ∃ j, j ≠ i ∧ a.sameEndpoint (M.addr j) = true
  owner : ∀ i d, holds start d i = false → M.owner? (m.node i).server d =
    announceAll (holds start d) (M.owner? (start i).server d) (arrived i)

section

variable {M} {start : Fin n → Member} {gossiped : List (Fin n)} {arrived : Fin n → List (Fin n)}
  {m : MeshState n}

theorem FullMesh.roundState (h : M.FullMesh start) (hstart : m.node = start)
    (hquiet : m.flights = []) : M.RoundState start [] (fun _ => []) m := by
  subst hstart
  refine ⟨fun _ => rfl, fun _ => rfl, fun _ => rfl, ?_, ?_, ?_, h.owned, fun _ _ _ => rfl⟩
  · intro f hf
    rw [hquiet] at hf
    cases hf
  · intro j hj
    cases hj
  · intro i hi
    cases hi

/-! ## Somebody gossips -/

/-- What `i` sends: its list, to everybody else. -/
theorem RoundState.mem_sent (h : M.RoundState start gossiped arrived m) (hfull : M.FullMesh start)
    (i : Fin n) (order : List UInt32) {j : Fin n} {data : Bytes} :
    (j, data) ∈ M.internal (((m.node i).server.sendGossip (M.cfg i) order).map .udp) ↔
      j ≠ i ∧ data = syncMessage (M.cfg i) ((m.node i).server.gossipIDs order) := by
  rw [mem_internal]
  constructor
  · rintro ⟨o, ho, dst, hd, -, hj⟩
    obtain ⟨dg, hdg, rfl⟩ := List.mem_map.mp ho
    obtain ⟨-, peer, hpeer, rfl⟩ := Server.mem_sendGossip.mp hdg
    cases hd
    rw [h.peers] at hpeer
    obtain ⟨j', hj', hpeer⟩ := hfull.peers_members i _ hpeer
    -- the peer is one member only
    have hsame := M.addr_inj j' j
      (UDPAddr.sameEndpoint_trans (UDPAddr.sameEndpoint_symm hpeer) hj)
    exact ⟨hsame ▸ hj', rfl⟩
  · rintro ⟨hj, rfl⟩
    obtain ⟨peer, hpeer, hdst⟩ := hfull.members_peers i j hj
    refine ⟨_, List.mem_map.mpr ⟨⟨peer, _⟩, Server.mem_sendGossip.mpr ⟨?_, peer, ?_, rfl⟩, rfl⟩,
      peer, rfl, ?_, hdst⟩
    · rw [h.conn]
      exact hfull.bound i
    · rw [h.peers]
      exact hpeer
    · -- 7 + 4 · 16375 bytes at most
      have hsmall := hfull.small i
      rw [length_syncMessage, Server.length_gossipIDs, h.nodes, maxUDPPayload]
      omega

/-- Gossiping changes no beacon, only what is in flight. -/
theorem server_gossip (m : MeshState n) (i : Fin n) (elapsed : Nat) (order : List UInt32)
    (j : Fin n) : ((M.step m (.act i ⟨elapsed, .gossip order⟩)).node j).server =
      (m.node j).server := by
  rw [step_act]
  by_cases hj : j = i
  · subst hj
    dsimp only
    rw [Function.update_self]
    rfl
  · exact congrArg Member.server (Function.update_of_ne hj _ _)

theorem RoundState.flights_gossip (h : M.RoundState start gossiped arrived m)
    (hfull : M.FullMesh start) (i : Fin n) (elapsed : Nat) (order : List UInt32)
    (f : Network.Flight (Fin n) Bytes) :
    f ∈ (M.step m (.act i ⟨elapsed, .gossip order⟩)).flights ↔
      f ∈ m.flights ∨ f.src = i ∧ f.dst ≠ i ∧
        f.msg = syncMessage (M.cfg i) ((m.node i).server.gossipIDs order) := by
  rw [step_act, List.mem_append, List.mem_map]
  apply or_congr_right
  constructor
  · rintro ⟨⟨j, data⟩, hjd, rfl⟩
    exact ⟨rfl, (h.mem_sent hfull i order).mp hjd⟩
  · rintro ⟨hsrc, hdst, hmsg⟩
    refine ⟨(f.dst, f.msg), (h.mem_sent hfull i order).mpr ⟨hdst, hmsg⟩, ?_⟩
    rw [← hsrc]

theorem RoundState.gossip (h : M.RoundState start gossiped arrived m) (hfull : M.FullMesh start)
    (i : Fin n) (elapsed : Nat) (order : List UInt32) :
    M.RoundState start (gossiped ++ [i]) arrived (M.step m (.act i ⟨elapsed, .gossip order⟩)) := by
  have hserver := M.server_gossip m i elapsed order
  have hflights := h.flights_gossip hfull i elapsed order
  refine ⟨?_, ?_, ?_, ?_, ?_, h.arrived_other, ?_, ?_⟩
  · intro j
    rw [hserver]
    exact h.nodes j
  · intro j
    rw [hserver]
    exact h.peers j
  · intro j
    rw [hserver]
    exact h.conn j
  · intro f hf
    rcases (hflights f).mp hf with hf | ⟨hsrc, hdst, hmsg⟩
    · exact h.flights f hf
    · have hsmall := hfull.small i
      subst hsrc
      refine ⟨Ne.symm hdst, _, hmsg, ?_, ?_⟩
      · rw [Server.length_gossipIDs, h.nodes]
        omega
      · intro d
        rw [Server.mem_gossipIDs (by rw [h.nodes]; omega), h.nodes]
        rfl
  · intro j hj i' hi'
    rcases List.mem_append.mp hj with hj | hj
    · apply (h.covered j hj i' hi').imp_right
      rintro ⟨f, hf, hends⟩
      exact ⟨f, (hflights f).mpr (Or.inl hf), hends⟩
    · -- the lists of `i` are all in flight
      rw [List.mem_singleton.mp hj] at hi' ⊢
      exact Or.inr ⟨⟨i, i', _⟩, (hflights _).mpr (Or.inr ⟨rfl, hi', rfl⟩), rfl, rfl⟩
  · intro j d a ha
    rw [hserver] at ha
    exact h.members j d a ha
  · intro j d hd
    rw [hserver]
    exact h.owner j d hd

/-! ## A list arrives -/

/-- For a node that is not registered at the receiver, a sync is a turn of its sender. -/
theorem owner?_publishRoutes {s : Server} {ids : List UInt32} {j : Fin n} {now : Int} {d : UInt32}
    (hmembers : ∀ a, s.peerNodes.lookup d = some a → ∃ i, a.sameEndpoint (M.addr i) = true)
    (hfree : s.nodes.has d = false) {held : Fin n → Bool} (hids : d ∈ ids ↔ held j = true) :
    M.owner? (s.publishRoutes ids (M.addr j) now) d = announce held (M.owner? s d) j := by
  rw [owner?, Server.lookup_publishRoutes, announce]
  by_cases hj : held j = true
  · -- on the list: the sender takes the route over
    rw [if_pos hj, if_pos ⟨hids.mpr hj, hfree⟩]
    exact M.member?_eq_some.mpr (UDPAddr.sameEndpoint_refl _)
  · rw [if_neg hj, if_neg (fun hpub => hj (hids.mp hpub.1)), owner?]
    cases hroute : s.peerNodes.lookup d with
    | none => rfl
    | some a =>
      obtain ⟨i, hi⟩ := hmembers a hroute
      have hmember := M.member?_eq_some.mpr hi
      rw [Option.bind_some, hmember]
      -- the route is withdrawn exactly if its owner is the sender
      by_cases hij : i = j
      · subst hij
        simp [Option.filter, hi]
      · have hother : a.sameEndpoint (M.addr j) = false := by
          rw [Bool.eq_false_iff]
          intro haj
          exact hij (M.addr_inj i j
            (UDPAddr.sameEndpoint_trans (UDPAddr.sameEndpoint_symm hi) haj))
        simp [Option.filter, hother, hmember, hij]

/-- The sender of a list passes the gate of everybody else. -/
theorem RoundState.knows (h : M.RoundState start gossiped arrived m) (hfull : M.FullMesh start)
    {i j : Fin n} (hij : j ≠ i) : (m.node i).server.isKnownGossipPeer (M.addr j) = true := by
  obtain ⟨a, ha, haj⟩ := hfull.members_peers i j hij
  refine List.any_eq_true.mpr ⟨a, by rwa [h.peers], ?_⟩
  rw [UDPAddr.sameEndpoint, Bool.and_eq_true] at haj
  exact haj.1

/-- A list that arrives is accepted, and nothing is sent in reply. -/
theorem RoundState.step_deliver (h : M.RoundState start gossiped arrived m)
    (hfull : M.FullMesh start) {k : Nat} {f : Network.Flight (Fin n) Bytes}
    (hf : m.flights[k]? = some f) (x : Arrival) :
    f.src ≠ f.dst ∧ ∃ ids now, (∀ d, d ∈ ids ↔ holds start d f.src = true) ∧
      M.step m (.deliver k x) =
        ⟨Function.update m.node f.dst
          ⟨(m.node f.dst).server.publishRoutes ids (M.addr f.src) now, now⟩,
          m.flights.eraseIdx k⟩ := by
  obtain ⟨hother, ids, hmsg, hsmall, hids⟩ := h.flights f (List.mem_of_getElem? hf)
  -- with or without the strict gate, the sender being a peer
  have hreact : PilotBeacon.step (M.cfg f.dst) (m.node f.dst).server
      ((m.node f.dst).event (M.receive f.src f.msg x)) =
      ((m.node f.dst).server.publishRoutes ids (M.addr f.src)
        ((m.node f.dst).clock + x.elapsed), []) := by
    rw [hmsg]
    apply step_syncMessage
    · rw [M.cfg_proto, M.cfg_proto]
    · omega
    · intro _
      exact h.knows hfull hother
  refine ⟨hother, ids, (m.node f.dst).clock + x.elapsed, hids, ?_⟩
  rw [M.step_deliver hf, hreact, Member.next, PilotBeacon.next, hreact]
  show Network.State.mk _ (m.flights.eraseIdx k ++ []) = _
  rw [List.append_nil]
  rfl

/-- Who was covered stays covered: a list in flight has arrived or is still in flight. -/
theorem RoundState.covered_deliver (h : M.RoundState start gossiped arrived m) {k : Nat}
    {f : Network.Flight (Fin n) Bytes} (hf : m.flights[k]? = some f) {i j : Fin n}
    (hj : j ∈ gossiped) (hij : i ≠ j) :
    j ∈ Function.update arrived f.dst (arrived f.dst ++ [f.src]) i ∨
      ∃ f' ∈ m.flights.eraseIdx k, f'.src = j ∧ f'.dst = i := by
  rcases h.covered j hj i hij with harr | ⟨f', hf', rfl, rfl⟩
  · left
    by_cases hi : i = f.dst
    · subst hi
      rw [Function.update_self]
      exact List.mem_append_left _ harr
    · rwa [Function.update_of_ne hi]
  · -- was it this one that arrived?
    obtain ⟨k', hk'⟩ := List.mem_iff_getElem?.mp hf'
    by_cases hk : k' = k
    · subst hk
      cases Option.some_inj.mp (hk'.symm.trans hf)
      left
      rw [Function.update_self]
      exact List.mem_append_right _ (List.mem_singleton.mpr rfl)
    · exact Or.inr ⟨f', List.mem_eraseIdx_iff_getElem?.mpr ⟨k', hk, hk'⟩, rfl, rfl⟩

/-- What the new member at `j` has in common with the old one, all members have. -/
theorem congr_update_server {β : Type} {node : Fin n → Member} {j : Fin n} {member : Member}
    (g : Server → β) (hg : g member.server = g (node j).server) (i : Fin n) :
    g (Function.update node j member i).server = g (node i).server := by
  by_cases hi : i = j
  · subst hi
    rw [Function.update_self]
    exact hg
  · rw [Function.update_of_ne hi]

theorem RoundState.deliver (h : M.RoundState start gossiped arrived m) (hfull : M.FullMesh start)
    {k : Nat} {f : Network.Flight (Fin n) Bytes} (hf : m.flights[k]? = some f) (x : Arrival) :
    M.RoundState start gossiped (Function.update arrived f.dst (arrived f.dst ++ [f.src]))
      (M.step m (.deliver k x)) := by
  obtain ⟨hother, ids, now, hids, hstep⟩ := h.step_deliver hfull hf x
  rw [hstep]
  -- apart from its routes the receiver stays as it is
  refine ⟨?_, ?_, ?_, ?_, fun j hj i hij => h.covered_deliver hf hj hij, ?_, ?_, ?_⟩
  · intro i
    rw [← h.nodes i]
    apply congr_update_server Server.nodes
    rfl
  · intro i
    rw [← h.peers i]
    apply congr_update_server Server.peers
    rfl
  · intro i
    rw [← h.conn i]
    apply congr_update_server Server.conn
    rfl
  · intro f' hf'
    exact h.flights f' (List.mem_of_mem_eraseIdx hf')
  · intro i
    by_cases hi : i = f.dst
    · subst hi
      rw [Function.update_self, List.mem_append, List.mem_singleton]
      exact not_or.mpr ⟨h.arrived_other f.dst, Ne.symm hother⟩
    · rw [Function.update_of_ne hi]
      exact h.arrived_other i
  · intro i d a ha
    dsimp only at ha
    by_cases hi : i = f.dst
    · subst hi
      rw [Function.update_self, Server.lookup_publishRoutes] at ha
      split_ifs at ha
      · cases ha
        exact ⟨f.src, hother, UDPAddr.sameEndpoint_refl _⟩
      · exact h.members f.dst d a (Option.filter_eq_some_iff.mp ha).1
    · rw [Function.update_of_ne hi] at ha
      exact h.members i d a ha
  · intro i d hd
    dsimp only
    by_cases hi : i = f.dst
    · subst hi
      -- at the receiver the arrival is one more turn
      rw [Function.update_self, Function.update_self, Announce.announceAll_concat, ← h.owner _ d hd]
      apply owner?_publishRoutes
      · intro a ha
        obtain ⟨j, -, hj⟩ := h.members f.dst d a ha
        exact ⟨j, hj⟩
      · rw [h.nodes]
        exact hd
      · exact hids d
    · rw [Function.update_of_ne hi, Function.update_of_ne hi]
      exact h.owner i d hd

/-! ## The whole round -/

/-- Every run of round steps leads to a state of the round. -/
theorem FullMesh.roundState_run (hfull : M.FullMesh m.node) (hquiet : m.flights = [])
    (es : List (MeshEvent n)) : (∀ ev ∈ es, InRound ev) →
      ∃ arrived, M.RoundState m.node (es.filterMap gossiper?) arrived (M.run m es) := by
  apply Transition.run_induction M.step (fun es m' => (∀ ev ∈ es, InRound ev) →
    ∃ arrived, M.RoundState m.node (es.filterMap gossiper?) arrived m')
  · intro _
    exact ⟨_, hfull.roundState rfl hquiet⟩
  · intro es ev ih hes
    obtain ⟨arrived, h⟩ := ih fun ev' hev' => hes ev' (List.mem_append_left _ hev')
    rw [List.filterMap_append]
    rcases hes ev (List.mem_append_right _ (List.mem_singleton.mpr rfl)) with hg | ⟨k, x, rfl⟩
    · -- only one kind of event has a gossiper
      match ev, hg with
      | .act i ⟨elapsed, .gossip order⟩, _ => exact ⟨arrived, h.gossip hfull i elapsed order⟩
    · rw [show [Network.Event.deliver k x].filterMap gossiper? = ([] : List (Fin n)) from rfl,
        List.append_nil]
      cases hf : (Transition.run M.step m es).flights[k]? with
      | none =>
        rw [M.step_deliver_none hf]
        exact ⟨arrived, h⟩
      | some f => exact ⟨_, h.deliver hfull hf x⟩

/-- When nothing is in flight any more, everybody's list has arrived everywhere, and routes
    lead to where nodes are registered. -/
theorem RoundState.converged (h : M.RoundState start gossiped arrived m)
    (hall : ∀ j, j ∈ gossiped) (hdone : m.flights = []) (i : Fin n) {d : UInt32}
    (hd : (m.node i).server.nodes.has d = false) :
    ((∃ a, (m.node i).server.peerNodes.lookup d = some a) ↔
      ∃ j, j ≠ i ∧ (m.node j).server.nodes.has d = true) ∧
    ∀ a, (m.node i).server.peerNodes.lookup d = some a →
      ∃ j, j ≠ i ∧ a.sameEndpoint (M.addr j) = true ∧ (m.node j).server.nodes.has d = true := by
  -- nothing is in flight, so what was sent has arrived
  have harrived : ∀ j, j ≠ i → j ∈ arrived i := by
    intro j hj
    apply (h.covered j (hall j) i (Ne.symm hj)).resolve_right
    rintro ⟨f, hf, -⟩
    rw [hdone] at hf
    cases hf
  have hholds : ∀ j, holds start d j = (m.node j).server.nodes.has d := by
    intro j
    rw [holds, h.nodes]
  have howner := h.owner i d ((hholds i).trans hd)
  have hroute : ∀ a, (m.node i).server.peerNodes.lookup d = some a →
      ∃ j, j ≠ i ∧ a.sameEndpoint (M.addr j) = true ∧ (m.node j).server.nodes.has d = true := by
    intro a ha
    obtain ⟨j, hj, haj⟩ := h.members i d a ha
    refine ⟨j, hj, haj, ?_⟩
    rw [owner?, ha, Option.bind_some, M.member?_eq_some.mpr haj] at howner
    rw [← hholds]
    -- the owner has had its turn
    exact (Announce.announceAll_some howner.symm).resolve_right fun hold => hold.2 (harrived j hj)
  refine ⟨⟨?_, ?_⟩, hroute⟩
  · rintro ⟨a, ha⟩
    obtain ⟨j, hj, -, hreg⟩ := hroute a ha
    exact ⟨j, hj, hreg⟩
  · rintro ⟨j, hj, hreg⟩
    rw [← hholds] at hreg
    obtain ⟨j', hj', -⟩ := Announce.announceAll_holds (harrived j hj) hreg
    rw [hj'] at howner
    obtain ⟨a, ha, -⟩ := Option.bind_eq_some_iff.mp howner
    exact ⟨a, ha⟩

end

end Mesh

/-- **One round of gossip is enough.** From any state of a full mesh with nothing in flight,
    after everybody has gossiped and everything has arrived, in any order: a beacon has a route
    for a node that is not registered with it exactly if the node is registered elsewhere, and
    the route leads there. So a frame is forwarded once at most. -/
theorem gossip_converges {n : Nat} (M : Mesh n) (m : MeshState n) (es : List (MeshEvent n))
    (hfull : M.FullMesh m.node) (hquiet : m.flights = []) (hround : Mesh.IsRound es)
    (hdone : (M.run m es).flights = []) :
    (∀ i d, ((M.run m es).node i).server.nodes.has d = false →
      ((∃ a, ((M.run m es).node i).server.peerNodes.lookup d = some a) ↔
        ∃ j, j ≠ i ∧ ((M.run m es).node j).server.nodes.has d = true) ∧
      ∀ a, ((M.run m es).node i).server.peerNodes.lookup d = some a →
        ∃ j, j ≠ i ∧ a.sameEndpoint (M.addr j) = true ∧
          ((M.run m es).node j).server.nodes.has d = true) ∧
    ∀ i d a, ((M.run m es).node i).server.route d = .peer a →
      ∃ j, j ≠ i ∧ a.sameEndpoint (M.addr j) = true ∧
        ∃ addr wantDest, ((M.run m es).node j).server.route d = .localNode addr wantDest := by
  obtain ⟨arrived, h⟩ := hfull.roundState_run hquiet es hround.events
  have hconv := fun i d => h.converged hround.everybody hdone i (d := d)
  refine ⟨fun i d hd => hconv i d hd, ?_⟩
  intro i d a ha
  obtain ⟨hd, hlookup⟩ := Server.route_eq_peer.mp ha
  obtain ⟨j, hj, haj, hreg⟩ := (hconv i d hd).2 a hlookup
  exact ⟨j, hj, haj, Server.route_of_has hreg⟩

/-- A round of two beacons, the second of which has node 7. -/
def pairRound : List (MeshEvent 2) :=
  [.act beacon0 ⟨0, .gossip []⟩, .act beacon1 ⟨0, .gossip [7]⟩, .deliver 1 ⟨0, sampleEnv⟩,
    .deliver 0 ⟨0, sampleEnv⟩]

theorem pairSetup_fullMesh : pair.FullMesh (pair.run pairStart pairSetup).node where
  bound := by decide
  peers_members := by decide
  members_peers := by decide
  small := by decide
  owned := by
    intro i d a h
    -- nobody has gossiped yet
    match i with
    | 0 => cases h
    | 1 => cases h

/-- After the round the first beacon has a route for node 7. -/
theorem pairRound_converges : ∃ a,
    ((pair.run (pair.run pairStart pairSetup) pairRound).node 0).server.peerNodes.lookup 7 =
      some a := by
  have hround : Mesh.IsRound pairRound := by
    refine ⟨?_, by decide⟩
    intro ev hev
    simp only [pairRound, List.mem_cons, List.not_mem_nil, or_false] at hev
    rcases hev with rfl | rfl | rfl | rfl
    · exact Or.inl rfl
    · exact Or.inl rfl
    · exact Or.inr ⟨_, _, rfl⟩
    · exact Or.inr ⟨_, _, rfl⟩
  have h := gossip_converges pair (pair.run pairStart pairSetup) pairRound pairSetup_fullMesh
    (by decide) hround (by decide)
  exact (h.1 0 7 (by decide)).1.mpr ⟨1, by decide, by decide⟩

end PilotBeacon

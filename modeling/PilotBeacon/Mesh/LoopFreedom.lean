import PilotBeacon.Lib.Ranking
import PilotBeacon.Mesh.Basic
import PilotBeacon.Server.RouteAge
import Mathlib.Data.Finset.Lattice.Fold
import Mathlib.Order.Lattice.Nat

/-!
# Routing Loops in the Mesh

A forwarded frame carries no hop count, so it circulates if the routes do. Every beacon
announces what is registered with it, and routes follow announcements; but an announcement
can arrive after the registration it speaks of is gone, and two such announcements close a
loop (`crossed`).

If no announcement of a node is that late, there is no loop: whoever is on a path of routes
lost its registration after whoever comes before it. A registration that comes and goes in
between does not disturb this order, since it takes the route with it
(`no_route_of_unregistered`).

- `Mesh.Forwards`: one hop of a frame
- `RouteRank`: the order in which registrations were lost explains the routes
- `mesh_loop_free`: no loop, and no endless path
-/

namespace PilotBeacon

open PilotBeacon.Lib PilotBeacon.Net

namespace Mesh

variable {n : Nat} (M : Mesh n)

/-- A frame for `d` at member `i` goes to member `j`: `d` is not registered at `i`, whose
    route for it leads to `j`. -/
def Forwards (m : MeshState n) (d : UInt32) (i j : Fin n) : Prop :=
  (m.node i).server.nodes.has d = false ∧
    ∃ a, (m.node i).server.peerNodes.lookup d = some a ∧ a.sameEndpoint (M.addr j) = true

/-! ## Runs -/

/-- A sync from outside the mesh is accepted. -/
def outsideGossip (m : MeshState n) : MeshEvent n → Bool
  | .act i e =>
    (acceptedGossip (M.cfg i) (m.node i).server ((m.node i).event e)).isSome
  | _ => false

/-- A sync that lists `d` is accepted from a member where `d` is not registered any more. -/
def lateGossip (d : UInt32) (m : MeshState n) : MeshEvent n → Bool
  | .deliver k x =>
    (m.flights[k]?).any fun f =>
      (acceptedGossip (M.cfg f.dst) (m.node f.dst).server
        ((m.node f.dst).event (M.receive f.src f.msg x))).any (fun g => decide (d ∈ g.2)) &&
      !(m.node f.src).server.nodes.has d
  | _ => false

/-- Every accepted sync that lists `d` comes from a member where `d` is registered, if none
    comes from outside and none is late. -/
theorem sender_registered {m : MeshState n} {ev : MeshEvent n} {i : Fin n} {e : MemberEvent}
    {d : UInt32} (hin : M.outsideGossip m ev = false) (htime : M.lateGossip d m ev = false)
    (hocc : Network.occurs M.receive m ev = some (i, e)) {a : UDPAddr} {ids : List UInt32}
    (hsync : acceptedGossip (M.cfg i) (m.node i).server ((m.node i).event e) = some (a, ids))
    (hd : d ∈ ids) : ∃ j, a = M.addr j ∧ (m.node j).server.nodes.has d = true := by
  cases ev with
  | act i' e' =>
    cases hocc
    -- a member's own event would be gossip from outside
    rw [outsideGossip, hsync] at hin
    cases hin
  | deliver k x =>
    obtain ⟨f, hf, hfe⟩ := Option.map_eq_some_iff.mp hocc
    cases hfe
    refine ⟨f.src, acceptedGossip_src hsync, ?_⟩
    simpa [lateGossip, hf, hsync, hd] using htime
  | lose k => cases hocc

/-! ## The order of losses -/

/-- `rank` says in which order the members lost their registrations of `d`. A route for `d`
    leads to a member, which still has `d` registered or lost it later. -/
structure RouteRank (d : UInt32) (rank : Fin n → ℕ) (node : Fin n → Member) : Prop where
  owner : ∀ i a, (node i).server.peerNodes.lookup d = some a → ∃ j, a = M.addr j ∧
    ((node i).server.nodes.has d = false →
      (node j).server.nodes.has d = true ∨ rank i < rank j)
  dated : ∀ i, RoutesDated d (node i).server (node i).clock

/-- The ranks after member `x` went from `b` to `b'`: who loses the registration now is the
    last so far. -/
def rankAfter (d : UInt32) (rank : Fin n → ℕ) (x : Fin n) (b b' : Member) : Fin n → ℕ :=
  if b.server.nodes.has d && !b'.server.nodes.has d then
    Function.update rank x (Finset.univ.sup rank + 1)
  else rank

section

variable {M} {d : UInt32} {rank : Fin n → ℕ} {node : Fin n → Member} {x i j : Fin n}
  {b b' : Member}

theorem rankAfter_of_ne (h : i ≠ x) : rankAfter d rank x b b' i = rank i := by
  unfold rankAfter
  split_ifs
  · exact Function.update_of_ne h _ _
  · rfl

theorem rankAfter_of_unregistered (h : b.server.nodes.has d = false) :
    rankAfter d rank x b b' = rank := by
  rw [rankAfter, h]
  rfl

theorem lt_rankAfter (h : b.server.nodes.has d = true) (h' : b'.server.nodes.has d = false)
    (i : Fin n) : rank i < rankAfter d rank x b b' x := by
  rw [rankAfter, h, h']
  show rank i < Function.update rank x (Finset.univ.sup rank + 1) x
  -- the new rank is above all old ones, that of `x` included
  rw [Function.update_self]
  exact Nat.lt_succ_of_le (Finset.le_sup (Finset.mem_univ i))

theorem le_rankAfter (i : Fin n) : rank i ≤ rankAfter d rank x b b' i := by
  by_cases hix : i = x
  · subst hix
    unfold rankAfter
    split_ifs with hlost
    · rw [Function.update_self]
      exact Nat.le_succ_of_le (Finset.le_sup (Finset.mem_univ i))
    · exact le_refl _
  · exact (rankAfter_of_ne hix).ge

/-- The routes of the other members, after an event at `x`. -/
theorem RouteRank.owner_other (h : M.RouteRank d rank node) (hix : i ≠ x) (b' : Member)
    {a : UDPAddr} (ha : (node i).server.peerNodes.lookup d = some a) :
    ∃ j, a = M.addr j ∧ ((node i).server.nodes.has d = false →
      (Function.update node x b' j).server.nodes.has d = true ∨
        rankAfter d rank x (node x) b' i < rankAfter d rank x (node x) b' j) := by
  obtain ⟨j, rfl, hj⟩ := h.owner i a ha
  refine ⟨j, rfl, ?_⟩
  intro hi
  rw [rankAfter_of_ne hix]
  rcases hj hi with hreg | hlt
  · by_cases hjx : j = x
    · -- the owner is `x` itself, which may lose the registration now
      subst hjx
      rw [Function.update_self]
      cases hafter : b'.server.nodes.has d with
      | true => exact Or.inl rfl
      | false => exact Or.inr (lt_rankAfter hreg hafter i)
    · rw [Function.update_of_ne hjx]
      exact Or.inl hreg
  · -- ranks only grow, and that of `i` stays
    exact Or.inr (hlt.trans_le (le_rankAfter j))

/-- The routes of `x` after an event there, if syncs that list `d` come from members that
    have it registered. -/
theorem RouteRank.owner_self (h : M.RouteRank d rank node) (e : MemberEvent)
    (hsync : ∀ a ids, acceptedGossip (M.cfg x) (node x).server ((node x).event e) = some (a, ids) →
      d ∈ ids → ∃ j, a = M.addr j ∧ (node j).server.nodes.has d = true) {a : UDPAddr}
    (ha : ((node x).next (M.cfg x) e).server.peerNodes.lookup d = some a) :
    ∃ j, a = M.addr j ∧ (((node x).next (M.cfg x) e).server.nodes.has d = false →
      (Function.update node x ((node x).next (M.cfg x) e) j).server.nodes.has d = true ∨
        rankAfter d rank x (node x) ((node x).next (M.cfg x) e) x <
          rankAfter d rank x (node x) ((node x).next (M.cfg x) e) j) := by
  -- a member with `d` registered is not `x`, if `x` has not
  have hother : ∀ j, (node x).server.nodes.has d = false → (node j).server.nodes.has d = true →
      (Function.update node x ((node x).next (M.cfg x) e) j).server.nodes.has d = true := by
    intro j hx hj
    rw [Function.update_of_ne]
    · exact hj
    · rintro rfl
      cases hx.symm.trans hj
  rcases route_next ha with hold | ⟨ids, hev, hd, hfree⟩
  · obtain ⟨j, rfl, hj⟩ := h.owner x a hold
    refine ⟨j, rfl, ?_⟩
    intro hafter
    -- a registration lost now would have taken the route with it
    have hbefore : (node x).server.nodes.has d = false := by
      rw [Bool.eq_false_iff]
      intro hreg
      have hnone := no_route_of_unregistered (h.dated x) hreg hafter
      cases hnone.symm.trans ha
    rw [rankAfter_of_unregistered hbefore]
    rcases hj hbefore with hreg | hlt
    · exact Or.inl (hother j hbefore hreg)
    · exact Or.inr hlt
  · -- a new route leads to the sender, which has the node registered
    obtain ⟨j, rfl, hreg⟩ := hsync a ids hev hd
    exact ⟨j, rfl, fun _ => Or.inl (hother j hfree hreg)⟩

/-- **One event at member `x`** keeps the routes explained. -/
theorem RouteRank.step (h : M.RouteRank d rank node) (e : MemberEvent)
    (hsync : ∀ a ids, acceptedGossip (M.cfg x) (node x).server ((node x).event e) = some (a, ids) →
      d ∈ ids → ∃ j, a = M.addr j ∧ (node j).server.nodes.has d = true) :
    M.RouteRank d (rankAfter d rank x (node x) ((node x).next (M.cfg x) e))
      (Function.update node x ((node x).next (M.cfg x) e)) := by
  constructor
  · intro i a ha
    by_cases hix : i = x
    · subst hix
      rw [Function.update_self] at ha ⊢
      exact h.owner_self e hsync ha
    · rw [Function.update_of_ne hix] at ha ⊢
      exact h.owner_other hix _ ha
  · intro i
    by_cases hix : i = x
    · subst hix
      rw [Function.update_self]
      apply (h.dated i).next
      show (node i).clock ≤ (node i).clock + e.elapsed
      omega
    · rw [Function.update_of_ne hix]
      exact h.dated i

end

/-- The routes are explained after every run with timely gossip among members. -/
theorem routeRank_run (d : UInt32) (peers : Fin n → List Text) (clock : Fin n → Int)
    (es : List (MeshEvent n))
    (h : Transition.Along M.step
      (fun m ev => M.outsideGossip m ev = false ∧ M.lateGossip d m ev = false)
      (M.start peers clock) es) :
    ∃ rank, M.RouteRank d rank (M.run (M.start peers clock) es).node := by
  apply Network.run_node_invariant (fun node => ∃ rank, M.RouteRank d rank node) ?_ ?_ es h
  · refine ⟨fun _ => 0, ?_, ?_⟩
    · intro i a ha
      cases ha
    · intro i a ha
      cases ha
  · rintro m ev i e ⟨hin, htime⟩ hocc ⟨rank, hrank⟩
    refine ⟨_, hrank.step e ?_⟩
    intro a ids hsync hd
    exact M.sender_registered hin htime hocc hsync hd

end Mesh

/-- **No routing loops** for a node whose announcements are never late: in the state after any
    run in which gossip is accepted from members only, there is no cycle of members that
    forward frames for it to each other, and no endless path. -/
theorem mesh_loop_free {n : Nat} (M : Mesh n) (d : UInt32) (peers : Fin n → List Text)
    (clock : Fin n → Int) (es : List (MeshEvent n))
    (h : Transition.Along M.step
      (fun m ev => M.outsideGossip m ev = false ∧ M.lateGossip d m ev = false)
      (M.start peers clock) es) :
    (∀ i, ¬ Relation.TransGen (M.Forwards (M.run (M.start peers clock) es) d) i i) ∧
      ¬ ∃ f : ℕ → Fin n, ∀ k, M.Forwards (M.run (M.start peers clock) es) d (f k) (f (k + 1)) := by
  obtain ⟨rank, hrank⟩ := M.routeRank_run d peers clock es h
  have hsrc : ∀ i j, M.Forwards (M.run (M.start peers clock) es) d i j →
      ¬ ((M.run (M.start peers clock) es).node i).server.nodes.has d = true := by
    intro i j hij
    exact Bool.eq_false_iff.mp hij.1
  have hup : ∀ i j, M.Forwards (M.run (M.start peers clock) es) d i j →
      ((M.run (M.start peers clock) es).node j).server.nodes.has d = true ∨ rank i < rank j := by
    rintro i j ⟨hfree, a, ha, haj⟩
    -- the owner of the route and `j` are one member
    obtain ⟨j', rfl, hj'⟩ := hrank.owner i a ha
    rw [M.addr_inj j' j haj] at hj'
    exact hj' hfree
  exact ⟨Ranking.no_cycle_of_rank hsrc hup, Ranking.no_endless_path_of_rank hsrc hup⟩

/-! ## Two beacons, in time and too late -/

/-- The route is there, and it is no loop. -/
theorem timely_loop_free : pair.Forwards (pair.run pairStart timely) 7 0 1 ∧
    ¬ Relation.TransGen (pair.Forwards (pair.run pairStart timely) 7) 0 0 :=
  ⟨⟨by decide, pairAddr 1, by decide, by decide⟩,
    (mesh_loop_free pair 7 (fun _ => [[]]) (fun _ => 0) timely (by decide)).1 0⟩

/-- Node 7 is registered at both beacons. Beacon 0 announces it and reaps it; beacon 1
    announces it to beacon 0 and reaps it; then the announcement of beacon 0 arrives. -/
def crossed : List (MeshEvent 2) :=
  pairSetup ++
    [.act beacon0 ⟨0, .packet sampleEnv [0x01, 0, 0, 0, 7] (sampleAddr 10 0 0 9 4000) 0⟩,
      .act beacon0 ⟨0, .gossip []⟩, .act beacon0 ⟨601000000000, .reap⟩,
      .act beacon1 ⟨0, .gossip []⟩, .deliver 1 ⟨0, sampleEnv⟩,
      .act beacon1 ⟨601000000000, .reap⟩,
      .deliver 0 ⟨0, sampleEnv⟩]

/-- **The late announcement closes a loop**: frames for node 7 go back and forth between the
    two beacons, and neither has it registered. -/
theorem crossed_loop :
    Transition.Along pair.step (fun m ev => pair.outsideGossip m ev = false) pairStart crossed ∧
      Relation.TransGen (pair.Forwards (pair.run pairStart crossed) 7) 0 0 := by
  have h01 : pair.Forwards (pair.run pairStart crossed) 7 0 1 :=
    ⟨by decide, pairAddr 1, by decide, by decide⟩
  have h10 : pair.Forwards (pair.run pairStart crossed) 7 1 0 :=
    ⟨by decide, pairAddr 0, by decide, by decide⟩
  exact ⟨by decide, Relation.TransGen.tail (Relation.TransGen.single h01) h10⟩

end PilotBeacon

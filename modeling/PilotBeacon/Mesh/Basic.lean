import PilotBeacon.Lib.Network
import PilotBeacon.Server.Beacon
import Mathlib.Data.List.FinRange

/-!
# A Mesh of Beacons

Beacons with distinct endpoints, each observed under the address it listens on. What one
beacon sends to the address of another is in flight until it is delivered or lost; what it
sends elsewhere leaves the mesh. Each beacon has its own clock, which never goes back.

Everything outside the mesh (nodes, strangers, the registry, timers, sockets) acts on a
beacon by its own events.

- `Mesh`, `Mesh.react`, `Mesh.step`: the mesh as a network of beacons
- `Mesh.member?_eq_some`, `Mesh.mem_internal`: who gets what a member sends
-/

namespace PilotBeacon

open PilotBeacon.Lib PilotBeacon.Net

/-- The members: their configurations, which share the message types, and their addresses. -/
structure Mesh (n : Nat) where
  proto : Protocol
  cfg : Fin n → Config
  cfg_proto : ∀ i, (cfg i).proto = proto
  addr : Fin n → UDPAddr
  addr_inj : ∀ i j, (addr i).sameEndpoint (addr j) = true → i = j

/-- A member's state and what its clock reads. -/
structure Member where
  server : Server
  clock : Int

/-- What happens to a member, and how much time has gone by since the last time something
    did. -/
structure MemberEvent where
  elapsed : Nat
  act : Act

/-- The circumstances in which a datagram arrives. -/
structure Arrival where
  elapsed : Nat
  env : Env

abbrev MeshState (n : Nat) := Network.State (Fin n) Member Bytes

abbrev MeshEvent (n : Nat) := Network.Event (Fin n) MemberEvent Arrival

namespace Member

/-- The beacon event behind a member's event. -/
def event (b : Member) (e : MemberEvent) : Event := ⟨b.clock + e.elapsed, e.act⟩

/-- The member after an event. -/
def next (cfg : Config) (b : Member) (e : MemberEvent) : Member where
  server := PilotBeacon.next cfg b.server (b.event e)
  clock := b.clock + e.elapsed

end Member

namespace Mesh

variable {n : Nat} (M : Mesh n)

/-- The member an address belongs to. -/
def member? (a : UDPAddr) : Option (Fin n) :=
  (List.finRange n).find? fun i => a.sameEndpoint (M.addr i)

/-- The datagrams among the outputs that stay in the mesh, with their receivers. -/
def internal (out : List Output) : List (Fin n × Bytes) :=
  (out.filterMap Output.datagram?).filterMap fun d =>
    -- a longer write fails and nothing is sent
    if d.data.length ≤ maxUDPPayload then (M.member? d.dst).map fun j => (j, d.data) else none

def react (i : Fin n) (b : Member) (e : MemberEvent) : Member × List (Fin n × Bytes) :=
  (b.next (M.cfg i) e, M.internal (PilotBeacon.step (M.cfg i) b.server (b.event e)).2)

/-- The arrival of a datagram of member `src`. -/
def receive (src : Fin n) (data : Bytes) (x : Arrival) : MemberEvent :=
  -- a UDP datagram: no bridge peer
  ⟨x.elapsed, .packet x.env data (M.addr src) 0⟩

def step : MeshState n → MeshEvent n → MeshState n := Network.step M.react M.receive

def run (m : MeshState n) (es : List (MeshEvent n)) : MeshState n := Transition.run M.step m es

/-- New beacons with the given configured peers and clock readings. -/
def start (peers : Fin n → List Text) (clock : Fin n → Int) : MeshState n where
  node i := ⟨newWithPeers (M.cfg i) (peers i), clock i⟩
  flights := []

/-- The address leads to the member whose endpoint it is. -/
theorem member?_eq_some {a : UDPAddr} {i : Fin n} :
    M.member? a = some i ↔ a.sameEndpoint (M.addr i) = true := by
  constructor
  · intro h
    exact List.find?_some (p := fun i => a.sameEndpoint (M.addr i)) h
  · intro h
    cases hf : M.member? a with
    | none =>
      have hnone := List.find?_eq_none.mp hf i (List.mem_finRange i)
      exact absurd h hnone
    | some j =>
      have hj : a.sameEndpoint (M.addr j) = true :=
        List.find?_some (p := fun i => a.sameEndpoint (M.addr i)) hf
      -- both are the endpoint of `a`
      rw [M.addr_inj j i (UDPAddr.sameEndpoint_trans (UDPAddr.sameEndpoint_symm hj) h)]

theorem mem_internal {out : List Output} {j : Fin n} {data : Bytes} :
    (j, data) ∈ M.internal out ↔ ∃ o ∈ out, ∃ dst, o.datagram? = some ⟨dst, data⟩ ∧
      data.length ≤ maxUDPPayload ∧ dst.sameEndpoint (M.addr j) = true := by
  simp only [internal, List.mem_filterMap]
  constructor
  · rintro ⟨d, ⟨o, ho, hd⟩, hj⟩
    split_ifs at hj with hlen
    obtain ⟨j', hj', hpair⟩ := Option.map_eq_some_iff.mp hj
    cases hpair
    exact ⟨o, ho, d.dst, hd, hlen, M.member?_eq_some.mp hj'⟩
  · rintro ⟨o, ho, dst, hd, hlen, hdst⟩
    refine ⟨⟨dst, data⟩, ⟨o, ho, hd⟩, ?_⟩
    rw [if_pos hlen, M.member?_eq_some.mpr hdst]
    rfl

theorem step_act (m : MeshState n) (i : Fin n) (e : MemberEvent) :
    M.step m (.act i e) =
      ⟨Function.update m.node i ((m.node i).next (M.cfg i) e),
        m.flights ++ (M.internal (PilotBeacon.step (M.cfg i) (m.node i).server
          ((m.node i).event e)).2).map fun x => ⟨i, x.1, x.2⟩⟩ := rfl

/-- A member's event, given how its beacon reacts. -/
theorem step_act_of {m : MeshState n} {i : Fin n} {e : MemberEvent} {s' : Server}
    {out : List Output}
    (h : PilotBeacon.step (M.cfg i) (m.node i).server ((m.node i).event e) = (s', out)) :
    M.step m (.act i e) =
      ⟨Function.update m.node i ⟨s', (m.node i).clock + e.elapsed⟩,
        m.flights ++ (M.internal out).map fun x => ⟨i, x.1, x.2⟩⟩ := by
  rw [step_act, h, Member.next, PilotBeacon.next, h]

theorem step_deliver {m : MeshState n} {k : Nat} {f : Network.Flight (Fin n) Bytes}
    (h : m.flights[k]? = some f) (x : Arrival) :
    M.step m (.deliver k x) =
      ⟨Function.update m.node f.dst
          ((m.node f.dst).next (M.cfg f.dst) (M.receive f.src f.msg x)),
        m.flights.eraseIdx k ++ (M.internal (PilotBeacon.step (M.cfg f.dst) (m.node f.dst).server
          ((m.node f.dst).event (M.receive f.src f.msg x))).2).map fun y => ⟨f.dst, y.1, y.2⟩⟩ := by
  simp only [step, Network.step, Network.sent, Network.occurs, h, Option.map_some]
  rfl

theorem step_deliver_none {m : MeshState n} {k : Nat} (h : m.flights[k]? = none) (x : Arrival) :
    M.step m (.deliver k x) = m := by
  simp only [step, Network.step, Network.sent, Network.occurs, Network.pending, h, Option.map_none,
    List.eraseIdx_of_length_le (List.getElem?_eq_none_iff.mp h), List.append_nil]

end Mesh

/-! ## Two beacons -/

abbrev beacon0 : Fin 2 := 0

abbrev beacon1 : Fin 2 := 1

/-- The addresses of two beacons. -/
def pairAddr (i : Fin 2) : UDPAddr :=
  if i = beacon0 then sampleAddr 10 0 0 1 9001 else sampleAddr 10 0 0 2 9001

/-- Two beacons that have each other as their only peer and accept gossip from peers only. -/
def pair : Mesh 2 where
  proto := sampleProtocol
  cfg_proto := fun _ => rfl
  cfg i := { sampleConfig with strictGossip := true, resolve := fun _ => some (pairAddr (1 - i)) }
  addr := pairAddr
  addr_inj := by decide

def pairStart : MeshState 2 := pair.start (fun _ => [[]]) (fun _ => 0)

/-- Both sockets are bound, and node 7 registers at beacon 1. -/
def pairSetup : List (MeshEvent 2) :=
  [.act beacon0 ⟨0, .listen (pairAddr beacon0)⟩, .act beacon1 ⟨0, .listen (pairAddr beacon1)⟩,
    .act beacon1 ⟨0, .packet sampleEnv [0x01, 0, 0, 0, 7] (sampleAddr 10 0 0 9 4000) 0⟩]

/-- Beacon 1 announces node 7 to beacon 0, which learns a route. -/
def timely : List (MeshEvent 2) :=
  pairSetup ++ [.act beacon1 ⟨0, .gossip []⟩, .deliver 0 ⟨0, sampleEnv⟩]

end PilotBeacon

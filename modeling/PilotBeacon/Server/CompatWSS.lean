import PilotBeacon.Server.Provenance
import PilotBeacon.WSS.Listener

/-!
# The WSS Bridge (`EnableCompatWSS`)

A beacon together with its WSS server. A frame that a WSS connection hands to `OnFrame` goes
through `handlePacketFrom` like a datagram, with a synthetic source in 192.0.2.0/24 that only
the port tells apart; relay dispatch and workers ask the WSS server who is connected.

The synthetic address is meant to be informational. It is, in every run in which no frame is
admitted under it that makes the beacon answer or remember its source.

- `bridgeRun_beacon`, `bridgeRun_listener`: a run of both is a run of each
- `synthetic_address_unused`: when nothing is sent to the synthetic address
- `synthetic_address_used`: a bridged Discover is answered over UDP
-/

namespace PilotBeacon

open PilotBeacon.Lib PilotBeacon.Net

/-! ## The two servers -/

/-- `net.ParseIP("192.0.2.1")`, which is the 16-byte form. -/
def synthIP : IP := ⟨[0, 0, 0, 0, 0, 0, 0, 0, 0, 0, 0xff, 0xff, 192, 0, 2, 1], Or.inr (Or.inr rfl)⟩

/-- The source a frame of WSS peer `senderID` is handled under. -/
def synthAddr (senderID : UInt32) : UDPAddr where
  ip := synthIP
  port := (senderID &&& 0xffff).toUInt16
  zone := []

structure Bridge where
  beacon : Server
  listener : WSS.Listener

inductive BridgeEvent where
  /-- Anything but a frame from a WSS peer. -/
  | beacon (e : Event)
  /-- A step of the WSS server, with the answers while a frame is handled. -/
  | wss (now : Int) (env : Env) (a : WSS.Action)

namespace Bridge

/-- `IsConnected` of the WSS server. -/
def isConnected (b : Bridge) (nodeID : UInt32) : Bool := b.listener.server.isConnected nodeID

/-- The event with the WSS server's answers in it; a datagram has no bridge peer. -/
def withAnswers (b : Bridge) (e : Event) : Event where
  now := e.now
  act :=
    match e.act with
    | .packet env data remote _ =>
      .packet { env with wssConnected := b.isConnected } data remote 0
    | .worker i (.job env o) =>
      .worker i (.job { env with wssConnected :=
        (b.beacon.relayChs i).head?.any fun job => b.isConnected job.destID } o)
    | act => act

/-- The frames a step of the WSS server hands to `OnFrame`, as events of the beacon. -/
def frames (b : Bridge) (now : Int) (env : Env) (a : WSS.Action) : List Event :=
  (b.listener.delivered a).filterMap fun d =>
    (b.listener.server.heap[d.1]?).map fun peer =>
      ⟨now, .packet { env with wssConnected := b.isConnected } d.2 (synthAddr peer.nodeID)
        peer.nodeID⟩

/-- What happens to the beacon in a step. -/
def beaconEvents (b : Bridge) : BridgeEvent → List Event
  | .beacon e => [b.withAnswers e]
  | .wss now env a => b.frames now env a

/-- What happens to the WSS server in a step. -/
def listenerActions (_ : Bridge) : BridgeEvent → List WSS.Action
  | .beacon _ => []
  | .wss _ _ a => [a]

def next (cfg : Config) (wcfg : WSS.Config) (b : Bridge) (e : BridgeEvent) : Bridge where
  beacon := Transition.run (PilotBeacon.next cfg) b.beacon (b.beaconEvents e)
  listener := Transition.run (WSS.Listener.next wcfg) b.listener (b.listenerActions e)

def new (cfg : Config) (peers : List Text) : Bridge := ⟨newWithPeers cfg peers, WSS.Listener.new⟩

end Bridge

def bridgeRun (cfg : Config) (wcfg : WSS.Config) (peers : List Text) (es : List BridgeEvent) :
    Bridge := Transition.run (Bridge.next cfg wcfg) (Bridge.new cfg peers) es

/-! ## Runs of each side -/

section

variable (cfg : Config) (wcfg : WSS.Config) (peers : List Text)

/-- The beacon's events in a run. -/
def bridgeEvents (es : List BridgeEvent) : List Event :=
  Transition.observe (Bridge.next cfg wcfg) Bridge.beaconEvents (Bridge.new cfg peers) es

/-- **The beacon's side** is a run of the beacon. -/
theorem bridgeRun_beacon (es : List BridgeEvent) :
    (bridgeRun cfg wcfg peers es).beacon = runFrom cfg peers (bridgeEvents cfg wcfg peers es) := by
  apply Transition.run_induction (Bridge.next cfg wcfg)
    (fun es b => b.beacon = runFrom cfg peers (bridgeEvents cfg wcfg peers es))
  · rfl
  · intro es e ih
    rw [bridgeEvents, Transition.observe_concat, ← bridgeEvents, runFrom, Transition.run_append,
      ← runFrom, ← ih]
    rfl

/-- **The WSS server's side** is a run of the WSS server. -/
theorem bridgeRun_listener (es : List BridgeEvent) :
    (bridgeRun cfg wcfg peers es).listener = WSS.Listener.runFrom wcfg
      (Transition.observe (Bridge.next cfg wcfg) Bridge.listenerActions
        (Bridge.new cfg peers) es) := by
  apply Transition.run_induction (Bridge.next cfg wcfg) (fun es b => b.listener =
    WSS.Listener.runFrom wcfg (Transition.observe (Bridge.next cfg wcfg) Bridge.listenerActions
      (Bridge.new cfg peers) es))
  · rfl
  · intro es e ih
    rw [Transition.observe_concat, WSS.Listener.runFrom_append, ← ih]
    rfl

/-- Steps of the WSS server that deliver no frame do not touch the beacon. -/
theorem bridge_handshake {b : Bridge} {now : Int} {env : Env} {as : List WSS.Action}
    (h : ∀ l : WSS.Listener, ∀ a ∈ as, l.delivered a = []) :
    Transition.run (Bridge.next cfg wcfg) b (as.map (.wss now env)) =
      ⟨b.beacon, Transition.run (WSS.Listener.next wcfg) b.listener as⟩ := by
  induction as generalizing b with
  | nil => rfl
  | cons a as ih =>
    have hfirst : Bridge.next cfg wcfg b (.wss now env a) =
        ⟨b.beacon, WSS.Listener.next wcfg b.listener a⟩ := by
      rw [Bridge.next, Bridge.beaconEvents, Bridge.frames, h _ a List.mem_cons_self]
      rfl
    rw [List.map_cons, Transition.run_cons, hfirst,
      ih fun l a ha => h l a (List.mem_cons_of_mem _ ha)]
    rfl

end

/-! ## The synthetic address -/

/-- Not the synthetic address, whatever the port. -/
def Real (a : UDPAddr) : Prop := a.ip.equal synthIP = false

instance (a : UDPAddr) : Decidable (Real a) := inferInstanceAs (Decidable (_ = _))

/-- A frame handled under the synthetic address is not an admitted Discover or PunchRequest,
    nor an accepted sync of nodes that are not registered here. -/
def KeepsOut (cfg : Config) (s : Server) (e : Event) : Prop :=
  ∀ a ∈ e.source, ¬ Real a → e.admitted cfg s = false ∧
    ∀ g ∈ acceptedGossip cfg s e, ∀ id ∈ g.2, s.nodes.has id = true

instance (cfg : Config) (s : Server) (e : Event) : Decidable (KeepsOut cfg s e) :=
  have : ∀ ids : List UInt32, Decidable (∀ id ∈ ids, s.nodes.has id = true) :=
    fun ids => List.decidableBAll _ ids
  have : Decidable (∀ g ∈ acceptedGossip cfg s e, ∀ id ∈ g.2, s.nodes.has id = true) :=
    Option.decidableForallMem _
  Option.decidableForallMem _

/-- Every frame of a step keeps the synthetic address out. -/
def Bridge.KeepsOut (cfg : Config) (b : Bridge) (e : BridgeEvent) : Prop :=
  ∀ ev ∈ b.beaconEvents e, PilotBeacon.KeepsOut cfg b.beacon ev

instance (cfg : Config) (b : Bridge) (e : BridgeEvent) : Decidable (b.KeepsOut cfg e) :=
  List.decidableBAll _ _

/-- One event keeps the synthetic address out of all tables and batches. -/
theorem real_next {cfg : Config} {s : Server} {e : Event}
    (h : Sourced (fun _ a => Real a) (fun _ a => Real a) s) (he : KeepsOut cfg s e) :
    Sourced (fun _ a => Real a) (fun _ a => Real a) (next cfg s e) := by
  refine h.next (fun _ _ h => h) (fun _ _ h => h) ?_ ?_
  · intro id w hw
    obtain ⟨hsrc, -, hadm⟩ := nodeWrite_source hw
    by_contra hreal
    rw [(he w.addr hsrc hreal).1] at hadm
    cases hadm
  · intro a ids hacc id hid hremote
    obtain ⟨hsrc, -⟩ := acceptedGossip_source hacc
    by_contra hreal
    rw [(he a hsrc hreal).2 (a, ids) hacc id hid] at hremote
    cases hremote

/-- A step is at most one event of the beacon. -/
theorem Bridge.beaconEvents_cases (b : Bridge) (e : BridgeEvent) :
    b.beaconEvents e = [] ∨ ∃ ev, b.beaconEvents e = [ev] := by
  cases e with
  | beacon e => exact Or.inr ⟨_, rfl⟩
  | wss now env a =>
    rw [beaconEvents, frames]
    rcases b.listener.delivered_cases a with hnone | ⟨d, hd⟩
    · exact Or.inl (by rw [hnone]; rfl)
    · rw [hd]
      cases hpeer : b.listener.server.heap[d.1]? with
      | none => exact Or.inl (by rw [List.filterMap_cons, hpeer]; rfl)
      | some peer => exact Or.inr ⟨_, by rw [List.filterMap_cons, hpeer]; rfl⟩

/-- So does a step of the bridge. -/
theorem bridge_real_next {cfg : Config} {wcfg : WSS.Config} {b : Bridge} {e : BridgeEvent}
    (h : Sourced (fun _ a => Real a) (fun _ a => Real a) b.beacon) (he : b.KeepsOut cfg e) :
    Sourced (fun _ a => Real a) (fun _ a => Real a) (Bridge.next cfg wcfg b e).beacon := by
  change Sourced _ _ (Transition.run (next cfg) b.beacon (b.beaconEvents e))
  rcases b.beaconEvents_cases e with hnone | ⟨ev, hev⟩
  · rw [hnone]
    exact h
  · rw [hev]
    exact real_next h (he ev (by rw [hev]; exact List.mem_singleton_self ev))

/-- **When the synthetic address is informational only.** In a run in which every frame keeps
    the address out, every datagram other than gossip goes elsewhere. -/
theorem synthetic_address_unused (cfg : Config) (wcfg : WSS.Config) (peers : List Text)
    (es : List BridgeEvent)
    (h : Transition.Along (Bridge.next cfg wcfg) (Bridge.KeepsOut cfg) (Bridge.new cfg peers) es) :
    ∀ pre e post, es = pre ++ e :: post →
      ∀ ev ∈ (bridgeRun cfg wcfg peers pre).beaconEvents e,
        ∀ o ∈ (step cfg (bridgeRun cfg wcfg peers pre).beacon ev).2, ∀ d, o.datagram? = some d →
          (∃ order, ev.act = .gossip order) ∨ Real d.dst := by
  rintro pre e post rfl ev hev o ho d hd
  obtain ⟨hpre, hkeep, -⟩ := (Transition.along_append _).mp h
  have hreal : Sourced (fun _ a => Real a) (fun _ a => Real a)
      (bridgeRun cfg wcfg peers pre).beacon :=
    Transition.along_invariant _ (fun b => Sourced (fun _ a => Real a) (fun _ a => Real a) b.beacon)
      (sourced_new cfg peers) (fun _ _ he hb => bridge_real_next hb he) hpre
  rcases hreal.destination ho hd with ⟨order, hact, -⟩ | ⟨hsrc, hadm⟩ | ⟨id, -, hid⟩
  · exact Or.inl ⟨order, hact⟩
  · right
    by_contra hnot
    cases (hkeep ev hev d.dst hsrc hnot).1.symm.trans hadm
  · exact Or.inr (or_self_iff.mp hid)

/-! ## Runs of a sample bridge -/

def sampleBridgeConfig : Config := { sampleConfig with wssBridge := true }

/-- The sockets are bound and node 7 completes its handshake. -/
def bridgeStart : List BridgeEvent :=
  .beacon ⟨0, .listen (sampleAddr 0 0 0 0 9001)⟩ ::
    (WSS.sampleHandshake 0 7).map (.wss 0 sampleEnv)

/-- Connection 0 is installed and reads a frame that passes the check. -/
def bridgeRead (frame : Bytes) : List BridgeEvent :=
  [WSS.ConnAction.install, .loopTop, .read (.binary frame), .check].map
    fun a => .wss second sampleEnv (.conn 0 a)

theorem delivered_sampleHandshake (c : Nat) (n : UInt32) (l : WSS.Listener) :
    ∀ a ∈ WSS.sampleHandshake c n, l.delivered a = [] := by
  simp [WSS.sampleHandshake, WSS.Listener.handshake, WSS.Listener.delivered]

theorem bridgeStart_run : bridgeRun sampleBridgeConfig (WSS.sampleWSSConfig 0) [] bridgeStart =
    ⟨{ newWithPeers sampleBridgeConfig [] with conn := some (sampleAddr 0 0 0 0 9001) },
      ⟨WSS.Server.new, [.authed 7]⟩⟩ := by
  rw [bridgeStart, bridgeRun, Transition.run_cons,
    bridge_handshake _ _ (delivered_sampleHandshake 0 7)]
  have hauthed : Transition.run (WSS.Listener.next (WSS.sampleWSSConfig 0)) WSS.Listener.new
      (WSS.sampleHandshake 0 7) = ⟨WSS.Server.new, [.authed 7]⟩ :=
    WSS.sampleHandshake_run (l := WSS.Listener.new) (by decide) (by decide)
  exact congrArg (Bridge.mk _) hauthed

/-- Node 9 registers over UDP, node 7 sends it a frame over the bridge, and the frame is
    batched. -/
def bridgeRelay : List BridgeEvent :=
  .beacon (sampleDatagram second (sampleAddr 10 0 0 9 4000) [0x01, 0, 0, 0, 9]) ::
    (bridgeRead [0x05, 0, 0, 0, 7, 0, 0, 0, 9, 0xaa] ++
      [.wss second sampleEnv (.conn 0 .onFrame),
        .beacon ⟨second, .worker 1 (.job ⟨false, false, 0⟩ ⟨0, fun _ => true⟩)⟩])

/-- The batch is sent. -/
def bridgeFlush : Event := ⟨second, .worker 1 (.timer ⟨1, fun _ => true⟩)⟩

theorem bridgeRelay_keepsOut : Transition.Along
    (Bridge.next sampleBridgeConfig (WSS.sampleWSSConfig 0)) (Bridge.KeepsOut sampleBridgeConfig)
    (Bridge.new sampleBridgeConfig []) (bridgeStart ++ (bridgeRelay ++ [.beacon bridgeFlush])) := by
  rw [Transition.along_append, ← bridgeRun, bridgeStart_run]
  refine ⟨⟨by decide, ?_⟩, by decide⟩
  -- the handshake delivers no frame
  rw [Transition.along_iff]
  intro pre e post heq ev hev
  have hmem : e ∈ (WSS.sampleHandshake 0 7).map (.wss 0 sampleEnv) := by
    rw [heq]
    simp
  obtain ⟨a, ha, rfl⟩ := List.mem_map.mp hmem
  rw [Bridge.beaconEvents, Bridge.frames, delivered_sampleHandshake 0 7 _ a ha] at hev
  cases hev

/-- The delivery goes to node 9. -/
theorem synthetic_address_unused_relay :
    ∃ o ∈ (step sampleBridgeConfig (bridgeRun sampleBridgeConfig (WSS.sampleWSSConfig 0) []
        (bridgeStart ++ bridgeRelay)).beacon bridgeFlush).2,
      ∃ d, o.datagram? = some d ∧ d.data = [0x06, 0, 0, 0, 7, 0xaa] ∧ Real d.dst := by
  have hreal := synthetic_address_unused _ _ [] _ bridgeRelay_keepsOut
    (bridgeStart ++ bridgeRelay) (.beacon bridgeFlush) [] (by rw [List.append_assoc])
    bridgeFlush (List.mem_singleton_self _)
  rw [bridgeRun, Transition.run_append, ← bridgeRun, bridgeStart_run] at hreal ⊢
  have hsent := List.mem_singleton_self (Output.relayed (.udp ⟨⟨⟨0, maxRelayPayload + 9⟩,
    [0x06, 0, 0, 0, 7, 0xaa]⟩, sampleAddr 10 0 0 9 4000, 9⟩))
  refine ⟨_, hsent, _, rfl, rfl, ?_⟩
  exact (hreal _ hsent _ rfl).resolve_left nofun

/-- A Discover of node 7 over the bridge is answered with a datagram to 192.0.2.1. -/
theorem synthetic_address_used : ∃ es e, ∃ ev ∈ (bridgeRun sampleBridgeConfig
    (WSS.sampleWSSConfig 0) [] es).beaconEvents e,
    ∃ o ∈ (step sampleBridgeConfig (bridgeRun sampleBridgeConfig (WSS.sampleWSSConfig 0) []
      es).beacon ev).2, ∃ d, o.datagram? = some d ∧ (∀ order, ev.act ≠ .gossip order) ∧
        ¬ Real d.dst := by
  refine ⟨bridgeStart ++ bridgeRead [0x01, 0, 0, 0, 7],
    .wss second sampleEnv (.conn 0 .onFrame), ?_⟩
  rw [bridgeRun, Transition.run_append, ← bridgeRun, bridgeStart_run]
  refine ⟨_, List.mem_singleton_self _, .udp ⟨synthAddr 7, [0x02, 4, 192, 0, 2, 1, 0, 7]⟩, ?_, _,
    rfl, nofun, by decide⟩
  exact List.mem_singleton_self _

end PilotBeacon

import PilotBeacon.WSS.Auth
import PilotBeacon.WSS.PeerMap

/-!
# Connections of the WSS Server (`handleUpgrade`, `peerReadLoop`)

Every request runs in its own goroutine: capacity check, upgrade, handshake, install, read
loop, drop. A `Listener` is the server together with how far each of them has come; a step
is one goroutine taking the next of its steps, so a run is an arbitrary interleaving of any
number of connections. What the network does (frames read, writes that fail), the clock and
the random source are part of the events. The metrics are left out.

- `runFrom_server`: the peer map of a run is that of a run of the peer map's own steps
- `conns_next`: what a step does to the stage of one connection
- `handshake_run`: what a daemon that answers its challenge gets, next to any other connections
-/

namespace PilotBeacon.WSS

open PilotBeacon.Lib

/-- The largest inbound frame. -/
def maxFrameSize : Nat := 65536

namespace Server

/-- `PeerCount`; a nil map has length 0. -/
def peerCount (s : Server) : Nat := (s.peers.getD ∅).size

/-- `IsConnected`. -/
def isConnected (s : Server) (nodeID : UInt32) : Bool :=
  match s.entry nodeID with
  | none => false
  | some p => !(s.heap[p]?).any WssPeer.closed

/-- `peerGenForNode`: the stamp of the connection in the map, 0 if there is none. -/
def peerGenForNode (s : Server) (nodeID : UInt32) : UInt32 :=
  match s.entry nodeID with
  | none => 0
  | some p => ((s.heap[p]?).map WssPeer.gen).getD 0

/-- The read loop's test for a replaced connection. -/
def stale (s : Server) (p : Nat) : Bool :=
  match s.heap[p]? with
  | none => false
  | some peer =>
    decide (0 < s.peerGenForNode peer.nodeID) && decide (peer.gen < s.peerGenForNode peer.nodeID)

/-- The capacity check of `handleUpgrade`; 0 is unlimited. -/
def atCapacity (cfg : Config) (s : Server) : Bool :=
  decide (0 < cfg.maxPeers) && decide (cfg.maxPeers ≤ s.peerCount)

end Server

/-! ## Connections -/

/-- How far a request's goroutine has come. -/
inductive Stage where
  /-- Past the capacity check. -/
  | admitted
  /-- Past the websocket upgrade. -/
  | upgraded
  /-- The challenge is out. -/
  | challenged (nonce : Nonce) (ts : Int)
  /-- `runAuth` has returned the node id. -/
  | authed (nodeID : UInt32)
  /-- At the top of the read loop of connection `p`. -/
  | looping (p : Nat)
  /-- In `conn.Read`. -/
  | reading (p : Nat)
  /-- A frame was read. -/
  | holding (p : Nat) (frame : Bytes)
  /-- The frame has passed the generation check. -/
  | passed (p : Nat) (frame : Bytes)
  /-- Out of the loop, before the deferred `dropPeer`. -/
  | leaving (p : Nat)
  | ended
deriving DecidableEq

/-- A step of one goroutine. -/
inductive ConnAction where
  /-- `websocket.Accept`. -/
  | accept (ok : Bool)
  /-- `runAuth` up to the challenge; `none` is a failed `rand.Read`. -/
  | challenge (nonce : Option Nonce) (now : Int) (writeOk : Bool)
  /-- The rest of `runAuth`, with what was received and what `PubKeyLookup` answers. -/
  | reply (lookup : UInt32 → Option Bytes) (now : Int) (received : Received) (writeOk : Bool)
  /-- The locked section of `handleUpgrade`. -/
  | install
  /-- The test of the `closed` flag. -/
  | loopTop
  /-- `conn.Read` returns. -/
  | read (received : Received)
  /-- The generation check. -/
  | check
  /-- The call of `OnFrame`. -/
  | onFrame
  /-- The locked section of the deferred `dropPeer`. -/
  | leave

/-- The next stage. -/
def advance (cfg : Config) (s : Server) : Stage → ConnAction → Stage
  | .admitted, .accept ok => if ok then .upgraded else .ended
  | .upgraded, .challenge nonce now writeOk =>
    match nonce with
    | none => .ended
    | some nonce => if writeOk then .challenged nonce (unixSecond now) else .ended
  | .challenged nonce ts, .reply lookup now received writeOk =>
    match checkReply cfg lookup nonce ts now received writeOk with
    | .ok nodeID => .authed nodeID
    | .error _ => .ended
  -- the new connection is the next one on the heap
  | .authed _, .install => if s.closed then .ended else .looping s.heap.length
  | .looping p, .loopTop => if (s.heap[p]?).any WssPeer.closed then .leaving p else .reading p
  | .reading p, .read received =>
    match received with
    | .failed => .leaving p
    -- text frames are ignored after the handshake
    | .text _ => .looping p
    | .binary body => if maxFrameSize < body.length then .leaving p else .holding p body
  | .holding p body, .check => if s.stale p then .looping p else .passed p body
  | .passed p _, .onFrame => .looping p
  | .leaving _, .leave => .ended
  -- not the goroutine's next step
  | stage, _ => stage

/-- What a goroutine's step does to the peer map. -/
def peerEffect : Stage → ConnAction → List PeerEvent
  | .authed nodeID, .install => [.install nodeID]
  | .leaving p, .leave => [.drop p]
  | _, _ => []

/-- What a goroutine's step gets written to its client. -/
def messages (cfg : Config) : Stage → ConnAction → List Bytes
  | .upgraded, .challenge (some nonce) now true =>
    [cfg.codec.marshalChallenge (authChallenge nonce (unixSecond now))]
  | .challenged nonce ts, .reply lookup now received writeOk =>
    match checkReply cfg lookup nonce ts now received writeOk with
    | .ok _ => [cfg.codec.marshalOK ⟨authOKType⟩]
    | .error _ => []
  | _, _ => []

/-! ## The system -/

structure Listener where
  server : Server
  conns : List Stage

inductive Action where
  /-- A request arrives and meets the capacity check. -/
  | connect
  | conn (c : Nat) (a : ConnAction)
  /-- `dropPeer` after a failed `WriteFrame`. -/
  | drop (p : Nat)
  | dropFinish (p : Nat)
  | close
  | closeFinish (p : Nat)
  /-- Somebody signs a message; the server does not see it. -/
  | sign (key msg : Bytes)

namespace Listener

def new : Listener := ⟨Server.new, []⟩

/-- The step of the peer map in a step of the system, if any. -/
def peerEvents (l : Listener) : Action → List PeerEvent
  | .conn c a =>
    match l.conns[c]? with
    | none => []
    | some stage => peerEffect stage a
  | .drop p => [.drop p]
  | .dropFinish p => [.dropFinish p]
  | .close => [.close]
  | .closeFinish p => [.closeFinish p]
  | .connect => []
  | .sign _ _ => []

/-- The stages after a step. -/
def nextConns (cfg : Config) (l : Listener) : Action → List Stage
  | .connect => l.conns ++ [if l.server.atCapacity cfg then .ended else .admitted]
  | .conn c a => l.conns.modify c fun stage => advance cfg l.server stage a
  | _ => l.conns

def next (cfg : Config) (l : Listener) (e : Action) : Listener :=
  ⟨Transition.run step l.server (l.peerEvents e), l.nextConns cfg e⟩

/-- The state after the steps `es`. -/
def runFrom (cfg : Config) (es : List Action) : Listener := Transition.run (next cfg) new es

/-- The frame a step hands to `OnFrame`, with the connection it was read from. -/
def delivered (l : Listener) : Action → List (Nat × Bytes)
  | .conn c .onFrame =>
    match l.conns[c]? with
    | some (.passed p frame) => [(p, frame)]
    | _ => []
  | _ => []

theorem delivered_cases (l : Listener) (e : Action) :
    l.delivered e = [] ∨ ∃ d, l.delivered e = [d] := by
  unfold delivered
  split
  · split
    · exact Or.inr ⟨_, rfl⟩
    · exact Or.inl rfl
  · exact Or.inl rfl

/-- The node of the connection a step tries to install. -/
def installing (l : Listener) : Action → Option UInt32
  | .conn c .install =>
    match l.conns[c]? with
    | some (.authed n) => some n
    | _ => none
  | _ => none

/-- The handshake message a step gets written, with its connection. -/
def written (cfg : Config) (l : Listener) : Action → List (Nat × Bytes)
  | .conn c a =>
    match l.conns[c]? with
    | none => []
    | some stage => (messages cfg stage a).map fun m => (c, m)
  | _ => []

/-! ## Runs -/

section

variable {cfg : Config}

theorem runFrom_concat (es : List Action) (e : Action) :
    runFrom cfg (es ++ [e]) = next cfg (runFrom cfg es) e :=
  Transition.run_concat (next cfg) new es e

theorem runFrom_append (es es' : List Action) :
    runFrom cfg (es ++ es') = Transition.run (next cfg) (runFrom cfg es) es' :=
  Transition.run_append (next cfg) new es es'

/-- The steps of the peer map in a run. -/
def peerRun (cfg : Config) (es : List Action) : List PeerEvent :=
  Transition.observe (next cfg) peerEvents new es

/-- **The peer map of a run** is that of a run of its own steps. -/
theorem runFrom_server (es : List Action) :
    (runFrom cfg es).server = WSS.runFrom (peerRun cfg es) := by
  apply Transition.run_induction (next cfg)
    (fun es l => l.server = WSS.runFrom (peerRun cfg es))
  · rfl
  · intro es e ih
    rw [peerRun, Transition.observe_concat, ← peerRun, WSS.runFrom, Transition.run_append,
      ← WSS.runFrom, ← ih]
    rfl

/-- A step makes at most one step of the peer map, and installs only what has authenticated. -/
theorem peerEvents_cases (l : Listener) (e : Action) :
    (∃ n, l.installing e = some n ∧ l.peerEvents e = [.install n]) ∨
    (l.installing e = none ∧
      (l.peerEvents e = [] ∨ ∃ pe, l.peerEvents e = [pe] ∧ ∀ n, pe ≠ .install n)) := by
  cases e with
  | conn c a =>
    cases hstage : l.conns[c]? with
    | none => cases a <;> simp [installing, peerEvents, hstage]
    | some stage => cases stage <;> cases a <;> simp [installing, peerEvents, peerEffect, hstage]
  | connect => exact Or.inr ⟨rfl, Or.inl rfl⟩
  | drop p => exact Or.inr ⟨rfl, Or.inr ⟨_, rfl, by simp⟩⟩
  | dropFinish p => exact Or.inr ⟨rfl, Or.inr ⟨_, rfl, by simp⟩⟩
  | close => exact Or.inr ⟨rfl, Or.inr ⟨_, rfl, by simp⟩⟩
  | closeFinish p => exact Or.inr ⟨rfl, Or.inr ⟨_, rfl, by simp⟩⟩
  | sign key msg => exact Or.inr ⟨rfl, Or.inl rfl⟩

/-- **What a step does to one connection.** -/
theorem conns_next (l : Listener) (e : Action) {c : Nat} {stage : Stage}
    (h : (next cfg l e).conns[c]? = some stage) :
    l.conns[c]? = some stage ∨
    (∃ a old, e = .conn c a ∧ l.conns[c]? = some old ∧ stage = advance cfg l.server old a) ∨
    (e = .connect ∧ c = l.conns.length ∧
      stage = if l.server.atCapacity cfg then .ended else .admitted) := by
  change (l.nextConns cfg e)[c]? = some stage at h
  cases e with
  | connect =>
    rw [nextConns] at h
    by_cases hlt : c < l.conns.length
    · rw [List.getElem?_append_left hlt] at h
      exact Or.inl h
    · rw [List.getElem?_append_right (by omega)] at h
      -- past the old ones there is exactly one
      obtain ⟨hc, hstage⟩ := List.getElem?_eq_some_iff.mp h
      rw [List.length_singleton] at hc
      rw [List.getElem_singleton] at hstage
      exact Or.inr (Or.inr ⟨rfl, by omega, hstage.symm⟩)
  | conn c' a =>
    rw [nextConns, List.getElem?_modify] at h
    obtain ⟨old, hold, hstage⟩ := Option.map_eq_some_iff.mp h
    by_cases hc : c' = c
    · subst hc
      rw [if_pos rfl] at hstage
      exact Or.inr (Or.inl ⟨a, old, rfl, hold, hstage.symm⟩)
    · rw [if_neg hc] at hstage
      rw [hold, hstage]
      exact Or.inl rfl
  | drop p => exact Or.inl h
  | dropFinish p => exact Or.inl h
  | close => exact Or.inl h
  | closeFinish p => exact Or.inl h
  | sign key msg => exact Or.inl h

/-! ## Honest clients -/

theorem modify_length_append (stages : List Stage) (stage : Stage) (f : Stage → Stage) :
    (stages ++ [stage]).modify stages.length f = stages ++ [f stage] := by
  induction stages with
  | nil => rfl
  | cons x stages ih => simpa using ih

/-- A step of the connection that came last. -/
theorem next_last (s : Server) (stages : List Stage) (stage : Stage) (a : ConnAction) :
    next cfg ⟨s, stages ++ [stage]⟩ (.conn stages.length a) =
      ⟨Transition.run step s (peerEffect stage a), stages ++ [advance cfg s stage a]⟩ := by
  simp [next, peerEvents, nextConns, modify_length_append]

/-- The steps of connection `c` from its request to the end of `runAuth`, within one second. -/
def handshake (c : Nat) (nonce : Nonce) (now : Int) (lookup : UInt32 → Option Bytes)
    (body : Bytes) : List Action :=
  [.connect, .conn c (.accept true), .conn c (.challenge (some nonce) now true),
    .conn c (.reply lookup now (.text body) true)]

/-- A daemon that answers its challenge is authenticated if there is room. -/
theorem handshake_run {l : Listener} {nonce : Nonce} {now : Int} {lookup : UInt32 → Option Bytes}
    {identity : Identity} {n : UInt32} {body : Bytes} (hroom : l.server.atCapacity cfg = false)
    (hn : n ≠ 0) (hkey : lookup n = some identity.publicKey)
    (hlen : identity.publicKey.length = publicKeySize)
    (hsign : ∀ msg, cfg.verify identity.publicKey msg (identity.sign msg) = true)
    (hbody : Daemon.answer cfg.codec identity n
      (.text (cfg.codec.marshalChallenge (authChallenge nonce (unixSecond now)))) = .ok body) :
    Transition.run (next cfg) l (handshake l.conns.length nonce now lookup body) =
      ⟨l.server, l.conns ++ [.authed n]⟩ := by
  have hok : checkReply cfg lookup nonce (unixSecond now) now (.text body) true = .ok n :=
    checkReply_answer hn hkey hlen hsign ⟨by omega, by rw [Int.sub_self]; decide⟩ hbody
  -- no step but the install touches the server
  have hconnect : next cfg l .connect = ⟨l.server, l.conns ++ [.admitted]⟩ := by
    simp [next, peerEvents, nextConns, hroom]
  simp only [handshake, Transition.run_cons, Transition.run_nil, hconnect, next_last, advance,
    peerEffect, if_true, hok]

end

end Listener

/-! ## A sample configuration

Signatures that carry the key and the message: they verify for nothing else. -/

def sampleKey (n : UInt32) : Bytes := List.replicate 32 (UInt8.ofNat n.toNat)

def sampleVerify (key msg sig : Bytes) : Bool := decide (key.length = 32 ∧ sig = key ++ msg)

def sampleIdentity (n : UInt32) : Identity where
  publicKey := sampleKey n
  encodePublicKey := Encoding.encodeBase64
  sign msg := sampleKey n ++ msg

def sampleWSSConfig (maxPeers : Int) : Config := ⟨Codec.json, sampleVerify, maxPeers⟩

def sampleNonce (c : Nat) : Nonce := ⟨List.replicate 32 (UInt8.ofNat c), List.length_replicate⟩

/-- The daemon's reply to the challenge with a nonce at time 0. -/
def sampleReply (n : UInt32) (nonce : Nonce) : Bytes :=
  Codec.json.marshalReply ⟨authReplyType, n, Encoding.encodeBase64 (sampleKey n),
    Encoding.encodeBase64 (sampleKey n ++ authPreimage n 0 (Encoding.hexText nonce.val))⟩

/-- The handshake of node `n` on connection `c`. -/
def sampleHandshake (c : Nat) (n : UInt32) : List Action :=
  Listener.handshake c (sampleNonce c) 0 (fun n => some (sampleKey n))
    (sampleReply n (sampleNonce c))

theorem sampleHandshake_run {maxPeers : Int} {l : Listener} {n : UInt32}
    (hroom : l.server.atCapacity (sampleWSSConfig maxPeers) = false) (hn : n ≠ 0) :
    Transition.run (Listener.next (sampleWSSConfig maxPeers)) l
        (sampleHandshake l.conns.length n) = ⟨l.server, l.conns ++ [.authed n]⟩ := by
  have hlen : (sampleKey n).length = 32 := List.length_replicate
  have hsign : ∀ msg, sampleVerify (sampleIdentity n).publicKey msg ((sampleIdentity n).sign msg) =
      true := fun msg => decide_eq_true ⟨hlen, rfl⟩
  exact Listener.handshake_run hroom hn rfl hlen hsign
    (answer_authChallenge Codec.json (sampleIdentity n) n (sampleNonce l.conns.length) 0)

/-- One more connection authenticates. -/
theorem runFrom_sampleHandshake {maxPeers : Int} {es : List Action} {l : Listener} {c : Nat}
    {n : UInt32} (hl : Listener.runFrom (sampleWSSConfig maxPeers) es = l)
    (hc : c = l.conns.length) (hroom : l.server.atCapacity (sampleWSSConfig maxPeers) = false)
    (hn : n ≠ 0) :
    Listener.runFrom (sampleWSSConfig maxPeers) (es ++ sampleHandshake c n) =
      ⟨l.server, l.conns ++ [.authed n]⟩ := by
  rw [Listener.runFrom_append, hl, hc, sampleHandshake_run hroom hn]

end PilotBeacon.WSS

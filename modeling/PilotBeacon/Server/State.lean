import PilotBeacon.Lib.Transition
import PilotBeacon.Server.RateLimit

/-!
# Beacon State (`server.go`: constants, `Server`, `NewWithPeers`)

- `Protocol`: the message-type bytes, which live in the `common/protocol` package; the
  beacon relies on the five inbound ones being different (they are `switch` cases)
- `Config`: what is set up before serving and only read afterwards
- `Env`: what the environment answers while one datagram is handled (breaker callback,
  WSS connection map, which pooled buffer `sync.Pool` hands out)
- `Server`: the mutable state, the relay workers' included

Handling one datagram is one step on this state, at one reading of the clock; locks and
atomics do not appear.
-/

namespace PilotBeacon

open PilotBeacon.Lib PilotBeacon.Net

/-! ## Constants -/

def relayQueueSize : Nat := 524288
def maxRelayPayload : Nat := 65535
def maxBeaconNodes : Nat := 500000
def beaconNodeTTL : Int := 600 * second
def maxPunchPerSecond : Int := 10
def punchPerSourceInterval : Int := second
def punchRateCleanupInterval : Int := 300 * second
def discoverMinInterval : Int := 30 * second
def maxRelaysPerSourcePerSecond : Nat := 4000
def relaySourceCleanupInterval : Int := 300 * second
def relayBatchCap : Nat := 32
def gossipPeerTTL : Int := 90 * second
def notifyMinInterval : Int := second
def publicKeySize : Nat := 32
def signatureSize : Nat := 64
def punchGrantExpirySize : Nat := 8
def punchGrantTrailerSize : Nat := punchGrantExpirySize + signatureSize
def msgNotify : UInt8 := 0x0A
def notifyKindHandshake : UInt8 := 0x01

/-! ## Environment -/

/-- Message-type bytes. -/
structure Protocol where
  beaconMsgDiscover : UInt8
  beaconMsgDiscoverEx : UInt8
  beaconMsgDiscoverReply : UInt8
  beaconMsgPunchRequest : UInt8
  beaconMsgPunchCommand : UInt8
  beaconMsgRelay : UInt8
  beaconMsgRelayDeliver : UInt8
  beaconMsgRelayDeliverDest : UInt8
  beaconMsgSync : UInt8
  inbound_nodup : [beaconMsgDiscover, beaconMsgDiscoverEx, beaconMsgPunchRequest, beaconMsgRelay,
    beaconMsgSync].Nodup

/-- The named breaker switches. -/
inductive Breaker where
  | discover
  | punch
  | relay
deriving DecidableEq

/-- A decoded JSON value. Of a number only the conversion `uint32(v)` is ever used. -/
inductive Json where
  | null
  | bool (b : Bool)
  | num (v : UInt32)
  | str (t : Text)
  | arr (xs : List Json)
  | obj (fields : List (Text × Json))

/-- What is fixed before serving.
    `verify` stands for `ed25519.Verify` (key, message, signature), `resolve` for
    `net.ResolveUDPAddr`, `unmarshal` for `json.Unmarshal` into a map. -/
structure Config where
  proto : Protocol
  beaconID : UInt32
  relayWorkerCount : Nat
  workers_ok : 8 ≤ relayWorkerCount
  requirePunchToken : Bool
  strictGossip : Bool
  punchWhitelistAll : Bool
  punchWhitelist : List Text
  authKeyLookup : Option (UInt32 → Option Bytes)
  verify : Bytes → Bytes → Bytes → Bool
  wssBridge : Bool
  registryAddr : Text
  advertiseAddr : Text
  registryAdminToken : Text
  resolve : Text → Option UDPAddr
  unmarshal : Bytes → Option (List (Text × Json))

/-- The environment's answers while a datagram is handled. -/
structure Env where
  breakerAllow : Option (Breaker → Bool)
  wssConnected : UInt32 → Bool
  poolPick : Nat

/-- Whether the named breaker drops inbound messages. -/
def Env.breakerOpen (env : Env) (name : Breaker) : Bool :=
  match env.breakerAllow with
  | none => false
  | some allow => !allow name

/-- A datagram handed to `WriteToUDP` on a bound socket. -/
structure Datagram where
  dst : UDPAddr
  data : Bytes
deriving DecidableEq

/-- The largest UDP/IPv4 payload; a longer datagram is not sent. -/
def maxUDPPayload : Nat := 65507

/-! ## Pooled buffers -/

/-- A byte buffer's backing array: its identity and capacity. -/
structure Buf where
  id : Nat
  cap : Nat
deriving DecidableEq

/-- A `sync.Pool` of buffers; `next` is the identity of the next allocation.

    The runtime may also drop pooled buffers by itself, which is left out: a dropped buffer is one
    that no later `get` picks, and `free` is what was put back and not handed out since. -/
structure Pool where
  free : List Buf
  next : Nat

namespace Pool

/-- `Get`: some pooled buffer, or a new one of capacity `cap`. -/
def get (p : Pool) (pick cap : Nat) : Buf × Pool :=
  match p.free[pick]? with
  | some b => (b, { p with free := p.free.eraseIdx pick })
  | none => (⟨p.next, cap⟩, { p with next := p.next + 1 })

/-- `make([]byte, cap)`. -/
def make (p : Pool) (cap : Nat) : Buf × Pool := (⟨p.next, cap⟩, { p with next := p.next + 1 })

/-- `Put`. -/
def put (p : Pool) (b : Buf) : Pool := { p with free := b :: p.free }

theorem length_free_foldl_put (p : Pool) (bs : List Buf) :
    (bs.foldl put p).free.length = p.free.length + bs.length := by
  induction bs generalizing p with
  | nil => rfl
  | cons b bs ih =>
    rw [List.foldl_cons, ih, put, List.length_cons, List.length_cons]
    omega

theorem mem_free_foldl_put {p : Pool} {bs : List Buf} {b : Buf}
    (h : b ∈ (bs.foldl put p).free) : b ∈ bs ∨ b ∈ p.free := by
  induction bs generalizing p with
  | nil => exact Or.inr h
  | cons c bs ih =>
    rcases ih h with hb | hb
    · exact Or.inl (List.mem_cons_of_mem c hb)
    · rcases List.mem_cons.mp hb with rfl | hb
      · exact Or.inl List.mem_cons_self
      · exact Or.inr hb

theorem mem_free_get {p : Pool} {pick cap : Nat} {b : Buf} (h : b ∈ (p.get pick cap).2.free) :
    b ∈ p.free := by
  unfold get at h
  split at h
  · exact List.mem_of_mem_eraseIdx h
  · exact h

end Pool

/-- A slice of a buffer, with the bytes written to it. -/
structure Slice where
  buf : Buf
  data : Bytes
deriving DecidableEq

/-! ## Server -/

/-- A parsed relay packet on its way to a worker. -/
structure RelayJob where
  senderID : UInt32
  destID : UInt32
  payload : Slice
deriving DecidableEq

/-- An `ipv4.Message` of a worker's batch. `dest` is the node the message is for; the
    code does not keep it, and no step reads it. -/
structure Message where
  buffer : Slice
  addr : UDPAddr
  dest : UInt32
deriving DecidableEq

/-- The local state of one `relayWorkerLoop`. -/
structure Worker where
  msgs : List Message
  payloadsToReturn : List Buf
  outBufsToReturn : List Buf
  timerActive : Bool
  stopped : Bool

/-- A worker about to enter its loop. -/
def Worker.start : Worker where
  msgs := []
  payloadsToReturn := []
  outBufsToReturn := []
  timerActive := false
  stopped := false

/-- `Server`. Queues and workers are indexed by worker number; `conn` is the address the
    UDP sockets are bound to, once they are, and `done` says that `Close` was called. -/
structure Server where
  conn : Option UDPAddr
  done : Bool
  nodes : NodeMap
  dstNodes : FiniteMap UInt32 Unit
  nodePubKeys : FiniteMap UInt32 Bytes
  punchRL : PunchRateLimiter
  lastPunchTime : Int
  relayRL : RelayRateLimiter
  discoverRL : DiscoverRateLimiter
  peers : List UDPAddr
  peerNodes : FiniteMap UInt32 UDPAddr
  gossipSeen : FiniteMap Text Int
  relayChs : Nat → List RelayJob
  workers : Nat → Worker
  pool : Pool
  outBufPool : Pool
  relayForwarded : Nat
  relayDropped : Nat
  relayNotFound : Nat

/-- `NewWithPeers`: everything empty, and the peers that resolve. -/
def newWithPeers (cfg : Config) (peers : List Text) : Server where
  conn := none
  done := false
  nodes := ShardedMap.empty
  dstNodes := ∅
  nodePubKeys := ∅
  punchRL := ShardedMap.empty
  lastPunchTime := 0
  relayRL := ShardedMap.empty
  discoverRL := ShardedMap.empty
  peers := peers.filterMap cfg.resolve
  peerNodes := ∅
  gossipSeen := ∅
  relayChs := fun _ => []
  workers := fun _ => Worker.start
  pool := ⟨[], 0⟩
  outBufPool := ⟨[], 0⟩
  relayForwarded := 0
  relayDropped := 0
  relayNotFound := 0

end PilotBeacon

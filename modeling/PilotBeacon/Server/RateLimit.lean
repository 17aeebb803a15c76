import PilotBeacon.Lib.Limiter
import PilotBeacon.Net.Addr
import PilotBeacon.Server.NodeMap

/-!
# The Per-Packet Rate Limiters (`ratelimit_shard.go`)

Three limiters in 256 shards each:

- `DiscoverRateLimiter`: node id to the time of its last admitted endpoint update
- `PunchRateLimiter`: printed source IP to the time of its last admitted punch request
- `RelayRateLimiter`: transport-level origin of a relay frame to its one-second window
-/

namespace PilotBeacon

open PilotBeacon.Lib PilotBeacon.Net

def rateLimitShards : Nat := 256

/-! ## Shard selection -/

/-- The low byte of a hash value. -/
def shardOfHash (h : UInt32) : Fin rateLimitShards :=
  ⟨(h &&& 255).toNat, by
    rw [UInt32.toNat_and]
    exact lt_of_le_of_lt Nat.and_le_right (by decide)⟩

def shardU32 (k : UInt32) : Fin rateLimitShards := shardOfHash (k * 2654435761)

/-- One FNV-1a step. -/
def fnvMix (h x : UInt32) : UInt32 := (h ^^^ x) * 16777619

def fnvOffset : UInt32 := 2166136261

def shardStr (s : Text) : Fin rateLimitShards :=
  shardOfHash (s.foldl (fun h c => fnvMix h c.val) fnvOffset)

/-! ## Discover and punch -/

/-- `discoverRateLimiter`. -/
abbrev DiscoverRateLimiter := ShardedMap UInt32 Int rateLimitShards shardU32

/-- `punchRateLimiter`. -/
abbrev PunchRateLimiter := ShardedMap Text Int rateLimitShards shardStr

def DiscoverRateLimiter.allow (rl : DiscoverRateLimiter) (nodeID : UInt32) (now minInterval : Int) :
    Bool × DiscoverRateLimiter :=
  Limiter.intervalAllow rl nodeID now minInterval

def DiscoverRateLimiter.sweep (rl : DiscoverRateLimiter) (cutoff : Int) : DiscoverRateLimiter :=
  Limiter.intervalSweep rl cutoff

def PunchRateLimiter.allow (rl : PunchRateLimiter) (sourceKey : Text) (now minInterval : Int) :
    Bool × PunchRateLimiter :=
  Limiter.intervalAllow rl sourceKey now minInterval

def PunchRateLimiter.sweep (rl : PunchRateLimiter) (cutoff : Int) : PunchRateLimiter :=
  Limiter.intervalSweep rl cutoff

/-! ## Relay -/

/-- The transport-level origin of a relay frame: the observed source endpoint of a
    datagram, or the peer id the WSS bridge authenticated. -/
structure RelaySourceKey where
  ip : Bytes
  port : UInt16
  node : UInt32
  bridged : Bool
deriving DecidableEq

/-- The key of a datagram source, IPv4 addresses in their IPv6-mapped form. -/
def relaySourceForUDP (remote : UDPAddr) : RelaySourceKey where
  ip := remote.ip.to16.getD (List.replicate 16 0)
  port := remote.port
  node := 0
  bridged := false

/-- The key of a frame the WSS bridge hands over. -/
def relaySourceForBridge (peerID : UInt32) : RelaySourceKey where
  ip := List.replicate 16 0
  port := 0
  node := peerID
  bridged := true

def shardRelaySource (k : RelaySourceKey) : Fin rateLimitShards :=
  let h := k.ip.foldl (fun h b => fnvMix h b.toUInt32) fnvOffset
  let h := fnvMix h k.port.toUInt32
  let h := fnvMix h k.node
  shardOfHash (if k.bridged then fnvMix h 1 else h)

/-- `relayRateLimiter`. -/
abbrev RelayRateLimiter := ShardedMap RelaySourceKey Limiter.Window rateLimitShards shardRelaySource

def second : Int := 1000000000

def RelayRateLimiter.allow (rl : RelayRateLimiter) (src : RelaySourceKey) (nowNano : Int)
    (maxPerSecond : Nat) : Bool × RelayRateLimiter :=
  Limiter.windowAllow rl src nowNano second maxPerSecond

def RelayRateLimiter.sweep (rl : RelayRateLimiter) (cutoffNano : Int) : RelayRateLimiter :=
  Limiter.windowSweep rl cutoffNano

/-- Datagram sources with non-nil IPs share a budget exactly when they are one endpoint. -/
theorem relaySourceForUDP_eq_iff {a b : UDPAddr} (ha : a.ip.to16.isSome) (hb : b.ip.to16.isSome) :
    relaySourceForUDP a = relaySourceForUDP b ↔ a.sameEndpoint b = true := by
  obtain ⟨x, hx⟩ := Option.isSome_iff_exists.mp ha
  obtain ⟨y, hy⟩ := Option.isSome_iff_exists.mp hb
  rw [UDPAddr.sameEndpoint_iff]
  simp [relaySourceForUDP, hx, hy]

end PilotBeacon

import PilotBeacon.Server.Beacon

/-!
# The Sync Codec

`sendGossip` writes the count and the ids after a type byte, `handleSync` reads them from the
body without it. A sync is taken as a whole or not at all: its count decides how many bytes
it needs, a body that has fewer is dropped before anything is changed, and what it has beyond
them is not looked at.

- `handlePacketFrom_short`: a body shorter than its count says changes nothing
- `handlePacketFrom_trailing`: bytes after the last id change nothing
- `short_take_syncBody`: every cut of a sync is such a short body
- `sync_codec`: the round trip, for every list the count can say
-/

namespace PilotBeacon

open PilotBeacon.Lib PilotBeacon.Net

/-- The count field of a sync body. -/
abbrev syncCount (body : Bytes) : Nat := (BigEndian.uint16 (body.drop 4)).toNat

theorem syncCount_append {body : Bytes} (h : 6 ≤ body.length) (rest : Bytes) :
    syncCount (body ++ rest) = syncCount body := by
  have hdrop : 2 ≤ (body.drop 4).length := by
    rw [List.length_drop]
    omega
  rw [syncCount, syncCount, List.drop_append_of_le_length (by omega),
    BigEndian.uint16_append hdrop]

/-- **A cut sync is short**: what is left has fewer bytes than its count says. -/
theorem short_take_syncBody (sender : Config) {ids : List UInt32} (hids : ids.length ≤ 65535)
    {k : Nat} (hk : k < (syncBody sender ids).length) :
    ((syncBody sender ids).take k).length <
      6 + 4 * syncCount ((syncBody sender ids).take k) := by
  have hlen : ((syncBody sender ids).take k).length = k :=
    List.length_take_of_le (Nat.le_of_lt hk)
  rw [hlen]
  by_cases h6 : k < 6
  · omega
  · -- the cut is after the count field, which therefore still says how many there were
    have hcount : syncCount ((syncBody sender ids).take k) = ids.length := by
      rw [← count_syncBody sender hids,
        ← syncCount_append (by omega) ((syncBody sender ids).drop k), List.take_append_drop]
    rw [length_syncBody] at hk
    omega

section

variable {cfg : Config} {env : Env} {now : Int} {s : Server} {remote : UDPAddr}
  {bridgePeer : UInt32} {body : Bytes}

/-- What follows the ids does not matter to whether a sync is accepted or with which ids. -/
theorem Server.acceptedSync_append (h : 6 + 4 * syncCount body ≤ body.length) (rest : Bytes) :
    acceptedSync cfg s (body ++ rest) remote = acceptedSync cfg s body remote := by
  have hcount : syncCount (body ++ rest) = syncCount body := syncCount_append (by omega) rest
  have hdrop : 4 * syncCount body ≤ (body.drop 6).length := by
    rw [List.length_drop]
    omega
  have hread : ∀ b, acceptedSync cfg s b remote =
      if b.length < 6 + 4 * syncCount b ∨
        (cfg.strictGossip = true ∧ s.isKnownGossipPeer remote = false) then none
      else some (BigEndian.uint32s (syncCount b) (b.drop 6)) := fun _ => rfl
  rw [hread, hread, hcount, List.drop_append_of_le_length (by omega),
    BigEndian.uint32s_append hdrop, List.length_append]
  -- neither body is short
  have hlen : ¬ body.length + rest.length < 6 + 4 * syncCount body := by omega
  have hlen' : ¬ body.length < 6 + 4 * syncCount body := by omega
  simp only [hlen, hlen', false_or]

theorem handlePacketFrom_sync :
    s.handlePacketFrom cfg env now (cfg.proto.beaconMsgSync :: body) remote bridgePeer =
      (s.handleSync cfg now body remote, []) := by
  unfold Server.handlePacketFrom
  rw [(Protocol.decode_cons cfg.proto body).2.2.2.2]

/-- **All or nothing.** -/
theorem handlePacketFrom_short (h : body.length < 6 + 4 * syncCount body) :
    s.handlePacketFrom cfg env now (cfg.proto.beaconMsgSync :: body) remote bridgePeer =
      (s, []) := by
  rw [handlePacketFrom_sync, Server.handleSync_eq, Server.acceptedSync, if_pos (Or.inl h)]

theorem handlePacketFrom_trailing (h : 6 + 4 * syncCount body ≤ body.length) (rest : Bytes) :
    s.handlePacketFrom cfg env now (cfg.proto.beaconMsgSync :: (body ++ rest)) remote bridgePeer =
      s.handlePacketFrom cfg env now (cfg.proto.beaconMsgSync :: body) remote bridgePeer := by
  rw [handlePacketFrom_sync, handlePacketFrom_sync, Server.handleSync_eq,
    Server.acceptedSync_append h, Server.handleSync_eq]

end

/-- `remote`, by IP and port, has the route for `id`. -/
def OwnsRoute (s : Server) (remote : UDPAddr) (id : UInt32) : Prop :=
  ∃ addr, s.peerNodes.lookup id = some addr ∧ addr.sameEndpoint remote = true

theorem ownsRoute_publishRoutes {s : Server} {ids : List UInt32} {remote : UDPAddr} {now : Int}
    {id : UInt32} :
    OwnsRoute (s.publishRoutes ids remote now) remote id ↔ id ∈ ids ∧ s.nodes.has id = false := by
  unfold OwnsRoute
  rw [Server.lookup_publishRoutes]
  constructor
  · rintro ⟨addr, hlookup, hsame⟩
    by_contra hnot
    -- the routes that are kept are those of other sources
    rw [if_neg hnot, Option.filter_eq_some_iff] at hlookup
    rw [hsame] at hlookup
    cases hlookup.2
  · intro h
    exact ⟨remote, if_pos h, UDPAddr.sameEndpoint_refl remote⟩

/-- **Gossip codec.** For every sender, every list of at most 65535 ids and every receiver:
    if the receiver's gate is open to the source, the datagram `sendGossip` builds, with
    whatever follows it, gives the source the routes for exactly the listed ids that are not
    local and records it as seen; every cut of the datagram, and every sync body shorter than
    its count says, leaves the receiver as it was. -/
theorem sync_codec {sender cfg : Config} (hproto : sender.proto = cfg.proto) {ids : List UInt32}
    (hids : ids.length ≤ 65535) (env : Env) (now : Int) (s : Server) (remote : UDPAddr)
    (bridgePeer : UInt32) :
    (∀ (sending : Server) (order : List UInt32), ∀ dg ∈ sending.sendGossip sender order,
      (sending.gossipIDs order).length ≤ 65535 ∧
        dg.data = syncMessage sender (sending.gossipIDs order)) ∧
    ((cfg.strictGossip = true → s.isKnownGossipPeer remote = true) → ∀ rest : Bytes,
      let received := (s.handlePacketFrom cfg env now (syncMessage sender ids ++ rest) remote
        bridgePeer).1
      (∀ id, OwnsRoute received remote id ↔ id ∈ ids ∧ s.nodes.has id = false) ∧
        received.gossipSeen.lookup remote.string = some now ∧
        received = (s.handlePacketFrom cfg env now (syncMessage sender ids) remote
          bridgePeer).1) ∧
    (∀ k < (syncMessage sender ids).length,
      (s.handlePacketFrom cfg env now ((syncMessage sender ids).take k) remote bridgePeer).1 = s) ∧
    (∀ body : Bytes, body.length < 6 + 4 * syncCount body →
      (s.handlePacketFrom cfg env now (cfg.proto.beaconMsgSync :: body) remote bridgePeer).1 =
        s) := by
  have hmsg : syncMessage sender ids = cfg.proto.beaconMsgSync :: syncBody sender ids := by
    rw [syncMessage, hproto]
  refine ⟨?_, ?_, ?_, ?_⟩
  · intro sending order dg hdg
    obtain ⟨-, _, -, rfl⟩ := Server.mem_sendGossip.mp hdg
    refine ⟨?_, rfl⟩
    rw [Server.length_gossipIDs]
    exact Nat.min_le_left _ _
  · intro hgate rest
    have hlong : 6 + 4 * syncCount (syncBody sender ids) ≤ (syncBody sender ids).length := by
      rw [syncCount, count_syncBody sender hids, length_syncBody]
    have hwhole : s.handlePacketFrom cfg env now (syncMessage sender ids) remote bridgePeer =
        (s.publishRoutes ids remote now, []) := by
      rw [hmsg, handlePacketFrom_sync, Server.handleSync_eq,
        Server.acceptedSync_syncBody sender hids hgate]
    have hrest : s.handlePacketFrom cfg env now (syncMessage sender ids ++ rest) remote
        bridgePeer = (s.publishRoutes ids remote now, []) := by
      rw [← hwhole, hmsg, List.cons_append, handlePacketFrom_trailing hlong]
    dsimp only
    rw [hrest, hwhole]
    refine ⟨fun id => ownsRoute_publishRoutes, ?_, rfl⟩
    rw [Server.lookup_gossipSeen_publishRoutes, if_pos rfl]
  · intro k hk
    cases k with
    | zero => rfl
    | succ k =>
      rw [hmsg, List.length_cons] at hk
      rw [hmsg, List.take_succ_cons,
        handlePacketFrom_short (short_take_syncBody sender hids (by omega))]
  · intro body hshort
    rw [handlePacketFrom_short hshort]

/-- A beacon where node 7 is registered, after a sync that lists 7 and 8 and has a byte too
    many. -/
def mixedSync : Server :=
  ((runFrom sampleConfig [] nodeSeven).handlePacketFrom sampleConfig sampleEnv 5
    (syncMessage sampleConfig [7, 8] ++ [0xff]) (sampleAddr 10 0 0 2 9001) 0).1

theorem sync_codec_mixed : ¬ OwnsRoute mixedSync (sampleAddr 10 0 0 2 9001) 7 ∧
    OwnsRoute mixedSync (sampleAddr 10 0 0 2 9001) 8 := by
  have h := (sync_codec (show sampleConfig.proto = sampleConfig.proto from rfl)
    (show [7, 8].length ≤ 65535 by decide) sampleEnv 5 (runFrom sampleConfig [] nodeSeven)
    (sampleAddr 10 0 0 2 9001) 0).2.1 (fun h => absurd h Bool.false_ne_true) [0xff]
  have hlocal : (runFrom sampleConfig [] nodeSeven).nodes.has 7 = true := by decide +kernel
  have hremote : (runFrom sampleConfig [] nodeSeven).nodes.has 8 = false := by decide +kernel
  refine ⟨fun h7 => ?_, (h.1 8).mpr ⟨by decide, hremote⟩⟩
  exact Bool.false_ne_true (((h.1 7).mp h7).2.symm.trans hlocal)

end PilotBeacon

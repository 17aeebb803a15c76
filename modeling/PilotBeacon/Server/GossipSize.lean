import PilotBeacon.Server.Beacon

/-!
# Size and Completeness of Gossip

One sync datagram carries all ids, up to the 65535 its count field can say. A datagram of
more than 65507 bytes cannot be sent over UDP/IPv4, and 7 bytes of header and 4 per id pass
that at 16376 ids.

- `gossip_advertises_iff`: when a gossip round tells every peer everything
- `crowd`: a run after which it does not
-/

namespace PilotBeacon

open PilotBeacon.Lib PilotBeacon.Net

/-- The ids a sync datagram lists. -/
def listedIDs (data : Bytes) : List UInt32 :=
  BigEndian.uint32s (BigEndian.uint16 (data.drop 5)).toNat (data.drop 7)

/-- One gossip round fits the network, and what it lists is exactly what is registered. -/
structure GossipAdvertises (cfg : Config) (s : Server) (order : List UInt32) : Prop where
  fits : ∀ dg ∈ s.sendGossip cfg order, dg.data.length ≤ maxUDPPayload
  complete : ∀ id, (∃ dg ∈ s.sendGossip cfg order, id ∈ listedIDs dg.data) ↔ s.nodes.has id = true

section

variable {cfg : Config} {s : Server} {order : List UInt32}

theorem listedIDs_syncMessage {ids : List UInt32} (h : ids.length ≤ 65535) :
    listedIDs (syncMessage cfg ids) = ids := uint32s_syncBody cfg h

theorem len_eq_zero_iff : s.nodes.len = 0 ↔ ∀ id, s.nodes.has id = false := by
  rw [NodeMap.len_eq_length_ids, List.length_eq_zero_iff, List.eq_nil_iff_forall_not_mem]
  apply forall_congr'
  intro id
  rw [NodeMap.mem_ids, Bool.not_eq_true]

/-- With somebody to send to, a round is right up to 16375 ids and wrong from there on. -/
theorem gossipAdvertises_of_target (hconn : s.conn.isSome = true) (hpeers : s.peers ≠ []) :
    GossipAdvertises cfg s order ↔ s.nodes.len ≤ 16375 := by
  obtain ⟨peer, hpeer⟩ := List.exists_mem_of_ne_nil _ hpeers
  have hsize : (syncMessage cfg (s.gossipIDs order)).length = 7 + 4 * min 65535 s.nodes.len := by
    rw [length_syncMessage, Server.length_gossipIDs]
  have hsent : ⟨peer, syncMessage cfg (s.gossipIDs order)⟩ ∈ s.sendGossip cfg order :=
    Server.mem_sendGossip.mpr ⟨hconn, peer, hpeer, rfl⟩
  constructor
  · intro h
    -- the datagram to this peer fits, so 7 + 4n ≤ 65507
    have hle := h.fits _ hsent
    dsimp only at hle
    rw [hsize, maxUDPPayload] at hle
    omega
  · intro hle
    -- up to 65535 ids the count field is right, so the list can be read back
    have hlisted : listedIDs (syncMessage cfg (s.gossipIDs order)) = s.gossipIDs order := by
      apply listedIDs_syncMessage
      rw [Server.length_gossipIDs]
      omega
    constructor
    · intro dg hdg
      obtain ⟨-, _, -, rfl⟩ := Server.mem_sendGossip.mp hdg
      dsimp only
      rw [hsize, maxUDPPayload]
      omega
    · intro id
      rw [← Server.mem_gossipIDs (show s.nodes.len ≤ 65535 by omega)]
      constructor
      · rintro ⟨dg, hdg, hid⟩
        obtain ⟨-, _, -, rfl⟩ := Server.mem_sendGossip.mp hdg
        rwa [hlisted] at hid
      · intro hid
        exact ⟨_, hsent, by rwa [hlisted]⟩

/-- With nobody to send to, a round is right only if there is nothing to say. -/
theorem gossipAdvertises_of_no_target (h : ¬ (s.conn.isSome = true ∧ s.peers ≠ [])) :
    GossipAdvertises cfg s order ↔ s.nodes.len = 0 := by
  have hnone : ∀ dg, dg ∉ s.sendGossip cfg order := by
    intro dg hdg
    obtain ⟨hconn, peer, hpeer, -⟩ := Server.mem_sendGossip.mp hdg
    exact h ⟨hconn, List.ne_nil_of_mem hpeer⟩
  rw [len_eq_zero_iff]
  constructor
  · intro hadv id
    rw [← Bool.not_eq_true, ← hadv.complete id]
    rintro ⟨dg, hdg, -⟩
    exact hnone dg hdg
  · intro hempty
    refine ⟨fun dg hdg => absurd hdg (hnone dg), ?_⟩
    intro id
    rw [hempty id]
    constructor
    · rintro ⟨dg, hdg, -⟩
      exact absurd hdg (hnone dg)
    · intro hfalse
      cases hfalse

end

/-- **When gossip advertises everything**: after every run, in every order the table may be
    listed in, exactly if at most 16375 ids are registered and there is a peer to send to
    over a bound socket (or nothing to send). -/
theorem gossip_advertises_iff (cfg : Config) (peers : List Text) (es : List Event)
    (order : List UInt32) :
    GossipAdvertises cfg (runFrom cfg peers es) order ↔
      (runFrom cfg peers es).nodes.len ≤ 16375 ∧
        ((runFrom cfg peers es).nodes.len = 0 ∨
          (runFrom cfg peers es).conn.isSome = true ∧ (runFrom cfg peers es).peers ≠ []) := by
  by_cases h : (runFrom cfg peers es).conn.isSome = true ∧ (runFrom cfg peers es).peers ≠ []
  · rw [gossipAdvertises_of_target h.1 h.2]
    exact ⟨fun hle => ⟨hle, Or.inr h⟩, fun hle => hle.1⟩
  · rw [gossipAdvertises_of_no_target h]
    constructor
    · intro h0
      exact ⟨by omega, Or.inl h0⟩
    · rintro ⟨-, h0 | htarget⟩
      · exact h0
      · exact absurd htarget h

/-! ## A crowded beacon -/

/-- A beacon with one peer. -/
def crowdConfig : Config :=
  { sampleConfig with beaconID := 1, resolve := fun _ => some (sampleAddr 10 0 0 2 9001) }

/-- A Discover of node `i`. -/
def crowdDiscover (i : Nat) : Event :=
  sampleDatagram 0 (sampleAddr 10 0 0 1 4000) (0x01 :: BigEndian.putUint32 (UInt32.ofNat i))

/-- The socket is bound and the nodes below `k` register. -/
def crowd (k : Nat) : List Event :=
  ⟨0, .listen (sampleAddr 0 0 0 0 9001)⟩ :: (List.range k).map crowdDiscover

/-- The ids below `k`, and only they, are registered; no other id was ever seen. -/
structure Crowded (k : Nat) (s : Server) : Prop where
  conn : s.conn.isSome = true
  peers : s.peers = [sampleAddr 10 0 0 2 9001]
  registered : ∀ i < k, s.nodes.has (UInt32.ofNat i) = true
  only : ∀ id, s.nodes.has id = true → id.toNat < k
  fresh : ∀ id : UInt32, k ≤ id.toNat → s.discoverRL.lookup id = none

/-- Ids below 16376 leave room in every shard: at most 256 of them share one. -/
theorem shard_size_le {m : NodeMap} (h : ∀ id, m.has id = true → id.toNat < 16384)
    (i : Fin nodeShardCount) : (m.shards i).size ≤ 256 := by
  have hkeys : ∀ id ∈ (m.shards i).keys, id.toNat % 64 = i.val ∧ id.toNat < 16384 := by
    intro id hid
    obtain ⟨hshard, hsome⟩ := (ShardedMap.mem_shard_iff m id i).mp hid
    refine ⟨?_, h id hsome⟩
    rw [← hshard, shardFor_val]
    rfl
  -- in one shard, an id is determined by its quotient by the number of shards
  have hnodup : ((m.shards i).keys.map fun id => id.toNat / 64).Nodup := by
    apply List.Nodup.map_on _ (m.shards i).keys_nodup
    intro a ha b hb hab
    have hmod := (hkeys a ha).1.trans (hkeys b hb).1.symm
    apply UInt32.toNat_inj.mp
    omega
  have hsub : ((m.shards i).keys.map fun id => id.toNat / 64) ⊆ List.range 256 := by
    intro q hq
    obtain ⟨id, hid, rfl⟩ := List.mem_map.mp hq
    have := (hkeys id hid).2
    exact List.mem_range.mpr (by omega)
  have hle := (List.subperm_of_subset hnodup hsub).length_le
  rw [List.length_map, List.length_range] at hle
  rwa [FiniteMap.size_eq_length_keys]

/-- Small numbers are themselves as node ids. -/
theorem toNat_ofNat_small {i : Nat} (h : i < 16384) : (UInt32.ofNat i).toNat = i := by
  rw [UInt32.toNat_ofNat']
  exact Nat.mod_eq_of_lt (by omega)

/-- Its shard holds 256 ids at most, of the 7812 it has room for. -/
theorem Crowded.room {k : Nat} {s : Server} (h : Crowded k s) (hk : k < 16384) :
    (s.nodes.upsert (UInt32.ofNat k) (sampleAddr 10 0 0 1 4000) 0 maxBeaconNodes).atCapacity =
      false := by
  have hval := toNat_ofNat_small hk
  have hnew : s.nodes.lookup (UInt32.ofNat k) = none := by
    rw [← Option.not_isSome_iff_eq_none]
    intro hreg
    have := h.only _ hreg
    omega
  have hsize := shard_size_le (fun id hid => (h.only id hid).trans hk) (shardFor (UInt32.ofNat k))
  unfold NodeMap.upsert
  rw [hnew]
  dsimp only
  rw [if_neg]
  rintro ⟨-, hfull⟩
  have : maxBeaconNodes / nodeShardCount = 7812 := by decide
  omega

/-- What a node that was never seen does: the limiter has nothing against it. -/
theorem next_crowdDiscover {i : Nat} {s : Server}
    (hfresh : s.discoverRL.lookup (UInt32.ofNat i) = none) :
    next crowdConfig s (crowdDiscover i) =
      { s with
        discoverRL := s.discoverRL.insert (UInt32.ofNat i) 0
        nodes := (s.nodes.upsert (UInt32.ofNat i) (sampleAddr 10 0 0 1 4000) 0
          maxBeaconNodes).nodes } := by
  have hbody : BigEndian.uint32 (BigEndian.putUint32 (UInt32.ofNat i)) = UInt32.ofNat i := by
    simpa using BigEndian.uint32_putUint32_append (UInt32.ofNat i) []
  have hdec : crowdConfig.proto.decode (0x01 :: BigEndian.putUint32 (UInt32.ofNat i)) =
      .discover (BigEndian.putUint32 (UInt32.ofNat i)) false := rfl
  have hadm : Server.discoverAdmitted sampleEnv (BigEndian.putUint32 (UInt32.ofNat i)) = true := by
    simp [Server.discoverAdmitted, Env.breakerOpen, sampleEnv]
  have hallow : s.discoverRL.allow (UInt32.ofNat i) 0 discoverMinInterval =
      (true, s.discoverRL.insert (UInt32.ofNat i) 0) := by
    unfold DiscoverRateLimiter.allow Limiter.intervalAllow
    rw [hfresh]
  simp only [next, PilotBeacon.step, crowdDiscover, sampleDatagram, Server.handlePacketFrom, hdec,
    Server.handleDiscover_state, hadm, if_true, hbody, hallow, Server.noteDiscover,
    BigEndian.length_putUint32]
  rfl

theorem Crowded.next_eq {k : Nat} {s : Server} (h : Crowded k s) (hk : k < 16384) :
    next crowdConfig s (crowdDiscover k) =
      { s with
        discoverRL := s.discoverRL.insert (UInt32.ofNat k) 0
        nodes := (s.nodes.upsert (UInt32.ofNat k) (sampleAddr 10 0 0 1 4000) 0
          maxBeaconNodes).nodes } :=
  next_crowdDiscover (h.fresh _ (toNat_ofNat_small hk).ge)

/-- One more node registers. -/
theorem Crowded.step {k : Nat} {s : Server} (h : Crowded k s) (hk : k < 16384) :
    Crowded (k + 1) (next crowdConfig s (crowdDiscover k)) := by
  have hval := toNat_ofNat_small hk
  have hend : ∀ id, (next crowdConfig s (crowdDiscover k)).nodes.endpoint id =
      if UInt32.ofNat k = id then some (sampleAddr 10 0 0 1 4000, 0) else s.nodes.endpoint id := by
    intro id
    rw [h.next_eq hk]
    dsimp only
    rw [NodeMap.endpoint_upsert]
    simp only [h.room hk, and_true]
  constructor
  · rw [h.next_eq hk]
    exact h.conn
  · rw [h.next_eq hk]
    exact h.peers
  · intro i hi
    rw [NodeMap.has_eq_isSome_endpoint, hend]
    split_ifs with hik
    · rfl
    · rw [← NodeMap.has_eq_isSome_endpoint]
      apply h.registered
      have : i ≠ k := fun heq => hik (by rw [heq])
      omega
  · intro id hid
    rw [NodeMap.has_eq_isSome_endpoint, hend] at hid
    split_ifs at hid with hik
    · rw [← hik]
      omega
    · rw [← NodeMap.has_eq_isSome_endpoint] at hid
      have := h.only id hid
      omega
  · intro id hid
    rw [h.next_eq hk]
    dsimp only
    rw [ShardedMap.lookup_insert_of_ne _ _ (fun heq => by rw [heq] at hid; omega)]
    exact h.fresh id (by omega)

theorem crowded {k : Nat} (hk : k ≤ 16384) : Crowded k (runFrom crowdConfig [[]] (crowd k)) := by
  induction k with
  | zero => exact ⟨rfl, rfl, by simp, fun id hid => absurd hid Bool.false_ne_true, fun _ _ => rfl⟩
  | succ k ih =>
    have hcrowd : crowd (k + 1) = crowd k ++ [crowdDiscover k] := by
      simp [crowd, List.range_succ]
    rw [runFrom, hcrowd, Transition.run_concat]
    exact (ih (by omega)).step (by omega)

/-- **The 16376th node silences the beacon**: after the run the sync no longer fits a
    datagram. -/
theorem crowd_not_advertised :
    ¬ GossipAdvertises crowdConfig (runFrom crowdConfig [[]] (crowd 16376)) [] := by
  have h := crowded (show 16376 ≤ 16384 by omega)
  rw [gossipAdvertises_of_target h.conn (by rw [h.peers]; simp)]
  -- 16376 different ids are registered, whatever the order they are listed in
  have hnodup : ((List.range 16376).map UInt32.ofNat).Nodup := by
    apply List.Nodup.map_on _ List.nodup_range
    intro i hi j hj hij
    rw [List.mem_range] at hi hj
    rw [← toNat_ofNat_small (show i < 16384 by omega),
      ← toNat_ofNat_small (show j < 16384 by omega), hij]
  have hsub : (List.range 16376).map UInt32.ofNat ⊆
      (runFrom crowdConfig [[]] (crowd 16376)).nodes.ids := by
    intro id hid
    obtain ⟨i, hi, rfl⟩ := List.mem_map.mp hid
    exact (NodeMap.mem_ids _ _).mpr (h.registered i (List.mem_range.mp hi))
  have hle := (List.subperm_of_subset hnodup hsub).length_le
  rw [List.length_map, List.length_range] at hle
  rw [NodeMap.len_eq_length_ids]
  omega

end PilotBeacon

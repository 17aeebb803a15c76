import PilotBeacon.Server.Discover
import PilotBeacon.Net.AddrText

/-!
# Gossip (`sendGossip`, `handleSync`, `isKnownGossipPeer`, `sweepStaleGossip`)

Beacons tell each other which node ids are registered with them. A sync replaces all routes
its source owns by routes for the ids it lists, except those registered locally; routes of
a source that has gone quiet are withdrawn by a sweep. Replacement compares IP and port of
the owner, the sweep compares printed addresses.
-/

namespace PilotBeacon

open PilotBeacon.Lib PilotBeacon.Net

/-! ## The list of ids -/

/-- `IDs`, whose order is undefined: the registered ids in the order `order`, if that is an
    order of them. -/
def NodeMap.idsIn (m : NodeMap) (order : List UInt32) : List UInt32 :=
  if order.isPerm m.ids then order else m.ids

theorem NodeMap.idsIn_perm (m : NodeMap) (order : List UInt32) : (m.idsIn order).Perm m.ids := by
  unfold idsIn
  split_ifs with h
  · exact List.isPerm_iff.mp h
  · exact List.Perm.refl _

theorem NodeMap.mem_idsIn (m : NodeMap) (order : List UInt32) (id : UInt32) :
    id ∈ m.idsIn order ↔ m.has id = true := by
  rw [(m.idsIn_perm order).mem_iff, NodeMap.mem_ids]

/-- `[beaconID(4)][nodeCount(2)][nodeID(4)...]` -/
def syncBody (cfg : Config) (nodeIDs : List UInt32) : Bytes :=
  BigEndian.putUint32 cfg.beaconID ++
    (BigEndian.putUint16 (UInt16.ofNat nodeIDs.length) ++ BigEndian.putUint32s nodeIDs)

/-- The sync message: its type and its body. -/
def syncMessage (cfg : Config) (nodeIDs : List UInt32) : Bytes :=
  cfg.proto.beaconMsgSync :: syncBody cfg nodeIDs

/-! ## The sync codec -/

theorem length_syncBody (cfg : Config) (ids : List UInt32) :
    (syncBody cfg ids).length = 6 + 4 * ids.length := by
  simp only [syncBody, List.length_append, BigEndian.length_putUint32, BigEndian.length_putUint16,
    BigEndian.length_putUint32s]
  omega

theorem length_syncMessage (cfg : Config) (ids : List UInt32) :
    (syncMessage cfg ids).length = 7 + 4 * ids.length := by
  rw [syncMessage, List.length_cons, length_syncBody]
  omega

/-- The count field of a sync body, if it can hold the count. -/
theorem count_syncBody (cfg : Config) {ids : List UInt32} (h : ids.length ≤ 65535) :
    (BigEndian.uint16 ((syncBody cfg ids).drop 4)).toNat = ids.length := by
  rw [syncBody, BigEndian.drop_putUint32_append, BigEndian.uint16_putUint16_append,
    UInt16.toNat_ofNat']
  exact Nat.mod_eq_of_lt (by omega)

/-- **Round trip.** A sync body lists the ids it was built from. -/
theorem uint32s_syncBody (cfg : Config) {ids : List UInt32} (h : ids.length ≤ 65535) :
    BigEndian.uint32s (BigEndian.uint16 ((syncBody cfg ids).drop 4)).toNat
      ((syncBody cfg ids).drop 6) = ids := by
  have hdrop : (syncBody cfg ids).drop 6 = BigEndian.putUint32s ids := by
    rw [show (6 : Nat) = 4 + 2 from rfl, ← List.drop_drop, syncBody,
      BigEndian.drop_putUint32_append, BigEndian.drop_putUint16_append]
  rw [count_syncBody cfg h, hdrop]
  simpa using BigEndian.uint32s_putUint32s_append ids []

namespace Server

/-! ## Sending -/

/-- The ids one gossip round lists: as many as the 16-bit count can say. -/
def gossipIDs (s : Server) (order : List UInt32) : List UInt32 := (s.nodes.idsIn order).take 65535

def sendGossip (cfg : Config) (s : Server) (order : List UInt32) : List Datagram :=
  s.peers.flatMap fun peer => s.writeToUDP peer (syncMessage cfg (s.gossipIDs order))

theorem length_gossipIDs (s : Server) (order : List UInt32) :
    (s.gossipIDs order).length = min 65535 s.nodes.len := by
  rw [gossipIDs, List.length_take, (s.nodes.idsIn_perm order).length_eq,
    NodeMap.len_eq_length_ids]

/-- What the count can say is said. -/
theorem mem_gossipIDs {s : Server} {order : List UInt32} (h : s.nodes.len ≤ 65535) {id : UInt32} :
    id ∈ s.gossipIDs order ↔ s.nodes.has id = true := by
  rw [gossipIDs, List.take_of_length_le, NodeMap.mem_idsIn]
  rwa [(s.nodes.idsIn_perm order).length_eq, ← NodeMap.len_eq_length_ids]

theorem mem_sendGossip {cfg : Config} {s : Server} {order : List UInt32} {dg : Datagram} :
    dg ∈ s.sendGossip cfg order ↔
      s.conn.isSome = true ∧
        ∃ peer ∈ s.peers, dg = ⟨peer, syncMessage cfg (s.gossipIDs order)⟩ := by
  unfold sendGossip writeToUDP
  cases s.conn.isSome with
  | false => simp
  | true => simp

/-! ## Receiving -/

/-- Whether the address, whatever the port, belongs to a beacon in the peer set. -/
def isKnownGossipPeer (s : Server) (remote : UDPAddr) : Bool :=
  s.peers.any fun p => p.ip.equal remote.ip

/-- The copy-on-write update of the route table by a sync listing `nodeIDs`. -/
def publishRoutes (s : Server) (nodeIDs : List UInt32) (remote : UDPAddr) (now : Int) : Server :=
  -- the old routes of the source are left out of the copy
  let kept := FiniteMap.filter (fun _ addr => !addr.sameEndpoint remote) s.peerNodes
  { s with
    peerNodes := FiniteMap.insertAll kept (nodeIDs.filter fun id => !s.nodes.has id) remote
    gossipSeen := s.gossipSeen.insert remote.string now }

def handleSync (cfg : Config) (now : Int) (s : Server) (data : Bytes) (remote : UDPAddr) : Server :=
  if data.length < 6 then s
  else if cfg.strictGossip && !s.isKnownGossipPeer remote then s
  else
    let nodeCount := (BigEndian.uint16 (data.drop 4)).toNat
    if data.length < 6 + 4 * nodeCount then s
    else s.publishRoutes (BigEndian.uint32s nodeCount (data.drop 6)) remote now

/-! ## Expiry -/

def sweepStaleGossip (s : Server) (cutoff : Int) : Server :=
  let stale := FiniteMap.filter (fun _ last => decide (last < cutoff)) s.gossipSeen
  let seen := FiniteMap.filter (fun _ last => !decide (last < cutoff)) s.gossipSeen
  -- nothing has expired: the route table is not copied
  if stale.size = 0 then { s with gossipSeen := seen }
  else
    let next := FiniteMap.filter (fun _ addr => !(stale.lookup addr.string).isSome) s.peerNodes
    -- no route is dropped: the copy is thrown away
    if next.size = s.peerNodes.size then { s with gossipSeen := seen }
    else { s with gossipSeen := seen, peerNodes := next }

/-! ## What a sync does to each route -/

section

variable {cfg : Config} {now : Int} {s : Server} {data : Bytes} {remote : UDPAddr}

/-- The ids of a sync that is long enough and passes the peer-set gate. -/
def acceptedSync (cfg : Config) (s : Server) (data : Bytes) (remote : UDPAddr) :
    Option (List UInt32) :=
  if data.length < 6 + 4 * (BigEndian.uint16 (data.drop 4)).toNat ∨
      (cfg.strictGossip = true ∧ s.isKnownGossipPeer remote = false) then none
  else some (BigEndian.uint32s (BigEndian.uint16 (data.drop 4)).toNat (data.drop 6))

/-- **What a sync does**: nothing, or, exactly if it is accepted, the route update. -/
theorem handleSync_eq : handleSync cfg now s data remote =
    match acceptedSync cfg s data remote with
    | none => s
    | some ids => s.publishRoutes ids remote now := by
  unfold handleSync acceptedSync
  -- a body shorter than the fixed fields is also shorter than its count says
  by_cases h6 : data.length < 6
  · rw [if_pos h6, if_pos (Or.inl (by omega))]
  · by_cases hgate : cfg.strictGossip = true ∧ s.isKnownGossipPeer remote = false
    · rw [if_neg h6, if_pos (by simp [hgate]), if_pos (Or.inr hgate)]
    · rw [if_neg h6, if_neg (by simpa using hgate)]
      dsimp only
      by_cases hlen : data.length < 6 + 4 * (BigEndian.uint16 (data.drop 4)).toNat
      · rw [if_pos hlen, if_pos (Or.inl hlen)]
      · rw [if_neg hlen, if_neg (not_or.mpr ⟨hlen, hgate⟩)]

/-- A sync built by another beacon is accepted with its ids, if its source passes the gate. -/
theorem acceptedSync_syncBody (sender : Config) {ids : List UInt32} (h : ids.length ≤ 65535)
    (hgate : cfg.strictGossip = true → s.isKnownGossipPeer remote = true) :
    acceptedSync cfg s (syncBody sender ids) remote = some ids := by
  unfold acceptedSync
  rw [if_neg, uint32s_syncBody sender h]
  rw [count_syncBody sender h, length_syncBody]
  rintro (hlen | ⟨hstrict, hunknown⟩)
  · omega
  · rw [hgate hstrict] at hunknown
    cases hunknown

/-- After a sync the source owns what it listed and is not local here, and nothing else. -/
theorem lookup_publishRoutes (ids : List UInt32) (id : UInt32) :
    (s.publishRoutes ids remote now).peerNodes.lookup id =
      if id ∈ ids ∧ s.nodes.has id = false then some remote
      else (s.peerNodes.lookup id).filter (fun addr => !addr.sameEndpoint remote) := by
  unfold publishRoutes
  rw [FiniteMap.lookup_insertAll, FiniteMap.lookup_filter]
  simp

theorem lookup_gossipSeen_publishRoutes (ids : List UInt32) (key : Text) :
    (s.publishRoutes ids remote now).gossipSeen.lookup key =
      if key = remote.string then some now else s.gossipSeen.lookup key :=
  FiniteMap.lookup_insert_eq _ _ _ _

/-! ## What a sweep does to each route -/

theorem lookup_gossipSeen_sweep (cutoff : Int) (key : Text) :
    (s.sweepStaleGossip cutoff).gossipSeen.lookup key =
      (s.gossipSeen.lookup key).filter (fun last => !decide (last < cutoff)) := by
  unfold sweepStaleGossip
  dsimp only
  split_ifs <;> exact FiniteMap.lookup_filter _ _ _

/-- **The early returns are invisible**: a sweep drops exactly the routes whose owner's
    printed address was last seen before the cutoff. -/
theorem lookup_sweepStaleGossip (cutoff : Int) (id : UInt32) :
    (s.sweepStaleGossip cutoff).peerNodes.lookup id =
      (s.peerNodes.lookup id).filter
        (fun addr => !(s.gossipSeen.lookup addr.string).any (fun last => last < cutoff)) := by
  unfold sweepStaleGossip
  dsimp only
  set stale := FiniteMap.filter (fun _ last => decide (last < cutoff)) s.gossipSeen with hstale
  -- a printed address is stale if it was last seen before the cutoff
  have hlookup : ∀ key, (stale.lookup key).isSome =
      (s.gossipSeen.lookup key).any (fun last => last < cutoff) := by
    intro key
    rw [hstale, FiniteMap.lookup_filter]
    cases s.gossipSeen.lookup key with
    | none => rfl
    | some last => by_cases h : last < cutoff <;> simp [Option.filter, h]
  -- what the copy contains, whether it is stored or not
  have hnext : (FiniteMap.filter (fun _ addr => !(stale.lookup addr.string).isSome)
      s.peerNodes).lookup id = (s.peerNodes.lookup id).filter
        (fun addr => !(s.gossipSeen.lookup addr.string).any (fun last => last < cutoff)) := by
    rw [FiniteMap.lookup_filter]
    simp only [hlookup]
  split_ifs with hnone hsame
  · -- no stale source: the filter keeps everything
    have hempty : stale.entries = [] := List.length_eq_zero_iff.mp hnone
    have hkeep : ∀ key, (stale.lookup key).isSome = false := by
      intro key
      rw [show stale = ∅ from AList.ext hempty]
      rfl
    rw [← hnext, FiniteMap.lookup_filter]
    cases s.peerNodes.lookup id with
    | none => rfl
    | some addr => simp [Option.filter, hkeep]
  · rw [← hnext, FiniteMap.filter_eq_self_of_size _ _ hsame]
  · exact hnext

end

end Server

end PilotBeacon

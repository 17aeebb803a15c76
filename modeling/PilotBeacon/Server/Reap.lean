import PilotBeacon.Server.Gossip

/-!
# Reaper and Notifies (`reapStaleNodes`, `NotifyNode`)

The reaper drops nodes that were not seen for `beaconNodeTTL`, sweeps the limiters and the
gossip routes, and then drops the keys and delivery marks of every node that is not
registered.
-/

namespace PilotBeacon

open PilotBeacon.Lib PilotBeacon.Net

/-- The errors of `NotifyNode`. -/
inductive NotifyError where
  | notListening
  | nodeNotFound (nodeID : UInt32)
deriving DecidableEq

namespace Server

def reapStaleNodes (s : Server) (now : Int) : Server :=
  let s := { s with
    nodes := (s.nodes.reapStale (now - beaconNodeTTL)).1
    punchRL := s.punchRL.sweep (now - punchRateCleanupInterval)
    relayRL := s.relayRL.sweep (now - relaySourceCleanupInterval)
    discoverRL := s.discoverRL.sweep (now - discoverMinInterval * 2) }
  let s := s.sweepStaleGossip (now - gossipPeerTTL)
  -- keys and marks go by the node table as the sweep above left it
  { s with
    nodePubKeys := FiniteMap.filter (fun id _ => s.nodes.has id) s.nodePubKeys
    dstNodes := FiniteMap.filter (fun id _ => s.nodes.has id) s.dstNodes }

def notifyNode (s : Server) (nodeID : UInt32) (now : Int) :
    Server × List Datagram × Option NotifyError :=
  if s.conn.isNone then (s, [], some .notListening)
  else
    match s.nodes.claimNotify nodeID now notifyMinInterval with
    | (_, none) => (s, [], some (.nodeNotFound nodeID))
    -- throttled: nothing is sent, and that is no error
    | (nodes, some (_, true)) => ({ s with nodes := nodes }, [], none)
    | (nodes, some (addr, false)) =>
      ({ s with nodes := nodes }, [⟨addr, [msgNotify, notifyKindHandshake]⟩], none)

/-! ## What the reaper does to each table -/

section

variable {s : Server} {now : Int}

/-- A sweep of the routes touches the routes and the sources seen only. -/
theorem sweepStaleGossip_frame (s : Server) (cutoff : Int) :
    ∃ routes seen, s.sweepStaleGossip cutoff =
      { s with peerNodes := routes, gossipSeen := seen } := by
  unfold sweepStaleGossip
  dsimp only
  split_ifs <;> exact ⟨_, _, rfl⟩

/-- What the reaper does besides the sweep of the routes. -/
theorem reapStaleNodes_eq (s : Server) (now : Int) :
    ∃ routes seen, s.reapStaleNodes now =
      { s with
        nodes := (s.nodes.reapStale (now - beaconNodeTTL)).1
        punchRL := s.punchRL.sweep (now - punchRateCleanupInterval)
        relayRL := s.relayRL.sweep (now - relaySourceCleanupInterval)
        discoverRL := s.discoverRL.sweep (now - discoverMinInterval * 2)
        nodePubKeys := FiniteMap.filter
          (fun id _ => (s.nodes.reapStale (now - beaconNodeTTL)).1.has id) s.nodePubKeys
        dstNodes := FiniteMap.filter
          (fun id _ => (s.nodes.reapStale (now - beaconNodeTTL)).1.has id) s.dstNodes
        peerNodes := routes
        gossipSeen := seen } := by
  unfold reapStaleNodes
  dsimp only
  obtain ⟨routes, seen, h⟩ := sweepStaleGossip_frame
    { s with
      nodes := (s.nodes.reapStale (now - beaconNodeTTL)).1
      punchRL := s.punchRL.sweep (now - punchRateCleanupInterval)
      relayRL := s.relayRL.sweep (now - relaySourceCleanupInterval)
      discoverRL := s.discoverRL.sweep (now - discoverMinInterval * 2) } (now - gossipPeerTTL)
  rw [h]
  exact ⟨_, _, rfl⟩

/-- The reaper touches the tables only. -/
theorem reapStaleNodes_frame (s : Server) (now : Int) :
    ∃ keys dst routes seen, s.reapStaleNodes now =
      { s with
        nodes := (s.nodes.reapStale (now - beaconNodeTTL)).1
        punchRL := s.punchRL.sweep (now - punchRateCleanupInterval)
        relayRL := s.relayRL.sweep (now - relaySourceCleanupInterval)
        discoverRL := s.discoverRL.sweep (now - discoverMinInterval * 2)
        nodePubKeys := keys
        dstNodes := dst
        peerNodes := routes
        gossipSeen := seen } := by
  obtain ⟨routes, seen, h⟩ := reapStaleNodes_eq s now
  exact ⟨_, _, routes, seen, h⟩

theorem reapStaleNodes_nodes :
    (s.reapStaleNodes now).nodes = (s.nodes.reapStale (now - beaconNodeTTL)).1 := by
  obtain ⟨_, _, _, _, h⟩ := reapStaleNodes_frame s now
  rw [h]

theorem reapStaleNodes_discoverRL :
    (s.reapStaleNodes now).discoverRL = s.discoverRL.sweep (now - discoverMinInterval * 2) := by
  obtain ⟨_, _, _, _, h⟩ := reapStaleNodes_frame s now
  rw [h]

/-- Keys and marks go by the node table the reaper leaves. -/
theorem reapStaleNodes_notes :
    (s.reapStaleNodes now).nodePubKeys =
        FiniteMap.filter (fun id _ => (s.reapStaleNodes now).nodes.has id) s.nodePubKeys ∧
      (s.reapStaleNodes now).dstNodes =
        FiniteMap.filter (fun id _ => (s.reapStaleNodes now).nodes.has id) s.dstNodes := by
  obtain ⟨_, _, h⟩ := reapStaleNodes_eq s now
  rw [h]
  exact ⟨rfl, rfl⟩

/-- A key goes with its node. -/
theorem lookup_nodePubKeys_reap (id : UInt32) :
    (s.reapStaleNodes now).nodePubKeys.lookup id =
      if (s.reapStaleNodes now).nodes.has id then s.nodePubKeys.lookup id else none := by
  rw [reapStaleNodes_notes.1]
  exact FiniteMap.lookup_filter_key _ _ _

/-- So does a mark. -/
theorem lookup_dstNodes_reap (id : UInt32) :
    (s.reapStaleNodes now).dstNodes.lookup id =
      if (s.reapStaleNodes now).nodes.has id then s.dstNodes.lookup id else none := by
  rw [reapStaleNodes_notes.2]
  exact FiniteMap.lookup_filter_key _ _ _

/-- On the routes the reaper is a sweep. -/
theorem reapStaleNodes_gossip :
    (s.reapStaleNodes now).peerNodes = (s.sweepStaleGossip (now - gossipPeerTTL)).peerNodes ∧
      (s.reapStaleNodes now).gossipSeen =
        (s.sweepStaleGossip (now - gossipPeerTTL)).gossipSeen := by
  unfold reapStaleNodes sweepStaleGossip
  dsimp only
  split_ifs <;> exact ⟨rfl, rfl⟩

/-- A notify touches only when the node was last notified. -/
theorem notifyNode_frame (s : Server) (id : UInt32) (now : Int) :
    ∃ nodes, (s.notifyNode id now).1 = { s with nodes := nodes } ∧
      ∀ id', NodeMap.endpoint nodes id' = s.nodes.endpoint id' := by
  unfold notifyNode
  by_cases hconn : s.conn.isNone = true
  · rw [if_pos hconn]
    exact ⟨s.nodes, rfl, fun _ => rfl⟩
  · rw [if_neg hconn]
    unfold NodeMap.claimNotify
    cases hl : s.nodes.lookup id with
    | none => exact ⟨s.nodes, rfl, fun _ => rfl⟩
    | some n =>
      dsimp only
      by_cases hthr : (n.lastNotify.any fun last => decide (now - last < notifyMinInterval)) = true
      · rw [if_pos hthr]
        exact ⟨s.nodes, rfl, fun _ => rfl⟩
      · rw [if_neg hthr]
        -- the entry is written again, with another time of notify only
        refine ⟨_, rfl, ?_⟩
        intro id'
        rw [NodeMap.endpoint, ShardedMap.lookup_insert, NodeMap.endpoint]
        split_ifs with hid
        · subst hid
          rw [hl]
          rfl
        · rfl

end

end Server

end PilotBeacon

import PilotBeacon.Server.State

/-!
# Discover (`handleDiscover`)

A Discover registers the sender's observed endpoint under the node id in its body and is
answered with that endpoint. Three things happen on the way, in this order: a DiscoverEx
marks the node for destination-carrying delivery, a trailing public key is bound to the
node id unless one is bound already, and the per-node limiter decides whether the endpoint
is stored at all.
-/

namespace PilotBeacon

open PilotBeacon.Lib PilotBeacon.Net

/-! ## Messages that carry an address -/

/-- `[type(1)][iplen(1)][IP(4 or 16)][port(2)]`, if the IP can be encoded. -/
def addrMessage (msgType : UInt8) (addr : UDPAddr) : Option Bytes :=
  addr.ip.wire.map fun ip =>
    msgType :: UInt8.ofNat ip.length :: (ip ++ BigEndian.putUint16 addr.port)

namespace Server

/-- `s.conn.WriteToUDP`, which sends nothing before the socket is bound. -/
def writeToUDP (s : Server) (dst : UDPAddr) (data : Bytes) : List Datagram :=
  if s.conn.isSome then [⟨dst, data⟩] else []

/-! ## The handler -/

/-- Reply with the observed address. -/
def discoverReply (cfg : Config) (s : Server) (remote : UDPAddr) : List Datagram :=
  match addrMessage cfg.proto.beaconMsgDiscoverReply remote with
  | none => []
  | some reply => s.writeToUDP remote reply

/-- What a Discover leaves behind besides the endpoint: the delivery mark of a DiscoverEx,
    and the key in its first 32 trailing bytes unless the node has one. -/
def noteDiscover (s : Server) (nodeID : UInt32) (data : Bytes) (wantDest : Bool) : Server :=
  { s with
    dstNodes := if wantDest then s.dstNodes.insert nodeID () else s.dstNodes
    -- `LoadOrStore`: a later key never replaces an earlier one
    nodePubKeys := if 4 + publicKeySize ≤ data.length then
      FiniteMap.loadOrStore s.nodePubKeys nodeID ((data.drop 4).take publicKeySize)
      else s.nodePubKeys }

/-- Store the endpoint if the per-node limiter allows it; whether the shard was full. -/
def updateEndpoint (s : Server) (nodeID : UInt32) (remote : UDPAddr) (now : Int) :
    Server × Bool :=
  let (allowed, rl) := s.discoverRL.allow nodeID now discoverMinInterval
  if allowed then
    let r := s.nodes.upsert nodeID remote now maxBeaconNodes
    ({ s with discoverRL := rl, nodes := r.nodes }, r.atCapacity)
  else ({ s with discoverRL := rl }, false)

/-- A refused endpoint update is still answered; a full shard is not. -/
def handleDiscover (cfg : Config) (env : Env) (now : Int) (s : Server) (data : Bytes)
    (remote : UDPAddr) (wantDest : Bool) : Server × List Datagram :=
  if data.length < 4 then (s, [])
  else if env.breakerOpen .discover then (s, [])
  else
    let nodeID := BigEndian.uint32 data
    -- mark and key are stored before the limiter is asked
    let s := s.noteDiscover nodeID data wantDest
    let (s, atCap) := s.updateEndpoint nodeID remote now
    (s, if atCap then [] else s.discoverReply cfg remote)

/-! ## What the handler does to each table -/

/-- The datagram is long enough and the breaker lets it in. -/
def discoverAdmitted (env : Env) (data : Bytes) : Bool :=
  !decide (data.length < 4) && !env.breakerOpen .discover

section

variable {cfg : Config} {env : Env} {now : Int} {s : Server} {data : Bytes} {remote : UDPAddr}
  {wantDest : Bool}

theorem discoverAdmitted_iff : discoverAdmitted env data = true ↔
    ¬ data.length < 4 ∧ env.breakerOpen .discover = false := by
  simp [discoverAdmitted]

/-- The limiter decides alone whether the node table is written. -/
theorem updateEndpoint_eq (s : Server) (id : UInt32) (remote : UDPAddr) (now : Int) :
    (s.updateEndpoint id remote now).1 =
      { s with
        discoverRL := (s.discoverRL.allow id now discoverMinInterval).2
        nodes := if (s.discoverRL.allow id now discoverMinInterval).1 then
          (s.nodes.upsert id remote now maxBeaconNodes).nodes else s.nodes } := by
  unfold updateEndpoint
  split_ifs <;> simp_all

theorem handleDiscover_of_not_admitted (h : discoverAdmitted env data = false) :
    handleDiscover cfg env now s data remote wantDest = (s, []) := by
  unfold handleDiscover
  unfold discoverAdmitted at h
  split_ifs with hlen hopen
  · rfl
  · rfl
  · simp [hlen, hopen] at h

/-- **What a Discover does**: it notes the delivery mark and the key, charges the limiter,
    and writes the node table if the limiter allows it; or, if it is not admitted, nothing. -/
theorem handleDiscover_state : (handleDiscover cfg env now s data remote wantDest).1 =
    if discoverAdmitted env data then
      { s.noteDiscover (BigEndian.uint32 data) data wantDest with
        discoverRL := (s.discoverRL.allow (BigEndian.uint32 data) now discoverMinInterval).2
        nodes := if (s.discoverRL.allow (BigEndian.uint32 data) now discoverMinInterval).1 then
          (s.nodes.upsert (BigEndian.uint32 data) remote now maxBeaconNodes).nodes else s.nodes }
    else s := by
  cases h : discoverAdmitted env data with
  | false => rw [handleDiscover_of_not_admitted h]; rfl
  | true =>
    rw [discoverAdmitted_iff] at h
    unfold handleDiscover
    rw [if_neg h.1, if_neg (by simp [h.2]), if_pos rfl]
    exact updateEndpoint_eq (s.noteDiscover (BigEndian.uint32 data) data wantDest)
      (BigEndian.uint32 data) remote now

/-- **What a Discover is answered with**: the observed address, unless it is not admitted or finds
    its shard full. -/
theorem handleDiscover_reply : (handleDiscover cfg env now s data remote wantDest).2 =
    if discoverAdmitted env data = true ∧
        ¬ ((s.discoverRL.allow (BigEndian.uint32 data) now discoverMinInterval).1 = true ∧
          (s.nodes.upsert (BigEndian.uint32 data) remote now maxBeaconNodes).atCapacity = true)
    then s.discoverReply cfg remote else [] := by
  cases h : discoverAdmitted env data with
  | false =>
    rw [handleDiscover_of_not_admitted h]
    simp
  | true =>
    rw [discoverAdmitted_iff] at h
    unfold handleDiscover updateEndpoint
    rw [if_neg h.1, if_neg (by simp [h.2])]
    dsimp only [noteDiscover]
    -- the reply depends on the socket only
    cases (s.discoverRL.allow (BigEndian.uint32 data) now discoverMinInterval).1 with
    | false => simp [discoverReply, writeToUDP]
    | true =>
      cases (s.nodes.upsert (BigEndian.uint32 data) remote now maxBeaconNodes).atCapacity <;>
        simp [discoverReply, writeToUDP]

end

end Server

end PilotBeacon

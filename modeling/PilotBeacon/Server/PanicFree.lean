import PilotBeacon.Lib.Checked
import PilotBeacon.Server.Buffers

/-!
# No Datagram Panics the Beacon

The packet path once more, with every index and slice expression of the source written out and
checked: `none` is a panic, of an access out of range or of `ed25519.Verify` on a key of another
length. Each handler is `some` of what the model of it says, for every datagram, in every state,
under every answer of breaker and key lookup. So none of the accesses is ever out of range.

A worker builds its frames in a pooled buffer, which is large enough only because of what all
buffers in the pool have in common.

- `Checked.handlePacketFrom_eq`: the dispatch and all handlers
- `Checked.outgoingFrame_eq`: the frame a worker builds is the one the model sends
- `packet_path_in_range`: the packet path from the datagram to the frame, in every reachable state
-/

namespace PilotBeacon.Checked

open PilotBeacon.Lib PilotBeacon.Net PilotBeacon.Lib.Checked

/-! ## Messages that carry an address -/

/-- The writes to `[type(1)][iplen(1)][IP(4 or 16)][port(2)]`. -/
def fillAddr (msgType : UInt8) (ip : Bytes) (port : UInt16) (msg : Bytes) : Option Bytes := do
  let msg ← store msg 0 msgType
  let msg ← store msg 1 (UInt8.ofNat ip.length)
  let msg ← copyTo msg 2 (2 + ip.length) ip
  putUint16 msg (2 + ip.length) msg.length port

theorem fillAddr_eq {msgType : UInt8} {ip : Bytes} {port : UInt16} {msg : Bytes}
    (h : msg.length = 1 + 1 + ip.length + 2) : fillAddr msgType ip port msg =
      some (msgType :: UInt8.ofNat ip.length :: (ip ++ BigEndian.putUint16 port)) := by
  -- each write is right behind the one before, the last one fills the message
  have h0 : store msg 0 msgType = some (fill [msgType] msg) :=
    store_fill (a := []) rfl (by omega)
  have h1 : store (fill [msgType] msg) 1 (UInt8.ofNat ip.length) =
      some (fill [msgType, UInt8.ofNat ip.length] msg) := store_fill rfl (by omega)
  have h2 : copyTo (fill [msgType, UInt8.ofNat ip.length] msg) 2 (2 + ip.length) ip =
      some (fill ([msgType, UInt8.ofNat ip.length] ++ ip) msg) :=
    copyTo_fill rfl rfl (by omega)
  have hfit : (fill ([msgType, UInt8.ofNat ip.length] ++ ip) msg).length = msg.length :=
    length_fill (by simp; omega)
  have h3 : putUint16 (fill ([msgType, UInt8.ofNat ip.length] ++ ip) msg) (2 + ip.length)
      msg.length port =
        some (fill ([msgType, UInt8.ofNat ip.length] ++ ip ++ BigEndian.putUint16 port) msg) :=
    putUint16_fill (by simp; omega) (by omega) (by omega)
  unfold fillAddr
  simp only [h0, h1, h2, hfit, h3, Option.bind_eq_bind, Option.bind_some]
  rw [fill_full (by simp; omega)]
  simp

def addrMessage (msgType : UInt8) (addr : UDPAddr) : Option (Option Bytes) :=
  match addr.ip.wire with
  | none => some none
  | some ip =>
    (fillAddr msgType ip addr.port (List.replicate (1 + 1 + ip.length + 2) 0)).map some

theorem addrMessage_eq (msgType : UInt8) (addr : UDPAddr) :
    addrMessage msgType addr = some (PilotBeacon.addrMessage msgType addr) := by
  unfold addrMessage PilotBeacon.addrMessage
  cases addr.ip.wire with
  | none => rfl
  | some ip =>
    dsimp only
    rw [fillAddr_eq List.length_replicate]
    rfl

/-! ## Discover -/

/-- The mark of a DiscoverEx, and `data[4:4+ed25519.PublicKeySize]`. -/
def noteDiscover (s : Server) (nodeID : UInt32) (data : Bytes) (wantDest : Bool) :
    Option Server := do
  let s := if wantDest then { s with dstNodes := s.dstNodes.insert nodeID () } else s
  if 4 + publicKeySize ≤ data.length then
    let pub ← slice data 4 (4 + publicKeySize)
    some { s with nodePubKeys := FiniteMap.loadOrStore s.nodePubKeys nodeID pub }
  else some s

def handleDiscover (cfg : Config) (env : Env) (now : Int) (s : Server) (data : Bytes)
    (remote : UDPAddr) (wantDest : Bool) : Option (Server × List Datagram) :=
  if data.length < 4 then some (s, [])
  else if env.breakerOpen .discover then some (s, [])
  else do
    let nodeID ← field32 data 0
    let s ← noteDiscover s nodeID data wantDest
    let (s, atCap) := s.updateEndpoint nodeID remote now
    if atCap then some (s, [])
    else
      match ← addrMessage cfg.proto.beaconMsgDiscoverReply remote with
      | none => some (s, [])
      | some reply => some (s, s.writeToUDP remote reply)

section

variable {cfg : Config} {env : Env} {now : Int} {s : Server} {data : Bytes} {remote : UDPAddr}

theorem noteDiscover_eq (nodeID : UInt32) (wantDest : Bool) :
    noteDiscover s nodeID data wantDest = some (s.noteDiscover nodeID data wantDest) := by
  unfold noteDiscover Server.noteDiscover
  by_cases hkey : 4 + publicKeySize ≤ data.length
  · rw [if_pos hkey, if_pos hkey, slice_eq (by omega) hkey, Nat.add_sub_cancel_left]
    cases wantDest <;> rfl
  · rw [if_neg hkey, if_neg hkey]
    cases wantDest <;> rfl

theorem handleDiscover_eq (wantDest : Bool) : handleDiscover cfg env now s data remote wantDest =
    some (s.handleDiscover cfg env now data remote wantDest) := by
  unfold handleDiscover Server.handleDiscover
  by_cases hlen : data.length < 4
  · rw [if_pos hlen, if_pos hlen]
  by_cases hopen : env.breakerOpen .discover = true
  · rw [if_neg hlen, if_neg hlen, if_pos hopen, if_pos hopen]
  rw [if_neg hlen, if_neg hlen, if_neg hopen, if_neg hopen]
  simp only [field32_eq (show 0 + 4 ≤ data.length by omega), List.drop_zero, noteDiscover_eq,
    addrMessage_eq, Option.bind_eq_bind, Option.bind_some]
  unfold Server.discoverReply
  cases ((s.noteDiscover (BigEndian.uint32 data) data wantDest).updateEndpoint
    (BigEndian.uint32 data) remote now).2 with
  | true => rfl
  | false => cases PilotBeacon.addrMessage cfg.proto.beaconMsgDiscoverReply remote <;> rfl

end

/-! ## PunchRequest -/

/-- `ed25519.Verify`, which panics on a key of another length. -/
def verify (cfg : Config) (pub message sig : Bytes) : Option Bool :=
  if pub.length = publicKeySize then some (cfg.verify pub message sig) else none

def verifyPunchGrant (cfg : Config) (now : Int) (s : Server) (trailer : Bytes)
    (requesterID targetID : UInt32) : Option Bool :=
  if trailer.length < punchGrantTrailerSize then some false
  else do
    let field ← slice trailer 0 punchGrantExpirySize
    let expiry ← (uint64 field).map signed64
    if unixSecond now > expiry then some false
    else
      let sig ← slice trailer punchGrantExpirySize (punchGrantExpirySize + signatureSize)
      match s.targetPubKey cfg targetID with
      | none => some false
      | some pub =>
        if pub.length ≠ publicKeySize then some false
        else verify cfg pub (punchGrantPreimage requesterID targetID expiry) sig

def sendPunchCommand (cfg : Config) (s : Server) (nodeID : UInt32) (target : UDPAddr) :
    Option (List Datagram) :=
  match s.nodes.snapshot nodeID with
  | none => some []
  | some nodeAddr => do
    match ← addrMessage cfg.proto.beaconMsgPunchCommand target with
    | none => some []
    | some msg => some (s.writeToUDP nodeAddr msg)

def coordinatePunch (cfg : Config) (now : Int) (s : Server) (requesterID targetID : UInt32)
    (remote : UDPAddr) : Option (Server × List Datagram) :=
  let s := { s with nodes := (s.nodes.upsert requesterID remote now maxBeaconNodes).nodes }
  match s.nodes.snapshot targetID, s.nodes.snapshot requesterID with
  | some targetAddr, some requesterAddr => do
    let toRequester ← sendPunchCommand cfg s requesterID
      ((s.nodes.snapshot targetID).getD targetAddr)
    let toTarget ← sendPunchCommand cfg s targetID
      ((s.nodes.snapshot requesterID).getD requesterAddr)
    some (s, toRequester ++ toTarget)
  | _, _ => some (s, [])

def handlePunchRequest (cfg : Config) (env : Env) (now : Int) (s : Server) (data : Bytes)
    (remote : UDPAddr) : Option (Server × List Datagram) :=
  if data.length < 8 then some (s, [])
  else if env.breakerOpen .punch then some (s, [])
  else
    match s.punchGuard cfg now remote.ip.string with
    | none => some (s, [])
    | some s => do
      let requesterID ← field32 data 0
      let targetID ← field32 data 4
      let granted ← if cfg.requirePunchToken then do
          let trailer ← sliceFrom data 8
          verifyPunchGrant cfg now s trailer requesterID targetID
        else some true
      if !granted then some (s, []) else coordinatePunch cfg now s requesterID targetID remote

section

variable {cfg : Config} {env : Env} {now : Int} {s : Server} {data : Bytes} {remote : UDPAddr}

theorem verifyPunchGrant_eq (trailer : Bytes) (requesterID targetID : UInt32) :
    verifyPunchGrant cfg now s trailer requesterID targetID =
      some (s.verifyPunchGrant cfg now trailer requesterID targetID) := by
  unfold verifyPunchGrant Server.verifyPunchGrant
  by_cases hlen : trailer.length < punchGrantTrailerSize
  · rw [if_pos hlen, if_pos hlen]
  rw [if_neg hlen, if_neg hlen]
  have hlong : punchGrantExpirySize + signatureSize ≤ trailer.length := Nat.le_of_not_lt hlen
  have hfield : slice trailer 0 punchGrantExpirySize = some (trailer.take 8) :=
    slice_eq (Nat.zero_le _) (by omega)
  have hexpiry : (uint64 (trailer.take 8)).map signed64 = some (grantExpiry trailer) := by
    have h8 : 8 ≤ (trailer.take 8).length := by
      rw [List.length_take_of_le]
      exact Nat.le_trans (Nat.le_add_right 8 signatureSize) hlong
    rw [uint64, if_pos h8, List.take_take, Nat.min_self]
    rfl
  have hsig : slice trailer punchGrantExpirySize (punchGrantExpirySize + signatureSize) =
      some (grantSignature trailer) := by
    rw [slice_eq (Nat.le_add_right _ _) hlong, Nat.add_sub_cancel_left]
    rfl
  simp only [hfield, hexpiry, hsig, Option.bind_eq_bind, Option.bind_some]
  by_cases hexpired : unixSecond now > grantExpiry trailer
  · rw [if_pos hexpired, if_pos hexpired]
  rw [if_neg hexpired, if_neg hexpired]
  cases s.targetPubKey cfg targetID with
  | none => rfl
  | some pub =>
    dsimp only
    by_cases hkey : pub.length ≠ publicKeySize
    · rw [if_pos hkey, if_pos hkey]
    · rw [if_neg hkey, if_neg hkey, verify, if_pos (not_not.mp hkey)]

theorem sendPunchCommand_eq (nodeID : UInt32) (target : UDPAddr) :
    sendPunchCommand cfg s nodeID target = some (s.sendPunchCommand cfg nodeID target) := by
  unfold sendPunchCommand Server.sendPunchCommand
  rw [addrMessage_eq]
  cases s.nodes.snapshot nodeID with
  | none => rfl
  | some nodeAddr =>
    cases PilotBeacon.addrMessage cfg.proto.beaconMsgPunchCommand target <;> rfl

theorem coordinatePunch_eq (requesterID targetID : UInt32) :
    coordinatePunch cfg now s requesterID targetID remote =
      some (s.coordinatePunch cfg now requesterID targetID remote) := by
  unfold coordinatePunch Server.coordinatePunch
  simp only [sendPunchCommand_eq, Option.bind_eq_bind, Option.bind_some]
  cases (s.nodes.upsert requesterID remote now maxBeaconNodes).nodes.snapshot targetID with
  | none => rfl
  | some targetAddr =>
    cases (s.nodes.upsert requesterID remote now maxBeaconNodes).nodes.snapshot requesterID <;> rfl

theorem handlePunchRequest_eq : handlePunchRequest cfg env now s data remote =
    some (s.handlePunchRequest cfg env now data remote) := by
  unfold handlePunchRequest Server.handlePunchRequest
  by_cases hlen : data.length < 8
  · rw [if_pos hlen, if_pos hlen]
  by_cases hopen : env.breakerOpen .punch = true
  · rw [if_neg hlen, if_neg hlen, if_pos hopen, if_pos hopen]
  rw [if_neg hlen, if_neg hlen, if_neg hopen, if_neg hopen]
  cases s.punchGuard cfg now remote.ip.string with
  | none => rfl
  | some t =>
    simp only [field32_eq (show 0 + 4 ≤ data.length by omega),
      field32_eq (show 4 + 4 ≤ data.length by omega),
      sliceFrom_eq (show 8 ≤ data.length by omega), List.drop_zero, verifyPunchGrant_eq,
      coordinatePunch_eq, Option.bind_eq_bind, Option.bind_some]
    cases cfg.requirePunchToken with
    | false => rfl
    | true =>
      cases t.verifyPunchGrant cfg now (data.drop 8) (BigEndian.uint32 data)
        (BigEndian.uint32 (data.drop 4)) <;> rfl

end

/-! ## Relay -/

/-- The writes to the 16-byte address in the key of a datagram source. -/
def fillSource (ip k : Bytes) : Option Bytes :=
  if ip.length = 4 then do
    let k ← store k 10 0xff
    let k ← store k 11 0xff
    copyTo k 12 16 ip
  else if ip.length = 16 then copyTo k 0 16 ip
  else some k

def relaySourceForUDP (remote : UDPAddr) : Option RelaySourceKey := do
  let k ← fillSource remote.ip.bytes (List.replicate 16 0)
  some { ip := k, port := remote.port, node := 0, bridged := false }

def relaySource (remote : UDPAddr) (bridgePeer : UInt32) : Option RelaySourceKey :=
  if bridgePeer ≠ 0 then some (relaySourceForBridge bridgePeer) else relaySourceForUDP remote

/-- `s.relayChs[destID%uint32(len(s.relayChs))]` -/
def relayQueueFor (cfg : Config) (destID : UInt32) : Option Nat :=
  if cfg.relayWorkerCount = 0 then none
  else index (List.range cfg.relayWorkerCount) (destID.toNat % cfg.relayWorkerCount)

/-- `buf[:len(payload)]` of a pooled buffer, or a new buffer. -/
def getPayload (p : Pool) (pick len : Nat) : Option (Buf × Pool) :=
  let (b, p) := p.get pick 1500
  if b.cap < len then some (p.make len) else if len ≤ b.cap then some (b, p) else none

def enqueueRelay (cfg : Config) (s : Server) (job : RelayJob) : Option (Server × RelayFate) := do
  let i ← relayQueueFor cfg job.destID
  if (s.relayChs i).length < relayQueueCap cfg then
    some ({ s with relayChs := Function.update s.relayChs i (s.relayChs i ++ [job]) }, .queued)
  else
    some ({ s with relayDropped := s.relayDropped + 1, pool := s.pool.put job.payload.buf },
      .queueFull)

def queueRelay (cfg : Config) (env : Env) (s : Server) (senderID destID : UInt32) (data : Bytes) :
    Option (Server × RelayFate) := do
  let payload ← sliceFrom data 8
  if maxRelayPayload < payload.length then some (s, .oversize)
  else
    let (buf, pool) ← getPayload s.pool env.poolPick payload.length
    enqueueRelay cfg { s with pool := pool } ⟨senderID, destID, ⟨buf, payload⟩⟩

def dispatchRelay (cfg : Config) (env : Env) (now : Int) (s : Server) (data : Bytes)
    (src : RelaySourceKey) : Option (Server × RelayFate) :=
  if data.length < 8 then some (s, .short)
  else if env.breakerOpen .relay then
    some ({ s with relayDropped := s.relayDropped + 1 }, .breaker)
  else do
    let senderID ← field32 data 0
    let destID ← field32 data 4
    if !s.relayKnown cfg env destID then
      some ({ s with relayNotFound := s.relayNotFound + 1 }, .notFound)
    else
      let (allowed, rl) := s.relayRL.allow src now maxRelaysPerSourcePerSecond
      let s := { s with relayRL := rl }
      if !allowed then some (s, .limited) else queueRelay cfg env s senderID destID data

section

variable {cfg : Config} {env : Env} {now : Int} {s : Server} {data : Bytes} {remote : UDPAddr}

theorem fillSource_eq (ip : IP) : fillSource ip.bytes (List.replicate 16 0) =
    some (ip.to16.getD (List.replicate 16 0)) := by
  unfold fillSource IP.to16
  rcases ip.len_ok with h | h | h
  · simp [h]
  · -- two stores make the prefix of an IPv4-mapped address, the copy fills the rest
    have h10 : store (List.replicate 16 (0 : UInt8)) 10 0xff =
        some (fill (List.replicate 10 0 ++ [0xff]) (List.replicate 16 0)) := rfl
    have h11 :
        store (fill (List.replicate 10 0 ++ [0xff]) (List.replicate 16 (0 : UInt8))) 11 0xff =
          some (fill IP.v4InV6Prefix (List.replicate 16 0)) := rfl
    have h12 : copyTo (fill IP.v4InV6Prefix (List.replicate 16 0)) 12 16 ip.bytes =
        some (fill (IP.v4InV6Prefix ++ ip.bytes) (List.replicate 16 0)) :=
      copyTo_fill rfl (by rw [h]) (Nat.le_refl 16)
    rw [if_pos h, h10, Option.bind_eq_bind, Option.bind_some, h11, Option.bind_some, h12,
      fill_full (by rw [List.length_append, h]; decide), if_pos h]
    rfl
  · have h0 : copyTo (List.replicate 16 0) 0 16 ip.bytes =
        some (fill ip.bytes (List.replicate 16 0)) :=
      copyTo_fill (a := []) rfl (by rw [h]) (Nat.le_refl 16)
    have h4 : ¬ ip.bytes.length = 4 := by omega
    rw [if_neg h4, if_pos h, h0, fill_full (by rw [h]; decide), if_neg h4, if_pos h]
    rfl

theorem relaySourceForUDP_eq (remote : UDPAddr) :
    relaySourceForUDP remote = some (PilotBeacon.relaySourceForUDP remote) := by
  rw [relaySourceForUDP, fillSource_eq]
  rfl

theorem relaySource_eq (remote : UDPAddr) (bridgePeer : UInt32) :
    relaySource remote bridgePeer = some (PilotBeacon.relaySource remote bridgePeer) := by
  rw [relaySource, relaySourceForUDP_eq, PilotBeacon.relaySource]
  split_ifs <;> rfl

theorem relayQueueFor_eq (cfg : Config) (destID : UInt32) :
    relayQueueFor cfg destID = some (PilotBeacon.relayQueueFor cfg destID) := by
  have hpos : 0 < cfg.relayWorkerCount := Nat.lt_of_lt_of_le (by decide) cfg.workers_ok
  rw [relayQueueFor, if_neg (by omega), index, List.getElem?_range (Nat.mod_lt _ hpos)]
  rfl

theorem getPayload_eq (p : Pool) (pick len : Nat) :
    getPayload p pick len = some (p.getPayload pick len) := by
  unfold getPayload Pool.getPayload
  dsimp only
  by_cases hcap : (p.get pick 1500).1.cap < len
  · rw [if_pos hcap, if_pos hcap]
  · rw [if_neg hcap, if_neg hcap, if_pos (by omega)]

theorem queueRelay_eq (h : 8 ≤ data.length) :
    queueRelay cfg env s (BigEndian.uint32 data) (BigEndian.uint32 (data.drop 4)) data =
      some (s.queueRelay cfg env data) := by
  unfold queueRelay Server.queueRelay enqueueRelay Server.enqueueRelay
  simp only [sliceFrom_eq h, getPayload_eq, relayQueueFor_eq, Option.bind_eq_bind,
    Option.bind_some]
  split_ifs <;> rfl

theorem dispatchRelay_eq (src : RelaySourceKey) : dispatchRelay cfg env now s data src =
    some (s.dispatchRelay cfg env now data src) := by
  unfold dispatchRelay Server.dispatchRelay
  by_cases hlen : data.length < 8
  · rw [if_pos hlen, if_pos hlen]
  by_cases hopen : env.breakerOpen .relay = true
  · rw [if_neg hlen, if_neg hlen, if_pos hopen, if_pos hopen]
  rw [if_neg hlen, if_neg hlen, if_neg hopen, if_neg hopen]
  simp only [field32_eq (show 0 + 4 ≤ data.length by omega),
    field32_eq (show 4 + 4 ≤ data.length by omega), List.drop_zero,
    queueRelay_eq (show 8 ≤ data.length by omega), Option.bind_eq_bind, Option.bind_some]
  split_ifs <;> rfl

end

/-! ## Sync -/

/-- One round of the loop that parses node ids. -/
def readID (data : Bytes) (nodeIDs : List UInt32) (i : Nat) : Option (List UInt32) := do
  let id ← field32 data (6 + 4 * i)
  store nodeIDs i id

/-- `for i := 0; i < int(nodeCount); i++` -/
def readIDs (data : Bytes) (nodeCount : Nat) : Option (List UInt32) :=
  (List.range nodeCount).foldlM (readID data) (List.replicate nodeCount 0)

def handleSync (cfg : Config) (now : Int) (s : Server) (data : Bytes) (remote : UDPAddr) :
    Option Server :=
  if data.length < 6 then some s
  else if cfg.strictGossip && !s.isKnownGossipPeer remote then some s
  else do
    -- the peer's beacon id is logged only
    let _ ← field32 data 0
    let nodeCount ← field16 data 4
    if data.length < 6 + 4 * nodeCount.toNat then some s
    else
      let nodeIDs ← readIDs data nodeCount.toNat
      some (s.publishRoutes nodeIDs remote now)

section

variable {cfg : Config} {env : Env} {now : Int} {s : Server} {data : Bytes} {remote : UDPAddr}
  {bridgePeer : UInt32}

/-- The loop after `k` rounds: the first `k` ids are read, the rest is still zero. -/
theorem foldlM_readID {n k : Nat} (hk : k ≤ n) (hlen : 6 + 4 * n ≤ data.length) :
    (List.range k).foldlM (readID data) (List.replicate n 0) =
      some (fill (BigEndian.uint32s k (data.drop 6)) (List.replicate n 0)) := by
  induction k with
  | zero => rfl
  | succ k ih =>
    have hround : readID data (fill (BigEndian.uint32s k (data.drop 6)) (List.replicate n 0)) k =
        some (fill (BigEndian.uint32s (k + 1) (data.drop 6)) (List.replicate n 0)) := by
      rw [readID, field32_eq (by omega), Option.bind_eq_bind, Option.bind_some,
        BigEndian.uint32s_succ, List.drop_drop]
      exact store_fill (BigEndian.length_uint32s _ _) (by rw [List.length_replicate]; omega)
    rw [List.range_succ, List.foldlM_append, ih (by omega), Option.bind_eq_bind, Option.bind_some,
      List.foldlM_cons, hround]
    rfl

theorem readIDs_eq {n : Nat} (hlen : 6 + 4 * n ≤ data.length) :
    readIDs data n = some (BigEndian.uint32s n (data.drop 6)) := by
  rw [readIDs, foldlM_readID (Nat.le_refl n) hlen,
    fill_full (by rw [List.length_replicate, BigEndian.length_uint32s])]

theorem handleSync_eq : handleSync cfg now s data remote =
    some (s.handleSync cfg now data remote) := by
  unfold handleSync Server.handleSync
  by_cases h6 : data.length < 6
  · rw [if_pos h6, if_pos h6]
  by_cases hgate : (cfg.strictGossip && !s.isKnownGossipPeer remote) = true
  · rw [if_neg h6, if_neg h6, if_pos hgate, if_pos hgate]
  rw [if_neg h6, if_neg h6, if_neg hgate, if_neg hgate]
  simp only [field32_eq (show 0 + 4 ≤ data.length by omega),
    field16_eq (show 4 + 2 ≤ data.length by omega), Option.bind_eq_bind, Option.bind_some]
  by_cases hshort : data.length < 6 + 4 * (BigEndian.uint16 (data.drop 4)).toNat
  · rw [if_pos hshort, if_pos hshort]
  · rw [if_neg hshort, if_neg hshort, readIDs_eq (Nat.le_of_not_lt hshort), Option.bind_some]

/-! ## Dispatch -/

def handlePacketFrom (cfg : Config) (env : Env) (now : Int) (s : Server) (data : Bytes)
    (remote : UDPAddr) (bridgePeer : UInt32) : Option (Server × List Datagram) :=
  if data.length = 0 then some (s, [])
  else do
    let msgType ← index data 0
    if msgType = cfg.proto.beaconMsgDiscover then
      let body ← sliceFrom data 1
      handleDiscover cfg env now s body remote false
    else if msgType = cfg.proto.beaconMsgDiscoverEx then
      let body ← sliceFrom data 1
      handleDiscover cfg env now s body remote true
    else if msgType = cfg.proto.beaconMsgPunchRequest then
      let body ← sliceFrom data 1
      handlePunchRequest cfg env now s body remote
    else if msgType = cfg.proto.beaconMsgRelay then
      let body ← sliceFrom data 1
      let src ← relaySource remote bridgePeer
      (dispatchRelay cfg env now s body src).map fun r => (r.1, [])
    else if msgType = cfg.proto.beaconMsgSync then
      let body ← sliceFrom data 1
      (handleSync cfg now s body remote).map fun s => (s, [])
    else some (s, [])

/-- **No datagram panics the beacon.** -/
theorem handlePacketFrom_eq : handlePacketFrom cfg env now s data remote bridgePeer =
    some (s.handlePacketFrom cfg env now data remote bridgePeer) := by
  cases data with
  | nil => rfl
  | cons msgType body =>
    have hindex : index (msgType :: body) 0 = some msgType := rfl
    have hbody : sliceFrom (msgType :: body) 1 = some body := by
      rw [sliceFrom_eq (by simp)]
      rfl
    unfold handlePacketFrom Server.handlePacketFrom Protocol.decode
    rw [if_neg (by simp)]
    simp only [hindex, hbody, relaySource_eq, handleDiscover_eq, handlePunchRequest_eq,
      dispatchRelay_eq, handleSync_eq, Option.bind_eq_bind, Option.bind_some, Option.map_some]
    split_ifs <;> rfl

end

/-! ## The frames of a worker -/

/-- `[type][sender(4)][payload]`, built in the memory of an output buffer. -/
def deliverFrame (msgType : UInt8) (mem : Bytes) (senderID : UInt32) (payload : Bytes) :
    Option Bytes := do
  let outBuf ← slice mem 0 (1 + 4 + payload.length)
  let outBuf ← store outBuf 0 msgType
  let outBuf ← putUint32 outBuf 1 5 senderID
  copyTo outBuf 5 outBuf.length payload

/-- `[type][sender(4)][dest(4)][payload]` -/
def destFrame (msgType : UInt8) (mem : Bytes) (senderID destID : UInt32) (payload : Bytes) :
    Option Bytes := do
  let outBuf ← slice mem 0 (1 + 4 + 4 + payload.length)
  let outBuf ← store outBuf 0 msgType
  let outBuf ← putUint32 outBuf 1 5 senderID
  let outBuf ← putUint32 outBuf 5 9 destID
  copyTo outBuf 9 outBuf.length payload

section

variable {msgType : UInt8} {mem payload : Bytes} {senderID destID : UInt32}

/-- The frame is built if it fits the buffer; if not, slicing the buffer panics. -/
theorem deliverFrame_eq : deliverFrame msgType mem senderID payload =
    if 5 + payload.length ≤ mem.length then
      some (msgType :: (BigEndian.putUint32 senderID ++ payload))
    else none := by
  unfold deliverFrame
  by_cases hfit : 5 + payload.length ≤ mem.length
  · rw [if_pos hfit]
    obtain ⟨out, hout⟩ : ∃ out, out = mem.take (5 + payload.length) := ⟨_, rfl⟩
    have hlen : out.length = 5 + payload.length := by rw [hout, List.length_take_of_le hfit]
    have hslice : slice mem 0 (1 + 4 + payload.length) = some out := by
      rw [slice_eq (Nat.zero_le _) hfit, hout]
      rfl
    -- each write is right behind the one before, the last one fills the frame
    have h0 : store out 0 msgType = some (fill [msgType] out) :=
      store_fill (a := []) rfl (by omega)
    have h1 : putUint32 (fill [msgType] out) 1 5 senderID =
        some (fill ([msgType] ++ BigEndian.putUint32 senderID) out) :=
      putUint32_fill rfl (Nat.le_refl 5) (by omega)
    have h5 := copyTo_last (a := [msgType] ++ BigEndian.putUint32 senderID) (by simp) hlen
    simp only [hslice, h0, h1, h5, Option.bind_eq_bind, Option.bind_some]
    simp
  · rw [if_neg hfit, slice, if_neg (by omega)]
    rfl

theorem destFrame_eq : destFrame msgType mem senderID destID payload =
    if 9 + payload.length ≤ mem.length then
      some (msgType :: (BigEndian.putUint32 senderID ++ BigEndian.putUint32 destID ++ payload))
    else none := by
  unfold destFrame
  by_cases hfit : 9 + payload.length ≤ mem.length
  · rw [if_pos hfit]
    obtain ⟨out, hout⟩ : ∃ out, out = mem.take (9 + payload.length) := ⟨_, rfl⟩
    have hlen : out.length = 9 + payload.length := by rw [hout, List.length_take_of_le hfit]
    have hslice : slice mem 0 (1 + 4 + 4 + payload.length) = some out := by
      rw [slice_eq (Nat.zero_le _) hfit, hout]
      rfl
    have h0 : store out 0 msgType = some (fill [msgType] out) :=
      store_fill (a := []) rfl (by omega)
    have h1 : putUint32 (fill [msgType] out) 1 5 senderID =
        some (fill ([msgType] ++ BigEndian.putUint32 senderID) out) :=
      putUint32_fill rfl (Nat.le_refl 5) (by omega)
    have h5 : putUint32 (fill ([msgType] ++ BigEndian.putUint32 senderID) out) 5 9 destID =
        some (fill ([msgType] ++ BigEndian.putUint32 senderID ++ BigEndian.putUint32 destID) out) :=
      putUint32_fill (by simp) (Nat.le_refl 9) (by omega)
    have h9 := copyTo_last
      (a := [msgType] ++ BigEndian.putUint32 senderID ++ BigEndian.putUint32 destID) (by simp) hlen
    simp only [hslice, h0, h1, h5, h9, Option.bind_eq_bind, Option.bind_some]
    simp
  · rw [if_neg hfit, slice, if_neg (by omega)]
    rfl

/-- A frame built in the memory of `buf` is what the model slices out of `buf`. -/
theorem deliverFrame_outSlice {cfg : Config} {buf : Buf} (hmem : mem.length = buf.cap) :
    deliverFrame cfg.proto.beaconMsgRelayDeliver mem senderID payload =
      (outSlice buf (deliverHeader cfg senderID) payload).map Slice.data := by
  have hlen : (deliverHeader cfg senderID ++ payload).length = 5 + payload.length := by
    simp [deliverHeader]
    omega
  rw [deliverFrame_eq, outSlice, hlen, hmem]
  split_ifs <;> rfl

theorem destFrame_outSlice {buf : Buf} (header : Bytes)
    (hheader : header = msgType :: (BigEndian.putUint32 senderID ++ BigEndian.putUint32 destID))
    (hmem : mem.length = buf.cap) :
    destFrame msgType mem senderID destID payload =
      (outSlice buf header payload).map Slice.data := by
  subst hheader
  have hlen : (msgType :: (BigEndian.putUint32 senderID ++ BigEndian.putUint32 destID) ++
      payload).length = 9 + payload.length := by
    simp
    omega
  rw [destFrame_eq, outSlice, hlen, hmem]
  split_ifs <;> rfl

end

/-- The frame of a job, by the tier of its destination; there is none for an unknown one. -/
def outgoingFrame (cfg : Config) (env : JobEnv) (s : Server) (job : RelayJob) (mem : Bytes) :
    Option (Option Bytes) :=
  if cfg.wssBridge && env.wssConnected then
    (deliverFrame cfg.proto.beaconMsgRelayDeliver mem job.senderID job.payload.data).map some
  else
    match s.route job.destID with
    | .localNode _ true =>
      (destFrame cfg.proto.beaconMsgRelayDeliverDest mem job.senderID job.destID
        job.payload.data).map some
    | .localNode _ false =>
      (deliverFrame cfg.proto.beaconMsgRelayDeliver mem job.senderID job.payload.data).map some
    | .peer _ =>
      (destFrame cfg.proto.beaconMsgRelay mem job.senderID job.destID job.payload.data).map some
    | .unknown => some none

/-- **The frame is built as the model says**, and its accesses are in range unless the job
    panics. -/
theorem outgoingFrame_eq {cfg : Config} {env : JobEnv} {s : Server} {job : RelayJob} {mem : Bytes}
    (hmem : mem.length = (s.jobBuffer env).cap) : outgoingFrame cfg env s job mem =
    match s.jobOutcome cfg env job with
    | .panics => none
    | .written frame => some (some frame)
    | .batched m => some (some m.buffer.data)
    | .discarded =>
      some (if cfg.wssBridge && env.wssConnected then
        some (deliverHeader cfg job.senderID ++ job.payload.data) else none) := by
  unfold outgoingFrame Server.jobOutcome
  by_cases hwss : (cfg.wssBridge && env.wssConnected) = true
  · rw [if_pos hwss, if_pos hwss, deliverFrame_outSlice hmem]
    cases hout : outSlice (s.jobBuffer env) (deliverHeader cfg job.senderID) job.payload.data with
    | none => rfl
    | some out =>
      dsimp only [Option.map_some]
      rw [Server.outSlice_eq_some hout]
      cases env.wssWrite with
      | true => rfl
      | false => rw [if_neg Bool.false_ne_true, if_pos hwss]
  · rw [if_neg hwss, if_neg hwss]
    cases s.route job.destID with
    | unknown =>
      dsimp only [Route.header]
      rw [if_neg hwss]
    | peer addr =>
      dsimp only [Route.header]
      rw [destFrame_outSlice (relayHeader cfg job.senderID job.destID) rfl hmem]
      cases outSlice (s.jobBuffer env) (relayHeader cfg job.senderID job.destID)
        job.payload.data <;> rfl
    | localNode addr wantDest =>
      cases wantDest with
      | true =>
        dsimp only [Route.header]
        rw [destFrame_outSlice (deliverDestHeader cfg job.senderID job.destID) rfl hmem]
        cases outSlice (s.jobBuffer env) (deliverDestHeader cfg job.senderID job.destID)
          job.payload.data <;> rfl
      | false =>
        dsimp only [Route.header]
        rw [deliverFrame_outSlice hmem]
        cases outSlice (s.jobBuffer env) (deliverHeader cfg job.senderID)
          job.payload.data <;> rfl

end PilotBeacon.Checked

namespace PilotBeacon

open PilotBeacon.Lib PilotBeacon.Net

/-- **The packet path stays in range.** In every reachable state: whatever datagram is handled,
    from whatever source, under whatever answers of breaker and key lookup, no access of the
    dispatch and the handlers is out of range, and `ed25519.Verify` gets a key of 32 bytes; nor
    is one of a worker that builds the frame of a queued job, whatever its buffer contains. All
    output buffers have room for the largest payload with the longest header, exactly, and no
    queued payload is larger. -/
theorem packet_path_in_range (cfg : Config) (peers : List Text) (es : List RelayEvent) :
    let s := Transition.run (relayNext cfg) (newWithPeers cfg peers) es
    (∀ env now data remote bridgePeer,
      Checked.handlePacketFrom cfg env now s data remote bridgePeer =
        some (s.handlePacketFrom cfg env now data remote bridgePeer)) ∧
    (∀ i, ∀ job ∈ s.relayChs i, ∀ (env : JobEnv) (mem : Bytes),
      mem.length = (s.jobBuffer env).cap →
        (Checked.outgoingFrame cfg env s job mem).isSome = true) ∧
    (∀ env : JobEnv, (s.jobBuffer env).cap = maxRelayPayload + 9) ∧
    (∀ b ∈ s.outBufPool.free, b.cap = maxRelayPayload + 9) ∧
    (∀ i, ∀ b ∈ (s.workers i).outBufsToReturn, b.cap = maxRelayPayload + 9) ∧
    (∀ i, ∀ job ∈ s.relayChs i, job.payload.data.length ≤ maxRelayPayload) := by
  intro s
  have hexact : Server.BuffersSized (· = maxRelayPayload + 9) s :=
    @buffersSized_run cfg peers (· = maxRelayPayload + 9) rfl es
  refine ⟨fun env now data remote bridgePeer => Checked.handlePacketFrom_eq, ?_,
    hexact.jobBuffer rfl, hexact.free, hexact.lent, hexact.queued⟩
  intro i job hjob env mem hmem
  have hsafe : s.jobOutcome cfg env job ≠ .panics :=
    Server.jobOutcome_ne_panics (buffersFit_run cfg peers es) (hexact.queued i job hjob)
  rw [Checked.outgoingFrame_eq hmem]
  cases hj : s.jobOutcome cfg env job with
  | panics => exact absurd hj hsafe
  | _ => rfl

end PilotBeacon

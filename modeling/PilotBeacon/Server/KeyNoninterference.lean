import PilotBeacon.Lib.Simulation
import PilotBeacon.Server.Beacon

/-!
# No Influence of Carried Keys

Anybody can send a Discover for any node, and with it a key. Once an authoritative key lookup is
installed, such keys are still stored, and removed with the node, but nothing reads them: two runs
that differ in them only are the same run to everybody outside.

- `KeyedEvent.SameButKey`: the same event, up to what a Discover carries behind the node id
- `step_withKeys`: what one step makes of other keys
- `keys_unseen`: two whole runs
-/

namespace PilotBeacon

open PilotBeacon.Lib PilotBeacon.Net

/-! ## Two runs -/

/-- An event, and what the authoritative key lookup answers while it is handled. -/
structure KeyedEvent where
  lookup : UInt32 → Option Bytes
  event : Event

/-- A step with the lookup installed. -/
def keyedStep (cfg : Config) (s : Server) (k : KeyedEvent) : Server × List Output :=
  step { cfg with authKeyLookup := some k.lookup } s k.event

/-- The state after a run with the lookup installed. -/
def keyedRun (cfg : Config) (peers : List Text) (ks : List KeyedEvent) : Server :=
  Transition.run (Simulation.next (keyedStep cfg)) (newWithPeers cfg peers) ks

/-- Equal datagrams, or Discovers of the same type that agree in the first four bytes of the
    body. -/
def SameButKey (p : Protocol) (data data' : Bytes) : Prop :=
  data = data' ∨
    (data.head? = some p.beaconMsgDiscover ∨ data.head? = some p.beaconMsgDiscoverEx) ∧
      data.take 5 = data'.take 5

instance (p : Protocol) (data data' : Bytes) : Decidable (SameButKey p data data') :=
  inferInstanceAs (Decidable (_ ∨ _))

/-- The same happens, up to the keys in datagrams. -/
def Act.SameButKey (p : Protocol) : Act → Act → Prop
  | .packet env data remote bridgePeer, .packet env' data' remote' bridgePeer' =>
    env = env' ∧ PilotBeacon.SameButKey p data data' ∧ remote = remote' ∧ bridgePeer = bridgePeer'
  | act, act' => act = act'

/-- The same event, up to the keys in datagrams. -/
structure KeyedEvent.SameButKey (p : Protocol) (k k' : KeyedEvent) : Prop where
  lookup : k'.lookup = k.lookup
  now : k'.event.now = k.event.now
  act : k.event.act.SameButKey p k'.event.act

/-- What two runs have in common if keys have no influence. -/
structure KeysUnseen (cfg : Config) (peers : List Text) (ks ks' : List KeyedEvent) : Prop where
  /-- Each step sends the same. -/
  sent : Simulation.answers (keyedStep cfg) (newWithPeers cfg peers) ks' =
    Simulation.answers (keyedStep cfg) (newWithPeers cfg peers) ks
  /-- All state but the keys is the same. -/
  state : ∃ keys, keyedRun cfg peers ks' = { keyedRun cfg peers ks with nodePubKeys := keys }
  /-- Every grant is decided the same way. -/
  grants : ∀ lookup now trailer requesterID targetID,
    (keyedRun cfg peers ks').verifyPunchGrant { cfg with authKeyLookup := some lookup } now trailer
        requesterID targetID =
      (keyedRun cfg peers ks).verifyPunchGrant { cfg with authKeyLookup := some lookup } now trailer
        requesterID targetID

namespace Server

/-- The server with other keys. -/
abbrev withKeys (s : Server) (keys : FiniteMap UInt32 Bytes) : Server :=
  { s with nodePubKeys := keys }

section

variable {cfg : Config} (env : Env) (now : Int) (s : Server) (keys : FiniteMap UInt32 Bytes)

/-! ## What reads no keys -/

theorem enqueueRelay_withKeys (job : RelayJob) :
    (s.withKeys keys).enqueueRelay cfg job =
      ((s.enqueueRelay cfg job).1.withKeys keys, (s.enqueueRelay cfg job).2) := by
  unfold enqueueRelay
  dsimp only [withKeys]
  split_ifs <;> rfl

theorem queueRelay_withKeys (data : Bytes) :
    (s.withKeys keys).queueRelay cfg env data =
      ((s.queueRelay cfg env data).1.withKeys keys, (s.queueRelay cfg env data).2) := by
  unfold queueRelay
  dsimp only
  split_ifs
  · rfl
  · exact enqueueRelay_withKeys
      { s with pool := (s.pool.getPayload env.poolPick (data.drop 8).length).2 } keys _

theorem dispatchRelay_withKeys (data : Bytes) (src : RelaySourceKey) :
    (s.withKeys keys).dispatchRelay cfg env now data src =
      ((s.dispatchRelay cfg env now data src).1.withKeys keys,
        (s.dispatchRelay cfg env now data src).2) := by
  have hknown : (s.withKeys keys).relayKnown cfg env = s.relayKnown cfg env := rfl
  unfold dispatchRelay
  rw [hknown]
  dsimp only [withKeys]
  split_ifs
  · rfl
  · rfl
  · rfl
  · rfl
  · exact queueRelay_withKeys env
      { s with relayRL := (s.relayRL.allow src now maxRelaysPerSourcePerSecond).2 } keys data

theorem handleSync_withKeys (data : Bytes) (remote : UDPAddr) :
    (s.withKeys keys).handleSync cfg now data remote =
      (s.handleSync cfg now data remote).withKeys keys := by
  have hknown : (s.withKeys keys).isKnownGossipPeer remote = s.isKnownGossipPeer remote := rfl
  unfold handleSync
  rw [hknown]
  dsimp only
  split_ifs <;> rfl

theorem sweepStaleGossip_withKeys (cutoff : Int) :
    (s.withKeys keys).sweepStaleGossip cutoff = (s.sweepStaleGossip cutoff).withKeys keys := by
  unfold sweepStaleGossip
  dsimp only [withKeys]
  split_ifs <;> rfl

theorem notifyNode_withKeys (nodeID : UInt32) :
    (s.withKeys keys).notifyNode nodeID now =
      ((s.notifyNode nodeID now).1.withKeys keys, (s.notifyNode nodeID now).2) := by
  unfold notifyNode
  dsimp only [withKeys]
  split_ifs
  · rfl
  · split <;> rfl

theorem registryDiscover_withKeys (x : Exchange) :
    (s.withKeys keys).registryDiscover cfg x = (s.registryDiscover cfg x).withKeys keys := by
  have hopen : (s.withKeys keys).exchangeOpen cfg x = s.exchangeOpen cfg x := rfl
  unfold registryDiscover
  rw [hopen]
  split_ifs
  · rfl
  · split <;> rfl

theorem flush_withKeys (o : FlushOutcome) (i : Nat) :
    (s.withKeys keys).flush o i = ((s.flush o i).1.withKeys keys, (s.flush o i).2) := by
  have hdual : (s.withKeys keys).sendDualStack = s.sendDualStack := rfl
  unfold flush
  rw [hdual]
  dsimp only [withKeys]
  split_ifs <;> rfl

theorem addMessage_withKeys (o : FlushOutcome) (i : Nat) (m : Message) (payload : Buf) :
    (s.withKeys keys).addMessage o i m payload =
      ((s.addMessage o i m payload).1.withKeys keys, (s.addMessage o i m payload).2) := by
  unfold addMessage
  dsimp only [withKeys]
  split_ifs
  · exact flush_withKeys (s.setWorker i
      { s.workers i with
        msgs := (s.workers i).msgs ++ [m]
        payloadsToReturn := (s.workers i).payloadsToReturn ++ [payload]
        outBufsToReturn := (s.workers i).outBufsToReturn ++ [m.buffer.buf]
        timerActive := false }) keys o i
  · rfl

theorem handleJob_withKeys (jobEnv : JobEnv) (o : FlushOutcome) (i : Nat) (job : RelayJob) :
    (s.withKeys keys).handleJob cfg jobEnv o i job =
      ((s.handleJob cfg jobEnv o i job).1.withKeys keys, (s.handleJob cfg jobEnv o i job).2) := by
  have hroute : ∀ pool, Server.route { s.withKeys keys with outBufPool := pool } job.destID =
      Server.route { s with outBufPool := pool } job.destID := fun _ => rfl
  unfold handleJob
  dsimp only
  split_ifs
  · unfold sendWSS
    dsimp only [withKeys]
    split
    · rfl
    · split_ifs <;> rfl
  · unfold sendUDP
    rw [hroute]
    split
    · rfl
    · split
      · rfl
      · exact congrArg (fun r : Server × List Message => (r.1, r.2.map Sent.udp))
          (addMessage_withKeys
            { s with outBufPool := (s.outBufPool.get jobEnv.outPick (maxRelayPayload + 9)).2 }
            keys o i _ _)

theorem workerStep_withKeys (i : Nat) (ev : WorkerEvent) :
    (s.withKeys keys).workerStep cfg i ev =
      ((s.workerStep cfg i ev).1.withKeys keys, (s.workerStep cfg i ev).2) := by
  cases ev with
  | job jobEnv o =>
    unfold workerStep
    dsimp only
    split_ifs
    · rfl
    · cases s.relayChs i with
      | nil => rfl
      | cons job rest =>
        exact handleJob_withKeys { s with relayChs := Function.update s.relayChs i rest } keys
          jobEnv o i job
  | timer o =>
    unfold workerStep
    dsimp only
    split_ifs
    · rfl
    · exact congrArg (fun r : Server × List Message => (r.1, r.2.map Sent.udp))
        (flush_withKeys (s.setWorker i { s.workers i with timerActive := false }) keys o i)
    · rfl
  | done o =>
    unfold workerStep
    dsimp only
    split_ifs
    · rfl
    · exact congrArg (fun r : Server × List Message =>
        (r.1.setWorker i { r.1.workers i with stopped := true }, r.2.map Sent.udp))
        (flush_withKeys s keys o i)
    · rfl

/-! ## What reads the keys -/

variable {lookup : UInt32 → Option Bytes} (hlookup : cfg.authKeyLookup = some lookup)

include hlookup in
/-- With the lookup installed, stored keys decide no grant. -/
theorem verifyPunchGrant_withKeys (trailer : Bytes) (requesterID targetID : UInt32) :
    (s.withKeys keys).verifyPunchGrant cfg now trailer requesterID targetID =
      s.verifyPunchGrant cfg now trailer requesterID targetID := by
  have hkey : (s.withKeys keys).targetPubKey cfg targetID = s.targetPubKey cfg targetID := by
    unfold targetPubKey
    rw [hlookup]
  unfold verifyPunchGrant
  rw [hkey]

theorem punchGuard_withKeys (sourceKey : Text) :
    (s.withKeys keys).punchGuard cfg now sourceKey =
      (s.punchGuard cfg now sourceKey).map (withKeys · keys) := by
  unfold punchGuard
  dsimp only
  split_ifs <;> rfl

theorem coordinatePunch_withKeys (requesterID targetID : UInt32) (remote : UDPAddr) :
    (s.withKeys keys).coordinatePunch cfg now requesterID targetID remote =
      ((s.coordinatePunch cfg now requesterID targetID remote).1.withKeys keys,
        (s.coordinatePunch cfg now requesterID targetID remote).2) := by
  unfold coordinatePunch
  dsimp only
  split <;> rfl

include hlookup in
theorem handlePunchRequest_withKeys (data : Bytes) (remote : UDPAddr) :
    (s.withKeys keys).handlePunchRequest cfg env now data remote =
      ((s.handlePunchRequest cfg env now data remote).1.withKeys keys,
        (s.handlePunchRequest cfg env now data remote).2) := by
  unfold handlePunchRequest
  rw [punchGuard_withKeys]
  split_ifs
  · rfl
  · rfl
  · cases s.punchGuard cfg now remote.ip.string with
    | none => rfl
    | some s' =>
      dsimp only [Option.map_some]
      rw [verifyPunchGrant_withKeys now s' keys hlookup]
      split_ifs
      · rfl
      · exact coordinatePunch_withKeys now s' keys _ _ _

/-! ## What writes the keys -/

/-- Two Discovers of one node leave the same behind, up to keys, and get the same reply. -/
theorem handleDiscover_withKeys {data data' : Bytes} (h : data.take 4 = data'.take 4)
    (remote : UDPAddr) (wantDest : Bool) :
    ∃ keys', (s.withKeys keys).handleDiscover cfg env now data' remote wantDest =
      ((s.handleDiscover cfg env now data remote wantDest).1.withKeys keys',
        (s.handleDiscover cfg env now data remote wantDest).2) := by
  have hid : BigEndian.uint32 data' = BigEndian.uint32 data := by
    rw [BigEndian.uint32, BigEndian.uint32, h]
  have hadm : discoverAdmitted env data' = discoverAdmitted env data := by
    have hlen := congrArg List.length h
    rw [List.length_take, List.length_take] at hlen
    have : data'.length < 4 ↔ data.length < 4 := by omega
    simp only [discoverAdmitted, this]
  have hreply : ((s.withKeys keys).handleDiscover cfg env now data' remote wantDest).2 =
      (s.handleDiscover cfg env now data remote wantDest).2 := by
    rw [handleDiscover_reply, handleDiscover_reply, hid, hadm]
    rfl
  suffices ∃ keys', ((s.withKeys keys).handleDiscover cfg env now data' remote wantDest).1 =
      (s.handleDiscover cfg env now data remote wantDest).1.withKeys keys' by
    obtain ⟨keys', hstate⟩ := this
    exact ⟨keys', Prod.ext hstate hreply⟩
  rw [handleDiscover_state, handleDiscover_state, hid, hadm]
  cases discoverAdmitted env data with
  | false => exact ⟨keys, rfl⟩
  | true => exact ⟨_, rfl⟩

/-- The reaper removes keys and goes by the node table. -/
theorem reapStaleNodes_withKeys :
    ∃ keys', (s.withKeys keys).reapStaleNodes now = (s.reapStaleNodes now).withKeys keys' := by
  have hswept := sweepStaleGossip_withKeys
    { s with
      nodes := (s.nodes.reapStale (now - beaconNodeTTL)).1
      punchRL := s.punchRL.sweep (now - punchRateCleanupInterval)
      relayRL := s.relayRL.sweep (now - relaySourceCleanupInterval)
      discoverRL := s.discoverRL.sweep (now - discoverMinInterval * 2) } keys (now - gossipPeerTTL)
  refine ⟨FiniteMap.filter (fun id _ => (s.reapStaleNodes now).nodes.has id) keys, ?_⟩
  exact congrArg (fun t : Server => { t with
    nodePubKeys := FiniteMap.filter (fun id _ => t.nodes.has id) t.nodePubKeys
    dstNodes := FiniteMap.filter (fun id _ => t.nodes.has id) t.dstNodes }) hswept

end

end Server

/-! ## Steps -/

section

variable {cfg : Config} {lookup : UInt32 → Option Bytes}

/-- What the two datagrams are decoded to. -/
theorem SameButKey.decode {p : Protocol} {data data' : Bytes} (h : SameButKey p data data') :
    data = data' ∨ ∃ body body' wantDest, p.decode data = .discover body wantDest ∧
      p.decode data' = .discover body' wantDest ∧ body.take 4 = body'.take 4 := by
  rcases h with h | ⟨htype, htake⟩
  · exact Or.inl h
  · right
    cases data with
    | nil => simp at htype
    | cons msgType body =>
      cases data' with
      | nil => simp at htake
      | cons msgType' body' =>
        simp only [List.take_succ_cons, List.cons.injEq] at htake
        obtain ⟨rfl, htake⟩ := htake
        simp only [List.head?_cons, Option.some.injEq] at htype
        rcases htype with rfl | rfl
        · exact ⟨body, body', false, (p.decode_cons body).1, (p.decode_cons body').1, htake⟩
        · exact ⟨body, body', true, (p.decode_cons body).2.1, (p.decode_cons body').2.1, htake⟩

/-- A datagram on top of other keys. -/
theorem handlePacketFrom_withKeys (hlookup : cfg.authKeyLookup = some lookup) (env : Env)
    (now : Int) (s : Server) (keys : FiniteMap UInt32 Bytes) {data data' : Bytes}
    (hdata : SameButKey cfg.proto data data') (remote : UDPAddr) (bridgePeer : UInt32) :
    ∃ keys', (s.withKeys keys).handlePacketFrom cfg env now data' remote bridgePeer =
      ((s.handlePacketFrom cfg env now data remote bridgePeer).1.withKeys keys',
        (s.handlePacketFrom cfg env now data remote bridgePeer).2) := by
  unfold Server.handlePacketFrom
  rcases hdata.decode with rfl | ⟨body, body', wantDest, hdec, hdec', htake⟩
  · cases cfg.proto.decode data with
    | discover body wantDest => exact s.handleDiscover_withKeys env now keys rfl remote wantDest
    | punchRequest body =>
      exact ⟨keys, s.handlePunchRequest_withKeys env now keys hlookup body remote⟩
    | relay body =>
      exact ⟨keys, congrArg (fun r : Server × RelayFate => (r.1, []))
        (s.dispatchRelay_withKeys env now keys body (relaySource remote bridgePeer))⟩
    | sync body =>
      exact ⟨keys, congrArg (fun t : Server => (t, []))
        (s.handleSync_withKeys now keys body remote)⟩
    | other => exact ⟨keys, rfl⟩
  · simp only [hdec, hdec']
    exact s.handleDiscover_withKeys env now keys htake remote wantDest

/-- **A step with other keys** does the same up to keys. -/
theorem step_withKeys (hlookup : cfg.authKeyLookup = some lookup) (now : Int) (s : Server)
    (keys : FiniteMap UInt32 Bytes) {act act' : Act} (hact : act.SameButKey cfg.proto act') :
    ∃ keys', step cfg (s.withKeys keys) ⟨now, act'⟩ =
      ((step cfg s ⟨now, act⟩).1.withKeys keys', (step cfg s ⟨now, act⟩).2) := by
  cases act with
  | packet env data remote bridgePeer =>
    cases act' with
    | packet env' data' remote' bridgePeer' =>
      obtain ⟨rfl, hdata, rfl, rfl⟩ := hact
      obtain ⟨keys', h⟩ :=
        handlePacketFrom_withKeys hlookup env now s keys hdata remote bridgePeer
      exact ⟨keys', congrArg (fun r : Server × List Datagram => (r.1, r.2.map Output.udp)) h⟩
    | _ => nomatch hact
  | listen addr => cases hact; exact ⟨keys, rfl⟩
  | worker i ev =>
    cases hact
    exact ⟨keys, congrArg (fun r : Server × List Sent => (r.1, r.2.map Output.relayed))
      (s.workerStep_withKeys keys i ev)⟩
  | reap =>
    cases hact
    obtain ⟨keys', h⟩ := s.reapStaleNodes_withKeys now keys
    exact ⟨keys', congrArg (fun t : Server => (t, [])) h⟩
  | gossip order => cases hact; exact ⟨keys, rfl⟩
  | notify nodeID =>
    cases hact
    exact ⟨keys, congrArg (fun r : Server × List Datagram × Option NotifyError =>
      (r.1, r.2.1.map Output.udp)) (s.notifyNode_withKeys now keys nodeID)⟩
  | registry x =>
    cases hact
    exact ⟨keys, congrArg (fun t : Server => (t, (s.registryRequests cfg x).map Output.registry))
      (s.registryDiscover_withKeys keys x)⟩
  | close => cases hact; exact ⟨keys, rfl⟩

end

/-! ## Runs -/

section

variable (cfg : Config)

/-- Steps on events that differ in keys keep states equal up to keys, and send the same. -/
theorem keyedStep_simulates :
    Simulation.Simulates (keyedStep cfg) (keyedStep cfg) (KeyedEvent.SameButKey cfg.proto) Eq
      fun s s' => ∃ keys, s' = s.withKeys keys := by
  have hstep : ∀ {s : Server} {keys : FiniteMap UInt32 Bytes} {k k' : KeyedEvent},
      k.SameButKey cfg.proto k' → ∃ keys', keyedStep cfg (s.withKeys keys) k' =
        ((keyedStep cfg s k).1.withKeys keys', (keyedStep cfg s k).2) := by
    rintro s keys ⟨lookup, now, act⟩ ⟨lookup', now', act'⟩ ⟨hlookup, hnow, hact⟩
    cases hlookup
    cases hnow
    have hinstalled : { cfg with authKeyLookup := some lookup }.authKeyLookup = some lookup := rfl
    exact step_withKeys hinstalled now s keys hact
  constructor
  · rintro s s' k k' ⟨keys, rfl⟩ hk
    obtain ⟨keys', h⟩ := hstep hk
    exact ⟨keys', congrArg Prod.fst h⟩
  · rintro s s' k k' ⟨keys, rfl⟩ hk
    obtain ⟨keys', h⟩ := hstep hk
    exact (congrArg Prod.snd h).symm

/-- **Carried keys have no influence.** Two runs with the lookup installed throughout, on events
    that are the same up to what Discovers carry behind the node id, send the same step by step
    and are in the same state up to the stored keys; every grant is decided alike. -/
theorem keys_unseen (peers : List Text) {ks ks' : List KeyedEvent}
    (h : List.Forall₂ (KeyedEvent.SameButKey cfg.proto) ks ks') : KeysUnseen cfg peers ks ks' := by
  have hstart : ∃ keys, newWithPeers cfg peers = (newWithPeers cfg peers).withKeys keys := ⟨∅, rfl⟩
  obtain ⟨keys, hstate⟩ := (keyedStep_simulates cfg).run hstart h
  constructor
  · exact (List.forall₂_eq_eq_eq ▸ (keyedStep_simulates cfg).answers hstart h).symm
  · exact ⟨keys, hstate⟩
  · intro lookup now trailer requesterID targetID
    have hinstalled : { cfg with authKeyLookup := some lookup }.authKeyLookup = some lookup := rfl
    rw [← (keyedRun cfg peers ks).verifyPunchGrant_withKeys now keys hinstalled]
    exact congrArg (fun t : Server => t.verifyPunchGrant _ now trailer requesterID targetID) hstate

end

/-- A Discover of node 7 with a key. -/
def keyCarried (key : UInt8) : List KeyedEvent :=
  [⟨fun _ => none, ⟨0, .listen (sampleAddr 0 0 0 0 9001)⟩⟩,
    ⟨fun _ => none, sampleDatagram second (sampleAddr 10 0 0 1 4000)
      (0x01 :: BigEndian.putUint32 7 ++ List.replicate publicKeySize key)⟩]

theorem keyCarried_unseen :
    KeysUnseen sampleConfig [] (keyCarried 1) (keyCarried 2) ∧
      (keyedRun sampleConfig [] (keyCarried 1)).nodePubKeys.lookup 7 ≠
        (keyedRun sampleConfig [] (keyCarried 2)).nodePubKeys.lookup 7 := by
  refine ⟨keys_unseen sampleConfig [] (.cons ⟨rfl, rfl, rfl⟩ (.cons ⟨rfl, rfl, ?_⟩ .nil)), ?_⟩
  · exact ⟨rfl, by decide, rfl, rfl⟩
  · decide +kernel

end PilotBeacon

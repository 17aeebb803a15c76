import PilotBeacon.Server.Beacon

/-!
# Punch Authorization

With `requirePunchToken` on and no authoritative key lookup, endpoints are released only on
a grant signed under the key the target itself bound first.

- `keyEvents`: the Discovers that offer a key for a node and the reaps that find it
  unregistered, along a run
- `lookup_nodePubKeys_run`: the key table is a function of that history
- `punch_authorized`: what every emitted PunchCommand rests on
-/

namespace PilotBeacon

open PilotBeacon.Lib PilotBeacon.Net

/-! ## The history of a node's key -/

/-- What bears on the key bound to a node. -/
inductive KeyEvent where
  | offer (key : Bytes)
  | unregistered
deriving DecidableEq

/-- Admitted Discovers of `id` with at least 32 trailing bytes offer a key; a reap after whose
    sweep of the node table `id` is not registered drops it. -/
def keyEvent (cfg : Config) (id : UInt32) (s : Server) (e : Event) : List KeyEvent :=
  match e.act with
  | .packet env data _ _ =>
    match cfg.proto.decode data with
    | .discover body _ =>
      if Server.discoverAdmitted env body = true ∧ BigEndian.uint32 body = id ∧
          4 + publicKeySize ≤ body.length then [.offer ((body.drop 4).take publicKeySize)]
      else []
    | _ => []
  | .reap => if (s.reapStaleNodes e.now).nodes.has id then [] else [.unregistered]
  | _ => []

def keyEvents (cfg : Config) (id : UInt32) (s : Server) (es : List Event) : List KeyEvent :=
  Transition.observe (next cfg) (keyEvent cfg id) s es

/-- The key after one more event: the first offer wins, until the node is gone. -/
def keyAfter (key : Option Bytes) : KeyEvent → Option Bytes
  | .offer k => some (key.getD k)
  | .unregistered => none

/-- `key` is the earliest offer since the last time the node was found unregistered, or since
    the start. -/
def EarliestKey (hist : List KeyEvent) (key : Bytes) : Prop :=
  ∃ before after, hist = before ++ .offer key :: after ∧ .unregistered ∉ after ∧
    (before = [] ∨ before.getLast? = some .unregistered)

/-- Folding the history finds the earliest key, and finds none if nothing was offered since
    the last time the node was found unregistered. -/
theorem foldl_keyAfter (hist : List KeyEvent) :
    match hist.foldl keyAfter none with
    | some key => EarliestKey hist key
    | none => hist = [] ∨ hist.getLast? = some .unregistered := by
  -- on the last event: `keyAfter` looks at nothing earlier
  induction hist using List.reverseRecOn with
  | nil => exact Or.inl rfl
  | append_singleton hist ev ih =>
    rw [List.foldl_append, List.foldl_cons, List.foldl_nil]
    cases ev with
    | unregistered => exact Or.inr (by simp)
    | offer k =>
      -- an offer counts only if there is no key yet
      cases hkey : hist.foldl keyAfter none with
      | none =>
        rw [hkey] at ih
        exact ⟨hist, [], rfl, by simp, ih⟩
      | some key =>
        rw [hkey] at ih
        obtain ⟨before, after, rfl, hafter, hbefore⟩ := ih
        exact ⟨before, after ++ [.offer k], by simp, by simp [hafter], hbefore⟩

section

variable {cfg : Config} {id : UInt32} {s : Server} {e : Event}

/-- The key table follows the history, one event at a time. -/
theorem lookup_nodePubKeys_next (cfg : Config) (id : UInt32) (s : Server) (e : Event) :
    (next cfg s e).nodePubKeys.lookup id =
      (keyEvent cfg id s e).foldl keyAfter (s.nodePubKeys.lookup id) := by
  have htables : (next cfg s e).nodePubKeys = (next cfg s e).tables.nodePubKeys := rfl
  rw [htables, next_tables]
  unfold keyEvent
  cases e.act with
  | packet env data remote bridgePeer =>
    dsimp only
    cases cfg.proto.decode data with
    | discover body wantDest =>
      dsimp only
      cases Server.discoverAdmitted env body with
      | false => rfl
      | true =>
        simp only [if_true, true_and, Server.noteDiscover]
        -- too few trailing bytes carry no key
        by_cases hlen : 4 + publicKeySize ≤ body.length
        · rw [if_pos hlen, FiniteMap.lookup_loadOrStore]
          by_cases hid : id = BigEndian.uint32 body
          · subst hid
            simp [hlen, keyAfter]
          · simp [hid, Ne.symm hid]
        · simp [hlen]
    | _ => rfl
  | reap =>
    apply (Server.lookup_nodePubKeys_reap id).trans
    dsimp only
    split_ifs <;> rfl
  | _ => rfl

theorem lookup_nodePubKeys_run (cfg : Config) (peers : List Text) (id : UInt32)
    (es : List Event) : (runFrom cfg peers es).nodePubKeys.lookup id =
      (keyEvents cfg id (newWithPeers cfg peers) es).foldl keyAfter none := by
  apply Transition.run_induction (next cfg) (s := newWithPeers cfg peers)
    (fun es s => s.nodePubKeys.lookup id =
      (keyEvents cfg id (newWithPeers cfg peers) es).foldl keyAfter none) rfl ?_ es
  intro es e ih
  rw [keyEvents, Transition.observe_concat, List.foldl_append, lookup_nodePubKeys_next]
  rw [ih]
  rfl

end

/-! ## Grants and commands -/

section

variable {cfg : Config} {now : Int} {s : Server} {remote : UDPAddr}

/-- What an accepted grant says, without an authoritative key lookup. -/
theorem verifyPunchGrant_sound {trailer : Bytes} {r t : UInt32} (hauth : cfg.authKeyLookup = none)
    (h : s.verifyPunchGrant cfg now trailer r t = true) :
    ∃ key, s.nodePubKeys.lookup t = some key ∧ punchGrantTrailerSize ≤ trailer.length ∧
      unixSecond now ≤ grantExpiry trailer ∧
      cfg.verify key (punchGrantPreimage r t (grantExpiry trailer))
        (grantSignature trailer) = true := by
  unfold Server.verifyPunchGrant Server.targetPubKey at h
  rw [hauth] at h
  split_ifs at h with hlen hexp
  split at h
  · cases h
  · rename_i key hkey
    split_ifs at h
    exact ⟨key, hkey, by omega, by omega, h⟩

/-- Nothing is sent before the socket is bound. -/
theorem sendPunchCommand_of_unbound (h : s.conn.isSome = false) (id : UInt32) (target : UDPAddr) :
    s.sendPunchCommand cfg id target = [] := by
  unfold Server.sendPunchCommand
  split
  · simp [Server.writeToUDP, h]
  · rfl

/-- Commands go out in pairs: the target's stored address to the requester, whose stored
    address is the source of the request, and that source to the target. A request that
    cannot be stored (its shard is full) emits nothing. -/
theorem coordinatePunch_commands {r t : UInt32}
    (h : (s.coordinatePunch cfg now r t remote).2 ≠ []) :
    ∃ target, (s.coordinatePunch cfg now r t remote).1.nodes.snapshot t = some target ∧
      (s.coordinatePunch cfg now r t remote).2 =
        ((addrMessage cfg.proto.beaconMsgPunchCommand target).map (Datagram.mk remote)).toList ++
        ((addrMessage cfg.proto.beaconMsgPunchCommand remote).map (Datagram.mk target)).toList := by
  rw [Server.coordinatePunch_state]
  unfold Server.coordinatePunch at h ⊢
  dsimp only at h ⊢
  split at h
  · rename_i target requester htarget hrequester
    -- the requester is stored, so the upsert was not refused
    have hstored : (s.nodes.upsert r remote now maxBeaconNodes).nodes.snapshot r =
        some remote := by
      cases hcap : (s.nodes.upsert r remote now maxBeaconNodes).atCapacity with
      | false =>
        rw [NodeMap.snapshot_eq_endpoint, NodeMap.endpoint_upsert, if_pos ⟨rfl, hcap⟩]
        rfl
      | true =>
        obtain ⟨hsame, hnone⟩ := NodeMap.upsert_atCapacity hcap
        rw [hsame, NodeMap.snapshot, hnone] at hrequester
        cases hrequester
    rw [hstored] at hrequester
    cases hrequester
    refine ⟨target, htarget, ?_⟩
    -- anything was sent at all, so the socket is bound
    have hconn : s.conn.isSome = true := by
      by_contra hconn
      exact h (by rw [sendPunchCommand_of_unbound (by simpa using hconn),
        sendPunchCommand_of_unbound (by simpa using hconn)]; rfl)
    simp only [Server.sendPunchCommand, Server.writeToUDP, htarget, hstored, Option.getD_some]
    cases addrMessage cfg.proto.beaconMsgPunchCommand target <;>
      cases addrMessage cfg.proto.beaconMsgPunchCommand remote <;> simp [hconn]
  · exact absurd rfl h

end

/-- **Punch authorization.** If a PunchRequest `(r, t)` from `remote`, arriving after any run,
    makes the beacon emit anything, then it carries an unexpired grant for `(r, t)` that
    verifies under the earliest key offered for `t` since `t` was last found unregistered;
    and, if both addresses can be encoded, exactly two commands are emitted, one to `remote`
    with the stored address of `t` and one to that address with `remote`. -/
theorem punch_authorized (cfg : Config) (peers : List Text) (es : List Event) (env : Env)
    (now : Int) (data body : Bytes) (remote : UDPAddr) (bridgePeer : UInt32)
    (htoken : cfg.requirePunchToken = true) (hauth : cfg.authKeyLookup = none)
    (hreq : cfg.proto.decode data = .punchRequest body)
    (hemit : ((runFrom cfg peers es).handlePacketFrom cfg env now data remote bridgePeer).2 ≠ []) :
    (∃ key, EarliestKey
        (keyEvents cfg (BigEndian.uint32 (body.drop 4)) (newWithPeers cfg peers) es) key ∧
      punchGrantTrailerSize ≤ (body.drop 8).length ∧
      unixSecond now ≤ grantExpiry (body.drop 8) ∧
      cfg.verify key (punchGrantPreimage (BigEndian.uint32 body) (BigEndian.uint32 (body.drop 4))
        (grantExpiry (body.drop 8))) (grantSignature (body.drop 8)) = true) ∧
    ∃ target,
      ((runFrom cfg peers es).handlePacketFrom cfg env now data remote
        bridgePeer).1.nodes.snapshot (BigEndian.uint32 (body.drop 4)) = some target ∧
      ∀ toRequester toTarget,
        addrMessage cfg.proto.beaconMsgPunchCommand target = some toRequester →
        addrMessage cfg.proto.beaconMsgPunchCommand remote = some toTarget →
        ((runFrom cfg peers es).handlePacketFrom cfg env now data remote bridgePeer).2 =
          [⟨remote, toRequester⟩, ⟨target, toTarget⟩] := by
  simp only [Server.handlePacketFrom, hreq] at hemit ⊢
  -- a request that is not admitted is not answered
  obtain ⟨rl, last, ⟨-, h⟩ | ⟨hadm, h⟩⟩ := Server.handlePunchRequest_cases cfg env now
    (runFrom cfg peers es) body remote
  · rw [h] at hemit
    exact absurd rfl hemit
  · rw [h] at hemit ⊢
    constructor
    · simp only [Server.punchAdmitted, htoken, Bool.and_eq_true, Bool.not_true,
        Bool.false_or] at hadm
      obtain ⟨key, hkey, hgrant⟩ := verifyPunchGrant_sound hauth hadm.2
      refine ⟨key, ?_, hgrant⟩
      -- the stored key is the one the history determines
      rw [lookup_nodePubKeys_run] at hkey
      have hist := foldl_keyAfter
        (keyEvents cfg (BigEndian.uint32 (body.drop 4)) (newWithPeers cfg peers) es)
      rw [hkey] at hist
      exact hist
    · obtain ⟨target, htarget, hout⟩ := coordinatePunch_commands hemit
      refine ⟨target, htarget, ?_⟩
      intro toRequester toTarget hr ht
      rw [hout, hr, ht]
      rfl

/-! ### An authorized punch -/

/-- A beacon that requires grants; of a signature only the length is looked at. -/
def tokenConfig : Config :=
  { sampleConfig with
    requirePunchToken := true
    verify := fun _ _ sig => sig.length = 64 }

/-- The socket is bound and node 9 registers from 10.0.0.9 with a key. -/
def targetRegistered : List Event :=
  [⟨1000 * second, .listen (sampleAddr 0 0 0 0 9001)⟩,
    sampleDatagram (1000 * second) (sampleAddr 10 0 0 9 4000)
      ([0x01, 0, 0, 0, 9] ++ List.replicate 32 5)]

/-- Node 7 asks to punch to node 9 with a grant that never expires. -/
def grantedRequest : Bytes :=
  [0x03, 0, 0, 0, 7, 0, 0, 0, 9] ++ ([0x7f] ++ List.replicate 7 0) ++ List.replicate 64 1

theorem grantedRequest_authorized :
    ((runFrom tokenConfig [] targetRegistered).handlePacketFrom tokenConfig sampleEnv
      (1001 * second) grantedRequest (sampleAddr 10 0 0 7 4000) 0).2 ≠ [] ∧
    (∃ key, EarliestKey (keyEvents tokenConfig 9 (newWithPeers tokenConfig []) targetRegistered)
      key) ∧
    ((runFrom tokenConfig [] targetRegistered).handlePacketFrom tokenConfig sampleEnv
      (1001 * second) grantedRequest (sampleAddr 10 0 0 7 4000) 0).2 =
      [⟨sampleAddr 10 0 0 7 4000, [0x04, 4, 10, 0, 0, 9, 0x0f, 0xa0]⟩,
        ⟨sampleAddr 10 0 0 9 4000, [0x04, 4, 10, 0, 0, 7, 0x0f, 0xa0]⟩] := by
  have hemit : ((runFrom tokenConfig [] targetRegistered).handlePacketFrom tokenConfig sampleEnv
      (1001 * second) grantedRequest (sampleAddr 10 0 0 7 4000) 0).2 ≠ [] := by decide
  obtain ⟨⟨key, hkey, -⟩, target, htarget, hout⟩ :=
    punch_authorized tokenConfig [] targetRegistered sampleEnv (1001 * second) grantedRequest
      (grantedRequest.drop 1) (sampleAddr 10 0 0 7 4000) 0 rfl rfl rfl hemit
  have haddr : ((runFrom tokenConfig [] targetRegistered).handlePacketFrom tokenConfig sampleEnv
      (1001 * second) grantedRequest (sampleAddr 10 0 0 7 4000) 0).1.nodes.snapshot
      (BigEndian.uint32 ((grantedRequest.drop 1).drop 4)) =
      some (sampleAddr 10 0 0 9 4000) := by decide
  cases htarget.symm.trans haddr
  exact ⟨hemit, ⟨key, hkey⟩, hout _ _ rfl rfl⟩

end PilotBeacon

import PilotBeacon.Server.Discover

/-!
# Hole Punching (`handlePunchRequest`, `verifyPunchGrant`, `SendPunchCommand`)

A PunchRequest `[requester(4)][target(4)][grant…]` makes the beacon tell each of the two
nodes the other one's endpoint. It passes, in this order, a length check, the breaker, the
rate-limit guard (skipped for whitelisted sources) and, with `requirePunchToken` on, the
check of the target's signed grant `[expiry(8)][signature(64)]`. The requester's endpoint
is then stored without asking the per-node Discover limiter.
-/

namespace PilotBeacon

open PilotBeacon.Lib PilotBeacon.Net

/-! ## Grants -/

/-- `int64(x)` of an unsigned 64-bit value. -/
def signed64 (n : Nat) : Int := if n < 2 ^ 63 then n else (n : Int) - 2 ^ 64

/-- `%d` of a signed value. -/
def decimalInt : Int → Text
  | .ofNat n => Nat.toDigits 10 n
  | .negSucc n => '-' :: Nat.toDigits 10 (n + 1)

/-- The bytes of an ASCII text. -/
def asciiBytes (t : Text) : Bytes := t.map fun c => UInt8.ofNat c.toNat

/-- `fmt.Sprintf("punch-grant:%d:%d:%d", requesterID, targetID, expiry)`. -/
def punchGrantPreimage (requesterID targetID : UInt32) (expiry : Int) : Bytes :=
  asciiBytes ("punch-grant:".toList ++ Nat.toDigits 10 requesterID.toNat ++
    ':' :: Nat.toDigits 10 targetID.toNat ++ ':' :: decimalInt expiry)

/-- The expiry field of a grant trailer. -/
def grantExpiry (trailer : Bytes) : Int :=
  signed64 (BigEndian.uint (trailer.take punchGrantExpirySize))

/-- The signature field of a grant trailer. -/
def grantSignature (trailer : Bytes) : Bytes :=
  (trailer.drop punchGrantExpirySize).take signatureSize

/-- `time.Time.Unix`. -/
def unixSecond (now : Int) : Int := now / second

namespace Server

/-- The key a grant for `targetID` is checked against. -/
def targetPubKey (cfg : Config) (s : Server) (targetID : UInt32) : Option Bytes :=
  match cfg.authKeyLookup with
  | some lookup => lookup targetID
  | none => s.nodePubKeys.lookup targetID

def verifyPunchGrant (cfg : Config) (now : Int) (s : Server) (trailer : Bytes)
    (requesterID targetID : UInt32) : Bool :=
  if trailer.length < punchGrantTrailerSize then false
  else if unixSecond now > grantExpiry trailer then false
  else
    match s.targetPubKey cfg targetID with
    | none => false
    | some pub =>
      -- `ed25519.Verify` panics on a key of another length
      if pub.length ≠ publicKeySize then false
      else cfg.verify pub (punchGrantPreimage requesterID targetID (grantExpiry trailer))
        (grantSignature trailer)

/-! ## The handler -/

/-- The rate-limit guard: `none` if it drops the request. -/
def punchGuard (cfg : Config) (now : Int) (s : Server) (sourceKey : Text) : Option Server :=
  -- whitelisted sources skip both caps
  if cfg.punchWhitelistAll then some s
  else if sourceKey ∈ cfg.punchWhitelist then some s
  -- the global cap, then the one per source; neither records a refusal
  else if now - s.lastPunchTime < second / maxPunchPerSecond then none
  else
    let (allowed, rl) := s.punchRL.allow sourceKey now punchPerSourceInterval
    if allowed then some { s with punchRL := rl, lastPunchTime := now } else none

/-- `SendPunchCommand`: tell a registered node to send to `target`. -/
def sendPunchCommand (cfg : Config) (s : Server) (nodeID : UInt32) (target : UDPAddr) :
    List Datagram :=
  match s.nodes.snapshot nodeID, addrMessage cfg.proto.beaconMsgPunchCommand target with
  | some nodeAddr, some msg => s.writeToUDP nodeAddr msg
  | _, _ => []

/-- The part of the handler behind all gates. -/
def coordinatePunch (cfg : Config) (now : Int) (s : Server) (requesterID targetID : UInt32)
    (remote : UDPAddr) : Server × List Datagram :=
  let s := { s with nodes := (s.nodes.upsert requesterID remote now maxBeaconNodes).nodes }
  match s.nodes.snapshot targetID, s.nodes.snapshot requesterID with
  | some targetAddr, some requesterAddr =>
    -- each address is read again right before it is sent
    let targetAddr := (s.nodes.snapshot targetID).getD targetAddr
    let requesterAddr := (s.nodes.snapshot requesterID).getD requesterAddr
    (s, s.sendPunchCommand cfg requesterID targetAddr ++
      s.sendPunchCommand cfg targetID requesterAddr)
  | _, _ => (s, [])

def handlePunchRequest (cfg : Config) (env : Env) (now : Int) (s : Server) (data : Bytes)
    (remote : UDPAddr) : Server × List Datagram :=
  if data.length < 8 then (s, [])
  else if env.breakerOpen .punch then (s, [])
  else
    match s.punchGuard cfg now remote.ip.string with
    | none => (s, [])
    | some s =>
      let requesterID := BigEndian.uint32 data
      let targetID := BigEndian.uint32 (data.drop 4)
      if cfg.requirePunchToken &&
          !s.verifyPunchGrant cfg now (data.drop 8) requesterID targetID then (s, [])
      -- without requirePunchToken anybody may name any requester
      else s.coordinatePunch cfg now requesterID targetID remote

/-! ## What the handler does -/

section

variable {cfg : Config} {env : Env} {now : Int} {s : Server} {data : Bytes} {remote : UDPAddr}

/-- The request passes the length check, the breaker, the guard and the grant check. -/
def punchAdmitted (cfg : Config) (env : Env) (now : Int) (s : Server) (data : Bytes)
    (remote : UDPAddr) : Bool :=
  !decide (data.length < 8) && !env.breakerOpen .punch &&
    (s.punchGuard cfg now remote.ip.string).isSome &&
    (!cfg.requirePunchToken ||
      s.verifyPunchGrant cfg now (data.drop 8) (BigEndian.uint32 data)
        (BigEndian.uint32 (data.drop 4)))

/-- The guard touches its own two fields only. -/
theorem punchGuard_frame {key : Text} {s' : Server} (h : s.punchGuard cfg now key = some s') :
    ∃ rl last, s' = { s with punchRL := rl, lastPunchTime := last } := by
  unfold punchGuard at h
  split_ifs at h
  · cases h; exact ⟨_, _, rfl⟩
  · cases h; exact ⟨_, _, rfl⟩
  · dsimp only at h
    split_ifs at h
    cases h; exact ⟨_, _, rfl⟩

/-- The guard goes by its own two fields only. -/
theorem punchGuard_congr {s' : Server} (hrl : s'.punchRL = s.punchRL)
    (hlast : s'.lastPunchTime = s.lastPunchTime) (key : Text) :
    (s'.punchGuard cfg now key).map (fun t => (t.punchRL, t.lastPunchTime)) =
      (s.punchGuard cfg now key).map fun t => (t.punchRL, t.lastPunchTime) := by
  unfold punchGuard
  dsimp only
  rw [hrl, hlast]
  split_ifs <;> simp [hrl, hlast]

theorem verifyPunchGrant_of_frame (rl : PunchRateLimiter) (last : Int) (trailer : Bytes)
    (r t : UInt32) :
    verifyPunchGrant cfg now { s with punchRL := rl, lastPunchTime := last } trailer r t =
      s.verifyPunchGrant cfg now trailer r t := rfl

/-- Coordinating writes the requester's entry and nothing else. -/
theorem coordinatePunch_state (r t : UInt32) :
    (s.coordinatePunch cfg now r t remote).1 =
      { s with nodes := (s.nodes.upsert r remote now maxBeaconNodes).nodes } := by
  unfold coordinatePunch
  dsimp only
  split <;> rfl

/-- **What a PunchRequest does**: nothing and no answer, or only the guard's bookkeeping and
    no answer, or, exactly if it is admitted, the coordination. -/
theorem handlePunchRequest_cases (cfg : Config) (env : Env) (now : Int) (s : Server) (data : Bytes)
    (remote : UDPAddr) :
    ∃ rl last,
      (punchAdmitted cfg env now s data remote = false ∧
        handlePunchRequest cfg env now s data remote =
          ({ s with punchRL := rl, lastPunchTime := last }, [])) ∨
      (punchAdmitted cfg env now s data remote = true ∧
        handlePunchRequest cfg env now s data remote =
          coordinatePunch cfg now { s with punchRL := rl, lastPunchTime := last }
            (BigEndian.uint32 data) (BigEndian.uint32 (data.drop 4)) remote) := by
  unfold handlePunchRequest punchAdmitted
  split_ifs with hlen hopen
  · exact ⟨s.punchRL, s.lastPunchTime, Or.inl ⟨by simp [hlen], rfl⟩⟩
  · exact ⟨s.punchRL, s.lastPunchTime, Or.inl ⟨by simp [hopen], rfl⟩⟩
  · split
    · rename_i hguard
      exact ⟨s.punchRL, s.lastPunchTime, Or.inl ⟨by simp [hguard], rfl⟩⟩
    · rename_i s' hguard
      -- past the guard; the grant is checked against the same keys as before it
      obtain ⟨rl, last, rfl⟩ := punchGuard_frame hguard
      refine ⟨rl, last, ?_⟩
      dsimp only
      rw [verifyPunchGrant_of_frame (s := s) rl last]
      split_ifs with hgrant
      · left
        simp only [Bool.and_eq_true, Bool.not_eq_true'] at hgrant
        simp [hgrant.1, hgrant.2]
      · right
        simp only [Bool.and_eq_true, Bool.not_eq_true', not_and, Bool.not_eq_false] at hgrant
        refine ⟨?_, rfl⟩
        have hgrant' : (!cfg.requirePunchToken || s.verifyPunchGrant cfg now (data.drop 8)
            (BigEndian.uint32 data) (BigEndian.uint32 (data.drop 4))) = true := by
          cases hreq : cfg.requirePunchToken with
          | false => rfl
          | true => exact hgrant hreq
        simp [hlen, hopen, hguard, hgrant']

/-- Only the guard's fields and the node table can change, the table exactly if the request
    is admitted. -/
theorem handlePunchRequest_state (cfg : Config) (env : Env) (now : Int) (s : Server) (data : Bytes)
    (remote : UDPAddr) :
    ∃ rl last, (handlePunchRequest cfg env now s data remote).1 =
      { s with
        punchRL := rl
        lastPunchTime := last
        nodes := if punchAdmitted cfg env now s data remote then
          (s.nodes.upsert (BigEndian.uint32 data) remote now maxBeaconNodes).nodes
          else s.nodes } := by
  obtain ⟨rl, last, ⟨hadm, h⟩ | ⟨hadm, h⟩⟩ :=
    handlePunchRequest_cases cfg env now s data remote
  · exact ⟨rl, last, by rw [h, hadm]; rfl⟩
  · exact ⟨rl, last, by rw [h, hadm, coordinatePunch_state]; rfl⟩

/-- What a PunchRequest does to the guard: nothing, or what the guard does when it is passed. -/
theorem handlePunchRequest_guard (cfg : Config) (env : Env) (now : Int) (s : Server) (data : Bytes)
    (remote : UDPAddr) :
    ((handlePunchRequest cfg env now s data remote).1.punchRL,
        (handlePunchRequest cfg env now s data remote).1.lastPunchTime) =
      if data.length < 8 ∨ env.breakerOpen .punch = true then (s.punchRL, s.lastPunchTime)
      else ((s.punchGuard cfg now remote.ip.string).map fun t =>
        (t.punchRL, t.lastPunchTime)).getD (s.punchRL, s.lastPunchTime) := by
  unfold handlePunchRequest
  by_cases hlen : data.length < 8
  · simp [hlen]
  · by_cases hopen : env.breakerOpen .punch = true
    · simp [hopen]
    · rw [if_neg hlen, if_neg hopen, if_neg (by tauto)]
      cases s.punchGuard cfg now remote.ip.string with
      | none => rfl
      | some t =>
        dsimp only
        split_ifs
        · rfl
        · rw [coordinatePunch_state]
          rfl

end

end Server

end PilotBeacon

import PilotBeacon.Server.State
import PilotBeacon.Net.AddrText

/-!
# Registry Exchange (`registryDiscover`)

One TCP exchange: register this beacon, read the answer, ask for the list of beacons, read
it, and make the beacons listed the peer set. Messages are JSON objects behind a 4-byte
length. The bytes the registry sends, where the stream ends and which writes succeed are the
environment's (`Exchange`).
-/

namespace PilotBeacon

open PilotBeacon.Lib PilotBeacon.Net

/-- The environment of one exchange: the local IP of the TCP connection if it was made, how
    many of its writes succeed, and what can be read from it before end or deadline. -/
structure Exchange where
  dialed : Option Text
  writes : Nat
  inbound : Bytes

/-- An object with string keys. -/
abbrev JsonObject := List (Text × Json)

/-- `recvMsg`: one length-prefixed object and the unread rest. -/
def recvMsg (cfg : Config) (inbound : Bytes) : Option (JsonObject × Bytes) :=
  if inbound.length < 4 then none
  else
    let length := (BigEndian.uint32 inbound).toNat
    -- more than 1 MiB is not read
    if 2 ^ 20 < length then none
    else
      let body := inbound.drop 4
      if body.length < length then none
      else (cfg.unmarshal (body.take length)).map fun resp => (resp, body.drop length)

/-- A message as it is sent: its length and its body. -/
def framed (body : Bytes) : Bytes := BigEndian.putUint32 (UInt32.ofNat body.length) ++ body

/-- **What is received is one whole message.** The stream that ends earlier at any byte, a
    longer announcement and a body that is no object are errors. -/
theorem recvMsg_eq_some_iff {cfg : Config} {inbound rest : Bytes} {resp : JsonObject} :
    recvMsg cfg inbound = some (resp, rest) ↔
      ∃ body, inbound = framed body ++ rest ∧ body.length ≤ 2 ^ 20 ∧
        cfg.unmarshal body = some resp := by
  unfold recvMsg
  constructor
  · intro h
    by_cases h4 : inbound.length < 4
    · rw [if_pos h4] at h
      cases h
    rw [if_neg h4] at h
    dsimp only at h
    set length := (BigEndian.uint32 inbound).toNat with hlength
    by_cases hlarge : 2 ^ 20 < length
    · rw [if_pos hlarge] at h
      cases h
    rw [if_neg hlarge] at h
    by_cases hcut : (inbound.drop 4).length < length
    · rw [if_pos hcut] at h
      cases h
    rw [if_neg hcut, Option.map_eq_some_iff] at h
    obtain ⟨resp', hresp, heq⟩ := h
    obtain ⟨rfl, rfl⟩ := Prod.mk.inj heq
    have hbody : ((inbound.drop 4).take length).length = length :=
      List.length_take_of_le (by omega)
    refine ⟨_, ?_, by omega, hresp⟩
    rw [framed, hbody, hlength, UInt32.ofNat_toNat, BigEndian.putUint32_uint32 (by omega),
      List.append_assoc, List.take_append_drop, List.take_append_drop]
  · rintro ⟨body, rfl, hlen, hresp⟩
    have htake : (UInt32.ofNat body.length).toNat = body.length :=
      UInt32.toNat_ofNat_of_lt' (Nat.lt_of_le_of_lt hlen (by decide))
    rw [framed, List.append_assoc, BigEndian.uint32_putUint32_append,
      BigEndian.drop_putUint32_append, htake, if_neg (by simp), if_neg (by omega)]
    dsimp only
    rw [if_neg (by simp), List.take_left, List.drop_left, hresp]
    rfl

/-- The peer a list entry describes: not this beacon, and with an address that resolves. -/
def peerOfEntry (cfg : Config) : Json → Option UDPAddr
  | .obj bm =>
    -- an id that is missing or not a number counts as 0, an address likewise as empty
    let bid := match bm.lookup "id".toList with
      | some (.num v) => v
      | _ => 0
    let baddr := match bm.lookup "addr".toList with
      | some (.str t) => t
      | _ => []
    if bid = cfg.beaconID ∨ baddr = [] then none else cfg.resolve baddr
  | _ => none

/-- The peers of a list response. -/
def peersOfResponse (cfg : Config) (listResp : JsonObject) : List UDPAddr :=
  match listResp.lookup "beacons".toList with
  | some (.arr beacons) => beacons.filterMap (peerOfEntry cfg)
  | _ => []

/-- The address to register: the configured one, else the bound one with an unspecified host
    replaced by the local end of the TCP connection. -/
def registeredAddr (cfg : Config) (conn : UDPAddr) (tcpIP : Text) : Text :=
  if cfg.advertiseAddr ≠ [] then cfg.advertiseAddr
  else
    let host :=
      if conn.host = "::".toList ∨ conn.host = "0.0.0.0".toList ∨ conn.host = [] then tcpIP
      else conn.host
    UDPAddr.joinHostPort host (IP.decimal conn.port.toNat)

def registerMsg (cfg : Config) (myAddr : Text) : JsonObject :=
  [("type".toList, .str "beacon_register".toList), ("beacon_id".toList, .num cfg.beaconID),
    ("addr".toList, .str myAddr)] ++
    if cfg.registryAdminToken ≠ [] then [("admin_token".toList, .str cfg.registryAdminToken)]
    else []

def listMsg : JsonObject := [("type".toList, .str "beacon_list".toList)]

/-- The list response, if the exchange gets that far. Each message takes two writes. -/
def listResponse (cfg : Config) (x : Exchange) : Option JsonObject :=
  if x.writes < 2 then none
  else
    match recvMsg cfg x.inbound with
    | none => none
    | some (_, rest) =>
      if x.writes < 4 then none
      else (recvMsg cfg rest).map Prod.fst

theorem listResponse_eq_some_iff_recvMsg {cfg : Config} {x : Exchange} {listResp : JsonObject} :
    listResponse cfg x = some listResp ↔
      4 ≤ x.writes ∧ ∃ regResp rest, recvMsg cfg x.inbound = some (regResp, rest) ∧
        ∃ rest', recvMsg cfg rest = some (listResp, rest') := by
  unfold listResponse
  constructor
  · intro h
    by_cases h2 : x.writes < 2
    · rw [if_pos h2] at h
      cases h
    rw [if_neg h2] at h
    cases hreg : recvMsg cfg x.inbound with
    | none =>
      rw [hreg] at h
      cases h
    | some got =>
      rw [hreg] at h
      dsimp only at h
      by_cases h4 : x.writes < 4
      · rw [if_pos h4] at h
        cases h
      rw [if_neg h4, Option.map_eq_some_iff] at h
      obtain ⟨⟨listResp', rest'⟩, hlist, rfl⟩ := h
      exact ⟨by omega, got.1, got.2, rfl, rest', hlist⟩
  · rintro ⟨h4, regResp, rest, hreg, rest', hlist⟩
    rw [if_neg (by omega), hreg]
    dsimp only
    rw [if_neg (by omega), hlist]
    rfl

/-- **What a list response takes**: all four writes, and two whole messages on the stream. -/
theorem listResponse_eq_some_iff {cfg : Config} {x : Exchange} {listResp : JsonObject} :
    listResponse cfg x = some listResp ↔
      4 ≤ x.writes ∧ ∃ regBody listBody rest, ∃ regResp : JsonObject,
        x.inbound = framed regBody ++ (framed listBody ++ rest) ∧
        regBody.length ≤ 2 ^ 20 ∧ cfg.unmarshal regBody = some regResp ∧
        listBody.length ≤ 2 ^ 20 ∧ cfg.unmarshal listBody = some listResp := by
  rw [listResponse_eq_some_iff_recvMsg]
  constructor
  · rintro ⟨h4, regResp, rest, hreg, rest', hlist⟩
    obtain ⟨regBody, hin, hreglen, hregobj⟩ := recvMsg_eq_some_iff.mp hreg
    obtain ⟨listBody, rfl, hlistlen, hlistobj⟩ := recvMsg_eq_some_iff.mp hlist
    exact ⟨h4, regBody, listBody, rest', regResp, hin, hreglen, hregobj, hlistlen, hlistobj⟩
  · rintro ⟨h4, regBody, listBody, rest, regResp, hin, hreglen, hregobj, hlistlen, hlistobj⟩
    exact ⟨h4, regResp, framed listBody ++ rest,
      recvMsg_eq_some_iff.mpr ⟨regBody, hin, hreglen, hregobj⟩, rest,
      recvMsg_eq_some_iff.mpr ⟨listBody, rfl, hlistlen, hlistobj⟩⟩

namespace Server

/-- Whether the exchange is made at all: a registry and an id of its own are configured, the
    registry answers the dial, and there is an address to register (asking the unbound socket
    for one panics). -/
def exchangeOpen (cfg : Config) (s : Server) (x : Exchange) : Bool :=
  !decide (cfg.registryAddr = [] ∨ cfg.beaconID = 0) && x.dialed.isSome &&
    (s.conn.isSome || !decide (cfg.advertiseAddr = []))

/-- The state after the exchange. -/
def registryDiscover (cfg : Config) (s : Server) (x : Exchange) : Server :=
  if !s.exchangeOpen cfg x then s
  else
    match listResponse cfg x with
    -- whatever fails on the way, the old peers stay
    | none => s
    | some listResp => { s with peers := peersOfResponse cfg listResp }

/-- The messages sent in the exchange. -/
def registryRequests (cfg : Config) (s : Server) (x : Exchange) : List JsonObject :=
  if !s.exchangeOpen cfg x || x.writes < 2 then []
  else
    let myAddr := registeredAddr cfg (s.conn.getD ⟨⟨[], Or.inl rfl⟩, 0, []⟩) (x.dialed.getD [])
    registerMsg cfg myAddr ::
      if (recvMsg cfg x.inbound).isSome ∧ 4 ≤ x.writes then [listMsg] else []

/-- The exchange touches the peer set only. -/
theorem registryDiscover_frame (cfg : Config) (s : Server) (x : Exchange) :
    ∃ peers, registryDiscover cfg s x = { s with peers := peers } := by
  unfold registryDiscover
  split_ifs
  · exact ⟨_, rfl⟩
  · split <;> exact ⟨_, rfl⟩

end Server

end PilotBeacon

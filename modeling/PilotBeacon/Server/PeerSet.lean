import PilotBeacon.Server.Beacon

/-!
# The Peer Set

The peers a beacon is configured with and those the registry lists are meant to be peers
together. A completed registry exchange, however, makes the list it got the peer set.

- `peers_run`: the peer set after every run
- `NamesPeer`: an entry of a list stands for a peer
- `peersKept_iff`: the configured peers survive a run exactly if every list received on the
  way has an entry for each
- `emptyList`: an exchange that forgets them
- `failedExchange_keeps_iff`: which exchanges without a list of beacons leave the peer set alone
-/

namespace PilotBeacon

open PilotBeacon.Lib PilotBeacon.Net

/-! ## Configured and learned peers -/

/-- The peers given at construction, those that resolve. -/
def configuredPeers (cfg : Config) (peers : List Text) : List UDPAddr := peers.filterMap cfg.resolve

/-- The list response an event brings, if it is a registry exchange that gets that far. -/
def completedList (cfg : Config) (s : Server) (e : Event) : List JsonObject :=
  match e.act with
  | .registry x => if s.exchangeOpen cfg x then (listResponse cfg x).toList else []
  | _ => []

/-- The list responses received along a run. -/
def completedLists (cfg : Config) (peers : List Text) (es : List Event) : List JsonObject :=
  Transition.observe (next cfg) (completedList cfg) (newWithPeers cfg peers) es

/-- What the registry said last. -/
def learnedPeers (cfg : Config) (peers : List Text) (es : List Event) : List UDPAddr :=
  ((completedLists cfg peers es).getLast?.map (peersOfResponse cfg)).getD []

/-- After the run `es` the peer set is the configured peers plus the learned ones: a sync from
    the IP of a configured peer passes the strict gate, and gossip is sent to it. -/
structure PeersKept (cfg : Config) (peers : List Text) (es : List Event) : Prop where
  union : ∀ p, p ∈ (runFrom cfg peers es).peers ↔
    p ∈ configuredPeers cfg peers ∨ p ∈ learnedPeers cfg peers es
  known : ∀ p ∈ configuredPeers cfg peers, ∀ remote : UDPAddr, p.ip.equal remote.ip = true →
    (runFrom cfg peers es).isKnownGossipPeer remote = true
  sent : (runFrom cfg peers es).conn.isSome = true → ∀ p ∈ configuredPeers cfg peers, ∀ order,
    ∃ dg ∈ (runFrom cfg peers es).sendGossip cfg order, dg.dst = p

/-- A list response has an entry for `p`: its id is not this beacon's, and its address resolves
    to `p`. -/
def NamesPeer (cfg : Config) (resp : JsonObject) (p : UDPAddr) : Prop :=
  ∃ beacons bm addr, resp.lookup "beacons".toList = some (.arr beacons) ∧ .obj bm ∈ beacons ∧
    bm.lookup "id".toList ≠ some (.num cfg.beaconID) ∧
    bm.lookup "addr".toList = some (.str addr) ∧ addr ≠ [] ∧ cfg.resolve addr = some p

/-! ## The entries of a list -/

section

variable {cfg : Config}

/-- A missing id counts as 0, which is no beacon's that asks the registry. -/
theorem peerOfEntry_eq_some_iff (hid : cfg.beaconID ≠ 0) {bm : JsonObject} {p : UDPAddr} :
    peerOfEntry cfg (.obj bm) = some p ↔
      bm.lookup "id".toList ≠ some (.num cfg.beaconID) ∧
      ∃ addr, bm.lookup "addr".toList = some (.str addr) ∧ addr ≠ [] ∧
        cfg.resolve addr = some p := by
  unfold peerOfEntry
  dsimp only
  generalize bm.lookup "id".toList = id
  generalize bm.lookup "addr".toList = addr
  -- only a string is an address, and only a number an id
  rcases addr with _ | (_ | _ | _ | addr | _ | _) <;> try simp
  rcases id with _ | (_ | _ | v | _ | _ | _) <;> simp [hid.symm, and_assoc]

theorem mem_peersOfResponse_iff (hid : cfg.beaconID ≠ 0) {resp : JsonObject} {p : UDPAddr} :
    p ∈ peersOfResponse cfg resp ↔ NamesPeer cfg resp p := by
  unfold peersOfResponse NamesPeer
  split
  · rename_i beacons hbeacons
    simp only [List.mem_filterMap]
    constructor
    · rintro ⟨entry, hentry, hp⟩
      cases entry with
      | obj bm =>
        obtain ⟨hother, addr, haddr⟩ := (peerOfEntry_eq_some_iff hid).mp hp
        exact ⟨beacons, bm, addr, hbeacons, hentry, hother, haddr⟩
      | _ => cases hp
    · rintro ⟨beacons', bm, addr, hbeacons', hentry, hother, haddr⟩
      rw [hbeacons] at hbeacons'
      cases hbeacons'
      exact ⟨.obj bm, hentry, (peerOfEntry_eq_some_iff hid).mpr ⟨hother, addr, haddr⟩⟩
  · rename_i hnone
    constructor
    · exact fun h => absurd h List.not_mem_nil
    · rintro ⟨beacons, -, -, hbeacons, -⟩
      exact absurd hbeacons (hnone beacons)

end

/-! ## The peer set along a run -/

section

variable (cfg : Config) (peers : List Text)

/-- Only a completed exchange touches the peer set, and it overwrites it. -/
theorem next_peers (s : Server) (e : Event) : (next cfg s e).peers =
    ((completedList cfg s e).getLast?.map (peersOfResponse cfg)).getD s.peers := by
  have hpeers : (next cfg s e).peers = (next cfg s e).tables.peers := rfl
  rw [hpeers, next_tables, completedList]
  cases e.act with
  | registry x =>
    dsimp only
    rw [Server.registryDiscover]
    cases s.exchangeOpen cfg x with
    | false => rfl
    | true => cases listResponse cfg x <;> rfl
  | packet env data remote bridgePeer =>
    dsimp only
    cases cfg.proto.decode data <;> rfl
  | reap =>
    obtain ⟨_, _, _, _, h⟩ := Server.reapStaleNodes_frame s e.now
    dsimp only
    rw [h]
    rfl
  | _ => rfl

/-- The peer set is what the registry said last, and until it says something what was
    configured. -/
theorem peers_run (es : List Event) : (runFrom cfg peers es).peers =
    ((completedLists cfg peers es).getLast?.map (peersOfResponse cfg)).getD
      (configuredPeers cfg peers) := by
  apply Transition.run_induction (next cfg) (fun es s => s.peers =
    ((completedLists cfg peers es).getLast?.map (peersOfResponse cfg)).getD
      (configuredPeers cfg peers))
  · rfl
  · intro es e ih
    -- the last list of the longer run is the one of this event, if it brings one
    rw [next_peers, completedLists, Transition.observe_concat, List.getLast?_append, ih]
    cases (completedList cfg _ e).getLast? <;> rfl

/-- An event brings one list at most. -/
theorem completedList_of_mem {s : Server} {e : Event} {resp : JsonObject}
    (h : resp ∈ completedList cfg s e) : completedList cfg s e = [resp] := by
  revert h
  unfold completedList
  cases e.act with
  | registry x =>
    dsimp only
    cases s.exchangeOpen cfg x with
    | false => exact fun h => by cases h
    | true =>
      rw [if_pos rfl, Option.mem_toList]
      intro h
      rw [h]
      rfl
  | _ => exact fun h => by cases h

/-- Only a beacon with an id asks the registry. -/
theorem beaconID_of_mem_completedLists {es : List Event} {resp : JsonObject}
    (h : resp ∈ completedLists cfg peers es) : cfg.beaconID ≠ 0 := by
  obtain ⟨pre, e, post, -, hmem⟩ := (Transition.mem_observe _ _ _ _ _).mp h
  rintro hid
  unfold completedList at hmem
  split at hmem
  · simp [Server.exchangeOpen, hid] at hmem
  · cases hmem

theorem peersKept_iff_subset (es : List Event) : PeersKept cfg peers es ↔
    configuredPeers cfg peers ⊆ (runFrom cfg peers es).peers := by
  constructor
  · intro h p hp
    exact (h.union p).mpr (Or.inl hp)
  · intro h
    refine ⟨?_, ?_, ?_⟩
    · intro p
      constructor
      · intro hp
        -- before the first list everything is configured, afterwards everything is learned
        rw [peers_run] at hp
        rw [learnedPeers]
        cases hlast : (completedLists cfg peers es).getLast? with
        | none => exact Or.inl (by rwa [hlast] at hp)
        | some resp => exact Or.inr (by rwa [hlast] at hp)
      · rintro (hp | hp)
        · exact h hp
        · rw [peers_run]
          rw [learnedPeers] at hp
          cases hlast : (completedLists cfg peers es).getLast? with
          | none =>
            rw [hlast] at hp
            cases hp
          | some resp => rwa [hlast] at hp
    · intro p hp remote hip
      exact List.any_eq_true.mpr ⟨p, h hp, hip⟩
    · intro hconn p hp order
      exact ⟨_, Server.mem_sendGossip.mpr ⟨hconn, p, h hp, rfl⟩, rfl⟩

/-- **When configured peers are kept**: in every state of a run, exactly if every list the
    registry sends along the run has an entry for each of them. -/
theorem peersKept_iff (es : List Event) :
    (∀ es', es' <+: es → PeersKept cfg peers es') ↔
      ∀ resp ∈ completedLists cfg peers es, ∀ p ∈ configuredPeers cfg peers,
        NamesPeer cfg resp p := by
  simp only [peersKept_iff_subset, peers_run]
  constructor
  · intro h resp hresp p hp
    rw [← mem_peersOfResponse_iff (beaconID_of_mem_completedLists cfg peers hresp)]
    -- look at the state right after the exchange that brought `resp`
    obtain ⟨pre, e, post, rfl, hmem⟩ := (Transition.mem_observe _ _ _ _ _).mp hresp
    have hlast : (completedLists cfg peers (pre ++ [e])).getLast? = some resp := by
      rw [completedLists, Transition.observe_concat, completedList_of_mem cfg hmem,
        List.getLast?_concat]
    have hsub := h (pre ++ [e]) ⟨post, by simp⟩
    rw [hlast] at hsub
    exact hsub hp
  · intro h es' hes'
    -- the peers of a prefix are those of its last list
    cases hlast : (completedLists cfg peers es').getLast? with
    | none => exact fun p hp => hp
    | some resp =>
      have hresp : resp ∈ completedLists cfg peers es := by
        obtain ⟨post, rfl⟩ := hes'
        rw [completedLists, Transition.observe_append]
        exact List.mem_append_left _ (List.mem_of_getLast? hlast)
      intro p hp
      exact (mem_peersOfResponse_iff (beaconID_of_mem_completedLists cfg peers hresp)).mpr
        (h resp hresp p hp)

end

/-! ## A list without the configured peer -/

/-- The registry is configured; the only JSON that can be read is `{}`. -/
def emptyListConfig : Config :=
  { sampleConfig with
    beaconID := 1
    strictGossip := true
    registryAddr := "registry:9000".toList
    resolve := fun _ => some (sampleAddr 10 0 0 2 9001)
    unmarshal := fun body => if body = [0x7b, 0x7d] then some [] else none }

/-- The socket is bound, and the registry answers both requests with `{}`. -/
def emptyList : List Event :=
  [⟨0, .listen (sampleAddr 0 0 0 0 9001)⟩,
    ⟨1, .registry ⟨some "10.0.0.1".toList, 4, [0, 0, 0, 2, 0x7b, 0x7d, 0, 0, 0, 2, 0x7b, 0x7d]⟩⟩]

/-- **The exchange forgets the configured peer.** -/
theorem emptyList_not_kept : ¬ PeersKept emptyListConfig ["10.0.0.2:9001".toList] emptyList := by
  rw [peersKept_iff_subset]
  decide

/-! ## Exchanges without a list of beacons -/

/-- The exchange ends in a list response that contains an array of beacons. -/
def ListsBeacons (cfg : Config) (s : Server) (x : Exchange) : Prop :=
  s.exchangeOpen cfg x = true ∧ ∃ listResp beacons, listResponse cfg x = some listResp ∧
    listResp.lookup "beacons".toList = some (.arr beacons)

/-- The registry answers both requests, and each answer, whatever it says, is taken for an
    object. -/
def BothAnswered (cfg : Config) (s : Server) (x : Exchange) : Prop :=
  s.exchangeOpen cfg x = true ∧ 4 ≤ x.writes ∧
    ∃ regBody listBody rest, x.inbound = framed regBody ++ (framed listBody ++ rest) ∧
      regBody.length ≤ 2 ^ 20 ∧ (cfg.unmarshal regBody).isSome = true ∧
      listBody.length ≤ 2 ^ 20 ∧ (cfg.unmarshal listBody).isSome = true

section

variable {cfg : Config} {s : Server} {x : Exchange}

theorem bothAnswered_iff : BothAnswered cfg s x ↔
    s.exchangeOpen cfg x = true ∧ ∃ listResp, listResponse cfg x = some listResp := by
  simp only [BothAnswered, listResponse_eq_some_iff, Option.isSome_iff_exists]
  constructor
  · rintro ⟨hopen, h4, regBody, listBody, rest, hin, hreg, ⟨regResp, hregobj⟩, hlist, listResp,
      hlistobj⟩
    exact ⟨hopen, listResp, h4, regBody, listBody, rest, regResp, hin, hreg, hregobj, hlist,
      hlistobj⟩
  · rintro ⟨hopen, listResp, h4, regBody, listBody, rest, regResp, hin, hreg, hregobj, hlist,
      hlistobj⟩
    exact ⟨hopen, h4, regBody, listBody, rest, hin, hreg, ⟨regResp, hregobj⟩, hlist, listResp,
      hlistobj⟩

/-- Every failure on the way returns before the assignment. -/
theorem registryDiscover_unanswered (h : ¬ BothAnswered cfg s x) :
    s.registryDiscover cfg x = s := by
  rw [bothAnswered_iff, not_and, not_exists] at h
  unfold Server.registryDiscover
  cases hopen : s.exchangeOpen cfg x with
  | false => rfl
  | true =>
    rw [Bool.not_true, if_neg Bool.false_ne_true]
    cases hlist : listResponse cfg x with
    | none => rfl
    | some listResp => exact absurd hlist (h hopen listResp)

/-- An answer without the array is assigned as the empty list. -/
theorem peers_registryDiscover_of_not_listsBeacons (hans : BothAnswered cfg s x)
    (hfail : ¬ ListsBeacons cfg s x) : (s.registryDiscover cfg x).peers = [] := by
  obtain ⟨hopen, listResp, hlist⟩ := bothAnswered_iff.mp hans
  have hnone : peersOfResponse cfg listResp = [] := by
    unfold peersOfResponse
    split
    · rename_i beacons hlookup
      exact absurd ⟨hopen, listResp, beacons, hlist, hlookup⟩ hfail
    · rfl
  unfold Server.registryDiscover
  rw [hopen, Bool.not_true, if_neg Bool.false_ne_true, hlist]
  exact hnone

/-- **When a failed exchange leaves the peer set alone**: of the exchanges that do not end in
    a list response with an array of beacons, exactly those in which one of the two answers
    is missing, and those that find no peers. -/
theorem failedExchange_keeps_iff (hfail : ¬ ListsBeacons cfg s x) :
    (s.registryDiscover cfg x).peers = s.peers ↔ ¬ BothAnswered cfg s x ∨ s.peers = [] := by
  by_cases hans : BothAnswered cfg s x
  · rw [peers_registryDiscover_of_not_listsBeacons hans hfail]
    constructor
    · intro h
      exact Or.inr h.symm
    · rintro (hnot | hnil)
      · exact absurd hans hnot
      · exact hnil.symm
  · rw [registryDiscover_unanswered hans]
    exact ⟨fun _ => Or.inl hans, fun _ => rfl⟩

end

/-- What the registry says when it refuses a request. -/
def refusal : Bytes := asciiBytes "\x7b\"error\":\"unauthorized\"\x7d".toList

/-- The registry is configured, and its refusals can be read. -/
def refusalConfig : Config :=
  { emptyListConfig with
    unmarshal := fun body =>
      if body = refusal then some [("error".toList, .str "unauthorized".toList)] else none }

/-- A beacon with one configured peer, its socket bound. -/
def refusedBeacon : Server :=
  runFrom refusalConfig ["10.0.0.2:9001".toList] [⟨0, .listen (sampleAddr 0 0 0 0 9001)⟩]

/-- The registry refuses both requests. -/
def refusedExchange : Exchange := ⟨some "10.0.0.1".toList, 4, framed refusal ++ framed refusal⟩

theorem refusedExchange_listResponse : listResponse refusalConfig refusedExchange =
    some [("error".toList, .str "unauthorized".toList)] := by
  have hobj : refusalConfig.unmarshal refusal =
      some [("error".toList, .str "unauthorized".toList)] := by
    dsimp only [refusalConfig]
    rw [if_pos rfl]
  have hlen : refusal.length ≤ 2 ^ 20 := by decide
  exact listResponse_eq_some_iff.mpr
    ⟨Nat.le_refl 4, refusal, refusal, [], _, rfl, hlen, hobj, hlen, hobj⟩

theorem not_listsBeacons_refusedExchange :
    ¬ ListsBeacons refusalConfig refusedBeacon refusedExchange := by
  rintro ⟨-, listResp, beacons, hlist, hlookup⟩
  rw [refusedExchange_listResponse, Option.some_inj] at hlist
  subst hlist
  have hnone : List.lookup "beacons".toList
      [("error".toList, Json.str "unauthorized".toList)] = none := rfl
  rw [hnone] at hlookup
  cases hlookup

/-- **A refusal empties the peer set.** -/
theorem refusedExchange_clears :
    ¬ ListsBeacons refusalConfig refusedBeacon refusedExchange ∧
      refusedBeacon.peers = [sampleAddr 10 0 0 2 9001] ∧
      (refusedBeacon.registryDiscover refusalConfig refusedExchange).peers = [] :=
  ⟨not_listsBeacons_refusedExchange, by decide +kernel, by decide +kernel⟩

/-- The stream ends within the second answer. -/
def cutExchange : Exchange := ⟨some "10.0.0.1".toList, 4, framed refusal ++ [0, 0, 0]⟩

theorem cutExchange_keeps :
    (refusedBeacon.registryDiscover refusalConfig cutExchange).peers = refusedBeacon.peers := by
  have hnone : listResponse refusalConfig cutExchange = none := by decide +kernel
  refine (failedExchange_keeps_iff ?_).mpr (Or.inl ?_)
  · rintro ⟨-, _, _, hlist, -⟩
    rw [hnone] at hlist
    cases hlist
  · rw [bothAnswered_iff]
    rintro ⟨-, _, hlist⟩
    rw [hnone] at hlist
    cases hlist

end PilotBeacon

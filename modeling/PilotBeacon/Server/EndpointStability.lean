import PilotBeacon.Server.DiscoverLimiter

/-!
# Stability of a Node's Endpoint

The node table is written by Discovers, which the per-node limiter spaces by
`discoverMinInterval`, and by PunchRequests, which it does not.

- `nodeWrites`: the writes to one node's entry along a run, and which handler made them
- `discover_writes_spaced`: two Discover writes are at least `discoverMinInterval` apart
- `endpointStable_iff`: an endpoint is stable for `discoverMinInterval` after each write
  exactly if no PunchRequest write is that close to a write from another IP
-/

namespace PilotBeacon

open PilotBeacon.Lib PilotBeacon.Net

/-! ## Writes to a node's entry -/

/-- A write to a node's entry: whether by a PunchRequest, from where and when. -/
structure NodeWrite where
  punch : Bool
  addr : UDPAddr
  time : Int
deriving DecidableEq

/-- The write an event makes to the entry of `id`, if it makes one. -/
def nodeWrite (cfg : Config) (id : UInt32) (s : Server) (e : Event) : List NodeWrite :=
  match e.act with
  | .packet env data remote _ =>
    match cfg.proto.decode data with
    | .discover body _ =>
      if Server.discoverAdmitted env body = true ∧ BigEndian.uint32 body = id ∧
          (s.discoverRL.allow id e.now discoverMinInterval).1 = true ∧
          (s.nodes.upsert id remote e.now maxBeaconNodes).atCapacity = false then
        [⟨false, remote, e.now⟩]
      else []
    | .punchRequest body =>
      if Server.punchAdmitted cfg env e.now s body remote = true ∧ BigEndian.uint32 body = id ∧
          (s.nodes.upsert id remote e.now maxBeaconNodes).atCapacity = false then
        [⟨true, remote, e.now⟩]
      else []
    | _ => []
  | _ => []

/-- The writes to the entry of `id` along a run. -/
def nodeWrites (cfg : Config) (id : UInt32) (s : Server) (es : List Event) : List NodeWrite :=
  Transition.observe (next cfg) (nodeWrite cfg id) s es

section

variable {cfg : Config} {id : UInt32} {s : Server} {e : Event}

/-- An event makes no write or one, at its own time. -/
theorem nodeWrite_cases (cfg : Config) (id : UInt32) (s : Server) (e : Event) :
    nodeWrite cfg id s e = [] ∨ ∃ w, nodeWrite cfg id s e = [w] ∧ w.time = e.now := by
  unfold nodeWrite
  split
  · split
    · split_ifs
      · exact Or.inr ⟨_, rfl, rfl⟩
      · exact Or.inl rfl
    · split_ifs
      · exact Or.inr ⟨_, rfl, rfl⟩
      · exact Or.inl rfl
    · exact Or.inl rfl
  · exact Or.inl rfl

/-- The entry of `id` after a handler that stores an address under `id'`, if it does. -/
theorem endpoint_stored (m : NodeMap) (stores punch : Bool) (id id' : UInt32) (addr : UDPAddr)
    (now : Int) :
    NodeMap.endpoint (if stores then (m.upsert id' addr now maxBeaconNodes).nodes else m) id =
      match (if stores = true ∧ id' = id ∧
          (m.upsert id addr now maxBeaconNodes).atCapacity = false then
        [NodeWrite.mk punch addr now] else []) with
      | w :: _ => some (w.addr, w.time)
      | [] => m.endpoint id := by
  cases stores with
  | false => rfl
  | true =>
    rw [if_pos rfl, NodeMap.endpoint_upsert]
    by_cases hid : id' = id
    · subst hid
      simp only [true_and]
      split_ifs <;> rfl
    · rw [if_neg (fun h => hid h.1), if_neg (fun h => hid h.2.1)]

/-- **The entry of a node is its last write**, until the reaper removes it. -/
theorem endpoint_next (cfg : Config) (id : UInt32) (s : Server) (e : Event) :
    (next cfg s e).nodes.endpoint id =
      match nodeWrite cfg id s e with
      | w :: _ => some (w.addr, w.time)
      | [] =>
        match e.act with
        | .reap => (s.nodes.endpoint id).filter (fun p => !decide (p.2 < e.now - beaconNodeTTL))
        | _ => s.nodes.endpoint id := by
  have htables : (next cfg s e).nodes = (next cfg s e).tables.nodes := rfl
  rw [htables, next_tables]
  unfold nodeWrite
  cases e.act with
  | packet env data remote bridgePeer =>
    dsimp only
    cases cfg.proto.decode data with
    | discover body wantDest =>
      dsimp only
      -- the limiter is asked about the id of the Discover, so about `id` if that is the one
      have hstores : (Server.discoverAdmitted env body = true ∧ BigEndian.uint32 body = id ∧
          (s.discoverRL.allow id e.now discoverMinInterval).1 = true ∧
          (s.nodes.upsert id remote e.now maxBeaconNodes).atCapacity = false) ↔
          ((Server.discoverAdmitted env body &&
            (s.discoverRL.allow (BigEndian.uint32 body) e.now discoverMinInterval).1) = true ∧
          BigEndian.uint32 body = id ∧
          (s.nodes.upsert id remote e.now maxBeaconNodes).atCapacity = false) := by
        rw [Bool.and_eq_true]
        constructor
        · rintro ⟨hadm, rfl, hallow, hroom⟩
          exact ⟨⟨hadm, hallow⟩, rfl, hroom⟩
        · rintro ⟨⟨hadm, hallow⟩, rfl, hroom⟩
          exact ⟨hadm, rfl, hallow, hroom⟩
      simp only [hstores]
      exact endpoint_stored _ _ _ _ _ _ _
    | punchRequest body => exact endpoint_stored _ _ _ _ _ _ _
    | _ => rfl
  | reap =>
    exact (congrArg (fun m => NodeMap.endpoint m id) Server.reapStaleNodes_nodes).trans
      (NodeMap.endpoint_reapStale _ _ _)
  | notify nodeID =>
    -- a notify changes no endpoint
    obtain ⟨nodes, h, hend⟩ := Server.notifyNode_frame s nodeID e.now
    simp only [h]
    exact hend id
  | _ => rfl

/-- A Discover write leaves its time in the limiter, which held no time less than
    `discoverMinInterval` ago. -/
theorem discover_write_limiter {w : NodeWrite} (hw : nodeWrite cfg id s e = [w])
    (hd : w.punch = false) :
    (next cfg s e).discoverRL.lookup id = some e.now ∧
      ∀ t, s.discoverRL.lookup id = some t → t + discoverMinInterval ≤ e.now := by
  obtain ⟨now, act⟩ := e
  unfold nodeWrite at hw
  cases act with
  | packet env data remote bridgePeer =>
    dsimp only at hw
    cases hdec : cfg.proto.decode data with
    | discover body wantDest =>
      simp only [hdec] at hw
      split_ifs at hw with h
      obtain ⟨hadm, rfl, hallow, -⟩ := h
      exact limiter_of_allowed (discoverFor_packet remote bridgePeer hdec hadm)
        (Server.discoverAdmitted_iff.mp hadm).2 hallow
    | punchRequest body =>
      simp only [hdec] at hw
      split_ifs at hw
      cases hw
      cases hd
    | _ => simp [hdec] at hw
  | _ => simp at hw

end

/-! ## Runs -/

/-- What the writes `ws` made by the events `es` say about the state they led to. -/
structure WritesRecorded (id : UInt32) (es : List Event) (s : Server) (ws : List NodeWrite) :
    Prop where
  entry : ∀ p, s.nodes.endpoint id = some p → ∃ w, ws.getLast? = some w ∧ p = (w.addr, w.time)
  limiter : ∀ w ∈ ws, w.punch = false →
    (∃ t, s.discoverRL.lookup id = some t ∧ w.time ≤ t) ∨
      ∀ now, (∀ e ∈ es, e.now ≤ now) → w.time + discoverMinInterval ≤ now
  spaced : ws.Pairwise fun w w' =>
    w.punch = false → w'.punch = false → w.time + discoverMinInterval ≤ w'.time

variable {cfg : Config} {id : UInt32} {peers : List Text} {es : List Event}

/-- What the limiter remembers of an earlier Discover write is only overtaken. -/
theorem WritesRecorded.limiter_step {s : Server} {ws : List NodeWrite} (e : Event)
    (h : WritesRecorded id es s ws) : ∀ w ∈ ws, w.punch = false →
      (∃ t, (next cfg s e).discoverRL.lookup id = some t ∧ w.time ≤ t) ∨
        ∀ now, (∀ d ∈ es ++ [e], d.now ≤ now) → w.time + discoverMinInterval ≤ now := by
  intro w hw hd
  rcases h.limiter w hw hd with ⟨t, ht, hle⟩ | hold
  · rcases limiter_next cfg e ht with ⟨t', ht', hle'⟩ | hold
    · exact Or.inl ⟨t', ht', hle.trans hle'⟩
    · right
      intro now hnow
      have := hnow e (by simp)
      omega
  · exact Or.inr fun now hnow => hold now fun d hd => hnow d (by simp [hd])

/-- One more event. -/
theorem WritesRecorded.step {s : Server} {ws : List NodeWrite} {e : Event}
    (h : WritesRecorded id es s ws) (hclock : ∀ d ∈ es, d.now ≤ e.now) :
    WritesRecorded id (es ++ [e]) (next cfg s e) (ws ++ nodeWrite cfg id s e) := by
  have hent := endpoint_next cfg id s e
  -- an event that does not write, and one that does
  rcases nodeWrite_cases cfg id s e with hnone | ⟨w, hw, htime⟩
  · rw [hnone, List.append_nil]
    refine ⟨?_, h.limiter_step e, h.spaced⟩
    intro p hp
    rw [hent, hnone] at hp
    apply h.entry p
    revert hp
    dsimp only
    split
    · intro hp
      exact (Option.filter_eq_some_iff.mp hp).1
    · exact fun hp => hp
  · rw [hw]
    refine ⟨?_, ?_, ?_⟩
    · intro p hp
      rw [hent, hw] at hp
      exact ⟨w, by simp, (Option.some.inj hp).symm⟩
    · intro w' hw' hd
      rcases List.mem_append.mp hw' with hw' | hw'
      · exact h.limiter_step e w' hw' hd
      · rw [List.mem_singleton] at hw'
        subst hw'
        exact Or.inl ⟨e.now, (discover_write_limiter hw hd).1, le_of_eq htime⟩
    · rw [List.pairwise_append]
      refine ⟨h.spaced, List.pairwise_singleton _ _, ?_⟩
      intro w' hw' w'' hw'' hd' hd
      rw [List.mem_singleton] at hw''
      subst hw''
      rw [htime]
      rcases h.limiter w' hw' hd' with ⟨t, ht, hle⟩ | hold
      · have := (discover_write_limiter hw hd).2 t ht
        omega
      · exact hold e.now hclock

/-- After every run, the entry of a node is the last write to it and its Discover writes are
    spaced. -/
theorem writesRecorded (cfg : Config) (id : UInt32) (peers : List Text)
    (hclock : ClockMonotone es) :
    WritesRecorded id es (runFrom cfg peers es)
      (nodeWrites cfg id (newWithPeers cfg peers) es) := by
  apply Transition.run_induction (next cfg) (s := newWithPeers cfg peers)
    (fun es s => ClockMonotone es →
      WritesRecorded id es s (nodeWrites cfg id (newWithPeers cfg peers) es)) ?_ ?_ es hclock
  · intro _
    refine ⟨?_, ?_, List.Pairwise.nil⟩
    · intro p hp
      simp [newWithPeers, NodeMap.endpoint] at hp
    · intro w hw
      simp [nodeWrites] at hw
  · intro es e ih hclock
    obtain ⟨hes, -, hle⟩ := clockMonotone_append.mp hclock
    rw [nodeWrites, Transition.observe_concat]
    exact (ih hes).step fun d hd => hle d hd e (by simp)

/-! ## Stability -/

/-- Once the entry of `id` has been written as `a` at time `t`, no event before
    `t + discoverMinInterval` changes it to another IP. -/
def EndpointStable (cfg : Config) (peers : List Text) (id : UInt32) (es : List Event) : Prop :=
  ∀ pre mid post, es = pre ++ mid ++ post →
    ∀ a t, (runFrom cfg peers pre).nodes.endpoint id = some (a, t) →
      (∀ e ∈ mid, e.now < t + discoverMinInterval) →
      ∀ a' t', (runFrom cfg peers (pre ++ mid)).nodes.endpoint id = some (a', t') →
        a'.ip.equal a.ip = true

/-- No PunchRequest writes the entry within `discoverMinInterval` of a write from another IP,
    before or after it. -/
def PunchWritesApart (ws : List NodeWrite) : Prop :=
  ws.Pairwise fun w w' => (w.punch = true ∨ w'.punch = true) →
    w'.time < w.time + discoverMinInterval → w'.addr.ip.equal w.addr.ip = true

instance (ws : List NodeWrite) : Decidable (PunchWritesApart ws) :=
  inferInstanceAs (Decidable (ws.Pairwise _))

theorem nodeWrites_append (s : Server) (es es' : List Event) :
    nodeWrites cfg id s (es ++ es') =
      nodeWrites cfg id s es ++ nodeWrites cfg id (Transition.run (next cfg) s es) es' :=
  Transition.observe_append _ _ _ _ _

/-- A write along a run is made at the time of one of its events. -/
theorem time_of_mem_nodeWrites {s : Server} {w : NodeWrite} (hw : w ∈ nodeWrites cfg id s es) :
    ∃ e ∈ es, w.time = e.now := by
  obtain ⟨pre, e, post, rfl, hmem⟩ := (Transition.mem_observe _ _ _ _ _).mp hw
  refine ⟨e, by simp, ?_⟩
  rcases nodeWrite_cases cfg id (Transition.run (next cfg) s pre) e with h | ⟨w', h, htime⟩
  · rw [h] at hmem
    cases hmem
  · rw [h, List.mem_singleton] at hmem
    rw [hmem, htime]

/-- The entry right after a write. -/
theorem endpoint_after_write (peers : List Text) {pre : List Event} {e : Event} {w : NodeWrite}
    (hw : w ∈ nodeWrite cfg id (runFrom cfg peers pre) e) :
    (runFrom cfg peers (pre ++ [e])).nodes.endpoint id = some (w.addr, w.time) ∧
      w.time = e.now := by
  rcases nodeWrite_cases cfg id (runFrom cfg peers pre) e with h | ⟨w', h, htime⟩
  · rw [h] at hw
    cases hw
  · rw [h, List.mem_singleton] at hw
    subst hw
    refine ⟨?_, htime⟩
    rw [runFrom, Transition.run_concat]
    exact (endpoint_next cfg id (runFrom cfg peers pre) e).trans (by rw [h])

/-- Stability keeps any two close writes to one IP. -/
theorem punchWritesApart_of_stable (hclock : ClockMonotone es)
    (h : EndpointStable cfg peers id es) :
    PunchWritesApart (nodeWrites cfg id (newWithPeers cfg peers) es) := by
  apply Transition.pairwise_observe
  · intro s e
    rcases nodeWrite_cases cfg id s e with h | ⟨w, h, -⟩ <;> simp [h]
  · rintro pre e mid e' post rfl w hw w' hw' - hclose
    obtain ⟨hafter, htime⟩ := endpoint_after_write peers hw
    obtain ⟨hafter', htime'⟩ := endpoint_after_write peers hw'
    refine h (pre ++ [e]) (mid ++ [e']) post (by simp) w.addr w.time hafter ?_ w'.addr w'.time
      (by simpa using hafter')
    -- the clock does not go back, so all events up to the second write are close
    intro d hd
    have hsplit : ClockMonotone ((pre ++ e :: mid) ++ e' :: post) := by simpa using hclock
    have hle : d.now ≤ e'.now := by
      rcases List.mem_append.mp hd with hd | hd
      · exact (clockMonotone_append.mp hsplit).2.2 d (by simp [hd]) e' (by simp)
      · rw [List.mem_singleton.mp hd]
    omega

/-- **Stability is a matter of the punch writes.** In a run whose clock does not go back, the
    endpoint of a node is stable exactly if no PunchRequest writes it within
    `discoverMinInterval` of a write from another IP. -/
theorem endpointStable_iff (cfg : Config) (peers : List Text) (id : UInt32) (es : List Event)
    (hclock : ClockMonotone es) :
    EndpointStable cfg peers id es ↔
      PunchWritesApart (nodeWrites cfg id (newWithPeers cfg peers) es) := by
  refine ⟨punchWritesApart_of_stable hclock, ?_⟩
  rintro hapart pre mid post rfl a t hbefore hclose a' t' hafter
  obtain ⟨hstart, -, -⟩ := clockMonotone_append.mp hclock
  obtain ⟨hpre, -, -⟩ := clockMonotone_append.mp hstart
  -- the entries before and after are the last writes before and after
  obtain ⟨w, hw, hwa⟩ := (writesRecorded cfg id peers hpre).entry _ hbefore
  have hrec := writesRecorded cfg id peers hstart
  obtain ⟨w', hw', hwa'⟩ := hrec.entry _ hafter
  obtain ⟨rfl, rfl⟩ := Prod.mk.inj hwa
  obtain ⟨rfl, rfl⟩ := Prod.mk.inj hwa'
  rw [nodeWrites_append, nodeWrites_append] at hapart
  rw [nodeWrites_append] at hw' hrec
  set ws := nodeWrites cfg id (newWithPeers cfg peers) pre
  set ws' := nodeWrites cfg id (Transition.run (next cfg) (newWithPeers cfg peers) pre) mid
    with hws'
  by_cases hnone : ws' = []
  · -- the entry was not written in between
    rw [hnone, List.append_nil, hw] at hw'
    cases hw'
    exact IP.equal_refl _
  · rw [List.getLast?_append_of_ne_nil _ hnone] at hw'
    have hmem : w ∈ ws := List.mem_of_getLast? hw
    have hmem' : w' ∈ ws' := List.mem_of_getLast? hw'
    obtain ⟨e, he, htime⟩ := time_of_mem_nodeWrites (hws' ▸ hmem')
    have hlt := hclose e he
    rw [← htime] at hlt
    by_cases hpunch : w.punch = true ∨ w'.punch = true
    · exact ((List.pairwise_append.mp (List.pairwise_append.mp hapart).1).2.2 w hmem w' hmem')
        hpunch hlt
    · -- two Discover writes cannot be this close
      simp only [not_or, Bool.not_eq_true] at hpunch
      have := (List.pairwise_append.mp hrec.spaced).2.2 w hmem w' hmem' hpunch.1 hpunch.2
      omega

/-- A Discover of node 7 from 10.0.0.1, one from 10.0.0.2 a second later, a PunchRequest of
    node 7 after a port change, and one from 10.0.0.2 when the entry is old. -/
def spacedWrites : List Event :=
  [sampleDatagram (1000 * second) (sampleAddr 10 0 0 1 4000) [0x01, 0, 0, 0, 7],
    sampleDatagram (1001 * second) (sampleAddr 10 0 0 2 4000) [0x01, 0, 0, 0, 7],
    sampleDatagram (1002 * second) (sampleAddr 10 0 0 1 4001) [0x03, 0, 0, 0, 7, 0, 0, 0, 9],
    sampleDatagram (1032 * second) (sampleAddr 10 0 0 2 4000) [0x03, 0, 0, 0, 7, 0, 0, 0, 9]]

theorem spacedWrites_stable :
    ClockMonotone spacedWrites ∧ EndpointStable sampleConfig [] 7 spacedWrites :=
  ⟨by decide, (endpointStable_iff sampleConfig [] 7 spacedWrites (by decide)).mpr (by decide)⟩

/-- A Discover of node 7 from 10.0.0.1 and, a second later, a PunchRequest from 10.0.0.2 that
    names node 7 as its requester. -/
def punchTakeover : List Event :=
  [sampleDatagram (1000 * second) (sampleAddr 10 0 0 1 4000) [0x01, 0, 0, 0, 7],
    sampleDatagram (1001 * second) (sampleAddr 10 0 0 2 4000) [0x03, 0, 0, 0, 7, 0, 0, 0, 9]]

/-- **A PunchRequest takes over a fresh endpoint**: no grant is required by default, and the
    per-node limiter is not asked. -/
theorem punchTakeover_not_stable :
    ClockMonotone punchTakeover ∧ ¬ EndpointStable sampleConfig [] 7 punchTakeover := by
  refine ⟨by decide, ?_⟩
  intro h
  have hip := h (punchTakeover.take 1) (punchTakeover.drop 1) [] rfl
    (sampleAddr 10 0 0 1 4000) (1000 * second) (by decide) (by decide)
    (sampleAddr 10 0 0 2 4000) (1001 * second) (by decide)
  exact absurd hip (by decide)

end PilotBeacon
